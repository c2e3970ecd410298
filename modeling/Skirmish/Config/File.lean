import Skirmish.Config
import Skirmish.Toml.Document

/-!
# Settings in a file

The settings are kept as a TOML document. Every setting may be left out, and keys that stand for no
setting are passed over; a setting of another type, or out of range, spoils the document.
-/

namespace Skirmish

/-- Why settings cannot be read. -/
inductive ConfigError where
  /-- There is no such file. -/
  | absent
  /-- The file does not hold text. -/
  | notText
  /-- The text is no document, or a setting in it has a wrong value. -/
  | malformed
  deriving DecidableEq, Repr, Inhabited

/-- The report of an error with the file at a path. -/
def ConfigError.message (path : String) : ConfigError → String
  | absent => "Failed to read file " ++ path ++ ": No such file or directory (os error 2)"
  | notText => "Failed to read file " ++ path ++ ": stream did not contain valid UTF-8"
  | malformed => "Failed to parse config TOML"

namespace Config

/-- The greatest depth that can be set: it has 64 bits. -/
def deepest : Int := 18446744073709551615

/-- The settings that a document holds. -/
def ofEntries? (entries : Toml.Entries) : Option Config :=
  match entries.lookup "max_cascade_depth" with
  | none => some .usual
  | some (.integer n) => if 0 ≤ n ∧ n ≤ deepest then some ⟨n.toNat⟩ else none
  | some _ => none

/-- **Reads settings from text.** -/
def ofText (text : String) : Except ConfigError Config :=
  match (Toml.read? text).bind ofEntries? with
  | some c => .ok c
  | none => .error .malformed

/-- **Reads settings from the content of a file**, when there is one. -/
def ofFile (content : Option ByteArray) : Except ConfigError Config :=
  match content with
  | none => .error .absent
  | some bytes =>
    match String.fromUTF8? bytes with
    | none => .error .notText
    | some text => ofText text

end Config

end Skirmish
