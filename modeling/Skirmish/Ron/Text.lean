import Skirmish.Ron
import Skirmish.Text.Quoted

/-!
# The text of a document

Sequences stand in square brackets and maps in braces, with one item on each line, four blanks for
each level, and a comma after every item, the last included. Nothing follows the last bracket.

A document whose parts lie too deep inside each other is not written. How deep is too deep depends on
what stands before: every sequence and every map makes room for one level more behind it.
-/

namespace Skirmish.Ron

/-- The blanks before an item of a level. -/
def indent (level : Nat) : String := String.ofList (List.replicate (4 * level) ' ')

mutual

/-- A document whose first line starts on a level. -/
def pretty (level : Nat) : Ron → String
  | .text value => Text.quoted value
  | .integer value => toString value
  | .flag value => if value then "true" else "false"
  | .seq [] => "[]"
  | .seq items => "[\n" ++ prettyItems (level + 1) items ++ indent level ++ "]"
  | .map [] => "\x7b\x7d"
  | .map entries => "\x7b\n" ++ prettyEntries (level + 1) entries ++ indent level ++ "\x7d"

/-- The lines of the items of a sequence. -/
def prettyItems (level : Nat) : List Ron → String
  | [] => ""
  | item :: items => indent level ++ item.pretty level ++ ",\n" ++ prettyItems level items

/-- The lines of the entries of a map. -/
def prettyEntries (level : Nat) : List (String × Ron) → String
  | [] => ""
  | (key, value) :: entries =>
    indent level ++ Text.quoted key ++ ": " ++ value.pretty level ++ ",\n" ++
      prettyEntries level entries

end

/-- **The text of a document.** -/
def toText (r : Ron) : String := r.pretty 0

/-! ## Room for the parts -/

/-- The levels that there are below the top at first. -/
def firstRoom : Nat := 128

mutual

/-- The levels that there are behind a document, below the place where it stands, when there were
`room` before it; nothing when a part of it finds no level to stand on. -/
def roomAfter? (room : Nat) : Ron → Option Nat
  | .text _ | .integer _ | .flag _ => some room
  | .seq items => (roomAfterItems? room items).map (· + 1)
  | .map entries => (roomAfterEntries? room entries).map (· + 1)

/-- The levels that there are behind the items of a sequence. Each stands one level below it. -/
def roomAfterItems? : (room : Nat) → List Ron → Option Nat
  | room, [] => some room
  | 0, _ :: _ => none
  | room + 1, item :: items => do
    let left ← item.roomAfter? room
    roomAfterItems? (left + 1) items

/-- The levels that there are behind the entries of a map. Each value stands one level below it. -/
def roomAfterEntries? : (room : Nat) → List (String × Ron) → Option Nat
  | room, [] => some room
  | 0, _ :: _ => none
  | room + 1, (_, value) :: entries => do
    let left ← value.roomAfter? room
    roomAfterEntries? (left + 1) entries

end

/-- Whether a document can be written: each part of it finds a level to stand on. -/
def isWritable (r : Ron) : Bool := (r.roomAfter? firstRoom).isSome

end Skirmish.Ron
