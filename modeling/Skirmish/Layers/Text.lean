import Skirmish.Layers
import Skirmish.Text.Hex
import Skirmish.Text.Blank

/-!
# Layers as text

A set of layers is written as the names of its layers with bars between them. Bits without a name
are written as one hexadecimal number at the end. When read, names and numbers may come in any order
and number, with blanks around them; the empty text is no layer.
-/

namespace Skirmish.Layers

/-- The layers that have a name, in order. -/
def named : List (String × Layers) := [("GROUND", .ground), ("AIR", .air)]

/-- The bits of a set that no name stands for. -/
def unnamed (l : Layers) : Layers :=
  ⟨l.bits &&& ~~~(named.foldl (fun acc n => acc ∪ n.2) Layers.empty).bits⟩

/-- **A set of layers as text.** -/
def toText (l : Layers) : String :=
  let names := (named.filter fun n => l.includes n.2).map Prod.fst
  let rest := l.unnamed
  let number :=
    if rest = .empty then [] else ["0x" ++ String.ofList (Nat.toDigits 16 rest.bits.toNat)]
  " | ".intercalate (names ++ number)

/-- The set that one part of a text stands for: a hexadecimal number of eight bits, which may have a
plus sign behind its mark, or a name. -/
def ofPart? (part : List Char) : Option Layers :=
  match part with
  | '0' :: 'x' :: digits =>
    let digits := if digits.head? = some '+' then digits.tail else digits
    match Text.hexNumber? digits with
    | some n => if n < 256 then some ⟨BitVec.ofNat 8 n⟩ else none
    | none => none
  | name => (named.find? fun n => n.1.toList == name).map Prod.snd

/-- **The set of layers that a text stands for.** -/
def ofText? (s : String) : Option Layers :=
  if (Text.trim s.toList).isEmpty then some .empty
  else (s.splitOn "|").foldlM
    (fun acc part => (ofPart? (Text.trim part.toList)).map (acc ∪ ·)) Layers.empty

end Skirmish.Layers
