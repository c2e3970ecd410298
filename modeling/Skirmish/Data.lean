/-!
# Data form

Values of the library have a form in which they can be exchanged: nothing, flags, numbers, texts,
lists and records. This module has the form itself and the three ways in which types use it.

- A **structure** is a record of its fields. Fields that it does not know are passed over. A list of
  the values in the order of the fields will also do, if it is not too long.
- An **alternative** without content is its name, or a record that gives nothing under its name.
- An **alternative** with content is a record that gives the content under its name.
-/

namespace Skirmish

/-- A value in data form. -/
inductive Data where
  | nothing
  | flag (value : Bool)
  | integer (value : Int)
  /-- A number that is not written as an integer. -/
  | fraction
  | text (value : String)
  | list (items : List Data)
  | record (entries : List (String × Data))
  deriving Repr, Inhabited

/-- A type whose values have a data form. -/
class HasData (α : Type) where
  /-- Reads a value from its form. -/
  read? : Data → Option α
  /-- The form of a value. -/
  write : α → Data

export HasData (read?)

namespace Data

/-- An integer between two bounds, both included. -/
def integer? (least greatest : Int) : Data → Option Int
  | integer n => if least ≤ n ∧ n ≤ greatest then some n else none
  | _ => none

/-- A natural number below a power of two. -/
def natural? (bits : Nat) (d : Data) : Option Nat :=
  (d.integer? 0 (Nat.pow 2 bits - 1 : Nat)).map Int.toNat

/-- The values of a structure's fields, in the order of their names. -/
def fields? (names : List String) : Data → Option (List (Option Data))
  | record entries => some (names.map fun n => entries.lookup n)
  | list items =>
    if items.length ≤ names.length then some ((List.range names.length).map (items[·]?)) else none
  | _ => none

/-- The name of an alternative, and the content that is given under it. -/
def alternative? : Data → Option (String × Option Data)
  | text name => some (name, none)
  | record [(name, content)] => some (name, some content)
  | _ => none

/-- The content of an alternative that has the form of a record. -/
def content? (names : List String) : Data → Option (List (Option Data))
  | record entries => fields? names (record entries)
  | _ => none

/-- An alternative with content. -/
def under (name : String) (content : Data) : Data := record [(name, content)]

/-- The value of a field, which must be there. -/
def required {α : Type} [HasData α] (d : Option Data) : Option α := d.bind read?

/-- The value of a field, or another value when it is absent. -/
def optional {α : Type} [HasData α] (other : α) : Option Data → Option α
  | none => some other
  | some d => read? d

/-- Reads one of several alternatives without content. -/
def oneOf? {α : Type} (names : List (String × α)) (d : Data) : Option α :=
  match d.alternative? with
  | some (name, none) => names.lookup name
  | some (name, some nothing) => names.lookup name
  | _ => none

/-- The form of one of several alternatives without content. -/
def ofOne {α : Type} [DecidableEq α] (names : List (String × α)) (a : α) : Data :=
  text ((names.find? fun n => decide (n.2 = a)).map Prod.fst |>.getD "")

instance : HasData Bool where
  read?
    | flag b => some b
    | _ => none
  write := flag

instance : HasData String where
  read?
    | text s => some s
    | _ => none
  write := text

instance : HasData Int32 where
  read? d := (d.integer? (-2147483648) 2147483647).map Int32.ofInt
  write n := integer n.toInt

instance {α : Type} [HasData α] : HasData (List α) where
  read?
    | list items => items.mapM read?
    | _ => none
  write l := list (l.map HasData.write)

end Data

end Skirmish
