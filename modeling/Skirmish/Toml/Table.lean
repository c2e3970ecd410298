/-!
# Tables of a TOML document

A table is a list of keys with values. How a table came about decides what may still be added to it:
a header may complete a table that an inner header only implied, a dotted key may add to a table that
dotted keys made, and nothing may be added to a table written inline. Of tables opened one after the
other the last is meant. No key is given a value twice.
-/

namespace Skirmish.Toml

/-- How a table came about. -/
inductive Origin where
  /-- Opened by a header of its own. -/
  | header
  /-- On the way of a header to an inner table. -/
  | implied
  /-- On the way of a dotted key. -/
  | dotted
  /-- Written between braces. -/
  | inline
  deriving DecidableEq, Repr, Inhabited

/-- A value of a document. -/
inductive Value where
  | text (value : String)
  | integer (value : Int)
  /-- A number with a fraction or an exponent, an infinity, or no number, as it is written. -/
  | float (written : String)
  | flag (value : Bool)
  /-- A date, a time, or both, as it is written. -/
  | moment (written : String)
  | array (items : List Value)
  | table (origin : Origin) (entries : List (String × Value))
  /-- Tables opened one after the other by headers in double brackets. -/
  | tables (items : List (List (String × Value)))
  deriving Repr, Inhabited

/-- The entries of a table. -/
abbrev Entries := List (String × Value)

namespace Entries

/-- The entries with the value of a key replaced. -/
def replace (entries : Entries) (key : String) (value : Value) : Entries :=
  entries.map fun e => if e.1 = key then (key, value) else e

/-- The entries with a new key; a key that is there cannot be given again. -/
def add (entries : Entries) (key : String) (value : Value) : Option Entries :=
  match entries.lookup key with
  | some _ => none
  | none => some (entries ++ [(key, value)])

/-- Adds a value under a dotted key: `way` are the parts before the last. The table in which the
value comes to stand must be one that dotted keys made; on the way to it there may also be tables
that a header implied, and tables opened one after the other. -/
def addDotted (value : Value) (last : String) : (way : List String) → Entries → Option Entries
  | [], entries => entries.add last value
  | key :: way, entries =>
    match entries.lookup key with
    | none => do
      let inner ← addDotted value last way []
      some (entries ++ [(key, .table .dotted inner)])
    | some (.table .dotted inner) => do
      let inner ← addDotted value last way inner
      some (entries.replace key (.table .dotted inner))
    | some (.table .implied inner) =>
      if way.isEmpty then none
      else do
        let inner ← addDotted value last way inner
        some (entries.replace key (.table .implied inner))
    | some (.tables items) =>
      if way.isEmpty then none
      else do
        let inner ← addDotted value last way (items.getLastD [])
        some (entries.replace key (.tables (items.dropLast ++ [inner])))
    | some _ => none

/-- Changes the table that a path leads to. What is missing on the way is implied. -/
def within (change : Entries → Option Entries) : (path : List String) → Entries → Option Entries
  | [], entries => change entries
  | key :: path, entries =>
    match entries.lookup key with
    | none => do
      let inner ← within change path []
      some (entries ++ [(key, .table .implied inner)])
    | some (.table .inline _) => none
    | some (.table origin inner) => do
      let inner ← within change path inner
      some (entries.replace key (.table origin inner))
    | some (.tables items) => do
      let inner ← within change path (items.getLastD [])
      some (entries.replace key (.tables (items.dropLast ++ [inner])))
    | some _ => none

/-- Opens a table by a header; a table that was only implied so far may be opened. -/
def openTable (key : String) (entries : Entries) : Option Entries :=
  match entries.lookup key with
  | none => some (entries ++ [(key, .table .header [])])
  | some (.table .implied inner) => some (entries.replace key (.table .header inner))
  | some _ => none

/-- Opens a further one of several tables by a header. -/
def openItem (key : String) (entries : Entries) : Option Entries :=
  match entries.lookup key with
  | none => some (entries ++ [(key, .tables [[]])])
  | some (.tables items) => some (entries.replace key (.tables (items ++ [[]])))
  | some _ => none

end Entries

end Skirmish.Toml
