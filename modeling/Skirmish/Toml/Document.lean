import Skirmish.Toml.Scalar
import Skirmish.Toml.Text

/-!
# TOML documents

A document is a sequence of lines: keys with values, and headers that say in which table the keys
that follow come to stand. Reading gives the entries of the outermost table, or nothing when the text
is no document.

Values can hold values, so their readers carry fuel. Each call takes a character or goes down one
step for one, so twice the length of the text is enough. Beside it they carry the room that is left:
how many arrays and tables may still be opened inside each other.
-/

namespace Skirmish.Toml

mutual

/-- A value. -/
def value? : (fuel room : Nat) → List Char → Option (Value × List Char)
  | 0, _, _ => none
  | fuel + 1, room, cs =>
    match cs, room with
    | '[' :: _, 0 | '\x7b' :: _, 0 => none
    | '[' :: rest, room + 1 => items? fuel room [] rest
    | '\x7b' :: rest, room + 1 => pairs? fuel room [] rest
    | '"' :: _, _ | '\'' :: _, _ => (string? cs).map fun (s, rest) => (.text (String.ofList s), rest)
    | _, _ =>
      let (written, rest) := scalarSpan cs
      (scalar? written).map (·, rest)

/-- The items of an array behind its bracket, or behind a comma; `done` are those before. -/
def items? : (fuel room : Nat) → (done : List Value) → List Char → Option (Value × List Char)
  | 0, _, _, _ => none
  | fuel + 1, room, done, cs => do
    match ← skipLines false cs with
    | ']' :: rest => some (.array done, rest)
    | cs =>
      let (v, rest) ← value? fuel room cs
      match ← skipLines false rest with
      | ',' :: rest => items? fuel room (done ++ [v]) rest
      | ']' :: rest => some (.array (done ++ [v]), rest)
      | _ => none

/-- The pairs of a table between braces behind the brace, or behind a comma; `done` are those
before. Around a key, its sign and its value lines may end and comments may stand. -/
def pairs? : (fuel room : Nat) → (done : Entries) → List Char → Option (Value × List Char)
  | 0, _, _, _ => none
  | fuel + 1, room, done, cs => do
    match ← skipLines false cs with
    | '\x7d' :: rest => some (.table .inline done, rest)
    | cs =>
      let (way, last, rest) ← key? cs
      match ← skipLines false rest with
      | '=' :: rest =>
        let (v, rest) ← value? fuel room (← skipLines false rest)
        let done ← done.addDotted v last way
        match ← skipLines false rest with
        | ',' :: rest => pairs? fuel room done rest
        | '\x7d' :: rest => some (.table .inline done, rest)
        | _ => none
      | _ => none

end

/-- Closing brackets of a header, and the end of its line. -/
def endHeader? (count : Nat) (cs : List Char) : Option (List Char) :=
  if cs.take count = List.replicate count ']' then endLine? (cs.drop count) else none

/-- The lines of a document. `root` is what was read so far, and `path` leads to the current
table. -/
def lines? : (fuel : Nat) → (root : Entries) → (path : List String) → List Char → Option Entries
  | 0, _, _, _ => none
  | fuel + 1, root, path, cs => do
    match ← skipLines false cs with
    | [] => some root
    | '[' :: '[' :: rest =>
      let (way, last, rest) ← key? rest
      let rest ← endHeader? 2 rest
      let root ← root.within (Entries.openItem last) way
      lines? fuel root (way ++ [last]) rest
    | '[' :: rest =>
      let (way, last, rest) ← key? rest
      let rest ← endHeader? 1 rest
      let root ← root.within (Entries.openTable last) way
      lines? fuel root (way ++ [last]) rest
    | cs =>
      let (way, last, rest) ← key? cs
      match rest with
      | '=' :: rest =>
        let (v, rest) ← value? (2 * rest.length) mostNested (skipBlanks rest)
        let rest ← endLine? rest
        let root ← root.within (Entries.addDotted v last way) path
        lines? fuel root path rest
      | _ => none

/-- **Reads a document.** A mark of the byte order may stand before it. -/
def read? (text : String) : Option Entries :=
  let cs := match text.toList with
    | '\ufeff' :: rest => rest
    | cs => cs
  lines? (cs.length + 1) [] [] cs

end Skirmish.Toml
