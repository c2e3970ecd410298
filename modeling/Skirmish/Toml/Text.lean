import Skirmish.Text.Hex

/-!
# Strings, keys and comments of a TOML document

Each reader takes the characters from a place on, and answers what it read with the characters that
follow; it answers nothing when no such thing stands there.
-/

namespace Skirmish.Toml

/-- A blank inside a line. -/
def isBlank (c : Char) : Bool := c == ' ' || c == '\t'

/-- The characters after the blanks of a line. -/
def skipBlanks (cs : List Char) : List Char := cs.dropWhile isBlank

/-- Whether a character may stand in a comment or in a string as it is. -/
def isPlain (c : Char) : Bool := c == '\t' || (decide (' ' ≤ c) && c != '\x7f')

/-- Whether a character may stand in a bare key. -/
def isBare (c : Char) : Bool := c.isAlphanum || c == '_' || c == '-'

/-- The characters after the end of a line, which is a line feed, with a carriage return before it or
without. -/
def lineFeed? : List Char → Option (List Char)
  | '\n' :: rest => some rest
  | '\r' :: '\n' :: rest => some rest
  | _ => none

/-- The characters after the end of the current line. Before it only blanks and a comment may stand;
the last line need not end. -/
def endLine? (cs : List Char) : Option (List Char) :=
  let rest := match skipBlanks cs with
    | '#' :: comment => comment.dropWhile isPlain
    | rest => rest
  if rest.isEmpty then some [] else lineFeed? rest

/-- The characters after blanks, ends of lines and comments. -/
def skipLines : (comment : Bool) → List Char → Option (List Char)
  | _, [] => some []
  | _, '\n' :: rest => skipLines false rest
  | _, '\r' :: '\n' :: rest => skipLines false rest
  | true, c :: rest => if isPlain c then skipLines true rest else none
  | false, '#' :: rest => skipLines true rest
  | false, c :: rest => if isBlank c then skipLines false rest else some (c :: rest)

/-! ## Strings -/

/-- The character of a number; surrogates are no characters. -/
def character? (digits : List Char) : Option Char := do
  let n ← Text.hexNumber? digits
  if h : n.isValidChar then some (Char.ofNatAux n h) else none

/-- The character that a letter behind a backslash stands for. -/
def shortForm? : Char → Option Char
  | 'b' => some '\x08'
  | 't' => some '\t'
  | 'n' => some '\n'
  | 'f' => some '\x0c'
  | 'r' => some '\r'
  | 'e' => some '\x1b'
  | '"' => some '"'
  | '\\' => some '\\'
  | _ => none

/-- Puts a character before a string that was read. -/
def before (c : Option Char) (r : Option (List Char × List Char)) : Option (List Char × List Char) := do
  let c ← c
  let (s, rest) ← r
  some (c :: s, rest)

/-- What follows the opening quote of a basic string. -/
def basic? : List Char → Option (List Char × List Char)
  | [] => none
  | '"' :: rest => some ([], rest)
  | '\\' :: 'x' :: a :: b :: rest => before (character? [a, b]) (basic? rest)
  | '\\' :: 'u' :: a :: b :: c :: d :: rest => before (character? [a, b, c, d]) (basic? rest)
  | '\\' :: 'U' :: a :: b :: c :: d :: e :: f :: g :: h :: rest =>
    before (character? [a, b, c, d, e, f, g, h]) (basic? rest)
  | '\\' :: c :: rest => before (shortForm? c) (basic? rest)
  | c :: rest => if isPlain c && c != '\\' then before (some c) (basic? rest) else none

/-- What follows the opening quote of a literal string. -/
def literal? : List Char → Option (List Char × List Char)
  | [] => none
  | '\'' :: rest => some ([], rest)
  | c :: rest => if isPlain c then before (some c) (literal? rest) else none

/-- Where the reader of a basic string of several lines stands. -/
inductive Stand where
  /-- Among the characters of the string. -/
  | inside
  /-- Behind a backslash at the end of a line. -/
  | endOfLine
  /-- On the lines that are passed over after it. -/
  | between
  deriving DecidableEq, Repr

/-- What follows the opening quotes of a basic string of several lines. Of up to five quotes at the
end the last three close it. -/
def basicLines? : (stand : Stand) → List Char → Option (List Char × List Char)
  | _, [] => none
  | .endOfLine, '\n' :: rest => basicLines? .between rest
  | .endOfLine, '\r' :: '\n' :: rest => basicLines? .between rest
  | .endOfLine, c :: rest => if isBlank c then basicLines? .endOfLine rest else none
  | .between, '\n' :: rest => basicLines? .between rest
  | .between, '\r' :: '\n' :: rest => basicLines? .between rest
  | .between, c :: rest =>
    if isBlank c then basicLines? .between rest else basicLines? .inside (c :: rest)
  | .inside, '"' :: '"' :: '"' :: '"' :: '"' :: rest => some (['"', '"'], rest)
  | .inside, '"' :: '"' :: '"' :: '"' :: rest => some (['"'], rest)
  | .inside, '"' :: '"' :: '"' :: rest => some ([], rest)
  | .inside, '\\' :: '\n' :: rest => basicLines? .between rest
  | .inside, '\\' :: '\r' :: '\n' :: rest => basicLines? .between rest
  | .inside, '\\' :: ' ' :: rest => basicLines? .endOfLine rest
  | .inside, '\\' :: '\t' :: rest => basicLines? .endOfLine rest
  | .inside, '\\' :: 'x' :: a :: b :: rest => before (character? [a, b]) (basicLines? .inside rest)
  | .inside, '\\' :: 'u' :: a :: b :: c :: d :: rest =>
    before (character? [a, b, c, d]) (basicLines? .inside rest)
  | .inside, '\\' :: 'U' :: a :: b :: c :: d :: e :: f :: g :: h :: rest =>
    before (character? [a, b, c, d, e, f, g, h]) (basicLines? .inside rest)
  | .inside, '\\' :: c :: rest => before (shortForm? c) (basicLines? .inside rest)
  | .inside, '\n' :: rest => before (some '\n') (basicLines? .inside rest)
  | .inside, '\r' :: '\n' :: rest => before (some '\n') (basicLines? .inside rest)
  | .inside, c :: rest => if isPlain c && c != '\\' then before (some c) (basicLines? .inside rest) else none
termination_by stand cs => (cs.length, if stand = .between then 1 else 0)

/-- What follows the opening quotes of a literal string of several lines. -/
def literalLines? : List Char → Option (List Char × List Char)
  | [] => none
  | '\'' :: '\'' :: '\'' :: '\'' :: '\'' :: rest => some (['\'', '\''], rest)
  | '\'' :: '\'' :: '\'' :: '\'' :: rest => some (['\''], rest)
  | '\'' :: '\'' :: '\'' :: rest => some ([], rest)
  | '\n' :: rest => before (some '\n') (literalLines? rest)
  | '\r' :: '\n' :: rest => before (some '\n') (literalLines? rest)
  | c :: rest => if isPlain c then before (some c) (literalLines? rest) else none

/-- The characters after a line feed right behind opening quotes, which does not count. -/
def skipFirstFeed (cs : List Char) : List Char := (lineFeed? cs).getD cs

/-- A string of any of the four forms. -/
def string? : List Char → Option (List Char × List Char)
  | '"' :: '"' :: '"' :: rest => basicLines? .inside (skipFirstFeed rest)
  | '"' :: rest => basic? rest
  | '\'' :: '\'' :: '\'' :: rest => literalLines? (skipFirstFeed rest)
  | '\'' :: rest => literal? rest
  | _ => none

/-! ## Keys -/

/-- How deep a document may nest: so many parts a key may have, and so many arrays and tables may
stand inside each other in a value. -/
def mostNested : Nat := 80

/-- One part of a key: bare characters, or a string of one line. -/
def keyPart? (cs : List Char) : Option (String × List Char) :=
  match cs with
  | '"' :: rest => (basic? rest).map fun (s, rest) => (String.ofList s, rest)
  | '\'' :: rest => (literal? rest).map fun (s, rest) => (String.ofList s, rest)
  | _ =>
    let bare := cs.takeWhile isBare
    if bare.isEmpty then none else some (String.ofList bare, cs.dropWhile isBare)

/-- The parts of a key, with dots between them; there is `room` for so many. -/
def keyParts? : (room : Nat) → List Char → Option (List String × List Char)
  | 0, _ => none
  | room + 1, cs => do
    let (part, rest) ← keyPart? (skipBlanks cs)
    match skipBlanks rest with
    | '.' :: rest =>
      let (parts, rest) ← keyParts? room rest
      some (part :: parts, rest)
    | rest => some ([part], rest)

/-- A key, with the blanks around it: the parts before the last, and the last. -/
def key? (cs : List Char) : Option (List String × String × List Char) := do
  let (parts, rest) ← keyParts? mostNested cs
  some (parts.dropLast, parts.getLastD "", rest)

end Skirmish.Toml
