import Skirmish.Text.Hex
import Skirmish.Toml.Table

/-!
# Numbers, flags and moments of a TOML document

A scalar that is not a string is a run of letters, digits and a few signs; its form decides what it
is. An integer of more than 128 bits, and a number beyond what a double can hold, are refused.
-/

namespace Skirmish.Toml

/-! ## Numbers -/

/-- The digits of a number that may have single underscores between digits. -/
def digits? (isDigit : Char → Bool) : List Char → Option (List Char)
  | [] => none
  | [c] => if isDigit c then some [c] else none
  | c :: '_' :: rest => if isDigit c then (digits? isDigit rest).map (c :: ·) else none
  | c :: rest => if isDigit c then (digits? isDigit rest).map (c :: ·) else none

/-- The number that digits stand for in a base. -/
def number (base : Nat) (digits : List Char) : Nat :=
  digits.foldl (fun n c => base * n + (Text.hexDigit? c).getD 0) 0

/-- A sign, and what follows it. -/
def sign : List Char → Bool × List Char
  | '-' :: rest => (true, rest)
  | '+' :: rest => (false, rest)
  | rest => (false, rest)

/-- Decimal digits without a zero before others. -/
def whole? (cs : List Char) : Option (List Char) :=
  match digits? Char.isDigit cs with
  | some ('0' :: _ :: _) => none
  | r => r

/-- Whether a digit belongs to a base. -/
def isDigitOf (base : Nat) (c : Char) : Bool :=
  match Text.hexDigit? c with
  | some d => decide (d < base)
  | none => false

/-- A number of a base other than ten, which has no sign. -/
def based? (base : Nat) (cs : List Char) : Option Int :=
  (digits? (isDigitOf base) cs).map fun ds => (number base ds : Int)

/-- An integer. -/
def integer? : List Char → Option Int
  | '0' :: 'x' :: rest => based? 16 rest
  | '0' :: 'o' :: rest => based? 8 rest
  | '0' :: 'b' :: rest => based? 2 rest
  | cs => do
    let (negative, rest) := sign cs
    let n : Int := number 10 (← whole? rest)
    some (if negative then -n else n)

/-- Whether an integer has at most 128 bits, a sign bit included when it is negative. -/
def isWide (n : Int) : Bool := decide (n < -(Nat.pow 2 127 : Nat) ∨ (Nat.pow 2 128 : Nat) ≤ n)

/-- The parts of a text before and after the first character of a kind. -/
def splitAtFirst (p : Char → Bool) (cs : List Char) : List Char × Option (List Char) :=
  match cs.dropWhile (fun c => !p c) with
  | [] => (cs, none)
  | _ :: rest => (cs.takeWhile (fun c => !p c), some rest)

/-- Whether `mantissa` times ten to the power of `exponent` rounds beyond the greatest double. -/
def isHuge (mantissa : Nat) (exponent : Int) : Bool :=
  let size : Int := (toString mantissa).length + exponent
  if mantissa = 0 ∨ size ≤ 308 then false
  else if 309 < size then true
  else
    let bound := Nat.pow 2 1024 - Nat.pow 2 970
    if 0 ≤ exponent then decide (bound ≤ mantissa * Nat.pow 10 exponent.toNat)
    else decide (bound * Nat.pow 10 (-exponent).toNat ≤ mantissa)

/-- Whether a text is a number with a fraction or an exponent that a double can hold. -/
def isDecimal (cs : List Char) : Bool :=
  let (_, rest) := sign cs
  let (mantissa, exponent) := splitAtFirst (fun c => c == 'e' || c == 'E') rest
  let (whole, fraction) := splitAtFirst (· == '.') mantissa
  if fraction.isNone && exponent.isNone then false
  else
    let exponent? : Option Int := match exponent with
      | none => some 0
      | some cs =>
        let (negative, rest) := sign cs
        (digits? Char.isDigit rest).map fun ds => if negative then -(number 10 ds : Int) else number 10 ds
    let fraction? : Option (List Char) := match fraction with
      | none => some []
      | some cs => digits? Char.isDigit cs
    match whole? whole, fraction?, exponent? with
    | some whole, some fraction, some exponent =>
      !isHuge (number 10 (whole ++ fraction)) (exponent - fraction.length)
    | _, _, _ => false

/-- Whether a text is an infinity or no number. -/
def isSpecial (cs : List Char) : Bool :=
  let (_, rest) := sign cs
  rest == "inf".toList || rest == "nan".toList

/-! ## Moments -/

/-- A number of exactly so many digits at the start of a text. -/
def fixed? (count : Nat) (cs : List Char) : Option (Nat × List Char) :=
  let ds := cs.take count
  if ds.length = count ∧ ds.all Char.isDigit then some (number 10 ds, cs.drop count) else none

/-- What follows a sign at the start of a text. -/
def mark? (c : Char) : List Char → Option (List Char)
  | d :: rest => if d = c then some rest else none
  | [] => none

/-- The number of days of a month. -/
def daysOf (year month : Nat) : Nat :=
  if month = 2 then
    if year % 4 = 0 ∧ (year % 100 ≠ 0 ∨ year % 400 = 0) then 29 else 28
  else if month ∈ [4, 6, 9, 11] then 30
  else 31

/-- What follows a date. -/
def date? (cs : List Char) : Option (List Char) := do
  let (year, cs) ← fixed? 4 cs
  let (month, cs) ← fixed? 2 (← mark? '-' cs)
  let (day, cs) ← fixed? 2 (← mark? '-' cs)
  if 1 ≤ month ∧ month ≤ 12 ∧ 1 ≤ day ∧ day ≤ daysOf year month then some cs else none

/-- What follows an hour and a minute. -/
def minutes? (cs : List Char) : Option (List Char) := do
  let (hour, cs) ← fixed? 2 cs
  let (minute, cs) ← fixed? 2 (← mark? ':' cs)
  if hour < 24 ∧ minute < 60 then some cs else none

/-- What follows a time. Seconds may be left out; a minute may have a leap second. -/
def time? (cs : List Char) : Option (List Char) := do
  let cs ← minutes? cs
  match cs with
  | ':' :: cs =>
    let (second, cs) ← fixed? 2 cs
    if 60 < second then none
    match cs with
    | '.' :: cs =>
      if (cs.takeWhile Char.isDigit).isEmpty then none
      some (cs.dropWhile Char.isDigit)
    | cs => some cs
  | cs => some cs

/-- What follows the distance from universal time. -/
def offset? : List Char → Option (List Char)
  | 'Z' :: rest => some rest
  | 'z' :: rest => some rest
  | '+' :: rest => minutes? rest
  | '-' :: rest => minutes? rest
  | rest => some rest

/-- Whether a character may stand between a date and a time. -/
def isDivider (c : Char) : Bool := c == 'T' || c == 't' || c == ' '

/-- Whether a text is a date, a time, or a date with a time and perhaps a distance from universal
time. -/
def isMoment (cs : List Char) : Bool :=
  match date? cs with
  | some [] => true
  | some (c :: rest) => isDivider c && ((time? rest).bind offset?) == some []
  | none => time? cs == some []

/-! ## Scalars -/

/-- Whether a character may stand in a scalar that is not a string. -/
def isScalar (c : Char) : Bool := c.isAlphanum || c == '+' || c == '-' || c == '_' || c == '.' || c == ':'

/-- The characters of a scalar, and what follows. A date may be followed by a blank and a time. -/
def scalarSpan (cs : List Char) : List Char × List Char :=
  let first := cs.takeWhile isScalar
  let rest := cs.dropWhile isScalar
  match date? first, rest with
  | some [], ' ' :: c :: more =>
    if c.isDigit then
      (first ++ ' ' :: (c :: more).takeWhile isScalar, (c :: more).dropWhile isScalar)
    else (first, rest)
  | _, _ => (first, rest)

/-- The scalar that a text is. -/
def scalar? (cs : List Char) : Option Value :=
  if cs = "true".toList then some (.flag true)
  else if cs = "false".toList then some (.flag false)
  else match integer? cs with
    | some n => if isWide n then none else some (.integer n)
    | none =>
      if isDecimal cs || isSpecial cs then some (.float (String.ofList cs))
      else if isMoment cs then some (.moment (String.ofList cs))
      else none

end Skirmish.Toml
