/-!
# Faults and how grave they are

Every kind of error of the library is a type whose constructors are the causes. What all of them
have in common is this class: a fixed code, a sentence, and a severity that says what the caller
should do about it.
-/

namespace Skirmish

/-- How the caller of a failed operation should react. -/
inductive Severity where
  /-- The caller may go on, or try other arguments. -/
  | recoverable
  /-- A definition is malformed. -/
  | validation
  /-- The state contradicts itself. -/
  | internal
  /-- The cast cannot go on. -/
  | fatal
  deriving DecidableEq, Repr, Inhabited

/-- The word for a severity. -/
def Severity.name : Severity → String
  | .recoverable => "recoverable"
  | .validation => "validation"
  | .internal => "internal"
  | .fatal => "fatal"

/-- A type of errors that can be reported. -/
class Fault (ε : Type) where
  /-- The fixed identifier of the cause. -/
  code : ε → String
  /-- The cause as a sentence. -/
  message : ε → String
  /-- How grave the cause is. -/
  severity : ε → Severity

/-- Whether the caller may go on after an error. -/
def Fault.isRecoverable {ε : Type} [Fault ε] (e : ε) : Bool := Fault.severity e == .recoverable

/-- Whether an error ends the cast in which it arises. -/
def Fault.isFatal {ε : Type} [Fault ε] (e : ε) : Bool := Fault.severity e == .fatal

end Skirmish
