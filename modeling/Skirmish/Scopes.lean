import Skirmish.Target

/-!
# Scopes of target names

The names of a cast live in a chain of scopes. A name is written once in its scope; a scope opened
inside another may bind the name again and so shadow it, but never changes what the outer scope
holds. A name is looked up from the innermost scope outwards.
-/

namespace Skirmish

/-- The names of one scope, in the order in which they were bound. -/
abbrev Bindings := List (String × Target)

/-- A chain of scopes. -/
structure Scopes where
  /-- The innermost scope, in which names are bound. -/
  own : Bindings
  /-- The enclosing scopes, from the inside out. -/
  outer : List Bindings
  deriving DecidableEq, Repr, Inhabited

namespace Scopes

/-- A single scope that binds nothing. -/
def root : Scopes := ⟨[], []⟩

/-- The name under which a cast binds the one who casts. -/
def caster : String := "caster"

/-- The name under which a cast binds the target that it was given. -/
def target : String := "target"

/-- The scopes with an empty one opened inside. -/
def child (s : Scopes) : Scopes := ⟨[], s.own :: s.outer⟩

/-- The scopes with the innermost one left; the outermost cannot be left. -/
def parent (s : Scopes) : Scopes :=
  match s.outer with
  | [] => s
  | own :: outer => ⟨own, outer⟩

/-- The number of enclosing scopes. -/
def depth (s : Scopes) : Nat := s.outer.length

/-- Binds a name in the innermost scope. -/
def bind (s : Scopes) (name : String) (target : Target) : Except TargetError Scopes :=
  match s.own.lookup name with
  | some _ => .error (.alreadyBound name)
  | none => .ok { s with own := s.own ++ [(name, target)] }

/-- What the innermost scope that knows a name binds it to. -/
def get? (s : Scopes) (name : String) : Option Target :=
  (s.own :: s.outer).findSome? (·.lookup name)

/-- What a name is bound to, asked as something of a kind: `view` gives the answer for the targets
that are of that kind. -/
def ask {α : Type} (s : Scopes) (expected : TargetKind) (view : Target → Option α) (name : String) :
    Except TargetError α :=
  match s.get? name with
  | none => .error (.missing name)
  | some target =>
    match view target with
    | some a => .ok a
    | none => .error (.wrongKind name expected target.kind)

/-- The entity that a name is bound to. -/
def entity (s : Scopes) : String → Except TargetError EntityId :=
  s.ask .entity fun
    | .entity id => some id
    | _ => none

/-- The coordinate that a name is bound to. -/
def coords (s : Scopes) : String → Except TargetError Coords :=
  s.ask .coords fun
    | .coords spot => some spot
    | _ => none

/-- The group that a name is bound to. -/
def group (s : Scopes) : String → Except TargetError (List EntityId) :=
  s.ask .group fun
    | .group members => some members
    | _ => none

/-- The location that a name is bound to. -/
def location (s : Scopes) : String → Except TargetError Location :=
  s.ask .location Target.location?

/-- The scope in which an ability is cast: it binds the caster, and the target when one is given. -/
def ofCast (caster : EntityId) (target : Option Target) : Scopes :=
  ⟨(Scopes.caster, .entity caster) :: (target.map (Scopes.target, ·)).toList, []⟩

section

variable {s s' : Scopes} {name : String} {target : Target} {e : TargetError}

/-- A name is bound exactly when the innermost scope does not hold it. -/
theorem bind_eq_ok : s.bind name target = .ok s' ↔
    s.own.lookup name = none ∧ s' = { s with own := s.own ++ [(name, target)] } := by
  unfold bind
  cases s.own.lookup name with
  | none => simp [eq_comm]
  | some held => simp

/-- A name is refused exactly when the innermost scope holds it. -/
theorem bind_eq_error : s.bind name target = .error e ↔
    e = .alreadyBound name ∧ ∃ held, s.own.lookup name = some held := by
  unfold bind
  cases s.own.lookup name with
  | none => simp
  | some held => simp [eq_comm]

end

end Scopes

end Skirmish
