import Skirmish.Definition

/-!
# Where documents are kept

The document of a bundle lies in a directory named after the bundle; the documents of other
definitions lie in a directory for their kind below it. An id is used as it stands. It may hold
slashes, and one that starts with a slash leads to a place of its own, whatever stood before it.

A path keeps the text that it was put together from. **Paths are compared by their components**
(`Path.beq_iff`): slashes in a row are as good as one, and a single dot counts only where a path begins.
Two dots count; where they go is settled by the **place** that a path leads to.
-/

namespace Skirmish

/-- A path, as it was put together. -/
structure Path where
  text : String
  deriving Repr, Inhabited

namespace Path

/-- A path is written as its text. -/
instance : Coe Path String := ⟨text⟩

/-! ## Components -/

/-- A step of the way that a path describes. -/
inductive Component where
  /-- The top: where a path begins that starts with a slash. -/
  | top
  /-- A single dot at the beginning. -/
  | here
  /-- Two dots: one step back. -/
  | up
  | name (text : String)
  deriving DecidableEq, Repr

/-- What stands between the slashes of a text. -/
def pieces (text : String) : List String := (text.toList.splitOn '/').map String.ofList

/-- The step that a piece stands for; nothing at all and a single dot stand for none. -/
def step? (piece : String) : Option Component :=
  if piece = "" ∨ piece = "." then none else if piece = ".." then some .up else some (.name piece)

/-- The steps along a text, wherever it begins. -/
def steps (text : String) : List Component := (pieces text).filterMap step?

/-- Where a text begins: at the top, at a single dot, or at no place of its own. -/
def origin (text : String) : List Component :=
  if text.startsWith "/" then [.top] else if (pieces text).head? = some "." then [.here] else []

/-- **The components of a path.** -/
def components (p : Path) : List Component := origin p.text ++ steps p.text

/-- Paths are compared by their components. -/
instance : BEq Path := ⟨fun p q => p.components == q.components⟩

theorem beq_iff {p q : Path} : p == q ↔ p.components = q.components :=
  show (p.components == q.components) = true ↔ _ from beq_iff_eq

instance : EquivBEq Path where
  rfl := beq_iff.mpr rfl
  symm h := beq_iff.mpr (beq_iff.mp h).symm
  trans h k := beq_iff.mpr ((beq_iff.mp h).trans (beq_iff.mp k))

/-! ## Places -/

/-- One step of a way. Two dots go back; from the top they lead nowhere, and from the start of a way
that has no top they lead out. -/
def follow (way : List Component) : Component → List Component
  | .here => way
  | .up =>
    match way.getLast? with
    | some .top => way
    | some (.name _) => way.dropLast
    | _ => way ++ [.up]
  | c => way ++ [c]

/-- **The place that a path leads to**, as the steps that are left of the way. -/
def place (p : Path) : List Component := p.components.foldl follow []

/-! ## The paths of documents -/

/-- What stands before that which continues a path: its text, with a slash at the end unless there is one
already or nothing to divide. -/
def opened (base : Path) : String :=
  if base.text = "" ∨ base.text.endsWith "/" then base.text else base.text ++ "/"

/-- A path continued by another. One that starts at the top replaces what was before it. -/
def join (base : Path) (next : String) : Path :=
  if next.startsWith "/" then ⟨next⟩ else ⟨base.opened ++ next⟩

/-- The path of a definition's document below the directory of a bundle. -/
def within (home : Path) (kind : DefinitionKind) (id : String) : Path :=
  let file := id ++ ".ron"
  match kind.directory? with
  | some directory => (home.join directory).join file
  | none => home.join file

/-- The path of a definition's document, in a bundle of the given id. -/
def ofDefinition (bundle : String) (kind : DefinitionKind) (id : String) : Path := within ⟨bundle⟩ kind id

end Path

end Skirmish
