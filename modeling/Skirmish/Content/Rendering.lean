import Skirmish.Content.Discovery
import Skirmish.Content.Document
import Skirmish.Content.Path

/-!
# Rendering a bundle

A bundle is rendered as a list of documents: its own, and one for each definition that can be reached
from it, in the order of discovery. What a document refers to is met when the document is made, so
the order is breadth first.

**It ends** because each definition that is taken up costs more than what it refers to
(`Discovery.cost_references`): the work that is left falls with every document.
-/

namespace Skirmish

/-- A document with what it is about and where it is kept. -/
structure Document where
  kind : DefinitionKind
  id : String
  path : Path
  content : Ron
  deriving Repr, Inhabited

namespace Document

/-- The document of a definition, in a bundle of the given id. -/
def ofDefinition (bundle : String) (d : Definition) : Document :=
  ⟨d.kind, d.id, Path.ofDefinition bundle d.kind d.id, d.document⟩

/-- The document of a bundle. -/
def ofBundle (b : Bundle) : Document :=
  ⟨.bundle, b.id, Path.ofDefinition b.id .bundle b.id, b.document⟩

end Document

namespace Discovery

set_option linter.unusedVariables false in
/-- The documents of all that waits and of all that is found on the way. -/
def documents (bundle : String) (q : Discovery) : Except DefinitionError (List Document) :=
  match hq : q.pending with
  | [] => .ok []
  | d :: rest =>
    match hr : enqueueAll ⟨rest, q.found⟩ d.references with
    | .error e => .error e
    | .ok r =>
      match r.documents bundle with
      | .error e => .error e
      | .ok docs => .ok (Document.ofDefinition bundle d :: docs)
termination_by q.work
decreasing_by
  have left := work_enqueueAll hr
  rw [cost_references] at left
  simp only [work, hq, totalCost, cost] at left ⊢
  omega

end Discovery

/-- **Renders a bundle.** The bundle's own document comes first. -/
def Bundle.render (b : Bundle) : Except DefinitionError (List Document) := do
  if b.id = "" then throw (.missingId .bundle)
  let found ← Discovery.start.enqueueAll b.references
  let documents ← found.documents b.id
  pure (Document.ofBundle b :: documents)

end Skirmish
