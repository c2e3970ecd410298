import Skirmish.Content.Rendering
import Skirmish.Ron.Text

/-!
# The files of a bundle

Rendered documents are written to files one after the other, once all of them have been rendered. Two
paths may lead to one place; the file there then holds the text that was written last. Writing ends
at the first document that lies too deep for its format, and the files written before it stay.
-/

namespace Skirmish

/-- Why a bundle is not written, or not to its end. -/
inductive WriteError where
  /-- The bundle cannot be rendered. -/
  | unrendered (bundle : String) (cause : DefinitionError)
  /-- Parts of a document lie too deep inside each other. -/
  | tooDeep (kind : DefinitionKind) (id : String)
  deriving DecidableEq, Repr, Inhabited

/-- The error as a sentence. -/
def WriteError.message : WriteError → String
  | unrendered bundle cause =>
    "Failed to render bundle '" ++ bundle ++ "': " ++ Fault.message cause
  | tooDeep kind id =>
    "Failed to serialize " ++ kind.name ++ " '" ++ id ++ "': Exceeded recursion limit, try " ++
      "increasing `ron::Options::recursion_limit` and using `serde_stacker` to protect against a " ++
      "stack overflow"

/-- What comes of writing a bundle: the documents that were written, in order, and what ended it
early, if anything did. -/
structure Writing where
  written : List Document
  failure : Option WriteError
  deriving Repr, Inhabited

/-- **Writes a bundle**, up to the first document that cannot be written. -/
def Bundle.write (b : Bundle) : Writing :=
  match b.render with
  | .error cause => ⟨[], some (.unrendered b.id cause)⟩
  | .ok documents =>
    ⟨documents.takeWhile (·.content.isWritable),
      (documents.find? fun d => !d.content.isWritable).map fun d => .tooDeep d.kind d.id⟩

namespace Writing

/-- The text that is found at a path in the end. -/
def textAt (w : Writing) (path : Path) : Option String :=
  (w.written.reverse.find? fun d => d.path.place == path.place).map (·.content.toText)

/-- **The files of a bundle**: for each document that was written, in order, its path and the text
that is found there. -/
def files (w : Writing) : List (String × String) :=
  w.written.map fun d => (d.path.text, (w.textAt d.path).getD "")

end Writing

end Skirmish
