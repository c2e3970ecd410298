/-!
# Settings of the engine
-/

namespace Skirmish

/-- The settings of the engine. -/
structure Config where
  /-- How deep a reaction may lie below the event that an effect submits. -/
  maxCascadeDepth : Nat
  deriving DecidableEq, Repr

namespace Config

/-- The settings when nothing else is said. -/
def usual : Config := ⟨64⟩

instance : Inhabited Config := ⟨usual⟩

end Config

end Skirmish
