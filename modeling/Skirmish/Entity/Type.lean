import Skirmish.Layers

/-!
# Entity types

An entity type is a definition shared by all entities of the type. Its movement domain decides which
layers of a tile its entities claim.
-/

namespace Skirmish

/-- How an entity moves through the world. -/
inductive Domain where
  /-- Walks: claims the ground. -/
  | ground
  /-- Flies: claims the air. -/
  | air
  /-- Has no body: claims nothing, so that nothing blocks it and it blocks nothing. -/
  | ghost
  deriving DecidableEq, Repr, Inhabited

namespace Domain

/-- The layers that an entity of the domain claims. -/
def layers : Domain → Layers
  | .ground => .ground
  | .air => .air
  | .ghost => .empty

/-- The word for a domain. -/
def name : Domain → String
  | .ground => "ground"
  | .air => "air"
  | .ghost => "ghost"

/-- All domains. -/
def all : List Domain := [.ground, .air, .ghost]

/-- A letter between `A` and `Z` in its small form; every other character as it stands. -/
def smallLetter (c : Char) : Char :=
  if 'A' ≤ c ∧ c ≤ 'Z' then Char.ofNat (c.toNat + 32) else c

/-- The domain named by a word, whatever the case of its letters between `A` and `Z`. -/
def ofName? (word : String) : Option Domain :=
  all.find? (fun d => d.name.toList == word.toList.map smallLetter)

end Domain

/-- A kind of entity. -/
structure EntityType where
  id : String
  name : String
  domain : Domain
  /-- Agents take turns; all others never act. -/
  isAgent : Bool
  maxHealth : Nat
  deriving DecidableEq, Repr, Inhabited

namespace EntityType

/-- The health that a type has when its definition is silent. -/
def usualHealth : Nat := 50

/-- A type of the given domain that never acts, with the usual health, named by its id. -/
def plain (id : String) (domain : Domain) : EntityType := ⟨id, id, domain, false, usualHealth⟩

end EntityType

end Skirmish
