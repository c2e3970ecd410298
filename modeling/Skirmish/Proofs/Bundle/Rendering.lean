import Skirmish.Proofs.Bundle.Validation
import Skirmish.Proofs.Content.Mentions

/-!
# What rendering answers

Rendering answers exactly when the bundle has an id, everything that can be reached from it has one, and
no identity stands for two contents. The documents are then the bundle's own and one for each identity,
in the order of discovery; and whatever a document mentions at any depth has a document among them
(`Bundle.render_complete`).

Validation asks for more: what effects carry must be registered. So a valid bundle is rendered, and there
is a document for each definition that it registers and for nothing else (`Bundle.render_of_valid`).

**What it does not establish.** That there is a document for each identity says nothing of the places
where the documents are kept.
-/

namespace Skirmish

/-- What a document is known by. -/
def Document.identity (d : Document) : Identity := ⟨d.kind, d.id⟩

theorem Definition.kind_ne_bundle (d : Definition) : d.kind ≠ .bundle := by
  cases d with
  | tileType | entityType | ability => exact nofun

namespace Bundle

open Definition

variable {b : Bundle}

/-! ## Valid bundles -/

/-- **The definitions that a bundle registers**, the default tile first. -/
def registered (b : Bundle) : List Definition :=
  .tileType b.defaultTile :: ((b.tileTypes.filter (· ≠ b.defaultTile)).map .tileType ++
    b.entityTypes.map .entityType ++ b.abilities.map .ability)

variable {d e : Definition}

theorem mem_definitions : d ∈ b.definitions ↔ b.Registers d := by
  rw [definitions, List.mem_append, List.mem_append, List.mem_map, List.mem_map, List.mem_map]
  cases d with
  | tileType k => simp [Registers]
  | entityType k => simp [Registers]
  | ability a => simp [Registers]

namespace Valid

/-- Whatever can be reached from a valid bundle is registered. -/
theorem registers (valid : b.Valid) (reached : d ∈ b.reachable) : b.Registers d := by
  rcases List.mem_append.mp reached with named | carried
  · rcases List.mem_cons.mp named with rfl | there
    · exact valid.defaultTile
    · exact mem_definitions.mp there
  · obtain ⟨a, ha, hd⟩ := List.mem_flatMap.mp carried
    exact valid.carried a ha d hd

theorem id_ne (valid : b.Valid) (there : b.Registers d) : d.id ≠ "" := by
  have named : ∀ {ids : List String}, Distinct ids → ∀ id ∈ ids, id ≠ "" := by
    rintro ids ⟨named, -⟩ id listed rfl
    exact named listed
  cases d with
  | tileType k => exact named valid.tileTypes _ (List.mem_map_of_mem there)
  | entityType k => exact named valid.entityTypes _ (List.mem_map_of_mem there)
  | ability a => exact named valid.abilities _ (List.mem_map_of_mem there)

theorem eq_of_identity (valid : b.Valid) (hd : b.Registers d) (he : b.Registers e) (kind : d.kind = e.kind)
    (id : d.id = e.id) : d = e := by
  cases d with
  | tileType k =>
    cases e with
    | tileType k' => rw [List.inj_on_of_nodup_map valid.tileTypes.2 hd he id]
    | _ => cases kind
  | entityType k =>
    cases e with
    | entityType k' => rw [List.inj_on_of_nodup_map valid.entityTypes.2 hd he id]
    | _ => cases kind
  | ability a =>
    cases e with
    | ability a' => rw [List.inj_on_of_nodup_map valid.abilities.2 hd he id]
    | _ => cases kind

theorem consistent (valid : b.Valid) : Consistent b.reachable where
  named _ hd := valid.id_ne (valid.registers hd)
  unique _ hd _ he := valid.eq_of_identity (valid.registers hd) (valid.registers he)

/-- No definition is registered twice. -/
theorem nodup_definitions (valid : b.Valid) : b.definitions.Nodup := by
  have tiles : ((b.tileTypes.map Definition.tileType).map Definition.id).Nodup := by
    rw [List.map_map]
    exact valid.tileTypes.2
  have entities : ((b.entityTypes.map Definition.entityType).map Definition.id).Nodup := by
    rw [List.map_map]
    exact valid.entityTypes.2
  have abilities : ((b.abilities.map Definition.ability).map Definition.id).Nodup := by
    rw [List.map_map]
    exact valid.abilities.2
  rw [definitions, List.nodup_append, List.nodup_append]
  refine ⟨⟨tiles.of_map _, entities.of_map _, ?_⟩, abilities.of_map _, ?_⟩
  · simp
  · simp [or_imp, forall_and]

/-- What a valid bundle names itself is what it registers, the default tile first. -/
theorem firsts_listed (valid : b.Valid) : firsts [] b.listed = b.registered := by
  have others : b.definitions.filter (fun d => d ∉ [.tileType b.defaultTile]) =
      (b.tileTypes.filter (· ≠ b.defaultTile)).map Definition.tileType ++
        b.entityTypes.map .entityType ++ b.abilities.map .ability := by
    simp [definitions, List.filter_map, Function.comp_def]
  rw [listed, firsts_cons_of_not_mem List.not_mem_nil, List.nil_append,
    firsts_of_nodup valid.nodup_definitions, others]
  rfl

/-- **What can be reached from a valid bundle is what it registers**, each definition once. -/
theorem eraseDups_reachable (valid : b.Valid) : b.reachable.eraseDups = b.registered := by
  have nothing : firsts ([] ++ firsts [] b.listed)
      (b.abilities.flatMap fun a => Effect.carriedAll a.effects) = [] := by
    apply firsts_of_subset
    intro d hd
    apply mem_append_firsts.mpr
    exact List.mem_cons_of_mem _ (mem_definitions.mpr (valid.registers (List.mem_append_right _ hd)))
  rw [← firsts_empty, reachable, firsts_append, nothing, List.append_nil, valid.firsts_listed]

/-- The definitions that are registered are as many as the lists hold. -/
theorem length_registered (valid : b.Valid) :
    b.registered.length = b.tileTypes.length + b.entityTypes.length + b.abilities.length := by
  have distinct : b.tileTypes.Nodup := valid.tileTypes.2.of_map _
  have others : b.tileTypes.filter (· ≠ b.defaultTile) = b.tileTypes.erase b.defaultTile := by
    rw [distinct.erase_eq_filter]
    apply List.filter_congr
    intro k _
    rw [Bool.eq_iff_iff, decide_eq_true_iff, bne_iff_ne]
  have taken := List.length_erase_add_one valid.defaultTile
  rw [registered, others]
  simp only [List.length_cons, List.length_append, List.length_map]
  omega

end Valid

/-! ## A sample bundle

Reaping mows the rows near a target. The stubble that is left behind and the crows that come are
carried by an effect, the crows by a group inside a group, and so is the marsh, which is also listed. -/

namespace Sample

def marsh : TileType := ⟨"marsh", "Marsh", true, false, "reed"⟩

def acre : TileType := ⟨"acre", "Acre", false, false, "corn"⟩

def stubble : TileType := .plain "stubble"

def reaper : EntityType := ⟨"reaper", "Reaper", .ground, true, 8⟩

def crow : EntityType := .plain "crow" .air

/-- Reaping, to the credit of somebody or of nobody. -/
def reap (credit : Option String) : Ability where
  id := "reap"
  name := "Reap"
  effects :=
    [.act (.areaTarget "target" 2 "rows"),
     .group "rows" "row" true
      [.act (.damage "row" credit ⟨3, [.percent 50, .flat (-1)]⟩),
       .act (.modification "row" stubble),
       .group "rows" "nest" false [.act (.spawn "nest" crow)],
       .act (.modification "target" marsh)]]

/-- Nobody registers the stubble and the crow. -/
def wild (credit : Option String) : Bundle where
  id := "harvest"
  size := ⟨4, 3⟩
  defaultTile := acre
  tileTypes := [marsh, acre]
  entityTypes := [reaper]
  abilities := [reap credit]

/-- The default tile takes the id of the stubble that reaping leaves behind. -/
def odd : Bundle := { wild none with defaultTile := ⟨"stubble", "Gold", false, false, "gold"⟩ }

/-- Everything is registered, and the default tile is not the first of its list. -/
def tended : Bundle := { wild none with tileTypes := [marsh, acre, stubble], entityTypes := [reaper, crow] }

end Sample

/-! ## What rendering answers -/

/-- **A valid bundle is rendered.** There is a document for each definition that it registers, in the
order of its lists after the default tile, and for nothing else, whatever its effects carry. -/
theorem render_of_valid (valid : b.validate = .ok ()) :
    ∃ docs, b.render = .ok docs ∧
      docs = Document.ofBundle b :: b.registered.map (Document.ofDefinition b.id) ∧
      docs.length = 1 + b.tileTypes.length + b.entityTypes.length + b.abilities.length := by
  have valid : b.Valid := validate_eq_ok.mp valid
  refine ⟨_, render_of_consistent valid.named valid.consistent, ?_, ?_⟩
  · rw [documents, valid.eraseDups_reachable]
  · rw [documents, valid.eraseDups_reachable, List.length_cons, List.length_map, valid.length_registered]
    omega

theorem render_of_valid_tended : Sample.tended.validate = .ok () ∧
    ∃ docs, Sample.tended.render = .ok docs ∧ docs.map Document.identity =
      [⟨.bundle, "harvest"⟩, ⟨.tileType, "acre"⟩, ⟨.tileType, "marsh"⟩, ⟨.tileType, "stubble"⟩,
        ⟨.entityType, "reaper"⟩, ⟨.entityType, "crow"⟩, ⟨.ability, "reap"⟩] := by
  have valid : Sample.tended.validate = .ok () := by decide +kernel
  obtain ⟨docs, made, shape, -⟩ := render_of_valid valid
  refine ⟨valid, docs, made, ?_⟩
  rw [shape]
  decide +kernel

theorem reachable_of_registers (there : b.Registers d) : d ∈ b.reachable :=
  List.mem_append_left _ (List.mem_cons_of_mem _ (mem_definitions.mpr there))

/-- What can be reached refers to nothing beyond. -/
theorem references_reachable {r : Definition} (reached : d ∈ b.reachable) (refers : r ∈ d.references) :
    r ∈ b.reachable := by
  rw [reachable, ← flatMap_listed] at reached ⊢
  rcases List.mem_append.mp reached with named | carried
  · exact List.mem_append_right _ (List.mem_flatMap.mpr ⟨d, named, refers⟩)
  · obtain ⟨e, -, hd⟩ := List.mem_flatMap.mp carried
    rw [references_of_isType (e.references_types d hd)] at refers
    cases refers

theorem mem_documents {doc : Document} :
    doc ∈ b.documents ↔ doc = .ofBundle b ∨ ∃ d ∈ b.reachable, Document.ofDefinition b.id d = doc := by
  rw [documents, List.mem_cons, List.mem_map]
  simp only [List.mem_eraseDups]

/-- The documents have the identities that can be reached, each once. -/
theorem identities_documents (h : Consistent b.reachable) : b.documents.map Document.identity =
    ⟨.bundle, b.id⟩ :: (b.reachable.map Definition.identity).eraseDups := by
  have apart : ∀ d ∈ [] ++ b.reachable, ∀ e ∈ [] ++ b.reachable, d.identity = e.identity → d = e := by
    intro d hd e he same
    exact h.unique d hd e he (congrArg Identity.kind same) (congrArg Identity.id same)
  have others : (b.reachable.map Definition.identity).eraseDups =
      b.reachable.eraseDups.map Definition.identity := by
    rw [← firsts_empty, ← firsts_empty]
    exact firsts_map apart
  rw [documents, List.map_cons, List.map_map, others]
  rfl

theorem nodup_identities (h : Consistent b.reachable) : (b.documents.map Document.identity).Nodup := by
  rw [identities_documents h, List.nodup_cons, ← firsts_empty]
  refine ⟨?_, nodup_firsts _ _⟩
  intro known
  obtain ⟨d, -, same⟩ := List.mem_map.mp (mem_firsts.mp known).1
  exact d.kind_ne_bundle (congrArg Identity.kind same)

/-- Whatever a document mentions has a document. -/
theorem documents_closed {doc : Document} {kind : DefinitionKind} {id : String} (listed : doc ∈ b.documents)
    (mentions : doc.content.Mentions kind id) :
    ∃ target ∈ b.documents, target.kind = kind ∧ target.id = id := by
  have reached : ∃ r ∈ b.reachable, r.kind = kind ∧ r.id = id := by
    rcases mem_documents.mp listed with rfl | ⟨d, hd, rfl⟩
    · obtain ⟨r, hr, same⟩ := b.document_mentions.mp mentions
      rw [references_eq_listed] at hr
      exact ⟨r, List.mem_append_left _ hr, same⟩
    · obtain ⟨r, hr, same⟩ := d.document_mentions.mp mentions
      exact ⟨r, references_reachable hd hr, same⟩
  obtain ⟨r, hr, same⟩ := reached
  exact ⟨.ofDefinition b.id r, mem_documents.mpr (.inr ⟨r, hr, rfl⟩), same⟩

/-- **Rendering is complete, closed and free of duplicates.** It answers exactly when the bundle and all
that can be reached have ids, and no identity stands for two contents. There is then one document for
the bundle and one for each identity that can be reached, in the order of discovery; and for whatever a
document mentions, at any depth, there is a document. -/
theorem render_complete (b : Bundle) :
    ((∃ docs, b.render = .ok docs) ↔ b.id ≠ "" ∧ (∀ d ∈ b.reachable, d.id ≠ "") ∧
      ∀ d ∈ b.reachable, ∀ e ∈ b.reachable, d.kind = e.kind → d.id = e.id → d = e) ∧
    ∀ docs, b.render = .ok docs →
      docs = .ofBundle b :: b.reachable.eraseDups.map (.ofDefinition b.id) ∧
      docs.map Document.identity = ⟨.bundle, b.id⟩ :: (b.reachable.map Definition.identity).eraseDups ∧
      (docs.map Document.identity).Nodup ∧
      ∀ doc ∈ docs, ∀ kind id, doc.content.Mentions kind id →
        ∃ target ∈ docs, target.kind = kind ∧ target.id = id := by
  refine ⟨⟨?_, ?_⟩, ?_⟩
  · rintro ⟨docs, made⟩
    obtain ⟨named, h⟩ := consistent_of_render made
    exact ⟨named, h.named, h.unique⟩
  · rintro ⟨named, ids, unique⟩
    exact ⟨_, render_of_consistent named ⟨ids, unique⟩⟩
  intro docs made
  obtain ⟨named, h⟩ := consistent_of_render made
  obtain rfl := Except.ok.inj ((render_of_consistent named h).symm.trans made)
  refine ⟨rfl, identities_documents h, nodup_identities h, ?_⟩
  intro doc listed kind id mentions
  exact documents_closed listed mentions

/-- What is registered nowhere has its documents all the same, unless it is at odds with a definition. -/
theorem render_complete_wild :
    (∃ docs, (Sample.wild none).render = .ok docs ∧ docs.map Document.identity =
      [⟨.bundle, "harvest"⟩, ⟨.tileType, "acre"⟩, ⟨.tileType, "marsh"⟩, ⟨.entityType, "reaper"⟩,
        ⟨.ability, "reap"⟩, ⟨.tileType, "stubble"⟩, ⟨.entityType, "crow"⟩] ∧
      ∃ doc ∈ docs, doc.kind = .ability ∧ doc.content.Mentions .entityType "crow") ∧
    ¬ ∃ docs, Sample.odd.render = .ok docs := by
  constructor
  · obtain ⟨answers, shape⟩ := render_complete (Sample.wild none)
    obtain ⟨docs, made⟩ := answers.mpr (by decide +kernel)
    obtain ⟨documents, identities, -, -⟩ := shape docs made
    refine ⟨docs, made, ?_, .ofDefinition "harvest" (.ability (Sample.reap none)), ?_, rfl, ?_⟩
    · rw [identities]
      decide +kernel
    · rw [documents]
      exact List.mem_cons_of_mem _ (List.mem_map_of_mem (List.mem_eraseDups.mpr (by decide +kernel)))
    · exact (Definition.document_mentions _).mpr ⟨.entityType Sample.crow, by decide +kernel, rfl, rfl⟩
  · rw [(render_complete _).1]
    decide +kernel

end Bundle

end Skirmish
