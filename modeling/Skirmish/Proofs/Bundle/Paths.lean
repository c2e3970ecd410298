import Skirmish.Proofs.Bundle.Rendering
import Skirmish.Proofs.Content.Components

/-!
# Which documents share a path

The document of a definition belongs into the directory of its kind, below the directory of its bundle,
and inside a kind no id stands for two definitions. Yet an id goes into a path as it stands, and it may
hold slashes and dots. **The law** (`Bundle.render_shares_path_iff`) says exactly when two documents of a
valid bundle, of different identities, have equal paths. There are four ways (`Path.Clash`).

- Ids of one kind may differ by nothing but slashes in a row and single dots.
- Ids that start with a slash lead away from the directories of their kinds. Where two kinds share such
  an id, no directory tells them apart.
- An id that starts with a slash may spell out the path of another document.
- The id of the bundle may itself read like the directory of a kind with an id in it.

The documents are written below a root directory. What is said there of paths is said of the places that
they lead to, with the directory of the bundle below the root: documents with equal paths are kept in one
place, and where no path goes back by two dots there is no other way to come by one.

**What it does not establish.** With two dots, paths that differ may lead to one place. A root that is not
given from the top is taken to lie nowhere else, and a place is what the names of a path say, whatever is
found there.
-/

namespace Skirmish

/-- The name of the file of an identity, which may lead through directories. -/
def Identity.file (i : Identity) : String := i.id ++ ".ron"

/-- The steps to the file of an identity inside the directory of its bundle: through the directory of its
kind, when it has one. -/
def Identity.inside (i : Identity) : List Path.Component :=
  i.kind.directory?.toList.map .name ++ Path.steps i.file

namespace Path

/-- **How two identities come by one path** below the directory of their bundle. -/
@[mk_iff]
inductive Clash (home : Path) (i j : Identity) : Prop
  /-- The ids of one kind differ by nothing but slashes in a row and single dots. -/
  | alike (below : i.id.startsWith "/" = false) (below' : j.id.startsWith "/" = false)
      (kinds : i.kind = j.kind) (same : steps i.file = steps j.file)
  /-- Both ids lead away from the directories of their kinds, to one file. -/
  | away (top : i.id.startsWith "/" = true) (top' : j.id.startsWith "/" = true)
      (same : steps i.file = steps j.file)
  /-- The first id leads away from its directory, and to where the second one is kept. -/
  | onto (top : i.id.startsWith "/" = true) (below : j.id.startsWith "/" = false)
      (onto : .top :: steps i.file = home.components ++ j.inside)
  /-- The first id is the bundle's, and reads like the second one behind its directory. -/
  | named (own : i.kind = .bundle) (below : i.id.startsWith "/" = false)
      (below' : j.id.startsWith "/" = false) (named : steps i.file = j.inside)

variable {bundle : String} {root home : Path} {i j : Identity}

/-- Whether an identity can have a document in a bundle: it has an id, and when it is no definition's it
is the bundle's own. -/
structure Kept (bundle : String) (i : Identity) : Prop where
  filled : i.id ≠ ""
  own : i.kind.directory? = none → i = ⟨.bundle, bundle⟩

/-! ## Where a document is kept -/

/-- The directories of the kinds are single names. -/
theorem directory_plain {kind : DefinitionKind} {directory : String} (h : kind.directory? = some directory) :
    directory ≠ "" ∧ directory.startsWith "/" = false ∧ steps directory = [.name directory] := by
  cases kind <;> cases h <;> decide +kernel

theorem directory_inj {kind kind' : DefinitionKind} {directory : String}
    (h : kind.directory? = some directory) (h' : kind'.directory? = some directory) : kind = kind' := by
  cases kind <;> cases h <;> cases kind' <;> first | rfl | exact absurd h' (by decide)

theorem within_of_top (filled : i.id ≠ "") (top : i.id.startsWith "/" = true) :
    within home i.kind i.id = ⟨i.file⟩ := by
  have file : i.file.startsWith "/" = true := (startsWith_append filled).trans top
  unfold within
  cases i.kind.directory? with
  | none => exact join_of_top file
  | some directory => exact join_of_top file

/-- **The way to a document** whose id does not lead away: the way to the directory of its bundle, and the
steps from there. -/
theorem within_of_below (homed : home.text ≠ "") (filled : i.id ≠ "") (below : i.id.startsWith "/" = false) :
    origin (within home i.kind i.id).text = origin home.text ∧
      steps (within home i.kind i.id).text = steps home.text ++ i.inside := by
  have file : i.file.startsWith "/" = false := (startsWith_append filled).trans below
  rw [within, ← Identity.file, Identity.inside]
  cases h : i.kind.directory? with
  | none => simpa using way_of_below homed file
  | some directory =>
    obtain ⟨plain, starts, single⟩ := directory_plain h
    obtain ⟨begins, there⟩ := way_of_below homed starts
    obtain ⟨begins', there'⟩ := way_of_below (text_join_ne plain) file
    refine ⟨begins'.trans begins, ?_⟩
    simpa [single, there] using there'

theorem components_of_away (filled : i.id ≠ "") (top : i.id.startsWith "/" = true) :
    (within home i.kind i.id).components = .top :: steps i.file := by
  rw [within_of_top filled top]
  exact components_of_top ((startsWith_append filled).trans top)

theorem components_of_below (homed : home.text ≠ "") (filled : i.id ≠ "")
    (below : i.id.startsWith "/" = false) :
    (within home i.kind i.id).components = home.components ++ i.inside := by
  obtain ⟨begins, there⟩ := within_of_below homed filled below
  rw [components, components, begins, there, List.append_assoc]

/-! ## Which identities share a path -/

/-- Two identities come by one way inside the directory of their bundle when their ids differ by nothing that
counts, or when one of them is the bundle's and reads like the other. -/
theorem inside_eq_iff (hi : Kept bundle i) (hj : Kept bundle j) : i.inside = j.inside ↔
    i.kind = j.kind ∧ steps i.file = steps j.file ∨ i.kind = .bundle ∧ steps i.file = j.inside ∨
      j.kind = .bundle ∧ steps j.file = i.inside := by
  have bundle_inside : ∀ k : Identity, k.kind = .bundle → k.inside = steps k.file := by
    intro k own
    simp [Identity.inside, own, DefinitionKind.directory?]
  constructor
  · intro same
    cases ki : i.kind.directory? with
    | none =>
      have own : i.kind = .bundle := by rw [hi.own ki]
      exact .inr (.inl ⟨own, (bundle_inside i own).symm.trans same⟩)
    | some directory =>
      cases kj : j.kind.directory? with
      | none =>
        have own : j.kind = .bundle := by rw [hj.own kj]
        exact .inr (.inr ⟨own, (bundle_inside j own).symm.trans same.symm⟩)
      | some directory' =>
        simp only [Identity.inside, ki, kj, Option.toList_some, List.map_cons, List.map_nil, List.cons_append,
          List.nil_append, List.cons.injEq, Component.name.injEq] at same
        obtain ⟨rfl, steps_eq⟩ := same
        exact .inl ⟨directory_inj ki kj, steps_eq⟩
  · intro ways
    rcases ways with ⟨kinds, same⟩ | ⟨own, same⟩ | ⟨own, same⟩
    · rw [Identity.inside, Identity.inside, kinds, same]
    · rw [bundle_inside i own, same]
    · rw [bundle_inside j own, same]

/-- **Two identities of a bundle share a path** exactly when they clash. -/
theorem within_eq_iff (homed : home.text ≠ "") (hi : Kept bundle i) (hj : Kept bundle j) :
    (within home i.kind i.id).components = (within home j.kind j.id).components ↔
      Clash home i j ∨ Clash home j i := by
  cases atTop : i.id.startsWith "/" with
  | true =>
    cases atTop' : j.id.startsWith "/" with
    | true =>
      rw [components_of_away hi.filled atTop, components_of_away hj.filled atTop', List.cons.injEq]
      simp [clash_iff, atTop, atTop', eq_comm]
    | false =>
      rw [components_of_away hi.filled atTop, components_of_below homed hj.filled atTop']
      simp [clash_iff, atTop, atTop']
  | false =>
    cases atTop' : j.id.startsWith "/" with
    | true =>
      rw [components_of_below homed hi.filled atTop, components_of_away hj.filled atTop']
      simp [clash_iff, atTop, atTop', eq_comm]
    | false =>
      rw [components_of_below homed hi.filled atTop, components_of_below homed hj.filled atTop',
        List.append_cancel_left_eq, inside_eq_iff hi hj]
      constructor
      · intro ways
        rcases ways with ⟨kinds, same⟩ | ⟨own, same⟩ | ⟨own, same⟩
        · exact .inl (.alike atTop atTop' kinds same)
        · exact .inl (.named own atTop atTop' same)
        · exact .inr (.named own atTop' atTop same)
      · simp only [clash_iff, atTop, atTop', Bool.false_eq_true, false_and, true_and, false_or]
        intro clash
        rcases clash with (⟨kinds, same⟩ | ways) | (⟨kinds, same⟩ | ways)
        · exact .inl ⟨kinds, same⟩
        · exact .inr (.inl ways)
        · exact .inl ⟨kinds.symm, same.symm⟩
        · exact .inr (.inr ways)

/-! ## Below a root -/

/-- Below a root the directory of a bundle is the one that the root is continued to. -/
theorem join_within (homed : home.text ≠ "") (root : Path) (kind : DefinitionKind) (id : String) :
    root.join (within home kind id) = within (root.join home) kind id := by
  rw [within, within]
  cases h : kind.directory? with
  | none => exact join_assoc homed root _
  | some directory =>
    dsimp only
    rw [join_assoc (text_join_ne (directory_plain h).1), join_assoc homed]

theorem mem_inside {c : Component} (h : c ∈ i.inside) : c ≠ .top := by
  rw [Identity.inside, List.mem_append, List.mem_map] at h
  rcases h with ⟨directory, -, rfl⟩ | h
  · simp
  · exact (mem_steps h).1

/-- A way that begins at the top and goes through the directory of a bundle begins there with it. -/
theorem startsWith_of_onto {cs : List Component} (onto : .top :: cs = home.components ++ j.inside) :
    home.text.startsWith "/" = true := by
  apply startsWith_of_origin
  rw [components] at onto
  rcases origin_cases home.text with top | here | none
  · exact top
  · simp [here] at onto
  · rw [none, List.nil_append] at onto
    have inside : .top ∈ steps home.text ++ j.inside := onto ▸ List.mem_cons_self
    rcases List.mem_append.mp inside with before | behind
    · exact absurd rfl (mem_steps before).1
    · exact absurd rfl (mem_inside behind)

/-- Identities that share a path share one below every root. -/
theorem Clash.join (clash : Clash home i j) (root : Path) : Clash (root.join home) i j := by
  cases clash with
  | alike below below' kinds same => exact .alike below below' kinds same
  | away top top' same => exact .away top top' same
  | named own below below' same => exact .named own below below' same
  | onto top below onto =>
    rw [join_of_top (startsWith_of_onto onto)]
    exact .onto top below onto

/-- **Where no path goes back, two documents are kept in one place** exactly when their identities clash. -/
theorem place_within_iff (homed : home.text ≠ "") (hi : Kept bundle i) (hj : Kept bundle j)
    (ahead : .up ∉ (within home i.kind i.id).components) (ahead' : .up ∉ (within home j.kind j.id).components) :
    (within home i.kind i.id).place = (within home j.kind j.id).place ↔ Clash home i j ∨ Clash home j i := by
  have begins : ∀ {k : Identity}, k.id ≠ "" → origin (within home k.kind k.id).text = [.top] ∨
      origin (within home k.kind k.id).text = origin home.text := by
    intro k filled
    cases top : k.id.startsWith "/" with
    | true =>
      rw [within_of_top filled top]
      exact .inl (origin_of_top ((startsWith_append filled).trans top))
    | false => exact .inr (within_of_below homed filled top).1
  rw [← within_eq_iff homed hi hj]
  apply place_eq_iff ahead ahead'
  rcases begins hi.filled with top | same
  · exact .inr (.inl top)
  · rcases begins hj.filled with top' | same'
    · exact .inr (.inr top')
    · exact .inl (same.trans same'.symm)

end Path

namespace Bundle

variable {b : Bundle} {doc d e : Document}

/-- The identities with a document in a valid bundle can have one. -/
theorem Valid.kept (valid : b.Valid) (listed : doc ∈ b.documents) : Path.Kept b.id doc.identity := by
  rcases mem_documents.mp listed with rfl | ⟨d, reached, rfl⟩
  · exact ⟨valid.named, fun _ => rfl⟩
  · refine ⟨valid.id_ne (valid.registers reached), ?_⟩
    intro homeless
    cases d <;> cases homeless

/-- A document's path is settled by its identity. -/
theorem path_of_mem (listed : doc ∈ b.documents) :
    doc.path = .within ⟨b.id⟩ doc.identity.kind doc.identity.id := by
  rcases mem_documents.mp listed with rfl | ⟨d, -, rfl⟩ <;> rfl

theorem join_path (named : b.id ≠ "") (root : Path) (listed : doc ∈ b.documents) :
    root.join doc.path = .within (root.join b.id) doc.identity.kind doc.identity.id := by
  rw [path_of_mem listed]
  exact Path.join_within named root _ _

/-- **Which documents share a path.** A valid bundle is rendered, and two of its documents have equal paths
exactly when their identities clash. Below every root, documents with equal paths are kept in one place; and
where neither path goes back by two dots, two documents are kept in one place exactly when their identities
clash there. -/
theorem render_shares_path_iff (valid : b.validate = .ok ()) : ∃ docs, b.render = .ok docs ∧
    ∀ d ∈ docs, ∀ e ∈ docs,
      (d.path == e.path ↔ Path.Clash ⟨b.id⟩ d.identity e.identity ∨ Path.Clash ⟨b.id⟩ e.identity d.identity) ∧
      ∀ root : Path,
        (d.path == e.path → (root.join d.path).place = (root.join e.path).place) ∧
        (.up ∉ (root.join d.path).components → .up ∉ (root.join e.path).components →
          ((root.join d.path).place = (root.join e.path).place ↔
            Path.Clash (root.join b.id) d.identity e.identity ∨
              Path.Clash (root.join b.id) e.identity d.identity)) := by
  have valid : b.Valid := validate_eq_ok.mp valid
  refine ⟨_, render_of_consistent valid.named valid.consistent, ?_⟩
  intro d hd e he
  have kept := valid.kept hd
  have kept' := valid.kept he
  have equal : d.path == e.path ↔
      Path.Clash ⟨b.id⟩ d.identity e.identity ∨ Path.Clash ⟨b.id⟩ e.identity d.identity := by
    rw [Path.beq_iff, path_of_mem hd, path_of_mem he]
    exact Path.within_eq_iff valid.named kept kept'
  refine ⟨equal, ?_⟩
  intro root
  have homed : (root.join b.id).text ≠ "" := Path.text_join_ne valid.named
  rw [join_path valid.named root hd, join_path valid.named root he]
  constructor
  · intro shared
    have clash := (equal.mp shared).imp (·.join root) (·.join root)
    rw [Path.place, Path.place, (Path.within_eq_iff homed kept kept').mpr clash]
  · exact Path.place_within_iff homed kept kept'

namespace Sample

/-- A bundle that is called like its first tile type behind the directory of tile types. Two more of its tile
types have ids that differ by a slash. -/
def namesake : Bundle where
  id := "tile_types/moss"
  size := ⟨1, 1⟩
  defaultTile := .plain "moss"
  tileTypes := [.plain "moss", .plain "fern/frond", .plain "fern//frond"]
  entityTypes := []
  abilities := []

/-- A tile type and an entity type with one id, which starts with a slash. -/
def quarry : Bundle where
  id := "quarry"
  size := ⟨1, 1⟩
  defaultTile := .plain "/stone"
  tileTypes := [.plain "/stone"]
  entityTypes := [.plain "/stone" .ground]
  abilities := []

end Sample

/-- The moss is kept where its bundle is, and one frond where the other is; the moss is not kept there. -/
theorem render_shares_path_iff_namesake : Sample.namesake.validate = .ok () ∧
    ∃ docs, Sample.namesake.render = .ok docs ∧ ∃ own ∈ docs, ∃ moss ∈ docs, ∃ frond ∈ docs, ∃ frond' ∈ docs,
      own.identity = ⟨.bundle, "tile_types/moss"⟩ ∧ moss.identity = ⟨.tileType, "moss"⟩ ∧
      frond.identity = ⟨.tileType, "fern/frond"⟩ ∧ frond'.identity = ⟨.tileType, "fern//frond"⟩ ∧
      own.path == moss.path ∧ frond.path == frond'.path ∧
      (Path.join ⟨"out"⟩ frond.path).place = (Path.join ⟨"out"⟩ frond'.path).place ∧
      (Path.join ⟨"out"⟩ moss.path).place ≠ (Path.join ⟨"out"⟩ frond.path).place := by
  have valid : Sample.namesake.validate = .ok () := by decide +kernel
  obtain ⟨docs, made, paths⟩ := render_shares_path_iff valid
  have shape := validate_eq_ok.mp valid
  obtain rfl := Except.ok.inj ((render_of_consistent shape.named shape.consistent).symm.trans made)
  have own : Document.ofBundle Sample.namesake ∈ Sample.namesake.documents := mem_documents.mpr (.inl rfl)
  have tile : ∀ id, .plain id ∈ Sample.namesake.tileTypes →
      Document.ofDefinition "tile_types/moss" (.tileType (.plain id)) ∈ Sample.namesake.documents :=
    fun id there => mem_documents.mpr (.inr ⟨_, reachable_of_registers (d := .tileType (.plain id)) there, rfl⟩)
  have moss := tile "moss" (by decide +kernel)
  have frond := tile "fern/frond" (by decide +kernel)
  have frond' := tile "fern//frond" (by decide +kernel)
  have named : Path.Clash ⟨"tile_types/moss"⟩ ⟨.bundle, "tile_types/moss"⟩ ⟨.tileType, "moss"⟩ :=
    .named rfl (by decide +kernel) (by decide +kernel) (by decide +kernel)
  have alike : Path.Clash ⟨"tile_types/moss"⟩ ⟨.tileType, "fern/frond"⟩ ⟨.tileType, "fern//frond"⟩ :=
    .alike (by decide +kernel) (by decide +kernel) rfl (by decide +kernel)
  have shared := (paths _ frond _ frond').1.mpr (.inl alike)
  refine ⟨valid, _, made, _, own, _, moss, _, frond, _, frond', rfl, rfl, rfl, rfl,
    (paths _ own _ moss).1.mpr (.inl named), shared, ((paths _ frond _ frond').2 ⟨"out"⟩).1 shared, ?_⟩
  intro same
  have clash := (((paths _ moss _ frond).2 ⟨"out"⟩).2 (by decide +kernel) (by decide +kernel)).mp same
  simp only [Path.clash_iff] at clash
  revert clash
  decide +kernel

/-- **A valid bundle may keep two documents under one path**: there the tile type and the entity type of
the quarry overwrite each other. -/
theorem quarry_shares_path : ¬ ∀ (b : Bundle) (docs : List Document), b.validate = .ok () →
    b.render = .ok docs → ∀ d ∈ docs, ∀ e ∈ docs, d.identity ≠ e.identity → d.path != e.path := by
  intro apart
  have valid : Sample.quarry.validate = .ok () := by decide +kernel
  have shape := validate_eq_ok.mp valid
  have tile : Document.ofDefinition "quarry" (.tileType (.plain "/stone")) ∈ Sample.quarry.documents :=
    mem_documents.mpr (.inr ⟨.tileType (.plain "/stone"), by decide +kernel, rfl⟩)
  have entity : Document.ofDefinition "quarry" (.entityType (.plain "/stone" .ground)) ∈
      Sample.quarry.documents :=
    mem_documents.mpr (.inr ⟨.entityType (.plain "/stone" .ground), by decide +kernel, rfl⟩)
  have differ := apart _ _ valid (render_of_consistent shape.named shape.consistent) _ tile _ entity
    (by decide +kernel)
  revert differ
  decide +kernel

end Bundle

end Skirmish
