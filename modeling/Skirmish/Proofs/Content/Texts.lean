import Skirmish.Proofs.Content.Mentions

/-!
# The texts of a document

A text **occurs** in a document when it is a value or a key of it, at any depth (`Ron.Occurs`). An effect
has no document of its own: it stands **inline**, as an item under `effects`, and so do the effects inside
it (`Ron.Inlines`). Both read the written tree and know nothing of definitions.

Of the document of a definition, **the laws** say that the empty text does not occur in it, when the
definition and what it refers to have ids (`Definition.document_filled`), and that what stands inline in it
are the effects of the definition at any depth, each with the word for its kind
(`Definition.document_inlines`, `Effect.document_tag`). The ids that are referred to have to be asked for:
a text of a definition that is not set is left out, but the id of a reference is written whatever it is.
-/

namespace Skirmish

namespace Ron

/-- **Whether a text occurs in a document**, as a value or as a key. -/
inductive Occurs (s : String) : Ron → Prop
  | value : Occurs s (.text s)
  | key {entries : List (String × Ron)} {value : Ron} (entry : (s, value) ∈ entries) : Occurs s (.map entries)
  | within {entries : List (String × Ron)} {name : String} {value : Ron} (entry : (name, value) ∈ entries)
      (deeper : Occurs s value) : Occurs s (.map entries)
  | among {items : List Ron} {item : Ron} (listed : item ∈ items) (deeper : Occurs s item) :
      Occurs s (.seq items)

/-- **What stands inline in a document**: the items under `effects`, and what stands inline in these. -/
inductive Inlines : Ron → Ron → Prop
  | item {entries : List (String × Ron)} {items : List Ron} {t : Ron} (entry : ("effects", .seq items) ∈ entries)
      (listed : t ∈ items) : Inlines (.map entries) t
  | deeper {entries : List (String × Ron)} {items : List Ron} {item t : Ron}
      (entry : ("effects", .seq items) ∈ entries) (listed : item ∈ items) (inner : Inlines item t) :
      Inlines (.map entries) t

variable {s value : String} {t : Ron} {entries es : List (String × Ron)} {items : List Ron}

@[simp] theorem occurs_text : (text value).Occurs s ↔ value = s := by
  constructor
  · intro occurs
    cases occurs
    rfl
  · intro same
    exact same ▸ .value

@[simp] theorem occurs_integer (n : Int) : (integer n).Occurs s ↔ False := ⟨nofun, False.elim⟩

@[simp] theorem occurs_flag (b : Bool) : (flag b).Occurs s ↔ False := ⟨nofun, False.elim⟩

@[simp] theorem occurs_seq : (seq items).Occurs s ↔ ∃ item ∈ items, item.Occurs s := by
  constructor
  · intro occurs
    cases occurs with
    | among listed deeper => exact ⟨_, listed, deeper⟩
  · intro ⟨item, listed, deeper⟩
    exact .among listed deeper

theorem occurs_map : (map entries).Occurs s ↔ ∃ e ∈ entries, e.1 = s ∨ e.2.Occurs s := by
  constructor
  · intro occurs
    cases occurs with
    | key entry => exact ⟨_, entry, .inl rfl⟩
    | within entry deeper => exact ⟨_, entry, .inr deeper⟩
  · intro ⟨⟨name, value⟩, entry, here⟩
    rcases here with same | deeper
    · subst same
      exact .key entry
    · exact .within entry deeper

theorem occurs_record (distinct : (es.map Prod.fst).Nodup) :
    (record es).Occurs s ↔ ∃ e ∈ es, e.1 = s ∨ e.2.Occurs s := by
  rw [← map_entries_record, occurs_map]
  simp only [mem_record distinct]

theorem inlines_map : (map entries).Inlines t ↔
    ∃ items, ("effects", .seq items) ∈ entries ∧ ∃ item ∈ items, item = t ∨ item.Inlines t := by
  constructor
  · intro inline
    cases inline with
    | item entry listed => exact ⟨_, entry, _, listed, .inl rfl⟩
    | deeper entry listed inner => exact ⟨_, entry, _, listed, .inr inner⟩
  · intro ⟨items, entry, item, listed, here⟩
    rcases here with same | inner
    · exact .item entry (same ▸ listed)
    · exact .deeper entry listed inner

end Ron

open Ron

/-! ## The empty text -/

theorem Modifier.document_filled (m : Modifier) : ¬ m.document.Occurs "" := by
  cases m <;> simp [document, occurs_record]

theorem Amount.document_filled (a : Amount) : ¬ a.document.Occurs "" := by
  by_cases none : a.modifiers = []
  · simp [document_of_nil none]
  · simp [document_of_ne_nil none, occurs_record, Modifier.document_filled]

/-- **A value has no empty text**, when what it refers to has ids and what stands inside it has no empty
text. -/
theorem FieldValue.filled {v : FieldValue (List Effect)}
    (referred : ∀ d ∈ (v.map Effect.referencesAll).refs, d.id ≠ "")
    (nested : ∀ es, v = .effects es → ∀ r ∈ Effect.documents es, ¬ r.Occurs "") {r : Ron}
    (shown : (v.map Effect.documents).document? = some r) : ¬ r.Occurs "" := by
  cases v with
  | text s =>
    by_cases unset : s = ""
    · simp [FieldValue.map, document?, unset] at shown
    · simp only [FieldValue.map, document?, if_neg unset, Option.some.injEq] at shown
      subst shown
      simpa using unset
  | effects es =>
    cases shown
    simpa using nested es rfl
  | references ds =>
    cases shown
    simpa [FieldValue.map, refs] using referred
  | reference d =>
    cases shown
    simpa [FieldValue.map, refs] using referred
  | amount a =>
    cases shown
    exact a.document_filled
  | size s =>
    cases shown
    simp [occurs_record]
  | integer | flag =>
    cases shown
    simp

/-- **A document of fields has no empty text**, when its tag and the names of the fields are none, what the
fields refer to has ids, and what stands inside them has no empty text. -/
theorem Field.document_filled {tag : String × String} {fields : List (Field (List Effect))}
    (apart : Apart tag.1 fields) (tagged : tag.1 ≠ "" ∧ tag.2 ≠ "") (names : ∀ f ∈ fields, f.name ≠ "")
    (referred : ∀ d ∈ allRefs (fields.map (·.map Effect.referencesAll)), d.id ≠ "")
    (nested : ∀ f ∈ fields, ∀ es, f.value = .effects es → ∀ r ∈ Effect.documents es, ¬ r.Occurs "") :
    ¬ (document tag (fields.map (·.map Effect.documents))).Occurs "" := by
  rw [← map_entries_document, occurs_map]
  intro ⟨⟨name, value⟩, entry, here⟩
  rcases (mem_document (apart_map Effect.documents apart)).mp entry with ⟨same, text⟩ | ⟨g, hg, same, shown⟩
  · subst same text
    simp [tagged] at here
  · obtain ⟨f, hf, rfl⟩ := List.mem_map.mp hg
    subst same
    rcases here with nameless | deeper
    · exact names f hf nameless
    · refine FieldValue.filled ?_ (nested f hf) shown deeper
      intro d hd
      exact referred d (List.mem_flatMap.mpr ⟨_, List.mem_map_of_mem hf, hd⟩)

theorem Action.fields_named {β : Type} (action : Action) : ∀ f ∈ action.fields (β := β), f.name ≠ "" := by
  cases action <;> simp [fields]

theorem Definition.fields_named (d : Definition) : ∀ f ∈ d.fields, f.name ≠ "" := by
  cases d <;> simp [fields, TileType.fields, EntityType.fields, Ability.fields]

theorem EffectKind.name_ne (kind : EffectKind) : kind.name ≠ "" := by
  cases kind <;> simp [name]

mutual

/-- **The document of an effect has no empty text**, when what the effect refers to has ids. -/
theorem Effect.document_filled : (effect : Effect) → (∀ d ∈ effect.references, d.id ≠ "") →
    ¬ effect.document.Occurs ""
  | .act action, referred => by
    rw [references, ← action.fields_map referencesAll] at referred
    rw [document, ← action.fields_map documents]
    apply Field.document_filled action.fields_apart ⟨by simp, EffectKind.name_ne _⟩ action.fields_named referred
    intro f hf es inside
    exact absurd inside (action.fields_flat f hf es)
  | .group members newTarget parallel effects, referred => by
    have fields_referred : ∀ d ∈ Field.allRefs
        ((groupFields members newTarget parallel effects).map (·.map referencesAll)), d.id ≠ "" := by
      rw [references] at referred
      exact referred
    rw [document]
    apply Field.document_filled (groupFields_apart members newTarget parallel effects)
      ⟨by simp, EffectKind.name_ne .group⟩ (by simp [groupFields]) fields_referred
    intro f hf es inside
    rw [references_group] at referred
    simp only [groupFields, List.mem_cons, List.not_mem_nil, or_false] at hf
    obtain rfl | rfl | rfl | rfl := hf
    · cases inside
    · cases inside
    · cases inside
    · cases inside
      exact documents_filled effects referred

/-- The documents of effects have no empty text. -/
theorem Effect.documents_filled : (effects : List Effect) →
    (∀ d ∈ Effect.referencesAll effects, d.id ≠ "") → ∀ r ∈ Effect.documents effects, ¬ r.Occurs ""
  | [], _ => nofun
  | effect :: effects, referred => by
    rw [referencesAll, List.forall_mem_append] at referred
    rw [documents, List.forall_mem_cons]
    exact ⟨effect.document_filled referred.1, documents_filled effects referred.2⟩

end

/-- **The document of a definition has no empty text**, when it and what it refers to have ids. -/
theorem Definition.document_filled {d : Definition} (named : d.id ≠ "")
    (referred : ∀ r ∈ d.references, r.id ≠ "") : ¬ d.document.Occurs "" := by
  apply Field.document_filled d.fields_apart ⟨by simp, named⟩ d.fields_named referred
  intro f hf es inside
  apply Effect.documents_filled es
  intro r hr
  have refers : r ∈ (f.value.map Effect.referencesAll).refs := by
    rw [inside]
    exact hr
  exact referred r (List.mem_flatMap.mpr ⟨_, List.mem_map_of_mem hf, refers⟩)

/-- **The document of a bundle has no empty text**, when the bundle and what it names have ids. -/
theorem Bundle.document_filled {b : Bundle} (named : b.id ≠ "") (referred : ∀ r ∈ b.references, r.id ≠ "") :
    ¬ b.document.Occurs "" := by
  have fields_named : ∀ f ∈ b.fields (β := List Effect), f.name ≠ "" := by
    simp [fields]
  have fields_flat : ∀ f ∈ b.fields, ∀ es : List Effect, f.value ≠ .effects es := by
    simp [fields]
  apply Field.document_filled b.fields_apart ⟨by simp, named⟩ fields_named referred
  intro f hf es inside
  exact absurd inside (fields_flat f hf es)

/-! ## What stands inline -/

mutual

/-- An effect, and the effects inside it at any depth. -/
def Effect.parts : Effect → List Effect
  | .act action => [.act action]
  | .group members newTarget parallel effects =>
    .group members newTarget parallel effects :: Effect.partsAll effects

/-- Effects, and the effects inside them at any depth. -/
def Effect.partsAll : List Effect → List Effect
  | [] => []
  | effect :: effects => effect.parts ++ Effect.partsAll effects

end

/-- **The document of an effect has the word for its kind**, and no other, under `type`. -/
theorem Effect.document_tag (effect : Effect) {r : Ron} :
    ("type", r) ∈ effect.document.entries ↔ r = .text effect.kind.name := by
  cases effect with
  | act action =>
    rw [document]
    exact Field.mem_document_tag action.fields_apart
  | group members newTarget parallel effects =>
    rw [document]
    exact Field.mem_document_tag (groupFields_apart members newTarget parallel (documents effects))

theorem Definition.document_tag (d : Definition) {r : Ron} :
    ("id", r) ∈ d.document.entries ↔ r = .text d.id :=
  Field.mem_document_tag (Field.apart_map Effect.documents d.fields_apart)

theorem Bundle.document_tag (b : Bundle) {r : Ron} : ("id", r) ∈ b.document.entries ↔ r = .text b.id :=
  Field.mem_document_tag b.fields_apart

/-- What stands inline in a document of fields stands in the field for effects. -/
theorem Field.document_inlines {tag : String × String} {fields : List (Field (List Ron))}
    (apart : Apart tag.1 fields) (tagged : tag.1 ≠ "effects") : (document tag fields).Inlines t ↔
      ∃ f ∈ fields, f.name = "effects" ∧ ∃ items, f.value.document? = some (.seq items) ∧
        ∃ item ∈ items, item = t ∨ item.Inlines t := by
  rw [← map_entries_document, inlines_map]
  simp only [mem_document apart, tagged.symm, false_and, false_or]
  constructor
  · intro ⟨items, ⟨f, hf, name, value⟩, item⟩
    exact ⟨f, hf, name, items, value, item⟩
  · intro ⟨f, hf, name, items, value, item⟩
    exact ⟨items, ⟨f, hf, name, value⟩, item⟩

theorem Action.document_inlines (action : Action) : ¬ (Effect.act action).document.Inlines t := by
  rw [Effect.document, Field.document_inlines action.fields_apart (by simp)]
  cases action <;> simp [fields]

theorem Effect.group_inlines (members newTarget : String) (parallel : Bool) (effects : List Effect) :
    (group members newTarget parallel effects).document.Inlines t ↔
      ∃ r ∈ Effect.documents effects, r = t ∨ r.Inlines t := by
  rw [document, Field.document_inlines (groupFields_apart members newTarget parallel _) (by simp)]
  simp [groupFields, FieldValue.document?]

mutual

/-- **The document of an effect, with what stands inline in it**, are the documents of its parts. -/
theorem Effect.document_inlines (t : Ron) : (effect : Effect) →
    (effect.document = t ∨ effect.document.Inlines t ↔ ∃ part ∈ effect.parts, part.document = t)
  | .act action => by
    simp [parts, action.document_inlines]
  | .group members newTarget parallel effects => by
    rw [group_inlines, documents_inline t effects]
    simp [parts]

/-- The same of effects one after the other. -/
theorem Effect.documents_inline (t : Ron) : (effects : List Effect) →
    ((∃ r ∈ Effect.documents effects, r = t ∨ r.Inlines t) ↔
      ∃ part ∈ Effect.partsAll effects, part.document = t)
  | [] => by
    simp [documents, partsAll]
  | effect :: effects => by
    simp only [documents, partsAll, List.exists_mem_cons_iff, List.mem_append, or_and_right, exists_or,
      effect.document_inlines t, documents_inline t effects]

end

/-- **What stands inline in the document of a definition** are the effects of an ability, at any depth. -/
theorem Definition.document_inlines (d : Definition) : d.document.Inlines t ↔
    ∃ a, d = .ability a ∧ ∃ part ∈ Effect.partsAll a.effects, part.document = t := by
  rw [document, Field.document_inlines (Field.apart_map Effect.documents d.fields_apart) (by simp)]
  cases d with
  | tileType k => simp [fields, TileType.fields, Field.map]
  | entityType k => simp [fields, EntityType.fields, Field.map]
  | ability a =>
    simp [fields, Ability.fields, Field.map, FieldValue.map, FieldValue.document?, Effect.documents_inline]

theorem Bundle.document_inlines (b : Bundle) : ¬ b.document.Inlines t := by
  rw [document, Field.document_inlines b.fields_apart (by simp)]
  simp [fields]

end Skirmish
