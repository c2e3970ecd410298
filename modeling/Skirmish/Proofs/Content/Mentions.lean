import Skirmish.Proofs.Content.Entries
import Skirmish.Proofs.Content.Reachable

/-!
# What a document mentions

In a document a reference is an id, and the name of its field tells the kind of what it refers to
(`DefinitionKind.ofField?`). A document **mentions** a definition when such a field has its id, at any
depth (`Ron.Mentions`); this reads the written tree and knows nothing of definitions. The document of a
definition mentions exactly what the definition refers to (`Definition.document_mentions`,
`Bundle.document_mentions`): nothing is lost on the way into the tree, and no other text of it stands
where a reference would be read.

The fields of a definition that refer are named so that their kind can be told, and all others are named
otherwise (`Field.Telling`). The proof goes from such fields to their document once
(`Field.document_mentions`), and then by induction through the effects.
-/

namespace Skirmish

/-- The kind of the definitions that a field refers to, told by its name. -/
def DefinitionKind.ofField? (name : String) : Option DefinitionKind :=
  if name = "default_tile" ∨ name = "tile_type" ∨ name = "tile_types" then some .tileType
  else if name = "entity_type" ∨ name = "entity_types" then some .entityType
  else if name = "abilities" then some .ability
  else none

open DefinitionKind (ofField?)

namespace Ron

/-- A text; nothing else is one. -/
def text? : Ron → Option String
  | .text value => some value
  | _ => none

/-- The texts that a value consists of: itself, or the items of a sequence. -/
def texts : Ron → List String
  | .text value => [value]
  | .seq items => items.filterMap text?
  | _ => []

/-- **What a document mentions.** -/
inductive Mentions (kind : DefinitionKind) (id : String) : Ron → Prop
  /-- A field whose name tells the kind has the id, alone or among others. -/
  | field {entries : List (String × Ron)} {name : String} {value : Ron} (entry : (name, value) ∈ entries)
      (refers : ofField? name = some kind) (written : id ∈ value.texts) : Mentions kind id (.map entries)
  /-- The value of a field mentions it. -/
  | within {entries : List (String × Ron)} {name : String} {value : Ron} (entry : (name, value) ∈ entries)
      (deeper : Mentions kind id value) : Mentions kind id (.map entries)
  /-- An item of a sequence mentions it. -/
  | among {items : List Ron} {item : Ron} (listed : item ∈ items) (deeper : Mentions kind id item) :
      Mentions kind id (.seq items)

variable {kind : DefinitionKind} {id : String}

/-- Whether a field mentions a definition, in its own right or deeper. -/
def FieldMentions (kind : DefinitionKind) (id : String) (name : String) (value : Ron) : Prop :=
  ofField? name = some kind ∧ id ∈ value.texts ∨ value.Mentions kind id

theorem mentions_map {entries : List (String × Ron)} : (Ron.map entries).Mentions kind id ↔
    ∃ name value, (name, value) ∈ entries ∧ FieldMentions kind id name value := by
  constructor
  · rintro (⟨entry, refers, written⟩ | ⟨entry, deeper⟩)
    · exact ⟨_, _, entry, .inl ⟨refers, written⟩⟩
    · exact ⟨_, _, entry, .inr deeper⟩
  · rintro ⟨name, value, entry, ⟨refers, written⟩ | deeper⟩
    · exact .field entry refers written
    · exact .within entry deeper

theorem mentions_seq {items : List Ron} :
    (Ron.seq items).Mentions kind id ↔ ∃ item ∈ items, item.Mentions kind id := by
  constructor
  · intro mentions
    cases mentions with
    | among listed deeper => exact ⟨_, listed, deeper⟩
  · rintro ⟨item, listed, deeper⟩
    exact .among listed deeper

theorem mentions_record {es : List (String × Ron)} (distinct : (es.map Prod.fst).Nodup) :
    (record es).Mentions kind id ↔ ∃ name value, (name, value) ∈ es ∧ FieldMentions kind id name value := by
  rw [← map_entries_record, mentions_map]
  simp only [mem_record distinct]

/-- A field of no telling name mentions what its value mentions. -/
theorem fieldMentions_of_silent {name : String} (silent : ofField? name = none) {value : Ron} :
    FieldMentions kind id name value ↔ value.Mentions kind id := by
  rw [FieldMentions, silent]
  exact or_iff_right nofun

/-! ## Plain values mention nothing -/

theorem not_mentions_text (value : String) : ¬ (text value).Mentions kind id := nofun

theorem not_mentions_integer (value : Int) : ¬ (integer value).Mentions kind id := nofun

theorem not_mentions_flag (value : Bool) : ¬ (flag value).Mentions kind id := nofun

theorem not_fieldMentions_integer (name : String) (value : Int) :
    ¬ FieldMentions kind id name (integer value) := by
  rintro (⟨-, written⟩ | deeper)
  · cases written
  · exact not_mentions_integer value deeper

theorem not_mentions_record {es : List (String × Ron)} (distinct : (es.map Prod.fst).Nodup)
    (plain : ∀ e ∈ es, ¬ FieldMentions kind id e.1 e.2) : ¬ (record es).Mentions kind id := by
  rw [mentions_record distinct]
  rintro ⟨name, value, entry, mentions⟩
  exact plain _ entry mentions

end Ron

open Ron

variable {kind : DefinitionKind} {id : String}

/-- A field with one id mentions it, when its name tells a kind. -/
theorem fieldMentions_text {name value : String} :
    FieldMentions kind id name (.text value) ↔ ofField? name = some kind ∧ value = id := by
  rw [FieldMentions, texts, List.mem_singleton, or_iff_left (not_mentions_text value), @eq_comm _ id]

/-- A field with a list of ids mentions each of them, when its name tells a kind. -/
theorem fieldMentions_ids {name : String} {ds : List Definition} :
    FieldMentions kind id name (.seq (ds.map fun d => .text d.id)) ↔
      ofField? name = some kind ∧ ∃ d ∈ ds, d.id = id := by
  have none : ¬ (Ron.seq (ds.map fun d => .text d.id)).Mentions kind id := by
    rw [mentions_seq]
    rintro ⟨item, listed, mentions⟩
    obtain ⟨d, -, rfl⟩ := List.mem_map.mp listed
    exact not_mentions_text d.id mentions
  rw [FieldMentions, texts, List.filterMap_map, List.mem_filterMap, or_iff_left none]
  simp only [Function.comp_apply, text?, Option.some.injEq]

theorem Modifier.not_mentions (m : Modifier) : ¬ m.document.Mentions kind id := by
  have one : ∀ (name : String) (value : Int), ¬ (record [(name, .integer value)]).Mentions kind id := by
    intro name value
    apply not_mentions_record (by simp)
    simp [not_fieldMentions_integer]
  cases m with
  | flat delta => exact one "flat" _
  | percent share => exact one "percent" _

theorem Amount.not_mentions (a : Amount) : ¬ a.document.Mentions kind id := by
  by_cases none : a.modifiers = []
  · rw [document_of_nil none]
    exact not_mentions_integer _
  · rw [document_of_ne_nil none]
    apply not_mentions_record (by simp)
    have silent : ofField? "modifiers" = .none := by decide
    simp [not_fieldMentions_integer, fieldMentions_of_silent silent, mentions_seq, Modifier.not_mentions]

/-! ## Fields that tell what they refer to -/

/-- Whether a list of documents mentions exactly what a list of definitions holds. -/
def Tells (documents : List Ron) (definitions : List Definition) : Prop := ∀ kind id,
  (∃ item ∈ documents, item.Mentions kind id) ↔ ∃ d ∈ definitions, d.kind = kind ∧ d.id = id

namespace Field

/-- Whether the name of a field tells the kind of what the field refers to, and tells none when the
field does not refer. -/
def Telling {β : Type} (f : Field β) : Prop :=
  match f.value with
  | .reference d => ofField? f.name = some d.kind
  | .references ds => ∃ kind, ofField? f.name = some kind ∧ ∀ d ∈ ds, d.kind = kind
  | _ => ofField? f.name = none

/-- **A field mentions what it refers to**, when what stands inside it does. -/
theorem shown_mentions {f : Field (List Effect)} (telling : f.Telling)
    (nested : ∀ es, f.value = .effects es → Tells (Effect.documents es) (Effect.referencesAll es)) :
    (∃ r, (f.value.map Effect.documents).document? = some r ∧ FieldMentions kind id f.name r) ↔
      ∃ d ∈ (f.value.map Effect.referencesAll).refs, d.kind = kind ∧ d.id = id := by
  obtain ⟨name, value⟩ := f
  have plain : ∀ shown : Option Ron, ofField? name = none → (∀ r ∈ shown, ¬ r.Mentions kind id) →
      ((∃ r, shown = some r ∧ FieldMentions kind id name r) ↔
        ∃ d ∈ ([] : List Definition), d.kind = kind ∧ d.id = id) := by
    intro shown silent nothing
    constructor
    · rintro ⟨r, rfl, mentions⟩
      exact absurd ((fieldMentions_of_silent silent).mp mentions) (nothing r rfl)
    · rintro ⟨d, hd, -⟩
      cases hd
  cases value with
  | text s =>
    apply plain _ telling
    intro r shown
    simp only [FieldValue.map, FieldValue.document?] at shown
    split at shown
    · cases shown
    · cases shown
      exact not_mentions_text s
  | integer n =>
    apply plain _ telling
    rintro r ⟨⟩
    exact not_mentions_integer n
  | flag b =>
    apply plain _ telling
    rintro r ⟨⟩
    exact not_mentions_flag b
  | size s =>
    apply plain _ telling
    rintro r ⟨⟩
    apply not_mentions_record (by simp)
    simp [not_fieldMentions_integer]
  | amount a =>
    apply plain _ telling
    rintro r ⟨⟩
    exact a.not_mentions
  | reference d =>
    have told : ofField? name = some d.kind := telling
    simp only [FieldValue.map, FieldValue.document?, FieldValue.refs, Option.some.injEq, exists_eq_left',
      fieldMentions_text, told, List.mem_singleton, exists_eq_left]
  | references ds =>
    obtain ⟨shared, told, all⟩ : ∃ kind, ofField? name = some kind ∧ ∀ d ∈ ds, d.kind = kind := telling
    simp only [FieldValue.map, FieldValue.document?, FieldValue.refs, Option.some.injEq, exists_eq_left',
      fieldMentions_ids, told]
    constructor
    · rintro ⟨rfl, d, hd, same⟩
      exact ⟨d, hd, all d hd, same⟩
    · rintro ⟨d, hd, rfl, same⟩
      exact ⟨(all d hd).symm, d, hd, same⟩
  | effects es =>
    have silent : ofField? name = none := telling
    simp only [FieldValue.map, FieldValue.document?, FieldValue.refs, Option.some.injEq, exists_eq_left',
      fieldMentions_of_silent silent, mentions_seq]
    exact nested es rfl kind id

variable {tag : String × String} {fields : List (Field (List Effect))}

/-- **A document of fields mentions what the fields refer to**, when what stands inside them does. -/
theorem document_mentions (apart : Apart tag.1 fields) (untold : ofField? tag.1 = none)
    (telling : ∀ f ∈ fields, f.Telling)
    (nested : ∀ f ∈ fields, ∀ es, f.value = .effects es →
      Tells (Effect.documents es) (Effect.referencesAll es)) :
    (document tag (fields.map (·.map Effect.documents))).Mentions kind id ↔
      ∃ d ∈ allRefs (fields.map (·.map Effect.referencesAll)), d.kind = kind ∧ d.id = id := by
  rw [← map_entries_document, mentions_map]
  simp only [mem_document (apart_map Effect.documents apart)]
  constructor
  · rintro ⟨name, value, ⟨rfl, rfl⟩ | ⟨g, hg, rfl, shown⟩, mentions⟩
    · rw [fieldMentions_text, untold] at mentions
      cases mentions.1
    · obtain ⟨f, hf, rfl⟩ := List.mem_map.mp hg
      obtain ⟨d, hd, same⟩ := (shown_mentions (telling f hf) (nested f hf)).mp ⟨value, shown, mentions⟩
      exact ⟨d, List.mem_flatMap.mpr ⟨_, List.mem_map_of_mem hf, hd⟩, same⟩
  · rintro ⟨d, hd, same⟩
    obtain ⟨g, hg, hd⟩ := List.mem_flatMap.mp hd
    obtain ⟨f, hf, rfl⟩ := List.mem_map.mp hg
    obtain ⟨value, shown, mentions⟩ := (shown_mentions (telling f hf) (nested f hf)).mpr ⟨d, hd, same⟩
    exact ⟨f.name, value, .inr ⟨_, List.mem_map_of_mem hf, rfl, shown⟩, mentions⟩

end Field

/-! ## Effects and definitions -/

theorem Action.fields_telling {β : Type} (action : Action) :
    ∀ f ∈ action.fields (β := β), f.Telling := by
  cases action <;> simp [fields, Field.Telling, Definition.kind, ofField?]

theorem Effect.fields_telling (effect : Effect) : ∀ f ∈ effect.fields, f.Telling := by
  cases effect with
  | act action => exact action.fields_telling
  | group => simp [fields, groupFields, Field.Telling, ofField?]

theorem Definition.fields_telling (d : Definition) : ∀ f ∈ d.fields, f.Telling := by
  cases d <;>
    simp [fields, TileType.fields, EntityType.fields, Ability.fields, Field.Telling, ofField?]

theorem Bundle.fields_telling {β : Type} (b : Bundle) : ∀ f ∈ b.fields (β := β), f.Telling := by
  simp [fields, Field.Telling, ofField?, Definition.kind]

/-- The fields of an action hold no effects, whatever stands for them. -/
theorem Action.fields_map {β γ : Type} (action : Action) (f : β → γ) :
    action.fields.map (·.map f) = action.fields := by
  cases action <;> rfl

theorem Action.fields_flat {β : Type} (action : Action) :
    ∀ f ∈ action.fields, ∀ es : β, f.value ≠ .effects es := by
  cases action <;> simp [fields]

mutual

/-- **The document of an effect mentions what the effect refers to.** -/
theorem Effect.document_mentions (kind : DefinitionKind) (id : String) : (effect : Effect) →
    (effect.document.Mentions kind id ↔ ∃ d ∈ effect.references, d.kind = kind ∧ d.id = id)
  | .act action => by
    rw [document, references, ← action.fields_map documents, ← action.fields_map referencesAll]
    apply Field.document_mentions action.fields_apart rfl action.fields_telling
    intro f hf es inside
    exact absurd inside (action.fields_flat f hf es)
  | .group members newTarget parallel effects => by
    have telling := (group members newTarget parallel effects).fields_telling
    rw [document, references]
    apply Field.document_mentions (groupFields_apart members newTarget parallel effects) rfl telling
    intro f hf es inside
    simp only [fields, groupFields, List.mem_cons, List.not_mem_nil, or_false] at hf
    obtain rfl | rfl | rfl | rfl := hf
    · cases inside
    · cases inside
    · cases inside
    · cases inside
      exact documents_tell effects

/-- The documents of effects mention what the effects refer to. -/
theorem Effect.documents_tell : (effects : List Effect) →
    Tells (Effect.documents effects) (Effect.referencesAll effects)
  | [] => by
    intro kind id
    rw [documents, referencesAll]
    simp only [List.not_mem_nil, false_and, exists_false]
  | effect :: effects => by
    intro kind id
    have first := Effect.document_mentions kind id effect
    have others := Effect.documents_tell effects kind id
    rw [documents, referencesAll]
    simp only [List.mem_cons, List.mem_append, or_and_right, exists_or, exists_eq_left, first, others]

end

/-- **The document of a definition mentions what the definition refers to.** -/
theorem Definition.document_mentions (d : Definition) :
    d.document.Mentions kind id ↔ ∃ r ∈ d.references, r.kind = kind ∧ r.id = id := by
  apply Field.document_mentions d.fields_apart rfl d.fields_telling
  intro f _ es _
  exact Effect.documents_tell es

/-- **The document of a bundle mentions what the bundle names.** -/
theorem Bundle.document_mentions (b : Bundle) :
    b.document.Mentions kind id ↔ ∃ r ∈ b.references, r.kind = kind ∧ r.id = id := by
  apply Field.document_mentions b.fields_apart rfl b.fields_telling
  intro f _ es _
  exact Effect.documents_tell es

end Skirmish
