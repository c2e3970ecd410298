import Mathlib.Data.List.Nodup
import Skirmish.Content.Document

/-!
# The entries of a document

A document keeps its entries ordered by key. When the keys are distinct the order is all that changes:
a record holds exactly the entries that it was made of (`Ron.mem_record`). The fields of every definition
have names of their own, and none has the name of the tag beside them (`Field.Apart`). So a document
holds the tag and, under the name of each field that is set, the value of the field
(`Field.mem_document`), and equal documents of fields with the same names show the same under every
name (`Field.values_eq_of_document`).
-/

namespace Skirmish

namespace Ron

/-- The entries of a map; nothing else has any. -/
def entries : Ron → List (String × Ron)
  | .map entries => entries
  | _ => []

variable {key : String} {value : Ron} {e : String × Ron} {l es : List (String × Ron)}

theorem map_entries_record (es : List (String × Ron)) : map (record es).entries = record es := rfl

theorem mem_insertKey (fresh : key ∉ l.map Prod.fst) :
    e ∈ insertKey key value l ↔ e = (key, value) ∨ e ∈ l := by
  induction l with
  | nil => exact List.mem_singleton.trans (or_iff_left List.not_mem_nil).symm
  | cons head l ih =>
    obtain ⟨k, v⟩ := head
    rw [List.map_cons, List.mem_cons, not_or] at fresh
    rw [insertKey, if_neg fresh.1]
    split
    · rw [List.mem_cons]
    · rw [List.mem_cons, ih fresh.2, List.mem_cons, or_left_comm]

theorem mem_keys_insertKey (fresh : key ∉ l.map Prod.fst) {k : String} :
    k ∈ (insertKey key value l).map Prod.fst ↔ k = key ∨ k ∈ l.map Prod.fst := by
  simp only [List.mem_map, mem_insertKey fresh]
  constructor
  · rintro ⟨_, rfl | old, rfl⟩
    · exact .inl rfl
    · exact .inr ⟨_, old, rfl⟩
  · rintro (rfl | ⟨e, old, rfl⟩)
    · exact ⟨_, .inl rfl, rfl⟩
    · exact ⟨e, .inr old, rfl⟩

/-- **A record holds the entries that it is made of**, when their keys are distinct. -/
theorem mem_record (distinct : (es.map Prod.fst).Nodup) : e ∈ (record es).entries ↔ e ∈ es := by
  have gathered : ∀ acc : List (String × Ron), (∀ k ∈ es.map Prod.fst, k ∉ acc.map Prod.fst) →
      (e ∈ es.foldl (fun acc e => insertKey e.1 e.2 acc) acc ↔ e ∈ acc ∨ e ∈ es) := by
    induction es with
    | nil => exact fun acc _ => (or_iff_left List.not_mem_nil).symm
    | cons x es ih =>
      intro acc fresh
      rw [List.map_cons, List.forall_mem_cons] at fresh
      rw [List.map_cons, List.nodup_cons] at distinct
      have later : ∀ k ∈ es.map Prod.fst, k ∉ (insertKey x.1 x.2 acc).map Prod.fst := by
        intro k hk
        rw [mem_keys_insertKey fresh.1, not_or]
        exact ⟨fun same => distinct.1 (same ▸ hk), fresh.2 k hk⟩
      rw [List.foldl_cons, ih distinct.2 _ later, mem_insertKey fresh.1, List.mem_cons, or_assoc,
        or_left_comm]
  rw [record, entries, gathered [] fun _ _ => List.not_mem_nil]
  exact or_iff_right List.not_mem_nil

end Ron

/-! ## Fields with names of their own -/

namespace Field

variable {β γ : Type}

/-- Whether fields have names of their own, and none has the name of the tag. -/
def Apart (tag : String) (fields : List (Field β)) : Prop := (tag :: fields.map Field.name).Nodup

theorem apart_map {tag : String} {fields : List (Field β)} (f : β → γ) (apart : Apart tag fields) :
    Apart tag (fields.map (·.map f)) := by
  rw [Apart, List.map_map]
  exact apart

variable {tag : String × String} {fields fields' : List (Field (List Ron))}

/-- The names of the fields that are set are some of the names of all, in their order. -/
theorem keys_sublist (fields : List (Field (List Ron))) :
    ((fields.filterMap fun f => f.value.document?.map (f.name, ·)).map Prod.fst).Sublist
      (fields.map Field.name) := by
  induction fields with
  | nil => exact .slnil
  | cons f fields ih =>
    rw [List.filterMap_cons]
    cases f.value.document? with
    | none => exact ih.cons _
    | some value => exact ih.cons_cons _

theorem map_entries_document (tag : String × String) (fields : List (Field (List Ron))) :
    Ron.map (document tag fields).entries = document tag fields := rfl

/-- **What a document holds**: the tag, and under its name the value of each field that is set. -/
theorem mem_document (apart : Apart tag.1 fields) {name : String} {value : Ron} :
    (name, value) ∈ (document tag fields).entries ↔ (name = tag.1 ∧ value = .text tag.2) ∨
      ∃ f ∈ fields, f.name = name ∧ f.value.document? = some value := by
  have distinct : (((tag.1, Ron.text tag.2) ::
      fields.filterMap fun f => f.value.document?.map (f.name, ·)).map Prod.fst).Nodup :=
    apart.sublist ((keys_sublist fields).cons_cons tag.1)
  rw [document, Ron.mem_record distinct, List.mem_cons, Prod.mk.injEq, List.mem_filterMap]
  apply or_congr_right
  apply exists_congr
  intro f
  rw [Option.map_eq_some_iff]
  constructor
  · rintro ⟨hf, v, shown, pair⟩
    cases pair
    exact ⟨hf, rfl, shown⟩
  · rintro ⟨hf, rfl, shown⟩
    exact ⟨hf, value, shown, rfl⟩

theorem mem_document_tag (apart : Apart tag.1 fields) {value : Ron} :
    (tag.1, value) ∈ (document tag fields).entries ↔ value = .text tag.2 := by
  rw [mem_document apart]
  constructor
  · rintro (⟨-, tagged⟩ | ⟨f, hf, same, -⟩)
    · exact tagged
    · exact absurd (List.mem_map.mpr ⟨f, hf, same⟩) (List.nodup_cons.mp apart).1
  · exact fun tagged => .inl ⟨rfl, tagged⟩

theorem mem_document_field (apart : Apart tag.1 fields) {f : Field (List Ron)} (hf : f ∈ fields)
    {value : Ron} :
    (f.name, value) ∈ (document tag fields).entries ↔ f.value.document? = some value := by
  obtain ⟨untagged, distinct⟩ := List.nodup_cons.mp apart
  rw [mem_document apart]
  constructor
  · rintro (⟨same, -⟩ | ⟨g, hg, same, shown⟩)
    · exact absurd (List.mem_map.mpr ⟨f, hf, same⟩) untagged
    · exact List.inj_on_of_nodup_map distinct hg hf same ▸ shown
  · exact fun shown => .inr ⟨f, hf, rfl, shown⟩

/-- Equal documents have one tag. -/
theorem tag_eq_of_document {name text text' : String} (apart : Apart name fields)
    (apart' : Apart name fields') (same : document (name, text) fields = document (name, text') fields') :
    text = text' := by
  have tagged : (name, .text text) ∈ (document (name, text) fields).entries :=
    (mem_document_tag apart).mpr rfl
  rw [same] at tagged
  have tagged' : Ron.text text = .text text' := (mem_document_tag apart').mp tagged
  exact Ron.text.inj tagged'

/-- **Equal documents of fields with the same names** show the same under every name. -/
theorem values_eq_of_document {tag' : String × String} (apart : Apart tag.1 fields)
    (apart' : Apart tag'.1 fields') (same : document tag fields = document tag' fields')
    (names : fields.map Field.name = fields'.map Field.name) :
    fields.map (·.value.document?) = fields'.map (·.value.document?) := by
  have lengths : fields.length = fields'.length := by simpa using congrArg List.length names
  apply List.ext_getElem
  · rw [List.length_map, List.length_map, lengths]
  · intro i inside inside'
    rw [List.length_map] at inside inside'
    have name : fields[i].name = fields'[i].name := by
      have at_i := congrArg (·[i]?) names
      simpa [inside, inside'] using at_i
    rw [List.getElem_map, List.getElem_map]
    apply Option.ext
    intro value
    rw [← mem_document_field apart (List.getElem_mem inside), same, name,
      mem_document_field apart' (List.getElem_mem inside')]

end Field

/-! ## Amounts -/

/-- A modifier as it is written. -/
def Modifier.document : Modifier → Ron
  | .flat delta => .record [("flat", .integer delta.toInt)]
  | .percent share => .record [("percent", .integer share.toInt)]

namespace Amount

variable {a : Amount}

theorem document_of_nil (none : a.modifiers = []) : a.document = .integer a.base.toInt := by
  rw [document, none]

theorem document_of_ne_nil (some : a.modifiers ≠ []) : a.document = .record
    [("base", .integer a.base.toInt), ("modifiers", .seq (a.modifiers.map Modifier.document))] := by
  have same : a.modifiers.map Modifier.document = a.modifiers.map fun
      | .flat delta => .record [("flat", .integer delta.toInt)]
      | .percent share => .record [("percent", .integer share.toInt)] := by
    apply List.map_congr_left
    intro m _
    cases m <;> rfl
  rw [same, document]
  split
  · next none => exact absurd none some
  · rfl

end Amount

/-! ## The fields of definitions -/

section

variable {β : Type}

theorem Action.fields_apart (action : Action) : Field.Apart "type" (action.fields (β := β)) := by
  cases action <;> simp [Field.Apart, fields]

theorem Effect.groupFields_apart (members newTarget : String) (parallel : Bool) (effects : β) :
    Field.Apart "type" (groupFields members newTarget parallel effects) := by
  simp [Field.Apart, groupFields]

theorem Definition.fields_apart (d : Definition) : Field.Apart "id" d.fields := by
  cases d <;> simp [Field.Apart, fields, TileType.fields, EntityType.fields, Ability.fields]

theorem Bundle.fields_apart (b : Bundle) : Field.Apart "id" (b.fields (β := β)) := by
  simp [Field.Apart, fields]

end

end Skirmish
