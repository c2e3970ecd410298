import Skirmish.Proofs.Content.Entries
import Skirmish.Proofs.Content.Reachable

/-!
# What a document tells

Two values that are written alike are equal, but for what stands in other documents: of a reference only
the id is written. So equal documents of effects tell that the effects are equal, when an identity stands
for one content among the types that they carry (`Effect.tidy_eq_of_document`). One thing is lost on the
way: a credit to an empty name is written like a credit to nobody. Effects are **tidy** when such names
are taken away (`Effect.tidy`), and it is tidy effects that are told apart.

The document of a type tells all of the type, and the document of an ability all of the ability but the
types (`Definition.eq_of_document`, `Ability.tidy_eq_of_document`).
-/

namespace Skirmish

/-! ## Plain values -/

namespace Ron

variable {es es' : List (String × Ron)}

/-- Equal records with the same keys are made of the same entries. -/
theorem record_inj (same : record es = record es') (keys : es.map Prod.fst = es'.map Prod.fst)
    (distinct : (es.map Prod.fst).Nodup) : es = es' := by
  have distinct' : (es'.map Prod.fst).Nodup := keys ▸ distinct
  apply List.ext_getElem
  · simpa using congrArg List.length keys
  · intro i inside inside'
    have there : es[i] ∈ es' := by
      rw [← mem_record distinct', ← same, mem_record distinct]
      exact List.getElem_mem inside
    apply List.inj_on_of_nodup_map distinct' there (List.getElem_mem inside')
    have key := List.getElem_of_eq keys (by simpa using inside)
    rwa [List.getElem_map, List.getElem_map] at key

theorem record_ne_integer {value : Int} : record es ≠ .integer value := nofun

end Ron

theorem Modifier.document_inj {m m' : Modifier} (same : m.document = m'.document) : m = m' := by
  cases m <;> cases m' <;> simp_all [document, Ron.record, Ron.insertKey, Int32.toInt_inj]

theorem Modifier.documents_inj {ms ms' : List Modifier} (same : ms.map document = ms'.map document) :
    ms = ms' :=
  List.map_injective_iff.mpr (fun _ _ => document_inj) same

theorem Amount.document_inj {a a' : Amount} (same : a.document = a'.document) : a = a' := by
  suffices same : a.base = a'.base ∧ a.modifiers = a'.modifiers by
    cases a
    cases a'
    exact Amount.mk.injEq .. ▸ same
  by_cases none : a.modifiers = [] <;> by_cases none' : a'.modifiers = []
  · rw [document_of_nil none, document_of_nil none'] at same
    exact ⟨Int32.toInt_inj.mp (Ron.integer.inj same), none.trans none'.symm⟩
  · rw [document_of_nil none, document_of_ne_nil none'] at same
    exact absurd same.symm Ron.record_ne_integer
  · rw [document_of_ne_nil none, document_of_nil none'] at same
    exact absurd same Ron.record_ne_integer
  · rw [document_of_ne_nil none, document_of_ne_nil none'] at same
    have entries := Ron.record_inj same (by simp) (by simp)
    simp only [List.cons.injEq, Prod.mk.injEq, Ron.integer.injEq, Ron.seq.injEq] at entries
    obtain ⟨⟨-, base⟩, ⟨-, modifiers⟩, -⟩ := entries
    exact ⟨Int32.toInt_inj.mp base, Modifier.documents_inj modifiers⟩

theorem EffectKind.name_inj {k k' : EffectKind} (same : k.name = k'.name) : k = k' := by
  have back : ∀ k : EffectKind, ofName? k.name = some k := by
    intro k
    cases k <;> decide
  exact Option.some.inj ((back k).symm.trans ((congrArg ofName? same).trans (back k')))

theorem Domain.name_inj {k k' : Domain} (same : k.name = k'.name) : k = k' := by
  cases k <;> cases k' <;> first | rfl | exact absurd same (by decide)

namespace FieldValue

theorem document?_text {s s' : String} : (text s).document? = (text s').document? ↔ s = s' := by
  constructor
  · intro same
    simp only [document?] at same
    split at same <;> split at same <;> simp_all
  · rintro rfl
    rfl

theorem document?_integer {n n' : Int} : (integer n).document? = (integer n').document? ↔ n = n' := by
  simp [document?]

theorem document?_flag {b b' : Bool} : (flag b).document? = (flag b').document? ↔ b = b' := by
  simp [document?]

theorem document?_size {s s' : Size} : (size s).document? = (size s').document? ↔ s = s' := by
  constructor
  · intro same
    simp only [document?, Option.some.injEq] at same
    have entries := Ron.record_inj same (by simp) (by simp)
    simp only [List.cons.injEq, Prod.mk.injEq, Ron.integer.injEq, Int.natCast_inj] at entries
    obtain ⟨⟨-, width⟩, ⟨-, height⟩, -⟩ := entries
    cases s
    cases s'
    exact Size.mk.injEq .. ▸ ⟨width, height⟩
  · rintro rfl
    rfl

theorem document?_amount {a a' : Amount} : (amount a).document? = (amount a').document? ↔ a = a' := by
  constructor
  · exact fun same => Amount.document_inj (Option.some.inj same)
  · rintro rfl
    rfl

/-- Of a reference only the id is told. -/
theorem document?_reference {d d' : Definition} :
    (reference d).document? = (reference d').document? ↔ d.id = d'.id := by
  simp [document?]

theorem document?_references {ds ds' : List Definition} :
    (references ds).document? = (references ds').document? ↔
      ds.map Definition.id = ds'.map Definition.id := by
  have texts (ds : List Definition) :
      ds.map (fun d => Ron.text d.id) = (ds.map Definition.id).map Ron.text := by
    rw [List.map_map]
    rfl
  have inj : Function.Injective (List.map Ron.text) := List.map_injective_iff.mpr fun _ _ => Ron.text.inj
  simp only [document?, Option.some.injEq, Ron.seq.injEq, texts, inj.eq_iff]

theorem document?_effects {inner inner' : List Ron} :
    (effects inner).document? = (effects inner').document? ↔ inner = inner' := by
  simp [document?]

end FieldValue

/-! ## Tidy effects -/

/-- The action with nobody credited where the name of who is credited is empty. -/
def Action.tidy : Action → Action
  | .damage target attacker amount => .damage target (attacker.filter (· ≠ "")) amount
  | .healing target healer amount => .healing target (healer.filter (· ≠ "")) amount
  | action => action

mutual

/-- The effect with tidy actions, at any depth. -/
def Effect.tidy : Effect → Effect
  | .act action => .act action.tidy
  | .group members newTarget parallel effects => .group members newTarget parallel (Effect.tidyAll effects)

/-- Effects with tidy actions, at any depth. -/
def Effect.tidyAll : List Effect → List Effect
  | [] => []
  | effect :: effects => effect.tidy :: Effect.tidyAll effects

end

/-- The ability with tidy effects. -/
def Ability.tidy (a : Ability) : Ability := { a with effects := Effect.tidyAll a.effects }

/-- A credit is told by the text that is written for it, unless that is empty. -/
theorem credit_eq {credit credit' : Option String} (same : credit.getD "" = credit'.getD "") :
    credit.filter (· ≠ "") = credit'.filter (· ≠ "") := by
  cases credit <;> cases credit' <;> simp_all [Option.filter]

/-! ## Effects -/

/-- Whether an identity stands for one content on both sides. -/
def Definition.Agree (ds es : List Definition) : Prop :=
  ∀ d ∈ ds, ∀ e ∈ es, d.kind = e.kind → d.id = e.id → d = e

open Definition (Agree)

theorem Definition.Agree.mono {ds ds' es es' : List Definition} (agree : Agree ds es)
    (left : ∀ d ∈ ds', d ∈ ds) (right : ∀ e ∈ es', e ∈ es) : Agree ds' es' :=
  fun d hd e he => agree d (left d hd) e (right e he)

/-- Actions of one kind have fields with the same names. -/
theorem Action.names_eq {β : Type} {a a' : Action} (kinds : a.kind = a'.kind) :
    (a.fields : List (Field β)).map Field.name = (a'.fields : List (Field β)).map Field.name := by
  cases a <;> cases a' <;> first | rfl | cases kinds

/-- **Equal documents of actions** tell the same action, but for credits to an empty name. -/
theorem Action.tidy_eq_of_document {a a' : Action} (agree : Agree a.carried a'.carried)
    (same : (Effect.act a).document = (Effect.act a').document) : a.tidy = a'.tidy := by
  rw [Effect.document, Effect.document] at same
  have kinds : a.kind = a'.kind :=
    EffectKind.name_inj (Field.tag_eq_of_document a.fields_apart a'.fields_apart same)
  have values := Field.values_eq_of_document a.fields_apart a'.fields_apart same (names_eq kinds)
  cases a with
  | damage target attacker amount =>
    cases a' with
    | damage target' attacker' amount' =>
      simp only [fields, List.map_cons, List.cons.injEq, FieldValue.document?_text,
        FieldValue.document?_amount] at values
      obtain ⟨rfl, credit, rfl, -⟩ := values
      rw [tidy, tidy, credit_eq credit]
    | _ => cases kinds
  | healing target healer amount =>
    cases a' with
    | healing target' healer' amount' =>
      simp only [fields, List.map_cons, List.cons.injEq, FieldValue.document?_text,
        FieldValue.document?_amount] at values
      obtain ⟨rfl, credit, rfl, -⟩ := values
      rw [tidy, tidy, credit_eq credit]
    | _ => cases kinds
  | destruction target =>
    cases a' with
    | destruction target' =>
      simp only [fields, List.map_cons, List.cons.injEq, FieldValue.document?_text] at values
      obtain ⟨rfl, -⟩ := values
      rfl
    | _ => cases kinds
  | modification spot kind =>
    cases a' with
    | modification spot' kind' =>
      simp only [fields, List.map_cons, List.cons.injEq, FieldValue.document?_text,
        FieldValue.document?_reference] at values
      obtain ⟨rfl, ids, -⟩ := values
      cases agree _ List.mem_cons_self _ List.mem_cons_self rfl ids
      rfl
    | _ => cases kinds
  | spawn spot kind =>
    cases a' with
    | spawn spot' kind' =>
      simp only [fields, List.map_cons, List.cons.injEq, FieldValue.document?_text,
        FieldValue.document?_reference] at values
      obtain ⟨rfl, ids, -⟩ := values
      cases agree _ List.mem_cons_self _ List.mem_cons_self rfl ids
      rfl
    | _ => cases kinds
  | movement entity goal relative =>
    cases a' with
    | movement entity' goal' relative' =>
      simp only [fields, List.map_cons, List.cons.injEq, FieldValue.document?_text,
        FieldValue.document?_flag] at values
      obtain ⟨rfl, rfl, rfl, -⟩ := values
      rfl
    | _ => cases kinds
  | projectile source target =>
    cases a' with
    | projectile source' target' =>
      simp only [fields, List.map_cons, List.cons.injEq, FieldValue.document?_text] at values
      obtain ⟨rfl, rfl, -⟩ := values
      rfl
    | _ => cases kinds
  | areaTarget source radius newGroup =>
    cases a' with
    | areaTarget source' radius' newGroup' =>
      simp only [fields, List.map_cons, List.cons.injEq, FieldValue.document?_text,
        FieldValue.document?_integer, Int.natCast_inj] at values
      obtain ⟨rfl, rfl, rfl, -⟩ := values
      rfl
    | _ => cases kinds

/-- No action is written like a group. -/
theorem Effect.document_act_ne_group {a : Action} {members newTarget : String} {parallel : Bool}
    {effects : List Effect} : (act a).document ≠ (group members newTarget parallel effects).document := by
  intro same
  rw [document, document] at same
  have kinds : a.kind = .group := EffectKind.name_inj
    (Field.tag_eq_of_document a.fields_apart (groupFields_apart _ _ _ _) same)
  cases a <;> cases kinds

mutual

/-- **Equal documents of effects** tell the same effect, but for credits to an empty name. -/
theorem Effect.tidy_eq_of_document : (effect effect' : Effect) → Agree effect.carried effect'.carried →
    effect.document = effect'.document → effect.tidy = effect'.tidy
  | .act action, .act action' => by
    intro agree same
    rw [tidy, tidy, Action.tidy_eq_of_document agree same]
  | .act action, .group .. => fun _ same => absurd same document_act_ne_group
  | .group .., .act action => fun _ same => absurd same.symm document_act_ne_group
  | .group members newTarget parallel effects, .group members' newTarget' parallel' effects' => by
    intro agree same
    rw [document, document] at same
    have values := Field.values_eq_of_document (groupFields_apart _ _ _ _)
      (groupFields_apart _ _ _ _) same rfl
    simp only [groupFields, List.map_cons, List.cons.injEq, FieldValue.document?_text,
      FieldValue.document?_flag, FieldValue.document?_effects] at values
    obtain ⟨rfl, rfl, rfl, inner, -⟩ := values
    rw [carried, carried] at agree
    rw [tidy, tidy, Effect.tidyAll_eq_of_documents effects effects' agree inner]

theorem Effect.tidyAll_eq_of_documents : (effects effects' : List Effect) →
    Agree (Effect.carriedAll effects) (Effect.carriedAll effects') →
    Effect.documents effects = Effect.documents effects' → Effect.tidyAll effects = Effect.tidyAll effects'
  | [], [] => fun _ _ => rfl
  | [], _ :: _ => by
    intro _ same
    rw [documents, documents] at same
    cases same
  | _ :: _, [] => by
    intro _ same
    rw [documents, documents] at same
    cases same
  | effect :: effects, effect' :: effects' => by
    intro agree same
    rw [documents, documents, List.cons.injEq] at same
    rw [carriedAll, carriedAll] at agree
    have first := agree.mono (fun _ => List.mem_append_left _) fun _ => List.mem_append_left _
    have others := agree.mono (fun _ => List.mem_append_right _) fun _ => List.mem_append_right _
    rw [tidyAll, tidyAll, Effect.tidy_eq_of_document effect effect' first same.1,
      Effect.tidyAll_eq_of_documents effects effects' others same.2]

end

/-! ## Definitions -/

/-- Equal documents of definitions whose fields have the same names show the same under every name. -/
theorem Definition.values_eq {d d' : Definition} (same : d.document = d'.document)
    (names : d.fields.map Field.name = d'.fields.map Field.name) :
    d.fields.map (fun f => (f.value.map Effect.documents).document?) =
      d'.fields.map fun f => (f.value.map Effect.documents).document? := by
  rw [document, document] at same
  have names' : (d.fields.map (·.map Effect.documents)).map Field.name =
      (d'.fields.map (·.map Effect.documents)).map Field.name := by
    rw [List.map_map, List.map_map]
    exact names
  have values := Field.values_eq_of_document (Field.apart_map Effect.documents d.fields_apart)
    (Field.apart_map Effect.documents d'.fields_apart) same names'
  rw [List.map_map, List.map_map] at values
  exact values

/-- **The document of a type** tells all of it. -/
theorem Definition.eq_of_document {d d' : Definition} (type : d.IsType) (kinds : d.kind = d'.kind)
    (ids : d.id = d'.id) (same : d.document = d'.document) : d = d' := by
  cases d with
  | tileType k =>
    cases d' with
    | tileType k' =>
      have values := values_eq same rfl
      simp only [fields, TileType.fields, List.map_cons, FieldValue.map, List.cons.injEq,
        FieldValue.document?_text, FieldValue.document?_flag] at values
      obtain ⟨name, ground, air, visuals, -⟩ := values
      have whole : k = k' := by
        cases k
        cases k'
        exact TileType.mk.injEq .. ▸ ⟨ids, name, ground, air, visuals⟩
      rw [whole]
    | _ => cases kinds
  | entityType k =>
    cases d' with
    | entityType k' =>
      have values := values_eq same rfl
      simp only [fields, EntityType.fields, List.map_cons, FieldValue.map, List.cons.injEq,
        FieldValue.document?_text, FieldValue.document?_flag, FieldValue.document?_integer,
        Int.natCast_inj] at values
      obtain ⟨name, domain, agent, health, -⟩ := values
      have whole : k = k' := by
        cases k
        cases k'
        exact EntityType.mk.injEq .. ▸ ⟨ids, name, Domain.name_inj domain, agent, health⟩
      rw [whole]
    | _ => cases kinds
  | ability a => exact type.elim

/-- **The document of an ability** tells all of it, but for credits to an empty name and for the contents
of types. -/
theorem Ability.tidy_eq_of_document {a a' : Ability}
    (agree : Agree (Effect.carriedAll a.effects) (Effect.carriedAll a'.effects)) (ids : a.id = a'.id)
    (same : (Definition.ability a).document = (Definition.ability a').document) : a.tidy = a'.tidy := by
  have values := Definition.values_eq same rfl
  simp only [Definition.fields, fields, List.map_cons, FieldValue.map, List.cons.injEq,
    FieldValue.document?_text, FieldValue.document?_effects] at values
  obtain ⟨name, effects, -⟩ := values
  rw [tidy, tidy, Ability.mk.injEq]
  exact ⟨ids, name, Effect.tidyAll_eq_of_documents _ _ agree effects⟩

end Skirmish
