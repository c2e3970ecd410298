import Skirmish.Proofs.Board.Edits

/-!
# Ghosts are invisible to placement

A ghost is an entity that claims no layer. Nothing on a tile blocks it and it blocks nothing, so nobody
else can tell whether it is there. **The law** compares two runs of changes: one with all changes of a
board, and one from which the changes of ghosts are erased. What is left is answered alike in both, and
the boards at the end differ in the ghosts alone (`ghosts_unseen`).

**The argument.** A board without its ghosts (`Board.without`) answers every change of others as the board
with them, and the boards after it differ in the ghosts alone (`outcome_without`); a change of a ghost
cannot be told on the board without ghosts (`attempt_hidden`). Both need that ghosts are recorded without
layers (`Board.Records`), which holds as long as each identifier comes with the same layers every time.
-/

namespace Skirmish

variable {gone : EntityId → Bool}

/-! ## Leaving out some entities -/

/-- The registry without the values of some identifiers. -/
def Registry.without {α : Type} [HasId α] (gone : EntityId → Bool) (r : Registry α) : Registry α :=
  ⟨r.entries.filter (fun a => !gone (idOf a)), r.sorted.sublist List.filter_sublist⟩

/-- The tile without some of its occupants. -/
def Tile.without (gone : EntityId → Bool) (t : Tile) : Tile :=
  { t with occupants := t.occupants.filter (fun o => !gone o.id) }

/-- Whether a tile records those who may be left out with no layer. -/
def Tile.Records (gone : EntityId → Bool) (t : Tile) : Prop :=
  ∀ o ∈ t.occupants, gone o.id = true → o.layers = .empty

/-- The board without some entities: no tile lists them and the index does not know them. -/
def Board.without (gone : EntityId → Bool) (b : Board) : Board :=
  (b.mapTiles (Tile.without gone)).reindex (Registry.without gone)

namespace Registry

variable {α : Type} [HasId α] (r : Registry α)

theorem get?_without (i : EntityId) : (r.without gone).get? i = if gone i then none else r.get? i := by
  show (r.entries.filter _).find? _ = _
  rw [List.find?_filter]
  cases hidden : gone i with
  | true =>
    rw [if_pos rfl, List.find?_eq_none]
    intro a _ found
    simp only [Bool.not_eq_true', decide_eq_true_eq] at found
    rw [found.2, hidden] at found
    exact Bool.false_ne_true found.1.symm
  | false =>
    rw [if_neg Bool.false_ne_true]
    refine congrArg (List.find? · r.entries) (funext fun a => ?_)
    by_cases same : idOf a = i
    · simp [same, hidden]
    · simp [same]

/-- A value that is not left out may be put in before or after. -/
theorem insert_without {a : α} (seen : gone (idOf a) = false) :
    (r.insert a).without gone = (r.without gone).insert a := by
  apply ext_get?
  intro i
  rw [get?_without, get?_insert, get?_insert, get?_without]
  by_cases same : idOf a = i
  · rw [if_pos same, if_pos same, ← same, seen, if_neg Bool.false_ne_true]
  · rw [if_neg same, if_neg same]

theorem insert_hidden {a : α} (hidden : gone (idOf a) = true) :
    (r.insert a).without gone = r.without gone := by
  apply ext_get?
  intro i
  rw [get?_without, get?_without, get?_insert]
  by_cases same : idOf a = i
  · rw [← same, if_pos hidden, if_pos hidden]
  · rw [if_neg same]

theorem erase_without (id : EntityId) : (r.erase id).without gone = (r.without gone).erase id := by
  apply ext_get?
  intro i
  rw [get?_without, get?_erase, get?_erase, get?_without]
  split <;> split <;> rfl

theorem erase_hidden {id : EntityId} (hidden : gone id = true) :
    (r.erase id).without gone = r.without gone := by
  apply ext_get?
  intro i
  rw [get?_without, get?_without, get?_erase]
  by_cases same : i = id
  · rw [same, if_pos hidden, if_pos hidden]
  · rw [if_neg same]

end Registry

namespace Tile

variable (t : Tile) {id : EntityId} {who : Occupant}

theorem receive_without (seen : gone who.id = false) :
    (t.receive who).without gone = (t.without gone).receive who := by
  simp [receive, without, seen]

theorem receive_hidden (hidden : gone who.id = true) : (t.receive who).without gone = t.without gone := by
  simp [receive, without, hidden]

theorem release_without (seen : gone id = false) :
    (t.release id).without gone = (t.without gone).release id := by
  refine congrArg (Tile.mk t.kind) ?_
  show (t.occupants.eraseP _).filter _ = (t.occupants.filter _).eraseP _
  rw [List.eraseP_filter]
  congr 2
  funext o
  by_cases same : o.id = id
  · simp [same, seen]
  · simp [same]

/-- Who is left out anyway may leave before. The induction finds the first of the identifier. -/
theorem release_hidden (hidden : gone id = true) : (t.release id).without gone = t.without gone := by
  obtain ⟨kind, os⟩ := t
  refine congrArg (Tile.mk kind) ?_
  show (os.eraseP _).filter _ = os.filter _
  induction os with
  | nil => rfl
  | cons o os ih =>
    by_cases same : o.id = id
    · rw [List.eraseP_cons_of_pos (by simpa using same), List.filter_cons_of_neg (by simp [same, hidden])]
    · rw [List.eraseP_cons_of_neg (by simpa using same), List.filter_cons, List.filter_cons, ih]

/-- Who claims nothing may be left out of what is claimed. -/
theorem claimed_without (recorded : t.Records gone)
    (layers : Layers) : (t.without gone).claimed.meets layers = t.claimed.meets layers := by
  rw [claimed_meets, claimed_meets, Bool.eq_iff_iff, List.any_eq_true, List.any_eq_true]
  constructor
  · rintro ⟨o, here, claims⟩
    exact ⟨o, List.mem_of_mem_filter here, claims⟩
  · rintro ⟨o, here, claims⟩
    refine ⟨o, List.mem_filter.mpr ⟨here, ?_⟩, claims⟩
    rw [Bool.not_eq_true', ← Bool.not_eq_true]
    intro hidden
    rw [recorded o here hidden, Layers.empty_meets] at claims
    cases claims

theorem checkAdd_without (recorded : t.Records gone)
    (layers : Layers) : (t.without gone).checkAdd layers = t.checkAdd layers := by
  rw [checkAdd, claimed_without t recorded]
  rfl

theorem checkModify_without (recorded : t.Records gone)
    (kind : TileType) : (t.without gone).checkModify kind = t.checkModify kind := by
  rw [checkModify, Layers.meets_comm, claimed_without t recorded, Layers.meets_comm]
  rfl

theorem Records.receive {t : Tile} (h : t.Records gone) (fair : gone who.id = true → who.layers = .empty) :
    (t.receive who).Records gone := by
  intro o here
  rcases List.mem_append.mp here with old | last
  · exact h o old
  · rw [List.mem_singleton.mp last]
    exact fair

theorem Records.release {t : Tile} (h : t.Records gone) : (t.release id).Records gone :=
  fun o here => h o (List.mem_of_mem_eraseP here)

end Tile

/-- A tile takes who claims nothing. -/
theorem Tile.Verdict.ok_of_empty {t : Tile} {r : Except BoardError Unit} (rule : t.Verdict .empty r) :
    r = .ok () := by
  cases rule with
  | blocked blocks =>
    rw [Layers.meets_empty] at blocks
    cases blocks
  | occupied _ _ claims =>
    rw [Layers.meets_empty] at claims
    cases claims
  | free => rfl

/-! ## Boards without their ghosts -/

namespace Board

variable {b : Board} {who : Occupant} {id : EntityId} {spot home goal : Coords} {kind : TileType}
  {c : Change} {e : BoardError}

/-- Whether all tiles record those who may be left out with no layer. -/
def Records (gone : EntityId → Bool) (b : Board) : Prop :=
  ∀ spot t, b.tile? spot = some t → t.Records gone

theorem tile?_without : (b.without gone).tile? spot = (b.tile? spot).map (Tile.without gone) := by
  rw [without, tile?_reindex, tile?_mapTiles]

theorem coords?_without : (b.without gone).coords? id = if gone id then none else b.coords? id := by
  show ((Registry.without gone b.placed).get? id).map Placement.spot = _
  rw [Registry.get?_without]
  split <;> rfl

theorem coords?_seen (seen : gone id = false) : (b.without gone).coords? id = b.coords? id := by
  rw [coords?_without, seen, if_neg Bool.false_ne_true]

/-! ### The commits -/

theorem updateTile_without {f f' : Tile → Tile}
    (same : ∀ t : Tile, f' (t.without gone) = (f t).without gone) :
    (b.without gone).updateTile spot f' = (b.updateTile spot f).without gone := by
  unfold without
  rw [updateTile_reindex, updateTile_mapTiles same]

/-- A change of a tile that shows only on those who are left out. -/
theorem updateTile_hidden {f : Tile → Tile} (hidden : ∀ t : Tile, (f t).without gone = t.without gone) :
    (b.updateTile spot f).without gone = b.without gone := by
  have same : (b.without gone).updateTile spot (fun t => t) = (b.updateTile spot f).without gone :=
    updateTile_without fun t => (hidden t).symm
  rw [← same, updateTile_self]

theorem reindex_without {f : Registry Placement → Registry Placement}
    (same : ∀ r, (f r).without gone = f (Registry.without gone r)) :
    (b.reindex f).without gone = (b.without gone).reindex f :=
  eq_of_parts rfl rfl (same b.placed)

theorem reindex_hidden {f : Registry Placement → Registry Placement}
    (hidden : ∀ r, (f r).without gone = Registry.without gone r) :
    (b.reindex f).without gone = b.without gone :=
  eq_of_parts rfl rfl (hidden b.placed)

theorem place_without (seen : gone who.id = false) :
    (b.place who spot).without gone = (b.without gone).place who spot := by
  unfold place
  rw [reindex_without fun r => r.insert_without seen,
    updateTile_without fun t => (t.receive_without seen).symm]

theorem place_hidden (hidden : gone who.id = true) :
    (b.place who spot).without gone = b.without gone := by
  unfold place
  rw [reindex_hidden fun r => r.insert_hidden hidden, updateTile_hidden fun t => t.receive_hidden hidden]

theorem clear_without (seen : gone id = false) :
    (b.clear id spot).without gone = (b.without gone).clear id spot := by
  unfold clear
  rw [reindex_without fun r => r.erase_without id,
    updateTile_without fun t => (t.release_without seen).symm]

theorem clear_hidden (hidden : gone id = true) : (b.clear id spot).without gone = b.without gone := by
  unfold clear
  rw [reindex_hidden fun r => r.erase_hidden hidden, updateTile_hidden fun t => t.release_hidden hidden]

theorem relocate_without (seen : gone who.id = false) :
    (b.relocate who home goal).without gone = (b.without gone).relocate who home goal := by
  unfold relocate
  rw [reindex_without fun r => r.insert_without seen,
    updateTile_without fun t => (t.receive_without seen).symm,
    updateTile_without fun t => (t.release_without seen).symm]

theorem relocate_hidden (hidden : gone who.id = true) :
    (b.relocate who home goal).without gone = b.without gone := by
  unfold relocate
  rw [reindex_hidden fun r => r.insert_hidden hidden, updateTile_hidden fun t => t.release_hidden hidden,
    updateTile_hidden fun t => t.receive_hidden hidden]

/-! ### The operations -/

theorem contains_seen (seen : gone id = false) : (b.without gone).contains id = b.contains id := by
  rw [Bool.eq_iff_iff, contains_eq_true, contains_eq_true, coords?_seen seen]

theorem checkAdd_seen (recorded : b.Records gone) (seen : gone who.id = false) :
    (b.without gone).checkAdd who spot = b.checkAdd who spot := by
  rw [checkAdd, checkAdd, contains_seen seen, tile?_without]
  cases tile : b.tile? spot with
  | none => rfl
  | some t => exact congrArg (ite _ _) (t.checkAdd_without (recorded spot t tile) who.layers)

theorem checkMove_seen (recorded : b.Records gone) (seen : gone who.id = false) :
    (b.without gone).checkMove who goal = b.checkMove who goal := by
  rw [checkMove, checkMove, coords?_seen seen, tile?_without]
  cases tile : b.tile? goal with
  | none => rfl
  | some t => simp only [Option.map_some, t.checkAdd_without (recorded goal t tile)]

theorem checkModify_seen (recorded : b.Records gone) :
    (b.without gone).checkModify kind spot = b.checkModify kind spot := by
  rw [checkModify, checkModify, tile?_without]
  cases tile : b.tile? spot with
  | none => rfl
  | some t => exact t.checkModify_without (recorded spot t tile) kind

theorem add_without (recorded : b.Records gone) (seen : gone who.id = false) :
    (b.without gone).add who spot = (b.add who spot).map (without gone) := by
  rw [add, add, checkAdd_seen recorded seen, ← place_without seen]
  cases b.checkAdd who spot <;> rfl

theorem move_without (recorded : b.Records gone) (seen : gone who.id = false) :
    (b.without gone).move who goal = (b.move who goal).map fun (home, b') => (home, b'.without gone) := by
  rw [move, move, checkMove_seen recorded seen, coords?_seen seen]
  cases b.checkMove who goal with
  | error e => rfl
  | ok _ =>
    cases b.coords? who.id with
    | none => rfl
    | some home =>
      simp only [← relocate_without seen, Except.map]
      split <;> rfl

theorem remove_without (seen : gone id = false) :
    (b.without gone).remove id = (b.remove id).map fun (home, b') => (home, b'.without gone) := by
  rw [remove, remove, coords?_seen seen]
  cases b.coords? id with
  | none => rfl
  | some home => simp only [← clear_without seen, Except.map]

theorem modify_without (recorded : b.Records gone) : (b.without gone).modify kind spot =
    (b.modify kind spot).map fun (previous, b') => (previous, b'.without gone) := by
  rw [modify, modify, checkModify_seen recorded, tile?_without]
  cases b.checkModify kind spot with
  | error e => rfl
  | ok _ =>
    cases b.tile? spot with
    | none => rfl
    | some t =>
      simp only [Option.map_some, Except.map]
      rw [updateTile_without (f := ({ · with kind := kind })) fun _ => rfl]
      rfl

/-! ## Changes of ghosts and of others -/

/-- Whom a change is about; a change of a tile's type is about nobody. -/
def Change.subject? : Change → Option EntityId
  | .add who _ | .move who _ => who.id
  | .remove id => id
  | .modify _ _ => none

/-- Whether a change is about one of those who are left out. -/
def Change.about (gone : EntityId → Bool) (c : Change) : Bool := c.subject?.any gone

/-- Whether a change presents its entity with the layers that this entity is to claim. -/
def Change.Presents (claim : EntityId → Layers) : Change → Prop
  | .add who _ | .move who _ => who.layers = claim who.id
  | _ => True

/-- **A change of others** is answered alike, and what it leaves differs in those who are left out. -/
theorem outcome_without (recorded : b.Records gone) (seen : c.about gone = false) :
    (b.without gone).outcome c = (b.outcome c).map fun (reply, b') => (reply, b'.without gone) := by
  cases c with
  | add who spot =>
    rw [outcome, outcome, add_without recorded seen]
    cases b.add who spot <;> rfl
  | move who goal =>
    rw [outcome, outcome, move_without recorded seen]
    cases b.move who goal <;> rfl
  | remove id =>
    rw [outcome, outcome, remove_without seen]
    cases b.remove id <;> rfl
  | modify kind spot =>
    rw [outcome, outcome, modify_without recorded]
    cases b.modify kind spot <;> rfl

/-- **A change of those who are left out** cannot be told without them. -/
theorem attempt_hidden (hidden : c.about gone = true) : (b.attempt c).without gone = b.without gone := by
  refine attempt_cases b c (P := fun b' => b'.without gone = b.without gone) rfl ?_ ?_ ?_ ?_
  · rintro who spot _ rfl - - -
    exact place_hidden hidden
  · rintro who home goal _ rfl - - - -
    exact relocate_hidden hidden
  · rintro id home rfl -
    exact clear_hidden hidden
  · rintro kind spot _ rfl - -
    cases hidden

/-! ## Ghosts -/

/-- The ghosts among the identifiers: those that claim no layer. -/
def ghost (claim : EntityId → Layers) (id : EntityId) : Bool := decide (claim id = .empty)

theorem Records.updateTile {f : Tile → Tile} (h : b.Records gone)
    (kept : ∀ t : Tile, t.Records gone → (f t).Records gone) : (b.updateTile spot f).Records gone := by
  intro cell t tile
  rw [tile?_updateTile] at tile
  split at tile
  · obtain ⟨u, there, rfl⟩ := Option.map_eq_some_iff.mp tile
    exact kept u (h cell u there)
  · exact h cell t tile

/-- **Ghosts are recorded as ghosts**, as long as changes present their entities as they claim. -/
theorem Records.attempt {claim : EntityId → Layers} (h : b.Records (ghost claim))
    (presented : c.Presents claim) : (b.attempt c).Records (ghost claim) := by
  have fair : ∀ who : Occupant, who.layers = claim who.id → ghost claim who.id = true → who.layers = .empty :=
    fun who as_claimed none => as_claimed.trans (of_decide_eq_true none)
  refine attempt_cases b c (P := Records (ghost claim)) h ?_ ?_ ?_ ?_
  · rintro who spot _ rfl - - -
    exact h.updateTile fun t old => old.receive (fair who presented)
  · rintro who home goal _ rfl - - - -
    exact (h.updateTile fun t old => old.receive (fair who presented)).updateTile fun t old => old.release
  · rintro id home rfl -
    exact h.updateTile fun t old => old.release
  · rintro kind spot _ rfl - -
    exact h.updateTile fun t old => old

/-! ## Runs of edits -/

/-- What an edit answers. -/
def Edit.answer (c : Change) (b : Board) : Except BoardError Reply :=
  match Edit.make c b with
  | .ok reply _ => .ok reply
  | .error e _ => .error e

/-- What each of some edits answers, made one after the other. -/
def Edit.answers (b : Board) : List Change → List (Change × Except BoardError Reply)
  | [] => []
  | c :: cs => (c, answer c b) :: answers (leaves c b) cs

/-- The board after some edits. -/
def Edit.after (b : Board) (changes : List Change) : Board := changes.foldl (fun b c => leaves c b) b

theorem map_fst_answers (b : Board) (changes : List Change) :
    (Edit.answers b changes).map Prod.fst = changes := by
  induction changes generalizing b with
  | nil => rfl
  | cons c cs ih => rw [Edit.answers, List.map_cons, ih]

theorem answer_eq (b : Board) (c : Change) : Edit.answer c b = (b.outcome c).map Prod.fst := by
  rw [Edit.answer, make_eq]
  cases b.outcome c <;> rfl

theorem answer_without (recorded : b.Records gone) (seen : c.about gone = false) :
    Edit.answer c (b.without gone) = Edit.answer c b := by
  rw [answer_eq, answer_eq, outcome_without recorded seen]
  cases b.outcome c <;> rfl

theorem leaves_without (recorded : b.Records gone) (seen : c.about gone = false) :
    Edit.leaves c (b.without gone) = (Edit.leaves c b).without gone := by
  rw [leaves_eq, leaves_eq, attempt_eq, attempt_eq, outcome_without recorded seen]
  cases b.outcome c <;> rfl

theorem leaves_hidden (hidden : c.about gone = true) :
    (Edit.leaves c b).without gone = b.without gone := by
  rw [leaves_eq, attempt_hidden hidden]

theorem Records.leaves {claim : EntityId → Layers} (h : b.Records (ghost claim))
    (presented : c.Presents claim) : (Edit.leaves c b).Records (ghost claim) := by
  rw [leaves_eq]
  exact h.attempt presented

/-- **Two runs**: the edits of others, on the board without ghosts, and all edits on the board with them.
The others are answered alike, and the boards at the end differ in the ghosts. The induction is on the
edits; what it carries is that the ghosts are recorded as ghosts. -/
theorem after_without {claim : EntityId → Layers} {changes : List Change} (recorded : b.Records (ghost claim))
    (presented : ∀ c ∈ changes, c.Presents claim) :
    Edit.answers (b.without (ghost claim)) (changes.filter fun c => !c.about (ghost claim)) =
      (Edit.answers b changes).filter (fun a => !a.1.about (ghost claim)) ∧
    Edit.after (b.without (ghost claim)) (changes.filter fun c => !c.about (ghost claim)) =
      (Edit.after b changes).without (ghost claim) := by
  induction changes generalizing b with
  | nil => exact ⟨rfl, rfl⟩
  | cons c cs ih =>
    obtain ⟨first, rest⟩ := List.forall_mem_cons.mp presented
    obtain ⟨answers, after⟩ := ih (recorded.leaves first) rest
    cases told : c.about (ghost claim) with
    | true =>
      rw [leaves_hidden told] at answers after
      rw [List.filter_cons_of_neg (by simp [told])]
      refine ⟨answers.trans (List.filter_cons_of_neg ?_).symm, after⟩
      simp [told]
    | false =>
      rw [← leaves_without recorded told] at answers after
      rw [List.filter_cons_of_pos (by simp [told])]
      refine ⟨?_, after⟩
      rw [Edit.answers, Edit.answers, answers, answer_without recorded told, List.filter_cons_of_pos]
      simp [told]

theorem records_blank (size : Size) (kind : TileType) : (blank size kind).Records gone := by
  intro spot t tile
  rw [tile?_blank tile]
  exact fun o here => (List.not_mem_nil here).elim

theorem without_blank (size : Size) (kind : TileType) : (blank size kind).without gone = blank size kind :=
  eq_of_parts rfl Array.map_replicate rfl

theorem Records.after {claim : EntityId → Layers} {changes : List Change} (h : b.Records (ghost claim))
    (presented : ∀ c ∈ changes, c.Presents claim) : (Edit.after b changes).Records (ghost claim) := by
  induction changes generalizing b with
  | nil => exact h
  | cons c cs ih =>
    obtain ⟨first, rest⟩ := List.forall_mem_cons.mp presented
    exact ih (h.leaves first) rest

/-! ## The laws -/

/-- What answers an edit with a refusal is its check. -/
theorem check_of_answer (h : b.Coherent) (refused : Edit.answer c b = .error e) :
    b.check c = .error e := by
  rw [answer_eq] at refused
  cases asked : b.check c with
  | error e' =>
    rw [outcome_of_refused asked] at refused
    cases refused
    rfl
  | ok _ =>
    obtain ⟨reply, b', made, -⟩ := outcome_of_allowed h asked
    rw [made] at refused
    cases refused

/-- A ghost is placed unless it stands somewhere or there is no tile. -/
theorem ghost_add (h : b.Coherent) (bare : who.layers = .empty)
    (refused : Edit.answer (.add who spot) b = .error e) : e = .alreadyPlaced ∨ e = .outOfBounds := by
  cases (check_eq_iff h).mp (check_of_answer h refused) with
  | alreadyPlaced => exact .inl rfl
  | addOutside => exact .inr rfl
  | add _ _ rule =>
    rw [bare] at rule
    cases rule.ok_of_empty

/-- A ghost moves unless it stands nowhere or there is no tile. -/
theorem ghost_move (h : b.Coherent) (bare : who.layers = .empty)
    (refused : Edit.answer (.move who goal) b = .error e) : e = .notPlaced ∨ e = .outOfBounds := by
  cases (check_eq_iff h).mp (check_of_answer h refused) with
  | moveNobody => exact .inl rfl
  | moveOutside => exact .inr rfl
  | move _ _ _ rule =>
    rw [bare] at rule
    cases rule.ok_of_empty

theorem after_eq (b : Board) (changes : List Change) : Edit.after b changes = b.run changes := by
  induction changes generalizing b with
  | nil => rfl
  | cons c cs ih =>
    show Edit.after (Edit.leaves c b) cs = (b.attempt c).run cs
    rw [ih, leaves_eq]

/-- **Ghosts are invisible to placement.** Take a board that edits have made of a blank one, and more
edits, each entity presented with the same layers in all of them. To leave out the edits of ghosts changes
no answer to the others, and the two boards at the end differ in the ghosts alone; and where no ghost was
ever placed before, the board without the edits of ghosts is the board with them less the ghosts. A ghost
itself is refused only because it stands somewhere already, or nowhere, or there is no tile. -/
theorem ghosts_unseen (size : Size) (kind : TileType) (claim : EntityId → Layers)
    (before changes : List Change) (presented : ∀ c ∈ before ++ changes, c.Presents claim) :
    let b := Edit.after (blank size kind) before
    let others := changes.filter fun c => !c.about (ghost claim)
    Edit.answers b others = (Edit.answers b changes).filter (fun a => !a.1.about (ghost claim)) ∧
    (Edit.after b others).without (ghost claim) = (Edit.after b changes).without (ghost claim) ∧
    ((∀ c ∈ before, c.about (ghost claim) = false) →
      Edit.after b others = (Edit.after b changes).without (ghost claim)) ∧
    ∀ who : Occupant, who.layers = .empty → ∀ spot e,
      (Edit.answer (.add who spot) b = .error e → e = .alreadyPlaced ∨ e = .outOfBounds) ∧
      (Edit.answer (.move who spot) b = .error e → e = .notPlaced ∨ e = .outOfBounds) := by
  intro b others
  obtain ⟨earlier, later⟩ := List.forall_mem_append.mp presented
  have recorded : b.Records (ghost claim) := (records_blank size kind).after earlier
  have coherent : b.Coherent := by
    rw [show b = (blank size kind).run before from after_eq _ _]
    exact (coherent_blank size kind).run before
  obtain ⟨answers, after⟩ := after_without recorded later
  -- The others run on the board with ghosts as they do on the board without.
  have again := after_without recorded fun c (here : c ∈ others) => later c (List.mem_of_mem_filter here)
  have same : others.filter (fun c => !c.about (ghost claim)) = others :=
    List.filter_eq_self.mpr fun c here => (List.mem_filter.mp here).2
  rw [same] at again
  refine ⟨?_, again.2.symm.trans after, ?_, fun who bare spot e => ?_⟩
  · rw [← answers, again.1]
    refine (List.filter_eq_self.mpr fun a here => ?_).symm
    have asked : a.1 ∈ others := map_fst_answers b others ▸ List.mem_map_of_mem here
    exact (List.mem_filter.mp asked).2
  · intro unplaced
    have clean : b.without (ghost claim) = b := by
      have made := (after_without (records_blank size kind) earlier).2
      rw [without_blank, List.filter_eq_self.mpr fun c here => by simp [unplaced c here]] at made
      exact made.symm
    rw [← after, clean]
  · exact ⟨ghost_add coherent bare, ghost_move coherent bare⟩

namespace Sample

/-- Entity `1` claims nothing, all others walk. -/
def claim (id : EntityId) : Layers := if id = ⟨1⟩ then .empty else .ground

/-- A ghost shares a tile with a walker, keeps another from nothing, and goes onto a rock. -/
def haunting : List Change := [.add ⟨⟨1⟩, .empty⟩ ⟨0, 0⟩, .add ⟨⟨0⟩, .ground⟩ ⟨0, 0⟩,
  .add ⟨⟨2⟩, .ground⟩ ⟨0, 0⟩, .modify ⟨"rock", "rock", true, true, ""⟩ ⟨1, 0⟩, .move ⟨⟨1⟩, .empty⟩ ⟨1, 0⟩,
  .move ⟨⟨0⟩, .ground⟩ ⟨1, 0⟩]

end Sample

theorem ghosts_unseen_haunting :
    let b := blank ⟨2, 1⟩ (.plain "meadow")
    let others := Sample.haunting.filter fun c => !c.about (ghost Sample.claim)
    (∀ c ∈ [] ++ Sample.haunting, c.Presents Sample.claim) ∧
      (Edit.after b Sample.haunting).coords? ⟨1⟩ = some ⟨1, 0⟩ ∧
      (Edit.answers b others).map Prod.snd = [.ok .done, .error .occupied, .ok (.was (.plain "meadow")),
        .error .blocked] ∧
      Edit.answers b others =
        (Edit.answers b Sample.haunting).filter (fun a => !a.1.about (ghost Sample.claim)) ∧
      Edit.after b others = (Edit.after b Sample.haunting).without (ghost Sample.claim) := by
  intro b others
  have presented : ∀ c ∈ [] ++ Sample.haunting, c.Presents Sample.claim := by
    simp [Sample.haunting, Change.Presents, Sample.claim]
  have unseen := ghosts_unseen ⟨2, 1⟩ (.plain "meadow") Sample.claim [] Sample.haunting presented
  refine ⟨presented, by decide +kernel, by decide +kernel, unseen.1, unseen.2.2.1 ?_⟩
  exact fun c here => (List.not_mem_nil here).elim

end Board

end Skirmish
