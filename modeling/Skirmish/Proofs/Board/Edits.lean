import Skirmish.Board.Edit
import Skirmish.Proofs.Board.Occupancy
import Skirmish.Proofs.Ensures

/-!
# Edits keep to the rules

An edit makes a change of the board part by part, and every part looks again at what it needs, though a
check has looked before. **The law** is that the second looks never matter: an edit goes through exactly
when the check of its change passes, and otherwise it is refused for the reason of the check and leaves
the board as it was (`outcome_of_refused`, `outcome_of_allowed`). So an edit is the change as a whole, as
`Board.attempt` has it (`make_eq`).

What the checks ask is said without them, by `Board.Verdict`: one rule for each answer, with what came
before it in the order of precedence among its premises. What an edit does is said by `Board.Does`, in
terms of the views of the board: the one entry of the index and the one or two tiles that change, what
they change to, and that nothing else does (`Board.Frame`).
-/

namespace Skirmish

/-! ## The rules -/

/-- **Whether a tile takes a claim**: the type is asked first, then the occupants. -/
inductive Tile.Verdict (t : Tile) (layers : Layers) : Except BoardError Unit → Prop
  | blocked (blocks : t.kind.blocked.meets layers = true) : Verdict t layers (.error .blocked)
  | occupied {o : Occupant} (clear : t.kind.blocked.meets layers = false) (here : o ∈ t.occupants)
      (claims : o.layers.meets layers = true) : Verdict t layers (.error .occupied)
  | free (clear : t.kind.blocked.meets layers = false)
      (unclaimed : ∀ o ∈ t.occupants, o.layers.meets layers = false) : Verdict t layers (.ok ())

namespace Tile

variable {t : Tile} {layers : Layers} {r : Except BoardError Unit}

theorem checkAdd_of_verdict (rule : t.Verdict layers r) : t.checkAdd layers = r := by
  unfold checkAdd
  cases rule with
  | blocked blocks => rw [if_pos blocks]
  | occupied clear here claims =>
    have claimed : t.claimed.meets layers = true := by
      rw [claimed_meets]
      exact List.any_eq_true.mpr ⟨_, here, claims⟩
    rw [clear, if_neg Bool.false_ne_true, if_pos claimed]
  | free clear unclaimed =>
    rw [clear, if_neg Bool.false_ne_true, claimed_meets_eq_false.mpr unclaimed, if_neg Bool.false_ne_true]

theorem exists_verdict (t : Tile) (layers : Layers) : ∃ r, t.Verdict layers r := by
  cases clear : t.kind.blocked.meets layers with
  | true => exact ⟨_, .blocked clear⟩
  | false =>
    by_cases unclaimed : ∀ o ∈ t.occupants, o.layers.meets layers = false
    · exact ⟨_, .free clear unclaimed⟩
    · simp only [not_forall, Bool.not_eq_false] at unclaimed
      obtain ⟨o, here, claims⟩ := unclaimed
      exact ⟨_, .occupied clear here claims⟩

end Tile

namespace Board

/-- **Whether a change is allowed**, and the first reason against it when it is not. -/
inductive Verdict (b : Board) : Change → Except BoardError Unit → Prop
  | alreadyPlaced {who : Occupant} {spot home : Coords} (placed : b.coords? who.id = some home) :
      Verdict b (.add who spot) (.error .alreadyPlaced)
  | addOutside {who : Occupant} {spot : Coords} (new : b.coords? who.id = none)
      (outside : ¬ b.size.Contains spot) : Verdict b (.add who spot) (.error .outOfBounds)
  | add {who : Occupant} {spot : Coords} {t : Tile} {r : Except BoardError Unit}
      (new : b.coords? who.id = none) (tile : b.tile? spot = some t) (rule : t.Verdict who.layers r) :
      Verdict b (.add who spot) r
  | moveNobody {who : Occupant} {goal : Coords} (absent : b.coords? who.id = none) :
      Verdict b (.move who goal) (.error .notPlaced)
  | moveOutside {who : Occupant} {home goal : Coords} (placed : b.coords? who.id = some home)
      (outside : ¬ b.size.Contains goal) : Verdict b (.move who goal) (.error .outOfBounds)
  /-- Onto its own tile an entity may always move, whatever the tile would say to a newcomer. -/
  | stay {who : Occupant} {home : Coords} (placed : b.coords? who.id = some home) :
      Verdict b (.move who home) (.ok ())
  | move {who : Occupant} {home goal : Coords} {t : Tile} {r : Except BoardError Unit}
      (placed : b.coords? who.id = some home) (apart : goal ≠ home) (tile : b.tile? goal = some t)
      (rule : t.Verdict who.layers r) : Verdict b (.move who goal) r
  | removeNobody {id : EntityId} (absent : b.coords? id = none) :
      Verdict b (.remove id) (.error .notPlaced)
  | remove {id : EntityId} {home : Coords} (placed : b.coords? id = some home) :
      Verdict b (.remove id) (.ok ())
  | modifyOutside {kind : TileType} {spot : Coords} (outside : ¬ b.size.Contains spot) :
      Verdict b (.modify kind spot) (.error .outOfBounds)
  | modifyBlocked {kind : TileType} {spot : Coords} {t : Tile} {o : Occupant} (tile : b.tile? spot = some t)
      (here : o ∈ t.occupants) (blocks : kind.blocked.meets o.layers = true) :
      Verdict b (.modify kind spot) (.error .blocked)
  | modify {kind : TileType} {spot : Coords} {t : Tile} (tile : b.tile? spot = some t)
      (clear : ∀ o ∈ t.occupants, kind.blocked.meets o.layers = false) :
      Verdict b (.modify kind spot) (.ok ())

/-- **What stays as it is**: the extent, every tile but the given ones, and every entry of the index but
perhaps one. -/
structure Frame (b b' : Board) (who? : Option EntityId) (cells : List Coords) : Prop where
  size : b'.size = b.size
  tile? : ∀ cell, cell ∉ cells → b'.tile? cell = b.tile? cell
  coords? : ∀ id, id ∉ who? → b'.coords? id = b.coords? id

/-- What a change answers. -/
inductive Reply where
  | done
  /-- Where the entity stood before. -/
  | stood (home : Coords)
  /-- The type that the tile had before. -/
  | was (kind : TileType)
  deriving DecidableEq, Repr

/-- **What an allowed change does**: its answer, and the board after it. -/
inductive Does (b : Board) : Change → Reply → Board → Prop
  /-- The newcomer stands behind those who are there. -/
  | add {who : Occupant} {spot : Coords} {t : Tile} {b' : Board} (tile : b.tile? spot = some t)
      (frame : b.Frame b' who.id [spot])
      (arrived : b'.tile? spot = some { t with occupants := t.occupants ++ [who] })
      (placed : b'.coords? who.id = some spot) : Does b (.add who spot) .done b'
  | stay {who : Occupant} {home : Coords} (placed : b.coords? who.id = some home) :
      Does b (.move who home) (.stood home) b
  /-- Those who stood on either tile stay, and their order too. -/
  | move {who : Occupant} {home goal : Coords} {t u : Tile} {b' : Board}
      (placed : b.coords? who.id = some home) (apart : goal ≠ home) (source : b.tile? home = some t)
      (destination : b.tile? goal = some u) (frame : b.Frame b' who.id [home, goal])
      (left : b'.tile? home = some { t with occupants := t.occupants.filter (fun o => decide (o.id ≠ who.id)) })
      (arrived : b'.tile? goal = some { u with occupants := u.occupants ++ [who] })
      (moved : b'.coords? who.id = some goal) : Does b (.move who goal) (.stood home) b'
  | remove {id : EntityId} {home : Coords} {t : Tile} {b' : Board} (placed : b.coords? id = some home)
      (source : b.tile? home = some t) (frame : b.Frame b' id [home])
      (left : b'.tile? home = some { t with occupants := t.occupants.filter (fun o => decide (o.id ≠ id)) })
      (gone : b'.coords? id = none) : Does b (.remove id) (.stood home) b'
  | modify {kind : TileType} {spot : Coords} {t : Tile} {b' : Board} (tile : b.tile? spot = some t)
      (frame : b.Frame b' none [spot]) (retyped : b'.tile? spot = some { t with kind := kind }) :
      Does b (.modify kind spot) (.was t.kind) b'

/-- The check of a change. To be removed an entity needs only to stand somewhere. -/
def check (b : Board) : Change → Except BoardError Unit
  | .add who spot => b.checkAdd who spot
  | .move who goal => b.checkMove who goal
  | .remove id => if b.contains id then .ok () else .error .notPlaced
  | .modify kind spot => b.checkModify kind spot

/-- Makes a change in place. -/
def Edit.make : Change → Edit Reply
  | .add who spot => (fun _ => .done) <$> Edit.add who spot
  | .move who goal => .stood <$> Edit.move who goal
  | .remove id => .stood <$> Edit.remove id
  | .modify kind spot => .was <$> Edit.modify kind spot

/-- The board that an edit leaves, whether it goes through or is refused. -/
def Edit.leaves (c : Change) (b : Board) : Board :=
  match Edit.make c b with
  | .ok _ b' => b'
  | .error _ b' => b'

variable {α β : Type} {b : Board} {who : Occupant} {id : EntityId} {spot home goal : Coords}
  {kind : TileType} {t : Tile} {c : Change} {r : Except BoardError Unit} {e : BoardError}

/-! ## The checks follow the rules -/

/-- A rule gives the answer of the check. On its own tile the mover of a coherent board stands inside. -/
theorem check_of_verdict (h : b.Coherent) (rule : b.Verdict c r) : b.check c = r := by
  cases rule with
  | alreadyPlaced placed =>
    rw [check, checkAdd, if_pos (contains_eq_true.mpr ⟨_, placed⟩)]
  | addOutside new outside =>
    rw [check, checkAdd, contains_eq_false.mpr new, tile?_eq_none.mpr outside]
    rfl
  | add new tile rule =>
    rw [check, checkAdd, contains_eq_false.mpr new, tile]
    exact Tile.checkAdd_of_verdict rule
  | moveNobody absent => rw [check, checkMove, absent]
  | moveOutside placed outside =>
    rw [check, checkMove, placed, tile?_eq_none.mpr outside]
  | stay placed =>
    obtain ⟨t, tile, -⟩ := h.tile_of_coords placed
    exact checkMove_eq_ok.mpr ⟨_, t, placed, tile, .inl rfl⟩
  | move placed apart tile rule =>
    rw [check, checkMove, placed, tile]
    dsimp only
    rw [if_neg apart]
    exact Tile.checkAdd_of_verdict rule
  | removeNobody absent =>
    rw [check, contains_eq_false.mpr absent, if_neg Bool.false_ne_true]
  | remove placed => rw [check, if_pos (contains_eq_true.mpr ⟨_, placed⟩)]
  | modifyOutside outside => rw [check, checkModify, tile?_eq_none.mpr outside]
  | @modifyBlocked kind spot t o tile here blocks =>
    have claimed : kind.blocked.meets t.claimed = true := by
      rw [Layers.meets_comm, Tile.claimed_meets]
      exact List.any_eq_true.mpr ⟨o, here, (Layers.meets_comm ..).trans blocks⟩
    rw [check, checkModify, tile]
    dsimp only
    rw [Tile.checkModify, if_pos claimed]
  | modify tile clear => exact checkModify_eq_ok.mpr ⟨_, tile, Tile.checkModify_eq_ok.mpr clear⟩

/-- Some rule applies to every change. -/
theorem exists_verdict (b : Board) (c : Change) : ∃ r, b.Verdict c r := by
  cases c with
  | add who spot =>
    cases placed : b.coords? who.id with
    | some home => exact ⟨_, .alreadyPlaced placed⟩
    | none =>
      cases tile : b.tile? spot with
      | none => exact ⟨_, .addOutside placed (tile?_eq_none.mp tile)⟩
      | some t =>
        obtain ⟨r, rule⟩ := t.exists_verdict who.layers
        exact ⟨r, .add placed tile rule⟩
  | move who goal =>
    cases placed : b.coords? who.id with
    | none => exact ⟨_, .moveNobody placed⟩
    | some home =>
      by_cases apart : goal = home
      · exact ⟨_, .stay (apart ▸ placed)⟩
      · cases tile : b.tile? goal with
        | none => exact ⟨_, .moveOutside placed (tile?_eq_none.mp tile)⟩
        | some t =>
          obtain ⟨r, rule⟩ := t.exists_verdict who.layers
          exact ⟨r, .move placed apart tile rule⟩
  | remove id =>
    cases placed : b.coords? id with
    | none => exact ⟨_, .removeNobody placed⟩
    | some home => exact ⟨_, .remove placed⟩
  | modify kind spot =>
    cases tile : b.tile? spot with
    | none => exact ⟨_, .modifyOutside (tile?_eq_none.mp tile)⟩
    | some t =>
      by_cases clear : ∀ o ∈ t.occupants, kind.blocked.meets o.layers = false
      · exact ⟨_, .modify tile clear⟩
      · simp only [not_forall, Bool.not_eq_false] at clear
        obtain ⟨o, here, blocks⟩ := clear
        exact ⟨_, .modifyBlocked tile here blocks⟩

/-- **The checks follow the rules.** -/
theorem check_eq_iff (h : b.Coherent) : b.check c = r ↔ b.Verdict c r := by
  obtain ⟨r', rule⟩ := b.exists_verdict c
  rw [check_of_verdict h rule]
  constructor
  · rintro rfl
    exact rule
  · intro also
    exact (check_of_verdict h rule).symm.trans (check_of_verdict h also)

/-! ## An edit is the change as a whole -/

/-- A change that was made as a whole, or refused as a whole, told of the board that it was asked of. -/
def whole (b : Board) (done : Except BoardError (α × Board)) : EStateM.Result BoardError Board α :=
  match done with
  | .error e => .error e b
  | .ok (a, b') => .ok a b'

theorem demand_of_ok {check : Board → Except BoardError Unit} (passed : check b = .ok ()) :
    Edit.demand check b = .ok () b := by
  rw [Edit.demand, passed]

theorem demand_of_error {check : Board → Except BoardError Unit} (refused : check b = .error e) :
    Edit.demand check b = .error e b := by
  rw [Edit.demand, refused]

theorem locate_of_some (placed : b.coords? id = some home) : Edit.locate id b = .ok home b := by
  rw [Edit.locate, placed]

theorem locate_of_none (absent : b.coords? id = none) : Edit.locate id b = .error .notPlaced b := by
  rw [Edit.locate, absent]

/-- A tile that takes a newcomer lets it in. -/
theorem accept_of_ok (tile : b.tile? spot = some t) (takes : t.checkAdd who.layers = .ok ()) :
    Edit.onTile spot (·.accept who) b = .ok () (b.updateTile spot (·.receive who)) := by
  rw [Edit.onTile, tile]
  dsimp only
  rw [Tile.accept, takes]
  dsimp only
  rw [updateTile_const tile (·.receive who)]

theorem edit_add (b : Board) (who : Occupant) (spot : Coords) :
    Edit.add who spot b = b.whole ((b.add who spot).map (Prod.mk ())) := by
  unfold Edit.add add checkAdd
  cases placed : b.contains who.id with
  | true =>
    rw [bind_of_error (demand_of_error (by rw [if_pos placed])), if_pos rfl]
    rfl
  | false =>
    rw [bind_of_ok (demand_of_ok (by rw [placed]; rfl)), if_neg Bool.false_ne_true]
    cases tile : b.tile? spot with
    | none =>
      have outside : Edit.onTile spot (·.accept who) b = .error .outOfBounds b := by
        rw [Edit.onTile, tile]
      rw [bind_of_error outside]
      rfl
    | some t =>
      dsimp only
      cases takes : t.checkAdd who.layers with
      | error e =>
        have refused : Edit.onTile spot (·.accept who) b = .error e b := by
          rw [Edit.onTile, tile]
          dsimp only
          rw [Tile.accept, takes]
        rw [bind_of_error refused]
        rfl
      | ok _ =>
        rw [bind_of_ok (accept_of_ok tile takes)]
        rfl

theorem edit_move (b : Board) (who : Occupant) (goal : Coords) :
    Edit.move who goal b = b.whole (b.move who goal) := by
  unfold Edit.move move
  cases allowed : b.checkMove who goal with
  | error e =>
    rw [bind_of_error (demand_of_error allowed)]
    rfl
  | ok _ =>
    rw [bind_of_ok (demand_of_ok allowed)]
    -- The check has found where the mover stands and that the goal takes it.
    obtain ⟨home, t, placed, tile, takes⟩ := checkMove_eq_ok.mp allowed
    rw [bind_of_ok (locate_of_some placed), placed]
    by_cases same : goal = home
    · rw [if_pos same]
      dsimp only
      rw [if_pos same]
      rfl
    · rw [if_neg same, bind_of_ok (accept_of_ok tile (takes.resolve_left same))]
      dsimp only
      rw [if_neg same]
      rfl

theorem edit_remove (b : Board) (id : EntityId) : Edit.remove id b = b.whole (b.remove id) := by
  unfold Edit.remove remove
  cases placed : b.coords? id with
  | none =>
    rw [bind_of_error (locate_of_none placed)]
    rfl
  | some home =>
    rw [bind_of_ok (locate_of_some placed)]
    show EStateM.Result.ok home ((b.reindex (·.erase id)).updateTile home (·.release id)) = _
    rw [updateTile_reindex]
    rfl

theorem edit_modify (b : Board) (kind : TileType) (spot : Coords) :
    Edit.modify kind spot b = b.whole (b.modify kind spot) := by
  unfold Edit.modify Edit.onTile modify checkModify
  cases tile : b.tile? spot with
  | none => rfl
  | some t =>
    dsimp only
    cases takes : t.checkModify kind with
    | error e =>
      rw [Tile.retype, takes]
      rfl
    | ok _ =>
      rw [Tile.retype, takes]
      dsimp only
      rw [updateTile_const tile ({ · with kind := kind })]
      rfl

/-- What a change comes to, made as a whole. -/
def outcome (b : Board) : Change → Except BoardError (Reply × Board)
  | .add who spot => (b.add who spot).map fun b' => (.done, b')
  | .move who goal => (b.move who goal).map fun (home, b') => (.stood home, b')
  | .remove id => (b.remove id).map fun (home, b') => (.stood home, b')
  | .modify kind spot => (b.modify kind spot).map fun (previous, b') => (.was previous, b')

theorem map_whole {edit : Edit α} {done : Except BoardError (α × Board)} (same : edit b = b.whole done)
    (f : α → β) : (f <$> edit) b = b.whole (done.map fun (a, b') => (f a, b')) := by
  rw [map_eq_pure_bind]
  cases done with
  | error e => exact bind_of_error same _
  | ok made => exact bind_of_ok same _

/-- **An edit is the change as a whole**, on every board. -/
theorem make_eq (b : Board) (c : Change) : Edit.make c b = b.whole (b.outcome c) := by
  cases c with
  | add who spot =>
    rw [Edit.make, map_whole (edit_add b who spot), outcome]
    cases b.add who spot <;> rfl
  | move who goal => exact map_whole (edit_move b who goal) _
  | remove id => exact map_whole (edit_remove b id) _
  | modify kind spot => exact map_whole (edit_modify b kind spot) _

theorem attempt_eq (b : Board) (c : Change) :
    b.attempt c = match b.outcome c with
      | .ok (_, b') => b'
      | .error _ => b := by
  cases c with
  | add who spot => rw [attempt, outcome]; cases b.add who spot <;> rfl
  | move who goal => rw [attempt, outcome]; cases b.move who goal <;> rfl
  | remove id => rw [attempt, outcome]; cases b.remove id <;> rfl
  | modify kind spot => rw [attempt, outcome]; cases b.modify kind spot <;> rfl

theorem leaves_eq (b : Board) (c : Change) : Edit.leaves c b = b.attempt c := by
  rw [Edit.leaves, make_eq, attempt_eq]
  cases b.outcome c <;> rfl

theorem outcome_of_refused (refused : b.check c = .error e) : b.outcome c = .error e := by
  cases c with
  | add who spot =>
    rw [outcome, add, show b.checkAdd who spot = .error e from refused]
    rfl
  | move who goal =>
    rw [outcome, move, show b.checkMove who goal = .error e from refused]
    rfl
  | remove id =>
    rw [check] at refused
    split at refused
    · cases refused
    · next absent =>
      cases refused
      rw [Bool.not_eq_true, contains_eq_false] at absent
      rw [outcome, remove, absent]
      rfl
  | modify kind spot =>
    rw [outcome, modify, show b.checkModify kind spot = .error e from refused]
    rfl

/-! ## What edits do -/

theorem frame_updateTile (f : Tile → Tile) : b.Frame (b.updateTile spot f) none [spot] where
  size := size_updateTile f
  tile? _ other := (tile?_updateTile f).trans (if_neg (List.ne_of_not_mem_cons other))
  coords? _ _ := coords?_updateTile f

theorem frame_place : b.Frame (b.place who spot) who.id [spot] where
  size := size_updateTile _
  tile? _ other := tile?_place.trans (if_neg (List.ne_of_not_mem_cons other))
  coords? _ other := coords?_place.trans (if_neg fun same => other (congrArg some same))

theorem frame_clear : b.Frame (b.clear id spot) id [spot] where
  size := size_updateTile _
  tile? _ other := tile?_clear.trans (if_neg (List.ne_of_not_mem_cons other))
  coords? _ apart := coords?_clear.trans (if_neg fun same => apart (congrArg some same.symm))

theorem frame_relocate (apart : goal ≠ home) :
    b.Frame (b.relocate who home goal) who.id [home, goal] where
  size := (size_updateTile _).trans (size_updateTile _)
  tile? cell other := by
    rw [List.mem_cons, List.mem_singleton, not_or] at other
    rw [tile?_relocate apart, if_neg other.1, if_neg other.2]
  coords? _ other := coords?_relocate.trans (if_neg fun same => other (congrArg some same))

/-- **An allowed change is made**, and it does what is told of it. -/
theorem outcome_of_allowed (h : b.Coherent) (allowed : b.check c = .ok ()) :
    ∃ reply b', b.outcome c = .ok (reply, b') ∧ b.Does c reply b' := by
  cases c with
  | add who spot =>
    obtain ⟨new, t, tile, takes⟩ := checkAdd_eq_ok.mp allowed
    have added : b.add who spot = .ok (b.place who spot) := add_eq_ok.mpr ⟨new, ⟨t, tile, takes⟩, rfl⟩
    refine ⟨.done, b.place who spot, by rw [outcome, added]; rfl, .add tile frame_place ?_ ?_⟩
    · rw [tile?_place, if_pos rfl, tile]
      rfl
    · exact coords?_place.trans (if_pos rfl)
  | move who goal =>
    obtain ⟨home, t, placed, tile, takes⟩ := checkMove_eq_ok.mp allowed
    by_cases same : goal = home
    · subst same
      have stayed : b.move who goal = .ok (goal, b) := move_eq_ok.mpr ⟨placed, t, tile, .inl ⟨rfl, rfl⟩⟩
      exact ⟨.stood goal, b, by rw [outcome, stayed]; rfl, .stay placed⟩
    · have moved : b.move who goal = .ok (home, b.relocate who home goal) :=
        move_eq_ok.mpr ⟨placed, t, tile, .inr ⟨same, takes.resolve_left same, rfl⟩⟩
      obtain ⟨u, source, -⟩ := h.tile_of_coords placed
      refine ⟨.stood home, b.relocate who home goal, by rw [outcome, moved]; rfl,
        .move placed same source tile (frame_relocate same) ?_ ?_ ?_⟩
      · rw [tile?_relocate same, if_pos rfl, source, ← Tile.release_occupants (h.sound source).distinct]
        rfl
      · rw [tile?_relocate same, if_neg same, if_pos rfl, tile]
        rfl
      · exact coords?_relocate.trans (if_pos rfl)
  | remove id =>
    rw [check] at allowed
    split at allowed
    · next there =>
      obtain ⟨home, placed⟩ := contains_eq_true.mp there
      have removed : b.remove id = .ok (home, b.clear id home) := remove_eq_ok.mpr ⟨placed, rfl⟩
      obtain ⟨t, source, -⟩ := h.tile_of_coords placed
      refine ⟨.stood home, b.clear id home, by rw [outcome, removed]; rfl,
        .remove placed source frame_clear ?_ ?_⟩
      · rw [tile?_clear, if_pos rfl, source, ← Tile.release_occupants (h.sound source).distinct]
        rfl
      · exact coords?_clear.trans (if_pos rfl)
    · cases allowed
  | modify kind spot =>
    obtain ⟨t, tile, takes⟩ := checkModify_eq_ok.mp allowed
    have modified : b.modify kind spot = .ok (t.kind, b.updateTile spot ({ · with kind := kind })) :=
      modify_eq_ok.mpr ⟨t, tile, takes, rfl, rfl⟩
    refine ⟨.was t.kind, _, by rw [outcome, modified]; rfl, .modify tile (frame_updateTile _) ?_⟩
    rw [tile?_updateTile, if_pos rfl, tile]
    rfl

/-- **Edits keep to the rules.** After any changes of a blank board, let one more be asked for. Its check
answers what the rules say. When the check refuses it, the edit is refused for the same reason and leaves
the whole board as it was; when the check allows it, the edit goes through, and it changes what it is told
to and nothing else. What an edit leaves is what its change leaves in a run. -/
theorem run_agreement (size : Size) (kind : TileType) (changes : List Change) (c : Change) :
    let b := (blank size kind).run changes
    (∀ r, b.check c = r ↔ b.Verdict c r) ∧
    (match b.check c with
      | .error e => Edit.make c b = .error e b
      | .ok () => ∃ reply b', Edit.make c b = .ok reply b' ∧ b.Does c reply b') ∧
    Edit.leaves c b = b.attempt c := by
  intro b
  have h : b.Coherent := (coherent_blank size kind).run changes
  refine ⟨fun r => check_eq_iff h, ?_, b.leaves_eq c⟩
  rw [make_eq]
  cases asked : b.check c with
  | error e =>
    dsimp only
    rw [outcome_of_refused asked]
    rfl
  | ok _ =>
    obtain ⟨reply, b', made, does⟩ := outcome_of_allowed h asked
    dsimp only
    rw [made]
    exact ⟨reply, b', rfl, does⟩

end Board

end Skirmish
