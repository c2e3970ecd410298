import Skirmish.Proofs.Arena.Cascades
import Skirmish.Proofs.Board.Area
import Skirmish.Proofs.Game.Answers

/-!
# The life of an identity

Numbers are given out one after the other, and each is given out once. So the entities that come on a
trace are exactly the numbers between the supply before it and the supply after it, in their order
(`Trace.newcomers_eq`), and an entity that is gone under a number given out before stays gone
(`Trace.entity?_of_gone`). Nothing is ever done to it again: no entry of a later trace is about it
(`Trace.subject_ne`), however many names are still bound to it.

An answer tells the trace of its call (`answer_tells`), and so the same holds along runs, also past
calls that failed and told nothing (`identity_lifecycle`).
-/

namespace Skirmish

open Arena

/-- The entity that an entry is about: who came, moved, went, was struck or healed, or cast. Who struck
or healed is only mentioned, and so are the ends of a projectile. -/
def Entry.subject? : Entry → Option EntityId
  | .ability caster _ _ _ => some caster
  | .spawn id _ _ => some id
  | .movement id _ _ => some id
  | .destruction e _ => some e.id
  | .damage _ target _ _ => some target
  | .healing _ target _ _ => some target
  | .modification .. | .projectile .. => none

namespace World

variable {w w' : World} {entry : Entry} {id : EntityId}

theorem kind?_eq_none : w.kind? id = none ↔ w.entity? id = none := Option.map_eq_none_iff

/-- A step is about somebody who is registered, or about the next to come. -/
theorem Step.subject_ne (s : w.Step entry w') (old : id.val < w.nextId) (gone : w.entity? id = none) :
    entry.subject? ≠ some id := by
  have absent : ∀ {other e}, w.entity? other = some e → some other ≠ some id := by
    intro other e alive same
    cases same
    rw [gone] at alive
    cases alive
  cases s with
  | ability alive => exact absent alive
  | projectile => exact nofun
  | damage alive => exact absent alive
  | healing alive => exact absent alive
  | spawn =>
    intro same
    cases same
    exact Nat.lt_irrefl _ old
  | stay alive => exact absent alive
  | movement alive => exact absent alive
  | @destruction other e spot alive _ =>
    rw [Entry.subject?, id_of_entity? alive]
    exact absent alive
  | modification => exact nofun

theorem Step.entity?_of_gone (s : w.Step entry w') (old : id.val < w.nextId) (gone : w.entity? id = none) :
    w'.entity? id = none := by
  cases alive : w'.entity? id with
  | none => rfl
  | some e =>
    have known := s.kind?_of_lt old (kind?_eq_some.mpr ⟨e, alive, rfl⟩)
    rw [kind?_eq_none.mpr gone] at known
    cases known

/-- Only a spawn takes a number from the supply. -/
theorem Step.nextId_eq (s : w.Step entry w') :
    w'.nextId = w.nextId + entry.newcomer?.toList.length ∧ ∀ new ∈ entry.newcomer?, new = w.next := by
  cases s with
  | spawn => exact ⟨rfl, fun new told => (Option.some.inj told).symm⟩
  | _ => exact ⟨rfl, nofun⟩

end World

namespace Arena

variable {a b : Arena} {entry : Entry} {entries : List Entry} {id : EntityId}

/-- A trace taken apart where its entries are. -/
theorem Trace.split {first second : List Entry} (t : Trace a (first ++ second) b) :
    ∃ mid, Trace a first mid ∧ Trace mid second b := by
  induction first generalizing a with
  | nil => exact ⟨a, .nil, t⟩
  | cons entry first ih =>
    cases t with
    | cons step rest =>
      obtain ⟨mid, before, after⟩ := ih rest
      exact ⟨mid, .cons step before, after⟩

/-- **Who is gone stays gone.** -/
theorem Trace.entity?_of_gone (t : Trace a entries b) (old : id.val < a.world.nextId)
    (gone : a.world.entity? id = none) : b.world.entity? id = none := by
  induction t with
  | nil => exact gone
  | cons first _ ih =>
    apply ih
    · exact Nat.lt_of_lt_of_le old first.world.nextId_le
    · exact first.world.entity?_of_gone old gone

/-- **Nothing is done to who is gone.** -/
theorem Trace.subject_ne (t : Trace a entries b) (old : id.val < a.world.nextId)
    (gone : a.world.entity? id = none) : ∀ entry ∈ entries, entry.subject? ≠ some id := by
  induction t with
  | nil => exact List.forall_mem_nil _
  | cons first _ ih =>
    intro entry listed
    rcases List.mem_cons.mp listed with rfl | later
    · exact first.world.subject_ne old gone
    · apply ih
      · exact Nat.lt_of_lt_of_le old first.world.nextId_le
      · exact first.world.entity?_of_gone old gone
      · exact later

/-- After its destruction no entry of a trace is about an entity. -/
theorem Trace.subject_ne_of_destruction (h : a.Coherent) {before later : List Entry} {e : Entity}
    {spot : Coords} (t : Trace a (before ++ .destruction e spot :: later) b) :
    ∀ entry ∈ later, entry.subject? ≠ some e.id := by
  obtain ⟨mid, first, rest⟩ := t.split
  have coherent := h.trace first
  cases rest with
  | @cons _ mid' _ _ _ step rest =>
    obtain ⟨world, turns⟩ := mid'
    obtain ⟨step, -⟩ := step
    cases step with
    | @destruction id e spot alive placed =>
      have named := World.id_of_entity? alive
      subst named
      apply rest.subject_ne
      · exact coherent.world.lt_nextId alive
      · exact (World.entity?_without ..).trans (if_pos rfl)

/-- **The newcomers of a trace** are the numbers that it takes from the supply, in order: none is left
out, and none is given twice. -/
theorem Trace.newcomers_eq (t : Trace a entries b) :
    b.world.nextId = a.world.nextId + (entries.filterMap Entry.newcomer?).length ∧
      entries.filterMap Entry.newcomer? =
        (List.range' a.world.nextId (entries.filterMap Entry.newcomer?).length).map EntityId.mk := by
  induction t with
  | nil => exact ⟨rfl, rfl⟩
  | @cons a mid b entry entries first _ ih =>
    obtain ⟨supply, listed⟩ := ih
    obtain ⟨taken, next⟩ := first.world.nextId_eq
    rw [List.filterMap_cons]
    cases new : entry.newcomer? with
    | none =>
      rw [new] at taken
      rw [taken] at supply listed
      exact ⟨supply, listed⟩
    | some id =>
      rw [new] at taken next
      cases next id rfl
      rw [taken] at supply listed
      simp only [List.length_cons, List.range'_succ, List.map_cons]
      constructor
      · rw [supply]
        simp only [Option.toList_some, List.length_singleton]
        omega
      · exact congrArg _ listed

end Arena

/-- Who is gone is nowhere. -/
theorem Arena.Coherent.absent_of_gone {a : Arena} {id : EntityId} (h : a.Coherent)
    (gone : a.world.entity? id = none) : a.world.coords? id = none ∧ id ∉ a.turns.queue ∧
      ∀ centre radius, id ∉ a.world.board.within centre radius := by
  have off : ∀ spot, a.world.coords? id ≠ some spot := by
    intro spot placed
    obtain ⟨e, alive⟩ := h.world.registered placed
    rw [gone] at alive
    cases alive
  refine ⟨Option.eq_none_iff_forall_ne_some.mpr off, ?_, ?_⟩
  · intro waits
    obtain ⟨kind, known, -⟩ := h.waiting_iff.mp waits
    rw [World.kind?_eq_none.mpr gone] at known
    cases known
  · intro centre radius found
    obtain ⟨spot, placed, -⟩ := h.world.board.mem_within.mp found
    exact off spot placed

namespace Game

variable {g g' : Game} {id : EntityId}

/-! ## What a call tells -/

/-- The entities of which an answer tells that they came, in order. -/
def Answer.newcomers : Answer → List EntityId
  | .spawned id => id.toList
  | .log l => l.leaves.filterMap Entry.newcomer?
  | .actor _ => []

/-- Whether a trace of entries leads from a game to the world of another. -/
def Makes (g : Game) (entries : List Entry) (g' : Game) : Prop :=
  ∃ mid, Trace g.arena entries mid ∧ g'.world = mid.world

theorem Advances.makes (step : g.Advances g') : ∃ entries, g.Makes entries g' := by
  obtain ⟨entries, mid, trace, same | ⟨actor, -, ended⟩⟩ := step
  · exact ⟨entries, mid, trace, congrArg Arena.world same⟩
  · exact ⟨entries, mid, trace, (congrArg Arena.world ended).trans rfl⟩

/-- A spawn that is refused changes nothing, and neither does one of an unknown type. -/
theorem spawn_told (h : g.arena.Coherent) (kind : String) (spot : Coords) : Ensures (spawn kind spot g)
    (fun id g' => (id = none ∧ g' = g) ∨
      ∃ new kind, id = some new ∧ Trace g.arena [.spawn new kind spot] g'.arena)
    (fun _ g' => g' = g) := by
  apply ensures_spawn.mpr
  cases g.content.entityType? kind with
  | none => rfl
  | some kind =>
    have calm : ¬ (Event.spawn kind spot).Fells g.world := nofun
    have does := Event.settled_does h (.spawn kind spot)
    dsimp only
    rw [run, Context.process_calm h calm]
    cases made : ((Event.spawn kind spot).operation g.arena.world).1 with
    | none =>
      rw [made] at does
      left
      exact ⟨rfl, congrArg (Game.mk g.content g.config) does⟩
    | some entry =>
      obtain ⟨new, rfl⟩ := World.spawn_entry made
      rw [made] at does
      right
      exact ⟨new, kind, rfl, does.trace⟩

/-- Whether an answer tells of all who came on the trace of its call, and a log of all that happened. -/
def Tells (g : Game) (answer : Answer) (g' : Game) : Prop :=
  ∃ entries, g.Makes entries g' ∧ answer.newcomers = entries.filterMap Entry.newcomer? ∧
    ∀ log, answer = .log log → log.leaves = entries

theorem tells_log {log : Log} (makes : g.Makes log.leaves g') : g.Tells (.log log) g' := by
  refine ⟨log.leaves, makes, rfl, ?_⟩
  intro other same
  cases same
  rfl

/-- **Every answer tells the trace of its call.** -/
theorem ask_tells (h : g.arena.Coherent) (call : Call) :
    Ensures (ask call g) (fun answer g' => g.Tells answer g') (fun _ _ => True) := by
  cases call with
  | spawn kind spot =>
    apply ensures_map.mpr
    apply (spawn_told h kind spot).mono
    · intro id g' told
      obtain ⟨rfl, rfl⟩ | ⟨new, kind, rfl, trace⟩ := told
      · exact ⟨[], ⟨g'.arena, .nil, rfl⟩, rfl, nofun⟩
      · exact ⟨[.spawn new kind spot], ⟨g'.arena, trace, rfl⟩, rfl, nofun⟩
    · exact fun _ _ _ => trivial
  | cast ability caster target =>
    apply ensures_map.mpr
    apply (cast_trace h ability caster target).mono
    · intro log g' trace
      exact tells_log ⟨g'.arena, trace, rfl⟩
    · exact fun _ _ _ => trivial
  | takeTurn ability target =>
    apply ensures_map.mpr
    apply (takeTurn_trace h ability target).mono
    · intro log g' taken
      obtain ⟨actor, mid, -, trace, ended⟩ := taken
      exact tells_log ⟨mid, trace, (congrArg Arena.world ended).trans rfl⟩
    · exact fun _ _ _ => trivial
  | passTurn =>
    apply ensures_map.mpr
    apply (passTurn_ends g).mono
    · intro next g' passed
      obtain ⟨actor, -, ended⟩ := passed
      exact ⟨[], ⟨g.arena, .nil, (congrArg Arena.world ended).trans rfl⟩, rfl, nofun⟩
    · exact fun _ _ _ => trivial

theorem answer_tells (h : g.arena.Coherent) {call : Call} {answer : Answer}
    (told : g.answer call = .ok answer) : g.Tells answer (g.after call) := by
  have ends := ensures_ask.mp (ask_tells h call)
  rw [told] at ends
  exact ends

/-! ## Runs -/

theorem Makes.nextId_le {entries : List Entry} (makes : g.Makes entries g') :
    g.world.nextId ≤ g'.world.nextId := by
  obtain ⟨mid, trace, same⟩ := makes
  rw [same]
  exact trace.nextId_le

theorem Makes.entity?_of_gone {entries : List Entry} (makes : g.Makes entries g')
    (old : id.val < g.world.nextId) (gone : g.world.entity? id = none) : g'.world.entity? id = none := by
  obtain ⟨mid, trace, same⟩ := makes
  rw [same]
  exact trace.entity?_of_gone old gone

/-- Who is gone stays gone through a call, and its number stays given out. -/
theorem gone_after (h : g.arena.Coherent) (call : Call) (old : id.val < g.world.nextId)
    (gone : g.world.entity? id = none) :
    id.val < (g.after call).world.nextId ∧ (g.after call).world.entity? id = none := by
  obtain ⟨entries, makes⟩ := (advances_after h call).makes
  exact ⟨Nat.lt_of_lt_of_le old makes.nextId_le, makes.entity?_of_gone old gone⟩

theorem gone_afterAll (reached : Reachable g) (calls : List Call) (old : id.val < g.world.nextId)
    (gone : g.world.entity? id = none) :
    id.val < (g.afterAll calls).world.nextId ∧ (g.afterAll calls).world.entity? id = none := by
  induction calls generalizing g with
  | nil => exact ⟨old, gone⟩
  | cons call calls ih =>
    obtain ⟨old', gone'⟩ := gone_after reached.coherent call old gone
    exact ih (reached.after call) old' gone'

/-- Whoever is registered later under a number that was given out before was registered before. -/
theorem alive_before (reached : Reachable g) (calls : List Call) (old : id.val < g.world.nextId)
    (alive : ((g.afterAll calls).world.entity? id).isSome) : (g.world.entity? id).isSome := by
  cases was : g.world.entity? id with
  | some e => rfl
  | none =>
    rw [(gone_afterAll reached calls old was).2] at alive
    cases alive

/-- The entities of which a run tells that they came, in order. -/
def newcomers (g : Game) (calls : List Call) : List EntityId :=
  (g.answers calls).flatMap fun
    | .ok answer => answer.newcomers
    | .error _ => []

/-- What a call tells of newcomers are the numbers that it took from the supply. -/
theorem Tells.newcomers_eq {answer : Answer} (tells : g.Tells answer g') :
    g'.world.nextId = g.world.nextId + answer.newcomers.length ∧
      answer.newcomers = (List.range' g.world.nextId answer.newcomers.length).map EntityId.mk := by
  obtain ⟨entries, ⟨mid, trace, same⟩, told, -⟩ := tells
  rw [same, told]
  exact trace.newcomers_eq

theorem newcomers_cons_of_ok {call : Call} {answer : Answer} (told : g.answer call = .ok answer)
    (calls : List Call) :
    g.newcomers (call :: calls) = answer.newcomers ++ (g.after call).newcomers calls := by
  rw [newcomers, answers, List.flatMap_cons, told]
  rfl

theorem newcomers_cons_of_error {call : Call} {e : CastError} (failed : g.answer call = .error e)
    (calls : List Call) : g.newcomers (call :: calls) = (g.after call).newcomers calls := by
  rw [newcomers, answers, List.flatMap_cons, failed]
  rfl

theorem sorted_range' (first count : Nat) :
    ((List.range' first count).map EntityId.mk).Pairwise (· < ·) := by
  apply List.pairwise_map.mpr
  exact List.pairwise_lt_range'

/-- **The newcomers of a run** come in increasing order, and none comes under a number given out
before the run. -/
theorem sorted_newcomers (reached : Reachable g) (calls : List Call) :
    (g.newcomers calls).Pairwise (· < ·) ∧ ∀ id ∈ g.newcomers calls, g.world.nextId ≤ id.val := by
  induction calls generalizing g with
  | nil => exact ⟨.nil, List.forall_mem_nil _⟩
  | cons call calls ih =>
    obtain ⟨sorted, fresh⟩ := ih (reached.after call)
    cases told : g.answer call with
    | error e =>
      -- What came before the failure is told by nobody, but its numbers are spent.
      obtain ⟨entries, makes⟩ := (advances_after reached.coherent call).makes
      rw [newcomers_cons_of_error told]
      refine ⟨sorted, ?_⟩
      intro id new
      exact Nat.le_trans makes.nextId_le (fresh id new)
    | ok answer =>
      obtain ⟨supply, listed⟩ := (answer_tells reached.coherent told).newcomers_eq
      have bounds : ∀ id ∈ answer.newcomers,
          g.world.nextId ≤ id.val ∧ id.val < (g.after call).world.nextId := by
        intro id new
        rw [listed] at new
        obtain ⟨n, given, rfl⟩ := List.mem_map.mp new
        rw [supply]
        exact List.mem_range'_1.mp given
      rw [newcomers_cons_of_ok told]
      constructor
      · apply List.pairwise_append.mpr
        refine ⟨?_, sorted, ?_⟩
        · rw [listed]
          exact sorted_range' _ _
        · intro x hx y hy
          exact Nat.lt_of_lt_of_le (bounds x hx).2 (fresh y hy)
      · intro id new
        rcases List.mem_append.mp new with now | later
        · exact (bounds id now).1
        · have spent : g.world.nextId ≤ (g.after call).world.nextId := by
            rw [supply]
            exact Nat.le_add_right _ _
          exact Nat.le_trans spent (fresh id later)

/-- No log of a run is about somebody who was gone before it. -/
theorem subject_ne_of_gone (reached : Reachable g) (calls : List Call) (old : id.val < g.world.nextId)
    (gone : g.world.entity? id = none) {log : Log} (told : .ok (.log log) ∈ g.answers calls) :
    ∀ entry ∈ log.leaves, entry.subject? ≠ some id := by
  induction calls generalizing g with
  | nil => cases told
  | cons call calls ih =>
    rcases List.mem_cons.mp told with now | later
    · obtain ⟨entries, ⟨mid, trace, -⟩, -, leaves⟩ := answer_tells reached.coherent now.symm
      rw [leaves log rfl]
      exact trace.subject_ne old gone
    · obtain ⟨old', gone'⟩ := gone_after reached.coherent call old gone
      exact ih (reached.after call) old' gone' later

/-- **The life of an identity.** Along any run from a reachable game the newcomers that are told of
come under increasing numbers. A spawn that is refused or fails changes nothing, whether it is asked of
the game or of the world in the middle of a cast, and a call that answers takes just as many numbers as
newcomers are told of. Whoever is gone under a number given out before is not registered, placed,
scheduled or found in any area ever after, and no later log is about it; nor is the rest of the log
that tells of its destruction. -/
theorem identity_lifecycle (reached : Reachable g) :
    (∀ calls, (g.newcomers calls).Pairwise (· < ·)) ∧
    (∀ kind spot, Ensures (spawn kind spot g) (fun id g' => id = none → g' = g) (fun _ g' => g' = g)) ∧
    (∀ (w : World) kind spot, (w.spawn kind spot).1 = none → (w.spawn kind spot).2 = w) ∧
    (∀ call answer, g.answer call = .ok answer →
      (g.after call).world.nextId = g.world.nextId + answer.newcomers.length) ∧
    (∀ id calls, id.val < g.world.nextId → g.world.entity? id = none →
      (g.afterAll calls).world.entity? id = none ∧ (g.afterAll calls).world.coords? id = none ∧
      id ∉ (g.afterAll calls).turns.queue ∧
      (∀ centre radius, id ∉ (g.afterAll calls).world.board.within centre radius) ∧
      id ∉ g.newcomers calls ∧
      ∀ log, .ok (.log log) ∈ g.answers calls → ∀ entry ∈ log.leaves, entry.subject? ≠ some id) ∧
    ∀ call log before e spot later, g.answer call = .ok (.log log) →
      log.leaves = before ++ .destruction e spot :: later →
      ∀ entry ∈ later, entry.subject? ≠ some e.id := by
  refine ⟨fun calls => (sorted_newcomers reached calls).1, ?_, ?_, ?_, ?_, ?_⟩
  · intro kind spot
    apply (spawn_told reached.coherent kind spot).mono
    · intro id g' told refused
      obtain ⟨-, same⟩ | ⟨new, kind, rfl, -⟩ := told
      · exact same
      · cases refused
    · intro _ g' same
      exact same
  · intro w kind spot refused
    have does := World.spawn_does (w := w) kind spot
    revert does refused
    obtain ⟨made, w'⟩ := w.spawn kind spot
    intro refused does
    cases refused
    exact does
  · intro call answer told
    exact (answer_tells reached.coherent told).newcomers_eq.1
  · intro id calls old gone
    obtain ⟨-, gone'⟩ := gone_afterAll reached calls old gone
    obtain ⟨off, idle, unseen⟩ := (reached.afterAll calls).coherent.absent_of_gone gone'
    refine ⟨gone', off, idle, unseen, ?_, ?_⟩
    · intro new
      have fresh := (sorted_newcomers reached calls).2 id new
      omega
    · intro log told
      exact subject_ne_of_gone reached calls old gone told
  · intro call log before e spot later told leaves
    obtain ⟨entries, ⟨mid, trace, -⟩, -, same⟩ := answer_tells reached.coherent told
    rw [← same log rfl, leaves] at trace
    exact trace.subject_ne_of_destruction reached.coherent

/-- An uproar without a target fails after the wolf is gone, and no log tells of it. The knight's next
uproar costs its own life and calls a wolf under the next number; nobody meets the first wolf again. -/
theorem identity_lifecycle_uproar :
    let g := (Sample.camp .usual).after (.takeTurn "uproar" none)
    let last := Call.takeTurn "uproar" (some (.coords ⟨1, 1⟩))
    (Sample.camp .usual).answer (.takeTurn "uproar" none) = .error (.target (.missing "target")) ∧
      g.world.entity? ⟨1⟩ = none ∧ g.newcomers [last] = [⟨2⟩] ∧
      (g.afterAll [last]).world.entity? ⟨1⟩ = none ∧ ⟨1⟩ ∉ (g.afterAll [last]).turns.queue ∧
      ∀ log, g.answer last = .ok (.log log) → ∀ entry ∈ log.leaves, entry.subject? ≠ some ⟨1⟩ := by
  intro g last
  have reached : Reachable g := (Sample.camp_reachable .usual).after _
  have gone : g.world.entity? ⟨1⟩ = none := by decide +kernel
  have life := (identity_lifecycle reached).2.2.2.2.1 ⟨1⟩ [last] (by decide +kernel) gone
  obtain ⟨gone', -, idle, -, -, unmentioned⟩ := life
  refine ⟨by decide +kernel, gone, by decide +kernel, gone', idle, ?_⟩
  intro log told
  exact unmentioned log (told ▸ List.mem_singleton_self _)

end Game

end Skirmish
