/-!
# Both ends of a step

The engine runs in steps that change a state and then answer or fail, and a failure keeps the state.
`Ensures` says something of both ends of such a step at once: of the answer with its state, and of the
error with its state. A step made of others is taken apart at its first part (`ensures_bind`). Results
are compared part by part, so that a run on given inputs can be decided.
-/

namespace Skirmish

variable {ε σ α β : Type}

instance decEqResult [DecidableEq ε] [DecidableEq σ] [DecidableEq α] :
    DecidableEq (EStateM.Result ε σ α)
  | .ok a s, .ok b t => decidable_of_iff (a = b ∧ s = t) (by simp)
  | .error d s, .error e t => decidable_of_iff (d = e ∧ s = t) (by simp)
  | .ok .., .error .. => isFalse nofun
  | .error .., .ok .. => isFalse nofun

theorem bind_of_ok {m : EStateM ε σ α} {s s' : σ} {a : α} (first : m s = .ok a s') (k : α → EStateM ε σ β) :
    (m >>= k) s = k a s' := by
  show EStateM.bind m k s = _
  rw [EStateM.bind, first]

theorem bind_of_error {m : EStateM ε σ α} {s s' : σ} {e : ε} (failed : m s = .error e s')
    (k : α → EStateM ε σ β) : (m >>= k) s = .error e s' := by
  show EStateM.bind m k s = _
  rw [EStateM.bind, failed]

/-- What holds of an answer with its state, and of an error with its state. -/
def Ensures (r : EStateM.Result ε σ α) (ok : α → σ → Prop) (error : ε → σ → Prop) : Prop :=
  match r with
  | .ok a s => ok a s
  | .error e s => error e s

variable {r : EStateM.Result ε σ α} {ok ok' : α → σ → Prop} {error error' : ε → σ → Prop}

theorem Ensures.mono (h : Ensures r ok error) (answers : ∀ a s, ok a s → ok' a s)
    (fails : ∀ e s, error e s → error' e s) : Ensures r ok' error' := by
  cases r with
  | ok a s => exact answers a s h
  | error e s => exact fails e s h

theorem ensures_pure {a : α} {s : σ} : Ensures ((pure a : EStateM ε σ α) s) ok error ↔ ok a s := Iff.rfl

/-- After the first part, the second starts from the first one's answer and state. -/
theorem ensures_bind {m : EStateM ε σ α} {k : α → EStateM ε σ β} {s : σ} {ok : β → σ → Prop} :
    Ensures ((m >>= k) s) ok error ↔ Ensures (m s) (fun a s => Ensures (k a s) ok error) error := by
  show Ensures (EStateM.bind m k s) ok error ↔ _
  rw [EStateM.bind]
  cases m s <;> rfl

end Skirmish
