/-
Transactions over a store. A transaction runs its statements one after the other; a statement changes the store or
throws, and where one throws the whole transaction leaves the store as it was. Besides what a statement refuses by
itself, it may fail for reasons of its own: `faults` says what becomes of the statements to come.

Results:
- `transact_throws`: a transaction that throws changes nothing.
- `transact_ok`: a transaction that returns leaves what its statements left.
- `run_statement_ok`: a statement that returns did what it does to the store.
-/
import SeeMirai.Lib.Effect

namespace SeeMirai.Transaction

open Effect

variable {σ ε α β : Type}

structure Session (σ ε : Type) where
  store : σ
  faults : List (Option ε)

abbrev Program (σ ε : Type) := Effect (Session σ ε) ε

/-- a statement that refused or failed leaves the store -/
def settleStatement (session : Session σ ε) : Except ε (α × σ) → Except ε α × Session σ ε
  | .ok (a, store) => (.ok a, { session with store := store })
  | .error e => (.error e, session)

/-- one statement, unless its fault strikes first -/
def statement (f : σ → Except ε (α × σ)) : Program σ ε α := fun session =>
  match session.faults with
  | some e :: faults => (.error e, { session with faults := faults })
  | _ => settleStatement { session with faults := session.faults.tail } (f session.store)

/-- commit or roll back -/
def transact (program : Program σ ε α) (faults : List (Option ε)) (store : σ) : Except ε α × σ :=
  match program.run ⟨store, faults⟩ with
  | (.ok a, session) => (.ok a, session.store)
  | (.error e, _) => (.error e, store)

/-- a transaction that throws changes nothing -/
theorem transact_throws {program : Program σ ε α} {faults : List (Option ε)} {store store' : σ} {e : ε}
    (h : transact program faults store = (.error e, store')) : store' = store := by
  unfold transact at h
  split at h
  · cases h
  · cases h
    rfl

theorem transact_ok {program : Program σ ε α} {faults : List (Option ε)} {store store' : σ} {a : α}
    (h : transact program faults store = (.ok a, store')) :
    ∃ session, program.run ⟨store, faults⟩ = (.ok a, session) ∧ session.store = store' := by
  unfold transact at h
  split at h
  · rename_i a' session hrun
    cases h
    exact ⟨session, hrun, rfl⟩
  · cases h

/-- a program that returned went through its parts -/
theorem run_bind_ok {x : Program σ ε α} {f : α → Program σ ε β} {session session' : Session σ ε} {b : β}
    (h : (x >>= f).run session = (.ok b, session')) :
    ∃ a mid, x.run session = (.ok a, mid) ∧ (f a).run mid = (.ok b, session') := by
  rw [run_bind] at h
  cases hx : x.run session with
  | mk result mid =>
    rw [hx] at h
    cases result with
    | ok a => exact ⟨a, mid, rfl, h⟩
    | error e => cases h

theorem run_statement_ok {f : σ → Except ε (α × σ)} {session session' : Session σ ε} {a : α}
    (h : (statement f).run session = (.ok a, session')) : f session.store = .ok (a, session'.store) := by
  have hsettled : settleStatement { session with faults := session.faults.tail } (f session.store) =
    (.ok a, session') := by
    unfold statement Effect.run at h
    simp only at h
    split at h
    · cases h
    · exact h
  cases hf : f session.store with
  | ok done =>
    rw [hf] at hsettled
    cases hsettled
    rfl
  | error e =>
    rw [hf] at hsettled
    cases hsettled

theorem run_ofExcept_ok {x : Except ε α} {session session' : Session σ ε} {a : α}
    (h : (Effect.ofExcept x : Program σ ε α).run session = (.ok a, session')) : x = .ok a ∧ session' = session := by
  rw [run_ofExcept] at h
  cases h
  exact ⟨rfl, rfl⟩

theorem run_pure_ok {b a : α} {session session' : Session σ ε}
    (h : (pure b : Program σ ε α).run session = (.ok a, session')) : a = b ∧ session' = session := by
  rw [run_pure] at h
  cases h
  exact ⟨rfl, rfl⟩

end SeeMirai.Transaction
