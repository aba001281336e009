/-
Asynchronous functions. A function returns, throws, or awaits a port and goes on with the reply, which is a value or an
error of the port. Between two awaits it runs alone; at an await anything else may run.

A `Monitor` follows the requests of a function and their replies. `Keeps` says that every request is one the monitor
allows, whatever the ports reply, and that the function ends as a postcondition says. The rules follow the functions:
`keeps_bind`, `keeps_tryCatch`, `keeps_call`.

Several functions interleave over a state they share: one step serves the request that one of them awaits. What every
served request keeps while the monitors allow it holds in every world of every interleaving (`reaches_inStep`).
-/
import Mathlib

namespace SeeMirai

inductive Async (ρ : Type) (Reply : ρ → Type) (ε α : Type) : Type where
  | returned (a : α)
  | threw (e : ε)
  | awaiting (request : ρ) (resume : Except ε (Reply request) → Async ρ Reply ε α)

namespace Async

variable {ρ : Type} {Reply : ρ → Type} {ε α β : Type}

/-- go on with the value, or hand the error on -/
def andThen (f : α → Async ρ Reply ε β) : Async ρ Reply ε α → Async ρ Reply ε β
  | returned a => f a
  | threw e => threw e
  | awaiting request resume => awaiting request fun reply => andThen f (resume reply)

/-- go on with the error, or hand the value on -/
def rescue (handle : ε → Async ρ Reply ε α) : Async ρ Reply ε α → Async ρ Reply ε α
  | returned a => returned a
  | threw e => handle e
  | awaiting request resume => awaiting request fun reply => rescue handle (resume reply)

instance : Monad (Async ρ Reply ε) where
  pure := returned
  bind x f := andThen f x

instance : MonadExceptOf ε (Async ρ Reply ε) where
  throw := threw
  tryCatch x handle := rescue handle x

/-- `Except` as the end of a function -/
def settle : Except ε α → Async ρ Reply ε α
  | .ok a => returned a
  | .error e => threw e

/-- await one port -/
def call (request : ρ) : Async ρ Reply ε (Reply request) := awaiting request settle

theorem pure_def (a : α) : (pure a : Async ρ Reply ε α) = returned a := rfl

theorem throw_def (e : ε) : (throw e : Async ρ Reply ε α) = threw e := rfl

theorem bind_def (x : Async ρ Reply ε α) (f : α → Async ρ Reply ε β) : x >>= f = andThen f x := rfl

theorem tryCatch_def (x : Async ρ Reply ε α) (handle : ε → Async ρ Reply ε α) :
    tryCatch x handle = rescue handle x := rfl

/-! ## Monitors -/

/-- what a function may ask for next, and how a reply moves that on -/
structure Monitor (ρ : Type) (Reply : ρ → Type) (ε σ : Type) where
  Allowed : σ → ρ → Prop
  after : σ → (request : ρ) → Except ε (Reply request) → σ

variable {σ : Type} (monitor : Monitor ρ Reply ε σ)

/-- every request is allowed, whatever the replies, and the end meets `post` -/
def Keeps (post : σ → Except ε α → Prop) : σ → Async ρ Reply ε α → Prop
  | s, returned a => post s (.ok a)
  | s, threw e => post s (.error e)
  | s, awaiting request resume =>
    monitor.Allowed s request ∧ ∀ reply, Keeps post (monitor.after s request reply) (resume reply)

variable {monitor} {post mid : σ → Except ε α → Prop} {s : σ}

theorem keeps_pure {a : α} (h : post s (.ok a)) : Keeps monitor post s (pure a) := h

theorem keeps_throw {e : ε} (h : post s (.error e)) : Keeps monitor post s (throw e) := h

theorem keeps_settle {x : Except ε α} (h : post s x) : Keeps monitor post s (settle x) := by
  cases x with
  | ok a => exact h
  | error e => exact h

theorem keeps_call {request : ρ} {post : σ → Except ε (Reply request) → Prop} (hallowed : monitor.Allowed s request)
    (hreply : ∀ reply, post (monitor.after s request reply) reply) : Keeps monitor post s (call request) :=
  ⟨hallowed, fun reply => keeps_settle (hreply reply)⟩

/-- the postcondition may be weakened -/
theorem Keeps.mono {x : Async ρ Reply ε α} (h : Keeps monitor mid s x) (himp : ∀ s end_, mid s end_ → post s end_) :
    Keeps monitor post s x := by
  induction x generalizing s with
  | returned a => exact himp _ _ h
  | threw e => exact himp _ _ h
  | awaiting request resume ih => exact ⟨h.1, fun reply => ih reply (h.2 reply)⟩

/-- in sequence: what the first part ends with is what the second starts from -/
theorem keeps_bind {x : Async ρ Reply ε α} {f : α → Async ρ Reply ε β} {post : σ → Except ε β → Prop}
    (hx : Keeps monitor mid s x) (hvalue : ∀ s a, mid s (.ok a) → Keeps monitor post s (f a))
    (herror : ∀ s e, mid s (.error e) → post s (.error e)) : Keeps monitor post s (x >>= f) := by
  rw [bind_def]
  induction x generalizing s with
  | returned a => exact hvalue s a hx
  | threw e => exact herror s e hx
  | awaiting request resume ih => exact ⟨hx.1, fun reply => ih reply (hx.2 reply)⟩

/-- a request first: the rest starts from where its reply leaves the monitor -/
theorem keeps_call_bind {request : ρ} {f : Reply request → Async ρ Reply ε α} (hallowed : monitor.Allowed s request)
    (hvalue : ∀ a, Keeps monitor post (monitor.after s request (.ok a)) (f a))
    (herror : ∀ e, post (monitor.after s request (.error e)) (.error e)) :
    Keeps monitor post s (call request >>= f) := by
  refine ⟨hallowed, fun reply => ?_⟩
  cases reply with
  | ok a => exact hvalue a
  | error e => exact herror e

/-- a computation that may throw first -/
theorem keeps_settle_bind {x : Except ε β} {f : β → Async ρ Reply ε α}
    (hvalue : ∀ b, x = .ok b → Keeps monitor post s (f b)) (herror : ∀ e, x = .error e → post s (.error e)) :
    Keeps monitor post s (settle x >>= f) := by
  cases x with
  | ok b => exact hvalue b rfl
  | error e => exact herror e rfl

/-- a handler starts from where the throw left the monitor -/
theorem keeps_tryCatch {x : Async ρ Reply ε α} {handle : ε → Async ρ Reply ε α} (hx : Keeps monitor mid s x)
    (hvalue : ∀ s a, mid s (.ok a) → post s (.ok a))
    (herror : ∀ s e, mid s (.error e) → Keeps monitor post s (handle e)) :
    Keeps monitor post s (tryCatch x handle) := by
  rw [tryCatch_def]
  induction x generalizing s with
  | returned a => exact hvalue s a hx
  | threw e => exact herror s e hx
  | awaiting request resume ih => exact ⟨hx.1, fun reply => ih reply (hx.2 reply)⟩

/-- a throw that is caught as a value: the end of the program is what it returns -/
theorem keeps_attempt {x : Async ρ Reply ε α} (h : Keeps monitor mid s x) :
    Keeps monitor (fun s' end_ => ∃ ended, end_ = .ok ended ∧ mid s' ended) s
      (tryCatch (x >>= fun a => return (Except.ok a : Except ε α)) fun e => return .error e) := by
  have hreturned : Keeps monitor (fun s' end_ => (∃ a, end_ = .ok (.ok a) ∧ mid s' (.ok a)) ∨
      ∃ e, end_ = .error e ∧ mid s' (.error e)) s (x >>= fun a => return (Except.ok a : Except ε α)) :=
    keeps_bind h (fun _ a ha => keeps_pure (Or.inl ⟨a, rfl, ha⟩)) fun _ e he => Or.inr ⟨e, rfl, he⟩
  refine keeps_tryCatch hreturned (fun s' ended hended => ?_) fun s' e he => keeps_pure ?_
  · rcases hended with ⟨a, ha, hmid⟩ | ⟨e, he, -⟩
    · exact ⟨.ok a, ha, hmid⟩
    · cases he
  · rcases he with ⟨a, ha, -⟩ | ⟨e', he', hmid⟩
    · cases ha
    · cases he'
      exact ⟨.error e, rfl, hmid⟩

/-- a monitor that allows at least as much, at places that stay related -/
theorem Keeps.simulate {σ' : Type} {monitor' : Monitor ρ Reply ε σ'} {post' : σ' → Except ε α → Prop}
    (related : σ → σ' → Prop)
    (hallowed : ∀ s s' request, related s s' → monitor.Allowed s request → monitor'.Allowed s' request)
    (hafter : ∀ s s' request reply, related s s' → monitor.Allowed s request →
      related (monitor.after s request reply) (monitor'.after s' request reply))
    (hpost : ∀ s s' end_, related s s' → post s end_ → post' s' end_) {x : Async ρ Reply ε α} {s' : σ'}
    (hrelated : related s s') (h : Keeps monitor post s x) : Keeps monitor' post' s' x := by
  induction x generalizing s s' with
  | returned a => exact hpost _ _ _ hrelated h
  | threw e => exact hpost _ _ _ hrelated h
  | awaiting request resume ih =>
    exact ⟨hallowed _ _ _ hrelated h.1, fun reply => ih reply (hafter _ _ _ reply hrelated h.1) (h.2 reply)⟩

/-! ## Programs inside programs -/

section Inside

/-- run to the end without throwing, and hand over the last thing noticed among the replies -/
def watch {κ : Type} (notice : (request : ρ) → Except ε (Reply request) → Option κ) :
    Option κ → Async ρ Reply ε α → Async ρ Reply ε (Except ε α × Option κ)
  | seen, returned a => returned (.ok a, seen)
  | seen, threw e => returned (.error e, seen)
  | seen, awaiting request resume =>
    awaiting request fun reply => watch notice ((notice request reply).or seen) (resume reply)

/-- what is noticed follows the monitor: related before a request, related after it -/
theorem keeps_watch {κ : Type} {notice : (request : ρ) → Except ε (Reply request) → Option κ}
    {post : σ → Except ε (Except ε α × Option κ) → Prop} (related : σ → Option κ → Prop)
    (hafter : ∀ s seen request reply, related s seen → monitor.Allowed s request →
      related (monitor.after s request reply) ((notice request reply).or seen))
    (hpost : ∀ s seen end_, related s seen → mid s end_ → post s (.ok (end_, seen))) {x : Async ρ Reply ε α}
    {seen : Option κ} (hrelated : related s seen) (h : Keeps monitor mid s x) :
    Keeps monitor post s (watch notice seen x) := by
  induction x generalizing s seen with
  | returned a => exact hpost _ _ _ hrelated h
  | threw e => exact hpost _ _ _ hrelated h
  | awaiting request resume ih => exact ⟨h.1, fun reply => ih reply (hafter _ _ _ reply hrelated h.1) (h.2 reply)⟩

variable {ρ' : Type} {Reply' : ρ' → Type} (into : ρ → ρ') (back : ∀ request, Reply' (into request) → Reply request)

/-- ask for the same under other names -/
def embed : Async ρ Reply ε α → Async ρ' Reply' ε α
  | returned a => returned a
  | threw e => threw e
  | awaiting request resume => awaiting (into request) fun reply => embed (resume (reply.map (back request)))

/-- the monitor of an embedded program -/
theorem keeps_embed {monitor' : Monitor ρ' Reply' ε σ} {x : Async ρ Reply ε α}
    (hallowed : ∀ s request, monitor.Allowed s request → monitor'.Allowed s (into request))
    (hafter : ∀ s request reply, monitor.Allowed s request →
      monitor'.after s (into request) reply = monitor.after s request (reply.map (back request)))
    (h : Keeps monitor post s x) : Keeps monitor' post s (embed into back x) := by
  induction x generalizing s with
  | returned a => exact h
  | threw e => exact h
  | awaiting request resume ih =>
    refine ⟨hallowed _ _ h.1, fun reply => ?_⟩
    rw [hafter _ _ _ h.1]
    exact ih _ (h.2 _)

end Inside

/-! ## Interleavings -/

section Interleaving

variable {ι γ : Type} [DecidableEq ι]

/-- functions under way, each under a name, over a state they share -/
structure World (ι γ ρ : Type) (Reply : ρ → Type) (ε α : Type) where
  shared : γ
  running : ι → Option (Async ρ Reply ε α)

/-- what the shared state does: how functions start, how a request is served, how it moves by itself -/
structure Environment (ι γ ρ : Type) (Reply : ρ → Type) (ε α : Type) where
  Starts : ι → γ → Async ρ Reply ε α → γ → Prop
  Serves : ι → γ → (request : ρ) → Except ε (Reply request) → γ → Prop
  Drifts : γ → γ → Prop

inductive Step (env : Environment ι γ ρ Reply ε α) : World ι γ ρ Reply ε α → World ι γ ρ Reply ε α → Prop where
  | start {w : World ι γ ρ Reply ε α} (i : ι) (program : Async ρ Reply ε α) (shared : γ)
      (hidle : w.running i = none) (hstarts : env.Starts i w.shared program shared) :
      Step env w { shared := shared, running := Function.update w.running i (some program) }
  | serve {w : World ι γ ρ Reply ε α} (i : ι) (request : ρ) (resume : Except ε (Reply request) → Async ρ Reply ε α)
      (reply : Except ε (Reply request)) (shared : γ) (hrunning : w.running i = some (.awaiting request resume))
      (hserves : env.Serves i w.shared request reply shared) :
      Step env w { shared := shared, running := Function.update w.running i (some (resume reply)) }
  /-- a function has ended, or its process dies under it -/
  | stop {w : World ι γ ρ Reply ε α} (i : ι) : Step env w { w with running := Function.update w.running i none }
  | drift {w : World ι γ ρ Reply ε α} (shared : γ) (hdrifts : env.Drifts w.shared shared) :
      Step env w { w with shared := shared }

/-- the worlds that some interleaving leads to -/
inductive Reaches (env : Environment ι γ ρ Reply ε α) (start : World ι γ ρ Reply ε α) :
    World ι γ ρ Reply ε α → Prop where
  | refl : Reaches env start start
  | step {w w' : World ι γ ρ Reply ε α} (before : Reaches env start w) (hstep : Step env w w') : Reaches env start w'

theorem Reaches.trans {env : Environment ι γ ρ Reply ε α} {start w w' : World ι γ ρ Reply ε α} (h : Reaches env start w)
    (hlater : Reaches env w w') : Reaches env start w' := by
  induction hlater with
  | refl => exact h
  | step _ hstep ih => exact .step ih hstep

/-- one more request served -/
theorem Reaches.serve {env : Environment ι γ ρ Reply ε α} {start w : World ι γ ρ Reply ε α} (h : Reaches env start w)
    {i : ι} {request : ρ} {resume : Except ε (Reply request) → Async ρ Reply ε α}
    (hrunning : w.running i = some (.awaiting request resume)) (reply : Except ε (Reply request)) {shared : γ}
    (hserves : env.Serves i w.shared request reply shared) :
    Reaches env start { shared := shared, running := Function.update w.running i (some (resume reply)) } :=
  .step h (.serve i request resume reply shared hrunning hserves)

/-- one more request served, and where its function goes on -/
theorem Reaches.next {env : Environment ι γ ρ Reply ε α} {start w : World ι γ ρ Reply ε α} (h : Reaches env start w)
    {i : ι} {request : ρ} {resume : Except ε (Reply request) → Async ρ Reply ε α}
    (hrunning : w.running i = some (.awaiting request resume)) (reply : Except ε (Reply request))
    {program : Async ρ Reply ε α} (hresume : resume reply = program) {shared : γ}
    (hserves : env.Serves i w.shared request reply shared) :
    ∃ w' : World ι γ ρ Reply ε α, Reaches env start w' ∧ w'.running i = some program ∧ w'.shared = shared :=
  ⟨_, h.serve hrunning reply hserves, by rw [hresume]; exact Function.update_self _ _ _, rfl⟩

/-- a world in step with the monitors of its functions; the invariant speaks of the shared state and their places -/
def InStep (monitor : ι → Monitor ρ Reply ε σ) (post : ι → σ → Except ε α → Prop) (inv : γ → (ι → Option σ) → Prop)
    (w : World ι γ ρ Reply ε α) : Prop :=
  ∃ places : ι → Option σ, inv w.shared places ∧ ∀ i, match w.running i, places i with
    | some program, some s => Keeps (monitor i) (post i) s program
    | none, none => True
    | _, _ => False

omit [DecidableEq ι] in
/-- in step, each function is at a place from which it keeps to its monitor -/
theorem InStep.places {monitor : ι → Monitor ρ Reply ε σ} {post : ι → σ → Except ε α → Prop}
    {inv : γ → (ι → Option σ) → Prop} {w : World ι γ ρ Reply ε α} (h : InStep monitor post inv w) :
    ∃ places : ι → Option σ, inv w.shared places ∧ ∀ i program, w.running i = some program →
      ∃ s, places i = some s ∧ Keeps (monitor i) (post i) s program := by
  obtain ⟨places, hshared, hkeeps⟩ := h
  refine ⟨places, hshared, fun i program hrunning => ?_⟩
  have hi := hkeeps i
  rw [hrunning] at hi
  cases hplace : places i with
  | none => rw [hplace] at hi; exact hi.elim
  | some s => rw [hplace] at hi; exact ⟨s, rfl, hi⟩

/-- what an invariant must survive -/
structure Invariant (env : Environment ι γ ρ Reply ε α) (monitor : ι → Monitor ρ Reply ε σ)
    (post : ι → σ → Except ε α → Prop) (inv : γ → (ι → Option σ) → Prop) : Prop where
  start : ∀ shared places i program shared', inv shared places → places i = none →
    env.Starts i shared program shared' →
    ∃ s, Keeps (monitor i) (post i) s program ∧ inv shared' (Function.update places i (some s))
  serve : ∀ shared places i s request reply shared', inv shared places → places i = some s →
    (monitor i).Allowed s request → env.Serves i shared request reply shared' →
    inv shared' (Function.update places i (some ((monitor i).after s request reply)))
  stop : ∀ shared places i, inv shared places → inv shared (Function.update places i none)
  drift : ∀ shared places shared', inv shared places → env.Drifts shared shared' → inv shared' places

variable {env : Environment ι γ ρ Reply ε α} {monitors : ι → Monitor ρ Reply ε σ} {posts : ι → σ → Except ε α → Prop}
  {inv : γ → (ι → Option σ) → Prop} {w w' : World ι γ ρ Reply ε α}

theorem step_inStep (hinv : Invariant env monitors posts inv) (h : InStep monitors posts inv w)
    (hstep : Step env w w') : InStep monitors posts inv w' := by
  obtain ⟨places, hshared, hkeeps⟩ := h
  cases hstep with
  | start i program shared hidle hstarts =>
    have hi := hkeeps i
    rw [hidle] at hi
    have hplace : places i = none := by
      cases h : places i with
      | none => rfl
      | some s => rw [h] at hi; exact hi.elim
    obtain ⟨s, hprogram, hinv'⟩ := hinv.start _ _ i program shared hshared hplace hstarts
    refine ⟨_, hinv', fun j => ?_⟩
    by_cases hj : j = i
    · subst hj
      simpa using hprogram
    · simpa [Function.update_of_ne hj] using hkeeps j
  | serve i request resume reply shared hrunning hserves =>
    have hi := hkeeps i
    rw [hrunning] at hi
    cases hplace : places i with
    | none => rw [hplace] at hi; exact hi.elim
    | some s =>
      rw [hplace] at hi
      refine ⟨_, hinv.serve _ _ i s request reply shared hshared hplace hi.1 hserves, fun j => ?_⟩
      by_cases hj : j = i
      · subst hj
        simpa using hi.2 reply
      · simpa [Function.update_of_ne hj] using hkeeps j
  | stop i =>
    refine ⟨_, hinv.stop _ _ i hshared, fun j => ?_⟩
    by_cases hj : j = i
    · subst hj
      simp
    · simpa [Function.update_of_ne hj] using hkeeps j
  | drift shared hdrifts => exact ⟨places, hinv.drift _ _ _ hshared hdrifts, hkeeps⟩

/-- **Interleaving.** An invariant that the start meets and every step survives holds in every world reached. -/
theorem reaches_inStep (hinv : Invariant env monitors posts inv) (h : InStep monitors posts inv w)
    (hrun : Reaches env w w') : InStep monitors posts inv w' := by
  induction hrun with
  | refl => exact h
  | step _ hstep ih => exact step_inStep hinv ih hstep

end Interleaving

end Async

end SeeMirai
