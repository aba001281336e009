/-
Programs that read and write a state and may throw. What was written before a throw stays written, and a handler goes on
from there: the state is what the program has done to the outside, and cannot be taken back.

- `Effect.run_bind`, `Effect.run_tryCatch`: a program is evaluated from its parts.
- `Effect.attempt`: a caught error as a value.
-/
import Mathlib

namespace SeeMirai

def Effect (σ ε α : Type) := σ → Except ε α × σ

namespace Effect

variable {σ ε α β : Type}

def run (x : Effect σ ε α) (s : σ) : Except ε α × σ := x s

/-- go on with the value, or hand the error on -/
def next (f : α → Effect σ ε β) : Except ε α × σ → Except ε β × σ
  | (.ok a, s) => (f a).run s
  | (.error e, s) => (.error e, s)

/-- go on with the error, or hand the value on -/
def rescue (handle : ε → Effect σ ε α) : Except ε α × σ → Except ε α × σ
  | (.ok a, s) => (.ok a, s)
  | (.error e, s) => (handle e).run s

instance : Monad (Effect σ ε) where
  pure a := fun s => (.ok a, s)
  bind x f := fun s => next f (x.run s)

instance : MonadExceptOf ε (Effect σ ε) where
  throw e := fun s => (.error e, s)
  tryCatch x handle := fun s => rescue handle (x.run s)

def update (f : σ → σ) : Effect σ ε Unit := fun s => (.ok (), f s)

def read : Effect σ ε σ := fun s => (.ok s, s)

def ofExcept (x : Except ε α) : Effect σ ε α := fun s => (x, s)

/-- a caught error as a value -/
def attempt (x : Effect σ ε α) : Effect σ ε (Except ε α) := fun s => (.ok (x.run s).1, (x.run s).2)

/-! ## Evaluation -/

@[simp] theorem next_ok (f : α → Effect σ ε β) (a : α) (s : σ) : next f (.ok a, s) = (f a).run s := rfl

@[simp] theorem next_error (f : α → Effect σ ε β) (e : ε) (s : σ) : next f (.error e, s) = (.error e, s) := rfl

@[simp] theorem rescue_ok (handle : ε → Effect σ ε α) (a : α) (s : σ) : rescue handle (.ok a, s) = (.ok a, s) := rfl

@[simp] theorem rescue_error (handle : ε → Effect σ ε α) (e : ε) (s : σ) :
    rescue handle (.error e, s) = (handle e).run s := rfl

@[simp] theorem run_pure (a : α) (s : σ) : (pure a : Effect σ ε α).run s = (.ok a, s) := rfl

@[simp] theorem run_bind (x : Effect σ ε α) (f : α → Effect σ ε β) (s : σ) : (x >>= f).run s = next f (x.run s) := rfl

@[simp] theorem run_throw (e : ε) (s : σ) : (throw e : Effect σ ε α).run s = (.error e, s) := rfl

@[simp] theorem run_tryCatch (x : Effect σ ε α) (handle : ε → Effect σ ε α) (s : σ) :
    (tryCatch x handle).run s = rescue handle (x.run s) := rfl

@[simp] theorem run_update (f : σ → σ) (s : σ) : (update f : Effect σ ε Unit).run s = (.ok (), f s) := rfl

@[simp] theorem run_read (s : σ) : (read : Effect σ ε σ).run s = (.ok s, s) := rfl

@[simp] theorem run_ofExcept (x : Except ε α) (s : σ) : (ofExcept x : Effect σ ε α).run s = (x, s) := rfl

@[simp] theorem run_attempt (x : Effect σ ε α) (s : σ) : (attempt x).run s = (.ok (x.run s).1, (x.run s).2) := rfl

end Effect

end SeeMirai
