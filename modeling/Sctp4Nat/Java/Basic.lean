import Mathlib.Logic.Function.Basic

/-! # Java methods

A method with effects on an object graph of type `σ` is a function `Java σ α`. An exception
leaves the fields written before it as they are, so the result of a method is an outcome
together with the state, whatever the outcome. -/

namespace Sctp4Nat

/-- The exceptions that occur, each with its message. -/
inductive Throwable
  | ioException (msg : String)
  | nullPointerException (msg : String)
  | illegalArgumentException (msg : String)
  | illegalStateException (msg : String)
  | runtimeException (msg : String)
  | sctpInitException (msg : String)
  | timeoutException (msg : String)
  | interruptedException (msg : String)
  | exception (msg : String)
  deriving DecidableEq, Repr

/-- A dereference of `null`, as the virtual machine reports it. -/
def Throwable.npe : Throwable := .nullPointerException ""

def Java (σ α : Type) : Type := σ → Except Throwable α × σ

namespace Java

variable {σ α β : Type}

def run (m : Java σ α) (s : σ) : Except Throwable α × σ := m s

instance : Monad (Java σ) where
  pure a := fun s => (.ok a, s)
  bind m f := fun s =>
    match m s with
    | (.ok a, s') => f a s'
    | (.error e, s') => (.error e, s')

instance : MonadStateOf σ (Java σ) where
  get := fun s => (.ok s, s)
  set s := fun _ => (.ok ⟨⟩, s)
  modifyGet f := fun s => (.ok (f s).1, (f s).2)

instance : MonadExceptOf Throwable (Java σ) where
  throw e := fun s => (.error e, s)
  tryCatch m h := fun s =>
    match m s with
    | (.ok a, s') => (.ok a, s')
    | (.error e, s') => h e s'

/-- The value of an expression that is dereferenced: `null` throws. -/
def deref : Option α → Java σ α
  | some a => pure a
  | none => throw .npe

/-- The outcome of a call that only returns or throws. -/
def ofExcept (r : Except Throwable α) : Java σ α := fun s => (r, s)

/-- `try { m } finally { f }`: an exception in the `finally` block replaces the outcome. -/
def tryFinally (m : Java σ α) (f : Java σ Unit) : Java σ α := fun s =>
  match f (m s).2 with
  | (.ok _, s') => ((m s).1, s')
  | (.error e, s') => (.error e, s')

/-- `try { m } catch (IOException e)` with a block that only logs. -/
def catchIOException (m : Java σ Unit) : Java σ Unit := fun s =>
  match m s with
  | (.error (.ioException _), s') => (.ok (), s')
  | r => r

/-- A method of an object that is a part of the state. -/
def zoom {τ : Type} (part : σ → τ) (put : τ → σ → σ) (m : Java τ α) : Java σ α := fun s =>
  ((m (part s)).1, put (m (part s)).2 s)

@[simp] theorem run_pure (a : α) (s : σ) : (pure a : Java σ α).run s = (.ok a, s) := rfl

theorem run_bind (m : Java σ α) (f : α → Java σ β) (s : σ) :
    (m >>= f).run s = match m.run s with
      | (.ok a, s') => (f a).run s'
      | (.error e, s') => (.error e, s') := rfl

@[simp] theorem run_get (s : σ) : (get : Java σ σ).run s = (.ok s, s) := rfl

@[simp] theorem run_set (s s' : σ) : (set s' : Java σ PUnit).run s = (.ok ⟨⟩, s') := rfl

@[simp] theorem run_modify (f : σ → σ) (s : σ) :
    (modify f : Java σ PUnit).run s = (.ok ⟨⟩, f s) := rfl

@[simp] theorem run_throw (e : Throwable) (s : σ) :
    (throw e : Java σ α).run s = (.error e, s) := rfl

theorem run_tryCatch (m : Java σ α) (h : Throwable → Java σ α) (s : σ) :
    (tryCatch m h).run s = match m.run s with
      | (.ok a, s') => (.ok a, s')
      | (.error e, s') => (h e).run s' := rfl

@[simp] theorem run_deref_some (a : α) (s : σ) : (deref (some a)).run s = (.ok a, s) := rfl

@[simp] theorem run_deref_none (s : σ) :
    (deref none : Java σ α).run s = (.error .npe, s) := rfl

@[simp] theorem run_ofExcept (r : Except Throwable α) (s : σ) :
    (ofExcept r : Java σ α).run s = (r, s) := rfl

theorem run_tryFinally (m : Java σ α) (f : Java σ Unit) (s : σ) :
    (tryFinally m f).run s = match f.run (m.run s).2 with
      | (.ok _, s') => ((m.run s).1, s')
      | (.error e, s') => (.error e, s') := rfl

theorem run_catchIOException (m : Java σ Unit) (s : σ) :
    (catchIOException m).run s = match m.run s with
      | (.error (.ioException _), s') => (.ok (), s')
      | r => r := rfl

theorem run_zoom {τ : Type} (part : σ → τ) (put : τ → σ → σ) (m : Java τ α) (s : σ) :
    (zoom part put m).run s = ((m.run (part s)).1, put (m.run (part s)).2 s) := rfl

/-- After a method that returned normally the next one runs in the state it left. -/
theorem run_bind_ok {m : Java σ α} {f : α → Java σ β} (h : m.run s = (.ok a, s')) :
    (m >>= f).run s = (f a).run s' := by
  rw [run_bind, h]

theorem run_bind_error {m : Java σ α} {f : α → Java σ β} (h : m.run s = (.error e, s')) :
    (m >>= f).run s = (.error e, s') := by
  rw [run_bind, h]

/-- A sequence that returned normally did so in each of its two parts. -/
theorem run_bind_eq_ok {m : Java σ α} {f : α → Java σ β} (h : (m >>= f).run s = (.ok b, s')) :
    ∃ a s₁, m.run s = (.ok a, s₁) ∧ (f a).run s₁ = (.ok b, s') := by
  rw [run_bind] at h
  cases hm : m.run s with
  | mk r s₁ =>
    rw [hm] at h
    cases r with
    | ok a => exact ⟨a, s₁, rfl, h⟩
    | error e => cases h

theorem fst_run_bind_error {m : Java σ α} {f : α → Java σ β} (h : (m.run s).1 = .error e) :
    ((m >>= f).run s).1 = .error e := by
  rw [run_bind]
  split
  · rename_i hrun
    rw [hrun] at h
    cases h
  · rename_i hrun
    rw [hrun] at h
    cases h
    rfl

end Java

end Sctp4Nat
