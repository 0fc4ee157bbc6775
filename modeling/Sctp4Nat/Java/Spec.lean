import Sctp4Nat.Java.Basic

/-! # Pre- and postconditions of Java methods

`Java.Spec P m Q E` says what `m` does from a state in `P`: when it returns `a`, the state is in
`Q a`, and when it throws, the state is in `E`. Every method ends in one of the two ways, so the
triple says what holds afterwards in any case. -/

namespace Sctp4Nat.Java

variable {σ τ α β : Type}

def Spec (P : σ → Prop) (m : Java σ α) (Q : α → σ → Prop) (E : σ → Prop) : Prop :=
  ∀ s, P s → match m.run s with
    | (.ok a, s') => Q a s'
    | (.error _, s') => E s'

variable {P R : σ → Prop} {Q : α → σ → Prop} {E : σ → Prop}

theorem Spec.pure {a : α} (h : ∀ s, P s → Q a s) : Spec P (pure a) Q E := h

theorem Spec.throw {e : Throwable} (h : ∀ s, P s → E s) : Spec P (throw e) Q E := h

theorem Spec.get {Q : σ → σ → Prop} (h : ∀ s, P s → Q s s) : Spec P (get : Java σ σ) Q E := h

theorem Spec.modify {Q : PUnit → σ → Prop} {f : σ → σ} (h : ∀ s, P s → Q ⟨⟩ (f s)) :
    Spec P (modify f : Java σ PUnit) Q E := h

theorem Spec.deref {o : Option α} (hsome : ∀ a s, o = some a → P s → Q a s)
    (hnone : ∀ s, P s → E s) : Spec P (deref o) Q E := by
  cases o with
  | some a => exact fun s hs => hsome a s rfl hs
  | none => exact hnone

theorem Spec.bind {m : Java σ α} {f : α → Java σ β} {Q : β → σ → Prop} {R : α → σ → Prop}
    (hm : Spec P m R E) (hf : ∀ a, Spec (R a) (f a) Q E) : Spec P (m >>= f) Q E := by
  intro s hs
  have hm := hm s hs
  rw [run_bind]
  cases hr : m.run s with
  | mk r s' =>
    rw [hr] at hm
    cases r with
    | ok a => exact hf a s' hm
    | error e => exact hm

theorem Spec.tryCatch {m : Java σ α} {f : Throwable → Java σ α} (hm : Spec P m Q R)
    (hf : ∀ e, Spec R (f e) Q E) : Spec P (tryCatch m f) Q E := by
  intro s hs
  have hm := hm s hs
  rw [run_tryCatch]
  cases hr : m.run s with
  | mk r s' =>
    rw [hr] at hm
    cases r with
    | ok a => exact hm
    | error e => exact hf e s' hm

theorem Spec.catchIOException {m : Java σ Unit} {Q : Unit → σ → Prop} (hm : Spec P m Q E)
    (hio : ∀ s, E s → Q () s) : Spec P (catchIOException m) Q E := by
  intro s hs
  have hm := hm s hs
  rw [run_catchIOException]
  cases hr : m.run s with
  | mk r s' =>
    rw [hr] at hm
    cases r with
    | ok a => exact hm
    | error e => cases e <;> first | exact hio s' hm | exact hm

/-- A method of a part of the state, from what is known of the part after it. -/
theorem Spec.zoom {part : σ → τ} {put : τ → σ → σ} {m : Java τ α}
    (hok : ∀ s a, P s → (m.run (part s)).1 = .ok a → Q a (put (m.run (part s)).2 s))
    (herr : ∀ s, P s → E (put (m.run (part s)).2 s)) : Spec P (zoom part put m) Q E := by
  intro s hs
  rw [run_zoom]
  cases hr : (m.run (part s)).1 with
  | ok a => exact hok s a hs hr
  | error e => exact herr s hs

/-- What holds after a method that keeps `P`, however it ends. -/
theorem Spec.state {m : Java σ α} (h : Spec P m (fun _ => R) R) (hs : P s) :
    R (m.run s).2 := by
  have h := h s hs
  cases hr : m.run s with
  | mk r s' =>
    rw [hr] at h
    cases r <;> exact h

end Sctp4Nat.Java
