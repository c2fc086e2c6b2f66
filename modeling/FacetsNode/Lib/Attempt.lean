import Mathlib.Logic.Basic

/-!
# Attempts: failing computations whose writes persist

A handler that mutates shared state under a lock and returns an error is *not* a transaction: what
it wrote before the error stays written. `Attempt σ ε α` is exactly that — a state transformer
whose failure carries the state along instead of rolling it back.

`Ends m s Q` is the postcondition judgement: started in `s`, the attempt `m` ends with an outcome
and a final state satisfying `Q`, on success and on failure alike. The rules below take one leading
command off a `do` block each, so a proof about a handler follows the handler line by line.
-/

namespace FacetsNode

/-- A check in front of the rest passes, and so does the rest. -/
theorem bind_eq_ok {ε α β : Type} {x : Except ε α} {f : α → Except ε β} {b : β} :
    (x >>= f) = .ok b ↔ ∃ a, x = .ok a ∧ f a = .ok b := by
  cases x with
  | error e =>
    constructor
    · intro h; cases h
    · rintro ⟨_, h, _⟩; cases h
  | ok a =>
    constructor
    · intro h; exact ⟨a, rfl, h⟩
    · rintro ⟨_, h, hf⟩; cases h; exact hf

/-- Whether a computation passes, and with what, can be read off a run of it. -/
instance decidableExistsOk {ε α : Type} {P : α → Prop} [DecidablePred P] :
    (x : Except ε α) → Decidable (∃ a, x = .ok a ∧ P a)
  | .error _ => .isFalse (by rintro ⟨_, h, _⟩; cases h)
  | .ok a => decidable_of_iff (P a) ⟨fun h => ⟨a, rfl, h⟩, by rintro ⟨_, h, hp⟩; cases h; exact hp⟩

/-- A computation over `σ` that may fail with `ε`; its writes survive the failure. -/
def Attempt (σ ε α : Type) : Type := σ → Except ε α × σ

namespace Attempt

variable {σ ε α β : Type}

instance : Monad (Attempt σ ε) where
  pure a := fun s => (.ok a, s)
  bind m f := fun s =>
    match m s with
    | (.ok a, s') => f a s'
    | (.error e, s') => (.error e, s')

/-- Fail, keeping the state. -/
def fail (e : ε) : Attempt σ ε α := fun s => (.error e, s)

/-- The current state. -/
def get : Attempt σ ε σ := fun s => (.ok s, s)

/-- Rewrite the state. -/
def modify (f : σ → σ) : Attempt σ ε Unit := fun s => (.ok (), f s)

/-- A check that only reads. -/
def ofExcept (x : Except ε α) : Attempt σ ε α := fun s => (x, s)

/-- `if c { return err }`. -/
def rejectIf (c : Prop) [Decidable c] (e : ε) : Attempt σ ε Unit :=
  fun s => if c then (.error e, s) else (.ok (), s)

/-- Started in `s`, the attempt ends with an outcome and a state satisfying `Q`. -/
def Ends (m : Attempt σ ε α) (s : σ) (Q : Except ε α → σ → Prop) : Prop := Q (m s).1 (m s).2

variable {m : Attempt σ ε α} {s : σ}

theorem Ends.mono {P Q : Except ε α → σ → Prop} (h : Ends m s P) (hPQ : ∀ r s', P r s' → Q r s') :
    Ends m s Q := hPQ _ _ h

/-! ## The leaves -/

theorem ends_pure {Q : Except ε α → σ → Prop} {a : α} (h : Q (.ok a) s) :
    Ends (pure a : Attempt σ ε α) s Q := h

theorem ends_fail {Q : Except ε α → σ → Prop} {e : ε} (h : Q (.error e) s) : Ends (fail e) s Q := h

theorem ends_rejectIf_last {c : Prop} [Decidable c] {e : ε} {Q : Except ε Unit → σ → Prop}
    (herr : c → Q (.error e) s) (hok : ¬ c → Q (.ok ()) s) : Ends (rejectIf c e) s Q := by
  unfold Ends rejectIf
  by_cases h : c
  · simp only [if_pos h]; exact herr h
  · simp only [if_neg h]; exact hok h

/-! ## One command in front of the rest -/

variable {f : α → Attempt σ ε β} {Q : Except ε β → σ → Prop}

theorem ends_bind (h : Ends m s (fun r s' => match r with
      | .ok a => Ends (f a) s' Q
      | .error e => Q (.error e) s')) : Ends (m >>= f) s Q := by
  unfold Ends at h ⊢
  show Q ((match m s with | (.ok a, s') => f a s' | (.error e, s') => (.error e, s')) : _ × _).1
    ((match m s with | (.ok a, s') => f a s' | (.error e, s') => (.error e, s')) : _ × _).2
  rcases hm : m s with ⟨r, s'⟩
  rw [hm] at h
  cases r with
  | ok a => exact h
  | error e => exact h

/-- A final conversion of the answer. -/
theorem ends_map {g : α → β} (h : Ends m s (fun r s' => Q (r.map g) s')) : Ends (g <$> m) s Q := by
  apply ends_bind
  unfold Ends at h ⊢
  cases hr : (m s).1 with
  | ok a | error e =>
    rw [hr] at h
    exact h

theorem state_map (g : α → β) (m : Attempt σ ε α) (s : σ) : ((g <$> m) s).2 = (m s).2 :=
  ends_map (Q := fun _ s' => s' = (m s).2) rfl

theorem ends_get {f : σ → Attempt σ ε β} (h : Ends (f s) s Q) : Ends (get >>= f) s Q := h

theorem ends_modify {g : σ → σ} {f : Unit → Attempt σ ε β} (h : Ends (f ()) (g s) Q) :
    Ends (modify g >>= f) s Q := h

theorem ends_ofExcept {x : Except ε α} (herr : ∀ e, x = .error e → Q (.error e) s)
    (hok : ∀ a, x = .ok a → Ends (f a) s Q) : Ends (ofExcept x >>= f) s Q := by
  cases x with
  | error e => exact herr e rfl
  | ok a => exact hok a rfl

theorem ends_rejectIf {c : Prop} [Decidable c] {e : ε} {f : Unit → Attempt σ ε β}
    (herr : c → Q (.error e) s) (hok : ¬ c → Ends (f ()) s Q) :
    Ends (rejectIf c e >>= f) s Q := by
  apply ends_bind
  unfold Ends rejectIf
  by_cases h : c
  · simp only [if_pos h]; exact herr h
  · simp only [if_neg h]; exact hok h

/-- A check whose failure ends the same way whatever it found. -/
theorem ends_reject {c : Prop} [Decidable c] {e : ε} {f : Unit → Attempt σ ε β}
    (herr : Q (.error e) s)
    (hok : ¬ c → Ends (f ()) s Q) : Ends (rejectIf c e >>= f) s Q :=
      ends_rejectIf (fun _ => herr) hok

end Attempt

end FacetsNode
