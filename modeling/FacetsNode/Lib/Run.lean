import Mathlib.Data.List.Induction

/-!
# Runs of a deterministic machine

A machine over states `σ` whose labels `α` act by `step : α → σ → σ`. `run step s l` is the state
after the labels of `l`, and `Along step P s l` says that every step of that run, seen from the
state it starts in, satisfies `P` — a guard on the environment, such as a clock that does not go
back.

Two rules carry every proof about runs:

* `invariant` — what one guarded step preserves, a guarded run preserves;
* `run_induction` — a property of a whole run, proved label by label at its end, for the statements
  that speak of earlier states of the same run.
-/

namespace FacetsNode

variable {σ α : Type} (step : α → σ → σ)

/-- The state after a list of labels. -/
def run (s : σ) (l : List α) : σ := l.foldl (fun s a => step a s) s

/-- Every step of the run satisfies `P`. -/
def Along (P : σ → α → Prop) : σ → List α → Prop
  | _, [] => True
  | s, a :: l => P s a ∧ Along P (step a s) l

instance decidableAlong {P : σ → α → Prop} [∀ s a, Decidable (P s a)] :
    (s : σ) → (l : List α) → Decidable (Along step P s l)
  | _, [] => inferInstanceAs (Decidable True)
  | s, a :: l => @instDecidableAnd (P s a) _ _ (decidableAlong (step a s) l)

@[simp] theorem run_nil (s : σ) : run step s [] = s := rfl

@[simp] theorem run_cons (s : σ) (a : α) (l : List α) :
    run step s (a :: l) = run step (step a s) l := rfl

theorem run_append (s : σ) (l l' : List α) : run step s (l ++ l') = run step (run step s l) l' :=
  List.foldl_append

theorem run_concat (s : σ) (l : List α) (a : α) :
    run step s (l ++ [a]) = step a (run step s l) := run_append step s l [a]

variable {step} {P : σ → α → Prop}

theorem along_append {s : σ} {l l' : List α} :
    Along step P s (l ++ l') ↔ Along step P s l ∧ Along step P (run step s l) l' := by
  induction l generalizing s with
  | nil => simp [Along]
  | cons a l ih => simp [Along, ih, and_assoc]

theorem along_concat {s : σ} {l : List α} {a : α} :
    Along step P s (l ++ [a]) ↔ Along step P s l ∧ P (run step s l) a := by
  rw [along_append]
  simp [Along]

theorem Along.mono {Q : σ → α → Prop} {s : σ} {l : List α} (h : Along step P s l)
    (hPQ : ∀ s a, P s a → Q s a) : Along step Q s l := by
  induction l generalizing s with
  | nil => trivial
  | cons a l ih => exact ⟨hPQ _ _ h.1, ih h.2⟩

theorem along_true {s : σ} (l : List α) : Along step (fun _ _ => True) s l := by
  induction l generalizing s with
  | nil => trivial
  | cons a l ih => exact ⟨trivial, ih⟩

/-- A run is guarded throughout, or there is a first step that is not. -/
theorem along_or_first (P : σ → α → Prop) (s : σ) (l : List α) :
    Along step P s l ∨ ∃ l₁ a l₂, l = l₁ ++ a :: l₂ ∧ Along step P s l₁ ∧
      ¬ P (run step s l₁) a := by
  induction l generalizing s with
  | nil => exact .inl trivial
  | cons a l ih =>
    by_cases ha : P s a
    · rcases ih (step a s) with hl | ⟨l₁, b, l₂, rfl, hl₁, hb⟩
      · exact .inl ⟨ha, hl⟩
      · exact .inr ⟨a :: l₁, b, l₂, rfl, ⟨ha, hl₁⟩, hb⟩
    · exact .inr ⟨[], a, l, rfl, trivial, ha⟩

/-- **Invariants.** What every guarded step preserves, every guarded run preserves. -/
theorem invariant {I : σ → Prop} {s : σ} {l : List α} (hinit : I s)
    (hstep : ∀ s a, I s → P s a → I (step a s)) (hl : Along step P s l) :
    I (run step s l) := by
  induction l generalizing s with
  | nil => exact hinit
  | cons a l ih => exact ih (hstep s a hinit hl.1) hl.2

/-- What relates every state to the next relates it to every later one. -/
theorem related_of_run {R : σ → σ → Prop} (hrefl : ∀ s, R s s)
    (htrans : ∀ {s t u}, R s t → R t u → R s u) (hstep : ∀ s a, R s (step a s)) (s : σ)
    (l : List α) : R s (run step s l) :=
  invariant (I := R s) (hrefl s) (fun t a h _ => htrans h (hstep t a)) (along_true l)

/-- **Histories.** A property of runs that holds of the empty run and survives one more guarded step
at the end holds of every guarded run. -/
theorem run_induction {s : σ} {motive : List α → Prop} (hnil : motive [])
    (hconcat : ∀ l a, Along step P s l → motive l → P (run step s l) a → motive (l ++ [a]))
    {l : List α} (hl : Along step P s l) : motive l := by
  induction l using List.reverseRecOn with
  | nil => exact hnil
  | append_singleton l a ih =>
    obtain ⟨hl, ha⟩ := along_concat.mp hl
    exact hconcat l a hl (ih hl) ha

end FacetsNode
