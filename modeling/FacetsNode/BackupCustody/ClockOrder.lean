import FacetsNode.Lib.Run

/-!
# The clock high-water mark of a backup account

Every call on an account samples the clock, then waits for the account's row, and compares its
sample with the high-water mark it finds there. A call that sampled later may have been there first:
then the earlier sample lies below the mark, and `ErrClockRollback` is reported although the clock
never went back.
-/

namespace FacetsNode.BackupCustody

inductive CallError where
  | clockRollback
  | unauthorized
  deriving DecidableEq

/-- `lockAccountHighWater`, `lockReadAccount`: the mark the transaction writes. The last check of
both, that one row is updated, cannot fail after the first. -/
def lockAccountHighWater (authorizedAt high : Int) (authorized : Bool) : Except CallError Int :=
  if authorizedAt < high then .error .clockRollback
  else if authorized then .ok authorizedAt else .error .unauthorized

inductive Call where
  | waiting (sampled : Int)
  | holding
  | finished
  | refused (error : CallError)
  deriving DecidableEq

/-- One account and the calls made on it. Who has the row locked keeps the mark it writes to itself
until it commits. -/
structure Account where
  (clock highWater : Int)
  row : Option (Nat × Int) := none
  calls : List Call := []

inductive AccountEvent where
  | tick (milliseconds : Nat)
  /-- A call has its shared lease and samples the clock. -/
  | sample
  | lock (i : Nat) (authorized : Bool)
  /-- A finalization or confirmation samples the clock again, under the lock. -/
  | revalidate (authorized : Bool)
  | commit
  | rollback
  /-- A call stops waiting for the row: its context has ended. -/
  | giveUp (i : Nat)

namespace Account

def close (s : Account) (i : Nat) (c : Call) : Account :=
  { s with row := none, calls := s.calls.set i c }

def step : AccountEvent → Account → Account
  | .tick n, s => { s with clock := s.clock + n }
  | .sample, s => { s with calls := s.calls ++ [.waiting s.clock] }
  | .lock i authorized, s =>
    match s.row, s.calls[i]? with
    | none, some (.waiting sampled) =>
      match lockAccountHighWater sampled s.highWater authorized with
      | .ok high => { s with row := some (i, high), calls := s.calls.set i .holding }
      | .error e => s.close i (.refused e)
    | _, _ => s
  | .revalidate authorized, s =>
    match s.row with
    | none => s
    | some (i, high) =>
      match lockAccountHighWater s.clock high authorized with
      | .ok high => { s with row := some (i, high) }
      | .error e => s.close i (.refused e)
  | .commit, s => s.row.elim s fun (i, high) => { s.close i .finished with highWater := high }
  | .rollback, s => s.row.elim s fun (i, _) => s.close i .finished
  | .giveUp i, s =>
    match s.calls[i]? with
    | some (.waiting _) => { s with calls := s.calls.set i .finished }
    | _ => s

/-- No call commits a later mark than one samples that still waits for the row. -/
def inOrder (s : Account) : AccountEvent → Bool
  | .commit => s.row.all fun (_, high) => s.calls.all fun
      | .waiting sampled => high ≤ sampled
      | _ => true
  | _ => true

/-- A call that waits has sampled between the mark and now; none was refused for the clock. -/
def CallOK (s : Account) : Call → Prop
  | .waiting sampled => s.highWater ≤ sampled ∧ sampled ≤ s.clock
  | .refused e => e ≠ .clockRollback
  | _ => True

structure Ordered (s : Account) : Prop where
  mark : s.highWater ≤ s.clock
  row : ∀ p ∈ s.row, s.highWater ≤ p.2 ∧ p.2 ≤ s.clock
  calls : ∀ c ∈ s.calls, s.CallOK c

variable {s : Account}

theorem lockAccountHighWater_of_le {authorizedAt high : Int} (authorized : Bool)
    (h : high ≤ authorizedAt) :
    lockAccountHighWater authorizedAt high authorized = .ok authorizedAt ∨
      lockAccountHighWater authorizedAt high authorized = .error .unauthorized := by
  unfold lockAccountHighWater
  rw [if_neg (Int.not_lt.mpr h)]
  cases authorized <;> simp

theorem Ordered.set (h : s.Ordered) {i : Nat} {c : Call} (hc : s.CallOK c) :
    ∀ c' ∈ s.calls.set i c, s.CallOK c' := by
  intro c' hmem
  rcases List.mem_or_eq_of_mem_set hmem with hmem | rfl
  · exact h.calls c' hmem
  · exact hc

theorem Ordered.close (h : s.Ordered) {i : Nat} {c : Call}
    (hc : s.CallOK c) : (s.close i c).Ordered :=
  ⟨h.mark, by simp [Account.close], h.set hc⟩

theorem Ordered.step (h : s.Ordered) {e : AccountEvent} (horder : s.inOrder e = true) :
    (step e s).Ordered := by
  cases e with
  | tick n =>
    refine ⟨?_, fun p hp => ?_, fun c hc => ?_⟩
    · have := h.mark
      simp only [Account.step]
      omega
    · have := h.row p hp
      simp only [Account.step]
      omega
    · have := h.calls c hc
      cases c with
      | waiting t =>
        simp only [CallOK, Account.step] at this ⊢
        omega
      | _ => exact this
  | sample =>
    refine ⟨h.mark, h.row, fun c hc => ?_⟩
    rcases List.mem_append.mp hc with hc | hc
    · exact h.calls c hc
    · obtain rfl := List.mem_singleton.mp hc
      exact ⟨h.mark, Int.le_refl _⟩
  | lock i authorized =>
    simp only [Account.step]
    split
    · next sampled _ hcall =>
      have hsampled := h.calls _ (List.mem_of_getElem? hcall)
      rcases lockAccountHighWater_of_le authorized hsampled.1 with heq | heq
      · simp only [heq]
        exact ⟨h.mark, by simpa [CallOK] using hsampled, h.set trivial⟩
      · simp only [heq]
        exact h.close (by simp [CallOK])
    · exact h
  | revalidate authorized =>
    simp only [Account.step]
    split
    · exact h
    · next i high hrow =>
      have hhigh := h.row _ hrow
      rcases lockAccountHighWater_of_le authorized hhigh.2 with heq | heq
      · simp only [heq]
        exact ⟨h.mark, by simpa using h.mark, h.calls⟩
      · simp only [heq]
        exact h.close (by simp [CallOK])
  | rollback =>
    simp only [Account.step]
    cases s.row with
    | none => exact h
    | some p => exact h.close trivial
  | giveUp i =>
    simp only [Account.step]
    split
    · exact ⟨h.mark, h.row, h.set trivial⟩
    · exact h
  | commit =>
    -- The one event that raises the mark: what still waits has sampled no earlier, by the order.
    cases hrow : s.row with
    | none => simpa [Account.step, hrow] using h
    | some p =>
      have hp := h.row p hrow
      simp only [Account.step, hrow, Option.elim_some]
      refine ⟨hp.2, by simp [Account.close], fun c hc => ?_⟩
      have hold := h.set (c := .finished) trivial c hc
      cases c with
      | waiting t =>
        have hmem := (List.mem_or_eq_of_mem_set hc).resolve_right (by simp)
        simp only [inOrder, hrow, Option.all_some, List.all_eq_true] at horder
        exact ⟨by simpa using horder _ hmem, hold.2⟩
      | _ => exact hold

end Account

open Account

/-- **No rollback is reported** while calls commit in the order they sampled the clock. -/
theorem no_rollback_of_run (clock highWater : Int) (h : highWater ≤ clock)
    (events : List AccountEvent)
    (horder : Along step (inOrder · · = true) ⟨clock, highWater, none, []⟩ events) :
    .refused .clockRollback ∉ (run step ⟨clock, highWater, none, []⟩ events).calls := by
  have hinv : (run step ⟨clock, highWater, none, []⟩ events).Ordered :=
    invariant (I := Ordered) ⟨h, by simp, by simp⟩ (fun s e hs => hs.step) horder
  exact fun hmem => hinv.calls _ hmem rfl

/-- Three calls: the first commits, the second gives up, the third is revalidated under the lock. -/
theorem no_rollback_sample : .refused .clockRollback ∉ (run step ⟨0, 0, none, []⟩
      [.sample, .tick 1, .sample, .lock 0 true, .commit, .tick 1, .sample, .giveUp 1, .lock 2 true,
        .tick 1, .revalidate true, .commit]).calls :=
  no_rollback_of_run 0 0 (Int.le_refl 0) _ (by decide)

/-- The clock goes forward only, and the call that sampled first is refused. -/
theorem rollback_reported : .refused .clockRollback ∈ (run step ⟨0, 0, none, []⟩
      [.sample, .tick 1, .sample, .lock 1 true, .commit, .lock 0 true]).calls := by
  decide

end FacetsNode.BackupCustody
