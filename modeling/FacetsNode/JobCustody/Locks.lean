import Mathlib.Logic.Relation
import FacetsNode.Lib.Run
import FacetsNode.Relay.Model

/-!
# Row locks of the job custody transactions

A transaction of `JobCustodyStore` is the sequence of row locks it takes. Most take the ledger row
first. The append and finalization leases take the row of their capsule, stay open, and take the
ledger row when they commit, so an expiry that holds the ledger row and asks for that capsule waits
for a lease that waits for it. Where nobody who holds the ledger row has to wait, no transactions
wait in a cycle.
-/

namespace FacetsNode.JobCustody

open Relay (UUID)

inductive Row where
  | ledger
  | admission (capsuleID : UUID)
  | claim (claimID : UUID)
  | result (resultCapsuleID : UUID)
  deriving DecidableEq

inductive Lock where
  /-- `SELECT ... FOR UPDATE`, or `UPDATE`. -/
  | wait (row : Row)
  /-- `SKIP LOCKED`, or the row of an `INSERT`: nobody waits for it. -/
  | free (row : Row)
  deriving DecidableEq

/-- A transaction with the rows it finds. A claim that is not on record has no row to lock. -/
inductive Transaction where
  | reserveAdmission (inserted : Option UUID)
  | append (capsuleID : UUID)
  | finalization (capsuleID : UUID)
  | claimNext (claim : Option UUID) (expired : List UUID) (next inserted : Option UUID)
  | renewClaim (claimID : UUID)
  | reserveResult (claim inserted : Option UUID)
  | resultAppend (resultCapsuleID : UUID)
  | resultFinalization (resultCapsuleID : UUID)
  | acknowledgeResultDelivery (resultCapsuleID : UUID)
  | requestResultRelease (resultCapsuleID : UUID)
  | finalizeResultRelease (resultCapsuleID : UUID)
  | requestResultExpiry (resultCapsuleID : UUID)
  | finalizeResultExpiry (resultCapsuleID : UUID)
  | requestAdmissionExpiry (capsuleID : UUID) (expired : List UUID)
  | finalizeAdmissionExpiry (capsuleID : UUID)

open Lock Row

/-- The locks in the order they are taken. -/
def Transaction.locks : Transaction → List Lock
  | reserveAdmission inserted => wait ledger :: inserted.toList.map (free ∘ admission)
  | append id | finalization id => [wait (admission id), wait ledger]
  | claimNext c expired next inserted =>
    wait ledger :: (c.toList ++ expired).map (wait ∘ claim) ++ next.toList.map (free ∘ admission) ++
      inserted.toList.map (free ∘ claim)
  | renewClaim id => [wait ledger, wait (claim id)]
  | reserveResult c inserted =>
    wait ledger :: c.toList.map (wait ∘ claim) ++ inserted.toList.map (free ∘ result)
  | resultAppend id | resultFinalization id => [wait (result id), wait ledger]
  | acknowledgeResultDelivery id | requestResultRelease id | finalizeResultRelease id
  | requestResultExpiry id | finalizeResultExpiry id => [wait ledger, wait (result id)]
  | requestAdmissionExpiry id expired =>
    wait ledger :: wait (admission id) :: expired.map (wait ∘ claim)
  | finalizeAdmissionExpiry id => [wait ledger, wait (admission id)]

/-- A transaction that has begun: the locks to come, and whether it asked for the next one in
vain. -/
structure Running where
  todo : List Lock
  asked : Bool := false

/-- Transactions by number, and who holds which row. -/
structure Locks where
  running : Nat → Option Running := fun _ => none
  holder : Row → Option Nat := fun _ => none

inductive Event where
  | start (i : Nat) (t : Transaction)
  /-- The transaction asks for its next row, or is woken up. -/
  | lock (i : Nat)
  /-- Commit or rollback. -/
  | finish (i : Nat)

namespace Locks

def put (s : Locks) (i : Nat) (r : Running) : Locks :=
  { s with running := Function.update s.running i (some r) }

def take (s : Locks) (i : Nat) (row : Row) (todo : List Lock) : Locks :=
  { s.put i ⟨todo, false⟩ with holder := Function.update s.holder row (some i) }

/-- Nobody else holds the row. -/
def available (s : Locks) (i : Nat) (row : Row) : Bool := (s.holder row).all (· == i)

def ask (s : Locks) (i : Nat) : List Lock → Locks
  | [] => s
  | wait row :: rest =>
    if s.available i row then s.take i row rest else s.put i ⟨wait row :: rest, true⟩
  | free row :: rest => if s.available i row then s.take i row rest else s.put i ⟨rest, false⟩

def step : Event → Locks → Locks
  | .start i t, s => if (s.running i).isSome then s else s.put i ⟨t.locks, false⟩
  | .lock i, s => (s.running i).elim s fun r => s.ask i r.todo
  | .finish i, s =>
    { running := Function.update s.running i none
      holder := fun row => if s.holder row = some i then none else s.holder row }

/-- The first transaction waits for a row that the second holds. -/
def Waits (s : Locks) (i j : Nat) : Prop :=
  ∃ row rest, s.running i = some ⟨wait row :: rest, true⟩ ∧ s.holder row = some j

/-- Transactions wait in a cycle. -/
def Deadlock (s : Locks) : Prop := ∃ i, Relation.TransGen s.Waits i i

/-- Who holds the ledger row does not have to wait. -/
def clear (s : Locks) : Event → Bool
  | .lock i => s.holder ledger != some i || (s.running i).all fun r =>
      match r.todo with
      | wait row :: _ => s.available i row
      | _ => true
  | _ => true

/-! ## Invariant -/

/-- How far a transaction is that holds these rows. Before it has the ledger row it holds nothing,
or the ledger row is all it lacks; once it has the ledger row it does not wait. -/
inductive Stage (holds : Row → Prop) : Option Running → Prop
  | idle (hnone : ∀ row, ¬ holds row) : Stage holds none
  | fresh {t : Transaction} {asked} (hnone : ∀ row, ¬ holds row) :
      Stage holds (some ⟨t.locks, asked⟩)
  | last {asked} (hledger : ¬ holds ledger) : Stage holds (some ⟨[wait ledger], asked⟩)
  | locked {todo} (hledger : holds ledger) : Stage holds (some ⟨todo, false⟩)

def Ordered (s : Locks) : Prop := ∀ i, Stage (s.holder · = some i) (s.running i)

theorem locks_cases (t : Transaction) : (∃ rest, t.locks = wait ledger :: rest) ∨
      ∃ row, row ≠ ledger ∧ t.locks = [wait row, wait ledger] := by
  cases t with
  | append | finalization | resultAppend | resultFinalization =>
    refine .inr ⟨_, ?_, rfl⟩
    simp
  | _ => exact .inl ⟨_, rfl⟩

section
variable {s s' : Locks} {i : Nat} {row : Row} {rest : List Lock}

/-- An event of one transaction leaves the others where they are. -/
theorem Ordered.update (h : s.Ordered) (hi : Stage (s'.holder · = some i) (s'.running i))
    (hrunning : ∀ j ≠ i, s'.running j = s.running j)
    (hholder : ∀ j ≠ i, ∀ row, s'.holder row = some j ↔ s.holder row = some j) : s'.Ordered := by
  intro j
  by_cases hj : j = i
  · exact hj ▸ hi
  · rw [hrunning j hj]
    simp only [hholder j hj]
    exact h j

theorem Ordered.put (h : s.Ordered) {r : Running} (hi : Stage (s.holder · = some i) (some r)) :
    (s.put i r).Ordered :=
  h.update (i := i) (by simpa [Locks.put] using hi) (fun j hj => Function.update_of_ne hj _ _)
    fun _ _ _ => Iff.rfl

theorem Ordered.take (h : s.Ordered) (havailable : s.available i row = true)
    (hi : Stage ((s.take i row rest).holder · = some i) (some ⟨rest, false⟩)) :
    (s.take i row rest).Ordered := by
  refine h.update (i := i) (by simpa [Locks.take, Locks.put] using hi)
    (fun j hj => Function.update_of_ne hj _ _) fun j hj row' => ?_
  by_cases hrow : row' = row
  · subst hrow
    have hother : s.holder row' ≠ some j := by
      intro heq
      simp [available, heq, hj] at havailable
    simp [Locks.take, hother, Ne.symm hj]
  · simp [Locks.take, hrow]

/-- Who has the ledger row takes the next one at once. -/
theorem Ordered.locked (h : s.Ordered) (hledger : s.holder ledger = some i)
    (havailable : s.available i row = true) : (s.take i row rest).Ordered := by
  refine h.take havailable (.locked ?_)
  by_cases hrow : ledger = row
  · simp [Locks.take, hrow]
  · simpa [Locks.take, hrow] using hledger

theorem Ordered.ask (h : s.Ordered) {todo : List Lock} {asked : Bool}
    (hi : Stage (s.holder · = some i) (some ⟨todo, asked⟩))
    (hclear : s.holder ledger = some i → ∀ row rest, todo = wait row :: rest →
      s.available i row = true) : (s.ask i todo).Ordered := by
  -- By how far the transaction has come: nothing locked yet, all but the ledger, or the ledger too.
  cases hi with
  | @fresh t _ hnone =>
    obtain ⟨rest, hlocks⟩ | ⟨row, hrow, hlocks⟩ := locks_cases t
    · have hwait : Stage (s.holder · = some i) (some ⟨wait ledger :: rest, true⟩) :=
        hlocks ▸ .fresh hnone
      simp only [hlocks, Locks.ask]
      split
      · next havailable => exact h.take havailable (.locked (by simp [Locks.take]))
      · exact h.put hwait
    · have hwait : Stage (s.holder · = some i) (some ⟨[wait row, wait ledger], true⟩) :=
        hlocks ▸ .fresh hnone
      simp only [hlocks, Locks.ask]
      split
      · next havailable =>
        refine h.take havailable (.last ?_)
        simpa [Locks.take, Ne.symm hrow] using hnone ledger
      · exact h.put hwait
  | last hledger =>
    simp only [Locks.ask]
    split
    · next havailable => exact h.take havailable (.locked (by simp [Locks.take]))
    · exact h.put (.last hledger)
  | locked hledger =>
    cases todo with
    | nil => exact h
    | cons lock rest =>
      cases lock with
      | wait row =>
        have havailable := hclear hledger row rest rfl
        simp only [Locks.ask, havailable, if_true]
        exact h.locked hledger havailable
      | free row =>
        simp only [Locks.ask]
        split
        · next havailable => exact h.locked hledger havailable
        · exact h.put (.locked hledger)

theorem Ordered.step (h : s.Ordered) {e : Event} (hclear : s.clear e = true) :
    (step e s).Ordered := by
  cases e with
  | lock i =>
    have hi := h i
    cases hrunning : s.running i with
    | none => simpa [Locks.step, hrunning] using h
    | some r =>
      rw [hrunning] at hi
      simp only [Locks.step, hrunning, Option.elim_some]
      refine h.ask hi fun hledger row rest htodo => ?_
      simpa [clear, hledger, hrunning, htodo] using hclear
  | start i t =>
    have hi := h i
    cases hrunning : s.running i with
    | some r => simpa [Locks.step, hrunning] using h
    | none =>
      rw [hrunning] at hi
      cases hi with
      | idle hnone => simpa [Locks.step, hrunning] using h.put (.fresh hnone)
  | finish i =>
    refine h.update (i := i) ?_ (fun j hj => Function.update_of_ne hj _ _) fun j hj row => ?_
    · simp only [Locks.step, Function.update_self]
      exact .idle fun row => by split <;> simp [*]
    · simp only [Locks.step]
      split
      · next heq => simp [heq, Ne.symm hj]
      · rfl

/-- Who waits holds nothing, or waits for the ledger row and does not have it. -/
theorem Ordered.waits (h : s.Ordered) (hrunning : s.running i = some ⟨wait row :: rest, true⟩) :
    s.holder ledger ≠ some i ∧ ((∃ row', s.holder row' = some i) → row = ledger) := by
  have hi := h i
  rw [hrunning] at hi
  generalize heq : (⟨wait row :: rest, true⟩ : Running) = r at hi
  cases hi with
  | fresh hnone => exact ⟨hnone _, fun ⟨_, hrow⟩ => absurd hrow (hnone _)⟩
  | last hledger =>
    cases heq
    exact ⟨hledger, fun _ => rfl⟩
  | locked => cases heq

theorem Ordered.not_deadlock (h : s.Ordered) : ¬ s.Deadlock := by
  rintro ⟨i, hcycle⟩
  -- one on the cycle holds a row, so it waits for the ledger row; who has that waits as well
  obtain ⟨_, -, row', -, -, hheld⟩ := Relation.TransGen.tail'_iff.mp hcycle
  obtain ⟨j, ⟨row, rest, hi, hj⟩, hrest⟩ := Relation.TransGen.head'_iff.mp hcycle
  obtain rfl := (h.waits hi).2 ⟨row', hheld⟩
  rcases hrest.cases_head with rfl | ⟨_, ⟨_, _, hnext, -⟩, -⟩
  · exact (h.waits hi).1 hj
  · exact (h.waits hnext).1 hj

end

end Locks

open Locks

/-- **No deadlock**, in any interleaving in which nobody who holds the ledger row has to wait. -/
theorem no_deadlock_of_run (events : List Event)
    (hclear : Along step (clear · · = true) {} events) :
    ¬ (run step {} events).Deadlock := by
  refine Ordered.not_deadlock (invariant (I := Ordered) ?_ (fun s e h => h.step) hclear)
  exact fun i => .idle fun row => by simp

/-- A lease that is committed before the expiry asks for its capsule. -/
theorem no_deadlock_sample :
    ¬ (run step {} [.start 0 (.append 1), .lock 0, .start 1 (.requestAdmissionExpiry 1 []), .lock 0,
      .lock 1, .finish 0, .lock 1, .lock 1]).Deadlock :=
  no_deadlock_of_run _ (by decide)

/-- The expiry asks for the capsule of an open lease: each waits for the other. -/
theorem append_expiry_deadlock :
    (run step {} [.start 0 (.append 1), .lock 0, .start 1 (.requestAdmissionExpiry 1 []), .lock 1,
      .lock 0, .lock 1]).Deadlock :=
  ⟨0, .tail (.single ⟨ledger, [], rfl, rfl⟩) ⟨admission 1, [], rfl, rfl⟩⟩

end FacetsNode.JobCustody
