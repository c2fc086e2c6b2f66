import FacetsNode.ComputePool.Contracts
import Mathlib.Data.List.Chain

/-!
# Job lifecycles

`EvaluateJobLifecycle` reads a pool's signed transitions of one job together with the receipts of
its Workers and of the applying devices. It first drops repeats, then checks the receipts against
the admission, and last walks the chain of transitions, looking up the evidence each of them names.

* **`lifecycle_evidence`** — an accepted history is a hash chain of signed, allowed transitions, and
  a completed one rests on an applied result of an execution under this very admission; repeats and
  the order of the receipts do not matter, and every prefix is accepted;
* **`lifecycle_result`** — which results an accepted history stages, delivers and applies.
-/

namespace FacetsNode.ComputePool

open Relay (UUID uuidNil)
open List

structure JobLifecycleEvaluation where
  jobID : UUID
  currentState : JobState
  (acceptedTransitionCount duplicateTransitionCount acceptedExecutionReceiptCount : Nat)
  (duplicateExecutionReceiptCount acceptedApplicationReceiptCount : Nat)
  duplicateApplicationReceiptCount : Nat

/-- The arguments of `EvaluateJobLifecycle` beside the transitions and the receipts. -/
structure JobContext where
  authorization : InvocationAuthorization
  admission : PoolAdmission
  signedWorkerCard : SignedWorkerCard
  workerEnrollment : WorkerEnrollment
  offering : Offering
  (permittedInvocationAuthorities permittedApplicationAuthorities : List P256SigningAuthority)
  (expectedPoolID expectedPoolAuthorityID : UUID)
  expectedPoolSigningKeyFingerprint : GoString

def allowedJobTransition (source target : JobState) : Bool :=
  match source with
  | .authorized => target ∈ [JobState.admitted, .cancelRequested, .expired]
  | .admitted => target ∈ [JobState.queued, .leased, .cancelRequested, .expired]
  | .queued => target ∈ [JobState.leased, .paused, .cancelRequested, .failed, .expired]
  | .leased => target ∈ [JobState.executing, .queued, .retryWait, .cancelRequested, .failed,
      .expired]
  | .executing => target ∈ [JobState.resultStaged, .retryWait, .cancelRequested, .failed, .expired]
  | .retryWait => target ∈ [JobState.queued, .leased, .paused, .cancelRequested, .failed, .expired]
  | .resultStaged => target ∈ [JobState.resultDelivered, .cancelRequested, .failed]
  | .resultDelivered => target ∈ [JobState.resultApplied, .cancelRequested, .failed]
  | .resultApplied => target = .completed
  | .cancelRequested => target ∈ [JobState.cancelled, .failed, .expired]
  | .paused => target ∈ [JobState.queued, .cancelRequested, .expired]
  | _ => false

/-! ## Dropping repeats -/

/-- What the loop over the transitions has gathered. -/
structure TransitionLog where
  uniqueTransitions : List PoolJobTransition
  transitionByID : GoMap UUID GoString
  transitionBySequence : GoMap Nat GoString
  (duplicateTransitions previousInputSequence : Nat)

def TransitionLog.empty : TransitionLog := ⟨[], ∅, ∅, 0, 0⟩

/-- A transition that was there before. -/
def TransitionLog.again (log : TransitionLog) (t : PoolJobTransition) : TransitionLog :=
  { log with
    duplicateTransitions := log.duplicateTransitions + 1
    previousInputSequence := t.sequence }

/-- A new transition. -/
def TransitionLog.push (log : TransitionLog) (t : PoolJobTransition) (digest : GoString) :
    TransitionLog :=
  { log with
    uniqueTransitions := log.uniqueTransitions ++ [t]
    transitionByID := log.transitionByID.set t.transitionID digest
    transitionBySequence := log.transitionBySequence.set t.sequence digest
    previousInputSequence := t.sequence }

variable (c : Suite) (k : JobContext)

/-- The transition is of the expected pool, under the key of its authority. -/
def JobContext.signs (t : PoolJobTransition) : Bool :=
  t.poolID == k.expectedPoolID && t.signature.signerID == k.expectedPoolAuthorityID &&
    t.signature.signingKeyFingerprint == k.expectedPoolSigningKeyFingerprint

/-- One round of the loop over the transitions. -/
def TransitionLog.add (log : TransitionLog) (t : PoolJobTransition) : Option TransitionLog :=
  if t.sequence < log.previousInputSequence || !t.validate c then none
  else
    match c.digest (.transition t) with
    | none => none
    | some digest =>
      match log.transitionByID.get? t.transitionID with
      | some prior => if prior = digest then some (log.again t) else none
      | none =>
        match log.transitionBySequence.get? t.sequence with
        | some prior => if prior = digest then some (log.again t) else none
        | none => if k.signs t then some (log.push t digest) else none

/-- The two maps of `dedupeExecutions` and `dedupeApplications`. -/
structure ReceiptIndex (κ α : Type) where
  byID : GoMap UUID α
  byKey : GoMap κ GoString

section Dedupe
variable {κ α : Type} [DecidableEq κ] (valid : α → Bool) (digest : α → GoString) (idOf : α → UUID)
  (keyOf : α → κ)

/-- One round of their loop: `keyOf` is what may have one receipt only. -/
def ReceiptIndex.add (x : ReceiptIndex κ α) (receipt : α) : Option (ReceiptIndex κ α) :=
  if !valid receipt then none
  else
    match x.byID.get? (idOf receipt) with
    | some prior => if digest prior = digest receipt then some x else none
    | none =>
      if (x.byKey.get? (keyOf receipt)).any (· != digest receipt) then none
      else some ⟨x.byID.set (idOf receipt) receipt, x.byKey.set (keyOf receipt) (digest receipt)⟩

def dedupeReceipts (receipts : List α) : Option (GoMap UUID α) :=
  (receipts.foldlM (ReceiptIndex.add valid digest idOf keyOf) ⟨∅, ∅⟩).map ReceiptIndex.byID

/-- `executionForDigest` and `applicationForDigest`: the loop over the map stops at the first
receipt with the digest. -/
def receiptForDigest (receipts : GoMap UUID α) (wanted : Option GoString) : Option α :=
  match wanted with
  | none => none
  | some wanted => (receipts.pairs.map Prod.snd).find? (digest · == wanted)

end Dedupe

/-- The digest of an execution receipt, empty when it has none (`digest, _ := receipt.Digest()`). -/
def executionDigest (r : WorkerExecutionReceipt) : GoString := (c.digest (.execution r)).getD []

def applicationDigest (r : ResultApplicationReceipt) : GoString :=
  (c.digest (.application r)).getD []

/-- `dedupeExecutions`: one receipt for each job and attempt. -/
def dedupeExecutions (receipts : List WorkerExecutionReceipt) :
    Option (GoMap UUID WorkerExecutionReceipt) :=
  dedupeReceipts (WorkerExecutionReceipt.validate c) (executionDigest c) (fun r => r.receiptID)
    (fun r => (r.jobID, r.attempt)) receipts

/-- `dedupeApplications`: one receipt for each job. -/
def dedupeApplications (receipts : List ResultApplicationReceipt) :
    Option (GoMap UUID ResultApplicationReceipt) :=
  dedupeReceipts (ResultApplicationReceipt.validate c) (applicationDigest c) (fun r => r.receiptID)
    (fun r => r.jobID) receipts

def executionForDigest : GoMap UUID WorkerExecutionReceipt → Option GoString →
    Option WorkerExecutionReceipt := receiptForDigest (executionDigest c)

def applicationForDigest : GoMap UUID ResultApplicationReceipt → Option GoString →
    Option ResultApplicationReceipt := receiptForDigest (applicationDigest c)

/-! ## Checking the evidence -/

namespace JobContext

/-- The admission is for this job and releases its input. -/
def admits (jobID : UUID) : Bool :=
  k.admission.jobID == jobID && k.admission.poolID == k.expectedPoolID &&
    k.admission.validateInputRelease c k.authorization k.signedWorkerCard k.workerEnrollment k.offering
      ⟨k.expectedPoolAuthorityID, k.expectedPoolSigningKeyFingerprint⟩
      k.permittedInvocationAuthorities k.admission.admittedAtMilliseconds

def validExecution (jobID : UUID) (receipt : WorkerExecutionReceipt) : Bool :=
  receipt.jobID == jobID &&
    receipt.validateAdmission c k.admission k.authorization k.workerEnrollment &&
    receipt.startedAtMilliseconds < k.admission.leaseExpiresAtMilliseconds &&
    receipt.finishedAtMilliseconds ≤ k.admission.expiresAtMilliseconds &&
    receipt.finishedAtMilliseconds ≤ k.authorization.expiresAtMilliseconds

def validApplication (jobID : UUID) (executionByID : GoMap UUID WorkerExecutionReceipt)
    (receipt : ResultApplicationReceipt) : Bool :=
  match executionByID.get? receipt.executionReceiptID with
  | none => false
  | some execution =>
    receipt.jobID == jobID &&
      anyP256AuthorityAuthorizes k.permittedApplicationAuthorities receipt.signature &&
      receipt.validateExecution c execution

/-- Where the walk along the chain is: the transition before, and the evidence of a `result_applied`
transition once there was one. -/
structure Walk where
  previous : Option PoolJobTransition
  applied : Option GoString

/-- The transition opens the chain, or follows the one before it. -/
def follows (previous : Option PoolJobTransition) (t : PoolJobTransition) : Bool :=
  match previous with
  | none =>
    t.sequence == 1 && t.predecessorDigest == none && t.state == .authorized &&
      t.evidenceDigest == some ((c.digest (.authorization k.authorization)).getD []) &&
      k.authorization.authorizedAtMilliseconds ≤ t.occurredAtMilliseconds &&
      t.occurredAtMilliseconds < k.authorization.expiresAtMilliseconds
  | some p =>
    t.sequence == p.sequence + 1 &&
      t.predecessorDigest == some ((c.digest (.transition p)).getD []) &&
      p.occurredAtMilliseconds ≤ t.occurredAtMilliseconds && allowedJobTransition p.state t.state

/-- The evidence a transition into its state must name. -/
def evidenced (executionByID : GoMap UUID WorkerExecutionReceipt)
    (applicationByID : GoMap UUID ResultApplicationReceipt) (applied : Option GoString)
    (t : PoolJobTransition) : Bool :=
  match t.state with
  | .admitted =>
    t.evidenceDigest == some ((c.digest (.admission k.admission)).getD []) &&
      k.admission.admittedAtMilliseconds ≤ t.occurredAtMilliseconds &&
      t.occurredAtMilliseconds < k.admission.expiresAtMilliseconds
  | .leased => t.occurredAtMilliseconds < k.admission.leaseExpiresAtMilliseconds
  | .executing => t.occurredAtMilliseconds < k.admission.leaseExpiresAtMilliseconds
  | .resultStaged =>
    (executionForDigest c executionByID t.evidenceDigest).any
      (·.finishedAtMilliseconds ≤ t.occurredAtMilliseconds)
  | .resultDelivered =>
    (executionForDigest c executionByID t.evidenceDigest).any
      (·.finishedAtMilliseconds ≤ t.occurredAtMilliseconds)
  | .resultApplied =>
    (applicationForDigest c applicationByID t.evidenceDigest).any
      (·.appliedAtMilliseconds ≤ t.occurredAtMilliseconds)
  | .completed => applied.isSome && t.evidenceDigest == applied
  | _ => true

/-- One round of the loop over the chain. -/
def check (jobID : UUID) (executionByID : GoMap UUID WorkerExecutionReceipt)
    (applicationByID : GoMap UUID ResultApplicationReceipt) (w : Walk) (t : PoolJobTransition) :
    Option Walk :=
  if t.jobID == jobID && k.follows c w.previous t &&
      k.evidenced c executionByID applicationByID w.applied t then
    some ⟨some t, if t.state = .resultApplied then t.evidenceDigest else w.applied⟩
  else none

/-- Everything after the repeats are dropped. -/
def accepts (jobID : UUID) (executionByID : GoMap UUID WorkerExecutionReceipt)
    (applicationByID : GoMap UUID ResultApplicationReceipt)
    (chain : List PoolJobTransition) : Bool :=
  k.admits c jobID && executionByID.pairs.all (fun p => k.validExecution c jobID p.2) &&
    applicationByID.pairs.all (fun p => k.validApplication c jobID executionByID p.2) &&
    (chain.foldlM (k.check c jobID executionByID applicationByID) ⟨none, none⟩).isSome

end JobContext

def evaluateJobLifecycle (transitions : List PoolJobTransition)
    (executions : List WorkerExecutionReceipt) (applications : List ResultApplicationReceipt) :
    Option JobLifecycleEvaluation := do
  let log ← transitions.foldlM (TransitionLog.add c k) .empty
  let executionByID ← dedupeExecutions c executions
  let applicationByID ← dedupeApplications c applications
  let first ← log.uniqueTransitions.head?
  let last ← log.uniqueTransitions.getLast?
  if k.accepts c first.jobID executionByID applicationByID log.uniqueTransitions then
    return {
      jobID := first.jobID
      currentState := last.state
      acceptedTransitionCount := log.uniqueTransitions.length
      duplicateTransitionCount := log.duplicateTransitions
      acceptedExecutionReceiptCount := executionByID.len
      duplicateExecutionReceiptCount := executions.length - executionByID.len
      acceptedApplicationReceiptCount := applicationByID.len
      duplicateApplicationReceiptCount := applications.length - applicationByID.len }
  else none

/-! ## Receipts without repeats -/

open GoMap

open Option

section Dedupe
variable {κ α : Type} {valid : α → Bool} {digest : α → GoString} {idOf : α → UUID} {keyOf : α → κ}

/-- Digests tell the elements of a list apart. -/
def Distinguishes {β : Type} (f : α → β) (l : List α) : Prop :=
  ∀ a ∈ l, ∀ b ∈ l, f a = f b → a = b

variable {l : List α} {a : α}

theorem Distinguishes.subset {β : Type} {f : α → β} {l' : List α} (h : Distinguishes f l)
    (hsub : ∀ a ∈ l', a ∈ l) : Distinguishes f l' :=
  fun a ha b hb => h a (hsub a ha) b (hsub b hb)

theorem Distinguishes.concat {β : Type} {f : α → β} (h : Distinguishes f l)
    (hnew : ∀ b ∈ l, f b ≠ f a) : Distinguishes f (l ++ [a]) := by
  intro b hb d hd hsame
  rcases mem_append.mp hb with hb | hb <;> rcases mem_append.mp hd with hd | hd
  · exact h b hb d hd hsame
  · exact absurd (mem_singleton.mp hd ▸ hsame) (hnew b hb)
  · exact absurd (mem_singleton.mp hb ▸ hsame.symm) (hnew d hd)
  · rw [mem_singleton.mp hb, mem_singleton.mp hd]

/-- Valid receipts, no two of them with one identifier or one key. -/
structure Compatible (valid : α → Bool) (idOf : α → UUID) (keyOf : α → κ) (l : List α) : Prop where
  valid : ∀ a ∈ l, valid a = true
  sameID : Distinguishes idOf l
  sameKey : Distinguishes keyOf l

theorem Compatible.subset {l' : List α} (h : Compatible valid idOf keyOf l)
    (hsub : ∀ a ∈ l', a ∈ l) : Compatible valid idOf keyOf l' where
  valid a ha := h.valid a (hsub a ha)
  sameID := h.sameID.subset hsub
  sameKey := h.sameKey.subset hsub

theorem Compatible.concat {done : List α} (h : Compatible valid idOf keyOf done)
    (hvalid : valid a = true) (hid : ∀ b ∈ done, idOf b ≠ idOf a)
    (hkey : ∀ b ∈ done, keyOf b ≠ keyOf a) : Compatible valid idOf keyOf (done ++ [a]) where
  valid b hb := by
    rcases mem_append.mp hb with hb | hb
    · exact h.valid b hb
    · exact mem_singleton.mp hb ▸ hvalid
  sameID := h.sameID.concat hid
  sameKey := h.sameKey.concat hkey

variable [DecidableEq κ]

/-- The maps hold what the loop has read. -/
structure ReceiptIndex.Holds (digest : α → GoString) (idOf : α → UUID) (keyOf : α → κ)
    (done : List α)
    (x : ReceiptIndex κ α) : Prop where
  byID : ∀ id a, x.byID.get? id = some a ↔ a ∈ done ∧ idOf a = id
  byKey : ∀ key d, x.byKey.get? key = some d ↔ ∃ a ∈ done, keyOf a = key ∧ digest a = d

theorem ReceiptIndex.holds_empty : ReceiptIndex.Holds digest idOf keyOf [] ⟨∅, ∅⟩ := by
  constructor <;> intro key value
  · simp [get?_empty]
  · simp [get?_empty]

variable {done : List α} {x : ReceiptIndex κ α} {a : α}

/-- A receipt that was read before changes nothing. -/
theorem ReceiptIndex.Holds.again (h : x.Holds digest idOf keyOf done) (ha : a ∈ done) :
    x.Holds digest idOf keyOf (done ++ [a]) := by
  have hmem : ∀ b, b ∈ done ++ [a] ↔ b ∈ done := by
    intro b
    rw [mem_append, mem_singleton]
    exact ⟨fun hb => hb.elim id fun hba => hba ▸ ha, .inl⟩
  constructor
  · intro id b
    rw [hmem]
    exact h.byID id b
  · intro key d
    simp only [hmem]
    exact h.byKey key d

/-- A receipt with a new identifier and a new key is filed. -/
theorem ReceiptIndex.Holds.push (h : x.Holds digest idOf keyOf done)
    (hid : ∀ b ∈ done, idOf b ≠ idOf a) (hkey : ∀ b ∈ done, keyOf b ≠ keyOf a) :
    ReceiptIndex.Holds digest idOf keyOf (done ++ [a])
      ⟨x.byID.set (idOf a) a, x.byKey.set (keyOf a) (digest a)⟩ := by
  constructor
  · intro id b
    rw [get?_set, mem_append, mem_singleton]
    split
    · next hsame =>
      constructor
      · intro hb
        obtain rfl := some.inj hb
        exact ⟨.inr rfl, hsame.symm⟩
      · rintro ⟨hb | rfl, hbid⟩
        · exact absurd (hbid.trans hsame) (hid b hb)
        · rfl
    · next hne =>
      rw [h.byID]
      constructor
      · exact fun hb => ⟨.inl hb.1, hb.2⟩
      · rintro ⟨hb | rfl, hbid⟩
        · exact ⟨hb, hbid⟩
        · exact absurd hbid.symm hne
  · intro key d
    rw [get?_set]
    split
    · next hsame =>
      constructor
      · intro hd
        exact ⟨a, by simp, hsame.symm, some.inj hd⟩
      · rintro ⟨b, hb, hbkey, rfl⟩
        rcases mem_append.mp hb with hb | hb
        · exact absurd (hbkey.trans hsame) (hkey b hb)
        · rw [mem_singleton.mp hb]
    · next hne =>
      rw [h.byKey]
      constructor
      · rintro ⟨b, hb, hbkey⟩
        exact ⟨b, mem_append_left _ hb, hbkey⟩
      · rintro ⟨b, hb, hbkey, hd⟩
        rcases mem_append.mp hb with hb | hb
        · exact ⟨b, hb, hbkey, hd⟩
        · obtain rfl := mem_singleton.mp hb
          exact absurd hbkey.symm hne

/-- One round accepts a receipt that is compatible with those before it. -/
theorem ReceiptIndex.Holds.add (h : x.Holds digest idOf keyOf done)
    (hcompatible : Compatible valid idOf keyOf (done ++ [a])) :
    ∃ x', x.add valid digest idOf keyOf a = some x' ∧ x'.Holds digest idOf keyOf (done ++ [a]) := by
  have hlast : a ∈ done ++ [a] := by simp
  unfold ReceiptIndex.add
  rw [hcompatible.valid a hlast]
  cases hprior : x.byID.get? (idOf a) with
  | some prior =>
    obtain ⟨hmem, hid⟩ := (h.byID _ _).mp hprior
    obtain rfl : prior = a := hcompatible.sameID prior (mem_append_left _ hmem) a hlast hid
    exact ⟨x, by simp, h.again hmem⟩
  | none =>
    have hid : ∀ b ∈ done, idOf b ≠ idOf a := by
      intro b hb hsame
      rw [(h.byID _ _).mpr ⟨hb, hsame⟩] at hprior
      cases hprior
    have hkey : ∀ b ∈ done, keyOf b ≠ keyOf a := by
      intro b hb hsame
      obtain rfl := hcompatible.sameKey b (mem_append_left _ hb) a hlast hsame
      exact hid b hb rfl
    have hfree : x.byKey.get? (keyOf a) = none := by
      cases hd : x.byKey.get? (keyOf a) with
      | none => rfl
      | some d =>
        obtain ⟨b, hb, hsame, -⟩ := (h.byKey _ _).mp hd
        exact absurd hsame (hkey b hb)
    exact ⟨_, by simp [hfree], h.push hid hkey⟩

/-- One round accepts nothing else, as long as digests tell the receipts apart. -/
theorem ReceiptIndex.Holds.of_add {x' : ReceiptIndex κ α} (h : x.Holds digest idOf keyOf done)
    (hdone : Compatible valid idOf keyOf done) (hdigest : Distinguishes digest (done ++ [a]))
    (hadd : x.add valid digest idOf keyOf a = some x') :
    Compatible valid idOf keyOf (done ++ [a]) ∧ x'.Holds digest idOf keyOf (done ++ [a]) := by
  have hlast : a ∈ done ++ [a] := by simp
  unfold ReceiptIndex.add at hadd
  split at hadd
  · cases hadd
  next hvalid =>
  have hvalid : valid a = true := by simpa using hvalid
  split at hadd
  · next prior hprior =>
    obtain ⟨hmem, -⟩ := (h.byID _ _).mp hprior
    split at hadd
    · next hsame =>
      obtain rfl := some.inj hadd
      obtain rfl : prior = a := hdigest prior (mem_append_left _ hmem) a hlast hsame
      refine ⟨hdone.subset fun b hb => ?_, h.again hmem⟩
      rcases mem_append.mp hb with hb | hb
      · exact hb
      · exact mem_singleton.mp hb ▸ hmem
    · cases hadd
  · next hnone =>
    split at hadd
    · cases hadd
    next hfree =>
    obtain rfl := some.inj hadd
    have hid : ∀ b ∈ done, idOf b ≠ idOf a := by
      intro b hb hsame
      rw [(h.byID _ _).mpr ⟨hb, hsame⟩] at hnone
      cases hnone
    have hkey : ∀ b ∈ done, keyOf b ≠ keyOf a := by
      intro b hb hsame
      -- the key's digest would be this receipt's, and so the receipt itself
      have hd := (h.byKey _ _).mpr ⟨b, hb, hsame, rfl⟩
      have heq : digest b = digest a := by simpa [hd] using hfree
      obtain rfl := hdigest b (mem_append_left _ hb) a hlast heq
      exact hid b hb rfl
    exact ⟨hdone.concat hvalid hid hkey, h.push hid hkey⟩

theorem ReceiptIndex.Holds.foldlM (h : x.Holds digest idOf keyOf done)
    (hcompatible : Compatible valid idOf keyOf (done ++ l)) :
    ∃ x', l.foldlM (ReceiptIndex.add valid digest idOf keyOf) x = some x' ∧
      x'.Holds digest idOf keyOf (done ++ l) := by
  induction l generalizing done x with
  | nil => exact ⟨x, rfl, by simpa using h⟩
  | cons a l ih =>
    have hsplit : done ++ a :: l = (done ++ [a]) ++ l := by simp
    rw [hsplit] at hcompatible ⊢
    obtain ⟨x₁, hadd, hx₁⟩ := h.add (hcompatible.subset fun b hb => mem_append_left _ hb)
    obtain ⟨x', hfold, hx'⟩ := ih hx₁ hcompatible
    exact ⟨x', by simp [foldlM_cons, hadd, hfold], hx'⟩

theorem ReceiptIndex.Holds.of_foldlM {x' : ReceiptIndex κ α} (h : x.Holds digest idOf keyOf done)
    (hdone : Compatible valid idOf keyOf done) (hdigest : Distinguishes digest (done ++ l))
    (hfold : l.foldlM (ReceiptIndex.add valid digest idOf keyOf) x = some x') :
    Compatible valid idOf keyOf (done ++ l) ∧ x'.Holds digest idOf keyOf (done ++ l) := by
  induction l generalizing done x with
  | nil =>
    obtain rfl := some.inj hfold
    simpa using And.intro hdone h
  | cons a l ih =>
    have hsplit : done ++ a :: l = (done ++ [a]) ++ l := by simp
    rw [hsplit] at hdigest ⊢
    rw [foldlM_cons] at hfold
    obtain ⟨x₁, hadd, hfold⟩ := bind_eq_some_iff.mp hfold
    obtain ⟨hcompatible, hx₁⟩ :=
      h.of_add hdone (hdigest.subset fun b hb => mem_append_left _ hb) hadd
    exact ih hx₁ hcompatible hdigest hfold

variable (valid digest idOf keyOf) in
/-- **Dropping repeats.** Receipts are accepted exactly when they are compatible, whatever their
order, and the map holds each of them under its identifier. -/
theorem dedupeReceipts_spec (hdigest : Distinguishes digest l) :
    (Compatible valid idOf keyOf l → (dedupeReceipts valid digest idOf keyOf l).isSome = true) ∧
      ∀ m, dedupeReceipts valid digest idOf keyOf l = some m → Compatible valid idOf keyOf l ∧
        ∀ id a, m.get? id = some a ↔ a ∈ l ∧ idOf a = id := by
  have hempty : ReceiptIndex.Holds digest idOf keyOf [] ⟨∅, ∅⟩ := ReceiptIndex.holds_empty
  unfold dedupeReceipts
  constructor
  · intro hcompatible
    obtain ⟨x', hfold, -⟩ := hempty.foldlM hcompatible
    simp [hfold]
  · intro m hm
    obtain ⟨x', hfold, rfl⟩ := map_eq_some_iff.mp hm
    obtain ⟨hcompatible, hx'⟩ := hempty.of_foldlM ⟨nofun, nofun, nofun⟩ hdigest hfold
    exact ⟨hcompatible, hx'.byID⟩

/-- The receipt found for a digest is the one that has it. -/
theorem receiptForDigest_eq_some {m : GoMap UUID α} (hdigest : Distinguishes digest l)
    (hm : ∀ id a, m.get? id = some a ↔ a ∈ l ∧ idOf a = id) {wanted : Option GoString} :
    receiptForDigest digest m wanted = some a ↔ a ∈ l ∧ some (digest a) = wanted := by
  have hvalues : ∀ b, b ∈ m.pairs.map Prod.snd ↔ b ∈ l := by
    intro b
    rw [List.mem_map]
    constructor
    · rintro ⟨⟨id, b⟩, hb, rfl⟩
      exact ((hm id b).mp (mem_pairs.mp hb)).1
    · intro hb
      exact ⟨(idOf b, b), mem_pairs.mpr ((hm _ _).mpr ⟨hb, rfl⟩), rfl⟩
  cases wanted with
  | none => simp [receiptForDigest]
  | some wanted =>
    simp only [receiptForDigest, some.injEq]
    constructor
    · intro hfind
      have hsame := find?_some hfind
      exact ⟨(hvalues a).mp (mem_of_find?_eq_some hfind), beq_iff_eq.mp hsame⟩
    · rintro ⟨ha, rfl⟩
      cases hfind : (m.pairs.map Prod.snd).find? (digest · == digest a) with
      | none =>
        exact absurd (beq_self_eq_true _) (List.find?_eq_none.mp hfind a ((hvalues a).mpr ha))
      | some b =>
        have hb := (hvalues b).mp (mem_of_find?_eq_some hfind)
        have hsame := find?_some hfind
        rw [hdigest b hb a ha (beq_iff_eq.mp hsame)]

end Dedupe

/-! ## Transitions without repeats -/

variable {c : Suite} {k : JobContext}

/-- `l'` is `l` with some elements repeated next to themselves. -/
inductive Repeats {α : Type} : List α → List α → Prop where
  | nil : Repeats [] []
  | cons (a : α) {l l' : List α} : Repeats l l' → Repeats (a :: l) (a :: l')
  | again (a : α) {l l' : List α} : Repeats (a :: l) (a :: l') → Repeats (a :: l) (a :: a :: l')

namespace TransitionLog

variable {log log' : TransitionLog} {t : PoolJobTransition}

/-- What one round of the loop does with a transition it does not refuse. -/
theorem add_cases (h : log.add c k t = some log') :
    t.validate c = true ∧ ∃ d, c.digest (.transition t) = some d ∧
      ((log' = log.again t ∧ (log.transitionByID.get? t.transitionID = some d ∨
          log.transitionByID.get? t.transitionID = none ∧
            log.transitionBySequence.get? t.sequence = some d)) ∨
        (log' = log.push t d ∧ k.signs t = true)) := by
  unfold add at h
  split at h
  · cases h
  next hchecked =>
  simp only [Bool.or_eq_true, Bool.not_eq_true', not_or] at hchecked
  refine ⟨by simpa using hchecked.2, ?_⟩
  split at h
  · cases h
  next d hd =>
  refine ⟨d, hd, ?_⟩
  split at h
  · next prior hprior =>
    split at h
    · next hsame =>
      exact .inl ⟨(some.inj h).symm, .inl (hsame ▸ hprior)⟩
    · cases h
  next hnone =>
  split at h
  · next prior hprior =>
    split at h
    · next hsame =>
      exact .inl ⟨(some.inj h).symm, .inr ⟨hnone, hsame ▸ hprior⟩⟩
    · cases h
  split at h
  · next hsigns => exact .inr ⟨(some.inj h).symm, hsigns⟩
  · cases h

/-- The log without the count of what it dropped. -/
def uncounted (log : TransitionLog) : TransitionLog := { log with duplicateTransitions := 0 }

theorem add_uncounted (h : log.uncounted = log'.uncounted) :
    (log.add c k t).map uncounted = (log'.add c k t).map uncounted := by
  obtain ⟨unique, byID, bySequence, count, previous⟩ := log
  obtain ⟨unique', byID', bySequence', count', previous'⟩ := log'
  obtain ⟨rfl, rfl, rfl, -, rfl⟩ := TransitionLog.mk.inj h
  dsimp only [add]
  split
  · rfl
  cases c.digest (.transition t) with
  | none => rfl
  | some d =>
    cases byID.get? t.transitionID with
    | some prior => dsimp only; split <;> rfl
    | none =>
      cases bySequence.get? t.sequence with
      | some prior | none => dsimp only; split <;> rfl

theorem foldlM_uncounted (h : log.uncounted = log'.uncounted) (l : List PoolJobTransition) :
    (l.foldlM (add c k) log).map uncounted = (l.foldlM (add c k) log').map uncounted := by
  induction l generalizing log log' with
  | nil => exact congrArg some h
  | cons t l ih =>
    have hadd : (log.add c k t).map uncounted = (log'.add c k t).map uncounted := add_uncounted h
    rw [foldlM_cons, foldlM_cons]
    cases hlog : log.add c k t with
    | none =>
      rw [hlog] at hadd
      rw [map_eq_none_iff.mp hadd.symm]
    | some log₁ =>
      rw [hlog] at hadd
      obtain ⟨log₁', hlog', hsame⟩ := map_eq_some_iff.mp hadd.symm
      rw [hlog']
      exact ih hsame.symm

/-- A transition right after itself is only counted. -/
theorem add_add (h : log.add c k t = some log') : log'.add c k t = some (log'.again t) := by
  obtain ⟨hvalid, d, hd, ⟨rfl, hprior⟩ | ⟨rfl, -⟩⟩ := add_cases h
  · rcases hprior with hprior | ⟨hnone, hprior⟩
    · simp [add, again, hvalid, hd, hprior]
    · simp [add, again, hvalid, hd, hnone, hprior]
  · simp [add, push, hvalid, hd, get?_set_self]

theorem again_uncounted (h : log.add c k t = some log') :
    (log'.again t).uncounted = log'.uncounted := by
  obtain ⟨-, d, -, ⟨rfl, -⟩ | ⟨rfl, -⟩⟩ := add_cases h <;> rfl

/-- **Repeats.** Repeating transitions next to themselves changes nothing but the count. -/
theorem foldlM_repeats {l l' : List PoolJobTransition} (h : Repeats l l') (log : TransitionLog) :
    (l'.foldlM (add c k) log).map uncounted = (l.foldlM (add c k) log).map uncounted := by
  induction h generalizing log with
  | nil => rfl
  | cons t hl ih =>
    rw [foldlM_cons, foldlM_cons]
    cases log.add c k t with
    | none => rfl
    | some log₁ => exact ih log₁
  | @again t l l' hl ih =>
    rw [← ih log, foldlM_cons, foldlM_cons]
    cases hlog : log.add c k t with
    | none => rfl
    | some log₁ =>
      simp only [bind_eq_bind, bind_some, foldlM_cons, add_add hlog]
      exact foldlM_uncounted (again_uncounted hlog) l'

/-- The log holds what the loop has read. -/
structure Holds (c : Suite) (k : JobContext) (done : List PoolJobTransition) (log : TransitionLog) :
    Prop where
  sublist : log.uniqueTransitions.Sublist done
  complete : ∀ t ∈ done, t ∈ log.uniqueTransitions
  accepted : ∀ t ∈ log.uniqueTransitions,
    t.validate c = true ∧ k.signs t = true ∧ (c.digest (.transition t)).isSome = true
  byID : ∀ id d, log.transitionByID.get? id = some d →
    ∃ t ∈ log.uniqueTransitions, c.digest (.transition t) = some d
  bySequence : ∀ n d, log.transitionBySequence.get? n = some d →
    ∃ t ∈ log.uniqueTransitions, c.digest (.transition t) = some d

theorem holds_empty : Holds c k [] .empty := by
  constructor <;> simp [empty, get?_empty]

variable {done : List PoolJobTransition}

theorem Holds.again (h : log.Holds c k done) (ht : t ∈ log.uniqueTransitions) :
    (log.again t).Holds c k (done ++ [t]) where
  sublist := h.sublist.trans (sublist_append_left done [t])
  complete u hu := by
    rcases mem_append.mp hu with hu | hu
    · exact h.complete u hu
    · exact mem_singleton.mp hu ▸ ht
  accepted := h.accepted
  byID := h.byID
  bySequence := h.bySequence

theorem Holds.push (h : log.Holds c k done) {d} (hvalid : t.validate c = true)
    (hsigns : k.signs t = true) (hd : c.digest (.transition t) = some d) :
    (log.push t d).Holds c k (done ++ [t]) := by
  have hlast : ∃ u ∈ log.uniqueTransitions ++ [t], c.digest (.transition u) = some d :=
    ⟨t, by simp, hd⟩
  refine ⟨h.sublist.append (List.Sublist.refl [t]), fun u hu => ?_, fun u hu => ?_,
    fun id d' hd' => ?_,
    fun n d' hd' => ?_⟩
  · rcases mem_append.mp hu with hu | hu
    · exact mem_append_left _ (h.complete u hu)
    · exact mem_append_right _ hu
  · rcases mem_append.mp hu with hu | hu
    · exact h.accepted u hu
    · rw [mem_singleton.mp hu, hd]
      exact ⟨hvalid, hsigns, rfl⟩
  · simp only [TransitionLog.push, get?_set] at hd'
    split at hd'
    · exact some.inj hd' ▸ hlast
    · obtain ⟨u, hu, hdu⟩ := h.byID id d' hd'
      exact ⟨u, mem_append_left _ hu, hdu⟩
  · simp only [TransitionLog.push, get?_set] at hd'
    split at hd'
    · exact some.inj hd' ▸ hlast
    · obtain ⟨u, hu, hdu⟩ := h.bySequence n d' hd'
      exact ⟨u, mem_append_left _ hu, hdu⟩

theorem Holds.of_add (h : log.Holds c k done)
    (hdigest : Distinguishes (fun t => c.digest (.transition t)) (done ++ [t]))
    (hadd : log.add c k t = some log') : log'.Holds c k (done ++ [t]) := by
  obtain ⟨hvalid, d, hd, ⟨rfl, hprior⟩ | ⟨rfl, hsigns⟩⟩ := add_cases hadd
  · -- the digest that was found is of a transition that is there: of this very one
    have hfound : ∃ u ∈ log.uniqueTransitions, c.digest (.transition u) = some d := by
      rcases hprior with hprior | ⟨-, hprior⟩
      · exact h.byID _ _ hprior
      · exact h.bySequence _ _ hprior
    obtain ⟨u, hu, hdu⟩ := hfound
    have hmem : u ∈ done ++ [t] := mem_append_left _ (h.sublist.subset hu)
    obtain rfl := hdigest u hmem t (by simp) (hdu.trans hd.symm)
    exact h.again hu
  · exact h.push hvalid hsigns hd

theorem Holds.of_foldlM (h : log.Holds c k done) {l : List PoolJobTransition}
    (hdigest : Distinguishes (fun t => c.digest (.transition t)) (done ++ l))
    (hfold : l.foldlM (add c k) log = some log') : log'.Holds c k (done ++ l) := by
  induction l generalizing done log with
  | nil =>
    obtain rfl := some.inj hfold
    simpa using h
  | cons t l ih =>
    have hsplit : done ++ t :: l = (done ++ [t]) ++ l := by simp
    rw [hsplit] at hdigest ⊢
    rw [foldlM_cons] at hfold
    obtain ⟨log₁, hadd, hfold⟩ := bind_eq_some_iff.mp hfold
    exact ih (h.of_add (hdigest.subset fun u hu => mem_append_left _ hu) hadd) hdigest hfold

/-- The loop only ever adds transitions at the end. -/
theorem prefix_of_add (h : log.add c k t = some log') :
    log.uniqueTransitions <+: log'.uniqueTransitions := by
  obtain ⟨-, d, -, ⟨rfl, -⟩ | ⟨rfl, -⟩⟩ := add_cases h
  · exact prefix_rfl
  · exact prefix_append _ _

theorem prefix_of_foldlM {l : List PoolJobTransition} (h : l.foldlM (add c k) log = some log') :
    log.uniqueTransitions <+: log'.uniqueTransitions := by
  induction l generalizing log with
  | nil => exact some.inj h ▸ prefix_rfl
  | cons t l ih =>
    rw [foldlM_cons] at h
    obtain ⟨log₁, hadd, hfold⟩ := bind_eq_some_iff.mp h
    exact (prefix_of_add hadd).trans (ih hfold)

end TransitionLog

/-! ## The walk along the chain -/

open JobContext

section Walk
variable {jobID : UUID} {executionByID : GoMap UUID WorkerExecutionReceipt}
  {applicationByID : GoMap UUID ResultApplicationReceipt} {w w' : JobContext.Walk}
  {chain : List PoolJobTransition} {t : PoolJobTransition}

/-- What one round of the loop checks, and what it remembers. -/
theorem JobContext.check_eq_some (h : k.check c jobID executionByID applicationByID w t = some w') :
    t.jobID = jobID ∧ k.follows c w.previous t = true ∧
      k.evidenced c executionByID applicationByID w.applied t = true ∧
      w' = ⟨some t, if t.state = .resultApplied then t.evidenceDigest else w.applied⟩ := by
  unfold check at h
  split at h
  · next hchecked =>
    simp only [Bool.and_eq_true, beq_iff_eq] at hchecked
    exact ⟨hchecked.1.1, hchecked.1.2, hchecked.2, (some.inj h).symm⟩
  · cases h

theorem JobContext.previous_of_foldlM
    (h : chain.foldlM (k.check c jobID executionByID applicationByID) ⟨none, none⟩ = some w) :
    w.previous = chain.getLast? := by
  induction chain using reverseRecOn generalizing w with
  | nil => exact some.inj h ▸ rfl
  | append_singleton chain t ih =>
    rw [foldlM_append] at h
    obtain ⟨w₁, -, h⟩ := bind_eq_some_iff.mp h
    rw [foldlM_cons] at h
    obtain ⟨w₂, hcheck, h⟩ := bind_eq_some_iff.mp h
    obtain rfl := some.inj h
    obtain ⟨-, -, -, rfl⟩ := check_eq_some hcheck
    simp

/-- The round for one transition of an accepted chain: its job, the transition before it, and the
evidence it names, `applied` being what was remembered from the part before it. -/
theorem JobContext.round_of_foldlM {l₁ l₂ : List PoolJobTransition}
    (h : ((l₁ ++ t :: l₂).foldlM (k.check c jobID executionByID applicationByID)
      ⟨none, none⟩).isSome = true) :
    ∃ w₁, l₁.foldlM (k.check c jobID executionByID applicationByID) ⟨none, none⟩ = some w₁ ∧
      t.jobID = jobID ∧ k.follows c l₁.getLast? t = true ∧
      k.evidenced c executionByID applicationByID w₁.applied t = true := by
  obtain ⟨w, hw⟩ := isSome_iff_exists.mp h
  rw [foldlM_append] at hw
  obtain ⟨w₁, hfold, hw⟩ := bind_eq_some_iff.mp hw
  rw [foldlM_cons] at hw
  obtain ⟨w₂, hcheck, -⟩ := bind_eq_some_iff.mp hw
  obtain ⟨hjob, hfollows, hevidenced, -⟩ := check_eq_some hcheck
  rw [previous_of_foldlM hfold] at hfollows
  exact ⟨w₁, hfold, hjob, hfollows, hevidenced⟩

/-- What is remembered right after a `result_applied` transition is its evidence. -/
theorem JobContext.applied_of_foldlM
    (h : (chain ++ [t]).foldlM (k.check c jobID executionByID applicationByID)
      ⟨none, none⟩ = some w)
    (ht : t.state = .resultApplied) : w.applied = t.evidenceDigest := by
  rw [foldlM_append] at h
  obtain ⟨w₁, -, h⟩ := bind_eq_some_iff.mp h
  rw [foldlM_cons] at h
  obtain ⟨w₂, hcheck, h⟩ := bind_eq_some_iff.mp h
  obtain rfl := some.inj h
  obtain ⟨-, -, -, rfl⟩ := check_eq_some hcheck
  exact if_pos ht

theorem JobContext.follows_some {p} (h : k.follows c (some p) t = true) :
    t.sequence = p.sequence + 1 ∧ t.predecessorDigest = some ((c.digest (.transition p)).getD []) ∧
      p.occurredAtMilliseconds ≤ t.occurredAtMilliseconds ∧
      allowedJobTransition p.state t.state = true := by
  simp only [follows, Bool.and_eq_true, beq_iff_eq, decide_eq_true_eq] at h
  exact ⟨h.1.1.1, h.1.1.2, h.1.2, h.2⟩

theorem JobContext.follows_none (h : k.follows c none t = true) :
    t.sequence = 1 ∧ t.predecessorDigest = none ∧ t.state = .authorized := by
  simp only [follows, Bool.and_eq_true, beq_iff_eq] at h
  exact ⟨h.1.1.1.1.1, h.1.1.1.1.2, h.1.1.1.2⟩

/-- The transitions of one job, signed by its pool, each naming the one before it. -/
structure HashChain (c : Suite) (k : JobContext) (jobID : UUID) (chain : List PoolJobTransition) :
    Prop where
  sequence : ∀ i (h : i < chain.length), chain[i].sequence = i + 1
  opens : ∀ t, chain.head? = some t → t.state = .authorized ∧ t.predecessorDigest = none
  links : chain.IsChain fun p t =>
    t.predecessorDigest = c.digest (.transition p) ∧ t.predecessorDigest.isSome = true ∧
      p.occurredAtMilliseconds ≤ t.occurredAtMilliseconds ∧
        allowedJobTransition p.state t.state = true
  signed : ∀ t ∈ chain, t.jobID = jobID ∧ t.poolID = k.expectedPoolID ∧
    t.signature.signerID = k.expectedPoolAuthorityID ∧
    t.signature.signingKeyFingerprint = k.expectedPoolSigningKeyFingerprint ∧ t.validate c = true

theorem JobContext.hashChain_of_foldlM
    (h : (chain.foldlM (k.check c jobID executionByID applicationByID) ⟨none, none⟩).isSome = true)
    (haccepted : ∀ t ∈ chain,
      t.validate c = true ∧ k.signs t = true ∧ (c.digest (.transition t)).isSome = true) :
    HashChain c k jobID chain := by
  have hround : ∀ i (hi : i < chain.length), chain[i].jobID = jobID ∧
      k.follows c (chain.take i).getLast? chain[i] = true := by
    intro i hi
    have hsplit : chain = chain.take i ++ chain[i] :: chain.drop (i + 1) := by simp
    rw [hsplit] at h
    obtain ⟨-, -, hjob, hfollows, -⟩ := round_of_foldlM h
    exact ⟨hjob, hfollows⟩
  have hprevious : ∀ i (hi : i + 1 < chain.length),
    (chain.take (i + 1)).getLast? = some chain[i] := by
    intro i hi
    rw [getLast?_take, if_neg (Nat.succ_ne_zero i)]
    simp [List.getElem?_eq_getElem (Nat.lt_of_succ_lt hi)]
  refine ⟨fun i hi => ?_, fun t ht => ?_, ?_, fun t ht => ?_⟩
  · -- by induction on the position: one more than the transition before
    induction i with
    | zero => exact (follows_none (hround 0 hi).2).1
    | succ i ih =>
      have hfollows := (hround (i + 1) hi).2
      rw [hprevious i hi] at hfollows
      rw [(follows_some hfollows).1, ih (Nat.lt_of_succ_lt hi)]
  · rw [head?_eq_getElem?] at ht
    obtain ⟨hi, rfl⟩ := List.getElem?_eq_some_iff.mp ht
    have hopens := follows_none (hround 0 hi).2
    exact ⟨hopens.2.2, hopens.2.1⟩
  · rw [isChain_iff_getElem]
    intro i hi
    have hfollows := (hround (i + 1) hi).2
    rw [hprevious i hi] at hfollows
    obtain ⟨-, hdigest, htime, hallowed⟩ := follows_some hfollows
    obtain ⟨d, hd⟩ := isSome_iff_exists.mp (haccepted chain[i] (getElem_mem _)).2.2
    rw [hd] at hdigest ⊢
    exact ⟨hdigest, hdigest ▸ rfl, htime, hallowed⟩
  · obtain ⟨i, hi, rfl⟩ := mem_iff_getElem.mp ht
    obtain ⟨hvalid, hsigns, -⟩ := haccepted _ ht
    simp only [signs, Bool.and_eq_true, beq_iff_eq] at hsigns
    exact ⟨(hround i hi).1, hsigns.1.1, hsigns.1.2, hsigns.2, hvalid⟩

end Walk

/-! ## Verdicts -/

/-- The verdict on a chain, once the repeats are dropped. -/
def JobContext.verdict (c : Suite) (k : JobContext)
    (executionByID : GoMap UUID WorkerExecutionReceipt)
    (applicationByID : GoMap UUID ResultApplicationReceipt) (chain : List PoolJobTransition) :
    Option JobState :=
  chain.head?.bind fun first => chain.getLast?.bind fun last =>
    if k.accepts c first.jobID executionByID applicationByID chain then some last.state else none

theorem evaluateJobLifecycle_currentState (transitions : List PoolJobTransition)
    (executions : List WorkerExecutionReceipt) (applications : List ResultApplicationReceipt) :
    (evaluateJobLifecycle c k transitions executions applications).map
        JobLifecycleEvaluation.currentState =
      ((transitions.foldlM (TransitionLog.add c k) .empty).map TransitionLog.uncounted).bind fun log =>
        (dedupeExecutions c executions).bind fun executionByID =>
          (dedupeApplications c applications).bind fun applicationByID =>
            k.verdict c executionByID applicationByID log.uniqueTransitions := by
  unfold evaluateJobLifecycle verdict
  cases transitions.foldlM (TransitionLog.add c k) .empty with
  | none => rfl
  | some log =>
    cases dedupeExecutions c executions with
    | none => rfl
    | some executionByID =>
      cases dedupeApplications c applications with
      | none => rfl
      | some applicationByID =>
        obtain ⟨chain, _, _, _, _⟩ := log
        simp only [TransitionLog.uncounted, bind_eq_bind, bind_some, map_some]
        cases chain.head? with
        | none => rfl
        | some first =>
          cases chain.getLast? with
          | none => rfl
          | some last =>
            simp only [bind_some]
            split <;> rfl

/-- What an accepted evaluation passed. -/
structure Accepted (c : Suite) (k : JobContext) (transitions : List PoolJobTransition)
    (executions : List WorkerExecutionReceipt) (applications : List ResultApplicationReceipt)
    (e : JobLifecycleEvaluation) (log : TransitionLog)
    (executionByID : GoMap UUID WorkerExecutionReceipt)
    (applicationByID : GoMap UUID ResultApplicationReceipt) : Prop where
  gathered : transitions.foldlM (TransitionLog.add c k) .empty = some log
  executionIndex : dedupeExecutions c executions = some executionByID
  applicationIndex : dedupeApplications c applications = some applicationByID
  accepts : k.accepts c e.jobID executionByID applicationByID log.uniqueTransitions = true
  first : log.uniqueTransitions.head?.map (·.jobID) = some e.jobID
  last : log.uniqueTransitions.getLast?.map (·.state) = some e.currentState

theorem exists_accepted {transitions : List PoolJobTransition}
    {executions : List WorkerExecutionReceipt} {applications : List ResultApplicationReceipt}
    {e}
    (h : evaluateJobLifecycle c k transitions executions applications = some e) :
    ∃ log executionByID applicationByID,
      Accepted c k transitions executions applications e log executionByID applicationByID := by
  obtain ⟨log, hlog, h⟩ := bind_eq_some_iff.mp h
  obtain ⟨executionByID, hexecutions, h⟩ := bind_eq_some_iff.mp h
  obtain ⟨applicationByID, happlications, h⟩ := bind_eq_some_iff.mp h
  obtain ⟨first, hfirst, h⟩ := bind_eq_some_iff.mp h
  obtain ⟨last, hlast, h⟩ := bind_eq_some_iff.mp h
  split at h
  · next haccepts =>
    obtain rfl := some.inj h
    exact ⟨log, executionByID, applicationByID, hlog, hexecutions, happlications, haccepts,
      by simp [hfirst], by simp [hlast]⟩
  · cases h

section Congr
variable {jobID : UUID} {m m' : GoMap UUID WorkerExecutionReceipt}
  {a a' : GoMap UUID ResultApplicationReceipt}

theorem all_pairs_congr {α : Type} {m m' : GoMap UUID α} (h : ∀ id, m.get? id = m'.get? id)
    (p : α → Bool) : m.pairs.all (fun x => p x.2) = m'.pairs.all fun x => p x.2 := by
  have hmem : ∀ x, x ∈ m.pairs ↔ x ∈ m'.pairs := by
    rintro ⟨id, x⟩
    rw [mem_pairs, mem_pairs, h]
  rw [Bool.eq_iff_iff, List.all_eq_true, List.all_eq_true]
  simp only [hmem]

/-- The verdict reads the maps only by looking a receipt up, by its identifier or by its digest. -/
theorem JobContext.verdict_congr (hm : ∀ id, m.get? id = m'.get? id)
    (ha : ∀ id, a.get? id = a'.get? id) (hfind : executionForDigest c m = executionForDigest c m')
    (hfind' : applicationForDigest c a = applicationForDigest c a')
    (chain : List PoolJobTransition) :
    k.verdict c m a chain = k.verdict c m' a' chain := by
  have hvalid : ∀ jobID, k.validApplication c jobID m = k.validApplication c jobID m' := by
    intro jobID
    funext r
    simp only [validApplication, hm]
  have hevidenced : k.evidenced c m a = k.evidenced c m' a' := by
    unfold evidenced
    rw [hfind, hfind']
  have hcheck : ∀ jobID, k.check c jobID m a = k.check c jobID m' a' := by
    intro jobID
    unfold check
    rw [hevidenced]
  have haccepts : ∀ jobID, k.accepts c jobID m a chain = k.accepts c jobID m' a' chain := by
    intro jobID
    unfold JobContext.accepts
    rw [all_pairs_congr hm, all_pairs_congr ha, hvalid, hcheck]
  simp only [verdict, haccepts]

end Congr

/-- Maps of the same receipts are looked up alike. -/
theorem dedupeReceipts_congr {κ α : Type} [DecidableEq κ] {valid : α → Bool} {digest : α → GoString}
    {idOf : α → UUID} {keyOf : α → κ} {l l' : List α} (hdigest : Distinguishes digest l)
    (hsame : ∀ a, a ∈ l' ↔ a ∈ l) : ((dedupeReceipts valid digest idOf keyOf l).isSome =
        (dedupeReceipts valid digest idOf keyOf l').isSome) ∧
      ∀ m m', dedupeReceipts valid digest idOf keyOf l = some m →
        dedupeReceipts valid digest idOf keyOf l' = some m' →
        (∀ id, m.get? id = m'.get? id) ∧
          receiptForDigest digest m = receiptForDigest digest m' := by
  have hdigest' : Distinguishes digest l' := hdigest.subset fun a ha => (hsame a).mp ha
  obtain ⟨haccepts, hspec⟩ := dedupeReceipts_spec valid digest idOf keyOf hdigest
  obtain ⟨haccepts', hspec'⟩ := dedupeReceipts_spec valid digest idOf keyOf hdigest'
  constructor
  · rw [Bool.eq_iff_iff]
    constructor
    · intro hsome
      obtain ⟨m, hm⟩ := isSome_iff_exists.mp hsome
      exact haccepts' ((hspec m hm).1.subset fun a ha => (hsame a).mp ha)
    · intro hsome
      obtain ⟨m', hm'⟩ := isSome_iff_exists.mp hsome
      exact haccepts ((hspec' m' hm').1.subset fun a ha => (hsame a).mpr ha)
  · intro m m' hm hm'
    have hget := (hspec m hm).2
    have hget' := (hspec' m' hm').2
    constructor
    · intro id
      apply Option.ext
      intro a
      rw [hget, hget', hsame]
    · funext wanted
      apply Option.ext
      intro a
      rw [receiptForDigest_eq_some hdigest hget, receiptForDigest_eq_some hdigest' hget', hsame]

section Results
variable {transitions transitions' : List PoolJobTransition}
  {executions executions' : List WorkerExecutionReceipt}
  {applications applications' : List ResultApplicationReceipt} {e : JobLifecycleEvaluation}
  {log : TransitionLog} {executionByID : GoMap UUID WorkerExecutionReceipt}
  {applicationByID : GoMap UUID ResultApplicationReceipt}

/-! ### Repeats and order -/

/-- Verdict and state do not depend on the order of the receipts, nor on repeats. -/
theorem evaluateJobLifecycle_same (hexecutions : Distinguishes (executionDigest c) executions)
    (happlications : Distinguishes (applicationDigest c) applications)
    (htransitions : Repeats transitions transitions') (hes : ∀ r, r ∈ executions' ↔ r ∈ executions)
    (has : ∀ r, r ∈ applications' ↔ r ∈ applications) :
    (evaluateJobLifecycle c k transitions' executions' applications').map
        JobLifecycleEvaluation.currentState =
      (evaluateJobLifecycle c k transitions executions applications).map
        JobLifecycleEvaluation.currentState := by
  rw [evaluateJobLifecycle_currentState, evaluateJobLifecycle_currentState,
    TransitionLog.foldlM_repeats htransitions]
  congr 1
  funext log
  obtain ⟨hsome, hlookup⟩ : ((dedupeExecutions c executions).isSome =
      (dedupeExecutions c executions').isSome) ∧ _ := dedupeReceipts_congr hexecutions hes
  obtain ⟨hsome', hlookup'⟩ : ((dedupeApplications c applications).isSome =
      (dedupeApplications c applications').isSome) ∧ _ := dedupeReceipts_congr happlications has
  cases hm : dedupeExecutions c executions with
  | none =>
    rw [hm, isSome_none, eq_comm, isSome_eq_false_iff, isNone_iff_eq_none] at hsome
    rw [hsome]
    rfl
  | some m =>
    rw [hm, isSome_some, eq_comm] at hsome
    obtain ⟨m', hm'⟩ := isSome_iff_exists.mp hsome
    cases ha : dedupeApplications c applications with
    | none =>
      rw [ha, isSome_none, eq_comm, isSome_eq_false_iff, isNone_iff_eq_none] at hsome'
      rw [hsome', hm']
      rfl
    | some a =>
      rw [ha, isSome_some, eq_comm] at hsome'
      obtain ⟨a', ha'⟩ := isSome_iff_exists.mp hsome'
      obtain ⟨hget, hfind⟩ := hlookup m m' hm hm'
      obtain ⟨hget', hfind'⟩ := hlookup' a a' ha ha'
      rw [hm', ha']
      exact (verdict_congr hget hget' hfind hfind' _).symm

/-! ### Prefixes -/

theorem JobContext.accepts_prefix {jobID} {chain chain' : List PoolJobTransition}
    (h : k.accepts c jobID executionByID applicationByID chain = true) (hstart : chain' <+: chain) :
    k.accepts c jobID executionByID applicationByID chain' = true := by
  simp only [JobContext.accepts, Bool.and_eq_true] at h ⊢
  refine ⟨h.1, ?_⟩
  obtain ⟨rest, rfl⟩ := hstart
  obtain ⟨w, hw⟩ := isSome_iff_exists.mp h.2
  rw [foldlM_append] at hw
  obtain ⟨w₁, hw₁, -⟩ := bind_eq_some_iff.mp hw
  rw [hw₁]
  rfl

/-- The first transition is never a repeat. -/
theorem TransitionLog.unique_ne_nil (hne : transitions ≠ [])
    (h : transitions.foldlM (TransitionLog.add c k) .empty = some log) :
    log.uniqueTransitions ≠ [] := by
  cases transitions with
  | nil => exact absurd rfl hne
  | cons t l =>
    rw [foldlM_cons] at h
    obtain ⟨log₁, hadd, hfold⟩ := bind_eq_some_iff.mp h
    have hstart := TransitionLog.prefix_of_foldlM hfold
    obtain ⟨-, d, -, ⟨rfl, hprior⟩ | ⟨rfl, -⟩⟩ := TransitionLog.add_cases hadd
    · rcases hprior with hprior | ⟨-, hprior⟩ <;> cases hprior
    · intro hnil
      rw [hnil] at hstart
      exact absurd (prefix_nil.mp hstart) (by simp [TransitionLog.push])

theorem evaluateJobLifecycle_prefix {opening : List PoolJobTransition}
    (h : evaluateJobLifecycle c k transitions executions applications = some e)
    (hstart : opening <+: transitions) (hne : opening ≠ []) :
    (evaluateJobLifecycle c k opening executions applications).isSome = true := by
  obtain ⟨log, executionByID, applicationByID, h⟩ := exists_accepted h
  obtain ⟨rest, rfl⟩ := hstart
  have hgathered := h.gathered
  rw [foldlM_append] at hgathered
  obtain ⟨log₁, hlog₁, hrest⟩ := bind_eq_some_iff.mp hgathered
  have hchain := TransitionLog.prefix_of_foldlM hrest
  have hunique := TransitionLog.unique_ne_nil hne hlog₁
  have hlast := getLast?_eq_some_getLast hunique
  obtain ⟨first, hfirst⟩ : ∃ first, log₁.uniqueTransitions.head? = some first :=
    ⟨_, head?_eq_some_head hunique⟩
  have hjob : first.jobID = e.jobID := by
    have hhead : log.uniqueTransitions.head? = some first := by
      obtain ⟨tail, htail⟩ := hchain
      rw [← htail, head?_append, hfirst]
      rfl
    have hfirst := h.first
    rw [hhead] at hfirst
    exact some.inj hfirst
  have haccepts := accepts_prefix h.accepts hchain
  rw [← hjob] at haccepts
  simp [evaluateJobLifecycle, hlog₁, h.executionIndex, h.applicationIndex, hfirst, hlast, haccepts]

/-! ### Evidence -/

/-- An applied result: who signed the application, and the execution it is for. -/
structure AppliedResult (c : Suite) (k : JobContext) (application : ResultApplicationReceipt)
    (execution : WorkerExecutionReceipt) : Prop where
  permitted : anyP256AuthorityAuthorizes k.permittedApplicationAuthorities application.signature = true
  signed : application.validate c = true
  receiptID : application.executionReceiptID = execution.receiptID
  receiptDigest : c.digest (.execution execution) = some application.executionReceiptDigest
  finished : execution.finishedAtMilliseconds ≤ application.appliedAtMilliseconds
  executed : execution.validate c = true
  admission : execution.admissionID = k.admission.admissionID ∧
    c.digest (.admission k.admission) = some execution.admissionDigest
  worker : execution.workerEnrollmentID = k.workerEnrollment.enrollmentID ∧
    execution.signature.publicSigningKeyEd25519 = k.workerEnrollment.publicSigningKeyEd25519 ∧
    execution.signature.signingKeyFingerprint = k.workerEnrollment.signingKeyFingerprint
  started : execution.startedAtMilliseconds < k.admission.leaseExpiresAtMilliseconds

theorem JobContext.validExecution_eq_true {jobID r} (h : k.validExecution c jobID r = true) :
    r.validate c = true ∧ (r.admissionID = k.admission.admissionID ∧
        c.digest (.admission k.admission) = some r.admissionDigest) ∧
      (r.workerEnrollmentID = k.workerEnrollment.enrollmentID ∧
        r.signature.publicSigningKeyEd25519 = k.workerEnrollment.publicSigningKeyEd25519 ∧
        r.signature.signingKeyFingerprint = k.workerEnrollment.signingKeyFingerprint) ∧
      r.startedAtMilliseconds < k.admission.leaseExpiresAtMilliseconds := by
  simp only [validExecution, WorkerExecutionReceipt.validateAdmission, Bool.and_eq_true,
    beq_iff_eq, decide_eq_true_eq] at h
  obtain ⟨⟨⟨⟨-, hadmission⟩, hstarted⟩, -⟩, -⟩ := h
  obtain ⟨⟨⟨⟨⟨⟨⟨⟨⟨⟨⟨⟨hvalid, -⟩, hid⟩, -⟩, -⟩, -⟩, henrollment⟩, -⟩, hkey⟩, hfingerprint⟩, -⟩,
    hdigest⟩, -⟩ :=
    hadmission
  exact ⟨hvalid, ⟨hid, hdigest⟩, ⟨henrollment.symm, hkey.symm, hfingerprint.symm⟩, hstarted⟩

variable (h : Accepted c k transitions executions applications e log executionByID applicationByID)
  (hexecutions : Distinguishes (executionDigest c) executions)
  (happlications : Distinguishes (applicationDigest c) applications)

include h hexecutions happlications in
theorem Accepted.index :
    (∀ id r, executionByID.get? id = some r ↔ r ∈ executions ∧ r.receiptID = id) ∧
      (∀ id r, applicationByID.get? id = some r ↔ r ∈ applications ∧ r.receiptID = id) ∧
      ∀ r ∈ applications, r.validate c = true := by
  obtain ⟨-, hget⟩ := (dedupeReceipts_spec _ _ _ _ hexecutions).2 _ h.executionIndex
  obtain ⟨hcompatible, hget'⟩ := (dedupeReceipts_spec _ _ _ _ happlications).2 _ h.applicationIndex
  exact ⟨hget, hget', hcompatible.valid⟩

include h hexecutions happlications in
/-- Every application receipt of an accepted history is for an execution of it. -/
theorem Accepted.appliedResult {application} (hmem : application ∈ applications) :
    ∃ execution ∈ executions, AppliedResult c k application execution := by
  obtain ⟨hget, hget', hvalid⟩ := h.index hexecutions happlications
  have haccepts := h.accepts
  simp only [JobContext.accepts, Bool.and_eq_true, List.all_eq_true] at haccepts
  obtain ⟨⟨⟨-, hallExecutions⟩, hallApplications⟩, -⟩ := haccepts
  have happlication := hallApplications (application.receiptID, application)
    (mem_pairs.mpr ((hget' _ _).mpr ⟨hmem, rfl⟩))
  unfold validApplication at happlication
  split at happlication
  · cases happlication
  next execution hexecution =>
  simp only [ResultApplicationReceipt.validateExecution, Bool.and_eq_true, beq_iff_eq,
    decide_eq_true_eq] at happlication
  obtain ⟨⟨-, hpermitted⟩, ⟨⟨⟨⟨-, -⟩, hid⟩, -⟩, hfinished⟩, hdigest⟩ := happlication
  obtain ⟨hsigned, hadmission, hworker, hstarted⟩ :=
    validExecution_eq_true (hallExecutions (_, execution) (mem_pairs.mpr hexecution))
  exact ⟨execution, ((hget _ _).mp hexecution).1, hpermitted, hvalid _ hmem, hid, hdigest,
    hfinished,
    hsigned, hadmission, hworker, hstarted⟩

include h in
theorem Accepted.fold :
    (log.uniqueTransitions.foldlM (k.check c e.jobID executionByID applicationByID)
      ⟨none, none⟩).isSome = true := by
  have haccepts := h.accepts
  simp only [JobContext.accepts, Bool.and_eq_true] at haccepts
  exact haccepts.2

variable {source : JobState} {t : PoolJobTransition}

theorem allowed_completed (h : allowedJobTransition source .completed = true) :
    source = .resultApplied := by
  cases source <;> revert h <;> decide

include h hexecutions happlications in
/-- A completed history ends with the transition that names an applied result. -/
theorem Accepted.completed (hcompleted : e.currentState = .completed) :
    ∃ t, log.uniqueTransitions.getLast? = some t ∧ ∃ application ∈ applications,
      t.evidenceDigest = some (applicationDigest c application) ∧
      application.appliedAtMilliseconds ≤ t.occurredAtMilliseconds ∧
      ∃ execution ∈ executions, AppliedResult c k application execution := by
  obtain ⟨t, hlast, hstate⟩ := map_eq_some_iff.mp h.last
  rw [hcompleted] at hstate
  obtain ⟨l, hl⟩ := getLast?_eq_some_iff.mp hlast
  have hfold := h.fold
  rw [hl] at hfold
  obtain ⟨w, hw, -, hfollows, hevidenced⟩ := round_of_foldlM hfold
  cases hprevious : l.getLast? with
  | none =>
    rw [hprevious] at hfollows
    rw [(follows_none hfollows).2.2] at hstate
    cases hstate
  | some u =>
    rw [hprevious] at hfollows
    obtain ⟨-, -, htime, hallowed⟩ := follows_some hfollows
    have hu : u.state = .resultApplied := allowed_completed (hstate ▸ hallowed)
    obtain ⟨l₀, rfl⟩ := getLast?_eq_some_iff.mp hprevious
    -- the evidence remembered is that of the transition before, which names an application
    have hsame : t.evidenceDigest = u.evidenceDigest := by
      simp only [evidenced, hstate, Bool.and_eq_true, beq_iff_eq] at hevidenced
      rw [hevidenced.2, applied_of_foldlM hw hu]
    rw [append_assoc] at hfold
    obtain ⟨w₀, -, -, -, hevidenced₀⟩ := round_of_foldlM hfold
    simp only [evidenced, hu] at hevidenced₀
    obtain ⟨application, hfind, happlied⟩ := (any_eq_true _ _).mp hevidenced₀
    obtain ⟨-, hget', -⟩ := h.index hexecutions happlications
    obtain ⟨hmem, hdigest⟩ := (receiptForDigest_eq_some happlications hget').mp hfind
    obtain ⟨execution, hexecution, hresult⟩ := h.appliedResult hexecutions happlications hmem
    exact ⟨t, hlast, application, hmem, hsame.trans hdigest.symm,
      le_trans (of_decide_eq_true happlied) htime, execution, hexecution, hresult⟩

/-- **Accepted histories rest on evidence, and replay to the same verdict.** Where digests tell the
given records apart: an accepted list of transitions is, without repeats, a hash chain of the job;
it is completed only on an applied result of an execution under the admission; the verdict and the
state are those of any other order and repetition of the receipts and any repetition of transitions
in place; and every non-empty prefix is accepted. -/
theorem lifecycle_evidence (c : Suite) (k : JobContext) (transitions : List PoolJobTransition)
    (executions : List WorkerExecutionReceipt) (applications : List ResultApplicationReceipt)
    (htransitions : Distinguishes (fun t => c.digest (.transition t)) transitions)
    (hexecutions : Distinguishes (executionDigest c) executions)
    (happlications : Distinguishes (applicationDigest c) applications) :
    (∀ e, evaluateJobLifecycle c k transitions executions applications = some e →
      (∃ chain : List PoolJobTransition, chain.Sublist transitions ∧
        (∀ t ∈ transitions, t ∈ chain) ∧
        HashChain c k e.jobID chain ∧
        ∃ last, chain.getLast? = some last ∧ last.state = e.currentState ∧
          (e.currentState = .completed → ∃ application ∈ applications,
            last.evidenceDigest = some (applicationDigest c application) ∧
            application.appliedAtMilliseconds ≤ last.occurredAtMilliseconds ∧
            ∃ execution ∈ executions, AppliedResult c k application execution)) ∧
      (∀ opening : List PoolJobTransition, opening <+: transitions → opening ≠ [] →
        (evaluateJobLifecycle c k opening executions applications).isSome = true)) ∧
    ∀ transitions' executions' applications', Repeats transitions transitions' →
      (∀ r, r ∈ executions' ↔ r ∈ executions) → (∀ r, r ∈ applications' ↔ r ∈ applications) →
      (evaluateJobLifecycle c k transitions' executions' applications').map
          JobLifecycleEvaluation.currentState =
        (evaluateJobLifecycle c k transitions executions applications).map
          JobLifecycleEvaluation.currentState := by
  refine ⟨fun e he => ⟨?_, fun opening hstart hne => evaluateJobLifecycle_prefix he hstart hne⟩,
    fun _ _ _ hts hes has => evaluateJobLifecycle_same hexecutions happlications hts hes has⟩
  obtain ⟨log, executionByID, applicationByID, h⟩ := exists_accepted he
  have hlog : log.Holds c k transitions :=
    TransitionLog.holds_empty.of_foldlM (l := transitions) htransitions h.gathered
  obtain ⟨last, hlast, hstate⟩ := map_eq_some_iff.mp h.last
  refine ⟨log.uniqueTransitions, hlog.sublist, hlog.complete,
    hashChain_of_foldlM h.fold hlog.accepted, last, hlast, hstate, fun hcompleted => ?_⟩
  obtain ⟨t, ht, hevidence⟩ := h.completed hexecutions happlications hcompleted
  obtain rfl := some.inj (hlast.symm.trans ht)
  exact hevidence

/-! ### Which result -/

theorem allowed_resultDelivered
    (h : allowedJobTransition source .resultDelivered = true) : source = .resultStaged := by
  cases source <;> revert h <;> decide

theorem allowed_resultApplied
    (h : allowedJobTransition source .resultApplied = true) : source = .resultDelivered := by
  cases source <;> revert h <;> decide

include h in
/-- Two transitions in a row of an accepted history. -/
theorem Accepted.round {l₁ l₂ : List PoolJobTransition} {p}
    (hchain : log.uniqueTransitions = l₁ ++ p :: t :: l₂) :
    allowedJobTransition p.state t.state = true ∧ ∃ w : JobContext.Walk,
      (l₁ ++ [p]).foldlM (k.check c e.jobID executionByID applicationByID) ⟨none, none⟩ = some w ∧
      k.evidenced c executionByID applicationByID w.applied t = true := by
  have hfold := h.fold
  rw [hchain, append_cons] at hfold
  obtain ⟨w, hw, -, hfollows, hevidenced⟩ := round_of_foldlM hfold
  rw [getLast?_concat] at hfollows
  exact ⟨(follows_some hfollows).2.2.2, w, hw, hevidenced⟩

include h hexecutions happlications in
/-- A staged or delivered result is that of an execution receipt. -/
theorem Accepted.execution
    (ht : t ∈ log.uniqueTransitions)
    (hstate : t.state = .resultStaged ∨ t.state = .resultDelivered) :
    ∃ execution ∈ executions, t.evidenceDigest = some (executionDigest c execution) ∧
      execution.jobID = e.jobID ∧ execution.finishedAtMilliseconds ≤ t.occurredAtMilliseconds := by
  obtain ⟨l₁, l₂, hchain⟩ := append_of_mem ht
  have hfold := h.fold
  rw [hchain] at hfold
  obtain ⟨w, -, -, -, hevidenced⟩ := round_of_foldlM hfold
  have hany : (executionForDigest c executionByID t.evidenceDigest).any
      (·.finishedAtMilliseconds ≤ t.occurredAtMilliseconds) = true := by
    rcases hstate with hstate | hstate <;> simpa only [evidenced, hstate] using hevidenced
  obtain ⟨execution, hfind, hfinished⟩ := (any_eq_true _ _).mp hany
  obtain ⟨hget, -, -⟩ := h.index hexecutions happlications
  obtain ⟨hmem, hdigest⟩ := (receiptForDigest_eq_some hexecutions hget).mp hfind
  have haccepts := h.accepts
  simp only [JobContext.accepts, Bool.and_eq_true, List.all_eq_true] at haccepts
  have hvalid := haccepts.1.1.2 (_, execution) (mem_pairs.mpr ((hget _ _).mpr ⟨hmem, rfl⟩))
  simp only [validExecution, Bool.and_eq_true, beq_iff_eq] at hvalid
  exact ⟨execution, hmem, hdigest.symm, hvalid.1.1.1.1, of_decide_eq_true hfinished⟩

include h hexecutions happlications in
/-- A `result_applied` transition names an application receipt, which is for one of the
executions. -/
theorem Accepted.application (ht : t ∈ log.uniqueTransitions) (hstate : t.state = .resultApplied) :
    ∃ application ∈ applications, t.evidenceDigest = some (applicationDigest c application) ∧
      ∃ execution ∈ executions, AppliedResult c k application execution := by
  obtain ⟨l₁, l₂, hchain⟩ := append_of_mem ht
  have hfold := h.fold
  rw [hchain] at hfold
  obtain ⟨w, -, -, -, hevidenced⟩ := round_of_foldlM hfold
  simp only [evidenced, hstate] at hevidenced
  obtain ⟨application, hfind, -⟩ := (any_eq_true _ _).mp hevidenced
  obtain ⟨-, hget', -⟩ := h.index hexecutions happlications
  obtain ⟨hmem, hdigest⟩ := (receiptForDigest_eq_some happlications hget').mp hfind
  exact ⟨application, hmem, hdigest.symm, h.appliedResult hexecutions happlications hmem⟩

include h hexecutions happlications in
/-- The execution receipts of one attempt of a job are one receipt. -/
theorem Accepted.one_execution
    (hattempt : ∀ r ∈ executions, ∀ r' ∈ executions, r.attempt = r'.attempt)
    {r r'} (hr : r ∈ executions) (hr' : r' ∈ executions) : r = r' := by
  obtain ⟨hcompatible, -⟩ := (dedupeReceipts_spec _ _ _ _ hexecutions).2 _ h.executionIndex
  obtain ⟨hget, -, -⟩ := h.index hexecutions happlications
  have haccepts := h.accepts
  simp only [JobContext.accepts, Bool.and_eq_true, List.all_eq_true] at haccepts
  have hjob : ∀ r ∈ executions, r.jobID = e.jobID := by
    intro r hr
    have hvalid := haccepts.1.1.2 (_, r) (mem_pairs.mpr ((hget _ _).mpr ⟨hr, rfl⟩))
    simp only [validExecution, Bool.and_eq_true, beq_iff_eq] at hvalid
    exact hvalid.1.1.1.1
  have hkey : (r.jobID, r.attempt) = (r'.jobID, r'.attempt) := by
    rw [hjob r hr, hjob r' hr', hattempt r hr r' hr']
  exact hcompatible.sameKey r hr r' hr' hkey

/-- **Results of an accepted history.** It is a hash chain from `authorized`, so every transition
but the first has one before it. Staged and delivered results are those of execution receipts of
the job, applied and completed transitions name one application receipt for one of these executions.
If all execution receipts are of one attempt, it is the same execution throughout. -/
theorem lifecycle_result (c : Suite) (k : JobContext) (transitions : List PoolJobTransition)
    (executions : List WorkerExecutionReceipt) (applications : List ResultApplicationReceipt)
    (htransitions : Distinguishes (fun t => c.digest (.transition t)) transitions)
    (hexecutions : Distinguishes (executionDigest c) executions)
    (happlications : Distinguishes (applicationDigest c) applications) (e : JobLifecycleEvaluation)
    (he : evaluateJobLifecycle c k transitions executions applications = some e) :
    ∃ chain : List PoolJobTransition, chain.Sublist transitions ∧ (∀ t ∈ transitions, t ∈ chain) ∧
      HashChain c k e.jobID chain ∧ ∀ l₁ p t l₂, chain = l₁ ++ p :: t :: l₂ →
        (t.state = .resultDelivered → p.state = .resultStaged ∧
          ∃ staged ∈ executions, ∃ delivered ∈ executions,
            p.evidenceDigest = some (executionDigest c staged) ∧
            t.evidenceDigest = some (executionDigest c delivered) ∧
            staged.jobID = e.jobID ∧ delivered.jobID = e.jobID ∧
            ((∀ r ∈ executions, ∀ r' ∈ executions, r.attempt = r'.attempt) → delivered = staged)) ∧
        (t.state = .resultApplied → p.state = .resultDelivered ∧
          ∃ delivered ∈ executions, p.evidenceDigest = some (executionDigest c delivered) ∧
            ∃ application ∈ applications,
              t.evidenceDigest = some (applicationDigest c application) ∧
              ∃ execution ∈ executions, AppliedResult c k application execution ∧
              ((∀ r ∈ executions, ∀ r' ∈ executions, r.attempt = r'.attempt) →
                execution = delivered)) ∧
        (t.state = .completed → p.state = .resultApplied ∧
          t.evidenceDigest = p.evidenceDigest) := by
  obtain ⟨log, executionByID, applicationByID, h⟩ := exists_accepted he
  have hlog : log.Holds c k transitions :=
    TransitionLog.holds_empty.of_foldlM (l := transitions) htransitions h.gathered
  refine ⟨log.uniqueTransitions, hlog.sublist, hlog.complete,
    JobContext.hashChain_of_foldlM h.fold hlog.accepted, fun l₁ p t l₂ hchain => ?_⟩
  have hp : p ∈ log.uniqueTransitions := by simp [hchain]
  have ht : t ∈ log.uniqueTransitions := by simp [hchain]
  -- Each of the three states has one state it may come from, which gives the transition before.
  obtain ⟨hallowed, w, hw, hevidenced⟩ := h.round hchain
  refine ⟨fun hstate => ?_, fun hstate => ?_, fun hstate => ?_⟩
  · have hprevious := allowed_resultDelivered (hstate ▸ hallowed)
    obtain ⟨staged, hstaged, hdigest, hjob, -⟩ :=
      h.execution hexecutions happlications hp (.inl hprevious)
    obtain ⟨delivered, hdelivered, hdigest', hjob', -⟩ :=
      h.execution hexecutions happlications ht (.inr hstate)
    exact ⟨hprevious, staged, hstaged, delivered, hdelivered, hdigest, hdigest', hjob, hjob',
      fun hattempt => h.one_execution hexecutions happlications hattempt hdelivered hstaged⟩
  · have hprevious := allowed_resultApplied (hstate ▸ hallowed)
    obtain ⟨delivered, hdelivered, hdigest, -, -⟩ :=
      h.execution hexecutions happlications hp (.inr hprevious)
    obtain ⟨application, happlication, hdigest', execution, hexecution, hresult⟩ :=
      h.application hexecutions happlications ht hstate
    exact ⟨hprevious, delivered, hdelivered, hdigest, application, happlication, hdigest',
      execution, hexecution, hresult,
      fun hattempt => h.one_execution hexecutions happlications hattempt hexecution hdelivered⟩
  · have hprevious := allowed_completed (hstate ▸ hallowed)
    simp only [evidenced, hstate, Bool.and_eq_true, beq_iff_eq] at hevidenced
    exact ⟨hprevious, by rw [hevidenced.2, applied_of_foldlM hw hprevious]⟩

end Results

/-! ## A completed job -/

def sampleContext : JobContext where
  authorization :=
    { version := 1, authorizationID := 10, requestID := 11, poolID := 1, workerCardID := 5
      workerCardRevision := 1, workerCardDigest := sampleDigest 211, offeringID := 6
      offeringRevision := 1, requestDigest := sampleDigest 0, payloadDigest := sampleDigest 0
      disclosurePlanDigest := sampleDigest 0, consentReceiptDigest := none
      authorizedPrivacyClass := .public, authorizedAtMilliseconds := 0
      expiresAtMilliseconds := 1000
      signature := sampleES256 20 }
  admission :=
    { version := 1, admissionID := 30, jobID := 40, poolID := 1, invocationAuthorizationID := 10
      invocationAuthorizationDigest := sampleDigest 201, workerEnrollmentID := 2, workerCardID := 5
      workerCardRevision := 1, workerCardDigest := sampleDigest 211, offeringID := 6
      offeringRevision := 1, resourceCeiling := ⟨1, 1, 1, 1⟩, budgetCeiling := ⟨1, [36]⟩
      admittedAtMilliseconds := 1, expiresAtMilliseconds := 900, leaseExpiresAtMilliseconds := 800
      signature := sampleES256 21 }
  signedWorkerCard := sampleCard 1
  workerEnrollment := sampleEnrollment
  offering := sampleOffering
  permittedInvocationAuthorities := [⟨20, sampleDigest 0⟩]
  permittedApplicationAuthorities := [⟨22, sampleDigest 0⟩]
  expectedPoolID := 1
  expectedPoolAuthorityID := 21
  expectedPoolSigningKeyFingerprint := sampleDigest 0

/-- The receipt of an attempt; its digest has the number `100 + attempt`. -/
def sampleExecution (attempt : Nat) : WorkerExecutionReceipt where
  version := 1
  receiptID := 50 + BitVec.ofNat 128 attempt
  jobID := 40
  admissionID := 30
  admissionDigest := sampleDigest 202
  workerEnrollmentID := 2
  attempt := attempt
  requestDigest := sampleDigest 0
  resultDigest := sampleDigest 0
  startedAtMilliseconds := 2
  finishedAtMilliseconds := 3
  signature := sampleEd25519 2

/-- The result of the first attempt, applied. -/
def sampleApplication : ResultApplicationReceipt where
  version := 1
  receiptID := 60
  jobID := 40
  executionReceiptID := 51
  executionReceiptDigest := sampleDigest 101
  resultDigest := sampleDigest 0
  applicationDigest := sampleDigest 0
  applyingDeviceID := 22
  appliedAtMilliseconds := 4
  signature := sampleES256 22

def sampleTransition (sequence : Nat) (state : JobState) (evidence : Option UInt8) :
    PoolJobTransition where
  version := 1
  transitionID := 70 + BitVec.ofNat 128 sequence
  jobID := 40
  poolID := 1
  sequence := sequence
  predecessorDigest :=
    if sequence = 1 then none else some (sampleDigest (UInt8.ofNat (sequence - 1)))
  state := state
  evidenceDigest := evidence.map sampleDigest
  occurredAtMilliseconds := 10
  signature := sampleES256 21

/-- A job whose staged result is that of the first attempt and whose delivered result has this
number. -/
def sampleTransitions (delivered : UInt8) : List PoolJobTransition :=
  [sampleTransition 1 .authorized (some 201), sampleTransition 2 .admitted (some 202),
    sampleTransition 3 .leased none, sampleTransition 4 .executing none,
    sampleTransition 5 .resultStaged (some 101),
      sampleTransition 6 .resultDelivered (some delivered),
    sampleTransition 7 .resultApplied (some 200), sampleTransition 8 .completed (some 200)]

/-- The digests of the samples differ, and both histories are accepted: with one attempt, and with
the result of a second attempt delivered. -/
theorem sampleTransitions_accepted :
    Distinguishes (fun t => sampleSuite.digest (.transition t)) (sampleTransitions 101) ∧
    Distinguishes (fun t => sampleSuite.digest (.transition t)) (sampleTransitions 102) ∧
    Distinguishes (executionDigest sampleSuite) [sampleExecution 1, sampleExecution 2] ∧
    Distinguishes (applicationDigest sampleSuite) [sampleApplication] ∧
    (evaluateJobLifecycle sampleSuite sampleContext (sampleTransitions 101) [sampleExecution 1]
      [sampleApplication]).map JobLifecycleEvaluation.currentState = some .completed ∧
    (evaluateJobLifecycle sampleSuite sampleContext (sampleTransitions 102)
      [sampleExecution 1, sampleExecution 2] [sampleApplication]).map
        JobLifecycleEvaluation.currentState = some .completed := by
  unfold Distinguishes
  decide +kernel

theorem lifecycle_evidence_sample :
    ∃ e, evaluateJobLifecycle sampleSuite sampleContext (sampleTransitions 101) [sampleExecution 1]
        [sampleApplication] = some e ∧
      ∃ application ∈ [sampleApplication], ∃ execution ∈ [sampleExecution 1],
        AppliedResult sampleSuite sampleContext application execution := by
  obtain ⟨htransitions, -, hexecutions, happlications, haccepted, -⟩ := sampleTransitions_accepted
  obtain ⟨e, he, hcompleted⟩ := map_eq_some_iff.mp haccepted
  obtain ⟨⟨_, -, -, -, _, -, -, hevidence⟩, -⟩ :=
    (lifecycle_evidence sampleSuite sampleContext (sampleTransitions 101) [sampleExecution 1]
      [sampleApplication] htransitions (hexecutions.subset (by simp)) happlications).1 e he
  obtain ⟨application, happlication, -, -, hresult⟩ := hevidence hcompleted
  exact ⟨e, he, application, happlication, hresult⟩

theorem lifecycle_result_sample :
    ∃ e, evaluateJobLifecycle sampleSuite sampleContext (sampleTransitions 101) [sampleExecution 1]
        [sampleApplication] = some e ∧
      ∃ chain : List PoolJobTransition, (∀ t ∈ sampleTransitions 101, t ∈ chain) ∧
        HashChain sampleSuite sampleContext e.jobID chain ∧ ∀ l₁ p t l₂, chain = l₁ ++
          p :: t :: l₂ → t.state = .completed →
          p.state = .resultApplied ∧ t.evidenceDigest = p.evidenceDigest := by
  obtain ⟨htransitions, -, hexecutions, happlications, haccepted, -⟩ := sampleTransitions_accepted
  obtain ⟨e, he, -⟩ := map_eq_some_iff.mp haccepted
  obtain ⟨chain, -, hcomplete, hlinked, hchain⟩ :=
    lifecycle_result sampleSuite sampleContext (sampleTransitions 101) [sampleExecution 1]
      [sampleApplication] htransitions (hexecutions.subset (by simp)) happlications e he
  exact ⟨e, he, chain, hcomplete, hlinked, fun l₁ p t l₂ hsplit => (hchain l₁ p t l₂ hsplit).2.2⟩

/-- A completed history that stages the result of the first attempt, delivers that of the second,
and applies that of the first. -/
theorem delivers_other_result :
    Distinguishes (fun t => sampleSuite.digest (.transition t)) (sampleTransitions 102) ∧
    Distinguishes (executionDigest sampleSuite) [sampleExecution 1, sampleExecution 2] ∧
    Distinguishes (applicationDigest sampleSuite) [sampleApplication] ∧
    (evaluateJobLifecycle sampleSuite sampleContext (sampleTransitions 102)
      [sampleExecution 1, sampleExecution 2] [sampleApplication]).map
        JobLifecycleEvaluation.currentState = some .completed ∧
    (sampleTransition 5 .resultStaged (some 101)).evidenceDigest =
      some (executionDigest sampleSuite (sampleExecution 1)) ∧
    (sampleTransition 6 .resultDelivered (some 102)).evidenceDigest =
      some (executionDigest sampleSuite (sampleExecution 2)) ∧
    sampleApplication.executionReceiptID = (sampleExecution 1).receiptID ∧
    sampleExecution 1 ≠ sampleExecution 2 := by
  obtain ⟨-, htransitions, hexecutions, happlications, -, haccepted⟩ := sampleTransitions_accepted
  exact ⟨htransitions, hexecutions, happlications, haccepted, by decide +kernel, by decide +kernel,
    by decide +kernel, by decide +kernel⟩

end FacetsNode.ComputePool
