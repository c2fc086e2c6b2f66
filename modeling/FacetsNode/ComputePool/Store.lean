import FacetsNode.ComputePool.Contracts
import FacetsNode.Lib.Attempt
import FacetsNode.Lib.Run
import Mathlib.Data.List.Sort

/-!
# The Compute Pool store

`MemoryStore` files pools, Worker enrollments, Worker cards and offerings. Each request checks the
record it writes against the records of that moment; `GetPoolStatus` gathers what a pool has and
lets `Status.Validate` check all of it again.

* `Readable` — the records fit together: every card validates against its enrollment, every offering
  names the revision and the digest of its card;
* `Operation.KeepsRecords` — what a request must leave alone for that to last;
* **`getPoolStatus_of_run`** — while every request keeps to it, the status of every pool is
  readable.
-/

namespace FacetsNode.ComputePool

open Relay (UUID uuidNil uuidString uuidBytes)

inductive StoreError where
  | invalid
  | notFound
  | conflict
  deriving DecidableEq

/-! ## Status -/

structure Status where
  version : Int
  pool : Pool
  workerEnrollments : List WorkerEnrollment
  workerCards : List SignedWorkerCard
  offerings : List Offering
  deriving DecidableEq

namespace Status

variable (c : Suite) (status : Status)

/-- `enrollmentByID`, filled by the first loop. -/
def enrollmentByID (id : UUID) : Option WorkerEnrollment :=
  status.workerEnrollments.find? (·.enrollmentID == id)

/-- `cards`, filled by the second loop. -/
def cardByID (id : UUID) : Option WorkerCard :=
  (status.workerCards.map SignedWorkerCard.card).find? (·.workerCardID == id)

def validEnrollment (enrollment : WorkerEnrollment) : Bool :=
  enrollment.validate c && enrollment.poolID == status.pool.poolID

def validCard (signedCard : SignedWorkerCard) : Bool :=
  signedCard.card.validate && signedCard.card.poolID == status.pool.poolID &&
    match status.enrollmentByID signedCard.card.workerEnrollmentID with
    | none => false
    | some enrollment =>
      signedCard.card.workerOwnerAuthorityID == enrollment.workerOwnerAuthorityID &&
        signedCard.validate c enrollment

def validOffering (offering : Offering) : Bool :=
  offering.validate && offering.poolID == status.pool.poolID &&
    (status.enrollmentByID offering.workerEnrollmentID).isSome &&
    match status.cardByID offering.workerCardID with
    | none => false
    | some card =>
      card.workerEnrollmentID == offering.workerEnrollmentID &&
        offering.workerCardRevision == card.revision &&
        c.digest (.workerCard card) == some offering.workerCardDigest

/-- The identifiers of a list, as texts, go up. -/
def ordered (ids : List UUID) : Bool := increasing (fun _ => true) (ids.map uuidString)

def validate : Bool :=
  status.version == schemaVersion && status.pool.validate &&
    status.workerEnrollments.all (status.validEnrollment c) &&
    ordered (status.workerEnrollments.map WorkerEnrollment.enrollmentID) &&
    status.workerCards.all (status.validCard c) &&
    ordered (status.workerCards.map fun s => s.card.workerCardID) &&
    status.offerings.all (status.validOffering c) &&
    ordered (status.offerings.map Offering.offeringID)

end Status

/-! ## The store -/

structure MemoryStore where
  pools : GoMap UUID Pool
  enrollments : GoMap UUID WorkerEnrollment
  cards : GoMap UUID SignedWorkerCard
  offerings : GoMap UUID Offering

def newMemoryStore : MemoryStore := ⟨∅, ∅, ∅, ∅⟩

/-- Fail with `e` when a check finds something wrong. -/
def refuse (wrong : Bool) (e : StoreError) : Except StoreError Unit :=
  if wrong then .error e else .ok ()

theorem refuse_eq_ok {wrong e u} : refuse wrong e = .ok u ↔ wrong = false := by
  cases wrong <;> simp [refuse]

/-- `value, found := m[key]`, with the error for a missing entry. -/
def required {α : Type} (o : Option α) (e : StoreError) : Except StoreError α :=
  match o with
  | none => .error e
  | some value => .ok value

theorem required_eq_ok {α : Type} {o : Option α} {e} {value : α} :
    required o e = .ok value ↔ o = some value := by
  cases o <;> simp [required]

namespace MemoryStore

variable (c : Suite) (s : MemoryStore)

def createPool (pool : Pool) : Except StoreError MemoryStore := do
  refuse (!pool.validate || pool.revision != 1) .invalid
  refuse (s.pools.get? pool.poolID).isSome .conflict
  return { s with pools := s.pools.set pool.poolID pool }

def updatePool (previousRevision : Nat) (pool : Pool) : Except StoreError MemoryStore := do
  refuse (!pool.validate || previousRevision == 0 || pool.revision != previousRevision + 1) .invalid
  let current ← required (s.pools.get? pool.poolID) .notFound
  refuse (current.revision != previousRevision || current.ownerAuthorityID != pool.ownerAuthorityID ||
    current.createdAtMilliseconds != pool.createdAtMilliseconds ||
    pool.updatedAtMilliseconds < current.updatedAtMilliseconds ||
    pool.authorityRevision < current.authorityRevision ||
    (pool.authorityRevision == current.authorityRevision &&
      pool.authorityManifestDigest != current.authorityManifestDigest)) .conflict
  return { s with pools := s.pools.set pool.poolID pool }

/-- The records filed under a pool go with it. -/
def withoutPool (poolID : UUID) : MemoryStore :=
  { pools := s.pools.delete poolID
    enrollments := s.enrollments.filter fun _ e => e.poolID != poolID
    cards := s.cards.filter fun _ signed => signed.card.poolID != poolID
    offerings := s.offerings.filter fun _ o => o.poolID != poolID }

def deletePool (poolID : UUID) (expectedRevision : Nat) : Except StoreError MemoryStore := do
  refuse (poolID == uuidNil || expectedRevision == 0) .invalid
  let pool ← required (s.pools.get? poolID) .notFound
  refuse (pool.revision != expectedRevision) .conflict
  return s.withoutPool poolID

def putWorkerEnrollment (previousRevision : Nat) (enrollment : WorkerEnrollment) :
    Except StoreError MemoryStore := do
  refuse (!enrollment.validate c || enrollment.revision != previousRevision + 1) .invalid
  refuse (s.pools.get? enrollment.poolID).isNone .notFound
  match s.enrollments.get? enrollment.enrollmentID with
  | none => refuse (previousRevision != 0) .notFound
  | some current =>
    refuse (current.revision != previousRevision || current.poolID != enrollment.poolID ||
      current.workerID != enrollment.workerID ||
      current.workerOwnerAuthorityID != enrollment.workerOwnerAuthorityID ||
      current.createdAtMilliseconds != enrollment.createdAtMilliseconds ||
      enrollment.updatedAtMilliseconds < current.updatedAtMilliseconds ||
      enrollment.consentRevision < current.consentRevision ||
      (enrollment.consentRevision == current.consentRevision &&
        (enrollment.publicSigningKeyEd25519 != current.publicSigningKeyEd25519 ||
          enrollment.signingKeyFingerprint != current.signingKeyFingerprint))) .conflict
  return { s with enrollments := s.enrollments.set enrollment.enrollmentID enrollment }

def putWorkerCard (previousRevision : Nat) (signedCard : SignedWorkerCard) :
    Except StoreError MemoryStore := do
  let card := signedCard.card
  refuse (!card.validate || card.revision != previousRevision + 1) .invalid
  let enrollment ← required (s.enrollments.get? card.workerEnrollmentID) .notFound
  refuse (enrollment.poolID != card.poolID ||
    enrollment.workerOwnerAuthorityID != card.workerOwnerAuthorityID) .notFound
  refuse (!signedCard.validate c enrollment) .invalid
  match s.cards.get? card.workerCardID with
  | none => refuse (previousRevision != 0) .notFound
  | some current =>
    refuse (current.card.revision != previousRevision || current.card.poolID != card.poolID ||
      current.card.workerEnrollmentID != card.workerEnrollmentID ||
      current.card.workerOwnerAuthorityID != card.workerOwnerAuthorityID ||
      current.card.createdAtMilliseconds != card.createdAtMilliseconds ||
      card.updatedAtMilliseconds < current.card.updatedAtMilliseconds) .conflict
  return { s with cards := s.cards.set card.workerCardID signedCard }

def putOffering (previousRevision : Nat) (offering : Offering) : Except StoreError MemoryStore := do
  refuse (!offering.validate || offering.revision != previousRevision + 1) .invalid
  refuse (s.pools.get? offering.poolID).isNone .notFound
  let enrollment ← required (s.enrollments.get? offering.workerEnrollmentID) .notFound
  refuse (enrollment.poolID != offering.poolID) .notFound
  let signedCard ← required (s.cards.get? offering.workerCardID) .notFound
  let card := signedCard.card
  refuse (!signedCard.validate c enrollment || card.poolID != offering.poolID ||
    card.workerEnrollmentID != offering.workerEnrollmentID ||
    offering.workerCardRevision != card.revision ||
    c.digest (.workerCard card) != some offering.workerCardDigest) .notFound
  match s.offerings.get? offering.offeringID with
  | none => refuse (previousRevision != 0) .notFound
  | some current =>
    refuse (current.revision != previousRevision || current.poolID != offering.poolID ||
      current.workerEnrollmentID != offering.workerEnrollmentID ||
      current.createdAtMilliseconds != offering.createdAtMilliseconds ||
      offering.updatedAtMilliseconds < current.updatedAtMilliseconds ||
      offering.pricingRevision < current.pricingRevision) .conflict
  return { s with offerings := s.offerings.set offering.offeringID offering }

/-- The values of a map that belong to a pool, sorted by the text of their identifier. -/
def gather {α : Type} (m : GoMap UUID α) (poolOf idOf : α → UUID) (poolID : UUID) : List α :=
  ((m.pairs.map Prod.snd).filter (poolOf · == poolID)).insertionSort
    fun a b => uuidString (idOf a) ≤ uuidString (idOf b)

/-- What `GetPoolStatus` puts together before it validates. -/
def statusOf (pool : Pool) (poolID : UUID) : Status where
  version := schemaVersion
  pool := pool
  workerEnrollments :=
    gather s.enrollments WorkerEnrollment.poolID WorkerEnrollment.enrollmentID poolID
  workerCards := gather s.cards (fun x => x.card.poolID) (fun x => x.card.workerCardID) poolID
  offerings := gather s.offerings Offering.poolID Offering.offeringID poolID

def getPoolStatus (poolID : UUID) : Except StoreError Status := do
  refuse (poolID == uuidNil) .invalid
  let pool ← required (s.pools.get? poolID) .notFound
  refuse (!(s.statusOf pool poolID).validate c) .invalid
  return s.statusOf pool poolID

end MemoryStore

/-- A request that may change the store. -/
inductive Operation where
  | createPool (pool : Pool)
  | updatePool (previousRevision : Nat) (pool : Pool)
  | deletePool (poolID : UUID) (expectedRevision : Nat)
  | putWorkerEnrollment (previousRevision : Nat) (enrollment : WorkerEnrollment)
  | putWorkerCard (previousRevision : Nat) (signedCard : SignedWorkerCard)
  | putOffering (previousRevision : Nat) (offering : Offering)

def Operation.request (c : Suite) (s : MemoryStore) : Operation → Except StoreError MemoryStore
  | .createPool pool => s.createPool pool
  | .updatePool previousRevision pool => s.updatePool previousRevision pool
  | .deletePool poolID expectedRevision => s.deletePool poolID expectedRevision
  | .putWorkerEnrollment previousRevision enrollment =>
    s.putWorkerEnrollment c previousRevision enrollment
  | .putWorkerCard previousRevision signedCard => s.putWorkerCard c previousRevision signedCard
  | .putOffering previousRevision offering => s.putOffering c previousRevision offering

/-- What a request must leave alone: an enrollment with stored cards stays enabled and keeps its
key, and a card that a stored offering names is not replaced. -/
def Operation.KeepsRecords (s : MemoryStore) : Operation → Prop
  | .putWorkerEnrollment _ e =>
    ∀ id signed, s.cards.get? id = some signed → signed.card.workerEnrollmentID = e.enrollmentID →
      e.enabled = true ∧ ∀ current, s.enrollments.get? e.enrollmentID = some current →
        e.publicSigningKeyEd25519 = current.publicSigningKeyEd25519 ∧
          e.signingKeyFingerprint = current.signingKeyFingerprint
  | .putWorkerCard _ signed =>
    ∀ id o, s.offerings.get? id = some o → o.workerCardID ≠ signed.card.workerCardID
  | _ => True

/-- The offering is for this card as it is now. -/
structure Offering.Names (c : Suite) (o : Offering) (card : WorkerCard) : Prop where
  pool : card.poolID = o.poolID
  enrollment : card.workerEnrollmentID = o.workerEnrollmentID
  revision : o.workerCardRevision = card.revision
  digest : c.digest (.workerCard card) = some o.workerCardDigest

/-- The store after a request, accepted or refused. -/
def Operation.apply (c : Suite) (op : Operation) (s : MemoryStore) : MemoryStore :=
  match op.request c s with
  | .ok s' => s'
  | .error _ => s

/-! ## What an accepted request does -/

variable {c : Suite} {s s' : MemoryStore} {op : Operation}

/-- The change an accepted request makes, with the checks later requests rely on. -/
inductive Step (c : Suite) (s : MemoryStore) : Operation → MemoryStore → Prop where
  | created (pool : Pool) (hvalid : pool.validate = true) :
      Step c s (.createPool pool) { s with pools := s.pools.set pool.poolID pool }
  | updated (previousRevision : Nat) (pool : Pool) (hvalid : pool.validate = true) :
      Step c s (.updatePool previousRevision pool) { s with pools := s.pools.set pool.poolID pool }
  | deleted (poolID : UUID) (expectedRevision : Nat) :
      Step c s (.deletePool poolID expectedRevision) (s.withoutPool poolID)
  | enrollment (previousRevision : Nat) (e : WorkerEnrollment) (hvalid : e.validate c = true)
      (hsame : ∀ current, s.enrollments.get? e.enrollmentID = some current →
        current.poolID = e.poolID ∧ current.workerOwnerAuthorityID = e.workerOwnerAuthorityID) :
      Step c s (.putWorkerEnrollment previousRevision e)
        { s with enrollments := s.enrollments.set e.enrollmentID e }
  | card (previousRevision : Nat) (signed : SignedWorkerCard) (e : WorkerEnrollment)
      (he : s.enrollments.get? signed.card.workerEnrollmentID = some e)
      (hvalid : signed.validate c e = true) :
      Step c s (.putWorkerCard previousRevision signed)
        { s with cards := s.cards.set signed.card.workerCardID signed }
  | offering (previousRevision : Nat) (o : Offering) (signed : SignedWorkerCard)
      (hvalid : o.validate = true) (hcard : s.cards.get? o.workerCardID = some signed)
      (hnames : o.Names c signed.card) :
      Step c s (.putOffering previousRevision o)
        { s with offerings := s.offerings.set o.offeringID o }

namespace MemoryStore

theorem step_createPool {pool} (h : s.createPool pool = .ok s') :
    Step c s (.createPool pool) s' := by
  obtain ⟨_, hchecked, h⟩ := bind_eq_ok.mp h
  obtain ⟨_, -, h⟩ := bind_eq_ok.mp h
  obtain rfl := Except.ok.inj h
  have hchecked := refuse_eq_ok.mp hchecked
  simp only [Bool.or_eq_false_iff, Bool.not_eq_false'] at hchecked
  exact .created pool hchecked.1

variable {previousRevision : Nat}

theorem step_updatePool {pool} (h : s.updatePool previousRevision pool = .ok s') :
    Step c s (.updatePool previousRevision pool) s' := by
  obtain ⟨_, hchecked, h⟩ := bind_eq_ok.mp h
  obtain ⟨current, -, h⟩ := bind_eq_ok.mp h
  obtain ⟨_, -, h⟩ := bind_eq_ok.mp h
  obtain rfl := Except.ok.inj h
  have hchecked := refuse_eq_ok.mp hchecked
  simp only [Bool.or_eq_false_iff, Bool.not_eq_false'] at hchecked
  exact .updated previousRevision pool hchecked.1.1

theorem step_deletePool {poolID} {expectedRevision : Nat}
    (h : s.deletePool poolID expectedRevision = .ok s') :
    Step c s (.deletePool poolID expectedRevision) s' := by
  obtain ⟨_, -, h⟩ := bind_eq_ok.mp h
  obtain ⟨pool, -, h⟩ := bind_eq_ok.mp h
  obtain ⟨_, -, h⟩ := bind_eq_ok.mp h
  obtain rfl := Except.ok.inj h
  exact .deleted poolID expectedRevision

theorem step_putWorkerEnrollment {e} (h : s.putWorkerEnrollment c previousRevision e = .ok s') :
    Step c s (.putWorkerEnrollment previousRevision e) s' := by
  obtain ⟨_, hchecked, h⟩ := bind_eq_ok.mp h
  obtain ⟨_, -, h⟩ := bind_eq_ok.mp h
  have hchecked := refuse_eq_ok.mp hchecked
  simp only [Bool.or_eq_false_iff, Bool.not_eq_false'] at hchecked
  cases hcurrent : s.enrollments.get? e.enrollmentID with
  | none =>
    simp only [hcurrent] at h
    obtain ⟨_, -, h⟩ := bind_eq_ok.mp h
    obtain rfl := Except.ok.inj h
    refine .enrollment previousRevision e hchecked.1 fun current h => ?_
    rw [hcurrent] at h
    cases h
  | some current =>
    simp only [hcurrent] at h
    obtain ⟨_, hsame, h⟩ := bind_eq_ok.mp h
    obtain rfl := Except.ok.inj h
    have hsame := refuse_eq_ok.mp hsame
    simp only [Bool.or_eq_false_iff, bne_eq_false_iff_eq] at hsame
    obtain ⟨⟨⟨⟨⟨⟨⟨-, hpool⟩, -⟩, howner⟩, -⟩, -⟩, -⟩, -⟩ := hsame
    refine .enrollment previousRevision e hchecked.1 fun current' h => ?_
    obtain rfl := Option.some.inj (hcurrent.symm.trans h)
    exact ⟨hpool, howner⟩

theorem step_putWorkerCard {signed} (h : s.putWorkerCard c previousRevision signed = .ok s') :
    Step c s (.putWorkerCard previousRevision signed) s' := by
  obtain ⟨_, -, h⟩ := bind_eq_ok.mp h
  obtain ⟨e, he, h⟩ := bind_eq_ok.mp h
  obtain ⟨_, -, h⟩ := bind_eq_ok.mp h
  obtain ⟨_, hvalid, h⟩ := bind_eq_ok.mp h
  have hvalid : signed.validate c e = true := by simpa using refuse_eq_ok.mp hvalid
  have hs' : s' = { s with cards := s.cards.set signed.card.workerCardID signed } := by
    cases hcurrent : s.cards.get? signed.card.workerCardID with
    | none | some current =>
      simp only [hcurrent] at h
      obtain ⟨_, -, h⟩ := bind_eq_ok.mp h
      exact (Except.ok.inj h).symm
  subst hs'
  exact .card previousRevision signed e (required_eq_ok.mp he) hvalid

theorem step_putOffering {o} (h : s.putOffering c previousRevision o = .ok s') :
    Step c s (.putOffering previousRevision o) s' := by
  obtain ⟨_, hchecked, h⟩ := bind_eq_ok.mp h
  obtain ⟨_, -, h⟩ := bind_eq_ok.mp h
  obtain ⟨e, -, h⟩ := bind_eq_ok.mp h
  obtain ⟨_, -, h⟩ := bind_eq_ok.mp h
  obtain ⟨signed, hcard, h⟩ := bind_eq_ok.mp h
  obtain ⟨_, hnames, h⟩ := bind_eq_ok.mp h
  have hchecked := refuse_eq_ok.mp hchecked
  simp only [Bool.or_eq_false_iff, Bool.not_eq_false'] at hchecked
  have hnames := refuse_eq_ok.mp hnames
  simp only [Bool.or_eq_false_iff, bne_eq_false_iff_eq] at hnames
  obtain ⟨⟨⟨⟨-, hpool⟩, henrollment⟩, hrevision⟩, hdigest⟩ := hnames
  have hs' : s' = { s with offerings := s.offerings.set o.offeringID o } := by
    cases hcurrent : s.offerings.get? o.offeringID with
    | none | some current =>
      simp only [hcurrent] at h
      obtain ⟨_, -, h⟩ := bind_eq_ok.mp h
      exact (Except.ok.inj h).symm
  subst hs'
  exact .offering previousRevision o signed hchecked.1 (required_eq_ok.mp hcard)
    ⟨hpool, henrollment, hrevision, hdigest⟩

end MemoryStore

open MemoryStore

/-- Every accepted request is a step. -/
theorem Operation.step_of_request (h : op.request c s = .ok s') : Step c s op s' := by
  cases op with
  | createPool pool => exact step_createPool h
  | updatePool previousRevision pool => exact step_updatePool h
  | deletePool poolID expectedRevision => exact step_deletePool h
  | putWorkerEnrollment previousRevision e => exact step_putWorkerEnrollment h
  | putWorkerCard previousRevision signed => exact step_putWorkerCard h
  | putOffering previousRevision o => exact step_putOffering h

/-! ## Records that fit together -/

/-- Every record is filed under its own identifier, and fits the records it names. -/
structure MemoryStore.Readable (c : Suite) (s : MemoryStore) : Prop where
  pool : ∀ id p, s.pools.get? id = some p → p.poolID = id ∧ p.validate = true
  enrollment : ∀ id e, s.enrollments.get? id = some e → e.enrollmentID = id ∧ e.validate c = true
  card : ∀ id signed, s.cards.get? id = some signed → signed.card.workerCardID = id ∧
    ∃ e, s.enrollments.get? signed.card.workerEnrollmentID = some e ∧ signed.validate c e = true
  offering : ∀ id o, s.offerings.get? id = some o → o.offeringID = id ∧ o.validate = true ∧
    ∃ signed, s.cards.get? o.workerCardID = some signed ∧ o.Names c signed.card

theorem readable_newMemoryStore (c : Suite) : newMemoryStore.Readable c := by
  constructor <;> intro id value h <;> cases h

/-- What a card's validation says about its enrollment. -/
theorem SignedWorkerCard.validate_eq_true {signed : SignedWorkerCard} {e : WorkerEnrollment}
    (h : signed.validate c e = true) :
    signed.card.validate = true ∧ e.enrollmentID = signed.card.workerEnrollmentID ∧
      e.poolID = signed.card.poolID ∧
      e.workerOwnerAuthorityID = signed.card.workerOwnerAuthorityID := by
  simp only [SignedWorkerCard.validate, Bool.and_eq_true, beq_iff_eq] at h
  obtain ⟨⟨⟨⟨⟨⟨⟨⟨⟨hcard, -⟩, -⟩, hid⟩, hpool⟩, howner⟩, -⟩, -⟩, -⟩, -⟩ := h
  exact ⟨hcard, hid, hpool, howner⟩

/-- A card stays valid when its enrollment is replaced by an enabled one with the same key. -/
theorem SignedWorkerCard.validate_of_kept {signed : SignedWorkerCard} {e e' : WorkerEnrollment}
    (h : signed.validate c e = true) (hvalid : e'.validate c = true)
    (hid : e'.enrollmentID = e.enrollmentID) (hpool : e.poolID = e'.poolID)
    (howner : e.workerOwnerAuthorityID = e'.workerOwnerAuthorityID) (henabled : e'.enabled = true)
    (hkey : e'.publicSigningKeyEd25519 = e.publicSigningKeyEd25519)
    (hfingerprint : e'.signingKeyFingerprint = e.signingKeyFingerprint) :
    signed.validate c e' = true := by
  simp only [SignedWorkerCard.validate, Bool.and_eq_true, beq_iff_eq] at h ⊢
  rw [hid, ← hpool, ← howner, hkey, hfingerprint]
  simp_all

open GoMap

section Steps
variable (h : s.Readable c)
include h

theorem MemoryStore.Readable.setPool {pool} (hvalid : pool.validate = true) :
    MemoryStore.Readable c { s with pools := s.pools.set pool.poolID pool } := by
  refine { h with pool := fun id p hp => ?_ }
  rw [get?_set] at hp
  split at hp
  · next hid =>
    obtain rfl := Option.some.inj hp
    exact ⟨hid.symm, hvalid⟩
  · exact h.pool id p hp

theorem MemoryStore.Readable.withoutPool (poolID : UUID) : (s.withoutPool poolID).Readable c where
  pool id p hp := by
    have hp : (s.pools.delete poolID).get? id = some p := hp
    rw [get?_delete] at hp
    split at hp
    · cases hp
    · exact h.pool id p hp
  enrollment id e he := h.enrollment id e ((get?_filter _ _).mp he).1
  card id signed hsigned := by
    obtain ⟨hsigned, hother⟩ := (get?_filter _ _).mp hsigned
    obtain ⟨hid, e, he, hvalid⟩ := h.card id signed hsigned
    -- the enrollment of a card is of the card's pool, so it stays as well
    have hpool := (SignedWorkerCard.validate_eq_true hvalid).2.2.1
    refine ⟨hid, e, (get?_filter _ _).mpr ⟨he, ?_⟩, hvalid⟩
    rw [hpool]
    exact hother
  offering id o ho := by
    obtain ⟨ho, hother⟩ := (get?_filter _ _).mp ho
    obtain ⟨hid, hvalid, signed, hsigned, hnames⟩ := h.offering id o ho
    refine ⟨hid, hvalid, signed, (get?_filter _ _).mpr ⟨hsigned, ?_⟩, hnames⟩
    rw [hnames.pool]
    exact hother

theorem MemoryStore.Readable.setEnrollment {previousRevision : Nat} {e : WorkerEnrollment}
    (hvalid : e.validate c = true)
    (hsame : ∀ current, s.enrollments.get? e.enrollmentID = some current →
      current.poolID = e.poolID ∧ current.workerOwnerAuthorityID = e.workerOwnerAuthorityID)
    (hkeeps : Operation.KeepsRecords s (.putWorkerEnrollment previousRevision e)) :
    MemoryStore.Readable c { s with enrollments := s.enrollments.set e.enrollmentID e } := by
  refine { h with enrollment := fun id e' he' => ?_, card := fun id signed hsigned => ?_ }
  · rw [get?_set] at he'
    split at he'
    · next hid =>
      obtain rfl := Option.some.inj he'
      exact ⟨hid.symm, hvalid⟩
    · exact h.enrollment id e' he'
  · obtain ⟨hid, current, hcurrent, hcard⟩ := h.card id signed hsigned
    refine ⟨hid, ?_⟩
    by_cases hname : signed.card.workerEnrollmentID = e.enrollmentID
    · obtain ⟨henabled, hkey⟩ := hkeeps id signed hsigned hname
      rw [hname] at hcurrent ⊢
      obtain ⟨hpool, howner⟩ := hsame current hcurrent
      obtain ⟨hkey, hfingerprint⟩ := hkey current hcurrent
      refine ⟨e, get?_set_self _ _ _, ?_⟩
      exact SignedWorkerCard.validate_of_kept hcard hvalid (h.enrollment _ _ hcurrent).1.symm hpool
        howner henabled hkey hfingerprint
    · exact ⟨current, (get?_set_ne _ _ hname).trans hcurrent, hcard⟩

theorem MemoryStore.Readable.setCard {previousRevision : Nat} {signed e}
    (he : s.enrollments.get? signed.card.workerEnrollmentID = some e)
    (hvalid : signed.validate c e = true)
    (hkeeps : Operation.KeepsRecords s (.putWorkerCard previousRevision signed)) :
    MemoryStore.Readable c { s with cards := s.cards.set signed.card.workerCardID signed } := by
  refine { h with card := fun id signed' hsigned' => ?_, offering := fun id o ho => ?_ }
  · rw [get?_set] at hsigned'
    split at hsigned'
    · next hid =>
      obtain rfl := Option.some.inj hsigned'
      exact ⟨hid.symm, e, he, hvalid⟩
    · exact h.card id signed' hsigned'
  · obtain ⟨hid, ho', signed', hsigned', hnames⟩ := h.offering id o ho
    exact ⟨hid, ho', signed', (get?_set_ne _ _ (hkeeps id o ho)).trans hsigned', hnames⟩

theorem MemoryStore.Readable.setOffering {o signed}
    (hvalid : o.validate = true) (hcard : s.cards.get? o.workerCardID = some signed)
    (hnames : o.Names c signed.card) :
    MemoryStore.Readable c { s with offerings := s.offerings.set o.offeringID o } := by
  refine { h with offering := fun id o' ho' => ?_ }
  rw [get?_set] at ho'
  split at ho'
  · next hid =>
    obtain rfl := Option.some.inj ho'
    exact ⟨hid.symm, hvalid, signed, hcard, hnames⟩
  · exact h.offering id o' ho'

end Steps

/-- One step keeps the records fitting together. -/
theorem Step.readable (hstep : Step c s op s') (h : s.Readable c) (hkeeps : op.KeepsRecords s) :
    s'.Readable c := by
  cases hstep with
  | created pool hvalid | updated previousRevision pool hvalid => exact h.setPool hvalid
  | deleted poolID expectedRevision => exact h.withoutPool poolID
  | enrollment previousRevision e hvalid hsame => exact h.setEnrollment hvalid hsame hkeeps
  | card previousRevision signed e he hvalid => exact h.setCard he hvalid hkeeps
  | offering previousRevision o signed hvalid hcard hnames => exact h.setOffering hvalid hcard hnames

theorem Operation.apply_readable (h : s.Readable c)
    (hkeeps : ∀ s', op.request c s = .ok s' → op.KeepsRecords s) : (op.apply c s).Readable c := by
  unfold Operation.apply
  cases hs' : op.request c s with
  | error e => exact h
  | ok s' => exact (op.step_of_request hs').readable h (hkeeps s' hs')

/-! ## The status of a readable store -/

theorem increasing_of_pairwise {l : List GoString} (h : l.Pairwise (· < ·)) :
    increasing (fun _ => true) l = true := by
  induction l with
  | nil => rfl
  | cons a l ih =>
    obtain ⟨ha, hl⟩ := List.pairwise_cons.mp h
    cases l with
    | nil => rfl
    | cons b l => simp [increasing, ha b List.mem_cons_self, ih hl]

section Gather
variable {α : Type} {m : GoMap UUID α} {poolOf idOf : α → UUID} {poolID : UUID}
  (hid : ∀ id x, m.get? id = some x → idOf x = id)
include hid

theorem MemoryStore.mem_gather {x : α} :
    x ∈ gather m poolOf idOf poolID ↔ m.get? (idOf x) = some x ∧ poolOf x = poolID := by
  unfold gather
  rw [(List.perm_insertionSort _ _).mem_iff, List.mem_filter, List.mem_map, beq_iff_eq]
  apply and_congr_left'
  constructor
  · rintro ⟨⟨id, y⟩, hy, rfl⟩
    have hy := mem_pairs.mp hy
    rw [hid id y hy]
    exact hy
  · intro hx
    exact ⟨(idOf x, x), mem_pairs.mpr hx, rfl⟩

theorem MemoryStore.ordered_gather :
    Status.ordered ((gather m poolOf idOf poolID).map idOf) = true := by
  have hkeys : m.pairs.map Prod.fst = (m.pairs.map Prod.snd).map idOf := by
    rw [List.map_map]
    apply List.map_congr_left
    rintro ⟨id, x⟩ hx
    exact (hid id x (mem_pairs.mp hx)).symm
  have hnodup : ((gather m poolOf idOf poolID).map idOf).Nodup := by
    unfold gather
    rw [((List.perm_insertionSort _ _).map idOf).nodup_iff]
    exact (hkeys ▸ m.pairs_keys_nodup).sublist (List.filter_sublist.map idOf)
  have hsorted : (gather m poolOf idOf poolID).Pairwise
      fun a b => uuidString (idOf a) ≤ uuidString (idOf b) := by
    have : Std.Total fun a b : α => uuidString (idOf a) ≤ uuidString (idOf b) :=
      ⟨fun a b => Std.Total.total (uuidString (idOf a)) (uuidString (idOf b))⟩
    have : IsTrans α fun a b : α => uuidString (idOf a) ≤ uuidString (idOf b) :=
      ⟨fun a b d hab hbd => IsTrans.trans (r := (· ≤ · : GoString → GoString → Prop))
        (uuidString (idOf a)) (uuidString (idOf b)) (uuidString (idOf d)) hab hbd⟩
    exact List.pairwise_insertionSort _ _
  apply increasing_of_pairwise
  rw [List.map_map, List.pairwise_map]
  -- sorted, and no identifier twice: strictly increasing
  refine (hsorted.and (List.pairwise_map.mp hnodup)).imp fun {a b} hab => ?_
  rcases Std.lt_trichotomy (uuidString (idOf a)) (uuidString (idOf b)) with hlt | heq | hgt
  · exact hlt
  · exact absurd (Relay.uuidString_injective heq) hab.2
  · exact absurd hgt (Std.not_lt.mpr hab.1)

/-- Looking a gathered record up by its identifier finds it. -/
theorem MemoryStore.find?_gather {x : α} (hx : m.get? (idOf x) = some x)
    (hpool : poolOf x = poolID) :
    (gather m poolOf idOf poolID).find? (idOf · == idOf x) = some x := by
  have hmem : x ∈ gather m poolOf idOf poolID := (mem_gather hid).mpr ⟨hx, hpool⟩
  cases hfind : (gather m poolOf idOf poolID).find? (idOf · == idOf x) with
  | none => exact absurd (beq_self_eq_true (idOf x)) (List.find?_eq_none.mp hfind x hmem)
  | some y =>
    have hy := List.find?_some hfind
    have hget := ((mem_gather hid).mp (List.mem_of_find?_eq_some hfind)).1
    rw [beq_iff_eq.mp hy, hx] at hget
    exact hget.symm

end Gather

section Status
variable (h : s.Readable c) {poolID : UUID} {pool : Pool}
  (hpool : s.pools.get? poolID = some pool)
include h

theorem MemoryStore.Readable.enrollmentByID {e}
    (he : s.enrollments.get? e.enrollmentID = some e) (hin : e.poolID = poolID) :
    (s.statusOf pool poolID).enrollmentByID e.enrollmentID = some e :=
  find?_gather (fun id x hx => (h.enrollment id x hx).1) he hin

theorem MemoryStore.Readable.cardByID {signed}
    (hsigned : s.cards.get? signed.card.workerCardID = some signed)
    (hin : signed.card.poolID = poolID) :
    (s.statusOf pool poolID).cardByID signed.card.workerCardID = some signed.card := by
  have hfind : (gather s.cards (fun x => x.card.poolID) (fun x => x.card.workerCardID)
      poolID).find? (·.card.workerCardID == signed.card.workerCardID) = some signed :=
    find?_gather (fun id x hx => (h.card id x hx).1) hsigned hin
  unfold Status.cardByID
  rw [List.find?_map]
  exact congrArg (Option.map SignedWorkerCard.card) hfind

include hpool

theorem MemoryStore.Readable.validEnrollment {e}
    (he : e ∈ (s.statusOf pool poolID).workerEnrollments) :
    (s.statusOf pool poolID).validEnrollment c e = true := by
  obtain ⟨hget, hin⟩ := (mem_gather fun id x hx => (h.enrollment id x hx).1).mp he
  have hpoolID : e.poolID = pool.poolID := hin.trans (h.pool poolID pool hpool).1.symm
  simp only [Status.validEnrollment, Bool.and_eq_true, beq_iff_eq]
  exact ⟨(h.enrollment _ _ hget).2, hpoolID⟩

theorem MemoryStore.Readable.validCard {signed : SignedWorkerCard}
    (hsigned : signed ∈ (s.statusOf pool poolID).workerCards) :
    (s.statusOf pool poolID).validCard c signed = true := by
  obtain ⟨hget, hin⟩ := (mem_gather fun id x hx => (h.card id x hx).1).mp hsigned
  obtain ⟨-, e, he, hvalid⟩ := h.card _ _ hget
  obtain ⟨hcard, hid, hsame, howner⟩ := SignedWorkerCard.validate_eq_true hvalid
  have hpoolID : signed.card.poolID = pool.poolID := hin.trans (h.pool poolID pool hpool).1.symm
  have hfound : (s.statusOf pool poolID).enrollmentByID signed.card.workerEnrollmentID = some e := by
    rw [← hid] at he ⊢
    exact h.enrollmentByID he (hsame.trans hin)
  simp only [Status.validCard, Bool.and_eq_true, beq_iff_eq, hfound]
  exact ⟨⟨hcard, hpoolID⟩, howner.symm, hvalid⟩

theorem MemoryStore.Readable.validOffering {o : Offering}
    (ho : o ∈ (s.statusOf pool poolID).offerings) :
    (s.statusOf pool poolID).validOffering c o = true := by
  obtain ⟨hget, hin⟩ := (mem_gather fun id x hx => (h.offering id x hx).1).mp ho
  obtain ⟨-, hvalid, signed, hsigned, hnames⟩ := h.offering _ _ hget
  obtain ⟨hcardID, e, he, hcard⟩ := h.card _ _ hsigned
  obtain ⟨-, hid, hsame, -⟩ := SignedWorkerCard.validate_eq_true hcard
  have hpoolID : o.poolID = pool.poolID := hin.trans (h.pool poolID pool hpool).1.symm
  have hcardPool : signed.card.poolID = poolID := hnames.pool.trans hin
  have henrollment : (s.statusOf pool poolID).enrollmentByID o.workerEnrollmentID = some e := by
    rw [← hid] at he
    rw [← hnames.enrollment, ← hid]
    exact h.enrollmentByID he (hsame.trans hcardPool)
  have hfound : (s.statusOf pool poolID).cardByID o.workerCardID = some signed.card := by
    rw [← hcardID] at hsigned ⊢
    exact h.cardByID hsigned hcardPool
  simp only [Status.validOffering, Bool.and_eq_true, beq_iff_eq, hfound, henrollment]
  exact ⟨⟨⟨hvalid, hpoolID⟩, rfl⟩, ⟨hnames.enrollment, hnames.revision⟩, hnames.digest⟩

/-- A store whose records fit together passes `Status.Validate` for each of its pools. -/
theorem MemoryStore.Readable.validate_statusOf : (s.statusOf pool poolID).validate c = true := by
  simp only [Status.validate, Bool.and_eq_true, List.all_eq_true]
  refine ⟨⟨⟨⟨⟨⟨⟨rfl, (h.pool poolID pool hpool).2⟩, ?_⟩, ?_⟩, ?_⟩, ?_⟩, ?_⟩, ?_⟩
  · exact fun e he => h.validEnrollment hpool he
  · exact ordered_gather fun id x hx => (h.enrollment id x hx).1
  · exact fun signed hsigned => h.validCard hpool hsigned
  · exact ordered_gather fun id x hx => (h.card id x hx).1
  · exact fun o ho => h.validOffering hpool ho
  · exact ordered_gather fun id x hx => (h.offering id x hx).1

theorem MemoryStore.Readable.getPoolStatus_eq :
    s.getPoolStatus c poolID = .ok (s.statusOf pool poolID) := by
  obtain ⟨hid, hvalid⟩ := h.pool poolID pool hpool
  have hnil : (poolID == uuidNil) = false := by
    simp only [Pool.validate, Bool.and_eq_true] at hvalid
    rw [← hid]
    simpa using hvalid.1.1.1.1.1.1.2
  have hstatus : (!(s.statusOf pool poolID).validate c) = false := by
    rw [h.validate_statusOf hpool]
    rfl
  apply bind_eq_ok.mpr ⟨(), refuse_eq_ok.mpr hnil, ?_⟩
  apply bind_eq_ok.mpr ⟨pool, required_eq_ok.mpr hpool, ?_⟩
  exact bind_eq_ok.mpr ⟨(), refuse_eq_ok.mpr hstatus, rfl⟩

end Status

/-- **The status of every pool is readable** after every run whose accepted requests leave the
enrollments of stored cards and the cards of stored offerings alone. -/
theorem getPoolStatus_of_run (c : Suite) (ops : List Operation)
    (hops : Along (Operation.apply c)
      (fun s op => ∀ s', op.request c s = .ok s' → op.KeepsRecords s)
      newMemoryStore ops)
    (poolID : UUID) (pool : Pool)
    (hpool : (run (Operation.apply c) newMemoryStore ops).pools.get? poolID = some pool) :
    ∃ status, (run (Operation.apply c) newMemoryStore ops).getPoolStatus c poolID = .ok status ∧
      status.pool = pool ∧ status.validate c = true := by
  have h : (run (Operation.apply c) newMemoryStore ops).Readable c :=
    invariant (readable_newMemoryStore c) (fun s op h hkeeps => op.apply_readable h hkeeps) hops
  exact ⟨_, h.getPoolStatus_eq hpool, rfl, h.validate_statusOf hpool⟩

def samplePool : Pool where
  version := 2
  poolID := 1
  ownerAuthorityID := 4
  authorityRevision := 1
  authorityManifestDigest := sampleDigest 0
  displayName := [80]
  enabled := true
  revision := 1
  createdAtMilliseconds := 0
  updatedAtMilliseconds := 0

/-- A pool with an enrolled Worker, its card and an offering for the card. -/
def sampleOperations : List Operation :=
  [.createPool samplePool, .putWorkerEnrollment 0 sampleEnrollment, .putWorkerCard 0 (sampleCard 1),
    .putOffering 0 sampleOffering]

/-- The store they leave. -/
def sampleStore : MemoryStore := run (Operation.apply sampleSuite) newMemoryStore sampleOperations

/-- The enrollment of the card, updated with its key. -/
def sampleUpdate : Operation := .putWorkerEnrollment 1 { sampleEnrollment with revision := 2 }

/-- The samples are accepted one by one. Only the update comes after a record it has to fit, and a
second revision of the card, which would not fit, is refused for its revision. -/
theorem sampleOperations_keepRecords :
    Along (Operation.apply sampleSuite)
      (fun s op => ∀ s', op.request sampleSuite s = .ok s' → op.KeepsRecords s) newMemoryStore
      (sampleOperations ++ [sampleUpdate, .putWorkerCard 0 (sampleCard 2)]) := by
  have hcards : (run (Operation.apply sampleSuite) newMemoryStore
      (sampleOperations.take 1)).cards.pairs = [] := by
    decide +kernel
  have hofferings : (run (Operation.apply sampleSuite) newMemoryStore
      (sampleOperations.take 2)).offerings.pairs = [] := by
    decide +kernel
  have henrolled : sampleStore.enrollments.get? sampleEnrollment.enrollmentID =
      some sampleEnrollment := by
    decide +kernel
  have hrefused : (Operation.request sampleSuite (sampleUpdate.apply sampleSuite sampleStore)
      (.putWorkerCard 0 (sampleCard 2))).isOk = false := by
    decide +kernel
  refine ⟨fun _ _ => trivial, fun _ _ id signed hsigned => ?_, fun _ _ id o ho => ?_,
    fun _ _ => trivial, fun _ _ _ _ _ _ => ⟨rfl, fun current hcurrent => ?_⟩, fun s' hs' => ?_,
      trivial⟩
  · cases hcards ▸ mem_pairs.mpr hsigned
  · cases hofferings ▸ mem_pairs.mpr ho
  · obtain rfl := Option.some.inj (henrolled.symm.trans hcurrent)
    exact ⟨rfl, rfl⟩
  · exact absurd (hrefused.symm.trans (congrArg Except.isOk hs')) Bool.false_ne_true

theorem getPoolStatus_sample :
    ∃ status, (sampleUpdate.apply sampleSuite sampleStore).getPoolStatus sampleSuite 1 = .ok status ∧
      status.pool = samplePool ∧ status.validate sampleSuite = true :=
  getPoolStatus_of_run sampleSuite _ sampleOperations_keepRecords 1 samplePool (by decide +kernel)

/-- A second revision of the card. -/
def sampleNewCard : Operation := .putWorkerCard 1 (sampleCard 2)

/-- The enrollment, switched off. -/
def sampleSwitchOff : Operation :=
  .putWorkerEnrollment 1 { sampleEnrollment with enabled := false, revision := 2 }

/-- Both are accepted, and either of them leaves a pool whose status is refused. -/
theorem status_refused_after_updates : (sampleNewCard.request sampleSuite sampleStore).isOk = true ∧
    (sampleNewCard.apply sampleSuite sampleStore).pools.get? 1 = some samplePool ∧
    (sampleNewCard.apply sampleSuite sampleStore).getPoolStatus sampleSuite 1 = .error .invalid ∧
    (sampleSwitchOff.request sampleSuite sampleStore).isOk = true ∧
    (sampleSwitchOff.apply sampleSuite sampleStore).pools.get? 1 = some samplePool ∧
    (sampleSwitchOff.apply sampleSuite sampleStore).getPoolStatus sampleSuite 1 = .error .invalid := by
  decide +kernel

end FacetsNode.ComputePool
