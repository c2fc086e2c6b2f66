import FacetsNode.Storage.Ledger

/-!
# The life of a reservation

What one call can do to the ledger, said once (`Outcome`, `Expirations`), and from it what holds
along every run: a reservation is created once, is closed at most once, and then stays as it is;
every effect is logged under an operation identifier that was new, and a call under a logged
identifier has none.

The two writers that close reservations — a service's decision and the expiry sweep — check
different things. The sweep does not compare the instant with the record's last update; it need not,
because an open reservation was last updated before it expires (`Sound.open_`).
-/

namespace FacetsNode.Storage

open Attempt Session
open Relay (UUID uuidNil uuidString)

/-! ## What a call can do -/

/-- The log entry reports the record an operation left. -/
structure OperationRow.Reports (row : OperationRow) (r : ReservationRecord) : Prop where
  reservationID : row.reservationID = r.reservationID
  revision : row.resultRevision = r.revision
  state : row.resultState = r.state

/-- The record is closed at an instant: committed before its expiry, released, or expired after
it. -/
structure Closes (observedAt : Int) (current next : ReservationRecord) : Prop where
  wasOpen : current.state = .reserved
  result : ∃ state, next = { current with
    state
    revision := current.revision + 1
    updatedAtMilliseconds := observedAt }
  closed : next.state ≠ .reserved
  beforeExpiry : next.state = .committed → observedAt < current.expiresAtMilliseconds
  afterExpiry : next.state = .expired → current.expiresAtMilliseconds ≤ observedAt
  notBefore : current.updatedAtMilliseconds ≤ observedAt ∨
    current.expiresAtMilliseconds ≤ observedAt

/-- One effect: a reservation is created or closed, and the operation is logged. -/
inductive Write (db : Database) (operationID : UUID) (r : ReservationRecord) : Database → Prop
  | create {request token row pool} (hnew : newReservationRecord request token = .ok r)
      (habsent : db.reservations.get? r.reservationID = none)
      (hfresh : db.operations.get? operationID = none) (hrow : row.Reports r) :
      Write db operationID r
        ⟨pool, db.reservations.set r.reservationID r, db.operations.set operationID row⟩
  | close {id observedAt current row pool} (hcurrent : db.reservations.get? id = some current)
      (hid : r.reservationID = id) (hcloses : Closes observedAt current r)
      (hfresh : db.operations.get? operationID = none) (hrow : row.Reports r) :
      Write db operationID r ⟨pool, db.reservations.set id r, db.operations.set operationID row⟩

/-- The reply to a commit that took effect, which may be lost. -/
def Replies {α : Type} (a : α) (res : Except StorageError α) : Prop :=
  res = .ok a ∨ res = .error .unavailable

/-- What a call of `Reserve` or `Decide` under an operation identifier does. -/
inductive Outcome (db : Database) (operationID : UUID) :
    Except StorageError ReservationRecord → Database → Prop
  | refused {e} : Outcome db operationID (.error e) db
  | repeated {row r} (hrow : db.operations.get? operationID = some row)
      (hr : db.reservations.get? row.reservationID = some r)
      (hrevision : r.revision = row.resultRevision) (hstate : r.state = row.resultState) :
      Outcome db operationID (.ok r) db
  | written {res r db'} (hreply : Replies r res) (hwrite : Write db operationID r db') :
      Outcome db operationID res db'

/-! ## Contracts -/

theorem newReservationRecord_eq_ok {request token r}
    (h : newReservationRecord request token = .ok r) :
    request.validate = .ok () ∧ validReservationToken token = true ∧
      r = { protocolVersion := authorityProtocolVersion
            poolID := request.poolID
            reservationID := request.reservationID
            service := request.service
            byteCeiling := request.byteCeiling
            expiresAtMilliseconds := request.expiresAtMilliseconds
            state := .reserved
            revision := 1
            tokenDigest := reservationTokenDigest token
            updatedAtMilliseconds := request.issuedAtMilliseconds } := by
  unfold newReservationRecord at h
  split at h
  · cases h
  · rename_i hchecks
    rw [not_or, not_not, Bool.not_eq_false] at hchecks
    exact ⟨hchecks.1, hchecks.2, (Except.ok.inj h).symm⟩

theorem ReservationRequest.expires_of_validate {request : ReservationRequest}
    (h : request.validate = .ok ()) :
    request.issuedAtMilliseconds < request.expiresAtMilliseconds := by
  unfold validate at h
  split at h
  · cases h
  · rename_i hchecks
    simp only [not_or] at hchecks
    omega

/-- The new state, where a decision may be taken. -/
theorem outcome_eq_ok {kind : ReservationDecisionKind} {observedAt expiresAt : Int}
    {state : ReservationState} (h : kind.outcome observedAt expiresAt = .ok state) :
    state ≠ .reserved ∧ (state = .committed → observedAt < expiresAt) ∧
      (state = .expired → expiresAt ≤ observedAt) := by
  cases kind with
  | commit =>
    simp only [ReservationDecisionKind.outcome] at h
    split at h
    · cases h
    · rename_i hlt
      cases h
      exact ⟨by decide, fun _ => not_le.mp hlt, by rintro ⟨⟩⟩
  | release =>
    cases h
    exact ⟨by decide, by rintro ⟨⟩, by rintro ⟨⟩⟩
  | expire =>
    simp only [ReservationDecisionKind.outcome] at h
    split at h
    · cases h
    · rename_i hle
      cases h
      exact ⟨by decide, by rintro ⟨⟩, fun _ => not_lt.mp hle⟩

theorem ReservationDecision.closes_of_apply {decision : ReservationDecision}
    {current next : ReservationRecord} (h : decision.apply current = .ok next) :
    Closes decision.observedAtMilliseconds current next ∧
      next.reservationID = decision.reservationID := by
  unfold apply at h
  split at h
  · cases h
  · rename_i hchecks
    simp only [not_or, not_not, not_lt] at hchecks
    obtain ⟨-, -, hid, -, -, hupdated, -, -, hopen, -⟩ := hchecks
    obtain ⟨state, houtcome, hnext⟩ := bind_eq_ok.mp h
    cases hnext
    obtain ⟨hclosed, hbefore, hafter⟩ := outcome_eq_ok houtcome
    exact ⟨⟨hopen, ⟨state, rfl⟩, hclosed, hbefore, hafter, .inl hupdated⟩, hid.symm⟩

/-! ## Statements -/

section
variable {α : Type} {s w : Database} {Q : Except StorageError α → Database → Database → Prop}

variable {f : Unit → Attempt (Session Database) StorageError α}

theorem settles_begin {l : Ledger} (herr : ∀ e, Q (.error e) s w) (hok : Settles (f ()) s w Q) :
    Settles (l.begin >>= f) s w Q := by
  refine settles_bind (settles_rejectIf (fun _ => herr _) fun _ => ?_)
  refine settles_reach (herr _) (settles_query_last (herr _) ?_)
  split
  · exact hok
  · exact herr _

theorem settles_findReservation {id}
    {f : Option ReservationRecord → Attempt (Session Database) StorageError α}
    (herr : ∀ e, Q (.error e) s w) (hnone : w.reservations.get? id = none → Settles (f none) s w Q)
    (hsome : ∀ r, w.reservations.get? id = some r → r.validate = .ok () →
      Settles (f (some r)) s w Q) : Settles (findReservation id >>= f) s w Q := by
  refine settles_bind (settles_rejectIf (fun _ => herr _) fun _ => ?_)
  refine settles_query_last (herr _) ?_
  cases hget : w.reservations.get? id with
  | none => exact hnone hget
  | some r =>
    by_cases hvalid : r.validate = .ok ()
    · simpa only [hvalid, ne_eq, not_true_eq_false, if_false] using hsome r hget hvalid
    · simpa only [hvalid, ne_eq, not_false_eq_true, if_true] using herr _

theorem settles_loadReservation {id}
    {Q : Except StorageError ReservationRecord → Database → Database → Prop}
    (herr : ∀ e, Q (.error e) s w)
    (hsome : ∀ r, w.reservations.get? id = some r → r.validate = .ok () → Q (.ok r) s w) :
    Settles (loadReservation id) s w Q := by
  refine settles_findReservation herr (fun _ => settles_fail (herr _)) ?_
  exact fun r hget hvalid => settles_pure (hsome r hget hvalid)

theorem settles_loadOperationResult {operationID reservationID kind requestDigest tokenDigest}
    {f : Option ReservationRecord → Attempt (Session Database) StorageError α}
    (herr : ∀ e, Q (.error e) s w)
    (hnone : w.operations.get? operationID = none → Settles (f none) s w Q)
    (hsome : ∀ row r, w.operations.get? operationID = some row →
      w.reservations.get? row.reservationID = some r → r.revision = row.resultRevision →
      r.state = row.resultState → Settles (f (some r)) s w Q) :
    Settles (loadOperationResult operationID reservationID kind requestDigest tokenDigest >>= f)
      s w Q := by
  refine settles_bind (settles_query (herr _) (fun _ h => by cases h) fun found hfound => ?_)
  cases hfound
  cases hrow : w.operations.get? operationID with
  | none => exact settles_pure (hnone hrow)
  | some row =>
    refine settles_rejectIf (fun _ => herr _) fun hsame => ?_
    simp only [not_or, not_not] at hsame
    refine settles_bind (settles_loadReservation herr fun r hr _ => ?_)
    refine settles_rejectIf (fun _ => herr _) fun hresult => settles_pure ?_
    simp only [not_or, not_not] at hresult
    exact hsome row r hrow (hsame.1 ▸ hr) hresult.1 hresult.2.1

theorem settles_insertOperation {operationID reservationID kind requestDigest} {revision : Nat} {r}
    (herr : ∀ e, Q (.error e) s w)
    (hok : ∀ row : OperationRow, w.operations.get? operationID = none →
      row.reservationID = reservationID → row.resultRevision = r.revision →
      row.resultState = r.state →
      Settles (f ()) s { w with operations := w.operations.set operationID row } Q) :
    Settles (insertOperation operationID reservationID kind requestDigest revision r >>= f) s w Q := by
  refine settles_exec (herr _) (fun _ _ => herr _) fun w' hw' => ?_
  split at hw'
  · cases hw'
  · rename_i hchecks
    cases hw'
    rw [not_or, Bool.not_eq_true, Option.isSome_eq_false_iff, Option.isNone_iff_eq_none] at hchecks
    exact hok _ hchecks.1 rfl rfl rfl

theorem settles_incrementLedgerRevision (herr : ∀ e, Q (.error e) s w)
    (hok : ∀ pool, Settles (f ()) s { w with pool } Q) :
    Settles (incrementLedgerRevision >>= f) s w Q := by
  refine settles_exec (herr _) (fun _ _ => herr _) fun w' hw' => ?_
  split at hw'
  · cases hw'
    exact hok _
  · cases hw'

/-- Capacity that was admitted: the sum outstanding fits in a machine integer, and the check
passes. -/
theorem settles_checkCapacity {snapshot : Option Snapshot} {additional}
    (herr : ∀ e, Q (.error e) s w) (hok : ∀ capacity outstanding, snapshot = some capacity →
      outstanding.toInt = w.promisedBytes → check capacity outstanding additional = .ok () →
      Settles (f ()) s w Q) : Settles (Ledger.checkCapacity snapshot additional >>= f) s w Q := by
  refine settles_bind (settles_query (herr _) (fun _ _ => herr _) fun outstanding hsum => ?_)
  have hexact : outstanding.toInt = w.promisedBytes := by
    split at hsum
    · cases hsum
    · rename_i hfits
      rw [not_or, not_lt, not_le] at hfits
      split at hsum
      · cases hsum
      · cases hsum
        exact Int64.toInt_ofInt_of_le hfits.1 hfits.2
  cases snapshot with
  | none => exact settles_fail (herr _)
  | some capacity =>
    refine settles_ofExcept_last ?_
    cases hcheck : check capacity outstanding additional with
    | error e => exact herr e
    | ok u => exact hok capacity outstanding rfl hexact hcheck

end

/-! ## Calls -/

section
variable {l : Ledger} {db : Database} {fault : Option Nat}

/-- A reservation that goes through: what the capacity was, and what is written. -/
structure Admitted (db : Database) (request : ReservationRequest) (token : GoString)
    (snapshot : Option Snapshot) (r : ReservationRecord) (db' : Database) : Prop where
  record : newReservationRecord request token = .ok r
  absent : db.reservations.get? r.reservationID = none
  fresh : db.operations.get? request.operationID = none
  capacity : ∃ capacity outstanding, snapshot = some capacity ∧
    outstanding.toInt = db.promisedBytes ∧ check capacity outstanding request.byteCeiling = .ok ()
  written : ∃ (row : OperationRow) (pool : PoolRow), row.Reports r ∧
    db' = ⟨pool, db.reservations.set r.reservationID r, db.operations.set request.operationID row⟩

/-- What a call of `Reserve` does. -/
inductive Reserved (db : Database) (request : ReservationRequest) (token : GoString)
    (snapshot : Option Snapshot) : Except StorageError ReservationRecord → Database → Prop
  | refused {e} : Reserved db request token snapshot (.error e) db
  | repeated {row r} (hrow : db.operations.get? request.operationID = some row)
      (hr : db.reservations.get? row.reservationID = some r)
      (hrevision : r.revision = row.resultRevision) (hstate : r.state = row.resultState) :
      Reserved db request token snapshot (.ok r) db
  | admitted {res r db'} (hreply : Replies r res) (h : Admitted db request token snapshot r db') :
      Reserved db request token snapshot res db'

theorem Ledger.reserve_reserved (request : ReservationRequest) (token : GoString)
    (snapshot : Option Snapshot) :
    Ends (l.reserve request token snapshot fault) db (Reserved db request token snapshot) := by
  refine ends_reject .refused fun _ => ?_
  cases hnew : newReservationRecord request token with
  | error e => exact ends_fail .refused
  | ok proposed =>
    have hid : proposed.reservationID = request.reservationID := by
      rw [(newReservationRecord_eq_ok hnew).2.2]
    refine ends_transact (settles_begin (fun _ => .refused) ?_)
    refine settles_loadOperationResult (fun _ => .refused) (fun hfresh => ?_) ?_
    · refine settles_findReservation (fun _ => .refused) (fun habsent => ?_)
        fun _ _ _ => settles_fail .refused
      refine settles_checkCapacity (fun _ =>
        .refused) fun capacity outstanding hsnapshot hsum hcheck => ?_
      refine settles_exec .refused (fun _ _ => .refused) fun w hw => ?_
      split at hw
      · cases hw
      · cases hw
        refine settles_insertOperation (fun _ => .refused) fun row _ hrow hrevision hstate => ?_
        refine settles_incrementLedgerRevision (fun _ => .refused) fun pool => ?_
        have hadmitted : Admitted db request token snapshot proposed ⟨pool, _, _⟩ :=
          { record := hnew
            absent := hid ▸ habsent
            fresh := hfresh
            capacity := ⟨capacity, outstanding, hsnapshot, hsum, hcheck⟩
            written := ⟨row, pool, ⟨hrow, hrevision, hstate⟩, rfl⟩ }
        exact settles_commit .refused (.admitted (.inr rfl) hadmitted)
          (settles_pure (.admitted (.inl rfl) hadmitted))
    · intro row r hrow hr hrevision hstate
      exact settles_commit .refused .refused (settles_pure (.repeated hrow hr hrevision hstate))

theorem Ledger.reserve_outcome (request : ReservationRequest) (token : GoString)
    (snapshot : Option Snapshot) :
    Ends (l.reserve request token snapshot fault) db (Outcome db request.operationID) := by
  refine (l.reserve_reserved request token snapshot).mono fun r db' h => ?_
  cases h with
  | refused => exact .refused
  | repeated hrow hr hrevision hstate => exact .repeated hrow hr hrevision hstate
  | admitted hreply h =>
    obtain ⟨row, pool, hrow, rfl⟩ := h.written
    exact .written hreply (.create h.record h.absent h.fresh hrow)

theorem Ledger.decide_outcome (decision : ReservationDecision) :
    Ends (l.decide decision fault) db (Outcome db decision.operationID) := by
  unfold Ledger.decide
  cases digestDecision decision with
  | error e => exact ends_fail .refused
  | ok digests =>
    refine ends_transact (settles_begin (fun _ => .refused) ?_)
    refine settles_loadOperationResult (fun _ => .refused) (fun hfresh => ?_) ?_
    · refine settles_findReservation (fun _ => .refused) (fun _ => settles_fail .refused) ?_
      intro current hcurrent _
      dsimp only
      cases happly : decision.apply current with
      | error e => exact settles_fail .refused
      | ok next =>
        obtain ⟨hcloses, hid⟩ := decision.closes_of_apply happly
        refine settles_exec .refused (fun _ _ => .refused) fun w hw => ?_
        rw [hid, hcurrent] at hw
        simp only [ne_eq, not_true_eq_false, if_false, Except.ok.injEq] at hw
        -- the row that is updated is the record that was loaded
        have hnext : { current with
            state := next.state
            revision := next.revision
            updatedAtMilliseconds := next.updatedAtMilliseconds } = next := by
          obtain ⟨state, rfl⟩ := hcloses.result
          rfl
        rw [hnext] at hw
        subst hw
        refine settles_insertOperation (fun _ => .refused) ?_
        intro row _ hrow hrevision hstate
        refine settles_incrementLedgerRevision (fun _ => .refused) fun pool => ?_
        have hwrite : Write db decision.operationID next ⟨pool, _, _⟩ :=
          .close hcurrent hid hcloses hfresh ⟨hrow, hrevision, hstate⟩
        exact settles_commit .refused (.written (.inr rfl) hwrite)
          (settles_pure (.written (.inl rfl) hwrite))
    · intro row r hrow hr hrevision hstate
      exact settles_commit .refused .refused (settles_pure (.repeated hrow hr hrevision hstate))

theorem Ledger.recheck_unchanged (id : UUID) (revision : Nat) (token : GoString) (observedAt : Int)
    (snapshot : Option Snapshot) :
    Ends (l.recheck id revision token observedAt snapshot fault) db (fun _ db' => db' = db) := by
  refine ends_reject rfl fun _ => ends_transact (settles_begin (fun _ => rfl) ?_)
  refine settles_findReservation (fun _ => rfl) (fun _ => settles_fail rfl) fun r _ _ => ?_
  refine settles_rejectIf (fun _ => rfl) fun _ => ?_
  refine settles_checkCapacity (fun _ => rfl) fun _ _ _ _ _ => ?_
  exact settles_commit_last rfl rfl rfl

/-! ## The sweep -/

/-- The sweep expires reservations that are due, one after the other, each under one of the
identifiers it is given. -/
inductive Expirations (observedAt : Int) (newID : Nat → UUID) :
    Database → List ReservationRecord → Database → Prop
  | nil {db pool} : Expirations observedAt newID db [] { db with pool }
  | cons {db id operationID current row results db'}
      (hcurrent : db.reservations.get? id = some current) (hvalid : current.validate = .ok ())
      (hopen : current.state = .reserved) (hdue : current.expiresAtMilliseconds ≤ observedAt)
      (hnew : ∃ n, operationID = newID n) (hfresh : db.operations.get? operationID = none)
      (hid : row.reservationID = id) (hrevision : row.resultRevision = current.revision + 1)
      (hstate : row.resultState = .expired)
      (hrest : Expirations observedAt newID
        { db with
          reservations := db.reservations.set id (Ledger.expiredRecord current observedAt)
          operations := db.operations.set operationID row } results db') :
      Expirations observedAt newID db (Ledger.expiredRecord current observedAt :: results) db'

theorem Ledger.expireOne_settles {observedAt : Int} {id operationID s w}
    {Q : Except StorageError ReservationRecord → Database → Database → Prop}
    (herr : ∀ e w', Q (.error e) s w')
    (hok : ∀ current row, w.reservations.get? id = some current → current.validate = .ok () →
      current.state = .reserved → current.expiresAtMilliseconds ≤ observedAt →
      w.operations.get? operationID = none → row.reservationID = id →
      row.resultRevision = current.revision + 1 → row.resultState = .expired →
      Q (.ok (expiredRecord current observedAt)) s { w with
          reservations := w.reservations.set id (expiredRecord current observedAt)
          operations := w.operations.set operationID row }) :
    Settles (expireOne observedAt id operationID) s w Q := by
  refine settles_bind (settles_failingWith (settles_loadReservation (fun _ => herr _ _) ?_))
  intro current hcurrent hvalid
  refine settles_rejectIf (fun _ => herr _ _) fun hchecks => ?_
  rw [not_or, not_not, not_lt] at hchecks
  refine settles_exec (herr _ _) (fun _ _ => herr _ _) fun w' hw' => ?_
  rw [hcurrent] at hw'
  simp only [hchecks.1, ne_eq, not_true_eq_false, or_self, if_false, Except.ok.injEq] at hw'
  subst hw'
  refine settles_insertOperation (fun _ => herr _ _) fun row hfresh hid hrevision hstate => ?_
  exact settles_pure (hok current row hcurrent hvalid hchecks.1 hchecks.2 hfresh hid hrevision hstate)

/-- The loop of the sweep: whatever it leaves behind is reached by expirations. -/
theorem Ledger.expireAll_settles {observedAt : Int} {newID : Nat → UUID} {ids : List UUID} {n : Nat}
    {s w} {Q : Except StorageError (List ReservationRecord) → Database → Database → Prop}
    (herr : ∀ e w', Q (.error e) s w')
    (hok : ∀ results w', (∀ pool, Expirations observedAt newID w results { w' with pool }) →
      Q (.ok results) s w') :
    Settles (expireAll observedAt newID n ids) s w Q := by
  induction ids generalizing n w Q with
  | nil => exact settles_pure (hok [] w fun pool => .nil)
  | cons id rest ih =>
    refine settles_bind (expireOne_settles (fun e w' => herr e w') ?_)
    intro current row hcurrent hvalid hopen hdue hfresh hid hrevision hstate
    refine settles_bind (ih (fun e w' => herr e w') fun results w' hrest => ?_)
    exact settles_pure (hok _ _ fun pool =>
      .cons hcurrent hvalid hopen hdue ⟨n, rfl⟩ hfresh hid hrevision hstate (hrest pool))

theorem Ledger.reconcileExpired_expirations (observedAt limit : Int) (newID : Nat → UUID) :
    Ends (l.reconcileExpired observedAt limit newID fault) db (fun r db' =>
      (∃ e, r = .error e) ∧ db' = db ∨
        ∃ results, Replies results r ∧ Expirations observedAt newID db results db') := by
  have hrefused {e} : (∃ e', (.error e : Except StorageError
    (List ReservationRecord)) = .error e') ∧
    db = db := ⟨⟨e, rfl⟩, rfl⟩
  refine ends_reject (.inl hrefused) fun _ =>
    ends_transact (settles_begin (fun _ => .inl hrefused) ?_)
  refine settles_query (.inl hrefused) (fun _ h => by cases h) fun ids _ => ?_
  refine settles_bind (expireAll_settles (fun _ _ => .inl hrefused) fun results w' hresults => ?_)
  dsimp only
  by_cases hnil : results = []
  · rw [if_neg (not_not.mpr hnil)]
    exact settles_commit (.inl hrefused) (.inr ⟨results, .inr rfl, hresults w'.pool⟩)
      (settles_pure (.inr ⟨results, .inl rfl, hresults w'.pool⟩))
  · rw [if_pos hnil]
    refine settles_incrementLedgerRevision (fun _ => .inl hrefused) fun pool => ?_
    exact settles_commit (.inl hrefused) (.inr ⟨results, .inr rfl, hresults pool⟩)
      (settles_pure (.inr ⟨results, .inl rfl, hresults pool⟩))

end

/-! ## Invariants -/

/-- What holds of every stored reservation. -/
structure Sound (id : UUID) (r : ReservationRecord) : Prop where
  key : r.reservationID = id
  open_ : r.state = .reserved → r.revision = 1 ∧ r.updatedAtMilliseconds < r.expiresAtMilliseconds
  token : ∃ token, validReservationToken token = true ∧ reservationTokenDigest token = r.tokenDigest

def Database.Sound (db : Database) : Prop :=
  ∀ id r, db.reservations.get? id = some r → Storage.Sound id r

/-- What can become of a reservation: nothing, its creation, or its one transition. -/
inductive Lifecycle : Option ReservationRecord → Option ReservationRecord → Prop
  | absent : Lifecycle none none
  | created {r : ReservationRecord} (hrevision : r.revision = 1) (hstate : r.state = .reserved) :
      Lifecycle none (some r)
  | kept {r : ReservationRecord} : Lifecycle (some r) (some r)
  | closed {r : ReservationRecord} {state : ReservationState} {observedAt : Int}
      (hopen : r.state = .reserved) (hrevision : r.revision = 1) (hclosed : state ≠ .reserved)
      (hcommit : state = .committed → observedAt < r.expiresAtMilliseconds)
      (hexpire : state = .expired → r.expiresAtMilliseconds ≤ observedAt)
      (hupdated : r.updatedAtMilliseconds ≤ observedAt) :
      Lifecycle (some r)
        (some { r with state, revision := 2, updatedAtMilliseconds := observedAt })

/-- A closed reservation stays as it is. -/
theorem Lifecycle.eq_of_closed {r} {after : Option ReservationRecord}
    (h : Lifecycle (some r) after) (hclosed : r.state ≠ .reserved) : after = some r := by
  cases h with
  | kept => rfl
  | closed hopen => exact absurd hopen hclosed

theorem Lifecycle.trans {r} {between after : Option ReservationRecord}
    (h : Lifecycle (some r) between) (h' : Lifecycle between after) :
    Lifecycle (some r) after := by
  cases h with
  | kept => exact h'
  | closed hopen hrevision hclosed hcommit hexpire hupdated =>
    rw [h'.eq_of_closed hclosed]
    exact .closed hopen hrevision hclosed hcommit hexpire hupdated

/-- The operation may log an effect under this identifier. -/
def Operation.Names (operationID : UUID) : Operation → Prop
  | .reserve _ request .. => operationID = request.operationID
  | .decide _ decision _ => operationID = decision.operationID
  | .recheck .. => False
  | .reconcileExpired _ _ _ newID _ => ∃ n, operationID = newID n

/-- A change of the reservation `id`, logged under an identifier that was new. -/
structure Labelled (names : UUID → Prop) (db db' : Database) (id : UUID) : Prop where
  label : ∃ operationID row r, names operationID ∧ db.operations.get? operationID = none ∧
    db'.operations.get? operationID = some row ∧ row.reservationID = id ∧
    db'.reservations.get? id = some r ∧ row.resultRevision = r.revision ∧ row.resultState = r.state

/-- What a call does to a sound database. -/
structure Moved (names : UUID → Prop) (db db' : Database) : Prop where
  sound : db'.Sound
  lifecycle : ∀ id, Lifecycle (db.reservations.get? id) (db'.reservations.get? id)
  log : db.operations.Extends db'.operations
  labelled : ∀ id, db'.reservations.get? id ≠ db.reservations.get? id → Labelled names db db' id

open GoMap

section
variable {names : UUID → Prop} {db db' : Database} {operationID : UUID} {r : ReservationRecord}

theorem Moved.refl (hdb : db.Sound) (pool : PoolRow) : Moved names db { db with pool } where
  sound := hdb
  lifecycle id := by
    show Lifecycle (db.reservations.get? id) (db.reservations.get? id)
    cases db.reservations.get? id with
    | none => exact .absent
    | some r => exact .kept
  log := .refl _
  labelled id h := absurd rfl h

theorem sound_of_newReservationRecord {request : ReservationRequest} {token : GoString}
    (h : newReservationRecord request token = .ok r) :
    Storage.Sound r.reservationID r ∧ r.revision = 1 ∧ r.state = .reserved := by
  obtain ⟨hvalid, htoken, rfl⟩ := newReservationRecord_eq_ok h
  exact ⟨⟨rfl, fun _ => ⟨rfl, request.expires_of_validate hvalid⟩, token, htoken, rfl⟩, rfl, rfl⟩

/-- Closing a sound reservation is its one transition. The instant is not before the last update: a
decision checks it, and what is past its expiry is past its last update. -/
theorem Sound.lifecycle {id} {observedAt : Int} {current}
    (h : Storage.Sound id current) (hcloses : Closes observedAt current r) :
    Lifecycle (some current) (some r) ∧ Storage.Sound id r := by
  obtain ⟨hrevision, hupdated⟩ := h.open_ hcloses.wasOpen
  obtain ⟨state, hr⟩ := hcloses.result
  have hle : current.updatedAtMilliseconds ≤ observedAt := by
    obtain hle | hle := hcloses.notBefore
    · exact hle
    · exact (hupdated.trans_le hle).le
  have hclosed : state ≠ .reserved := by simpa only [hr] using hcloses.closed
  have hcommit : state = .committed → observedAt < current.expiresAtMilliseconds := by
    simpa only [hr] using hcloses.beforeExpiry
  have hexpire : state = .expired → current.expiresAtMilliseconds ≤ observedAt := by
    simpa only [hr] using hcloses.afterExpiry
  subst hr
  rw [hrevision]
  exact ⟨.closed hcloses.wasOpen hrevision hclosed hcommit hexpire hle,
    h.key, fun hopen => absurd hopen hclosed, h.token⟩

theorem Write.moved (hdb : db.Sound) (hnames : names operationID)
    (h : Write db operationID r db') : Moved names db db' := by
  -- in both cases one reservation gets a new value and one log entry is added
  have key : ∀ {id : UUID} {row : OperationRow} {pool : PoolRow},
      db.operations.get? operationID = none → row.Reports r → r.reservationID = id →
      Lifecycle (db.reservations.get? id) (some r) → Storage.Sound id r →
      Moved names db ⟨pool, db.reservations.set id r, db.operations.set operationID row⟩ := by
    intro id row pool hfresh hrow hid hlifecycle hsound
    refine ⟨?_, ?_, extends_set row hfresh, ?_⟩
    · intro id' r' hget
      by_cases heq : id' = id
      · subst heq
        rw [get?_set_self, Option.some.injEq] at hget
        exact hget ▸ hsound
      · rw [get?_set_ne _ _ heq] at hget
        exact hdb id' r' hget
    · intro id'
      by_cases heq : id' = id
      · subst heq
        rw [get?_set_self]
        exact hlifecycle
      · rw [get?_set_ne _ _ heq]
        have hsame : Moved names db { db with pool := db.pool } := .refl hdb db.pool
        exact hsame.lifecycle id'
    · intro id' hchanged
      by_cases heq : id' = id
      · subst heq
        exact ⟨operationID, row, r, hnames, hfresh, get?_set_self _ _ _,
          hrow.reservationID.trans hid, get?_set_self _ _ _, hrow.revision, hrow.state⟩
      · exact absurd (get?_set_ne _ _ heq) hchanged
  cases h with
  | create hnew habsent hfresh hrow =>
    obtain ⟨hsound, hrevision, hstate⟩ := sound_of_newReservationRecord hnew
    exact key hfresh hrow rfl (habsent ▸ .created hrevision hstate) hsound
  | close hcurrent hid hcloses hfresh hrow =>
    obtain ⟨hlifecycle, hsound⟩ := (hdb _ _ hcurrent).lifecycle hcloses
    exact key hfresh hrow hid (hcurrent ▸ hlifecycle) hsound

theorem Outcome.moved {res : Except StorageError ReservationRecord} (hdb : db.Sound)
    (hnames : names operationID) (h : Outcome db operationID res db') : Moved names db db' := by
  cases h with
  | refused | repeated => exact .refl hdb db.pool
  | written _ hwrite => exact hwrite.moved hdb hnames

/-- A reservation the sweep changes was open and due, and is now expired. -/
theorem Expirations.entry {observedAt : Int} {newID : Nat → UUID} {results : List ReservationRecord}
    (h : Expirations observedAt newID db results db') (id : UUID) :
    db'.reservations.get? id = db.reservations.get? id ∨
      ∃ current, db.reservations.get? id = some current ∧ current.validate = .ok () ∧
        current.state = .reserved ∧ current.expiresAtMilliseconds ≤ observedAt ∧
        db'.reservations.get? id = some (Ledger.expiredRecord current observedAt) := by
  induction h with
  | nil => exact .inl rfl
  | @cons db id' _ current _ _ db' hcurrent hvalid hopen hdue _ _ _ _ _ _ ih =>
    by_cases heq : id = id'
    · subst heq
      rw [get?_set_self] at ih
      obtain hsame | ⟨next, hnext, -, hreserved, -⟩ := ih
      · exact .inr ⟨current, hcurrent, hvalid, hopen, hdue, hsame⟩
      · -- the reservation is expired already, so no later round takes it
        cases hnext
        cases hreserved
    · rw [get?_set_ne _ _ heq] at ih
      exact ih

theorem Expirations.moved {observedAt : Int} {newID : Nat → UUID} {results : List ReservationRecord}
    (hdb : db.Sound) (h : Expirations observedAt newID db results db') :
    Moved (fun o => ∃ n, o = newID n) db db' := by
  induction h with
  | nil => exact .refl hdb _
  | @cons db id operationID current row results db' hcurrent hvalid hopen hdue hnew hfresh hid
      hrevision hstate hrest ih =>
      have hcloses : Closes observedAt current (Ledger.expiredRecord current observedAt) :=
        ⟨hopen, ⟨.expired, rfl⟩, by rintro ⟨⟩, by rintro ⟨⟩, fun _ => hdue, .inr hdue⟩
      have hkey : (Ledger.expiredRecord current observedAt).reservationID = id :=
        (hdb id current hcurrent).key
      have hreports : row.Reports (Ledger.expiredRecord current observedAt) :=
        ⟨hid.trans hkey.symm, hrevision, hstate⟩
      have hfirst : Moved (fun o => ∃ n, o = newID n) db
          ⟨db.pool, db.reservations.set id (Ledger.expiredRecord current observedAt),
            db.operations.set operationID row⟩ :=
        (Write.close hcurrent hkey hcloses hfresh hreports).moved hdb hnew
      have hlater := ih hfirst.sound
      refine ⟨hlater.sound, ?_, hfirst.log.trans hlater.log, ?_⟩
      · intro id'
        obtain hsame | ⟨next, hnext, -⟩ := Expirations.entry hrest id'
        · rw [hsame]
          exact hfirst.lifecycle id'
        · have hbefore := hfirst.lifecycle id'
          have hafter := hlater.lifecycle id'
          rw [hnext] at hbefore hafter
          cases hget : db.reservations.get? id' with
          | some r =>
            rw [hget] at hbefore
            exact hbefore.trans hafter
          | none =>
            -- the first round creates nothing
            have hne : id' ≠ id := by
              rintro rfl
              rw [hget] at hcurrent
              cases hcurrent
            rw [get?_set_ne _ _ hne, hget] at hnext
            cases hnext
      · intro id' hchanged
        by_cases hsame : db'.reservations.get? id' =
            (db.reservations.set id (Ledger.expiredRecord current observedAt)).get? id'
        · rw [hsame] at hchanged
          obtain ⟨o, row', r, hnames, hfresh', hlogged, hrow⟩ :=
            (hfirst.labelled id' hchanged).label
          exact ⟨o, row', r, hnames, hfresh', hlater.log _ _ hlogged, hsame ▸ hrow⟩
        · obtain ⟨o, row', r, hnames, hfresh', hlogged, hrow⟩ := (hlater.labelled id' hsame).label
          refine ⟨o, row', r, hnames, ?_, hlogged, hrow⟩
          cases hold : db.operations.get? o with
          | none => rfl
          | some old =>
            rw [hfirst.log o old hold] at hfresh'
            cases hfresh'

/-- **Steps.** Every call moves a sound database. -/
theorem Operation.moved (hdb : db.Sound) (op : Operation) :
    Moved (fun o => op.Names o) db (op.apply db) := by
  cases op with
  | reserve l request token snapshot fault =>
    have h : Outcome db request.operationID _
        (l.reserve request token snapshot fault db).2 :=
      l.reserve_outcome request token snapshot
    exact h.moved hdb rfl
  | decide l decision fault =>
    have h : Outcome db decision.operationID _ (l.decide decision fault db).2 :=
      l.decide_outcome decision
    exact h.moved hdb rfl
  | recheck l id revision token observedAt snapshot fault =>
    have hsame : (l.recheck id revision token observedAt snapshot fault db).2 = db :=
      l.recheck_unchanged id revision token observedAt snapshot
    show Moved _ db (l.recheck id revision token observedAt snapshot fault db).2
    rw [hsame]
    exact .refl hdb db.pool
  | reconcileExpired l observedAt limit newID fault =>
    have hends : Ends (l.reconcileExpired observedAt limit newID fault) db
        (fun _ db' => Moved (fun o => ∃ n, o = newID n) db db') := by
      refine (l.reconcileExpired_expirations observedAt limit newID).mono fun res db' h => ?_
      obtain ⟨-, rfl⟩ | ⟨results, -, h⟩ := h
      · exact .refl hdb _
      · exact h.moved hdb
    exact hends

theorem sound_run (hdb : db.Sound) (ops : List Operation) : (run Operation.apply db ops).Sound := by
  induction ops generalizing db with
  | nil => exact hdb
  | cons op ops ih => exact ih (op.moved hdb).sound

theorem Reachable.sound (hdb : Reachable db) : db.Sound := by
  obtain ⟨poolID, authorityID, ops, rfl⟩ := hdb
  refine sound_run ?_ ops
  intro id r hget
  rw [Database.initial, get?_empty] at hget
  cases hget

/-- **Runs.** A reservation makes its one transition or stays, however the run goes on, and the log
keeps every entry. -/
theorem lifecycle_run (hdb : db.Sound) (ops : List Operation) :
    (∀ id r, db.reservations.get? id = some r →
      Lifecycle (some r) ((run Operation.apply db ops).reservations.get? id)) ∧
    db.operations.Extends (run Operation.apply db ops).operations := by
  induction ops generalizing db with
  | nil =>
    refine ⟨fun id r hr => ?_, .refl _⟩
    rw [run_nil, hr]
    exact .kept
  | cons op ops ih =>
    have hmoved := op.moved hdb
    obtain ⟨hlifecycle, hlog⟩ := ih hmoved.sound
    refine ⟨fun id r hr => ?_, hmoved.log.trans hlog⟩
    have hfirst := hmoved.lifecycle id
    rw [hr] at hfirst
    cases hget : (op.apply db).reservations.get? id with
    | none =>
      rw [hget] at hfirst
      cases hfirst
    | some r₁ =>
      rw [hget] at hfirst
      exact hfirst.trans (hlifecycle id r₁ hget)

end

/-! ## Calls under one identifier -/

/-- A call a service makes under an operation identifier. -/
inductive Call where
  | reserve (l : Ledger) (request : ReservationRequest) (bearerToken : GoString)
      (snapshot : Option Snapshot) (fault : Option Nat)
  | decide (l : Ledger) (decision : ReservationDecision) (fault : Option Nat)

namespace Call

def operationID : Call → UUID
  | .reserve _ request .. => request.operationID
  | .decide _ decision _ => decision.operationID

def make : Call → Attempt Database StorageError ReservationRecord
  | .reserve l request token snapshot fault => l.reserve request token snapshot fault
  | .decide l decision fault => l.decide decision fault

/-- The call as a step of a run. -/
def operation : Call → Operation
  | .reserve l request token snapshot fault => .reserve l request token snapshot fault
  | .decide l decision fault => .decide l decision fault

theorem apply_operation (c : Call) (db : Database) : c.operation.apply db = (c.make db).2 := by
  cases c <;> rfl

theorem outcome (c : Call) (db : Database) :
    Outcome db c.operationID (c.make db).1 (c.make db).2 := by
  cases c with
  | reserve l request token snapshot fault => exact l.reserve_outcome request token snapshot
  | decide l decision fault => exact l.decide_outcome decision

end Call

/-- The log says under this identifier what the record of a reservation is. -/
structure Logged (db : Database) (operationID : UUID) (r : ReservationRecord) : Prop where
  row : ∃ row, db.operations.get? operationID = some row ∧ row.reservationID = r.reservationID ∧
    row.resultRevision = r.revision ∧ row.resultState = r.state
  current : db.reservations.get? r.reservationID = some r

section
variable {db db' : Database} {operationID : UUID} {r : ReservationRecord}

/-- Under the identifier of a write the log has its record, and the record is the current one. -/
theorem Write.logged (h : Write db operationID r db') : Logged db' operationID r := by
  cases h with
  | create _ _ _ hrow =>
    exact ⟨⟨_, get?_set_self _ _ _, hrow.reservationID, hrow.revision, hrow.state⟩,
      get?_set_self _ _ _⟩
  | close _ hid _ _ hrow =>
    subst hid
    exact ⟨⟨_, get?_set_self _ _ _, hrow.reservationID, hrow.revision, hrow.state⟩,
      get?_set_self _ _ _⟩

/-- A call that succeeds leaves its record in the log, and so does one that fails and has an
effect. -/
theorem Outcome.logged {res : Except StorageError ReservationRecord} (hdb : db.Sound)
    (h : Outcome db operationID res db') :
    (∀ r, res = .ok r → Logged db' operationID r) ∧ (db' = db ∨ ∃ r, Logged db' operationID r) := by
  cases h with
  | refused => exact ⟨by rintro r ⟨⟩, .inl rfl⟩
  | repeated hrow hr hrevision hstate =>
    refine ⟨?_, .inl rfl⟩
    rintro r ⟨⟩
    have hkey := (hdb _ _ hr).key
    exact ⟨⟨_, hrow, hkey.symm, hrevision.symm, hstate.symm⟩, hkey ▸ hr⟩
  | written hreply hwrite =>
    refine ⟨?_, .inr ⟨_, hwrite.logged⟩⟩
    rintro r rfl
    obtain ⟨⟨⟩⟩ | ⟨⟨⟩⟩ := hreply
    exact hwrite.logged

/-- A later call under a logged identifier changes nothing; if it succeeds, the record is still the
one that was logged. -/
theorem Outcome.repeats {res : Except StorageError ReservationRecord} {ops : List Operation}
    (hdb : db.Sound) (hlogged : Logged db operationID r)
    (h : Outcome (run Operation.apply db ops) operationID res db') :
    db' = run Operation.apply db ops ∧ ∀ r', res = .ok r' →
      r' = r ∧ (run Operation.apply db ops).reservations.get? r.reservationID = some r := by
  obtain ⟨row, hrow, hid, hrevision, hstate⟩ := hlogged.row
  obtain ⟨hlifecycle, hlog⟩ := lifecycle_run hdb ops
  have hrow' := hlog _ _ hrow
  cases h with
  | refused => exact ⟨rfl, by rintro _ ⟨⟩⟩
  | @repeated row₁ r₁ hrow₁ hr₁ hrevision₁ hstate₁ =>
    refine ⟨rfl, ?_⟩
    rintro r' ⟨⟩
    rw [hrow'] at hrow₁
    cases hrow₁
    rw [hid] at hr₁
    have hlater := hlifecycle _ _ hlogged.current
    rw [hr₁] at hlater
    -- the record has not moved on, or its state would differ from the one in the log
    have hsame : r₁ = r := by
      cases hlater with
      | kept => rfl
      | closed hopen _ hclosed =>
        rw [hstate, hopen] at hstate₁
        exact absurd hstate₁ hclosed
    exact ⟨hsame, hsame ▸ hr₁⟩
  | written _ hwrite =>
    cases hwrite with
    | create _ _ hfresh _ | close _ _ _ hfresh _ =>
      rw [hrow'] at hfresh
      cases hfresh

end

/-! ## The sweep and the decision -/

section
variable {db : Database} {id : UUID} {r r' : ReservationRecord} {observedAt : Int}

/-- What is true of a reservation the sweep has just changed. -/
structure Swept (observedAt : Int) (r r' : ReservationRecord) : Prop where
  valid : r.validate = .ok ()
  wasOpen : r.state = .reserved
  due : r.expiresAtMilliseconds ≤ observedAt
  result : r' = Ledger.expiredRecord r observedAt

theorem Ledger.reconcileExpired_entry {l : Ledger} {limit : Int} {newID : Nat → UUID}
    {fault : Option Nat} (hr : db.reservations.get? id = some r)
    (hr' : (l.reconcileExpired observedAt limit newID fault db).2.reservations.get? id = some r')
    (hne : r' ≠ r) : Swept observedAt r r' := by
  have hends : Ends (l.reconcileExpired observedAt limit newID fault) db _ :=
    l.reconcileExpired_expirations observedAt limit newID
  obtain ⟨-, hsame⟩ | ⟨results, -, hexpired⟩ := hends
  · rw [hsame, hr, Option.some.injEq] at hr'
    exact absurd hr'.symm hne
  · obtain hsame | ⟨current, hcurrent, hvalid, hopen, hdue, hnext⟩ := hexpired.entry id
    · rw [hsame, hr, Option.some.injEq] at hr'
      exact absurd hr'.symm hne
    · rw [hr] at hcurrent
      cases hcurrent
      rw [hr', Option.some.injEq] at hnext
      exact ⟨hvalid, hopen, hdue, hnext⟩

/-- Whoever has the token could have decided what the sweep did. -/
theorem expire_of_sweep (hr : Storage.Sound id r) (h : Swept observedAt r r') :
    ∃ token, validReservationToken token = true ∧ ∀ operationID, operationID ≠ uuidNil →
      (ReservationDecision.mk authorityProtocolVersion id operationID r.revision .expire observedAt
        token).apply r = .ok r' := by
  obtain ⟨token, htoken, hdigest⟩ := hr.token
  obtain ⟨hrevision, hupdated⟩ := hr.open_ h.wasOpen
  refine ⟨token, htoken, fun operationID hne => ?_⟩
  have hpast : ¬ observedAt < r.updatedAtMilliseconds := not_lt.mpr (hupdated.trans_le h.due).le
  have hroom : r.revision ≠ maximumRevision := by
    rw [hrevision]
    decide
  have hstate : ReservationDecisionKind.outcome .expire observedAt r.expiresAtMilliseconds =
      .ok .expired := if_neg (not_lt.mpr h.due)
  unfold ReservationDecision.apply
  rw [if_neg]
  · rw [h.result]
    exact bind_eq_ok.mpr ⟨_, hstate, rfl⟩
  · simp only [h.valid, hr.key, hne, hpast, htoken, hdigest, h.wasOpen, hroom, not_or]
    simp

end

/-! ## The whole life -/

/-- **Reservations.** In every database the ledger reaches, and however the run goes on from it:

* a call creates a reservation, closes it, or leaves it alone, and closes it at most once;
* it stays at that along the rest of the run, and the log keeps its entries;
* each change is logged under an identifier of the call that was new to the log;
* a call that succeeds, and one that fails and has an effect, leaves its record in the log;
* once the log has it, a call under the same identifier has no effect, and returns the record or
  fails;
* what the sweep makes of a reservation is what the decision to expire it would have made of it. -/
theorem lifecycle_of_run {db : Database} (hdb : Reachable db) (ops : List Operation) :
    (∀ (op : Operation) (id : UUID),
      Lifecycle (db.reservations.get? id) ((op.apply db).reservations.get? id)) ∧
    (∀ id r, db.reservations.get? id = some r →
      Lifecycle (some r) ((run Operation.apply db ops).reservations.get? id)) ∧
    db.operations.Extends (run Operation.apply db ops).operations ∧ (∀ (op : Operation) (id : UUID),
      (op.apply db).reservations.get? id ≠ db.reservations.get? id →
      Labelled (fun o => op.Names o) db (op.apply db) id) ∧
    (∀ c : Call,
      (∀ r, (c.make db).1 = .ok r → Logged (c.operation.apply db) c.operationID r) ∧
      (c.operation.apply db = db ∨ ∃ r, Logged (c.operation.apply db) c.operationID r)) ∧
    (∀ (c c' : Call) (r : ReservationRecord), Logged (c.operation.apply db) c.operationID r →
      c'.operationID = c.operationID →
      (c'.make (run Operation.apply (c.operation.apply db) ops)).2 =
        run Operation.apply (c.operation.apply db) ops ∧
      ∀ r', (c'.make (run Operation.apply (c.operation.apply db) ops)).1 = .ok r' →
        r' = r ∧ (run Operation.apply (c.operation.apply db) ops).reservations.get?
          r.reservationID = some r) ∧
    (∀ (l : Ledger) (observedAt limit : Int) (newID : Nat → UUID) (fault : Option Nat) (id : UUID)
      (r r' : ReservationRecord), db.reservations.get? id = some r →
      ((Operation.reconcileExpired l observedAt limit newID fault).apply db).reservations.get? id =
        some r' → r' ≠ r →
      ∃ token, validReservationToken token = true ∧ ∀ operationID, operationID ≠ uuidNil →
          (ReservationDecision.mk authorityProtocolVersion id operationID r.revision .expire observedAt
            token).apply r = .ok r') := by
  have hsound := hdb.sound
  obtain ⟨hlifecycle, hlog⟩ := lifecycle_run hsound ops
  refine ⟨fun op => (op.moved hsound).lifecycle, hlifecycle, hlog,
    fun op => (op.moved hsound).labelled, fun c => ?_, ?_, ?_⟩
  · rw [c.apply_operation]
    exact (c.outcome db).logged hsound
  · intro c c' r hlogged hsame
    have houtcome := c'.outcome (run Operation.apply (c.operation.apply db) ops)
    rw [hsame] at houtcome
    exact houtcome.repeats (c.operation.moved hsound).sound hlogged
  · intro l observedAt limit newID fault id r r' hr hr' hne
    have hexpired := l.reconcileExpired_entry hr hr' hne
    exact expire_of_sweep (hsound id r hr) hexpired

/-! ## A sample pool -/

namespace Sample

def ledger : Ledger := ⟨1, 2⟩

/-- A hundred bytes, from instant 10 until instant 20. -/
def request : ReservationRequest := ⟨1, 1, 5, 6, ⟨.jobCustody, 7⟩, 100, 10, 20⟩

def token : GoString := Base64Url.encode (List.replicate 32 7)

/-- A pool of one tebibyte, all of it free. -/
def snapshot : Snapshot := ⟨1024 * 1024 * 1024 * 1024, 1024 * 1024 * 1024 * 1024⟩

def reserving : Operation := .reserve ledger request token (some snapshot) none

/-- The sweep comes when the reservation is due. -/
def sweeping : Operation := .reconcileExpired ledger 20 1 (fun n => BitVec.ofNat 128 (n + 30)) none

/-- The pool with the one reservation. -/
def pool : Database := run Operation.apply (Database.initial 1 2) [reserving]

end Sample

theorem lifecycle_sample : ∃ r r', Sample.pool.reservations.get? 5 = some r ∧ r.state = .reserved ∧
      (run Operation.apply Sample.pool [Sample.sweeping]).reservations.get? 5 = some r' ∧
      r'.state = .expired ∧ Lifecycle (some r) (some r') := by
  obtain ⟨r, hr, r', hr', hopen, hexpired⟩ : ∃ r ∈ Sample.pool.reservations.get? 5,
      ∃ r' ∈ (run Operation.apply Sample.pool [Sample.sweeping]).reservations.get? 5,
        r.state = .reserved ∧ r'.state = .expired := by
    decide +kernel
  have hpool : Reachable Sample.pool := ⟨1, 2, [Sample.reserving], rfl⟩
  have hlifecycle := (lifecycle_of_run hpool [Sample.sweeping]).2.1 5 r hr
  rw [Option.mem_def.mp hr'] at hlifecycle
  exact ⟨r, r', hr, hopen, hr', hexpired, hlifecycle⟩

end FacetsNode.Storage
