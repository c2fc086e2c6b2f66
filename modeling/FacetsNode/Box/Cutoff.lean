import FacetsNode.Box.Lifecycle
import FacetsNode.Box.Postgres

/-!
# Revoking a participant

A revocation only sets a flag on the enrollment; grants, queued operations and claims that were
derived from it before live in tables of their own. Both stores look at the flag of the *owner* of a
Worker whenever an operation is handed out or answered, and at the flag of everybody a new record
names. The *requester* of a waiting operation is not looked at again: `cutoff_of_run` holds for a
revocation that finds no waiting operation of the participant, and `revoked_requester_served` shows
what happens otherwise.
-/

namespace FacetsNode.Box

open Relay (UUID uuidNil)

/-! ## The PostgreSQL store makes the same changes -/

namespace Postgres

variable {c : Suite} {s : MemoryStore} {now : Int}

theorem swept_sweep (now : Int) (o : Operation) : Swept now o (sweep now o) := by
  unfold Swept sweep
  by_cases hover : o.overdue now
  · rw [if_pos hover]
    exact .inr (.inr ⟨hover, rfl⟩)
  · rw [if_neg hover]
    split
    · rename_i hlapsed
      exact .inr (.inl ⟨hlapsed.1, hlapsed.2.1, rfl⟩)
    · exact .inl rfl

/-- A claim changes nothing, or hands out one of the candidates left by the sweep. -/
theorem claim_cases (claim : OperationClaim) :
    (∃ e, claimSharedWorkerOperation s claim now = (.error e, s)) ∨
      ∃ id o, (s.sharedWorkerOperations.mapValues (sweep now)).get? id = some o ∧
        Candidate s claim now o ∧ claimSharedWorkerOperation s claim now =
          (.ok { o.claimedBy claim now with connectionGrantID := uuidNil }, { s with
            sharedWorkerOperations := (s.sharedWorkerOperations.mapValues (sweep now)).set
              o.operationID (o.claimedBy claim now) }) := by
  unfold claimSharedWorkerOperation
  split
  · exact .inl ⟨_, rfl⟩
  · simp only
    split
    · exact .inl ⟨_, rfl⟩
    · rename_i selected hselected
      have hmem := List.mem_of_mem_head? (Option.mem_def.mpr hselected)
      rw [List.mem_insertionSort, List.mem_filter, decide_eq_true_eq, List.mem_map] at hmem
      obtain ⟨⟨⟨id, o⟩, hpair, rfl⟩, hcandidate⟩ := hmem
      exact .inr ⟨id, o, GoMap.mem_pairs.mp hpair, hcandidate, rfl⟩

end Postgres

/-- **Every request to the PostgreSQL store is one of the changes.** -/
theorem Request.changesPostgres (c : Suite) (now : Int) (s : MemoryStore) (r : Request) :
    Change c (fun s o response now => Postgres.Completable s o response now) now s r
      (r.outcomePostgres c now s).2 := by
  cases r with
  | start state =>
    simp only [Request.outcomePostgres, Postgres.start, Prod.map_snd]
    split
    · exact .same _
    · rename_i hnone
      exact .state _ (hnone ▸ .start _)
  | createGrant grant =>
    simp only [Request.outcomePostgres, Postgres.createGrant, MemoryStore.createGrant, Prod.map_snd]
    split
    · exact .same _
    · exact .grants _ _
  | revokeGrant grantID =>
    simp only [Request.outcomePostgres, Postgres.revokeGrant, Prod.map_snd]
    split
    · exact .same _
    · exact .grants _ _
  | revokeAllGrants => exact .grants _ _
  | consumeChallenge boxID participantID deviceID challengeID =>
    simp only [Request.outcomePostgres, Postgres.consumeParticipantChallenge, Prod.map_snd]
    split
    · exact .same _
    · rename_i state hissued
      split
      · rename_i hchecked
        exact .consume _ hissued (ne_of_gt hchecked.1.1)
      · exact .same _
  | upsertWorker w =>
    simp only [Request.outcomePostgres, Postgres.upsertSharedWorker, Prod.map_snd]
    split
    · exact .upsert _ w
    · exact .same _
  | withdrawWorker boxID workerID participantID deviceID revision =>
    simp only [Request.outcomePostgres, Postgres.withdrawSharedWorker, Prod.map_snd]
    split
    · exact .withdraw _ _
    · exact .same _
  | requestAccess request =>
    simp only [Request.outcomePostgres, Postgres.createSharedWorkerAccessRequest, Prod.map_snd]
    split
    · exact .same _
    · split
      · split
        · exact .same _
        · exact .requests _ _
      · exact .requests _ _
  | readAccess requestID grantID =>
    simp only [Request.outcomePostgres, Postgres.sharedWorkerAccessRequest, Prod.map_snd]
    split
    · exact .same _
    · split
      · exact .same _
      · split
        · exact .requests _ _
        · exact .requests _ _
  | confirmAccess grant code =>
    simp only [Request.outcomePostgres, Postgres.confirmSharedWorkerAccess, Prod.map_snd]
    split
    · exact .same _
    · split
      · exact .same _
      · split
        · split
          · exact .requests _ _
          · exact .requests _ _
        · split
          · exact .same _
          · exact .confirm grant code _
  | revokeAccess boxID grantID owner revision =>
    simp only [Request.outcomePostgres, Postgres.revokeSharedWorkerAccess, Prod.map_snd]
    split
    · exact .same _
    · split
      · exact .same _
      · split
        · exact .revokeAccess _ _ _
        · exact .same _
  | enqueue o =>
    simp only [Request.outcomePostgres, Postgres.enqueueSharedWorkerOperation, Prod.map_snd]
    split
    · exact .same _
    · rename_i hvalid
      split
      · exact .same _
      · rename_i hnew
        split
        · rename_i henqueueable
          obtain ⟨-, ⟨e, he, -, -, hactive⟩, -⟩ := henqueueable
          exact .enqueue o (not_not.mp hvalid) hnew ⟨e, he, hactive⟩
        · exact .same _
  | claim claim =>
    simp only [Request.outcomePostgres, Prod.map_snd]
    obtain ⟨e, heq⟩ | ⟨id, o, hfound, hcandidate, heq⟩ := @Postgres.claim_cases s now claim
    · rw [heq]
      exact .same _
    · rw [heq]
      exact .handOut claim (Postgres.swept_sweep now) hfound hcandidate.2.2.1
  | complete response =>
    simp only [Request.outcomePostgres, Postgres.completeSharedWorkerOperation, Prod.map_snd]
    split
    · exact .same _
    · split
      · exact .same _
      · rename_i o hfound
        split
        · exact .same _
        · split
          · rename_i hcompletable
            exact .complete response hfound hcompletable.1 hcompletable
          · exact .same _
  | readStatus operationID grantID =>
    simp only [Request.outcomePostgres, Postgres.sharedWorkerOperationStatus, Prod.map_snd]
    split
    · exact .same _
    · rename_i o hfound
      split
      · exact .same _
      · split
        · rename_i hoverdue
          exact .expire _ (Option.filter_eq_some_iff.mp hfound).1 hoverdue
        · exact .same _
  | claimBox activation owner | pin e | revokeParticipant boxID participantID
  | revokeDevice boxID participantID deviceID | issueChallenge challenge =>
    -- taken from the in-memory store, and no response
    exact Request.changes_of _ _ _ _ (by rintro _ _ ⟨⟩)

/-! ## Both stores -/

/-- The two implementations of `Store`. -/
inductive Backend where
  | memory
  | postgres

def Backend.outcome (c : Suite) (now : Int) (s : MemoryStore) (r : Request) :
    Backend → Outcome MemoryStore Answer
  | .memory => r.outcome c now s
  | .postgres => r.outcomePostgres c now s

def Backend.apply (c : Suite) (backend : Backend) (call : Call) (s : MemoryStore) : MemoryStore :=
  (backend.outcome c call.now s call.request).2

/-- What the store asks for before it records a first response. -/
def Backend.demand (c : Suite) : Backend → Demand
  | .memory => fun s o response now => s.Completable c o response now
  | .postgres => fun s o response now => Postgres.Completable s o response now

theorem Backend.changes {c} (backend : Backend) {s} (call : Call) :
    Change c (backend.demand c) call.now s call.request (backend.apply c call s) := by
  cases backend with
  | memory => exact Request.changes _ _ _ _
  | postgres => exact Request.changesPostgres _ _ _ _

/-! ## The cutoff -/

/-- The request revokes the participant, or the device it is pinned with. -/
def Request.Revokes (p : UUID) : Request → Prop
  | .revokeParticipant _ participantID => participantID = p
  | .revokeDevice _ participantID _ => participantID = p
  | _ => False

/-- The request asks for a challenge, an advertisement, access, a grant or a new operation, and
names the participant. -/
def Request.Names (s : MemoryStore) (p : UUID) : Request → Prop
  | .issueChallenge challenge => challenge.participantID = p
  | .upsertWorker w => w.ownerParticipantID = p
  | .requestAccess r => r.requesterParticipantID = p
  | .confirmAccess grant _ => grant.ownerParticipantID = p ∨ grant.granteeParticipantID = p
  | .enqueue o => o.requesterParticipantID = p ∧ s.sharedWorkerOperations.get? o.operationID = none
  | _ => False

namespace MemoryStore

/-- The participant is pinned and revoked. -/
def CutOff (s : MemoryStore) (p : UUID) : Prop :=
  ∃ e, s.participantEnrollments.get? p = some e ∧ ¬ e.Active

/-- No operation that the participant has requested waits any more. One whose time is over waits until a
call drops it: the clock of the next call may be behind. -/
def Quiet (s : MemoryStore) (p : UUID) : Prop :=
  ∀ id o, s.sharedWorkerOperations.get? id = some o → o.requesterParticipantID = p → o.Final

variable {c : Suite} {s : MemoryStore} {p : UUID}

theorem CutOff.not_active (h : s.CutOff p) {q}
    (hactive : ∃ e ∈ s.participantEnrollments.get? q, e.Active) : q ≠ p := by
  rintro rfl
  obtain ⟨e, he, hrevoked⟩ := h
  obtain ⟨e', he', hactive⟩ := hactive
  obtain rfl := Option.some.inj (he.symm.trans he')
  exact hrevoked hactive

theorem CutOff.not_admits (h : s.CutOff p) {q deviceID} {now : Int}
    (hadmits : s.Admits c q deviceID now) : q ≠ p := by
  obtain ⟨e, he, -, hinitial⟩ := hadmits
  exact h.not_active ⟨e, he, Enrollment.active_of_validInitialAt hinitial⟩

theorem CutOff.not_joins (h : s.CutOff p) {boxID q deviceID}
    (hjoins : Postgres.Joins s boxID q deviceID) : q ≠ p := by
  obtain ⟨e, he, -, -, hactive⟩ := hjoins
  exact h.not_active ⟨e, he, hactive⟩

end MemoryStore

section

variable {c : Suite} {D : Demand} {s s' : MemoryStore} {p : UUID} {call : Call} {backend : Backend}

theorem ok_of_map_done {x : Except StoreError Unit} (h : x.map (fun _ => Answer.done) = .ok .done) :
    x = .ok () := by
  cases x with
  | error e => cases h
  | ok u => rfl

theorem error_map_done {x : Except StoreError Unit} (h : ∃ e, x = .error e) :
    ∃ e, x.map (fun _ => Answer.done) = .error e := by
  obtain ⟨e, rfl⟩ := h
  exact ⟨e, rfl⟩

variable {now : Int} {r : Request}

/-- A revocation is never taken back. -/
theorem Change.cutOff (h : Change c D now s r s') (hcut : s.CutOff p) : s'.CutOff p := by
  obtain ⟨e, he, hrevoked⟩ := hcut
  cases h with
  | pin new _ hnew =>
    have hne : p ≠ new.anchor.participantID := by
      rintro rfl
      cases hnew.symm.trans he
    exact ⟨e, (GoMap.get?_set_ne _ _ hne).trans he, hrevoked⟩
  | @revoke _ revokedID old new _ _ hnew =>
    by_cases hid : p = revokedID
    · subst hid
      exact ⟨new, GoMap.get?_set_self _ _ _, hnew⟩
    · exact ⟨e, (GoMap.get?_set_ne _ _ hid).trans he, hrevoked⟩
  | _ => exact ⟨e, he, hrevoked⟩

/-- A participant who enqueues nothing, as none can who is cut off, starts no operation. -/
theorem Change.quiet (h : Change c D call.now s call.request s') (hok : s.OperationsOK)
    (hquiet : s.Quiet p) (hadds : ∀ o, call.request = .enqueue o →
      (∃ e ∈ s.participantEnrollments.get? o.requesterParticipantID, e.Active) →
      o.requesterParticipantID ≠ p) : s'.Quiet p := by
  intro id o' ho' hrequester
  obtain ⟨-, hnew⟩ | ⟨o, o'', hget, hget', hevolves⟩ := h.operation hok id
  · obtain ⟨hrequest, -, -, hactive⟩ := hnew o' ho'
    exact absurd hrequester (hadds o' hrequest hactive)
  · obtain rfl := Option.some.inj (hget'.symm.trans ho')
    have hfinal : o.Final := hquiet id o hget
      ((congrArg OperationTerms.requesterParticipantID hevolves.terms).symm.trans hrequester)
    rwa [hevolves.final hfinal]

/-- An accepted revocation cuts the participant off. -/
theorem Backend.cutOff_of_revokes (hrevokes : r.Revokes p)
    (haccepted : (backend.outcome c now s r).1 = .ok .done) :
    (backend.outcome c now s r).2.CutOff p := by
  cases r with
  | revokeParticipant boxID participantID =>
    obtain rfl : participantID = p := hrevokes
    have hcut : (s.revokePinnedParticipant boxID participantID now).1 = .ok () →
        (s.revokePinnedParticipant boxID participantID now).2.CutOff participantID := by
      unfold MemoryStore.revokePinnedParticipant
      split
      · rintro ⟨⟩
      · rename_i e he
        split
        · rename_i hchecked
          split
          · exact fun _ => ⟨_, GoMap.get?_set_self _ _ _,
              fun hactive => absurd hactive.1 (ne_of_gt hchecked.2.2.1)⟩
          · rename_i hrevoked
            exact fun _ => ⟨e, he, fun hactive => hrevoked hactive.1⟩
        · rintro ⟨⟩
    cases backend <;> exact hcut (ok_of_map_done haccepted)
  | revokeDevice boxID participantID deviceID =>
    obtain rfl : participantID = p := hrevokes
    have hcut : (s.revokePinnedParticipantDevice boxID participantID deviceID now).1 = .ok () →
        (s.revokePinnedParticipantDevice boxID participantID deviceID now).2.CutOff
          participantID := by
      unfold MemoryStore.revokePinnedParticipantDevice
      split
      · rintro ⟨⟩
      · rename_i e he
        split
        · split
          · exact fun _ => ⟨_, GoMap.get?_set_self _ _ _,
              fun hactive => absurd hactive.2 (Nat.lt_irrefl _)⟩
          · rename_i hrevoked
            exact fun _ => ⟨e, he, fun hactive => hrevoked hactive.2⟩
        · rintro ⟨⟩
    cases backend <;> exact hcut (ok_of_map_done haccepted)
  | _ => cases hrevokes

/-- Nothing that names a revoked participant is accepted. -/
theorem Backend.refuses (hcut : s.CutOff p) (hnames : r.Names s p) :
    ∃ e, (backend.outcome c now s r).1 = .error e := by
  -- Five requests name somebody. Each accepts only under a check that finds the participant active:
  -- `Admits` in memory, `Joins` in SQL, and a revoked participant passes neither.
  cases r with
  | issueChallenge challenge =>
    have hrefused : ∃ e, (s.issueParticipantChallenge c challenge now).1 = .error e := by
      unfold MemoryStore.issueParticipantChallenge
      split
      · rename_i hchecked
        obtain ⟨-, -, ⟨e, he, -, -, hinitial⟩, -⟩ := hchecked
        exact absurd hnames
          (hcut.not_active ⟨e, he, Enrollment.active_of_validInitialAt hinitial⟩)
      · exact ⟨_, rfl⟩
    cases backend <;> exact error_map_done hrefused
  | upsertWorker w =>
    cases backend with
    | memory =>
      refine error_map_done (x := (s.upsertSharedWorker c w now).1) ?_
      unfold MemoryStore.upsertSharedWorker
      split
      · rename_i hchecked
        exact absurd hnames (hcut.not_admits hchecked.2.2.1)
      · exact ⟨_, rfl⟩
    | postgres =>
      refine error_map_done (x := (Postgres.upsertSharedWorker c s w now).1) ?_
      unfold Postgres.upsertSharedWorker
      split
      · rename_i hchecked
        exact absurd hnames (hcut.not_joins hchecked.2.2.1)
      · exact ⟨_, rfl⟩
  | requestAccess request =>
    cases backend with
    | memory =>
      refine error_map_done (x := (s.createSharedWorkerAccessRequest c request now).1) ?_
      unfold MemoryStore.createSharedWorkerAccessRequest
      split
      · rename_i hchecked
        exact absurd hnames (hcut.not_admits hchecked.2.2.1)
      · exact ⟨_, rfl⟩
    | postgres =>
      refine error_map_done (x := (Postgres.createSharedWorkerAccessRequest s request now).1) ?_
      unfold Postgres.createSharedWorkerAccessRequest
      split
      · exact ⟨_, rfl⟩
      · simp only
        split
        · rename_i hchecked
          exact absurd hnames (hcut.not_joins hchecked.2.1)
        · exact ⟨_, rfl⟩
  | confirmAccess grant code =>
    cases backend with
    | memory =>
      refine error_map_done (x := (s.confirmSharedWorkerAccess c grant code now).1) ?_
      unfold MemoryStore.confirmSharedWorkerAccess
      split
      · exact ⟨_, rfl⟩
      · split
        · exact ⟨_, rfl⟩
        · rename_i hchecked
          obtain ⟨-, -, -, -, -, -, -, -, howner, hgrantee, -⟩ := not_not.mp hchecked
          obtain hnamed | hnamed := hnames
          · exact absurd hnamed (hcut.not_admits howner)
          · exact absurd hnamed (hcut.not_admits hgrantee)
    | postgres =>
      refine error_map_done (x := (Postgres.confirmSharedWorkerAccess s grant code now).1) ?_
      unfold Postgres.confirmSharedWorkerAccess
      split
      · exact ⟨_, rfl⟩
      · split
        · exact ⟨_, rfl⟩
        · rename_i hchecked
          -- SQL joins the grantee through the access request, which has the grant's participant
          obtain ⟨-, -, -, -, -, -, howner, hgrantee, -, -, hsame, -⟩ := not_not.mp hchecked
          obtain hnamed | hnamed := hnames
          · exact absurd hnamed (hcut.not_joins howner)
          · exact absurd (hsame.trans hnamed) (hcut.not_joins hgrantee)
  | enqueue o =>
    cases backend with
    | memory =>
      refine error_map_done (x := (s.enqueueSharedWorkerOperation c o now).1) ?_
      unfold MemoryStore.enqueueSharedWorkerOperation
      split
      · exact ⟨_, rfl⟩
      · simp only [hnames.2]
        split
        · rename_i hchecked
          exact absurd hnames.1 (hcut.not_admits hchecked.2.1)
        · exact ⟨_, rfl⟩
    | postgres =>
      refine error_map_done (x := (Postgres.enqueueSharedWorkerOperation c s o now).1) ?_
      unfold Postgres.enqueueSharedWorkerOperation
      split
      · exact ⟨_, rfl⟩
      · simp only [hnames.2]
        split
        · rename_i hchecked
          exact absurd hnames.1 (hcut.not_joins hchecked.2.1)
        · exact ⟨_, rfl⟩
  | _ => cases hnames

theorem claim_of_handedOutPostgres {o}
    (h : (r.outcomePostgres c now s).1 = .ok (.handedOut o)) : ∃ claim, r = .claim claim := by
  cases r with
  | claim claim => exact ⟨claim, rfl⟩
  | consumeChallenge boxID participantID deviceID challengeID =>
    simp only [Request.outcomePostgres, Prod.map_fst] at h
    split at h <;> simp at h
  | _ =>
    simp only [Request.outcomePostgres, Request.outcome, Prod.map_fst] at h
    exact absurd h (map_done_ne _ _)

/-- An operation that is handed out was waiting, and its Worker has an active owner. -/
theorem Backend.handedOut {handed} (h : (backend.outcome c now s r).1 = .ok (.handedOut handed)) :
    (∃ id o, s.sharedWorkerOperations.get? id = some o ∧ ¬ o.Final ∧
        o.requesterParticipantID = handed.requesterParticipantID) ∧
      ∃ w ∈ s.sharedWorkers.get? handed.workerID,
        ∃ e ∈ s.participantEnrollments.get? w.ownerParticipantID, e.Active := by
  -- what the sweep leaves queued was waiting before
  have hwaiting : ∀ (f : Operation → Operation), (∀ o, Swept now o (f o)) → ∀ {id o},
      (s.sharedWorkerOperations.mapValues f).get? id = some o → o.state = .queued →
      ∃ id o₀, s.sharedWorkerOperations.get? id = some o₀ ∧ ¬ o₀.Final ∧
        o₀.requesterParticipantID = o.requesterParticipantID := by
    intro f hf id o hfound hqueued
    rw [GoMap.get?_mapValues] at hfound
    obtain ⟨before, hget, rfl⟩ := Option.map_eq_some_iff.mp hfound
    have hevolves : Evolves (fun _ _ _ _ => False) s ⟨now, r⟩ before (f before) :=
      .of_swept (hf before)
    refine ⟨id, before, hget, fun hfinal => ?_,
      (congrArg OperationTerms.requesterParticipantID hevolves.terms).symm⟩
    rw [hevolves.final hfinal] at hqueued
    obtain hstate | hstate := hfinal
    · cases hqueued.symm.trans hstate
    · cases hqueued.symm.trans hstate
  cases backend with
  | memory =>
    obtain ⟨claim, rfl⟩ := claim_of_handedOut h
    obtain ⟨e, heq⟩ | heq | ⟨id, o, hfound, hcandidate, -, howned, heq⟩ :=
      @MemoryStore.claim_cases c s now claim
    · simp [Backend.outcome, Request.outcome, heq, Except.map] at h
    · simp [Backend.outcome, Request.outcome, heq, Except.map] at h
    · simp only [Backend.outcome, Request.outcome, heq, Except.map, Prod.map_fst, Except.ok.injEq,
        Answer.handedOut.injEq] at h
      subst h
      obtain ⟨⟨w, hw, howner, -⟩, e, he, -, hinitial⟩ := howned
      have hwas := hwaiting _ (MemoryStore.swept_sweep now) hfound hcandidate.2.1
      refine ⟨hwas, w, ?_, e, ?_, Enrollment.active_of_validInitialAt hinitial⟩
      · exact hcandidate.1 ▸ hw
      · exact howner ▸ he
  | postgres =>
    obtain ⟨claim, rfl⟩ := claim_of_handedOutPostgres h
    obtain ⟨e, heq⟩ | ⟨id, o, hfound, hcandidate, heq⟩ := @Postgres.claim_cases s now claim
    · simp [Backend.outcome, Request.outcomePostgres, heq, Except.map] at h
    · simp only [Backend.outcome, Request.outcomePostgres, heq, Except.map, Prod.map_fst,
        Except.ok.injEq, Answer.handedOut.injEq] at h
      subst h
      obtain ⟨-, -, hqueued, -, ⟨⟨w, hw, -, howner, -⟩, e, he, -, -, hactive⟩, -⟩ := hcandidate
      have hwas := hwaiting _ (Postgres.swept_sweep now) hfound hqueued
      exact ⟨hwas, w, hw, e, howner ▸ he, hactive⟩

/-- A first response comes from an active owner of the Worker. -/
theorem Backend.owner_of_demand {o r} (h : backend.demand c s o r now) :
    ∃ w ∈ s.sharedWorkers.get? o.workerID,
      ∃ e ∈ s.participantEnrollments.get? w.ownerParticipantID, e.Active := by
  cases backend with
  | memory =>
    obtain ⟨-, -, -, -, -, hworker, ⟨⟨w, hw, howner, -⟩, e, he, -, hinitial⟩, -⟩ := h
    exact ⟨w, hworker ▸ hw, e, howner ▸ he, Enrollment.active_of_validInitialAt hinitial⟩
  | postgres =>
    obtain ⟨-, -, -, -, -, -, ⟨⟨w, hw, -, howner, -⟩, e, he, -, -, hactive⟩, -⟩ := h
    exact ⟨w, hw, e, howner ▸ he, hactive⟩

end

/-- What the next call can do about a participant who has been cut off: nothing. -/
structure CutoffAt (c : Suite) (backend : Backend) (s : MemoryStore) (p : UUID) (call : Call) :
    Prop where
  handed : ∀ o, (backend.outcome c call.now s call.request).1 = .ok (.handedOut o) →
    o.requesterParticipantID ≠ p ∧ ∀ w ∈ s.sharedWorkers.get? o.workerID, w.ownerParticipantID ≠ p
  recorded : ∀ id o o' r, s.sharedWorkerOperations.get? id = some o → o.response = none →
    (backend.apply c call s).sharedWorkerOperations.get? id = some o' → o'.response = some r →
      o.requesterParticipantID ≠ p ∧ ∀ w ∈ s.sharedWorkers.get? o.workerID, w.ownerParticipantID ≠ p
  refused : call.request.Names s p → ∃ e, (backend.outcome c call.now s call.request).1 = .error e

/-- What a run keeps true of a participant who has been cut off. -/
structure MemoryStore.Closed (s : MemoryStore) (p : UUID) : Prop where
  operations : s.OperationsOK
  cutOff : s.CutOff p
  quiet : s.Quiet p

theorem MemoryStore.Closed.cutoffAt {c s p} (h : s.Closed p)
    (backend : Backend) (call : Call) : CutoffAt c backend s p call where
  handed o ho := by
    obtain ⟨⟨id, o₀, hget, hopen, hrequester⟩, w, hw, hactive⟩ := Backend.handedOut ho
    refine ⟨fun heq => hopen (h.quiet id o₀ hget (hrequester.trans heq)), fun w' hw' => ?_⟩
    obtain rfl := Option.some.inj (hw.symm.trans hw')
    exact h.cutOff.not_active hactive
  recorded id o o' r hget hnone hget' hr := by
    obtain ⟨habsent, -⟩ | ⟨o₁, o₂, hget₁, hget₂, hevolves⟩ :=
      (backend.changes (c := c) call).operation h.operations id
    · cases habsent.symm.trans hget
    · obtain rfl := Option.some.inj (hget₁.symm.trans hget)
      obtain rfl := Option.some.inj (hget₂.symm.trans hget')
      obtain hearlier | ⟨-, -, -, hdemand⟩ := hevolves.response hr
      · cases hnone.symm.trans hearlier
      · obtain ⟨w, hw, hactive⟩ := Backend.owner_of_demand hdemand
        refine ⟨fun heq => ?_, fun w' hw' => ?_⟩
        · rw [hevolves.final (h.quiet id o₁ hget heq)] at hr
          cases hnone.symm.trans hr
        · obtain rfl := Option.some.inj (hw.symm.trans hw')
          exact h.cutOff.not_active hactive
  refused hnames := Backend.refuses h.cutOff hnames

theorem Backend.operationsOK_of_run {c} (backend : Backend) (calls : List Call) :
    (run (backend.apply c) newMemoryStore calls).OperationsOK := by
  refine invariant (I := MemoryStore.OperationsOK) ?_ ?_ (along_true calls)
  · intro id o ho
    simp [newMemoryStore] at ho
  · intro s call hok _
    exact (backend.changes call).operationsOK hok

/-- **Revoking a participant is a cutoff** when none of their operations waits: in every run of
either store, after an accepted revocation of `p` that finds no queued or claimed operation
requested by `p`, no operation that `p` requested or whose Worker `p` owns is handed out or answered
for the first time, and nothing new that names `p` is accepted. -/
theorem cutoff_of_run (c : Suite) (backend : Backend) (p : UUID) (earlier : List Call)
    (revocation : Call) (hrevokes : revocation.request.Revokes p)
    (haccepted : (backend.outcome c revocation.now (run (backend.apply c) newMemoryStore earlier)
      revocation.request).1 = .ok .done)
    (hquiet : (run (backend.apply c) newMemoryStore earlier).Quiet p) (later : List Call)
    (call : Call) :
    CutoffAt c backend (run (backend.apply c) newMemoryStore (earlier ++ revocation :: later)) p
      call := by
  have hok := backend.operationsOK_of_run (c := c) earlier
  rw [run_append]
  generalize run (backend.apply c) newMemoryStore earlier = s at *
  have hrevoked : (backend.apply c revocation s).Closed p := by
    have hcut := Backend.cutOff_of_revokes hrevokes haccepted
    have hchange := backend.changes (c := c) (s := s) revocation
    refine ⟨hchange.operationsOK hok, hcut, hchange.quiet hok hquiet fun o hrequest _ => ?_⟩
    rw [hrequest] at hrevokes
    cases hrevokes
  have hclosed : (run (backend.apply c) (backend.apply c revocation s) later).Closed p := by
    refine invariant (I := fun s : MemoryStore => s.Closed p) hrevoked ?_ (along_true later)
    intro s call h _
    have hchange := backend.changes (c := c) (s := s) call
    exact ⟨hchange.operationsOK h.operations, hchange.cutOff h.cutOff,
      hchange.quiet h.operations h.quiet fun _ _ hactive => h.cutOff.not_active hactive⟩
  exact hclosed.cutoffAt backend call

/-! ## What is never taken back -/

/-- `s'` gives nobody an authority that `s` has given to another or taken away. -/
structure MemoryStore.Later (s s' : MemoryStore) : Prop where
  enrollments : s.participantEnrollments.Evolves (fun e e' => e'.Active → e' = e)
    s'.participantEnrollments
  challenges : s.participantChallenges.Evolves (fun i i' => i'.challenge = i.challenge ∧
    (i.consumedAtMilliseconds ≠ 0 → i'.consumedAtMilliseconds ≠ 0)) s'.participantChallenges

theorem MemoryStore.Later.refl (s : MemoryStore) : s.Later s :=
  ⟨.refl (fun _ _ => rfl) _, .refl (fun _ => ⟨rfl, id⟩) _⟩

theorem MemoryStore.Later.trans {s s' s''} (h : Later s s') (h' : Later s' s'') : Later s s'' where
  enrollments := by
    refine h.enrollments.trans h'.enrollments fun h₁ h₂ hactive => ?_
    have heq := h₂ hactive
    exact heq.trans (h₁ (heq ▸ hactive))
  challenges := h.challenges.trans h'.challenges fun h₁ h₂ => ⟨h₂.1.trans h₁.1, h₂.2 ∘ h₁.2⟩

theorem Change.later {c D now s r s'} (h : Change c D now s r s') : s.Later s' := by
  have hsame := MemoryStore.Later.refl s
  cases h with
  | pin _ _ hnew => exact { hsame with enrollments := .set_new (fun _ _ => rfl) hnew }
  | revoke _ _ _ hcut =>
    exact { hsame with enrollments := .set (fun _ _ => rfl) fun _ _ h => (hcut h).elim }
  | issue _ hnew => exact { hsame with challenges := .set_new (fun _ => ⟨rfl, id⟩) hnew }
  | consume _ hissued hnow =>
    exact { hsame with challenges := .set_old (fun _ => ⟨rfl, id⟩) hissued ⟨rfl, fun _ => hnow⟩ }
  | _ => exact ⟨hsame.enrollments, hsame.challenges⟩

/-- **Authority is given once.** In every run of either store a pinned participant stays pinned,
with the same enrollment while it is active and never active again after that, and a challenge stays
what was issued and, once used, stays used. -/
theorem authority_later (c : Suite) (backend : Backend) (s : MemoryStore) (calls : List Call) :
    s.Later (run (backend.apply c) s calls) :=
  related_of_run (R := MemoryStore.Later) .refl .trans
    (fun _ call => (backend.changes call).later) s calls

namespace Sample

/-- The owner of the Worker is revoked. -/
def ownerRevoked : Call := ⟨15, .revokeParticipant boxID (participantID 1)⟩

/-- The requester of the waiting operation is revoked, then the Worker asks for work and answers. -/
def requesterRevoked : Call := ⟨15, .revokeParticipant boxID (participantID 2)⟩

end Sample

open Sample

/-- In the sample the owner can be revoked: they have requested nothing, and get no work any
more. -/
theorem cutoff_sample : CutoffAt suite .memory (run (Backend.apply suite .memory) newMemoryStore
      (setup ++ ownerRevoked :: [])) (participantID 1)
      ⟨20, .claim operationClaim⟩ := by
  refine cutoff_of_run suite .memory (participantID 1) setup ownerRevoked
    rfl (by decide +kernel) (fun id o hget hrequester => ?_) [] ⟨20, .claim operationClaim⟩
  have hothers : ∀ entry ∈ (run (Backend.apply suite .memory) newMemoryStore
      setup).sharedWorkerOperations.pairs,
      entry.2.requesterParticipantID ≠ participantID 1 := by
    decide +kernel
  exact absurd hrequester (hothers (id, o) (GoMap.mem_pairs.mpr hget))

/-- The sample's requester is revoked, and their waiting operation is still handed out and
answered. -/
abbrev Backend.ServesRevokedRequester (backend : Backend) : Prop :=
  (backend.outcome suite 15 (run (backend.apply suite) newMemoryStore setup)
      requesterRevoked.request).1.isOk = true ∧
    (backend.outcome suite 20 (run (backend.apply suite) newMemoryStore
      (setup ++ [requesterRevoked])) (.claim operationClaim)).1.isOk = true ∧
    ((run (backend.apply suite) newMemoryStore (setup ++ [requesterRevoked,
        ⟨20, .claim operationClaim⟩, ⟨30, .complete response⟩])
      ).sharedWorkerOperations.get? (uuid 63)).map
        (fun o => (o.requesterParticipantID, o.response)) =
      some (participantID 2, some response)

theorem revoked_requester_served :
    Backend.memory.ServesRevokedRequester ∧ Backend.postgres.ServesRevokedRequester := by
  decide +kernel

end FacetsNode.Box
