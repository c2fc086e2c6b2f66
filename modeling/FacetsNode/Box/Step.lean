import FacetsNode.Box.Memory

/-!
# What a request to the Box does

`Request.changes` is the one case analysis over the requests: every request leaves the store that
one of the constructors of `Change` describes. What is true of a whole run is derived from those.
-/

namespace FacetsNode.Box

open Relay (UUID uuidNil)

/-- The states of the Box: it gets its ID once, and then its owner. -/
inductive StateChange : Option State → Option State → Prop
  | start (state : State) : StateChange none (some state)
  | claim {old new : State} (hunclaimed : ¬ old.claimed) : StateChange (some old) (some new)

/-- What a store asks for before it records a first response. -/
abbrev Demand : Type := MemoryStore → Operation → OperationResponse → Int → Prop

/-- What the start of a claim makes of an operation: a claim that is over is dropped, and an
operation that is over expires. -/
def Swept (now : Int) (o o' : Operation) : Prop :=
  o' = o ∨ (o.state = .claimed ∧ o.claimExpiresAtMilliseconds ≤ now ∧ o' = o.unclaimed .queued) ∨
    (o.overdue now ∧ o' = o.unclaimed .expired)

/-- What a request at the time `now` makes of the store `s`. -/
inductive Change (c : Suite) (D : Demand) (now : Int) (s : MemoryStore) : Request → MemoryStore →
    Prop
  | same (r : Request) : Change c D now s r s
  | state (r : Request) {state : Option State} (h : StateChange s.state state) :
      Change c D now s r { s with state := state }
  | grants (r : Request) (grants : GoMap UUID ConnectionGrant) :
      Change c D now s r { s with grants := grants }
  | pin (e : Enrollment) (hvalid : e.validInitialAt c now)
      (hnew : s.participantEnrollments.get? e.anchor.participantID = none) :
      Change c D now s (.pin e) { s with
        participantEnrollments := s.participantEnrollments.set e.anchor.participantID e }
  | revoke (r : Request) {participantID : UUID} {e e' : Enrollment}
      (hpinned : s.participantEnrollments.get? participantID = some e) (hrevoked : ¬ e'.Unrevoked)
      (hcut : ¬ e'.Active) :
      Change c D now s r { s with
        participantEnrollments := s.participantEnrollments.set participantID e' }
  | issue (challenge : Challenge)
      (hnew : s.participantChallenges.get? challenge.challengeID = none) :
      Change c D now s (.issueChallenge challenge) { s with
        participantChallenges := s.participantChallenges.set challenge.challengeID ⟨challenge, 0⟩ }
  | consume (r : Request) {challengeID : UUID} {state : ChallengeState}
      (hissued : s.participantChallenges.get? challengeID = some state) (hnow : now ≠ 0) :
      Change c D now s r { s with
        participantChallenges := s.participantChallenges.set challengeID
          { state with consumedAtMilliseconds := now } }
  | upsert (r : Request) (w : Worker) :
      Change c D now s r { s with sharedWorkers := s.sharedWorkers.set w.workerID w }
  | withdraw (r : Request) (workerID : UUID) :
      Change c D now s r { s with sharedWorkers := s.sharedWorkers.delete workerID }
  | requests (r : Request) (requests : GoMap UUID AccessRequest) :
      Change c D now s r { s with sharedWorkerRequests := requests }
  | confirm (grant : AccessGrant) (code : List UInt8) (requests : GoMap UUID AccessRequest) :
      Change c D now s (.confirmAccess grant code) { s with
        sharedWorkerRequests := requests
        sharedWorkerGrants := s.sharedWorkerGrants.set grant.grantID grant }
  | revokeAccess (r : Request) {grantID : UUID} (grant : AccessGrant)
      (requests : GoMap UUID AccessRequest) :
      Change c D now s r { s with
        sharedWorkerRequests := requests
        sharedWorkerGrants := s.sharedWorkerGrants.set grantID grant }
  | enqueue (o : Operation) (hvalid : o.validAt c now)
      (hnew : s.sharedWorkerOperations.get? o.operationID = none)
      (hrequester : ∃ e ∈ s.participantEnrollments.get? o.requesterParticipantID, e.Active) :
      Change c D now s (.enqueue o) { s with
        sharedWorkerOperations := s.sharedWorkerOperations.set o.operationID o }
  | sweep (r : Request) {f : Operation → Operation} (hf : ∀ o, Swept now o (f o)) :
      Change c D now s r { s with sharedWorkerOperations := s.sharedWorkerOperations.mapValues f }
  | handOut (claim : OperationClaim) {f : Operation → Operation} {o : Operation} {id : UUID}
      (hf : ∀ o, Swept now o (f o))
      (hfound : (s.sharedWorkerOperations.mapValues f).get? id = some o)
      (hqueued : o.state = .queued) :
      Change c D now s (.claim claim) { s with
        sharedWorkerOperations := (s.sharedWorkerOperations.mapValues f).set
          o.operationID (o.claimedBy claim now) }
  | complete (response : OperationResponse) {o : Operation}
      (hfound : s.sharedWorkerOperations.get? response.operationID = some o)
      (hclaimed : o.state = .claimed) (hcompletable : D s o response now) :
      Change c D now s (.complete response) { s with
        sharedWorkerOperations := s.sharedWorkerOperations.set o.operationID
          { o with response := some response, state := .responseReady } }
  | expire (r : Request) {operationID : UUID} {o : Operation}
      (hfound : s.sharedWorkerOperations.get? operationID = some o) (hoverdue : o.overdue now) :
      Change c D now s r { s with
        sharedWorkerOperations := s.sharedWorkerOperations.set operationID (o.unclaimed .expired) }

theorem guard_bind_eq_some {α : Type} {p : Prop} [Decidable p] {x : Option α} {a : α} :
    (guard p >>= fun _ => x) = some a ↔ p ∧ x = some a := by
  unfold guard
  split
  · rename_i hp
    simp [hp]
  · rename_i hp
    simp [hp]

/-- A valid enrollment is one of generation 1, so one that nothing revokes is active. -/
theorem Enrollment.active_of_validInitialAt {c : Suite} {e : Enrollment} {now : Int}
    (h : e.validInitialAt c now) : e.Active := by
  refine ⟨h.1.1, ?_⟩
  obtain ⟨keys, hkeys⟩ := Option.isSome_iff_exists.mp h.2
  unfold verifyEnrollment at hkeys
  obtain ⟨⟨-, -, -, -, hgeneration, -⟩, -⟩ := guard_bind_eq_some.mp hkeys
  rw [h.1.2, hgeneration]
  exact Nat.one_pos

namespace MemoryStore

variable {c : Suite} {s : MemoryStore} {now : Int}

theorem swept_sweep (now : Int) (o : Operation) : Swept now o (sweep now o) := by
  unfold Swept sweep
  by_cases hlapsed : o.state = .claimed ∧ o.claimExpiresAtMilliseconds ≤ now ∧ o.response = none
  · simp only [if_pos hlapsed]
    by_cases hover : (o.unclaimed .queued).overdue now
    · rw [if_pos hover]
      exact .inr (.inr ⟨⟨.inr hlapsed.1, hover.2⟩, rfl⟩)
    · rw [if_neg hover]
      exact .inr (.inl ⟨hlapsed.1, hlapsed.2.1, rfl⟩)
  · simp only [if_neg hlapsed]
    by_cases hover : o.overdue now
    · rw [if_pos hover]
      exact .inr (.inr ⟨hover, rfl⟩)
    · rw [if_neg hover]
      exact .inl rfl

/-- A claim that hands out an operation hands out one of the candidates left by the sweep. -/
theorem claim_cases (claim : OperationClaim) :
    (∃ e, s.claimSharedWorkerOperation c claim now = (.error e, s)) ∨
      (s.claimSharedWorkerOperation c claim now = (.error .sharedWorkerOperationNoWork, { s with
        sharedWorkerOperations := s.sharedWorkerOperations.mapValues (sweep now) })) ∨
      ∃ id o, (s.sharedWorkerOperations.mapValues (sweep now)).get? id = some o ∧
        s.Candidate claim now o ∧ claim.validAt now ∧
        s.OwnedBy c claim.workerID claim.ownerParticipantID claim.ownerDeviceID now ∧
        s.claimSharedWorkerOperation c claim now =
          (.ok { o.claimedBy claim now with connectionGrantID := uuidNil }, { s with
            sharedWorkerOperations := (s.sharedWorkerOperations.mapValues (sweep now)).set
              o.operationID (o.claimedBy claim now) }) := by
  unfold claimSharedWorkerOperation
  split
  · exact .inl ⟨_, rfl⟩
  · rename_i hchecked
    rw [not_not] at hchecked
    simp only
    split
    · exact .inr (.inl rfl)
    · rename_i selected hselected
      have hmem := List.mem_of_mem_head? (Option.mem_def.mpr hselected)
      rw [List.mem_insertionSort, List.mem_filter, decide_eq_true_eq, List.mem_map] at hmem
      obtain ⟨⟨⟨id, o⟩, hpair, rfl⟩, hcandidate⟩ := hmem
      exact .inr (.inr ⟨id, o, GoMap.mem_pairs.mp hpair, hcandidate, hchecked.1, hchecked.2.2, rfl⟩)

end MemoryStore

/-- What is demanded of a response matters for one only. -/
theorem Request.changes_of {D : Demand} (c : Suite) (now : Int) (s : MemoryStore) (r : Request)
    (hD : ∀ response o, r = .complete response → s.Completable c o response now →
      D s o response now) :
    Change c D now s r (r.outcome c now s).2 := by
  cases r with
  | start state =>
    simp only [Request.outcome, MemoryStore.start, Prod.map_snd]
    split
    · exact .same _
    · rename_i hnone
      exact .state _ (hnone ▸ .start state)
  | claimBox activation owner =>
    simp only [Request.outcome, MemoryStore.claim, Prod.map_snd]
    split
    · exact .same _
    · rename_i state hstate
      split_ifs with hclaimed hverifier
      · exact .same _
      · exact .same _
      · exact .state _ (hstate ▸ .claim hclaimed)
  | createGrant grant =>
    simp only [Request.outcome, MemoryStore.createGrant, Prod.map_snd]
    split
    · exact .same _
    · exact .grants _ _
  | revokeGrant grantID =>
    simp only [Request.outcome, MemoryStore.revokeGrant, Prod.map_snd]
    split
    · exact .same _
    · exact .grants _ _
  | revokeAllGrants => exact .grants _ _
  | pin e =>
    simp only [Request.outcome, MemoryStore.pinOwnerApprovedParticipant,
      MemoryStore.pinParticipantLocked, Prod.map_snd]
    split
    · rename_i hchecked
      split
      · exact .same _
      · rename_i hnew
        split
        · exact .same _
        · exact .pin e hchecked.1 hnew
    · exact .same _
  | revokeParticipant boxID participantID =>
    simp only [Request.outcome, MemoryStore.revokePinnedParticipant, Prod.map_snd]
    split
    · exact .same _
    · rename_i e hpinned
      split_ifs with hchecked hunrevoked
      · have hnow : now ≠ 0 := ne_of_gt hchecked.2.2.1
        exact .revoke _ hpinned (fun h => hnow h.1) (fun h => hnow h.1)
      · exact .same _
      · exact .same _
  | revokeDevice boxID participantID deviceID =>
    simp only [Request.outcome, MemoryStore.revokePinnedParticipantDevice, Prod.map_snd]
    split
    · exact .same _
    · rename_i e hpinned
      split_ifs with hchecked hunrevoked
      · exact .revoke _ hpinned (fun h => absurd h.2 (Nat.ne_of_gt (Nat.zero_lt_of_lt hunrevoked)))
          (fun h => absurd h.2 (Nat.lt_irrefl _))
      · exact .same _
      · exact .same _
  | issueChallenge challenge =>
    simp only [Request.outcome, MemoryStore.issueParticipantChallenge, Prod.map_snd]
    split_ifs with hchecked
    · exact .issue challenge hchecked.2.2.2
    · exact .same _
  | consumeChallenge boxID participantID deviceID challengeID =>
    simp only [Request.outcome, MemoryStore.consumeParticipantChallenge, Prod.map_snd]
    split
    · exact .same _
    · rename_i state hissued
      split_ifs with hchecked
      · obtain ⟨-, -, -, -, ⟨-, -, -, -, hpositive, hstarted, -⟩, -⟩ := hchecked
        exact .consume _ hissued (ne_of_gt (lt_of_lt_of_le hpositive hstarted))
      · exact .same _
  | upsertWorker w =>
    simp only [Request.outcome, MemoryStore.upsertSharedWorker, Prod.map_snd]
    split_ifs with hchecked
    · exact .upsert _ w
    · exact .same _
  | withdrawWorker boxID workerID participantID deviceID revision =>
    simp only [Request.outcome, MemoryStore.withdrawSharedWorker, Prod.map_snd]
    split_ifs
    · exact .withdraw _ _
    · exact .same _
  | requestAccess request =>
    simp only [Request.outcome, MemoryStore.createSharedWorkerAccessRequest, Prod.map_snd]
    split_ifs
    · exact .same _
    · exact .requests _ _
    · exact .same _
  | readAccess requestID grantID =>
    simp only [Request.outcome, MemoryStore.sharedWorkerAccessRequest, Prod.map_snd]
    split
    · exact .same _
    · -- whatever is answered, at most the table of requests is written
      split_ifs <;> first
        | exact .requests _ _
        | (split <;> exact .requests _ _)
  | confirmAccess grant code =>
    simp only [Request.outcome, MemoryStore.confirmSharedWorkerAccess, Prod.map_snd]
    split
    · exact .same _
    · split
      · exact .same _
      · split
        · split
          · exact .requests _ _
          · exact .requests _ _
        · split
          · exact .same _
          · exact .confirm grant code _
  | revokeAccess boxID grantID owner revision =>
    simp only [Request.outcome, MemoryStore.revokeSharedWorkerAccess, Prod.map_snd]
    split
    · exact .same _
    · split_ifs
      · exact .revokeAccess _ _ _
      · exact .same _
  | enqueue o =>
    simp only [Request.outcome, MemoryStore.enqueueSharedWorkerOperation, Prod.map_snd]
    split
    · exact .same _
    · rename_i hvalid
      split
      · exact .same _
      · rename_i hnew
        split
        · rename_i henqueueable
          obtain ⟨-, ⟨e, he, -, hinitial⟩, -⟩ := henqueueable
          exact .enqueue o (not_not.mp hvalid) hnew
            ⟨e, he, Enrollment.active_of_validInitialAt hinitial⟩
        · exact .same _
  | claim claim =>
    simp only [Request.outcome, Prod.map_snd]
    obtain ⟨e, heq⟩ | heq | ⟨id, o, hfound, hcandidate, -, -, heq⟩ :=
      @MemoryStore.claim_cases c s now claim
    · rw [heq]
      exact .same _
    · rw [heq]
      exact .sweep _ (MemoryStore.swept_sweep now)
    · rw [heq]
      exact .handOut claim (MemoryStore.swept_sweep now) hfound hcandidate.2.1
  | complete response =>
    simp only [Request.outcome, MemoryStore.completeSharedWorkerOperation, Prod.map_snd]
    split
    · exact .same _
    · split
      · exact .same _
      · rename_i o hfound
        split
        · exact .same _
        · split
          · rename_i hcompletable
            exact .complete response hfound hcompletable.1 (hD response o rfl hcompletable)
          · exact .same _
  | readStatus operationID grantID =>
    simp only [Request.outcome, MemoryStore.sharedWorkerOperationStatus, Prod.map_snd]
    split
    · exact .same _
    · rename_i o hfound
      split
      · exact .same _
      · split
        · rename_i hoverdue
          exact .expire _ hfound hoverdue
        · exact .same _

/-- **Every request to the in-memory store is one of the changes.** -/
theorem Request.changes (c : Suite) (now : Int) (s : MemoryStore) (r : Request) :
    Change c (fun s o response now => s.Completable c o response now) now s r
      (r.outcome c now s).2 :=
  Request.changes_of c now s r fun _ _ _ h => h

end FacetsNode.Box
