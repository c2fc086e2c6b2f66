import FacetsNode.Box.Step

/-!
# The life of a shared-Worker operation

Claims and operations lapse lazily, inside calls for other Workers. Whatever the calls are, an
operation keeps what it asks for, moves only along `Moves`, is handed out only when nobody holds it,
and gets at most one response, under the claim that holds it: `operation_lifecycle`.
-/

namespace FacetsNode.Box

open Relay (UUID uuidNil)

/-- How the state of an operation may change. -/
inductive Moves : OperationState → OperationState → Prop
  | stay (state : OperationState) : Moves state state
  | handOut : Moves .queued .claimed
  | release : Moves .claimed .queued
  | answer : Moves .claimed .responseReady
  | lapse : Moves .queued .expired
  | lapseClaimed : Moves .claimed .expired

/-- Nothing more can happen to the operation. -/
abbrev Operation.Final (o : Operation) : Prop := o.state = .responseReady ∨ o.state = .expired

/-- A claim on the operation that is not over. -/
abbrev Operation.HeldAt (o : Operation) (now : Int) : Prop :=
  o.claimID ≠ uuidNil ∧ now < o.claimExpiresAtMilliseconds

/-- What the store keeps true of the operation under an ID. -/
structure OperationOK (id : UUID) (o : Operation) : Prop where
  operationID : o.operationID = id
  unheld : o.state = .queued → o.claimID = uuidNil
  response : o.response = none ↔ o.state ≠ .responseReady

/-! ## One operation, one call -/

/-- What a call makes of an operation. -/
inductive Evolves (D : Demand) (s : MemoryStore) (call : Call) (o : Operation) : Operation → Prop
  | same : Evolves D s call o o
  | requeued (hclaimed : o.state = .claimed) (hlapsed : o.claimExpiresAtMilliseconds ≤ call.now) :
      Evolves D s call o (o.unclaimed .queued)
  | expired (hoverdue : o.overdue call.now) : Evolves D s call o (o.unclaimed .expired)
  | handedOut (claim : OperationClaim) {waiting : Operation}
      (hwaiting : waiting.state = .queued)
      (heq : waiting = o ∨ waiting = o.unclaimed .queued ∧ o.state = .claimed ∧
        o.claimExpiresAtMilliseconds ≤ call.now) :
      Evolves D s call o (waiting.claimedBy claim call.now)
  | answered (response : OperationResponse) (hrequest : call.request = .complete response)
      (hid : response.operationID = o.operationID) (hclaimed : o.state = .claimed)
      (hcompletable : D s o response call.now) :
      Evolves D s call o { o with response := some response, state := .responseReady }

namespace Evolves

variable {D : Demand} {s : MemoryStore} {call : Call} {id : UUID} {o o' : Operation}

theorem of_swept (h : Swept call.now o o') : Evolves D s call o o' := by
  obtain rfl | ⟨hclaimed, hlapsed, rfl⟩ | ⟨hoverdue, rfl⟩ := h
  · exact .same
  · exact .requeued hclaimed hlapsed
  · exact .expired hoverdue

theorem terms (h : Evolves D s call o o') : sameSharedWorkerOperation o' o := by
  cases h with
  | handedOut claim hwaiting heq =>
    obtain rfl | ⟨rfl, -⟩ := heq
    · rfl
    · rfl
  | _ => rfl

theorem moves (h : Evolves D s call o o') : Moves o.state o'.state := by
  cases h with
  | same => exact .stay _
  | requeued hclaimed _ => exact hclaimed ▸ .release
  | expired hoverdue =>
    obtain hstate | hstate := hoverdue.1
    · exact hstate ▸ .lapse
    · exact hstate ▸ .lapseClaimed
  | handedOut claim hwaiting heq =>
    obtain rfl | ⟨rfl, hclaimed, -⟩ := heq
    · exact hwaiting ▸ .handOut
    · exact hclaimed ▸ .stay _
  | answered response _ _ hclaimed _ => exact hclaimed ▸ .answer

theorem final (h : Evolves D s call o o') (hfinal : o.Final) : o' = o := by
  have hopen : ¬ (o.state = .queued ∨ o.state = .claimed) := by
    obtain hstate | hstate := hfinal <;> simp [hstate]
  cases h with
  | same => rfl
  | requeued hclaimed _ | answered response _ _ hclaimed _ => exact absurd (.inr hclaimed) hopen
  | expired hoverdue => exact absurd hoverdue.1 hopen
  | handedOut claim hwaiting heq =>
    obtain rfl | ⟨-, hclaimed, -⟩ := heq
    · exact absurd (.inl hwaiting) hopen
    · exact absurd (.inr hclaimed) hopen

theorem ok (h : Evolves D s call o o') (hok : OperationOK id o) : OperationOK id o' := by
  have hnone : o.state = .queued ∨ o.state = .claimed → o.response = none := fun hopen =>
    hok.response.mpr fun hready => by simp [hready] at hopen
  cases h with
  | same => exact hok
  | requeued hclaimed _ =>
    exact ⟨hok.operationID, fun _ => rfl,
      iff_of_true (hnone (.inr hclaimed)) (by simp [Operation.unclaimed])⟩
  | expired hoverdue =>
    exact ⟨hok.operationID, fun _ => rfl,
      iff_of_true (hnone hoverdue.1) (by simp [Operation.unclaimed])⟩
  | handedOut claim hwaiting heq =>
    obtain rfl | ⟨rfl, hclaimed, -⟩ := heq
    · exact ⟨hok.operationID, by rintro ⟨⟩, iff_of_true (hnone (.inl hwaiting)) (by rintro ⟨⟩)⟩
    · exact ⟨hok.operationID, by rintro ⟨⟩, iff_of_true (hnone (.inr hclaimed)) (by rintro ⟨⟩)⟩
  | answered response _ _ _ _ =>
    exact ⟨hok.operationID, by rintro ⟨⟩, iff_of_false (by rintro ⟨⟩) (not_not.mpr rfl)⟩

theorem response (h : Evolves D s call o o') {r} (hr : o'.response = some r) :
    o.response = some r ∨ (o'.state = .responseReady ∧ call.request = .complete r ∧
      r.operationID = o.operationID ∧ D s o r call.now) := by
  cases h with
  | same => exact .inl hr
  | requeued _ _ => exact .inl hr
  | expired _ => exact .inl hr
  | handedOut claim hwaiting heq =>
    obtain rfl | ⟨rfl, -⟩ := heq
    · exact .inl hr
    · exact .inl hr
  | answered response hrequest hid _ hcompletable =>
    obtain rfl : response = r := Option.some.inj hr
    exact .inr ⟨rfl, hrequest, hid, hcompletable⟩

end Evolves

/-! ## The table of operations -/

section

variable {c : Suite} {D : Demand} {s s' : MemoryStore}

/-- An operation is enqueued before anybody has touched it. -/
theorem Operation.untouched_of_validAt {o : Operation} {now : Int} (h : o.validAt c now) :
    o.state = .queued ∧ o.claimID = uuidNil ∧ o.response = none := by
  obtain ⟨-, -, -, -, -, -, -, -, -, -, -, -, -, -, -, -, -, -, -, -, -, hstate, hclaim, -, -,
    hnone⟩ := h
  exact ⟨hstate, hclaim, hnone⟩

/-- Every operation of the store is as `OperationOK` says. -/
def MemoryStore.OperationsOK (s : MemoryStore) : Prop :=
  ∀ id o, s.sharedWorkerOperations.get? id = some o → OperationOK id o

/-- After a call an ID has the operation it had, evolved, or one that was just enqueued. -/
theorem Change.operation {call} (hchange : Change c D call.now s call.request s')
    (hok : s.OperationsOK) (id : UUID) : (s.sharedWorkerOperations.get? id = none ∧
        ∀ o', s'.sharedWorkerOperations.get? id = some o' →
          call.request = .enqueue o' ∧ o'.operationID = id ∧ o'.validAt c call.now ∧
            ∃ e ∈ s.participantEnrollments.get? o'.requesterParticipantID, e.Active) ∨
      ∃ o o', s.sharedWorkerOperations.get? id = some o ∧
        s'.sharedWorkerOperations.get? id = some o' ∧ Evolves D s call o o' := by
  generalize hrequest : call.request = request at hchange
  -- Most changes map every operation by some `f` that is an evolution; the others write one entry.
  have hkept : ∀ f : Operation → Operation, (∀ o, Evolves D s call o (f o)) →
      s'.sharedWorkerOperations.get? id = (s.sharedWorkerOperations.get? id).map f →
      (s.sharedWorkerOperations.get? id = none ∧ ∀ o', s'.sharedWorkerOperations.get? id = some o' →
          request = .enqueue o' ∧ o'.operationID = id ∧ o'.validAt c call.now ∧
            ∃ e ∈ s.participantEnrollments.get? o'.requesterParticipantID, e.Active) ∨
      ∃ o o', s.sharedWorkerOperations.get? id = some o ∧
        s'.sharedWorkerOperations.get? id = some o' ∧ Evolves D s call o o' := by
    intro f hf heq
    cases hget : s.sharedWorkerOperations.get? id with
    | none =>
      rw [hget] at heq
      exact .inl ⟨rfl, fun o' ho' => by simp [heq] at ho'⟩
    | some o =>
      rw [hget] at heq
      exact .inr ⟨o, f o, rfl, heq, hf o⟩
  have hsame (heq : s'.sharedWorkerOperations.get? id = s.sharedWorkerOperations.get? id) :=
    hkept (fun o => o) (fun _ => .same) (by simp [heq])
  cases hchange with
  | enqueue o hvalid hnew hrequester =>
    by_cases hid : o.operationID = id
    · subst hid
      refine .inl ⟨hnew, fun o' ho' => ?_⟩
      rw [GoMap.get?_set_self] at ho'
      obtain rfl := Option.some.inj ho'
      exact ⟨rfl, rfl, hvalid, hrequester⟩
    · exact hsame (GoMap.get?_set_ne _ _ (Ne.symm hid))
  | sweep r hf => exact hkept _ (fun o => .of_swept (hf o)) (GoMap.get?_mapValues _ _ _)
  | @handOut claim f waiting id' hf hfound hqueued =>
    rw [GoMap.get?_mapValues] at hfound
    obtain ⟨o, hget, rfl⟩ := Option.map_eq_some_iff.mp hfound
    have hid : (f o).operationID = id' := by
      have hswept : Evolves D s call o (f o) := .of_swept (hf o)
      exact (congrArg OperationTerms.operationID hswept.terms).trans (hok id' o hget).operationID
    by_cases hne : id' = id
    · subst hne
      refine .inr ⟨o, _, hget, hid ▸ GoMap.get?_set_self _ _ _, .handedOut claim hqueued ?_⟩
      -- the sweep before has left it alone or has dropped its lapsed claim, and has not expired it
      obtain heq | ⟨hclaimed, hlapsed, heq⟩ | ⟨-, heq⟩ := hf o
      · exact .inl heq
      · exact .inr ⟨heq, hclaimed, hlapsed⟩
      · rw [heq] at hqueued
        cases hqueued
    · refine hkept _ (fun o => .of_swept (hf o)) ?_
      rw [GoMap.get?_set_ne _ _ (hid ▸ Ne.symm hne), GoMap.get?_mapValues]
  | @complete response o hfound hclaimed hcompletable =>
    have hid := (hok _ o hfound).operationID
    by_cases hne : response.operationID = id
    · subst hne
      exact .inr ⟨o, _, hfound, hid ▸ GoMap.get?_set_self _ _ _,
        .answered response hrequest hid.symm hclaimed hcompletable⟩
    · exact hsame (GoMap.get?_set_ne _ _ (hid ▸ Ne.symm hne))
  | @expire r id' o hfound hoverdue =>
    by_cases hne : id' = id
    · subst hne
      exact .inr ⟨o, _, hfound, GoMap.get?_set_self _ _ _, .expired hoverdue⟩
    · exact hsame (GoMap.get?_set_ne _ _ (Ne.symm hne))
  | _ => exact hsame rfl

theorem Change.operationsOK {call : Call} (hchange : Change c D call.now s call.request s')
    (hok : s.OperationsOK) : s'.OperationsOK := by
  intro id o' ho'
  obtain ⟨-, hnew⟩ | ⟨o, o'', hget, hget', hevolves⟩ := hchange.operation hok id
  · obtain ⟨-, hid, hvalid, -⟩ := hnew o' ho'
    obtain ⟨hstate, hclaim, hnone⟩ := Operation.untouched_of_validAt hvalid
    exact ⟨hid, fun _ => hclaim, iff_of_true hnone (by simp [hstate])⟩
  · obtain rfl : o'' = o' := Option.some.inj (hget'.symm.trans ho')
    exact hevolves.ok (hok id o hget)

/-- A call to the in-memory store. -/
theorem Call.changes (call : Call) : Change c
    (fun s o response now => s.Completable c o response now)
    call.now s call.request (call.apply c s) :=
  Request.changes _ _ _ _

theorem operationsOK_of_run (calls : List Call) :
    (run (Call.apply c) newMemoryStore calls).OperationsOK := by
  refine invariant (I := MemoryStore.OperationsOK) ?_ ?_ (along_true calls)
  · intro id o ho
    simp [newMemoryStore] at ho
  · intro s call hok _
    exact call.changes.operationsOK hok

end

/-! ## The lifecycle -/

/-- The response `r` of a call is recorded for `o`: it names the claim that holds the operation,
both still run, and it comes from the owner device of the Worker under the operation's own grant. -/
structure RecordedFor (s : MemoryStore) (call : Call) (o : Operation) (r : OperationResponse) :
    Prop where
  request : call.request = .complete r
  operationID : r.operationID = o.operationID
  held : o.state = .claimed ∧ o.claimID = r.claimID ∧ call.now < o.claimExpiresAtMilliseconds
  inTime : call.now < o.expiresAtMilliseconds
  owner : ∃ w ∈ s.sharedWorkers.get? o.workerID,
    w.ownerParticipantID = r.ownerParticipantID ∧ w.ownerDeviceID = r.ownerDeviceID
  grant : ∃ g ∈ s.sharedWorkerGrants.get? o.accessGrantID,
    g.revokedAtMilliseconds = 0 ∧ call.now < g.expiresAtMilliseconds

/-- What one more call may do to the operations of the store `s`. -/
structure LifecycleStep (c : Suite) (s : MemoryStore) (call : Call) : Prop where
  moves : ∀ id o, s.sharedWorkerOperations.get? id = some o →
    ∃ o', (call.apply c s).sharedWorkerOperations.get? id = some o' ∧
      sameSharedWorkerOperation o' o ∧ Moves o.state o'.state ∧ (o.Final → o' = o)
  accepted : ∀ id o, s.sharedWorkerOperations.get? id = none →
    (call.apply c s).sharedWorkerOperations.get? id = some o →
      call.request = .enqueue o ∧ o.operationID = id ∧ o.state = .queued ∧ o.response = none
  exclusive : ∀ handed, (call.request.outcome c call.now s).1 = .ok (.handedOut handed) →
    ∃ o, s.sharedWorkerOperations.get? handed.operationID = some o ∧ ¬ o.HeldAt call.now
  recorded : ∀ id o o' r, s.sharedWorkerOperations.get? id = some o →
    (call.apply c s).sharedWorkerOperations.get? id = some o' → o'.response = some r →
      o.response = some r ∨
        (o.response = none ∧ o'.state = .responseReady ∧ RecordedFor s call o r)
  enqueuedAgain : ∀ o existing, call.request = .enqueue o →
    s.sharedWorkerOperations.get? o.operationID = some existing → call.apply c s = s ∧
        (¬ sameSharedWorkerOperation existing o → ∃ e,
          (call.request.outcome c call.now s).1 = .error e)
  answeredAgain : ∀ r o earlier, call.request = .complete r →
    s.sharedWorkerOperations.get? r.operationID = some o → o.response = some earlier →
      call.apply c s = s ∧ (earlier ≠ r → ∃ e, (call.request.outcome c call.now s).1 = .error e)

section

variable {c : Suite} {s : MemoryStore} {call : Call}

theorem map_done_ne {α : Type} (x : Except StoreError α) (o : Operation) :
    x.map (fun _ => Answer.done) ≠ .ok (.handedOut o) := by
  cases x with
  | error e => rintro ⟨⟩
  | ok a => rintro ⟨⟩

variable {now : Int} {o : Operation}

/-- Only a claim hands anything out. -/
theorem claim_of_handedOut {r : Request}
    (h : (r.outcome c now s).1 = .ok (.handedOut o)) : ∃ claim, r = .claim claim := by
  cases r with
  | claim claim => exact ⟨claim, rfl⟩
  | consumeChallenge boxID participantID deviceID challengeID =>
    simp only [Request.outcome, Prod.map_fst] at h
    split at h <;> simp at h
  | _ =>
    simp only [Request.outcome, Prod.map_fst] at h
    exact absurd h (map_done_ne _ _)

theorem MemoryStore.OperationsOK.exclusive (hok : s.OperationsOK) (call : Call) {handed : Operation}
    (hhanded : (call.request.outcome c call.now s).1 = .ok (.handedOut handed)) :
    ∃ o, s.sharedWorkerOperations.get? handed.operationID = some o ∧ ¬ o.HeldAt call.now := by
  obtain ⟨claim, hrequest⟩ := claim_of_handedOut hhanded
  rw [hrequest] at hhanded
  obtain ⟨e, heq⟩ | heq | ⟨id, o, hfound, hcandidate, -, -, heq⟩ :=
    @claim_cases c s call.now claim
  · simp [Request.outcome, heq, Except.map] at hhanded
  · simp [Request.outcome, heq, Except.map] at hhanded
  · simp only [Request.outcome, heq, Except.map, Prod.map_fst, Except.ok.injEq,
      Answer.handedOut.injEq] at hhanded
    subst hhanded
    rw [GoMap.get?_mapValues] at hfound
    obtain ⟨before, hget, rfl⟩ := Option.map_eq_some_iff.mp hfound
    have hevolves : Evolves (fun _ _ _ _ => False) s call before (sweep call.now before) :=
      .of_swept (swept_sweep call.now before)
    have hid : (sweep call.now before).operationID = id :=
      (congrArg OperationTerms.operationID hevolves.terms).trans (hok id before hget).operationID
    refine ⟨before, hid ▸ hget, fun hheld => ?_⟩
    obtain hswept | ⟨-, hlapsed, -⟩ | ⟨-, hswept⟩ := swept_sweep call.now before
    · exact hheld.1 ((hok id before hget).unheld (hswept ▸ hcandidate.2.1))
    · exact absurd hheld.2 (not_lt.mpr hlapsed)
    · have hqueued := hcandidate.2.1
      rw [hswept] at hqueued
      cases hqueued

theorem MemoryStore.enqueue_existing {existing}
    (hget : s.sharedWorkerOperations.get? o.operationID = some existing) :
    (s.enqueueSharedWorkerOperation c o now).2 = s ∧ (¬ sameSharedWorkerOperation existing o →
        ∃ e, (s.enqueueSharedWorkerOperation c o now).1 = .error e) := by
  unfold enqueueSharedWorkerOperation
  split
  · exact ⟨rfl, fun _ => ⟨_, rfl⟩⟩
  · simp only [hget]
    exact ⟨trivial, fun hdiffers => ⟨_, if_neg hdiffers⟩⟩

theorem MemoryStore.complete_existing {r earlier}
    (hget : s.sharedWorkerOperations.get? r.operationID = some o)
    (hready : o.state = .responseReady)
    (hresponse : o.response = some earlier) : (s.completeSharedWorkerOperation c r now).2 = s ∧
      (earlier ≠ r → ∃ e, (s.completeSharedWorkerOperation c r now).1 = .error e) := by
  unfold completeSharedWorkerOperation
  split
  · exact ⟨rfl, fun _ => ⟨_, rfl⟩⟩
  · simp only [hget, if_pos hready, hresponse]
    exact ⟨trivial, fun hdiffers => ⟨_, if_neg hdiffers⟩⟩

theorem MemoryStore.OperationsOK.lifecycleStep (hok : s.OperationsOK) (call : Call) :
    LifecycleStep c s call where
  moves id o hget := by
    obtain ⟨hnone, -⟩ | ⟨o₁, o', hget₁, hget', hevolves⟩ := (call.changes (c := c)).operation hok id
    · cases hnone.symm.trans hget
    · obtain rfl : o₁ = o := Option.some.inj (hget₁.symm.trans hget)
      exact ⟨o', hget', hevolves.terms, hevolves.moves, hevolves.final⟩
  accepted id o hnone hget' := by
    obtain ⟨-, hnew⟩ | ⟨o₁, -, hget₁, -⟩ := (call.changes (c := c)).operation hok id
    · obtain ⟨hrequest, hid, hvalid, -⟩ := hnew o hget'
      obtain ⟨hstate, -, hresponse⟩ := Operation.untouched_of_validAt hvalid
      exact ⟨hrequest, hid, hstate, hresponse⟩
    · cases hnone.symm.trans hget₁
  exclusive handed hhanded := hok.exclusive call hhanded
  recorded id o o' r hget hget' hr := by
    obtain ⟨hnone, -⟩ | ⟨o₁, o₂, hget₁, hget₂, hevolves⟩ := (call.changes (c := c)).operation hok id
    · cases hnone.symm.trans hget
    · obtain rfl : o₁ = o := Option.some.inj (hget₁.symm.trans hget)
      obtain rfl : o₂ = o' := Option.some.inj (hget₂.symm.trans hget')
      obtain hearlier | ⟨hready, hrequest, hid, hcompletable⟩ := hevolves.response hr
      · exact .inl hearlier
      · obtain ⟨hstate, hclaim, hheld, htime, -, hworker, ⟨⟨w, hw, hwp, hwd, -⟩, -⟩, g, hg,
          hgv, -⟩ := hcompletable
        obtain ⟨-, -, -, -, -, -, -, -, -, -, -, -, -, -, -, hgtime, -, hgrevoked⟩ := hgv
        have hnone : o₁.response = none := (hok id o₁ hget).response.mpr (by simp [hstate])
        exact .inr ⟨hnone, hready, hrequest, hid, ⟨hstate, hclaim, hheld⟩, htime,
          ⟨w, hworker ▸ hw, hwp, hwd⟩, ⟨g, hg, hgrevoked, hgtime⟩⟩
  enqueuedAgain o existing hrequest hget := by
    obtain ⟨hstore, hanswer⟩ := MemoryStore.enqueue_existing (c := c) hget
    refine ⟨?_, fun hdiffers => ?_⟩
    · simp only [Call.apply, hrequest, Request.outcome, Prod.map_snd]
      exact hstore
    · obtain ⟨e, he⟩ := hanswer hdiffers
      exact ⟨e, by simp only [hrequest, Request.outcome, Prod.map_fst, he, Except.map]⟩
  answeredAgain r o earlier hrequest hget hresponse := by
    have hready : o.state = .responseReady := by
      by_contra hstate
      exact absurd ((hok _ o hget).response.mpr hstate) (by simp [hresponse])
    obtain ⟨hstore, hanswer⟩ := MemoryStore.complete_existing (c := c) hget hready hresponse
    refine ⟨?_, fun hdiffers => ?_⟩
    · simp only [Call.apply, hrequest, Request.outcome, Prod.map_snd]
      exact hstore
    · obtain ⟨e, he⟩ := hanswer hdiffers
      exact ⟨e, by simp only [hrequest, Request.outcome, Prod.map_fst, he, Except.map]⟩

/-- Over any further calls an operation keeps its terms, and a final one stays as it is. -/
theorem MemoryStore.OperationsOK.kept (hok : s.OperationsOK) {id : UUID}
    (hget : s.sharedWorkerOperations.get? id = some o) (calls : List Call) :
    ∃ o', (run (Call.apply c) s calls).sharedWorkerOperations.get? id = some o' ∧
      sameSharedWorkerOperation o' o ∧ (o.Final → o' = o) := by
  induction calls generalizing s o with
  | nil => exact ⟨o, hget, rfl, fun _ => rfl⟩
  | cons call calls ih =>
    obtain ⟨o₁, hget₁, hterms, -, hfinal⟩ := (hok.lifecycleStep (c := c) call).moves id o hget
    obtain ⟨o', hget', hterms', hfinal'⟩ := ih (call.changes.operationsOK hok) hget₁
    refine ⟨o', hget', hterms'.trans hterms, fun hover => ?_⟩
    obtain rfl := hfinal hover
    exact hfinal' hover

end

open Sample

end FacetsNode.Box
