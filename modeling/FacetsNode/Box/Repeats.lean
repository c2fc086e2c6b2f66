import FacetsNode.Box.Cutoff

/-!
# Requests that are sent again

An advertisement has a revision and a claim an ID, so that a repeated request can be told from a new
one. But the directory forgets the revision of a Worker with its advertisement, and a claim never
looks at the IDs of the claims before it: a replayed advertisement is accepted after a withdrawal
(`replay_accepted`), and a repeated claim takes a second operation (`repeated_claim_takes_next`).
-/

namespace FacetsNode.Box

open Relay (UUID)

variable {c : Suite} {D : Demand} {s s' : MemoryStore} {now : Int} {r : Request}

/-! ## Claims -/

/-- No two operations are claimed under one ID. -/
def MemoryStore.ClaimsApart (s : MemoryStore) : Prop :=
  ∀ i j o p, s.sharedWorkerOperations.get? i = some o → s.sharedWorkerOperations.get? j = some p →
    o.state = .claimed → p.state = .claimed → o.claimID = p.claimID → i = j

/-- A claim that is answered with an operation comes under an ID that no running claim has. -/
def Call.newClaim (c : Suite) (s : MemoryStore) (call : Call) : Bool :=
  match call.request with
  | .claim claim => !(s.claimSharedWorkerOperation c claim call.now).1.isOk ||
      s.sharedWorkerOperations.pairs.all fun p =>
        (MemoryStore.sweep call.now p.2).state ≠ .claimed || p.2.claimID ≠ claim.claimID
  | _ => true

namespace MemoryStore.ClaimsApart

/-- Nothing is newly claimed. -/
theorem of_claimed (h : s.ClaimsApart) (hold : ∀ id o, s'.sharedWorkerOperations.get? id = some o →
    o.state = .claimed → s.sharedWorkerOperations.get? id = some o) : s'.ClaimsApart :=
  fun i j o p hi hj ho hp => h i j o p (hold i o hi ho) (hold j p hj hp) ho hp

theorem claimed_of_swept {o o' : Operation} (h : Swept now o o') (hclaimed : o'.state = .claimed) :
    o' = o := by
  obtain rfl | ⟨-, -, rfl⟩ | ⟨-, rfl⟩ := h
  · rfl
  · cases hclaimed
  · cases hclaimed

theorem get?_of_swept {f : Operation → Operation} (hf : ∀ o, Swept now o (f o)) {id : UUID}
    {o : Operation} (hget : (s.sharedWorkerOperations.mapValues f).get? id = some o)
    (hclaimed : o.state = .claimed) : s.sharedWorkerOperations.get? id = some o ∧ f o = o := by
  rw [GoMap.get?_mapValues] at hget
  obtain ⟨before, hbefore, rfl⟩ := Option.map_eq_some_iff.mp hget
  have hsame := claimed_of_swept (hf before) hclaimed
  rw [hsame]
  exact ⟨hbefore, hsame⟩

/-- Every request but a claim. -/
theorem change (h : s.ClaimsApart) (hchange : Change c D now s r s')
    (hclaim : ∀ claim, r = .claim claim → s'.ClaimsApart) : s'.ClaimsApart := by
  cases hchange with
  | enqueue o hvalid =>
    refine h.of_claimed fun id o' hget hclaimed => ?_
    rw [GoMap.get?_set] at hget
    split at hget
    · obtain rfl := Option.some.inj hget
      cases (Operation.untouched_of_validAt hvalid).1.symm.trans hclaimed
    · exact hget
  | sweep _ hf => exact h.of_claimed fun id o hget hclaimed => (get?_of_swept hf hget hclaimed).1
  | handOut claim => exact hclaim claim rfl
  | complete | expire =>
    refine h.of_claimed fun id o' hget hclaimed => ?_
    rw [GoMap.get?_set] at hget
    split at hget
    · obtain rfl := Option.some.inj hget
      cases hclaimed
    · exact hget
  | _ => exact h

theorem step (h : s.ClaimsApart) {call : Call} (hnew : call.newClaim c s = true) :
    (call.apply c s).ClaimsApart := by
  refine h.change (call.changes (c := c)) fun claim hrequest => ?_
  simp only [Call.apply, hrequest, Request.outcome, Prod.map_snd]
  obtain ⟨e, heq⟩ | heq | ⟨id, o, hfound, -, -, -, heq⟩ := @claim_cases c s call.now claim
  · rw [heq]
    exact h
  · rw [heq]
    exact h.of_claimed fun id o hget hclaimed =>
      (get?_of_swept (swept_sweep call.now) hget hclaimed).1
  · -- Under the new ID only the operation is claimed that is handed out.
    simp only [Call.newClaim, hrequest, heq, Except.isOk, Except.toBool, Bool.not_true,
      Bool.false_or, List.all_eq_true, Bool.or_eq_true, decide_eq_true_eq] at hnew
    have hcases : ∀ i p, ((s.sharedWorkerOperations.mapValues (sweep call.now)).set o.operationID
        (o.claimedBy claim call.now)).get? i = some p → p.state = .claimed →
          i = o.operationID ∧ p.claimID = claim.claimID ∨
          s.sharedWorkerOperations.get? i = some p ∧ p.claimID ≠ claim.claimID := by
      intro i p hget hclaimed
      rw [GoMap.get?_set] at hget
      split at hget
      · next hid =>
        obtain rfl := Option.some.inj hget
        exact .inl ⟨hid, rfl⟩
      · obtain ⟨hget, hkept⟩ := get?_of_swept (swept_sweep call.now) hget hclaimed
        refine .inr ⟨hget, (hnew (i, p) (GoMap.mem_pairs.mpr hget)).resolve_left ?_⟩
        simpa [hkept] using hclaimed
    rw [heq]
    intro i j p q hi hj hp hq hsame
    obtain ⟨rfl, hip⟩ | ⟨hi, hip⟩ := hcases i p hi hp
    · obtain ⟨rfl, -⟩ | ⟨-, hjq⟩ := hcases j q hj hq
      · rfl
      · exact absurd (hsame.symm.trans hip) hjq
    · obtain ⟨rfl, hjq⟩ | ⟨hj, -⟩ := hcases j q hj hq
      · exact absurd (hsame.trans hjq) hip
      · exact h i j p q hi hj hp hq hsame

end MemoryStore.ClaimsApart

/-! ## Claims that are sent again -/

/-- While the claim and the operation run, nothing is done to a claimed operation but to answer
it. -/
theorem Evolves.claimed {call : Call} {o o' : Operation} (h : Evolves D s call o o')
    (hclaimed : o.state = .claimed) (hclaim : call.now < o.claimExpiresAtMilliseconds)
    (htime : call.now < o.expiresAtMilliseconds) : o' = o ∨ o'.response ≠ none := by
  cases h with
  | same => exact .inl rfl
  | requeued _ hlapsed => exact absurd hclaim (not_lt.mpr hlapsed)
  | expired hoverdue => exact absurd htime (not_lt.mpr hoverdue.2)
  | handedOut claim hwaiting heq =>
    obtain rfl | ⟨-, -, hlapsed⟩ := heq
    · cases hclaimed.symm.trans hwaiting
    · exact absurd hclaim (not_lt.mpr hlapsed)
  | answered response => exact .inr (Option.some_ne_none response)

/-- Over calls in that time it is the same operation, or it has been answered. -/
theorem MemoryStore.OperationsOK.claimed_run (hok : s.OperationsOK) {id : UUID} {o : Operation}
    (hget : s.sharedWorkerOperations.get? id = some o) (hclaimed : o.state = .claimed)
    (calls : List Call) (htimes : ∀ call ∈ calls,
      call.now < o.claimExpiresAtMilliseconds ∧ call.now < o.expiresAtMilliseconds) :
    ∃ o', (run (Call.apply c) s calls).sharedWorkerOperations.get? id = some o' ∧
      (o' = o ∨ o'.response ≠ none) := by
  induction calls generalizing s with
  | nil => exact ⟨o, hget, .inl rfl⟩
  | cons call calls ih =>
    obtain ⟨hclaim, htime⟩ := htimes call (List.mem_cons_self ..)
    have hok' := (call.changes (c := c)).operationsOK hok
    obtain ⟨hnone, -⟩ | ⟨o₁, o', hget₁, hget', hevolves⟩ := (call.changes (c := c)).operation hok id
    · cases hnone.symm.trans hget
    · obtain rfl : o₁ = o := Option.some.inj (hget₁.symm.trans hget)
      obtain rfl | hanswered := hevolves.claimed hclaimed hclaim htime
      · exact ih hok' hget' fun call hcall => htimes call (List.mem_cons_of_mem _ hcall)
      · -- an answer is final, and calls after it do not matter
        have hready : o'.state = .responseReady := by
          by_contra hstate
          exact hanswered ((hok' id o' hget').response.mpr hstate)
        obtain ⟨o'', hget'', -, hfinal⟩ := hok'.kept (c := c) hget' calls
        exact ⟨o'', hget'', .inr (hfinal (.inl hready) ▸ hanswered)⟩

/-- What is handed out is claimed in the store, as the answer says. -/
theorem claimed_of_handedOut {claim : OperationClaim} {handed : Operation}
    (h : (s.claimSharedWorkerOperation c claim now).1 = .ok handed) :
    claim.claimID ≠ Relay.uuidNil ∧
      ∃ o : Operation, o.expiresAtMilliseconds = handed.expiresAtMilliseconds ∧
      (s.claimSharedWorkerOperation c claim now).2.sharedWorkerOperations.get? handed.operationID =
        some (o.claimedBy claim now) := by
  obtain ⟨e, heq⟩ | heq | ⟨id, o, -, -, hvalid, -, heq⟩ := @MemoryStore.claim_cases c s now claim
  · simp [heq] at h
  · simp [heq] at h
  · rw [heq] at h ⊢
    obtain rfl := Except.ok.inj h
    exact ⟨hvalid.2.1, o, rfl, GoMap.get?_set_self _ _ _⟩

/-- **Claims.** A claim ID names one operation as long as no claim is accepted under the ID of a
running one. And no claim can be retried: an operation that was handed out stays claimed until it is
answered, while its claim and its own time run, and the claim, sent again, is never answered with
it. -/
theorem claims_apart_of_run (c : Suite) (calls : List Call) :
    (Along (Call.apply c) (fun s call => call.newClaim c s = true) newMemoryStore calls →
      (run (Call.apply c) newMemoryStore calls).ClaimsApart) ∧
    ∀ (claim : OperationClaim) (now : Int) (handed : Operation),
      ((run (Call.apply c) newMemoryStore calls).claimSharedWorkerOperation c claim now).1 =
        .ok handed →
      ∀ later : List Call, (∀ call ∈ later, call.now < claim.expiresAtMilliseconds ∧
        call.now < handed.expiresAtMilliseconds) →
      let s := run (Call.apply c) newMemoryStore (calls ++ ⟨now, .claim claim⟩ :: later)
      ∃ o, s.sharedWorkerOperations.get? handed.operationID = some o ∧
        (o.response = none → o.state = .claimed ∧ o.claimID = claim.claimID ∧
          o.claimExpiresAtMilliseconds = claim.expiresAtMilliseconds ∧
          ∀ now' again, now' < claim.expiresAtMilliseconds →
            (s.claimSharedWorkerOperation c claim now').1 = .ok again →
            again.operationID ≠ handed.operationID) := by
  refine ⟨fun hnew => ?_, fun claim now handed hhanded later htimes => ?_⟩
  · exact invariant (I := MemoryStore.ClaimsApart)
      (by simp [MemoryStore.ClaimsApart, newMemoryStore])
      (fun _ _ h => h.step) hnew
  · have hok : (run (Call.apply c) newMemoryStore (calls ++ [⟨now, .claim claim⟩])).OperationsOK :=
      operationsOK_of_run _
    obtain ⟨hid, o, hexpires, hget⟩ := claimed_of_handedOut hhanded
    have hstep : run (Call.apply c) newMemoryStore (calls ++ [⟨now, .claim claim⟩]) =
        ((run (Call.apply c) newMemoryStore calls).claimSharedWorkerOperation c claim now).2 := by
      rw [run_append]
      rfl
    rw [← hstep] at hget
    obtain ⟨o', hget', hcases⟩ := hok.claimed_run (c := c) hget rfl later
      fun call hcall => ⟨(htimes call hcall).1, hexpires ▸ (htimes call hcall).2⟩
    rw [← run_append, List.append_assoc, List.singleton_append] at hget'
    refine ⟨o', hget', fun hnone => ?_⟩
    obtain rfl : o' = o.claimedBy claim now := hcases.resolve_right fun h => h hnone
    refine ⟨rfl, rfl, rfl, fun now' again hrunning hagain hsame => ?_⟩
    -- what is handed out had no running claim, and this operation has one
    obtain ⟨o₁, hget₁, hfree⟩ := (operationsOK_of_run (c := c) _).exclusive (c := c)
      ⟨now', .claim claim⟩ (congrArg (Except.map Answer.handedOut) hagain)
    rw [hsame, hget'] at hget₁
    obtain rfl := Option.some.inj hget₁
    exact hfree ⟨hid, hrunning⟩

open Sample

/-- Two operations wait. -/
def waiting : List Call := setup ++ [⟨10, .enqueue { operation with operationID := uuid 64 }⟩]

/-- The owner claims them one after the other. -/
def claiming : List Call := waiting ++
  [⟨20, .claim operationClaim⟩, ⟨20, .claim { operationClaim with claimID := uuid 81 }⟩]

theorem claims_apart_sample :
    let s := run (Call.apply suite) newMemoryStore claiming
    let o : UUID → Option (OperationState × UUID) := fun id =>
      (s.sharedWorkerOperations.get? id).map fun o => (o.state, o.claimID)
    o (uuid 63) = some (.claimed, uuid 80) ∧ o (uuid 64) = some (.claimed, uuid 81) ∧
      s.ClaimsApart ∧
      ∀ now' again, now' < 400 → (s.claimSharedWorkerOperation suite operationClaim now').1 =
        .ok again → again.operationID ≠ uuid 63 := by
  have hhanded : ((run (Call.apply suite) newMemoryStore waiting).claimSharedWorkerOperation suite
      operationClaim 20).1 = .ok { operation.claimedBy operationClaim 20 with
        connectionGrantID := Relay.uuidNil } := by decide +kernel
  have hnone : ((run (Call.apply suite) newMemoryStore claiming).sharedWorkerOperations.get?
      (uuid 63)).bind (·.response) = none := by decide +kernel
  obtain ⟨o, hget, hheld⟩ := (claims_apart_of_run suite waiting).2 operationClaim 20 _ hhanded
    [⟨20, .claim { operationClaim with claimID := uuid 81 }⟩] (by decide)
  have hunanswered : o.response = none := by
    rw [← hnone]
    exact (congrArg (Option.bind · (·.response)) hget).symm
  exact ⟨by decide +kernel, by decide +kernel,
    (claims_apart_of_run suite claiming).1 (by decide +kernel), (hheld hunanswered).2.2.2⟩

/-- Two operations wait, and the owner has claimed one. -/
def claimed : MemoryStore :=
  run (Call.apply suite) newMemoryStore (waiting ++ [⟨20, .claim operationClaim⟩])

/-- The owner sends its claim again: it gets another operation, and both are claimed under one
ID. -/
theorem repeated_claim_takes_next :
    let o : MemoryStore → UUID → Option (OperationState × UUID) := fun s id =>
      (s.sharedWorkerOperations.get? id).map fun o => (o.state, o.claimID)
    let again := claimed.claimSharedWorkerOperation suite operationClaim 20
    o claimed (uuid 63) = some (.claimed, uuid 80) ∧
      again.1.toOption.map (·.operationID) = some (uuid 64) ∧
      o again.2 (uuid 63) = some (.claimed, uuid 80) ∧
        o again.2 (uuid 64) = some (.claimed, uuid 80) := by
  decide +kernel

/-! ## Advertisements -/

/-- What an advertisement or a withdrawal says of a Worker: its owner's participant and device, and
a revision. -/
structure Notice where
  workerID : UUID
  owner : UUID × UUID
  revision : Nat

def Worker.notice (w : Worker) : Notice :=
  ⟨w.workerID, (w.ownerParticipantID, w.ownerDeviceID), w.revision⟩

def Request.notice : Request → Option Notice
  | .upsertWorker w => some w.notice
  | .withdrawWorker _ workerID participantID deviceID revision =>
    some ⟨workerID, (participantID, deviceID), revision⟩
  | _ => none

/-- A later notice of the same Worker has the same owner, and a higher revision. -/
def Notice.Follows (n m : Notice) : Prop :=
  n.workerID = m.workerID → n.owner = m.owner ∧ m.revision < n.revision

instance (n m : Notice) : Decidable (n.Follows m) := inferInstanceAs (Decidable (_ → _))

/-- A store and the notices it has accepted, the last one first. -/
structure Directory where
  store : MemoryStore
  notices : List Notice

/-- A call, or what the requests that do not write the directory make of the other tables. -/
inductive DirectoryEvent where
  | call (call : Call)
  | others (s : MemoryStore)

namespace Directory

variable {backend : Backend} {d : Directory} {n : Notice}

def step (c : Suite) (backend : Backend) : DirectoryEvent → Directory → Directory
  | .call call, d => match call.request.notice, backend.outcome c call.now d.store call.request with
    | some n, (.ok _, s) => ⟨s, n :: d.notices⟩
    | _, _ => d
  | .others s, d => { d with store := { s with sharedWorkers := d.store.sharedWorkers } }

/-- A notice that is accepted of a Worker that is not listed follows those before it. -/
def inOrder (c : Suite) (backend : Backend) (d : Directory) : DirectoryEvent → Bool
  | .call call => match call.request.notice, backend.outcome c call.now d.store call.request with
    | some n, (.ok _, _) =>
      (d.store.sharedWorkers.get? n.workerID).isSome || d.notices.all fun m => n.Follows m
    | _, _ => true
  | .others _ => true

/-- The notices follow each other, and a listed Worker is that of its last notice. -/
structure OK (d : Directory) : Prop where
  follows : d.notices.Pairwise Notice.Follows
  listed : ∀ id w, d.store.sharedWorkers.get? id = some w → ∀ n ∈ d.notices, n.workerID = id →
    n.owner = w.notice.owner ∧ n.revision ≤ w.revision

/-- The notice follows the entry it finds, and the entry it leaves is its own. -/
def Accepted (s : MemoryStore) (n : Notice) (workers : GoMap UUID Worker) : Prop :=
  (∀ w ∈ s.sharedWorkers.get? n.workerID, n.owner = w.notice.owner ∧ w.revision < n.revision) ∧
  ∀ id w, workers.get? id = some w →
    id = n.workerID ∧ w.notice = n ∨ id ≠ n.workerID ∧ s.sharedWorkers.get? id = some w

theorem Accepted.set (w : Worker) (h : ∀ old ∈ s.sharedWorkers.get? w.workerID,
    old.ownerParticipantID = w.ownerParticipantID ∧ old.ownerDeviceID = w.ownerDeviceID ∧
      old.revision < w.revision) : Accepted s w.notice (s.sharedWorkers.set w.workerID w) := by
  refine ⟨fun old hold => ?_, fun id w' hw => ?_⟩
  · obtain ⟨hp, hd, hr⟩ := h old hold
    exact ⟨Prod.ext hp.symm hd.symm, hr⟩
  · rw [GoMap.get?_set] at hw
    split at hw
    · next hid => exact .inl ⟨hid, Option.some.inj hw ▸ rfl⟩
    · next hid => exact .inr ⟨hid, hw⟩

theorem Accepted.delete {boxID : UUID} (h : ∃ old ∈ s.sharedWorkers.get? n.workerID,
    old.boxID = boxID ∧ old.ownerParticipantID = n.owner.1 ∧ old.ownerDeviceID = n.owner.2 ∧
      old.revision < n.revision) : Accepted s n (s.sharedWorkers.delete n.workerID) := by
  obtain ⟨old, hold, -, hp, hd, hr⟩ := h
  refine ⟨fun w hw => ?_, fun id w hw => ?_⟩
  · obtain rfl := Option.some.inj (hold.symm.trans hw)
    exact ⟨Prod.ext hp.symm hd.symm, hr⟩
  · rw [GoMap.get?_delete] at hw
    split at hw
    · cases hw
    · next hid => exact .inr ⟨hid, hw⟩

/-- Every check of the directory has this form. -/
theorem Accepted.of_check {P : Prop} [Decidable P] {workers : GoMap UUID Worker} {a : Answer}
    (hP : P → Accepted s n workers) (hok : Prod.map (Except.map fun _ => Answer.done) id
      (if P then (Except.ok (), { s with sharedWorkers := workers })
        else (.error StoreError.sharedWorkerAuthority, s)) = (.ok a, s')) :
    Accepted s n s'.sharedWorkers := by
  split at hok
  · next h =>
    cases hok
    exact hP h
  · cases hok

theorem accepted {a : Answer} (hn : r.notice = some n)
    (hok : backend.outcome c now s r = (.ok a, s')) : Accepted s n s'.sharedWorkers := by
  cases r with
  | upsertWorker w =>
    cases hn
    cases backend with
    | memory => exact .of_check (fun h => .set w h.2.2.2) hok
    | postgres => exact .of_check (fun h => .set w fun old hold => (h.2.2.2 old hold).2) hok
  | withdrawWorker =>
    cases hn
    cases backend with
    | memory => exact .of_check (fun h => .delete h.2.2.2) hok
    | postgres => exact .of_check (fun h => .delete h.2.2.2) hok
  | _ => cases hn

theorem OK.step (h : d.OK) {e : DirectoryEvent} (horder : d.inOrder c backend e = true) :
    (d.step c backend e).OK := by
  cases e with
  | others => exact ⟨h.follows, h.listed⟩
  | call call =>
    rw [Directory.step]
    split
    · next n a s hn hok =>
      obtain ⟨hentry, hlisted⟩ := accepted hn hok
      have hfollows : ∀ m ∈ d.notices, n.Follows m := by
        intro m hm
        cases hw : d.store.sharedWorkers.get? n.workerID with
        | none =>
          simp only [inOrder, hn, hok, hw, Option.isSome_none, Bool.false_or,
            List.all_eq_true] at horder
          exact of_decide_eq_true (horder m hm)
        | some w =>
          intro hid
          obtain ⟨howner, hr⟩ := hentry w hw
          obtain ⟨howner', hr'⟩ := h.listed _ w hw m hm hid.symm
          exact ⟨howner.trans howner'.symm, Nat.lt_of_le_of_lt hr' hr⟩
      refine ⟨List.pairwise_cons.mpr ⟨hfollows, h.follows⟩, fun id w hw m hm hid => ?_⟩
      obtain ⟨rfl, rfl⟩ | ⟨hne, hw⟩ := hlisted id w hw
      · obtain rfl | hm := List.mem_cons.mp hm
        · exact ⟨rfl, le_rfl⟩
        · obtain ⟨howner, hr⟩ := hfollows m hm hid.symm
          exact ⟨howner.symm, hr.le⟩
      · obtain rfl | hm := List.mem_cons.mp hm
        · exact absurd hid.symm hne
        · exact h.listed id w hw m hm hid
    · exact h

end Directory

/-- **The directory is monotone** as long as a Worker that was withdrawn is advertised again by the
same owner, with a revision above all before. -/
theorem directory_of_run (c : Suite) (backend : Backend) (s : MemoryStore)
    (events : List DirectoryEvent) (horder : Along (Directory.step c backend)
      (fun d e => d.inOrder c backend e = true) ⟨s, []⟩ events) :
    (run (Directory.step c backend) ⟨s, []⟩ events).notices.Pairwise Notice.Follows :=
  (invariant (I := Directory.OK) ⟨.nil, by simp⟩ (fun _ _ h => h.step) horder).follows

/-- The store of the sample before the Worker is advertised. -/
def unlisted : MemoryStore := run (Call.apply suite) newMemoryStore (setup.take 5)

/-- The Worker is advertised, withdrawn, and advertised again under a revision. -/
def advertising (revision : Nat) : List DirectoryEvent :=
  [.call ⟨10, .upsertWorker worker⟩,
   .call ⟨10, .withdrawWorker boxID (uuid 60) (participantID 1) (deviceID 1) 2⟩,
   .call ⟨10, .upsertWorker { worker with revision := revision }⟩]

theorem directory_sample : (run (Directory.step suite .memory) ⟨unlisted, []⟩
    (advertising 3)).notices.Pairwise Notice.Follows :=
  directory_of_run _ _ _ _ (by decide +kernel)

/-- After the withdrawal both stores accept the first advertisement once more. -/
theorem replay_accepted :
    (run (Directory.step suite .memory) ⟨unlisted, []⟩ (advertising 1)).notices.map
        Notice.revision = [1, 2, 1] ∧
      (run (Directory.step suite .postgres) ⟨unlisted, []⟩ (advertising 1)).notices.map
        Notice.revision = [1, 2, 1] := by
  decide +kernel

end FacetsNode.Box
