import FacetsNode.Relay.Properties.Custody

/-!
# An envelope is sequenced once

A member that publishes an envelope again is answered with the sequence of the first time: from the
stored message, or from the tombstone its fence left behind (`Sequenced`). A collection deletes a
message and leaves nothing, so this lasts exactly as long as no collection takes the message.

* `Sequenced.step` — every step keeps it that does not collect the message;
* `Sequenced.publish` — while it lasts, a publication is a duplicate and stores nothing;
* `MemoryStore.publish_sequenced_once` — the two, over whole runs.
-/

namespace FacetsNode.Relay

open Attempt

open GoMap

namespace MemoryDomain

variable {s : MemoryStore} {op : Operation} {key : DomainKey} {d d' : MemoryDomain} {now : Int}
  {id memberID : UUID} {fence : MemoryCheckpointFence} {status : CheckpointFenceStatus}
  {envelope : Envelope} {n : Nat}

/-- The domain remembers that the member's envelope has sequence `n`. -/
inductive Sequenced (memberID : UUID) (envelope : Envelope) (n : Nat) (d : MemoryDomain) : Prop
  | stored {m} (hget : d.messageByID.get? envelope.messageID = some m)
      (hmember : m.publisherMember = memberID) (hmessage : m.message = ⟨n, envelope⟩)
  | tombstoned {t} (hget : d.fenceMessageTombstones.get? envelope.messageID = some t)
      (hmember : t.publisherMember = memberID) (hdigest : envelope.referenceDigest = .ok t.digest)
      (hsequence : t.sequence = n)

/-! ## What keeps it -/

/-- Anything that leaves the index and the tombstones alone. -/
theorem Sequenced.congr (h : Sequenced memberID envelope n d)
    (hstored : d'.messageByID = d.messageByID)
    (htombstones : d'.fenceMessageTombstones = d.fenceMessageTombstones) :
    Sequenced memberID envelope n d' := by
  cases h with
  | stored hget hmember hmessage => exact .stored (hstored ▸ hget) hmember hmessage
  | tombstoned hget hmember hdigest hsequence =>
    exact .tombstoned (htombstones ▸ hget) hmember hdigest hsequence

theorem Sequenced.closeFence (h : Sequenced memberID envelope n d) (hwf : d.WellFormed)
    (hvalid : envelope.validate = .ok ()) :
    Sequenced memberID envelope n (d.closeFence id fence status id) := by
  cases h with
  | @tombstoned t hget hmember hdigest hsequence =>
    refine .tombstoned ?_ hmember hdigest hsequence
    rw [closeFence_tombstones, get?_setAll_of_notMem]
    · exact hget
    · -- The fence held stored messages only, and this one is not stored.
      intro hmem
      obtain ⟨m, hm, heq⟩ := List.mem_map.mp (tombstoneOf_fst hmem)
      have hnone := hwf.messages.untombstoned hget
      rw [← heq, hwf.messages.log.get? (List.mem_of_mem_filter hm)] at hnone
      cases hnone
  | @stored m hget hmember hmessage =>
    obtain ⟨hm, hid⟩ := hwf.messages.log.indexed.mp hget
    by_cases hheld : m.checkpointFenceID = some id
    · have henvelope : m.message.envelope = envelope := by rw [hmessage]
      obtain ⟨digest, hdigest, htombstone⟩ := tombstoneOf_eq_some (m := m) (henvelope ▸ hvalid)
      have hsequence : m.sequence = n := congrArg Message.sequence hmessage
      refine .tombstoned (t := ⟨m.publisherMember, digest, m.sequence⟩) ?_ hmember
        (henvelope ▸ hdigest) hsequence
      rw [closeFence_tombstones]
      refine get?_setAll_of_mem ?_ ?_
      · have hremoved : ((d.fenceMessages id).map MemoryMessage.messageID).Nodup :=
          hwf.messages.log.nodup.sublist (List.filter_sublist.map _)
        exact hremoved.sublist (tombstones_sublist _)
      · refine List.mem_filterMap.mpr ⟨m, List.mem_filter.mpr ⟨hm, decide_eq_true hheld⟩, ?_⟩
        rw [htombstone, hid]
    · refine .stored ?_ hmember hmessage
      rw [closeFence_messageByID, get?_deleteAll, if_neg]
      · exact hget
      · intro hmem
        obtain ⟨m', hm', heq⟩ := List.mem_map.mp hmem
        obtain ⟨hm', hheld'⟩ := List.mem_filter.mp hm'
        rw [hwf.messages.log.eq_of_messageID hm' hm (heq.trans hid.symm)] at hheld'
        exact hheld (of_decide_eq_true hheld')

theorem Sequenced.expiry (h : Sequenced memberID envelope n d) (hwf : d.WellFormed)
    (hvalid : envelope.validate = .ok ()) (hexpiry : Expiry op d d') :
    Sequenced memberID envelope n d' :=
  hwf.expiry_induction hexpiry (fun _ _ _ hwf h _ _ => h.closeFence hwf hvalid) h

/-- A new message has an identifier that is not remembered. -/
theorem Sequenced.ne_of_absent (h : Sequenced memberID envelope n d) {messageID}
    (hstored : d.messageByID.get? messageID = none)
    (htombstone : d.fenceMessageTombstones.get? messageID = none) :
    envelope.messageID ≠ messageID := by
  rintro rfl
  cases h with
  | stored hget => rw [hget] at hstored; cases hstored
  | tombstoned hget => rw [hget] at htombstone; cases htombstone

theorem Sequenced.storeMessage (h : Sequenced memberID envelope n d) {m}
    (hne : envelope.messageID ≠ m.messageID) :
    Sequenced memberID envelope n (d.storeMessage m) := by
  cases h with
  | stored hget hmember hmessage =>
    exact .stored ((get?_set_ne _ _ hne).trans hget) hmember hmessage
  | tombstoned hget hmember hdigest hsequence =>
    exact .tombstoned hget hmember hdigest hsequence

theorem Sequenced.deleteCollected (h : Sequenced memberID envelope n d) {checkpointID checkpoint}
    {messages : List MemoryMessage}
    {blobs : List (GoString × BlobMetadata)}
    (hspared : envelope.messageID ∉ messages.map MemoryMessage.messageID) :
    Sequenced memberID envelope n (d.deleteCollected checkpointID checkpoint messages blobs) := by
  cases h with
  | stored hget hmember hmessage =>
    refine .stored ?_ hmember hmessage
    show get? (deleteAll _ _) _ = _
    rw [get?_deleteAll, if_neg hspared]
    exact hget
  | tombstoned hget hmember hdigest hsequence =>
    exact .tombstoned hget hmember hdigest hsequence

end MemoryDomain

/-- A collection issued in store `s` leaves the message alone: the batch it asks for, out of what
its checkpoint may still delete, does not contain it. -/
def SparesMessage (key : DomainKey) (messageID : UUID) (s : MemoryStore) : Operation → Prop
  | .collectCheckpoint credential request =>
    key = ⟨credential.tenantID, credential.domainID⟩ → ∀ d, s.domains.get? key = some d →
        ∀ checkpoint, d.checkpoints.get? request.checkpointID = some checkpoint →
          messageID ∉ (MemoryDomain.collectedMessages checkpoint
            request.maximumMessageCount.toNat).map MemoryMessage.messageID
  | _ => True

namespace MemoryDomain

variable {s : MemoryStore} {op : Operation} {key : DomainKey} {d d' : MemoryDomain} {now : Int}
  {memberID : UUID} {envelope : Envelope} {n : Nat}

theorem Sequenced.step (h : Sequenced memberID envelope n d) (hwf : d.WellFormed)
    (hvalid : envelope.validate = .ok ()) (hd : s.domains.get? key = some d)
    (hspared : SparesMessage key envelope.messageID s op) (hstep : DomainStep s key op d d') :
    Sequenced memberID envelope n d' := by
  obtain @⟨d₁, hexpiry, heffect⟩ := hstep
  have hwf₁ := hwf.expiry hexpiry
  have h₁ := h.expiry hwf hvalid hexpiry
  cases heffect with
  | authority heq =>
    rw [heq]
    exact h₁.congr rfl rfl
  | testSubscription _ heq => exact ensured heq fun _ => h₁.congr rfl rfl
  | publish _ _ _ hstored htombstone => exact h₁.storeMessage (h.ne_of_absent hstored htombstone)
  | abortFence => exact (h₁.closeFence hwf₁ hvalid).congr rfl rfl
  | @collect _ request checkpoint _ result _ hcheckpoint _ _ hkey =>
    -- A collection is not given an instant, so nothing has expired.
    cases hexpiry with
    | none =>
      have hbatch := hspared hkey d hd checkpoint hcheckpoint
      have hkept : Sequenced memberID envelope n (d.deleteCollected request.checkpointID
          checkpoint _ (collectedBlobs checkpoint request.maximumBlobCount.toNat)) :=
        h.deleteCollected hbatch
      exact hkept.congr rfl rfl
    | due hnow => cases hnow
  | _ => exact h₁.congr rfl rfl

/-! ## Publishing again -/

/-- While the envelope is remembered, publishing it again changes nothing, and is answered with its
sequence or not at all. -/
theorem Sequenced.publish (h : Sequenced memberID envelope n d) (hwf : d.WellFormed)
    {credential} (hmember : credential.memberID = memberID) :
    Ends (MemoryDomain.publish s credential envelope now) d (fun r d' =>
      d' = d ∧ ∀ result, r = .ok result → result = ⟨.duplicate, n⟩) := by
  refine ends_ofExcept (fun _ _ => ⟨rfl, fun _ h => by cases h⟩) fun _ _ => ?_
  refine ends_get ?_
  refine ends_ofExcept (fun _ _ => ⟨rfl, fun _ h => by cases h⟩) fun _ _ => ?_
  cases h with
  | @stored m hget hpublisher hmessage =>
    simp only [hget]
    refine ⟨rfl, fun result hresult => ?_⟩
    unfold storedPublishResult at hresult
    rw [if_pos ⟨hpublisher.trans hmember.symm, congrArg Message.envelope hmessage⟩] at hresult
    cases hresult
    exact congrArg (PublishResult.mk .duplicate) (congrArg Message.sequence hmessage)
  | tombstoned hget hpublisher hdigest hsequence =>
    rw [hwf.messages.untombstoned hget, hget]
    refine ⟨rfl, fun result hresult => ?_⟩
    unfold tombstonedPublishResult at hresult
    rw [hdigest] at hresult
    dsimp only [bind, Except.bind] at hresult
    rw [if_pos ⟨hpublisher.trans hmember.symm, rfl⟩] at hresult
    cases hresult
    exact congrArg (PublishResult.mk .duplicate) hsequence

/-- An accepted publication is remembered. -/
theorem publish_sequenced {credential} :
    Ends (MemoryDomain.publish s credential envelope now) d (fun r d' =>
      ∀ result, r = .ok result → result.acceptance = .accepted → envelope.validate = .ok () ∧
          Sequenced credential.memberID envelope result.sequence d') := by
  refine ends_ofExcept (fun _ _ _ h => by cases h) fun _ hpublish => ?_
  refine ends_get ?_
  refine ends_ofExcept (fun _ _ _ h => by cases h) fun subscription _ => ?_
  split
  · next existing _ =>
    intro result hresult haccepted
    unfold storedPublishResult at hresult
    split at hresult <;> cases hresult
    cases haccepted
  · split
    · next tombstone _ =>
      intro result hresult haccepted
      obtain ⟨digest, -, hresult⟩ := bind_eq_ok.mp hresult
      split at hresult <;> cases hresult
      cases haccepted
    · unfold publishNew
      refine ends_memoryFenceAllowsWrite (fun _ _ h => by cases h) fun _ => ?_
      refine ends_get ?_
      refine ends_rejectIf (fun _ _ h => by cases h) fun _ => ?_
      refine ends_ofExcept (fun _ _ _ h => by cases h) fun byteCount _ => ?_
      refine ends_rejectIf (fun _ _ h => by cases h) fun _ => ?_
      refine ends_ofExcept (fun _ _ _ h => by cases h) fun _ _ => ?_
      refine ends_modify (ends_pure ?_)
      rintro result hresult -
      cases hresult
      obtain ⟨_, hvalid, -⟩ := bind_eq_ok.mp hpublish
      exact ⟨hvalid, .stored (get?_set_self _ _ _) rfl rfl⟩

end MemoryDomain

namespace MemoryStore

variable {s : MemoryStore} {credential : Credential} {envelope : Envelope} {now : Int}
  {result : PublishResult}

/-- An envelope names the member that may publish it. -/
theorem publish_scope (h : (publish credential envelope now s).1 = .ok result) :
    envelope.tenantID = credential.tenantID ∧ envelope.domainID = credential.domainID ∧
      envelope.publisherMemberID = credential.memberID := by
  have hends : Ends (publish credential envelope now) s (fun r _ => r = .ok result →
      envelope.tenantID = credential.tenantID ∧ envelope.domainID = credential.domainID ∧
        envelope.publisherMemberID = credential.memberID) := by
    refine ends_asMember (fun _ h => by cases h) fun d _ => ?_
    refine ends_ofExcept (fun _ _ h => by cases h) fun _ hpublish => ?_
    obtain ⟨_, -, hscope⟩ := bind_eq_ok.mp hpublish
    rw [rejectWhen_eq_ok, not_or, not_or, not_not, not_not, not_not] at hscope
    exact fun _ => hscope
  exact hends h

theorem publish_remembered (h : (publish credential envelope now s).1 = .ok result)
    (haccepted : result.acceptance = .accepted) :
    envelope.validate = .ok () ∧ ∃ d, (publish credential envelope now s).2.domains.get?
        ⟨credential.tenantID, credential.domainID⟩ = some d ∧
      d.Sequenced credential.memberID envelope result.sequence := by
  have hends : Ends (publish credential envelope now) s (fun r s' => r = .ok result →
      envelope.validate = .ok () ∧ ∃ d,
        s'.domains.get? ⟨credential.tenantID, credential.domainID⟩ = some d ∧
        d.Sequenced credential.memberID envelope result.sequence) := by
    refine ends_asMember (fun _ h => by cases h) fun d _ => ?_
    refine MemoryDomain.publish_sequenced.mono fun r d' hbody hr => ?_
    obtain ⟨hvalid, hsequenced⟩ := hbody result hr haccepted
    refine ⟨hvalid, d', ?_, hsequenced⟩
    rw [get?_setDomain, if_pos rfl]
  exact hends h

/-- **An envelope is sequenced at most once**, in every run in which no collection takes its
message: every later publication of it is a duplicate with the first sequence, and stores
nothing. -/
theorem publish_sequenced_once {credential' : Credential} {now' : Int} {result' : PublishResult}
    {ops : List Operation} (hs : Reachable s)
    (hfirst : (publish credential envelope now s).1 = .ok result)
    (haccepted : result.acceptance = .accepted) (hspared : Along Operation.apply
      (SparesMessage ⟨credential.tenantID, credential.domainID⟩ envelope.messageID)
      (publish credential envelope now s).2 ops) (hagain : (publish credential' envelope now'
      (run Operation.apply (publish credential envelope now s).2 ops)).1 = .ok result') :
    result' = ⟨.duplicate, result.sequence⟩ ∧ ∀ key, (publish credential' envelope now'
          (run Operation.apply (publish credential envelope now s).2 ops)).2.domains.get? key =
        (run Operation.apply (publish credential envelope now s).2 ops).domains.get? key := by
  have hs₁ : Reachable (publish credential envelope now s).2 :=
    hs.apply (.publish credential envelope now)
  obtain ⟨hvalid, d₁, hd₁, hsequenced₁⟩ := publish_remembered hfirst haccepted
  obtain ⟨d, hd, hsequenced⟩ := domain_history (fun s => s) (fun _ _ => rfl)
    (I := fun _ d => d.Sequenced credential.memberID envelope result.sequence)
    (fun s op d d' hs hspared hd h hstep =>
      h.step (.of_reachable hs hd) hvalid hd hspared hstep) hs₁ hd₁ hsequenced₁ hspared
  have hwf := MemoryDomain.WellFormed.of_reachable
    (reachable_run (fun s => s) (fun _ _ => rfl) hs₁ ops) hd
  -- The same member publishes again: the envelope says which.
  obtain ⟨htenant, hdomain, hmember⟩ := publish_scope hfirst
  obtain ⟨htenant', hdomain', hmember'⟩ := publish_scope hagain
  rw [← htenant, ← hdomain] at hd
  generalize run Operation.apply (publish credential envelope now s).2 ops = s' at hd hagain ⊢
  have hends : Ends (publish credential' envelope now') s' (fun r s'' => r = .ok result' →
      result' = ⟨.duplicate, result.sequence⟩ ∧
        ∀ key, s''.domains.get? key = s'.domains.get? key) := by
    refine ends_asMember (fun _ h => by cases h) fun d' hd' => ?_
    rw [← htenant', ← hdomain', hd, Option.some.injEq] at hd'
    subst hd'
    refine (hsequenced.publish hwf (hmember'.symm.trans hmember)).mono fun r d' hbody hr => ?_
    obtain ⟨rfl, hresult⟩ := hbody
    refine ⟨hresult result' hr, fun key => ?_⟩
    rw [get?_setDomain, ← htenant', ← hdomain']
    split
    · next hkey => rw [hkey, hd]
    · rfl
  exact hends hagain

end MemoryStore

open Sample

open MemoryStore

/-- The writer publishes under its fence and aborts the fence; the retry is answered from the
tombstone. -/
theorem publish_sequenced_once_sample : ∃ result result', (publish writer (envelope 101 3) 8
        (store [.createCheckpointFence writer ⟨50, 51, 5⟩ 7])).1 = .ok result ∧
      result.acceptance = .accepted ∧ (publish writer (envelope 101 3) 10
        (run Operation.apply (publish writer (envelope 101 3) 8
          (store [.createCheckpointFence writer ⟨50, 51, 5⟩ 7])).2
            [.abortCheckpointFence writer ⟨52, 51, 9⟩ 9])).1 = .ok result' ∧
      result' = ⟨.duplicate, result.sequence⟩ := by
  have hreach := reachable [.createCheckpointFence writer ⟨50, 51, 5⟩ 7]
  generalize hs : store [.createCheckpointFence writer ⟨50, 51, 5⟩ 7] = s at hreach ⊢
  obtain ⟨result, hresult, haccepted, result', hresult', -⟩ :
      ∃ result, (publish writer (envelope 101 3) 8 s).1 = .ok result ∧
        result.acceptance = .accepted ∧
      ∃ result', (publish writer (envelope 101 3) 10 (run Operation.apply
        (publish writer (envelope 101 3) 8 s).2
          [.abortCheckpointFence writer ⟨52, 51, 9⟩ 9])).1 = .ok result' ∧ True := by
    subst hs
    decide +kernel
  have hspared : Along Operation.apply
      (SparesMessage ⟨writer.tenantID, writer.domainID⟩
        (envelope 101 3).messageID)
      (publish writer (envelope 101 3) 8 s).2
      [.abortCheckpointFence writer ⟨52, 51, 9⟩ 9] := And.intro trivial trivial
  exact ⟨result, result', hresult, haccepted, hresult',
    (publish_sequenced_once hreach hresult haccepted hspared hresult').1⟩

/-- The checkpoint covers the message and is collected; the retry is sequenced anew. -/
theorem publish_sequenced_twice : ∃ result result',
      (publish writer (envelope 100 3) 5 (store [])).1 = .ok result ∧
      result.acceptance = .accepted ∧ (publish writer (envelope 100 3) 30
        (run Operation.apply (publish writer (envelope 100 3) 5 (store [])).2 (activation.tail ++
            [.collectCheckpoint administrator collection]))).1 = .ok result' ∧
      result'.acceptance = .accepted ∧ result'.sequence ≠ result.sequence := by
  generalize hs : store [] = s
  obtain ⟨result, hresult, haccepted, result', hresult'⟩ :
      ∃ result, (publish writer (envelope 100 3) 5 s).1 = .ok result ∧
        result.acceptance = .accepted ∧
      ∃ result', (publish writer (envelope 100 3) 30 (run Operation.apply
        (publish writer (envelope 100 3) 5 s).2 (activation.tail ++
          [.collectCheckpoint administrator collection]))).1 = .ok result' ∧
        result'.acceptance = .accepted ∧ result'.sequence ≠ result.sequence := by
    subst hs
    decide +kernel
  exact ⟨result, result', hresult, haccepted, hresult'⟩

end FacetsNode.Relay
