import FacetsNode.Box.Step

/-!
# Authorizing the actions of participants

`AuthorizeAction` and `AuthorizePresentedAction` go to the store twice: they read the pinned
enrollment, check the signed proof against it, and then consume the challenge. Between the two
anything may happen — the participant is revoked, the challenge is consumed by another call. A
`System` is a store together with the calls that stand between their two accesses;
`authorizations_of_run` says what every granted authorization rests on, in every interleaving.
-/

namespace FacetsNode.Box

open Relay (UUID uuidNil)

/-- A call whose proof has been verified and whose challenge is still to be consumed. -/
structure Verified where
  enrollment : Enrollment
  (boxID participantID deviceID : UUID)
  proof : SignedProof
  challengeID : UUID
  action : ParticipantAction
  request : List UInt8
  now : Int

/-- A call that succeeded, with the store at the moment it consumed its challenge. -/
structure Granted extends Verified where
  store : MemoryStore

section

variable (c : Suite) (s : MemoryStore)

/-- `AuthorizeAction` up to its second access to the store. -/
def authorizeAction (e : Enrollment) (revocations : List SignedPrincipalRecord)
    (proof : SignedProof)
    (challengeID : UUID) (action : ParticipantAction) (request : List UInt8) (now : Int) :
    Option Verified :=
  if s.pinnedParticipant e.anchor.boxID e.anchor.participantID e.device.deviceID = some e then
    (verifyActionProof c e revocations proof challengeID action request now).map fun _ =>
      ⟨e, e.anchor.boxID, e.anchor.participantID, e.device.deviceID, proof, challengeID, action,
        request, now⟩
  else none

/-- `AuthorizePresentedAction` up to its second access to the store: the payload says whose
enrollment is read. -/
def authorizePresentedAction (proof : SignedProof) (challengeID : UUID) (action : ParticipantAction)
    (request : List UInt8) (now : Int) : Option Verified := do
  guard (challengeID ≠ uuidNil)
  let payload ← strictParticipantJSON c.decodeActionProof proof.payload
  guard (payload.version = 1 ∧ c.canonicalObject proof.payload ∧ payload.boxID ≠ uuidNil ∧
    payload.participantID ≠ uuidNil ∧ payload.deviceID ≠ uuidNil ∧
      payload.challengeID = challengeID)
  let pinned ← s.pinnedParticipant payload.boxID payload.participantID payload.deviceID
  let _ ← verifyActionProof c pinned [] proof challengeID action request now
  pure ⟨pinned, payload.boxID, payload.participantID, payload.deviceID, proof, challengeID, action,
    request, now⟩

/-- The second access of both. -/
def Verified.consume (v : Verified) : Bool × MemoryStore :=
  s.consumeParticipantChallenge c v.boxID v.participantID v.deviceID v.challengeID v.now

end

/-- A store, the challenges it has issued, the calls between their two accesses and those that
succeeded. -/
structure System where
  store : MemoryStore
  issued : List Challenge
  verified : List Verified
  granted : List Granted

def System.new : System := ⟨newMemoryStore, [], [], []⟩

/-- One access to the store. -/
inductive Event where
  | call (call : Call)
  | authorizeAction (e : Enrollment) (revocations : List SignedPrincipalRecord)
      (proof : SignedProof)
      (challengeID : UUID) (action : ParticipantAction) (request : List UInt8) (now : Int)
  | authorizePresentedAction (proof : SignedProof) (challengeID : UUID) (action : ParticipantAction)
      (request : List UInt8) (now : Int)
  | consume (index : Nat)

/-- The challenge that the call issues, if the store accepts it. -/
def Call.issues (c : Suite) (s : MemoryStore) (call : Call) : Option Challenge :=
  match call.request with
  | .issueChallenge challenge =>
    if (s.issueParticipantChallenge c challenge call.now).1.isOk then some challenge else none
  | _ => none

def System.step (c : Suite) (event : Event) (sys : System) : System :=
  match event with
  | .call call =>
    { sys with
      store := call.apply c sys.store, issued := sys.issued ++ (call.issues c sys.store).toList }
  | .authorizeAction e revocations proof challengeID action request now =>
    { sys with
      verified := sys.verified ++ (authorizeAction c sys.store e revocations proof challengeID action
        request now).toList }
  | .authorizePresentedAction proof challengeID action request now =>
    { sys with
      verified := sys.verified ++ (authorizePresentedAction c sys.store proof challengeID action
        request now).toList }
  | .consume index =>
    match sys.verified[index]? with
    | none => sys
    | some v =>
      { sys with
        store := (v.consume c sys.store).2
        verified := sys.verified.eraseIdx index
        granted := if (v.consume c sys.store).1 then sys.granted ++ [⟨v, sys.store⟩]
          else sys.granted }

/-! ## What the proof check gives -/

section

variable {c : Suite} {e : Enrollment} {revocations : List SignedPrincipalRecord}
    {proof : SignedProof}
  {challengeID : UUID} {action : ParticipantAction} {request : List UInt8} {now : Int}

/-- A verified proof decodes to a payload that names the participant, the challenge, the action and
the request, and its signature is by the device key of the enrollment. -/
theorem verifyActionProof_eq_some
    (h : verifyActionProof c e revocations proof challengeID action request now = some ()) :
    ∃ rootKey deviceKey notBefore payload,
      verifyEnrollment c e now = some (rootKey, deviceKey, notBefore) ∧
        strictParticipantJSON c.decodeActionProof proof.payload = some payload ∧
        payload.names c e challengeID action request ∧
        verifyParticipantSignature c proof.signature deviceKey participantActionProofDomain
          proof.payload = true := by
  unfold verifyActionProof at h
  obtain ⟨⟨deviceKey, notBefore⟩, hidentity, h⟩ := Option.bind_eq_some_iff.mp h
  obtain ⟨-, h⟩ := guard_bind_eq_some.mp h
  obtain ⟨payload, hpayload, h⟩ := Option.bind_eq_some_iff.mp h
  obtain ⟨-, h⟩ := guard_bind_eq_some.mp h
  obtain ⟨hnames, h⟩ := guard_bind_eq_some.mp h
  obtain ⟨-, h⟩ := guard_bind_eq_some.mp h
  obtain ⟨-, h⟩ := guard_bind_eq_some.mp h
  have hsignature : verifyParticipantSignature c proof.signature deviceKey
      participantActionProofDomain proof.payload = true := by
    by_contra hrefused
    simp [guard, hrefused, failure] at h
  unfold verifyIdentity at hidentity
  obtain ⟨⟨rootKey, key, start⟩, henrollment, hidentity⟩ := Option.bind_eq_some_iff.mp hidentity
  obtain ⟨-, hidentity⟩ := guard_bind_eq_some.mp hidentity
  obtain ⟨rfl, rfl⟩ := Prod.mk.inj (Option.some.inj hidentity)
  exact ⟨rootKey, key, start, payload, henrollment, hpayload, hnames, hsignature⟩

/-- An accepted signature is one of the digest of the domain and the payload. -/
theorem ecdsaVerify_of_verifyParticipantSignature {encoded} {key : c.Key}
    {domain payload : List UInt8}
    (h : verifyParticipantSignature c encoded key domain payload = true) :
    ∃ signature, c.ecdsaVerify key (c.sha256 (domain ++ payload)) signature = true := by
  unfold verifyParticipantSignature at h
  rw [Bool.and_eq_true] at h
  cases hdecoded : Base64Url.canonical encoded with
  | none => simp [hdecoded] at h
  | some signature =>
    simp only [hdecoded, Bool.and_eq_true] at h
    exact ⟨signature, h.2.2⟩

end

/-! ## What the store keeps -/

section

variable {c : Suite} {D : Demand} {s s' : MemoryStore} {now : Int} {r : Request}

/-- A pinned enrollment stays until something about it is revoked. -/
theorem Change.enrollment (h : Change c D now s r s') {participantID e}
    (he : s.participantEnrollments.get? participantID = some e) :
    ∃ e', s'.participantEnrollments.get? participantID = some e' ∧ (e' = e ∨ ¬ e'.Unrevoked) := by
  cases h with
  | pin new _ hnew =>
    have hne : participantID ≠ new.anchor.participantID := by
      rintro rfl
      cases hnew.symm.trans he
    exact ⟨e, (GoMap.get?_set_ne _ _ hne).trans he, .inl rfl⟩
  | @revoke _ revokedID old new hpinned hrevoked _ =>
    by_cases hid : participantID = revokedID
    · subst hid
      exact ⟨new, GoMap.get?_set_self _ _ _, .inr hrevoked⟩
    · exact ⟨e, (GoMap.get?_set_ne _ _ hid).trans he, .inl rfl⟩
  | _ => exact ⟨e, he, .inl rfl⟩

/-- A claimed Box keeps its ID and its owner. -/
theorem Change.claimedAs (h : Change c D now s r s') {boxID} (hclaimed : s.ClaimedAs boxID) :
    s'.ClaimedAs boxID := by
  cases h with
  | state _ hstate =>
    obtain ⟨state, hmem, howned, -⟩ := hclaimed
    cases hold : s.state with
    | none => cases hold.symm.trans hmem
    | some old =>
      rw [hold] at hstate hmem
      obtain rfl := Option.some.inj hmem
      cases hstate with
      | claim hunclaimed => exact absurd howned hunclaimed
  | _ => exact hclaimed

variable {id : UUID} {state : ChallengeState}

/-- A challenge stays in the table, and stays consumed. -/
theorem Change.challenge (h : Change c D now s r s')
    (hstate : s.participantChallenges.get? id = some state) :
    ∃ state', s'.participantChallenges.get? id = some state' ∧ state'.challenge = state.challenge ∧
      (state.consumedAtMilliseconds ≠ 0 → state'.consumedAtMilliseconds ≠ 0) := by
  cases h with
  | issue challenge hnew =>
    have hne : id ≠ challenge.challengeID := by
      rintro rfl
      cases hnew.symm.trans hstate
    exact ⟨state, (GoMap.get?_set_ne _ _ hne).trans hstate, rfl, fun h => h⟩
  | @consume _ consumedID old hissued hnow =>
    by_cases hid : id = consumedID
    · subst hid
      obtain rfl := Option.some.inj (hissued.symm.trans hstate)
      exact ⟨_, GoMap.get?_set_self _ _ _, rfl, fun _ => hnow⟩
    · exact ⟨state, (GoMap.get?_set_ne _ _ hid).trans hstate, rfl, fun h => h⟩
  | _ => exact ⟨state, hstate, rfl, fun h => h⟩

/-- A challenge that was not in the table has just been issued. -/
theorem Change.issued (h : Change c D now s r s') (hnone : s.participantChallenges.get? id = none)
    (hstate : s'.participantChallenges.get? id = some state) :
    r = .issueChallenge state.challenge ∧ state.challenge.challengeID = id := by
  cases h with
  | issue challenge hnew =>
    by_cases hid : id = challenge.challengeID
    · subst hid
      obtain rfl := Option.some.inj ((GoMap.get?_set_self _ _ _).symm.trans hstate)
      exact ⟨rfl, rfl⟩
    · cases hnone.symm.trans ((GoMap.get?_set_ne _ _ hid).symm.trans hstate)
  | @consume _ consumedID old hissued hnow =>
    by_cases hid : id = consumedID
    · subst hid
      cases hnone.symm.trans hissued
    · cases hnone.symm.trans ((GoMap.get?_set_ne _ _ hid).symm.trans hstate)
  | _ => cases hnone.symm.trans hstate

theorem Call.issues_of_new (call : Call) (hnone : s.participantChallenges.get? id = none)
    (hstate : (call.apply c s).participantChallenges.get? id = some state) :
    call.issues c s = some state.challenge ∧ state.challenge.challengeID = id := by
  obtain ⟨hrequest, hid⟩ := (Request.changes c call.now s call.request).issued hnone hstate
  refine ⟨?_, hid⟩
  simp only [Call.apply, hrequest, Request.outcome, Prod.map_snd] at hstate
  simp only [Call.issues, hrequest]
  unfold MemoryStore.issueParticipantChallenge at hstate ⊢
  split
  · rfl
  · rename_i hrefused
    rw [if_neg hrefused] at hstate
    cases hnone.symm.trans hstate

/-- What consuming a challenge asks for and leaves. -/
theorem Verified.consume_eq_true {v : Verified} (h : (v.consume c s).1 = true) :
    ∃ state e, s.participantChallenges.get? v.challengeID = some state ∧
      state.consumedAtMilliseconds = 0 ∧ state.challenge.boxID = v.boxID ∧
      state.challenge.participantID = v.participantID ∧ state.challenge.deviceID = v.deviceID ∧
      state.challenge.validAt v.now ∧ s.participantEnrollments.get? v.participantID = some e ∧
      e.validInitialAt c v.now ∧ (v.consume c s).2 = { s with
        participantChallenges := s.participantChallenges.set v.challengeID
          { state with consumedAtMilliseconds := v.now } } := by
  unfold Verified.consume MemoryStore.consumeParticipantChallenge at h ⊢
  cases hissued : s.participantChallenges.get? v.challengeID with
  | none =>
    simp only [hissued] at h
    cases h
  | some state =>
    simp only [hissued] at h ⊢
    split at h
    · rename_i hchecked
      rw [if_pos hchecked]
      obtain ⟨hfresh, hbox, hparticipant, hdevice, hvalid, e, he, -, -, hinitial⟩ := hchecked
      exact ⟨state, e, rfl, hfresh, hbox, hparticipant, hdevice, hvalid, he, hinitial, rfl⟩
    · cases h

end

/-! ## Granted authorizations -/

/-- What a call between its two accesses has established: the proof is verified against the
enrollment it read, which is still pinned unless something about it has been revoked since. -/
structure Verified.Checked (c : Suite) (s : MemoryStore) (v : Verified) : Prop where
  verified : ∃ revocations, verifyActionProof c v.enrollment revocations v.proof v.challengeID v.action
    v.request v.now = some ()
  boxID : v.boxID = v.enrollment.anchor.boxID
  participantID : v.participantID = v.enrollment.anchor.participantID
  deviceID : v.deviceID = v.enrollment.device.deviceID
  claimed : s.ClaimedAs v.boxID
  pinned : ∃ e, s.participantEnrollments.get? v.participantID = some e ∧
    (e = v.enrollment ∨ ¬ e.Unrevoked)

/-- What a granted authorization rests on. `Signed key message` says that the holder of `key` has
signed `message`. -/
structure Authentic (c : Suite) (Signed : c.Key → List UInt8 → Prop) (issued : List Challenge)
    (g : Granted) : Prop where
  /-- This Box had issued the challenge to this participant and device; it was neither consumed nor
  over. -/
  challenge : ∃ challenge ∈ issued,
    g.store.participantChallenges.get? g.challengeID = some ⟨challenge, 0⟩ ∧
      challenge.challengeID = g.challengeID ∧ challenge.boxID = g.enrollment.anchor.boxID ∧
      challenge.participantID = g.enrollment.anchor.participantID ∧
      challenge.deviceID = g.enrollment.device.deviceID ∧
      challenge.issuedAtMilliseconds ≤ g.now ∧ g.now < challenge.expiresAtMilliseconds
  box : g.store.ClaimedAs g.enrollment.anchor.boxID
  /-- The enrollment was pinned at that moment, and neither participant nor device was revoked. -/
  pinned : g.store.participantEnrollments.get? g.enrollment.anchor.participantID = some g.enrollment ∧
    g.enrollment.Unrevoked
  /-- The pinned device key signed a payload that names all of it, and no other request. -/
  signed : ∃ rootKey deviceKey notBefore payload,
    verifyEnrollment c g.enrollment g.now = some (rootKey, deviceKey, notBefore) ∧
      strictParticipantJSON c.decodeActionProof g.proof.payload = some payload ∧
      payload.names c g.enrollment g.challengeID g.action g.request ∧
      Signed deviceKey (participantActionProofDomain ++ g.proof.payload) ∧
      ∀ other, c.digestText other = payload.requestDigest → other = g.request

theorem Authentic.mono {c} {Signed : c.Key → List UInt8 → Prop} {issued : List Challenge}
    {g} (h : Authentic c Signed issued g) (more : List Challenge) :
    Authentic c Signed (issued ++ more) g := by
  obtain ⟨challenge, hmem, hrest⟩ := h.challenge
  exact ⟨⟨challenge, List.mem_append_left _ hmem, hrest⟩, h.box, h.pinned, h.signed⟩

section

variable {c : Suite} {s s' : MemoryStore}

theorem pinnedParticipant_eq_some {boxID participantID deviceID e}
    (h : s.pinnedParticipant boxID participantID deviceID = some e) :
    s.participantEnrollments.get? participantID = some e ∧ s.ClaimedAs boxID ∧
      e.anchor.boxID = boxID ∧ e.device.deviceID = deviceID := by
  obtain ⟨hget, hmatches⟩ := Option.filter_eq_some_iff.mp h
  exact ⟨hget, decide_eq_true_eq.mp hmatches⟩

variable {now : Int} {v : Verified} {sys : System}

theorem checked_of_authorizeAction {e} {revocations : List SignedPrincipalRecord}
    {proof challengeID action} {request : List UInt8} 
    (h : authorizeAction c s e revocations proof challengeID action request now = some v) :
    v.Checked c s := by
  unfold authorizeAction at h
  split at h
  · rename_i hpinned
    obtain ⟨hget, hclaimed, -⟩ := pinnedParticipant_eq_some hpinned
    obtain ⟨_, hverified, rfl⟩ := Option.map_eq_some_iff.mp h
    exact ⟨⟨revocations, hverified⟩, rfl, rfl, rfl, hclaimed, ⟨e, hget, .inl rfl⟩⟩
  · cases h

theorem checked_of_authorizePresentedAction {proof challengeID action} {request : List UInt8}
    (h : authorizePresentedAction c s proof challengeID action request now = some v) :
    v.Checked c s := by
  unfold authorizePresentedAction at h
  obtain ⟨-, h⟩ := guard_bind_eq_some.mp h
  obtain ⟨payload, hpayload, h⟩ := Option.bind_eq_some_iff.mp h
  obtain ⟨-, h⟩ := guard_bind_eq_some.mp h
  obtain ⟨pinned, hpinned, h⟩ := Option.bind_eq_some_iff.mp h
  obtain ⟨_, hverified, h⟩ := Option.bind_eq_some_iff.mp h
  obtain rfl := Option.some.inj h
  obtain ⟨hget, hclaimed, hbox, hdevice⟩ := pinnedParticipant_eq_some hpinned
  -- the payload that chose the enrollment is the one the proof check compares with it
  obtain ⟨-, -, -, payload', -, hpayload', hnames, -⟩ := verifyActionProof_eq_some hverified
  obtain rfl := Option.some.inj (hpayload.symm.trans hpayload')
  exact ⟨⟨[], hverified⟩, hbox.symm, hnames.2.2.1, hdevice.symm, hclaimed, ⟨pinned, hget, .inl rfl⟩⟩

theorem Verified.Checked.change {D r}
    (h : v.Checked c s) (hchange : Change c D now s r s') : v.Checked c s' := by
  obtain ⟨e, he, hpinned⟩ := h.pinned
  obtain ⟨e', he', hkept⟩ := hchange.enrollment he
  refine ⟨h.verified, h.boxID, h.participantID, h.deviceID, hchange.claimedAs h.claimed, e',
    he', ?_⟩
  obtain rfl | hrevoked := hkept
  · exact hpinned
  · exact .inr hrevoked

/-- Consuming a challenge for a call is a request to the store like any other. -/
theorem Verified.consume_change (v : Verified) :
    Change c (fun s o response now => s.Completable c o response now) v.now s
      (.consumeChallenge v.boxID v.participantID v.deviceID v.challengeID) (v.consume c s).2 :=
  Request.changes c v.now s (.consumeChallenge v.boxID v.participantID v.deviceID v.challengeID)

variable {Signed : c.Key → List UInt8 → Prop}

/-- A call whose challenge is consumed rests on everything it should. -/
theorem Verified.Checked.authentic (h : v.Checked c s)
    (hconsumed : (v.consume c s).1 = true) {issued : List Challenge}
    (hissued : ∀ id state, s.participantChallenges.get? id = some state →
      state.challenge ∈ issued ∧ state.challenge.challengeID = id)
    (hcollision : Function.Injective c.sha256)
    (hunforgeable : ∀ key digest signature, c.ecdsaVerify key digest signature = true →
      ∃ message, c.sha256 message = digest ∧ Signed key message) :
    Authentic c Signed issued ⟨v, s⟩ := by
  obtain ⟨state, e, hstate, hfresh, hbox, hparticipant, hdevice, hvalid, he, hinitial, -⟩ :=
    Verified.consume_eq_true hconsumed
  have heq : e = v.enrollment := by
    obtain ⟨e', he', hpinned⟩ := h.pinned
    obtain rfl := Option.some.inj (he.symm.trans he')
    exact hpinned.resolve_right (not_not.mpr hinitial.1)
  subst heq
  obtain ⟨hmem, hid⟩ := hissued v.challengeID state hstate
  obtain ⟨-, -, -, -, -, hstarted, hlasts, -⟩ := hvalid
  obtain ⟨revocations, hverified⟩ := h.verified
  obtain ⟨rootKey, deviceKey, notBefore, payload, henrollment, hpayload, hnames, hsignature⟩ :=
    verifyActionProof_eq_some hverified
  obtain ⟨signature, hverify⟩ := ecdsaVerify_of_verifyParticipantSignature hsignature
  obtain ⟨message, hdigest, hsigned⟩ := hunforgeable _ _ _ hverify
  obtain rfl := hcollision hdigest
  refine ⟨⟨state.challenge, hmem, ?_, hid, hbox.trans h.boxID, hparticipant.trans h.participantID,
    hdevice.trans h.deviceID, hstarted, hlasts⟩, h.boxID ▸ h.claimed,
    ⟨h.participantID ▸ he, hinitial.1⟩,
    ⟨rootKey, deviceKey, notBefore, payload, henrollment, hpayload, hnames, hsigned, ?_⟩⟩
  · rw [hstate, ← hfresh]
  · intro other hother
    have hdigests : c.digestText other = c.digestText v.request :=
      hother.trans hnames.2.2.2.2.2.2.2.2.2
    have hdecoded : some (c.sha256 other) = some (c.sha256 v.request) := by
      rw [← Hex.decode_encode, ← Hex.decode_encode]
      exact congrArg Hex.decode hdigests
    exact hcollision (Option.some.inj hdecoded)

/-- What holds of a system at any moment. -/
structure System.OK (c : Suite) (Signed : c.Key → List UInt8 → Prop) (sys : System) : Prop where
  issued : ∀ id state, sys.store.participantChallenges.get? id = some state →
    state.challenge ∈ sys.issued ∧ state.challenge.challengeID = id
  verified : ∀ v ∈ sys.verified, v.Checked c sys.store
  granted : ∀ g ∈ sys.granted, Authentic c Signed sys.issued g
  spent : ∀ g ∈ sys.granted, ∃ state,
    sys.store.participantChallenges.get? g.challengeID = some state ∧
    state.consumedAtMilliseconds ≠ 0
  nodup : (sys.granted.map (·.challengeID)).Nodup

theorem System.OK.call (h : sys.OK c Signed) (call : Call) :
    (System.step c (.call call) sys).OK c Signed := by
  have hchange := Request.changes c call.now sys.store call.request
  refine ⟨fun id state hstate => ?_, fun v hv => (h.verified v hv).change hchange,
    fun g hg => (h.granted g hg).mono _, fun g hg => ?_, h.nodup⟩
  · change state.challenge ∈ sys.issued ++ (call.issues c sys.store).toList ∧ _
    cases hold : sys.store.participantChallenges.get? id with
    | none =>
      obtain ⟨hissues, hid⟩ := call.issues_of_new hold hstate
      exact ⟨List.mem_append_right _ (by simp [hissues]), hid⟩
    | some old =>
      obtain ⟨state', hstate', hsame, -⟩ := hchange.challenge hold
      obtain rfl := Option.some.inj (hstate'.symm.trans hstate)
      obtain ⟨hmem, hid⟩ := h.issued id old hold
      rw [hsame]
      exact ⟨List.mem_append_left _ hmem, hid⟩
  · obtain ⟨state, hstate, hconsumed⟩ := h.spent g hg
    obtain ⟨state', hstate', -, hkept⟩ := hchange.challenge hstate
    exact ⟨state', hstate', hkept hconsumed⟩

theorem System.OK.verify (h : sys.OK c Signed) {v? : Option Verified}
    (hv : ∀ v ∈ v?, v.Checked c sys.store) :
    System.OK c Signed { sys with verified := sys.verified ++ v?.toList } := by
  refine ⟨h.issued, fun v hmem => ?_, h.granted, h.spent, h.nodup⟩
  obtain hmem | hmem := List.mem_append.mp hmem
  · exact h.verified v hmem
  · exact hv v (Option.mem_toList.mp hmem)

theorem System.OK.consume (h : sys.OK c Signed) (hcollision : Function.Injective c.sha256)
    (hunforgeable : ∀ key digest signature, c.ecdsaVerify key digest signature = true →
      ∃ message, c.sha256 message = digest ∧ Signed key message) (index : Nat) :
    (System.step c (.consume index) sys).OK c Signed := by
  unfold System.step
  cases hindex : sys.verified[index]? with
  | none =>
    simp only [hindex]
    exact h
  | some v =>
    simp only [hindex]
    have hchecked : v.Checked c sys.store := h.verified v (List.mem_of_getElem? hindex)
    have hchange := v.consume_change (c := c) (s := sys.store)
    have hissued : ∀ id state, (v.consume c sys.store).2.participantChallenges.get? id = some state →
        state.challenge ∈ sys.issued ∧ state.challenge.challengeID = id := by
      intro id state hstate
      cases hold : sys.store.participantChallenges.get? id with
      | none => cases (hchange.issued hold hstate).1
      | some old =>
        obtain ⟨state', hstate', hsame, -⟩ := hchange.challenge hold
        obtain rfl := Option.some.inj (hstate'.symm.trans hstate)
        exact hsame ▸ h.issued id old hold
    have hspent : ∀ g ∈ sys.granted, ∃ state,
        (v.consume c sys.store).2.participantChallenges.get? g.challengeID = some state ∧
          state.consumedAtMilliseconds ≠ 0 := by
      intro g hg
      obtain ⟨state, hstate, hconsumed⟩ := h.spent g hg
      obtain ⟨state', hstate', -, hkept⟩ := hchange.challenge hstate
      exact ⟨state', hstate', hkept hconsumed⟩
    have hverified : ∀ v' ∈ sys.verified.eraseIdx index, v'.Checked c (v.consume c sys.store).2 :=
      fun v' hv' => (h.verified v' (List.mem_of_mem_eraseIdx hv')).change hchange
    cases hconsumed : (v.consume c sys.store).1 with
    | false => exact ⟨hissued, hverified, h.granted, hspent, h.nodup⟩
    | true =>
      obtain ⟨state, -, hstate, hfresh, -, -, -, hvalid, -, -, hstore⟩ :=
        Verified.consume_eq_true hconsumed
      refine ⟨hissued, hverified, fun g hg => ?_, fun g hg => ?_, ?_⟩
      · obtain hg | hg := List.mem_append.mp hg
        · exact h.granted g hg
        · obtain rfl := List.mem_singleton.mp hg
          exact hchecked.authentic hconsumed h.issued hcollision hunforgeable
      · obtain hg | hg := List.mem_append.mp hg
        · exact hspent g hg
        · obtain rfl := List.mem_singleton.mp hg
          refine ⟨{ state with consumedAtMilliseconds := v.now }, ?_, ?_⟩
          · rw [hstore]
            exact GoMap.get?_set_self _ _ _
          · obtain ⟨-, -, -, -, hpositive, hstarted, -⟩ := hvalid
            exact ne_of_gt (lt_of_lt_of_le hpositive hstarted)
      · -- every earlier authorization has its challenge consumed, this one's was not
        rw [if_pos rfl, List.map_append, List.nodup_append]
        refine ⟨h.nodup, List.nodup_singleton _, ?_⟩
        intro id hid id' hid' heq
        obtain ⟨g, hg, rfl⟩ := List.mem_map.mp hid
        obtain rfl := List.mem_singleton.mp hid'
        obtain ⟨earlier, hearlier, hspentEarlier⟩ := h.spent g hg
        change g.challengeID = v.challengeID at heq
        rw [heq] at hearlier
        obtain rfl := Option.some.inj (hearlier.symm.trans hstate)
        exact hspentEarlier hfresh

end

/-- **Action proofs are authentic, fresh and single-use.** Take SHA-256 collision-free and
signatures unforgeable. In every interleaving of the accesses to the store, every authorization that
was granted rests on a challenge of its own that this Box issued, and on a signature of the pinned
device key over exactly this action and request; and no two of them consumed the same challenge. -/
theorem authorizations_of_run (c : Suite) (Signed : c.Key → List UInt8 → Prop)
    (hcollision : Function.Injective c.sha256)
    (hunforgeable : ∀ key digest signature, c.ecdsaVerify key digest signature = true →
      ∃ message, c.sha256 message = digest ∧ Signed key message) (events : List Event) :
    (∀ g ∈ (run (System.step c) System.new events).granted,
        Authentic c Signed (run (System.step c) System.new events).issued g) ∧
      ((run (System.step c) System.new events).granted.map (·.challengeID)).Nodup := by
  have hok : (run (System.step c) System.new events).OK c Signed := by
    refine invariant (I := System.OK c Signed) ?_ ?_ (along_true events)
    · refine ⟨fun id state hstate => ?_, List.forall_mem_nil _, List.forall_mem_nil _,
        List.forall_mem_nil _, List.nodup_nil⟩
      simp [System.new, newMemoryStore] at hstate
    · intro sys event h _
      cases event with
      | call call => exact h.call call
      | authorizeAction e revocations proof challengeID action request now =>
        exact h.verify fun v hv => checked_of_authorizeAction hv
      | authorizePresentedAction proof challengeID action request now =>
        exact h.verify fun v hv => checked_of_authorizePresentedAction hv
      | consume index => exact h.consume hcollision hunforgeable index
  exact ⟨hok.granted, hok.nodup⟩

namespace Sample

/-- The first participant gets a challenge and presents the same proof in two calls at once. -/
def presentations : List Event :=
  (setup.map .call) ++
    [.call ⟨10, .issueChallenge ⟨boxID, participantID 1, deviceID 1, uuid 50, 10, 20⟩⟩,
      .authorizePresentedAction ⟨[9], Base64Url.encode (List.replicate 64 0)⟩ (uuid 50)
        .advertiseWorker (bytes 7) 12,
      .authorizeAction (enrollment 1) [] ⟨[9], Base64Url.encode (List.replicate 64 0)⟩ (uuid 50)
        .advertiseWorker (bytes 7) 12,
      .consume 0, .consume 0]

end Sample

/-- In the sample both calls verify the proof and one of them is granted. -/
theorem authorizations_sample :
    ((run (System.step Sample.suite) System.new Sample.presentations).granted.map (·.challengeID)) =
        [Sample.uuid 50] ∧
      ∀ g ∈ (run (System.step Sample.suite) System.new Sample.presentations).granted,
        Authentic Sample.suite (fun _ _ => True)
          (run (System.step Sample.suite) System.new Sample.presentations).issued g :=
  ⟨by decide +kernel, (authorizations_of_run Sample.suite (fun _ _ => True) Sample.digest.injective
      (fun _ digest _ _ => ⟨Sample.digest.symm digest, Sample.digest.apply_symm_apply digest,
        trivial⟩)
      Sample.presentations).1⟩

end FacetsNode.Box
