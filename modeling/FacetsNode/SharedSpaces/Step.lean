import FacetsNode.SharedSpaces.Operation

/-!
# What one request can do

One rule per request, in the form of `Ends`: started in a store, the request ends in an error, in
the answer it gave before, or in a new record under the guards the code checked. `Outcome` says this
for all requests at once. Each rule walks through its request once; everything else about runs
follows from the rules.

A change says what becomes of the `Core` of the store — the memory of the device lists, the Spaces,
the invitations, the epochs of the checkpoints and the log — and under what its answer is filed.
-/

namespace FacetsNode.SharedSpaces

open Relay (UUID uuidNil Acceptance AdministrationCredential Credential RelayError Envelope
  PublishResult CheckpointCandidate CheckpointStageResponse CheckpointActivationRequest
  CheckpointActivationResponse)
open Attempt

/-! ## The core of a store -/

structure Core (H S : Type) where
  heap : H
  spaces : GoMap UUID (MemorySpace S)
  invitations : GoMap UUID (MemoryInvitation S)
  checkpointEpochs : GoMap UUID Nat
  authorityEvents : GoMap UUID (List AuthorityEvent)
  nextAuthoritySequences : GoMap UUID Nat

section
variable {H S : Type}

def MemoryStore.core (s : MemoryStore H S) : Core H S :=
  ⟨s.heap, s.spaces, s.invitations, s.checkpointEpochs, s.authorityEvents, s.nextAuthoritySequences⟩

namespace Core

/-- One more event in the log of its Space. -/
def log (c : Core H S) (event : AuthorityEvent) : Core H S :=
  let next := increment ((c.nextAuthoritySequences.get? event.spaceID).getD 0)
  { c with
    nextAuthoritySequences := c.nextAuthoritySequences.set event.spaceID next
    authorityEvents := c.authorityEvents.set event.spaceID
      ((c.authorityEvents.get? event.spaceID).getD [] ++
        [{ event with version := schemaVersion, sequence := next }]) }

/-- Other contents for a Space. -/
def put (c : Core H S) (spaceID : UUID) (space : MemorySpace S) : Core H S :=
  { c with spaces := c.spaces.set spaceID space }

/-- Another record for an invitation. -/
def invite (c : Core H S) (invitationID : UUID) (record : MemoryInvitation S) : Core H S :=
  { c with invitations := c.invitations.set invitationID record }

variable (c : Core H S) (event : AuthorityEvent) (id : UUID) (space : MemorySpace S)
  (record : MemoryInvitation S)

@[simp] theorem put_spaces : (c.put id space).spaces = c.spaces.set id space := rfl
@[simp] theorem put_invitations : (c.put id space).invitations = c.invitations := rfl
@[simp] theorem invite_invitations :
    (c.invite id record).invitations = c.invitations.set id record := rfl

end Core

/-! ## Retries -/

/-- Under what the answer to a request is filed. -/
inductive Retry where
  | space (retryID : UUID)
  | invitation (retryID : UUID)
  | cancellation (retryID : UUID)
  | roleChange (retryID : UUID)
  | enrollment (retryID : UUID)
  | deviceRevocation (retryID : UUID)
  | revocation (retryID : UUID)
  | binding (retryID : UUID)
  | presentation (retryID : UUID)
  deriving DecidableEq

/-- An answer is filed there. -/
def MemoryStore.filed (s : MemoryStore H S) : Retry → Bool
  | .space id => (s.spaceRetries.get? id).isSome
  | .invitation id => (s.invitationRetries.get? id).isSome
  | .cancellation id => (s.invitationCancellations.get? id).isSome
  | .roleChange id => (s.roleChanges.get? id).isSome
  | .enrollment id => (s.deviceEnrollments.get? id).isSome
  | .deviceRevocation id => (s.deviceRevocations.get? id).isSome
  | .revocation id => (s.revocations.get? id).isSome
  | .binding id => (s.computeBindingChanges.get? id).isSome
  | .presentation id => (s.presentationUpdates.get? id).isSome

/-- One more answer is filed. -/
def Files (s s' : MemoryStore H S) (retry : Retry) : Prop :=
  ∀ k, s'.filed k = (s.filed k || decide (k = retry))

/-- A table keeps what is filed under other identifiers. -/
theorem isSome_get?_other {V : Type} (m : GoMap UUID V) {key : UUID → Retry} {id id'} (v : V)
    (h : key id' ≠ key id) : ((m.set id v).get? id').isSome = (m.get? id').isSome := by
  rw [GoMap.get?_set_ne _ _ fun heq => h (congrArg key heq)]

theorem isSome_get?_own {V : Type} (m : GoMap UUID V) (id : UUID) (v : V) :
    ((m.set id v).get? id).isSome = true := by
  rw [GoMap.get?_set_self]
  rfl

theorem files_intro {s s' : MemoryStore H S} {retry} (hself : s'.filed retry = true)
    (hother : ∀ k, k ≠ retry → s'.filed k = s.filed k) : Files s s' retry := by
  intro k
  by_cases hk : k = retry
  · rw [hk, hself, decide_eq_true rfl, Bool.or_true]
  · rw [hother k hk, decide_eq_false hk, Bool.or_false]

/-! ## Rules of the commands -/

variable {α β : Type} {s : MemoryStore H S} {Q : Except SpacesError β → MemoryStore H S → Prop}

variable {code : ErrorCode} {credential : AdministrationCredential} {now : Int}
  {space : MemorySpace S} {spare : Nat} {custody : Option Custody}

theorem ends_onRelay {m : Attempt Relay.MemoryStore RelayError α}
    {f : α → Attempt (MemoryStore H S) SpacesError β}
    (herr : ∀ e, Q (.error e) { s with relay := (m s.relay).2 })
    (hok : ∀ a, (m s.relay).1 = .ok a → Ends (f a) { s with relay := (m s.relay).2 } Q) :
    Ends (onRelay m >>= f) s Q := by
  apply ends_bind
  unfold Ends onRelay ofRelay
  cases hr : (m s.relay).1 with
  | error e => exact herr _
  | ok a => exact hok a hr

theorem ends_onHeap {m : Attempt H SpacesError α} {f : α → Attempt (MemoryStore H S) SpacesError β}
    (h : Ends m s.heap (fun r h' => match r with
      | .error e => Q (.error e) { s with heap := h' }
      | .ok a => Ends (f a) { s with heap := h' } Q)) : Ends (onHeap m >>= f) s Q := by
  apply ends_bind
  unfold Ends onHeap at *
  cases hr : (m s.heap).1 with
  | error e | ok a => rw [hr] at h; exact h

/-- Asking the relay for an administrator's status only reads. -/
theorem ends_domainStatus
    {f : Relay.DomainStatus → Attempt (MemoryStore H S) SpacesError β} (herr : ∀ e, Q (.error e) s)
    (hok : ∀ status, s.relay.getDomainStatus credential = .ok status → Ends (f status) s Q) :
    Ends (domainStatus credential >>= f) s Q := by
  apply ends_bind
  unfold domainStatus
  refine ends_get ?_
  unfold Ends Attempt.ofExcept ofRelay
  cases hr : s.relay.getDomainStatus credential with
  | error e => exact herr _
  | ok status => exact hok status hr

theorem ends_findSpace_eq {spaceID} {f : MemorySpace S → Attempt (MemoryStore H S) SpacesError β}
    (herr : ∀ {e}, Q (.error e) s)
    (hok : ∀ space, s.spaces.get? spaceID = some space → Ends (f space) s Q) :
    Ends (findSpace spaceID >>= f) s Q := by
  apply ends_bind
  unfold findSpace
  refine ends_get ?_
  cases hs : s.spaces.get? spaceID with
  | none => exact herr
  | some space => exact hok space hs

/-- Authentication goes through the relay's `fetch`. -/
theorem ends_authenticate {credential} {f : Unit → Attempt (MemoryStore H S) SpacesError β}
    (herr : ∀ e relay, Q (.error e) { s with relay := relay })
    (hok : ∀ page relay, Relay.MemoryStore.fetch credential 0 1 now s.relay = (.ok page, relay) →
      Ends (f ()) { s with relay := relay } Q) :
    Ends (authenticate credential now >>= f) s Q := by
  apply ends_bind
  unfold authenticate
  refine ends_onRelay (fun e => herr e _) fun page hpage => ?_
  exact hok page _ (Prod.ext hpage rfl)

/-! ## The checks of a roster

The check of the roster is itself a command on the device lists, with a rule of its own: it refuses
before it writes, or it writes and then answers what the attestation says. -/

variable (L : Slices ParticipantDeviceKey H S)

/-- A Secure Space asks for an attestation. -/
theorem attestationPair_none {attestation : Option SecureRosterAttestation} {missing}
    (h : attestationPair space attestation code missing = .ok none) :
    space.provisioning.securityMode ≠ .secure := by
  intro hmode
  unfold attestationPair at h
  rw [if_neg (not_not.mpr hmode)] at h
  split at h <;> cases h

theorem attestationPair_some {attestation : Option SecureRosterAttestation} {missing}
    {current next : SecureRosterAttestation} :
    attestationPair space attestation code missing = .ok (some (current, next)) ↔
      space.provisioning.securityMode = .secure ∧ space.secureRosterAttestation = some current ∧
        attestation = some next := by
  unfold attestationPair
  by_cases hmode : space.provisioning.securityMode = .secure
  · rw [if_neg (not_not.mpr hmode)]
    cases space.secureRosterAttestation <;> cases attestation <;> simp [hmode]
  · rw [if_pos hmode]
    simp [hmode, bind_eq_ok]

/-- The check of an enrollment writes to the list exactly when there are two attestations to compare
and the participant is found. -/
theorem ends_validateDeviceEnrollment {enrollment} {h : H} {Q : Except SpacesError Unit → H → Prop}
    (herr : ∀ e, (∀ current next candidate, space.provisioning.securityMode = .secure →
      space.secureRosterAttestation = some current →
      enrollment.secureRosterAttestation = some next →
      (activeMemoryParticipants space).find? (·.participantID = enrollment.participantID) ≠
        some candidate) → Q (.error e) h)
    (hplain : space.provisioning.securityMode ≠ .secure → Q (.ok ()) h)
    (hsecure : ∀ current next candidate verdict, space.provisioning.securityMode = .secure →
      space.secureRosterAttestation = some current →
      enrollment.secureRosterAttestation = some next →
      (activeMemoryParticipants space).find? (·.participantID = enrollment.participantID) =
        some candidate →
      Q verdict (L.appendSorted byDeviceID h candidate.deviceKeys enrollment.deviceKey spare).1) :
    Ends (validateDeviceEnrollmentRosterAttestation L space enrollment spare) h Q := by
  unfold validateDeviceEnrollmentRosterAttestation
  refine ends_ofExcept (fun e hpair =>
    herr e fun _ _ _ hmode hcurrent hnext => ?_) fun pair hpair => ?_
  · cases hpair.symm.trans (attestationPair_some.mpr ⟨hmode, hcurrent, hnext⟩)
  cases pair with
  | none => exact hplain (attestationPair_none hpair)
  | some pair =>
    obtain ⟨hmode, hcurrent, hnext⟩ := attestationPair_some.mp hpair
    dsimp only
    cases hcandidate : (activeMemoryParticipants space).find?
        (·.participantID = enrollment.participantID) with
    | none => exact herr _ fun _ _ _ _ _ _ hfound => by cases hcandidate.symm.trans hfound
    | some candidate => exact hsecure pair.1 pair.2 candidate _ hmode hcurrent hnext hcandidate

theorem ends_validateDeviceRevocation {revocation} {h : H} {Q : Except SpacesError Unit → H → Prop}
    (herr : ∀ e, (∀ current next candidate i, space.provisioning.securityMode = .secure →
      space.secureRosterAttestation = some current →
      revocation.secureRosterAttestation = some next →
      (activeMemoryParticipants space).find? (·.participantID = revocation.participantID) =
        some candidate →
      (((L.elems h candidate.deviceKeys).getD []).findIdx? fun key =>
        key.deviceID = revocation.deviceID ∧ key.revokedAtMilliseconds = none) ≠ some i) →
      Q (.error e) h)
    (hplain : space.provisioning.securityMode ≠ .secure → Q (.ok ()) h)
    (hsecure : ∀ current next candidate i verdict, space.provisioning.securityMode = .secure →
      space.secureRosterAttestation = some current →
      revocation.secureRosterAttestation = some next →
      (activeMemoryParticipants space).find? (·.participantID = revocation.participantID) =
        some candidate →
      (((L.elems h candidate.deviceKeys).getD []).findIdx? fun key =>
        key.deviceID = revocation.deviceID ∧ key.revokedAtMilliseconds = none) = some i →
      Q verdict (L.set h candidate.deviceKeys i revocation.deviceKey).1) :
    Ends (validateDeviceRevocationRosterAttestation L space revocation) h Q := by
  unfold validateDeviceRevocationRosterAttestation
  refine ends_ofExcept (fun e hpair =>
    herr e fun _ _ _ _ hmode hcurrent hnext => ?_) fun pair hpair => ?_
  · cases hpair.symm.trans (attestationPair_some.mpr ⟨hmode, hcurrent, hnext⟩)
  cases pair with
  | none => exact hplain (attestationPair_none hpair)
  | some pair =>
    obtain ⟨hmode, hcurrent, hnext⟩ := attestationPair_some.mp hpair
    dsimp only
    refine ends_get ?_
    cases hcandidate : (activeMemoryParticipants space).find?
        (·.participantID = revocation.participantID) with
    | none => exact herr _ fun _ _ _ _ _ _ _ hfound => by cases hcandidate.symm.trans hfound
    | some candidate =>
      dsimp only
      cases hindex : ((L.elems h candidate.deviceKeys).getD []).findIdx? fun key =>
          key.deviceID = revocation.deviceID ∧ key.revokedAtMilliseconds = none with
      | none =>
        refine herr _ fun _ _ _ _ _ _ _ hfound hi => ?_
        cases hcandidate.symm.trans hfound
        cases hindex.symm.trans hi
      | some i => exact hsecure pair.1 pair.2 candidate i _ hmode hcurrent hnext hcandidate hindex

/-- The memory after a check of the roster that passed: as it was or, if the Space is Secure, after
one of these writes to the list of the participant. -/
inductive RosterChecked (space : MemorySpace S) (participantID : UUID) (h : H)
    (Writes : S → H → Prop) :
    H → Prop
  | plain : RosterChecked space participantID h Writes h
  | secure {candidate h₁} (hcandidate : (activeMemoryParticipants space).find?
      (·.participantID = participantID) = some candidate)
        (hwrites : Writes candidate.deviceKeys h₁) :
      RosterChecked space participantID h Writes h₁

/-- An enrollment that passed has a grant. -/
theorem ParticipantDeviceEnrollment.keyGrant_of_validateKeyGrant (e : ParticipantDeviceEnrollment)
    {mode} {keyEpoch : Nat} {participants : List FullParticipant}
    (h : e.validateKeyGrant mode keyEpoch participants now = .ok ()) :
    ∃ grant, e.keyGrant = some grant := by
  unfold ParticipantDeviceEnrollment.validateKeyGrant at h
  by_cases hmode : mode = .managed
  · rw [if_pos hmode] at h
    cases h
  · rw [if_neg hmode] at h
    cases hgrant : e.keyGrant with
    | none => rw [hgrant] at h; cases h
    | some grant => exact ⟨grant, rfl⟩

/-! ## One step -/

/-- The request provisions a Space from this description. -/
def Operation.provisions : Operation → SpaceProvisioning (GoSlice ParticipantDeviceKey) → Prop
  | .provisionSpace _ p _ _, provisioning => p = provisioning
  | .provisionSpaceWithAuthority _ p _ _ _, provisioning => p = provisioning
  | _, _ => False

/-- The store has not answered the request yet. -/
def Operation.fresh (s : MemoryStore H S) : Operation → Bool
  | .provisionSpace _ p _ _ | .provisionSpaceWithAuthority _ p _ _ _ =>
    (s.spaceRetries.get? p.retryID).isNone && (s.spaces.get? p.spaceID).isNone
  | .createInvitation _ i _ _ =>
    (s.invitationRetries.get? i.retryID).isNone && (s.invitations.get? i.invitationID).isNone
  | .claimInvitation c _ _ => ((s.invitations.get? c.invitationID).bind (·.result)).isNone
  | .cancelInvitation _ r _ => (s.invitationCancellations.get? r.retryID).isNone
  | .changeParticipantRole _ r _ => (s.roleChanges.get? r.retryID).isNone
  | .enrollParticipantDevice _ e _ _ _ => (s.deviceEnrollments.get? e.retryID).isNone
  | .revokeParticipantDevice _ r _ => (s.deviceRevocations.get? r.retryID).isNone
  | .revokeParticipant _ _ r _ => (s.revocations.get? r.retryID).isNone
  | .changeComputeBinding _ r _ => (s.computeBindingChanges.get? r.retryID).isNone
  | _ => false

/-- What a request that is refused can leave behind. `enrollment` and `revocation` are refusals that
came after a device list was written to. -/
inductive Refusal (L : Slices ParticipantDeviceKey H S) (s s' : MemoryStore H S) : Operation → Prop
  | quiet {op} (hcore : s'.core = s.core) : Refusal L s s' op
  | enrollment {credential enrollment spareOfCheck spare now space participant current next
      candidate}
      (hpassed : (checkEnrollment L credential enrollment now s).1 =
        .ok (.inr (space, participant)))
      (hspace : s.spaces.get? enrollment.spaceID = some space)
      (hparticipant : space.participants.get? enrollment.participantID = some participant)
      (hmode : space.provisioning.securityMode = .secure)
      (hcurrent : space.secureRosterAttestation = some current)
      (hnext : enrollment.secureRosterAttestation = some next)
      (hcandidate : (activeMemoryParticipants space).find?
        (·.participantID = enrollment.participantID) = some candidate)
      (hcore : s'.core = { s.core with heap :=
        (L.appendSorted byDeviceID s.heap candidate.deviceKeys enrollment.deviceKey
          spareOfCheck).1 }) :
      Refusal L s s' (.enrollParticipantDevice credential enrollment spareOfCheck spare now)
  | revocation {credential revocation now space participant targetIndex current next candidate i}
      (hpassed : (checkDeviceRevocation L credential revocation now s).1 =
        .ok (.inr (space, participant, targetIndex)))
      (hspace : s.spaces.get? revocation.spaceID = some space)
      (hparticipant : space.participants.get? revocation.participantID = some participant)
      (hmode : space.provisioning.securityMode = .secure)
      (hcurrent : space.secureRosterAttestation = some current)
      (hnext : revocation.secureRosterAttestation = some next)
      (hcandidate : (activeMemoryParticipants space).find?
        (·.participantID = revocation.participantID) = some candidate)
      (hindex : (((L.elems s.heap candidate.deviceKeys).getD []).findIdx? fun key =>
        key.deviceID = revocation.deviceID ∧ key.revokedAtMilliseconds = none) = some i)
      (hcore : s'.core = { s.core with
        heap := (L.set s.heap candidate.deviceKeys i revocation.deviceKey).1 }) :
      Refusal L s s' (.revokeParticipantDevice credential revocation now)

/-- Everything a request can do to the core of a store when it is answered for the first time. -/
inductive Change (L : Slices ParticipantDeviceKey H S) (s s' : MemoryStore H S) : Operation → Prop
  | provisioned {op provisioning spare relayResult initialAuthority managedKey}
      (hnew : Operation.fresh s op = true)
      (hop : op.provisions provisioning)
      (hfresh : s.spaces.get? provisioning.spaceID = none)
      (hcore : s'.core = (({ s.core with
        heap := (L.make s.heap provisioning.initialParticipantDeviceKeys spare).1 }).put
        provisioning.spaceID (MemorySpace.initial (provisioning.withKeys
          (L.make s.heap provisioning.initialParticipantDeviceKeys spare).2) relayResult
          initialAuthority managedKey)).log provisioning.event)
      (hfiled : Files s s' (.space provisioning.retryID)) : Change L s s' op
  | invited {credential invitation spare now space}
      (hnew : Operation.fresh s (.createInvitation credential invitation spare now) = true)
      (hspace : s.spaces.get? invitation.spaceID = some space)
      (hfresh : s.invitations.get? invitation.invitationID = none)
      (hcore : s'.core = (({ s.core with
        heap := (L.make s.heap invitation.participantDeviceKeys spare).1 }).invite
        invitation.invitationID ⟨invitation.withKeys
          (L.make s.heap invitation.participantDeviceKeys spare).2, none, none, none⟩).log
        (invitation.event credential.domainID space.keyEpoch))
      (hfiled : Files s s' (.invitation invitation.retryID)) :
      Change L s s' (.createInvitation credential invitation spare now)
  | claimed {credential claim now record space result}
      (hnew : Operation.fresh s (.claimInvitation credential claim now) = true)
      (hrecord : s.invitations.get? credential.invitationID = some record)
      (hspaceID : record.invitation.spaceID = claim.spaceID)
      (hparticipantID : record.invitation.participantID = claim.participantID)
      (hunclaimed : record.result = none)
      (hspace : s.spaces.get? claim.spaceID = some space)
      (hcore : s'.core = (((s.core.put claim.spaceID (space.claimed record.invitation now)).invite
        credential.invitationID { record with
          result := some result
          claimedAtMilliseconds := some claim.claimedAtMilliseconds }).log
        (claim.event credential record.invitation space.keyEpoch)))
      (hfiled : s'.filed = s.filed) :
      Change L s s' (.claimInvitation credential claim now)
  | cancelled {credential cancellation now record result}
      (hnew : Operation.fresh s (.cancelInvitation credential cancellation now) = true)
      (hrecord : s.invitations.get? cancellation.invitationID = some record)
      (hunclaimed : record.result = none)
      (hcore : s'.core = ((s.core.invite cancellation.invitationID
        { record with cancellation := some result }).log
        (cancellation.event credential.domainID record.invitation.participantID)))
      (hfiled : Files s s' (.cancellation cancellation.retryID))
      (hspaceID : record.invitation.spaceID = cancellation.spaceID) :
      Change L s s' (.cancelInvitation credential cancellation now)
  | roleChanged {credential change now space participant}
      (hnew : Operation.fresh s (.changeParticipantRole credential change now) = true)
      (hspace : s.spaces.get? change.spaceID = some space)
      (hparticipant : space.participants.get? change.participantID = some participant)
      (hactive : participant.revokedAtMilliseconds = none)
      (hcore : s'.core = ((s.core.put change.spaceID
        ((space.putParticipant { participant with role := change.nextRole }).attest
          change.secureRosterAttestation)).log (change.event credential.domainID)))
      (hfiled : Files s s' (.roleChange change.retryID)) :
      Change L s s' (.changeParticipantRole credential change now)
  | enrolled {credential enrollment spareOfCheck spare now space participant grant h₁}
      (hnew : Operation.fresh s (.enrollParticipantDevice credential enrollment spareOfCheck spare now) = true)
      (hspace : s.spaces.get? enrollment.spaceID = some space)
      (hparticipant : space.participants.get? enrollment.participantID = some participant)
      (hactive : participant.revokedAtMilliseconds = none)
      (hchecked : RosterChecked space enrollment.participantID s.heap (fun t h =>
        h = (L.appendSorted byDeviceID s.heap t enrollment.deviceKey spareOfCheck).1) h₁)
      (hcore : s'.core = ((({ s.core with heap := (L.appendSorted byDeviceID h₁
          participant.deviceKeys enrollment.deviceKey spare).1 }).put enrollment.spaceID
        (((space.putParticipant { participant with
            deviceKeys := (L.appendSorted byDeviceID h₁ participant.deviceKeys enrollment.deviceKey
              spare).2 }).putGrant
          ⟨participant.participantID, enrollment.deviceKey.deviceID⟩ grant).attest
          enrollment.secureRosterAttestation)).log
        (enrollment.event credential.domainID space.keyEpoch)))
      (hfiled : Files s s' (.enrollment enrollment.retryID)) :
      Change L s s' (.enrollParticipantDevice credential enrollment spareOfCheck spare now)
  | deviceRevoked {credential revocation now space participant targetIndex h₁}
      (hnew : Operation.fresh s (.revokeParticipantDevice credential revocation now) = true)
      (hvalid : revocation.validate = .ok ())
      (hspace : s.spaces.get? revocation.spaceID = some space)
      (hepoch : revocation.previousKeyEpoch = space.keyEpoch)
      (hparticipant : space.participants.get? revocation.participantID = some participant)
      (hactive : participant.revokedAtMilliseconds = none)
      (hchecked : RosterChecked space revocation.participantID s.heap (fun t h =>
        ∃ i, h = (L.set s.heap t i revocation.deviceKey).1) h₁)
      (hcore : s'.core = ((({ s.core with heap := (L.set h₁ participant.deviceKeys targetIndex
          revocation.deviceKey).1 }).put revocation.spaceID
        ((space.putParticipant { participant with
            deviceKeys := (L.set h₁ participant.deviceKeys targetIndex revocation.deviceKey).2 }).rekeyed
          revocation.nextKeyEpoch revocation.secureRosterAttestation revocation.keyGrants)).log
        (revocation.event credential.domainID)))
      (hfiled : Files s s' (.deviceRevocation revocation.retryID)) :
      Change L s s' (.revokeParticipantDevice credential revocation now)
  | participantRevoked {custody credential revocation now space participant managedKey}
      (hnew : Operation.fresh s (.revokeParticipant custody credential revocation now) = true)
      (hvalid : revocation.validate = .ok ())
      (hspace : s.spaces.get? revocation.spaceID = some space)
      (hepoch : revocation.previousKeyEpoch = space.keyEpoch)
      (hparticipant : space.participants.get? revocation.participantID = some participant)
      (hcore : s'.core = ((s.core.put revocation.spaceID
        (space.left participant revocation managedKey now)).log
        (revocation.event credential.domainID now)))
      (hfiled : Files s s' (.revocation revocation.retryID)) :
      Change L s s' (.revokeParticipant custody credential revocation now)
  | bound {credential change now space binding}
      (hspace : s.spaces.get? change.spaceID = some space)
      (hcore : s'.core = ((s.core.put change.spaceID { space with
        computeBindings := space.computeBindings.set change.bindingID binding }).log
        (change.event credential.domainID)))
      (hfiled : Files s s' (.binding change.retryID))
      (hnew : Operation.fresh s (.changeComputeBinding credential change now) = true)
      (hrevision : binding.revision = increment change.previousBindingRevision) :
      Change L s s' (.changeComputeBinding credential change now)
  | presented {credential update now space}
      (hspace : s.spaces.get? update.spaceID = some space)
      (hcore : s'.core = (s.core.put update.spaceID { space with
        presentations := space.presentations.set update.participantID
          { version := schemaVersion
            spaceID := update.spaceID
            participantID := update.participantID
            displayName := update.displayName
            revision := increment update.previousRevision
            updatedAtMilliseconds := update.updatedAtMilliseconds } }))
      (hfiled : Files s s' (.presentation update.retryID)) :
      Change L s s' (.updateParticipantPresentation credential update now)
  | staged {credential candidate now}
      (hcore : s'.core = { s.core with
        checkpointEpochs := s.checkpointEpochs.set candidate.checkpointID candidate.keyEpoch })
      (hfiled : s'.filed = s.filed) :
      Change L s s' (.stageCheckpoint credential candidate now)
  | activated {credential request now space}
      (hspace : s.spaces.get? credential.tenantID = some space)
      (hcore : s'.core = s.core.put credential.tenantID
        { space with activeCheckpointEpoch := space.keyEpoch })
      (hfiled : s'.filed = s.filed) :
      Change L s s' (.activateCheckpoint credential request now)

/-- A request is refused, or was answered before, or is answered now. -/
inductive Step (s s' : MemoryStore H S) (op : Operation) : Prop
  | refused (hanswer : op.accepted L s = false) (h : Refusal L s s' op)
      (hfiled : s'.filed = s.filed)
  | repeated (hanswer : op.accepted L s = true) (hfresh : op.fresh s = false)
      (hcore : s'.core = s.core) (hfiled : s'.filed = s.filed)
  | changed (hanswer : op.accepted L s = true) (h : Change L s s' op)

/-- What a request answers, and the store it leaves with that answer. -/
inductive Outcome (s : MemoryStore H S) (op : Operation) : Except SpacesError β → MemoryStore H S →
    Prop
  | refused {e s'} (h : Refusal L s s' op) (hfiled : s'.filed = s.filed) :
      Outcome s op (.error e) s'
  | repeated {r s'} (hfresh : op.fresh s = false) (hcore : s'.core = s.core)
      (hfiled : s'.filed = s.filed) : Outcome s op (.ok r) s'
  | changed {r s'} (h : Change L s s' op) : Outcome s op (.ok r) s'

section
variable {L} {op : Operation} {s' : MemoryStore H S}

/-- An error that leaves everything but the relay. -/
theorem Outcome.quiet (e : SpacesError) (relay : Relay.MemoryStore) :
    Outcome L s op (.error e : Except SpacesError β) { s with relay := relay } :=
  .refused (.quiet rfl) rfl

/-- A request that only reads, whatever it answers. -/
theorem Outcome.read {r : Except SpacesError β} (hfresh : op.fresh s = false)
    (hcore : s'.core = s.core)
    (hfiled : s'.filed = s.filed) : Outcome L s op r s' := by
  cases r with
  | error e => exact .refused (.quiet hcore) hfiled
  | ok r => exact .repeated hfresh hcore hfiled

theorem Outcome.ends_check {x : Except SpacesError α}
    {f : α → Attempt (MemoryStore H S) SpacesError β}
    (hok : ∀ a, x = .ok a → Ends (f a) s (Outcome L s op)) :
    Ends (ofExcept x >>= f) s (Outcome L s op) :=
  ends_ofExcept (fun e _ => .quiet e s.relay) hok

theorem Outcome.ends_refuse {c : Prop} [Decidable c] {code message relay}
    {f : Unit → Attempt (MemoryStore H S) SpacesError β}
    (hok : ¬ c → Ends (f ()) { s with relay := relay } (Outcome L s op)) :
    Ends (refuse c code message >>= f) { s with relay := relay } (Outcome L s op) :=
  ends_reject (.quiet _ relay) hok

theorem Outcome.ends_findSpace {spaceID}
    {f : MemorySpace S → Attempt (MemoryStore H S) SpacesError β}
    {relay} (hok : ∀ space, s.spaces.get? spaceID = some space →
      Ends (f space) { s with relay := relay } (Outcome L s op)) :
    Ends (findSpace spaceID >>= f) { s with relay := relay } (Outcome L s op) :=
  ends_findSpace_eq (.quiet _ relay) hok

/-- A request that was answered before: it differs from that one, or gets its answer. -/
theorem Outcome.ends_repeated {c : Prop} [Decidable c] {code message} {r : β}
    (hfresh : op.fresh s = false) :
    Ends (refuse c code message >>= fun _ => pure r) s (Outcome L s op) :=
  ends_refuse fun _ => .repeated hfresh rfl rfl

/-- The answer itself does not matter. -/
theorem Outcome.ends_map {g : α → β} {m : Attempt (MemoryStore H S) SpacesError α}
    (h : Ends m s (Outcome L s op)) : Ends (g <$> m) s (Outcome L s op) := by
  refine Attempt.ends_map (h.mono fun r s' h => ?_)
  cases h with
  | refused h hfiled => exact .refused h hfiled
  | repeated hfresh hcore hfiled => exact .repeated hfresh hcore hfiled
  | changed h => exact .changed h

end

/-! ## Rules of the requests -/

open Outcome

/-- **`provisionSpace`**, whichever of the two requests asks for it. -/
theorem ends_provisionSpace {provisioning : SpaceProvisioning (GoSlice ParticipantDeviceKey)}
    {initialAuthority : Option InitialServiceAuthorityBinding} {op}
    (hop : op.provisions provisioning)
    (hfresh : op.fresh s = ((s.spaceRetries.get? provisioning.retryID).isNone &&
      (s.spaces.get? provisioning.spaceID).isNone)) :
    Ends (provisionSpace L custody provisioning initialAuthority spare now) s (Outcome L s op) := by
  unfold provisionSpace
  refine ends_check fun _ hvalid => ?_
  refine ends_refuse fun _ => ?_
  refine ends_get ?_
  cases hretry : s.spaceRetries.get? provisioning.retryID with
  | some spaceID =>
    dsimp only
    cases hspace : s.spaces.get? spaceID with
    | none => exact quiet _ s.relay
    | some existing =>
      exact ends_repeated (by simp [hfresh, hretry])
  | none =>
    dsimp only
    cases hspace : s.spaces.get? provisioning.spaceID with
    | some existing =>
      exact ends_repeated (by simp [hfresh, hspace])
    | none =>
      refine ends_refuse fun _ => ?_
      refine ends_check fun managedKey _ => ?_
      refine ends_onRelay (.quiet · _) fun relayResult _ => ?_
      exact changed (.provisioned (by simp [hfresh, hretry, hspace]) hop hspace rfl
        (files_intro (isSome_get?_own ..) fun k hk => by
          cases k <;> first | rfl | exact isSome_get?_other _ _ hk))

/-- **`CreateInvitation`.** -/
theorem ends_createInvitation {invitation : Invitation (GoSlice ParticipantDeviceKey)} :
    Ends (createInvitation L credential invitation spare now) s
      (Outcome L s (.createInvitation credential invitation spare now)) := by
  unfold createInvitation
  refine ends_check fun _ hvalid => ?_
  refine ends_refuse fun _ => ?_
  refine ends_findSpace fun space hspace => ?_
  refine ends_refuse fun _ => ?_
  refine ends_refuse fun _ => ?_
  refine ends_get ?_
  cases hretry : s.invitationRetries.get? invitation.retryID with
  | some invitationID =>
    dsimp only
    cases hexisting : s.invitations.get? invitationID with
    | none => exact quiet _ s.relay
    | some existing => exact ends_repeated (by simp [Operation.fresh, hretry])
  | none =>
    dsimp only
    cases hexisting : s.invitations.get? invitation.invitationID with
    | some existing =>
      exact ends_repeated (by simp [Operation.fresh, hexisting])
    | none =>
      refine ends_refuse fun _ => ?_
      refine ends_check fun _ _ => ?_
      refine ends_check fun _ _ => ?_
      refine ends_check fun _ _ => ?_
      refine ends_refuse fun _ => ?_
      refine ends_onRelay (.quiet · _) fun subscription _ => ?_
      refine ends_onRelay (.quiet · _) fun created _ => ?_
      exact changed (.invited (by simp [Operation.fresh, hretry, hexisting]) hspace hexisting rfl
        (files_intro (isSome_get?_own ..) fun k hk => by
          cases k <;> first | rfl | exact isSome_get?_other _ _ hk))

/-- **`ClaimInvitation`.** -/
theorem ends_claimInvitation {credential claim} : Ends (claimInvitation L credential claim now) s
      (Outcome L s (.claimInvitation credential claim now)) := by
  unfold claimInvitation
  refine ends_check fun _ _ => ?_
  refine ends_refuse fun _ => ?_
  refine ends_get ?_
  cases hrecord : s.invitations.get? credential.invitationID with
  | none => exact quiet _ s.relay
  | some record =>
    refine ends_refuse fun hclaim => ?_
    simp only [ne_eq, not_or, not_not] at hclaim
    cases hresult : record.result with
    | some result =>
      exact ends_repeated (by simp [Operation.fresh, hrecord, hresult])
    | none =>
      refine ends_refuse fun _ => ?_
      refine ends_findSpace fun space hspace => ?_
      refine ends_check fun _ _ => ?_
      refine ends_check fun _ _ => ?_
      refine ends_onRelay (.quiet · _) fun relayResult _ => ?_
      exact changed (.claimed (by simp [Operation.fresh, hrecord, hresult]) hrecord hclaim.1
        hclaim.2.1 hresult hspace rfl rfl)

/-- **`CancelInvitation`.** -/
theorem ends_cancelInvitation {cancellation} : Ends (cancelInvitation credential cancellation now) s
      (Outcome L s (.cancelInvitation credential cancellation now)) := by
  unfold cancelInvitation
  refine ends_check fun _ _ => ?_
  refine ends_findSpace fun space _ => ?_
  refine ends_refuse fun _ => ?_
  refine ends_get ?_
  cases hretry : s.invitationCancellations.get? cancellation.retryID with
  | some existing => exact ends_repeated (congrArg Option.isNone hretry)
  | none =>
    dsimp only
    cases hrecord : s.invitations.get? cancellation.invitationID with
    | none => exact quiet _ s.relay
    | some record =>
      refine ends_refuse fun hspaceID => ?_
      refine ends_refuse fun hresult => ?_
      refine ends_refuse fun _ => ?_
      refine ends_refuse fun _ => ?_
      refine ends_onRelay (.quiet · _) fun acceptance _ => ?_
      refine ends_onRelay (.quiet · _) fun change _ => ?_
      have hunclaimed : record.result = none := by
        cases hcase : record.result with
        | none => rfl
        | some _ => exact absurd (by rw [hcase]; rfl) hresult
      exact changed (.cancelled (congrArg Option.isNone hretry) hrecord hunclaimed rfl
        (files_intro (isSome_get?_own ..) fun k hk => by
          cases k <;> first | rfl | exact isSome_get?_other _ _ hk)
        (not_not.mp hspaceID))

/-- **`ChangeParticipantRole`.** -/
theorem ends_changeParticipantRole {change} : Ends (changeParticipantRole L credential change now) s
      (Outcome L s (.changeParticipantRole credential change now)) := by
  unfold changeParticipantRole
  refine ends_check fun _ _ => ?_
  refine ends_findSpace fun space hspace => ?_
  refine ends_refuse fun _ => ?_
  refine ends_refuse fun _ => ?_
  refine ends_get ?_
  cases hretry : s.roleChanges.get? change.retryID with
  | some existing => exact ends_repeated (congrArg Option.isNone hretry)
  | none =>
    dsimp only
    cases hparticipant : space.participants.get? change.participantID with
    | none => exact quiet _ s.relay
    | some participant =>
      refine ends_refuse fun hactive => ?_
      refine ends_refuse fun _ => ?_
      refine ends_refuse fun _ => ?_
      refine ends_check fun _ _ => ?_
      refine ends_onRelay (.quiet · _) fun relayResult _ => ?_
      exact changed (.roleChanged (congrArg Option.isNone hretry) hspace hparticipant
        (not_not.mp hactive) rfl
        (files_intro (isSome_get?_own ..) fun k hk => by
          cases k <;> first | rfl | exact isSome_get?_other _ _ hk))

/-! ### Devices -/

/-- The checks of an enrollment before that of the roster: they write nothing. -/
theorem ends_checkEnrollment (s : MemoryStore H S) (credential : AdministrationCredential)
    (enrollment) (now : Int) :
    Ends (checkEnrollment L credential enrollment now) s (fun r s' => s' = s ∧ match r with
      | .error _ => True
      | .ok (.inl _) => (s.deviceEnrollments.get? enrollment.retryID).isNone = false
      | .ok (.inr (space, participant)) =>
        (s.deviceEnrollments.get? enrollment.retryID).isNone = true ∧
        s.spaces.get? enrollment.spaceID = some space ∧
        space.participants.get? enrollment.participantID = some participant ∧
        participant.revokedAtMilliseconds = none ∧
        ∃ grant, enrollment.keyGrant = some grant) := by
  unfold checkEnrollment
  refine ends_ofExcept (fun _ _ => ⟨rfl, trivial⟩) fun _ _ => ?_
  refine ends_findSpace_eq ⟨rfl, trivial⟩ fun space hspace => ?_
  refine ends_reject ⟨rfl, trivial⟩ fun _ => ends_get ?_
  cases hretry : s.deviceEnrollments.get? enrollment.retryID with
  | some existing => exact ends_reject ⟨rfl, trivial⟩ fun _ => ⟨rfl, rfl⟩
  | none =>
    dsimp only
    cases hparticipant : space.participants.get? enrollment.participantID with
    | none => exact ⟨rfl, trivial⟩
    | some participant =>
      refine ends_reject ⟨rfl, trivial⟩ fun hactive => ?_
      refine ends_reject ⟨rfl, trivial⟩ fun _ => ends_reject ⟨rfl, trivial⟩ fun _ => ?_
      refine ends_reject ⟨rfl, trivial⟩ fun _ => ?_
      refine ends_ofExcept (fun _ _ => ⟨rfl, trivial⟩) fun _ _ => ?_
      refine ends_ofExcept (fun _ _ => ⟨rfl, trivial⟩) fun _ hgrants => ?_
      exact ⟨rfl, rfl, hspace, hparticipant, not_not.mp hactive,
        enrollment.keyGrant_of_validateKeyGrant hgrants⟩

/-- **`EnrollParticipantDevice`.** -/
theorem ends_enrollParticipantDevice {enrollment} {spareOfCheck : Nat} :
    Ends (enrollParticipantDevice L credential enrollment spareOfCheck spare now) s
      (Outcome L s (.enrollParticipantDevice credential enrollment spareOfCheck spare now)) := by
  unfold enrollParticipantDevice
  obtain ⟨hsame, hends⟩ := ends_checkEnrollment L s credential enrollment now
  refine ends_bind ?_
  unfold Ends
  rw [hsame]
  cases hpassed : (checkEnrollment L credential enrollment now s).1 with
  | error e => exact quiet _ s.relay
  | ok result =>
    rw [hpassed] at hends
    obtain answer | ⟨space, participant⟩ := result
    · exact .repeated hends rfl rfl
    obtain ⟨hnew, hspace, hparticipant, hactive, grant, hgrant⟩ := hends
    -- after a check that passed nothing is refused any more
    have hrest : ∀ h₁, RosterChecked space enrollment.participantID s.heap (fun t h =>
        h = (L.appendSorted byDeviceID s.heap t enrollment.deviceKey spareOfCheck).1) h₁ →
        Ends (recordEnrollment L credential space participant enrollment spare)
          { s with heap := h₁ }
          (Outcome L s (.enrollParticipantDevice credential enrollment spareOfCheck spare now)) := by
      intro h₁ hchecked
      unfold recordEnrollment
      refine ends_onHeap ?_
      simp only [hgrant]
      exact changed (.enrolled hnew hspace hparticipant hactive hchecked rfl
        (files_intro (isSome_get?_own ..) fun k hk => by
          cases k <;> first | rfl | exact isSome_get?_other _ _ hk))
    refine ends_onHeap (ends_validateDeviceEnrollment L (fun e _ => .quiet e s.relay) ?_ ?_)
    · exact fun _ => hrest _ .plain
    · intro current next candidate verdict hmode hcurrent hnext hcandidate
      cases verdict with
      | error e =>
        exact .refused (.enrollment hpassed hspace hparticipant hmode hcurrent hnext hcandidate rfl) rfl
      | ok u => exact hrest _ (.secure hcandidate rfl)

/-- The checks of a device revocation before that of the roster: they write nothing. -/
theorem ends_checkDeviceRevocation (s : MemoryStore H S) (credential : AdministrationCredential)
    (revocation) (now : Int) :
    Ends (checkDeviceRevocation L credential revocation now) s (fun r s' => s' = s ∧ match r with
      | .error _ => True
      | .ok (.inl _) => (s.deviceRevocations.get? revocation.retryID).isNone = false
      | .ok (.inr (space, participant, targetIndex)) =>
        (s.deviceRevocations.get? revocation.retryID).isNone = true ∧
        revocation.validate = .ok () ∧ s.spaces.get? revocation.spaceID = some space ∧
        revocation.previousKeyEpoch = space.keyEpoch ∧
        space.participants.get? revocation.participantID = some participant ∧
        participant.revokedAtMilliseconds = none ∧
        (activeDevices revocation.deviceID
          ((L.elems s.heap participant.deviceKeys).getD [])).1 = some targetIndex) := by
  unfold checkDeviceRevocation
  refine ends_ofExcept (fun _ _ => ⟨rfl, trivial⟩) fun _ hvalid => ?_
  refine ends_findSpace_eq ⟨rfl, trivial⟩ fun space hspace => ?_
  refine ends_reject ⟨rfl, trivial⟩ fun _ => ends_get ?_
  cases hretry : s.deviceRevocations.get? revocation.retryID with
  | some existing => exact ends_reject ⟨rfl, trivial⟩ fun _ => ⟨rfl, rfl⟩
  | none =>
    refine ends_reject ⟨rfl, trivial⟩ fun _ => ends_reject ⟨rfl, trivial⟩ fun hepoch => ?_
    refine ends_reject ⟨rfl, trivial⟩ fun _ => ?_
    cases hparticipant : space.participants.get? revocation.participantID with
    | none => exact ⟨rfl, trivial⟩
    | some participant =>
      refine ends_reject ⟨rfl, trivial⟩ fun hactive => ?_
      dsimp only
      cases htarget : (activeDevices revocation.deviceID
          ((L.elems s.heap participant.deviceKeys).getD [])).1 with
      | none => exact ⟨rfl, trivial⟩
      | some targetIndex =>
        refine ends_reject ⟨rfl, trivial⟩ fun _ => ?_
        refine ends_ofExcept (fun _ _ => ⟨rfl, trivial⟩) fun _ _ => ?_
        refine ends_ofExcept (fun _ _ => ⟨rfl, trivial⟩) fun _ _ => ?_
        exact ⟨rfl, rfl, hvalid, hspace, not_not.mp hepoch, hparticipant, not_not.mp hactive,
          htarget⟩

/-- **`RevokeParticipantDevice`.** -/
theorem ends_revokeParticipantDevice {revocation} :
    Ends (revokeParticipantDevice L credential revocation now) s
      (Outcome L s (.revokeParticipantDevice credential revocation now)) := by
  unfold revokeParticipantDevice
  obtain ⟨hsame, hends⟩ := ends_checkDeviceRevocation L s credential revocation now
  refine ends_bind ?_
  unfold Ends
  rw [hsame]
  cases hpassed : (checkDeviceRevocation L credential revocation now s).1 with
  | error e => exact quiet _ s.relay
  | ok result =>
    rw [hpassed] at hends
    obtain answer | ⟨space, participant, targetIndex⟩ := result
    · exact .repeated hends rfl rfl
    obtain ⟨hnew, hvalid, hspace, hepoch, hparticipant, hactive, -⟩ := hends
    have hrest : ∀ h₁, RosterChecked space revocation.participantID s.heap (fun t h =>
        ∃ i, h = (L.set s.heap t i revocation.deviceKey).1) h₁ →
        Ends (recordDeviceRevocation L credential space participant revocation targetIndex)
          { s with heap := h₁ }
          (Outcome L s (.revokeParticipantDevice credential revocation now)) := by
      intro h₁ hchecked
      exact changed (.deviceRevoked hnew hvalid hspace hepoch hparticipant hactive hchecked rfl
        (files_intro (isSome_get?_own ..) fun k hk => by
          cases k <;> first | rfl | exact isSome_get?_other _ _ hk))
    refine ends_onHeap (ends_validateDeviceRevocation L (fun e _ => .quiet e s.relay) ?_ ?_)
    · exact fun _ => hrest _ .plain
    · intro attested next candidate i verdict hsecure hattested hnext hcandidate hindex
      cases verdict with
      | error e =>
        exact .refused (.revocation hpassed hspace hparticipant hsecure hattested hnext hcandidate
          hindex rfl) rfl
      | ok u => exact hrest _ (.secure hcandidate ⟨i, rfl⟩)

/-! ### Leaving -/

/-- **`RevokeParticipant`.** -/
theorem ends_revokeParticipant {revocation} :
    Ends (revokeParticipant L custody credential revocation now) s
      (Outcome L s (.revokeParticipant custody credential revocation now)) := by
  unfold revokeParticipant
  refine ends_check fun _ hvalid => ?_
  refine ends_findSpace fun space hspace => ?_
  refine ends_refuse fun _ => ?_
  refine ends_refuse fun hinitial => ?_
  refine ends_get ?_
  cases hretry : s.revocations.get? revocation.retryID with
  | some existing => exact ends_repeated (congrArg Option.isNone hretry)
  | none =>
    refine ends_refuse fun hepoch => ?_
    cases hparticipant : space.participants.get? revocation.participantID with
    | none => exact quiet _ s.relay
    | some participant =>
      refine ends_refuse fun _ => ?_
      refine ends_check fun _ _ => ?_
      refine ends_check fun _ _ => ?_
      refine ends_check fun managedKey _ => ?_
      refine ends_onRelay (.quiet · _) fun acceptance _ => ?_
      exact changed (.participantRevoked (congrArg Option.isNone hretry) hvalid hspace
        (not_not.mp hepoch) hparticipant rfl
        (files_intro (isSome_get?_own ..) fun k hk => by
          cases k <;> first | rfl | exact isSome_get?_other _ _ hk))

/-! ### The changes that leave membership alone -/

/-- **`ChangeComputeBinding`.** -/
theorem ends_changeComputeBinding {change} : Ends (changeComputeBinding credential change now) s
      (Outcome L s (.changeComputeBinding credential change now)) := by
  unfold changeComputeBinding
  refine ends_check fun _ _ => ?_
  refine ends_refuse fun _ => ?_
  refine ends_findSpace fun space hspace => ?_
  refine ends_refuse fun _ => ?_
  refine ends_domainStatus (.quiet · _) fun status _ => ?_
  refine ends_get ?_
  cases hretry : s.computeBindingChanges.get? change.retryID with
  | some existing => exact ends_repeated (congrArg Option.isNone hretry)
  | none =>
    refine ends_check fun _ _ => ?_
    exact changed (.bound hspace rfl
      (files_intro (isSome_get?_own ..) fun k hk => by
        cases k <;> first | rfl | exact isSome_get?_other _ _ hk)
      (congrArg Option.isNone hretry) rfl)

/-- **`UpdateParticipantPresentation`.** -/
theorem ends_updateParticipantPresentation {credential update} :
    Ends (updateParticipantPresentation credential update now) s
      (Outcome L s (.updateParticipantPresentation credential update now)) := by
  unfold updateParticipantPresentation
  refine ends_check fun _ hvalid => ?_
  refine ends_refuse fun _ => ?_
  refine ends_findSpace fun space hspace => ?_
  refine ends_refuse fun _ => ?_
  refine ends_check fun _ _ => ?_
  refine ends_authenticate .quiet fun page relay _ => ?_
  refine ends_get ?_
  cases hretry : s.presentationUpdates.get? update.retryID with
  | some existing => exact ends_refuse fun _ => repeated rfl rfl rfl
  | none =>
    refine ends_refuse fun _ => ?_
    refine ends_refuse fun hrevision => ?_
    rw [not_not] at hrevision
    refine changed (.presented hspace ?_
      (files_intro (isSome_get?_own ..) fun k hk => by
        cases k <;> first | rfl | exact isSome_get?_other _ _ hk))
    rw [hrevision]
    rfl

/-! ### Content -/

/-- **`PublishEnvelope`.** -/
theorem ends_publishEnvelope {credential envelope} :
    Ends (publishEnvelope credential envelope now) s
      (Outcome L s (.publishEnvelope credential envelope now)) := by
  unfold publishEnvelope
  refine ends_findSpace fun space _ => ?_
  refine ends_refuse fun _ => ?_
  refine ends_refuse fun _ => ?_
  exact read rfl rfl rfl

/-- **`StageCheckpoint`.** -/
theorem ends_stageCheckpoint {credential candidate} :
    Ends (stageCheckpoint credential candidate now) s
      (Outcome L s (.stageCheckpoint credential candidate now)) := by
  unfold stageCheckpoint
  refine ends_findSpace fun space hspace => ?_
  refine ends_refuse fun _ => ?_
  refine ends_refuse fun _ => ?_
  refine ends_onRelay (.quiet · _) fun response _ => ?_
  exact changed (.staged rfl rfl)

/-- **`ActivateCheckpoint`.** -/
theorem ends_activateCheckpoint {request} : Ends (activateCheckpoint credential request now) s
      (Outcome L s (.activateCheckpoint credential request now)) := by
  unfold activateCheckpoint
  refine ends_findSpace fun space hspace => ?_
  refine ends_refuse fun _ => ?_
  refine ends_get ?_
  refine ends_refuse fun _ => ?_
  refine ends_onRelay (.quiet · _) fun response _ => ?_
  exact changed (.activated hspace rfl rfl)

/-! ### Reading

These leave everything but the relay, which authenticates them. -/

theorem ends_getParticipantStatus {credential} : Ends (getParticipantStatus L credential now) s
      (Outcome L s (.getParticipantStatus credential now)) := by
  unfold getParticipantStatus
  refine ends_refuse fun _ => ?_
  refine ends_findSpace fun space _ => ?_
  refine ends_refuse fun _ => ?_
  refine ends_check fun _ _ => ?_
  refine ends_authenticate .quiet fun page relay _ => ?_
  refine ends_get ?_
  exact ends_ofExcept (fun e _ => .quiet e relay) fun _ _ => read rfl rfl rfl

theorem ends_getParticipantRoster {credential} : Ends (getParticipantRoster L credential now) s
      (Outcome L s (.getParticipantRoster credential now)) := by
  unfold getParticipantRoster
  refine ends_refuse fun _ => ?_
  refine ends_findSpace fun space _ => ?_
  refine ends_refuse fun _ => ?_
  refine ends_refuse fun _ => ?_
  refine ends_check fun _ _ => ?_
  exact ends_authenticate .quiet fun page relay _ => read rfl rfl rfl

theorem ends_listSecureRosterAttestations {credential} {afterRevision : Nat} {limit : Int} :
    Ends (listSecureRosterAttestations credential afterRevision limit now) s
      (Outcome L s (.listSecureRosterAttestations credential afterRevision limit now)) := by
  unfold listSecureRosterAttestations
  refine ends_refuse fun _ => ?_
  refine ends_refuse fun _ => ?_
  refine ends_findSpace fun space _ => ?_
  refine ends_refuse fun _ => ?_
  refine ends_refuse fun _ => ?_
  refine ends_check fun _ _ => ?_
  refine ends_authenticate .quiet fun page relay _ => ?_
  exact ends_ofExcept (fun e _ => .quiet e relay) fun _ _ => read rfl rfl rfl

theorem ends_getParticipantBootstrap {credential recipientDeviceID} :
    Ends (getParticipantBootstrap L custody credential recipientDeviceID now) s
      (Outcome L s (.getParticipantBootstrap custody credential recipientDeviceID now)) := by
  unfold getParticipantBootstrap
  refine ends_refuse fun _ => ?_
  refine ends_findSpace fun space _ => ?_
  refine ends_refuse fun _ => ?_
  refine ends_check fun participant _ => ?_
  refine ends_authenticate .quiet fun page relay _ => ?_
  refine ends_get ?_
  refine ends_ofExcept (fun e _ => .quiet e relay) fun result _ => ?_
  refine ends_ofExcept (fun e _ => .quiet e relay) fun roster _ => ?_
  exact ends_ofExcept (fun e _ => .quiet e relay) fun _ _ => read rfl rfl rfl

theorem ends_getParticipantKeyGrant {credential recipientDeviceID} :
    Ends (getParticipantKeyGrant L credential recipientDeviceID now) s
      (Outcome L s (.getParticipantKeyGrant credential recipientDeviceID now)) := by
  unfold getParticipantKeyGrant
  refine ends_refuse fun _ => ?_
  refine ends_findSpace fun space _ => ?_
  refine ends_refuse fun _ => ?_
  refine ends_check fun participant _ => ?_
  refine ends_refuse fun _ => ?_
  refine ends_authenticate .quiet fun page relay _ => ?_
  refine ends_get ?_
  exact ends_ofExcept (fun e _ => .quiet e relay) fun grant _ => read rfl rfl rfl

theorem MemoryStore.ends_handle (op : Operation) :
    Ends (MemoryStore.handle L op) s (Outcome L s op) := by
  cases op with
  | provisionSpace => exact Outcome.ends_map (ends_provisionSpace L rfl rfl)
  | provisionSpaceWithAuthority =>
    refine Outcome.ends_map (ends_reject (.quiet _ _) fun _ => ?_)
    exact ends_provisionSpace L rfl rfl
  | createInvitation => exact Outcome.ends_map (ends_createInvitation L)
  | claimInvitation => exact Outcome.ends_map (ends_claimInvitation L)
  | cancelInvitation => exact Outcome.ends_map (ends_cancelInvitation L)
  | changeParticipantRole => exact Outcome.ends_map (ends_changeParticipantRole L)
  | enrollParticipantDevice => exact Outcome.ends_map (ends_enrollParticipantDevice L)
  | revokeParticipantDevice => exact Outcome.ends_map (ends_revokeParticipantDevice L)
  | revokeParticipant => exact Outcome.ends_map (ends_revokeParticipant L)
  | changeComputeBinding => exact Outcome.ends_map (ends_changeComputeBinding L)
  | updateParticipantPresentation => exact Outcome.ends_map (ends_updateParticipantPresentation L)
  | getParticipantStatus => exact Outcome.ends_map (ends_getParticipantStatus L)
  | getParticipantRoster => exact Outcome.ends_map (ends_getParticipantRoster L)
  | listSecureRosterAttestations => exact Outcome.ends_map (ends_listSecureRosterAttestations L)
  | getParticipantBootstrap => exact Outcome.ends_map (ends_getParticipantBootstrap L)
  | getParticipantKeyGrant => exact Outcome.ends_map (ends_getParticipantKeyGrant L)
  | publishEnvelope => exact Outcome.ends_map (ends_publishEnvelope L)
  | stageCheckpoint => exact Outcome.ends_map (ends_stageCheckpoint L)
  | activateCheckpoint => exact Outcome.ends_map (ends_activateCheckpoint L)
  | relay op => exact read rfl rfl rfl

/-- **Every request is one of these.** -/
theorem Operation.step (op : Operation) (s : MemoryStore H S) : Step L s (op.apply L s) op := by
  have h : Outcome L s op (MemoryStore.handle L op s).1 (op.apply L s) :=
    MemoryStore.ends_handle L op
  have hanswer : (MemoryStore.handle L op s).1.isOk = op.accepted L s := rfl
  cases hr : (MemoryStore.handle L op s).1 with
  | error e =>
    rw [hr] at h hanswer
    obtain ⟨h, hfiled⟩ := h
    exact .refused hanswer.symm h hfiled
  | ok r =>
    rw [hr] at h hanswer
    cases h with
    | repeated hfresh hcore hfiled => exact .repeated hanswer.symm hfresh hcore hfiled
    | changed h => exact .changed hanswer.symm h

end

end FacetsNode.SharedSpaces
