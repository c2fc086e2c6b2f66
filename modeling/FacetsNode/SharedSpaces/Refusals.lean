import FacetsNode.Relay.Properties.Representation
import FacetsNode.SharedSpaces.Separation

/-!
# What a refused request leaves behind

The members of a Space and the log should not change when a request is refused. Every check that
builds the roster a Space would have starts from copies of the stored participants, but a copy
shares its device list with the store:

* the check of a device revocation assigns the revoked key *before* it looks at the attestation, and
  the stored participant has it from then on;
* the check of an enrollment appends and sorts. In an array with room this happens in place, and the
  stored list loses its last device, unless the new one sorts behind all others.

**Every other refusal changes nothing, and these do** (`visible_of_refused`).
-/

namespace FacetsNode.SharedSpaces

open Relay (UUID)
open Attempt

section
variable {H S : Type} (L : Slices ParticipantDeviceKey H S)

/-! ## What can be seen -/

/-- The members of a Space: participants with role, status and device list, the epoch and its
grants, and the attestations. -/
structure SpaceView where
  participants : GoMap UUID FullParticipant
  keyEpoch : Nat
  keyGrants : GoMap Nat (GoMap GrantTarget ParticipantKeyGrant)
  secureRosterAttestation : Option SecureRosterAttestation
  secureRosterHistory : List SecureRosterAttestation

def MemorySpace.view (h : H) (space : MemorySpace S) : SpaceView :=
  ⟨space.participants.mapValues (·.full L h), space.keyEpoch, space.keyGrants,
   space.secureRosterAttestation, space.secureRosterHistory⟩

/-- The Spaces and the log of a store. -/
structure StoreView where
  spaces : GoMap UUID SpaceView
  authorityEvents : GoMap UUID (List AuthorityEvent)
  nextAuthoritySequences : GoMap UUID Nat

def MemoryStore.visible (s : MemoryStore H S) : StoreView :=
  ⟨s.spaces.mapValues (·.view L s.heap), s.authorityEvents, s.nextAuthoritySequences⟩

variable {L}

/-- The device lists are all there is to see of the memory. -/
theorem visible_congr {s s' : MemoryStore H S} {h : H} (hcore : s'.core = { s.core with heap := h })
    (helems : ∀ o t, s.core.header o = some t → L.elems h t = L.elems s.heap t) :
    s'.visible L = s.visible L := by
  have hheap : s'.heap = h := congrArg Core.heap hcore
  have hspaces : s'.spaces = s.spaces := congrArg Core.spaces hcore
  have hevents : s'.authorityEvents = s.authorityEvents := congrArg Core.authorityEvents hcore
  have hnext : s'.nextAuthoritySequences = s.nextAuthoritySequences :=
    congrArg Core.nextAuthoritySequences hcore
  unfold MemoryStore.visible
  rw [hheap, hspaces, hevents, hnext]
  refine congrArg (StoreView.mk · _ _) (GoMap.mapValues_congr fun id space hspace => ?_)
  refine congrArg (SpaceView.mk · _ _ _ _) (GoMap.mapValues_congr fun pid p hp => ?_)
  unfold Participant.full
  rw [helems _ _ (header_of_get? (c := s.core) hspace hp)]

/-- One list is written to and every header sees what it saw. -/
theorem visible_of_copy {Ok : H → S → Prop} {Apart : S → S → Prop} {s s' : MemoryStore H S} {h : H}
    {o} {t t' : S} (hsep : s.core.Separate Ok Apart) (howner : s.core.header o = some t)
    (hkeeps : L.Keeps Ok Apart s.heap h t t') (hcopy : L.elems h t = L.elems s.heap t)
    (hcore : s'.core = { s.core with heap := h }) : s'.visible L = s.visible L := by
  refine visible_congr hcore fun o' u hu => ?_
  by_cases ho : o' = o
  · subst ho
    obtain rfl : t = u := Option.some.inj (howner.symm.trans hu)
    exact hcopy
  · exact (hkeeps u (hsep.ok hu) (hsep.apart (Ne.symm ho) howner hu)).2.1

/-! ## The requests -/

/-- The requests that change who is in a Space and which keys they have. -/
def Operation.changesMembers : Operation → Bool
  | .enrollParticipantDevice .. | .revokeParticipantDevice .. | .changeParticipantRole ..
  | .revokeParticipant .. | .claimInvitation .. => true
  | _ => false

variable (L) in
/-- The roster check of the request spares the list it works on: it is not reached, because the
request was refused before or there are no two attestations to compare, or, of an enrollment, the
list has no room or the new key sorts last. -/
def Operation.sparesDevices (s : MemoryStore H S) : Operation → Prop
  | .enrollParticipantDevice credential enrollment _ _ now => ∀ space participant current next,
      (checkEnrollment L credential enrollment now s).1 = .ok (.inr (space, participant)) →
      space.provisioning.securityMode = .secure →
      space.secureRosterAttestation = some current →
      enrollment.secureRosterAttestation = some next →
      L.hasRoom s.heap participant.deviceKeys = false ∨
      ((L.elems s.heap participant.deviceKeys).getD [] ++ [enrollment.deviceKey]).Pairwise
        (byDeviceID · · = true)
  | .revokeParticipantDevice credential revocation now => ∀ space participant i current next,
      (checkDeviceRevocation L credential revocation now s).1 = .ok (.inr (space, participant, i)) →
      space.provisioning.securityMode = .secure →
      space.secureRosterAttestation = some current →
      revocation.secureRosterAttestation ≠ some next
  | _ => True

instance : Std.Total fun k l : ParticipantDeviceKey => byDeviceID k l = true where
  total k l := by simpa [byDeviceID] using List.le_total (Relay.uuidString k.deviceID) _

instance : IsTrans ParticipantDeviceKey fun k l => byDeviceID k l = true where
  trans k l m := by simpa [byDeviceID] using List.le_trans

/-- What a copy of the header sees of a key that is appended and sorted in: the list without its
last element, if there was room. -/
theorem elems_appendSorted_eq_iff {Ok : H → S → Prop} {Apart : S → S → Prop}
    (laws : L.Laws Ok Apart)
    {h : H} {t : S} (hok : Ok h t) (key : ParticipantDeviceKey) (spare : Nat) :
    L.elems (L.appendSorted byDeviceID h t key spare).1 t = L.elems h t ↔
      L.hasRoom h t = false ∨
        ((L.elems h t).getD [] ++ [key]).Pairwise (byDeviceID · · = true) := by
  rw [(laws.appendSorted_copy byDeviceID key spare hok).2]
  cases L.hasRoom h t with
  | false => simp
  | true =>
    cases L.elems h t with
    | none => simp
    | some l =>
      simp only [if_true, Option.map_some, Option.some.injEq, Option.getD_some, Bool.true_eq_false,
        false_or]
      exact take_insertionSort_eq_iff _ l key

/-- **A refusal that spares the devices changes nothing.** -/
theorem Refusal.visible {Ok : H → S → Prop} {Apart : S → S → Prop} (laws : L.Laws Ok Apart)
    {s s' : MemoryStore H S} {op} (h : Refusal L s s' op) (hkeyed : s.core.Keyed)
    (hsep : s.core.Separate Ok Apart) (hspares : op.sparesDevices L s) :
    s'.visible L = s.visible L := by
  cases h with
  | quiet hcore => exact visible_congr hcore fun _ _ _ => rfl
  | enrollment hpassed hspace hparticipant hmode hcurrent hnext hcandidate hcore =>
    obtain rfl := find?_activeMemoryParticipants (hkeyed _ _ hspace) hparticipant hcandidate
    have howner := header_of_get? (c := s.core) hspace hparticipant
    have hok := hsep.ok howner
    exact visible_of_copy hsep howner (laws.appendSorted_keeps _ _ _ hok)
      ((elems_appendSorted_eq_iff laws hok _ _).mpr
        (hspares _ _ _ _ hpassed hmode hcurrent hnext)) hcore
  | revocation hpassed _ _ hmode hcurrent hnext _ _ _ =>
    exact absurd hnext (hspares _ _ _ _ _ hpassed hmode hcurrent)

/-! ## Every request that reaches the check

Once the roster is checked nothing is refused but for the attestation, and the memory is written
to. -/

/-- A part of a request that gave this and left the state alone. -/
theorem ends_passed {σ ε α β : Type} {s : σ} {m : Attempt σ ε α} {f : α → Attempt σ ε β} {Q} {a : α}
    (hok : (m s).1 = .ok a) (hsame : (m s).2 = s) (h : Ends (f a) s Q) : Ends (m >>= f) s Q := by
  apply ends_bind
  unfold Ends
  rw [hsame, hok]
  exact h

section
variable {s : MemoryStore H S} {credential : Relay.AdministrationCredential} {now : Int}
  {space : MemorySpace S} {participant : Participant S} {current next : SecureRosterAttestation}

theorem ends_enrollment_reached {enrollment} (hkeyed : s.core.Keyed)
    (hpassed : (checkEnrollment L credential enrollment now s).1 = .ok (.inr (space, participant)))
    (hmode : space.provisioning.securityMode = .secure)
    (hcurrent : space.secureRosterAttestation = some current)
    (hnext : enrollment.secureRosterAttestation = some next) {spareOfCheck spare : Nat} :
    Ends (MemoryStore.handle L
        (.enrollParticipantDevice credential enrollment spareOfCheck spare now)) s
      (fun r s' => r.isOk = false → s' = { s with heap := (L.appendSorted byDeviceID s.heap
        participant.deviceKeys enrollment.deviceKey spareOfCheck).1 }) := by
  obtain ⟨hsame, hends⟩ := ends_checkEnrollment L s credential enrollment now
  rw [hpassed] at hends
  obtain ⟨-, hspace, hparticipant, hactive, grant, hgrant⟩ := hends
  have hfind := find?_active (hkeyed _ _ hspace) hparticipant hactive
  refine ends_map ?_
  unfold enrollParticipantDevice
  refine ends_passed hpassed hsame ?_
  refine ends_onHeap (ends_validateDeviceEnrollment L
    (fun _ hnot => absurd hfind (hnot _ _ _ hmode hcurrent hnext)) (fun hne => absurd hmode hne) ?_)
  intro _ _ candidate verdict _ _ _ hcandidate
  obtain rfl : candidate = participant := Option.some.inj (hcandidate.symm.trans hfind)
  cases verdict with
  | error e => exact fun _ => rfl
  | ok u =>
    unfold recordEnrollment
    simp only [hgrant]
    rintro ⟨⟩

/-- The loop finds the device in the list. -/
theorem exists_of_activeDevices {deviceID : UUID} {keys : List ParticipantDeviceKey} {i : Nat}
    (h : (activeDevices deviceID keys).1 = some i) :
    ∃ key ∈ keys, key.deviceID = deviceID ∧ key.revokedAtMilliseconds = none := by
  have hloop : ∀ (l : List (ParticipantDeviceKey × Nat)) (found : Option Nat × Nat),
      (l.foldl (fun found e =>
        if e.1.active then (if e.1.deviceID = deviceID then some e.2 else found.1, found.2 + 1)
        else (found.1, found.2)) found).1 = found.1 ∨
      ∃ e ∈ l, e.1.deviceID = deviceID ∧ e.1.revokedAtMilliseconds = none := by
    intro l
    induction l with
    | nil => exact fun _ => .inl rfl
    | cons e l ih =>
      intro found
      by_cases hkey : e.1.deviceID = deviceID ∧ e.1.revokedAtMilliseconds = none
      · exact .inr ⟨e, List.mem_cons_self, hkey⟩
      · rw [List.foldl_cons]
        rcases ih _ with hsame | ⟨e', he', hfound⟩
        · refine .inl (hsame.trans ?_)
          simp only [ParticipantDeviceKey.active, Option.isNone_iff_eq_none]
          split_ifs with hactive hdevice
          · exact absurd ⟨hdevice, hactive⟩ hkey
          · rfl
          · rfl
        · exact .inr ⟨e', List.mem_cons_of_mem _ he', hfound⟩
  obtain hnone | ⟨e, he, hkey⟩ := hloop keys.zipIdx (none, 0)
  · cases hnone.symm.trans h
  · exact ⟨e.1, List.fst_mem_of_mem_zipIdx he, hkey⟩

theorem ends_revocation_reached {revocation} {i : Nat} (hkeyed : s.core.Keyed)
    (hpassed : (checkDeviceRevocation L credential revocation now s).1 =
      .ok (.inr (space, participant, i)))
    (hmode : space.provisioning.securityMode = .secure)
    (hcurrent : space.secureRosterAttestation = some current)
    (hnext : revocation.secureRosterAttestation = some next) :
    Ends (MemoryStore.handle L (.revokeParticipantDevice credential revocation now)) s (fun r s' =>
      r.isOk = false → ∃ j, (((L.elems s.heap participant.deviceKeys).getD []).findIdx? fun key =>
          key.deviceID = revocation.deviceID ∧ key.revokedAtMilliseconds = none) = some j ∧
        s' = { s with heap := (L.set s.heap participant.deviceKeys j revocation.deviceKey).1 }) := by
  obtain ⟨hsame, hends⟩ := ends_checkDeviceRevocation L s credential revocation now
  rw [hpassed] at hends
  obtain ⟨-, -, hspace, -, hparticipant, hactive, htarget⟩ := hends
  have hfind := find?_active (hkeyed _ _ hspace) hparticipant hactive
  obtain ⟨key, hkey, hdevice⟩ := exists_of_activeDevices htarget
  refine ends_map ?_
  unfold revokeParticipantDevice
  refine ends_passed hpassed hsame ?_
  refine ends_onHeap (ends_validateDeviceRevocation L (fun _ hnot => ?_)
    (fun hne => absurd hmode hne) ?_)
  · refine absurd (List.findIdx?_eq_none_iff.mp (Option.eq_none_iff_forall_ne_some.mpr fun j =>
      hnot _ _ _ j hmode hcurrent hnext hfind) key hkey) ?_
    simpa using hdevice
  · intro _ _ candidate j verdict _ _ _ hcandidate hindex
    obtain rfl : candidate = participant := Option.some.inj (hcandidate.symm.trans hfind)
    cases verdict with
    | error e => exact fun _ => ⟨j, hindex, rfl⟩
    | ok u => rintro ⟨⟩

end

/-- What is to be seen of a device list is the list. -/
theorem elems_of_visible {s : MemoryStore H S} {h : H} {id pid : UUID} {space participant}
    (hvisible : MemoryStore.visible L { s with heap := h } = s.visible L)
    (hspace : s.spaces.get? id = some space)
    (hparticipant : space.participants.get? pid = some participant) :
    L.elems h participant.deviceKeys = L.elems s.heap participant.deviceKeys := by
  have hkeys := congrArg (fun v : StoreView => (v.spaces.get? id).bind fun space =>
    (space.participants.get? pid).map (·.deviceKeys)) hvisible
  simpa [MemoryStore.visible, MemorySpace.view, GoMap.get?_mapValues, hspace, hparticipant,
    Participant.full, Participant.withKeys] using hkeys

/-- **A refused request that changes nothing spared the devices.** -/
theorem Operation.sparesDevices_of_visible {Ok : H → S → Prop} {Apart : S → S → Prop}
    (laws : L.Laws Ok Apart) {s : MemoryStore H S} {op : Operation} (hkeyed : s.core.Keyed)
    (hsep : s.core.Separate Ok Apart) (hrefused : op.accepted L s = false)
    (hvisible : (op.apply L s).visible L = s.visible L) : op.sparesDevices L s := by
  cases op with
  | enrollParticipantDevice credential enrollment spareOfCheck spare now =>
    intro space participant current next hpassed hmode hcurrent hnext
    have hends := (ends_checkEnrollment L s credential enrollment now).2
    rw [hpassed] at hends
    obtain ⟨-, hspace, hparticipant, -⟩ := hends
    have hstate : Operation.apply L _ s = _ :=
      ends_enrollment_reached hkeyed hpassed hmode hcurrent hnext hrefused
    rw [hstate] at hvisible
    have helems := elems_of_visible hvisible hspace hparticipant
    exact (elems_appendSorted_eq_iff laws
      (hsep.ok (header_of_get? (c := s.core) hspace hparticipant)) _ _).mp helems
  | revokeParticipantDevice credential revocation now =>
    intro space participant i current next hpassed hmode hcurrent hnext
    have hends := (ends_checkDeviceRevocation L s credential revocation now).2
    rw [hpassed] at hends
    obtain ⟨-, hvalid, hspace, -, hparticipant, -⟩ := hends
    obtain ⟨j, hj, hstate⟩ := ends_revocation_reached hkeyed hpassed hmode hcurrent hnext hrefused
    rw [show Operation.apply L _ s = _ from hstate] at hvisible
    have helems := elems_of_visible hvisible hspace hparticipant
    have hok : Ok s.heap participant.deviceKeys :=
      hsep.ok (header_of_get? (c := s.core) hspace hparticipant)
    rw [(laws.set_copy j revocation.deviceKey hok).2] at helems
    -- the key that was there is active, the one that is there now is revoked
    obtain ⟨_, hfields, -⟩ := bind_eq_ok.mp hvalid
    have hrevoked : revocation.deviceKey.revokedAtMilliseconds ≠ none := by
      have := refuseWhen_eq_ok.mp hfields
      tauto
    cases hkeys : L.elems s.heap participant.deviceKeys with
    | none => rw [hkeys] at hj; cases hj
    | some keys =>
      rw [hkeys, Option.getD_some] at hj
      rw [hkeys] at helems
      have hsame : keys.set j revocation.deviceKey = keys := Option.some.inj helems
      obtain ⟨hlt, hactive, -⟩ := List.findIdx?_eq_some_iff_getElem.mp hj
      have hkey : keys[j]? = some revocation.deviceKey := by
        rw [← hsame, List.getElem?_set_self hlt]
      rw [List.getElem?_eq_getElem hlt, Option.some.injEq] at hkey
      exact hrevoked (hkey ▸ (of_decide_eq_true hactive).2)
  | _ => trivial

end

/-- **A refused request changes nothing exactly when its roster check spares the devices**, in every
state any run can reach. -/
theorem visible_of_refused (ttl : Option Int) (ops : List Operation) (op : Operation)
    (hrefused : op.accepted Slices.arrays (MemoryStore.after Slices.arrays ttl ops) = false) :
    (op.apply Slices.arrays (MemoryStore.after Slices.arrays ttl ops)).visible Slices.arrays =
        (MemoryStore.after Slices.arrays ttl ops).visible Slices.arrays ↔
      op.sparesDevices Slices.arrays (MemoryStore.after Slices.arrays ttl ops) := by
  obtain ⟨hkeyed, hsep⟩ := separate_after Slices.arrays_laws ttl ops
  refine ⟨Operation.sparesDevices_of_visible Slices.arrays_laws hkeyed hsep hrefused,
    fun hspares => ?_⟩
  cases op.step Slices.arrays (MemoryStore.after Slices.arrays ttl ops) with
  | refused _ h => exact h.visible Slices.arrays_laws hkeyed hsep hspares
  | repeated hanswer _ _ | changed hanswer _ => rw [hrefused] at hanswer; cases hanswer

/-! ## A Secure Space with two devices -/

namespace Sample

/-- A number as 32 bytes. -/
def bytes32 (x : Nat) : List UInt8 := (List.range 32).reverse.map fun i => UInt8.ofNat (x / 256 ^ i)

/-- The public key of 1. -/
def publicKey : GoString :=
  Base64Url.encode (4 :: bytes32 P256.generator.x ++ bytes32 P256.generator.y)

def fingerprint : GoString :=
  Hex.encode (bytes32 0x698bea63dc44a344663ff1429aea10842df27b6b991ef25866b2c6c02cdcc5be)

def signingKey : ParticipantSigningKey :=
  ⟨participantKeyGrantSignatureAlgorithm, publicKey, fingerprint⟩

/-- A signature by it. All of them were made with 1 for the random number. -/
def signed (s : Nat) : ParticipantKeyGrantSignature :=
  ⟨participantKeyGrantSignatureAlgorithm, publicKey, fingerprint,
   Base64Url.encode (bytes32 P256.generator.x ++ bytes32 s)⟩

def deviceKey (deviceID : UUID) (revokedAt : Option Int) (s : Nat) : ParticipantDeviceKey :=
  ⟨1, 1, 3, deviceID, goString "P256", publicKey, fingerprint, 0, revokedAt, signed s⟩

def deviceKeys : List ParticipantDeviceKey :=
  [deviceKey 201 none 0x562b77dc66a8d7ca123739e6e7351d5548359cf4238494ba5459902b0a8c42a0,
   deviceKey 202 none 0x98e8d768b56f249c31adf7382a6cbe80441bfcf788a5f1b51faf2241298475a1]

def host (keys : List ParticipantDeviceKey) : FullParticipant :=
  ⟨1, 1, 3, 30, .person, .host, signingKey, some keys, 0, none⟩

/-- The first attestation of the Space. -/
def attestation (domainID : UUID) (keys : List ParticipantDeviceKey) (s : Nat) :
    SecureRosterAttestation :=
  ⟨1, 1, domainID, 1, [], 1, some [host keys], 3, 0, signed s⟩

def domain : Relay.DomainProvisioning :=
  { version := 1
    retryID := 21
    registration := Relay.Sample.provisioning.registration
    subscription := Relay.Sample.provisioning.subscription
    initialMember := ⟨1, 1, 2, 3, (Relay.authorizationDigest Relay.Sample.writer).getD [],
      Role.host.capabilities .collaborative, 0, none, none⟩ }

def provisioning (keys : List ParticipantDeviceKey) (attestation : SecureRosterAttestation) :
    SpaceProvisioning (GoSlice ParticipantDeviceKey) :=
  { version := 1
    retryID := 22
    spaceID := 1
    securityMode := .secure
    interactionMode := .collaborative
    initialParticipantID := 3
    initialParticipantKind := .person
    initialParticipantSigningKey := signingKey
    initialParticipantDeviceKeys := some keys
    initialSecureRosterAttestation := some attestation
    tenant := Relay.Sample.tenant
    domain := domain
    createdAtMilliseconds := 0 }

/-- The host activates a first checkpoint. -/
def bootstrap : List Operation :=
  [.relay ⟨.createCheckpointFence Relay.Sample.writer ⟨50, 51, 5⟩ 7, rfl⟩,
   .publishEnvelope Relay.Sample.writer (Relay.Sample.envelope 101 3) 8,
   .stageCheckpoint Relay.Sample.writer (Relay.Sample.candidate 60 51 0 [101] [] 8) 9,
   .activateCheckpoint Relay.Sample.administrator ⟨61, 60, 9⟩ 10]

def current : SecureRosterAttestation :=
  attestation 2 deviceKeys 0x63fbbd47c067bd645a49b326818356d5219807bb874cf204cd35a6739e60cdd2

def setup : List Operation :=
  .provisionSpace none (provisioning deviceKeys current) 0 0 :: bootstrap

def grant (deviceID : UUID) (s : Nat) : ParticipantKeyGrant :=
  ⟨1, 1, 3, deviceID, 3, 2, participantKeyGrantAlgorithm, fingerprint, publicKey,
   Base64Url.encode (List.replicate 12 0), Base64Url.encode [0],
   Base64Url.encode (List.replicate 16 0), 15, signed s⟩

/-- The first device is revoked; all is in order but the attestation. -/
def revocation (next : Option SecureRosterAttestation) : ParticipantDeviceRevocation :=
  { version := 1
    retryID := 70
    spaceID := 1
    participantID := 3
    deviceID := 201
    deviceKey := deviceKey 201 (some 20)
      0x673322ec7832f4204c9764737458f61d25f678d190d52e5e9ece5ed1376c45f
    previousKeyEpoch := 1
    nextKeyEpoch := 2
    keyGrants :=
      [grant 202 0x602b959b70b93b7fd097167edcc8509853f094bcb3cc173334d0cff9045ea7c4]
    secureRosterAttestation := next }

/-- The device revocation with this attestation. -/
def revoking (next : Option SecureRosterAttestation) : Operation :=
  .revokeParticipantDevice Relay.Sample.administrator (revocation next) 21

/-- An attestation without a version. -/
def unversioned : SecureRosterAttestation :=
  { current with version := 0, createdAtMilliseconds := 20 }

/-- When the devices of the host were revoked. -/
def revokedAt (s : MemoryStore (Heap ParticipantDeviceKey) Slice) : Option (List (Option Int)) :=
  ((s.visible Slices.arrays).spaces.get? 1).bind fun space =>
    (space.participants.get? 3).map fun p => (p.deviceKeys.getD []).map (·.revokedAtMilliseconds)

def store : MemoryStore (Heap ParticipantDeviceKey) Slice :=
  MemoryStore.after Slices.arrays none setup

theorem revoking_sample : (revoking none).accepted Slices.arrays store = false ∧
    (revoking (some unversioned)).accepted Slices.arrays store = false ∧
    revokedAt store = some [none, none] ∧
    revokedAt ((revoking (some unversioned)).apply Slices.arrays store) = some [some 20, none] := by
  decide +kernel

end Sample

open Sample

theorem visible_of_refused_sample : (revoking none).accepted Slices.arrays store = false ∧
    ((revoking none).apply Slices.arrays store).visible Slices.arrays =
      store.visible Slices.arrays := by
  have hrefused := revoking_sample.1
  refine ⟨hrefused, (visible_of_refused none setup (revoking none) hrefused).mpr ?_⟩
  intro space participant i current next _ _ _ hnext
  cases hnext

/-- The device is revoked although the request was refused. -/
theorem visible_after_refused_revocation : (revoking (some unversioned)).changesMembers = true ∧
    (revoking (some unversioned)).accepted Slices.arrays
      (MemoryStore.after Slices.arrays none setup) = false ∧
    ((revoking (some unversioned)).apply Slices.arrays
      (MemoryStore.after Slices.arrays none setup)).visible Slices.arrays ≠
      (MemoryStore.after Slices.arrays none setup).visible Slices.arrays := by
  obtain ⟨-, hrefused, hbefore, hafter⟩ := revoking_sample
  refine ⟨rfl, hrefused, fun heq => ?_⟩
  have hsame : revokedAt ((revoking (some unversioned)).apply Slices.arrays
      store) = revokedAt store := by
    unfold revokedAt store
    rw [heq]
  rw [hbefore, hafter] at hsame
  simp at hsame

end FacetsNode.SharedSpaces
