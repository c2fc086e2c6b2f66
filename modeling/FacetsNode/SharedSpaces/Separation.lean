import FacetsNode.SharedSpaces.Step

/-!
# Device lists are kept apart

The device list of a participant is a header into shared memory, and so is that of an invitation
that waits to be claimed; a claim hands the header of the invitation over to the participant. **Over
every run, whatever is refused or accepted, no two owners share memory** (`Step.separate`): a
request can only spoil the list it names.

Beside it `Core.Keyed`: a participant is filed under its own identifier, so that the entry the
checks find in their copy of the roster is the stored one (`find?_activeMemoryParticipants`).
-/

namespace FacetsNode.SharedSpaces

open Relay (UUID)

section
variable {H S : Type}

/-! ## Spaces -/

open GoMap

namespace MemorySpace

/-- The header of the device list of a participant. -/
def header (space : MemorySpace S) (participantID : UUID) : Option S :=
  (space.participants.get? participantID).map (·.deviceKeys)

variable (space : MemorySpace S)

@[simp] theorem attest_fields (a : Option SecureRosterAttestation) :
    (space.attest a).participants = space.participants ∧
    (space.attest a).keyEpoch = space.keyEpoch ∧
      (space.attest a).computeBindings = space.computeBindings := by
  cases a <;> exact ⟨rfl, rfl, rfl⟩

@[simp] theorem putGrants_fields (keyEpoch : Nat) (grants : List ParticipantKeyGrant) :
    (space.putGrants keyEpoch grants).participants = space.participants ∧
      (space.putGrants keyEpoch grants).keyEpoch = space.keyEpoch ∧
      (space.putGrants keyEpoch grants).computeBindings = space.computeBindings := by
  unfold putGrants
  split <;> exact ⟨rfl, rfl, rfl⟩

@[simp] theorem rekeyed_fields (keyEpoch : Nat) (a : Option SecureRosterAttestation)
    (grants : List ParticipantKeyGrant) :
    (space.rekeyed keyEpoch a grants).participants = space.participants ∧
      (space.rekeyed keyEpoch a grants).keyEpoch = keyEpoch ∧
      (space.rekeyed keyEpoch a grants).computeBindings = space.computeBindings := by
  simp [rekeyed]

@[simp] theorem claimed_fields (invitation : Invitation S) (now : Int) :
    (space.claimed invitation now).participants =
        space.participants.set invitation.participantID (space.admitted invitation now) ∧
      (space.claimed invitation now).keyEpoch = space.keyEpoch ∧
      (space.claimed invitation now).computeBindings = space.computeBindings := by
  unfold claimed
  cases invitation.keyGrant <;> simp [admitted, Invitation.participant, putParticipant, putGrant]

@[simp] theorem left_fields (p : Participant S) (revocation : ParticipantRevocation)
    (managedKey : Option (List UInt8)) (now : Int) :
    (space.left p revocation managedKey now).participants =
        space.participants.set p.participantID { p with revokedAtMilliseconds := some now } ∧
      (space.left p revocation managedKey now).keyEpoch = revocation.nextKeyEpoch ∧
      (space.left p revocation managedKey now).computeBindings = space.computeBindings := by
  unfold left
  cases managedKey <;> simp [putParticipant]

@[simp] theorem initial_participants (provisioning : SpaceProvisioning S)
    (result : Relay.TenantProvisioningResult) (authority : Option InitialBinding)
    (managedKey : Option (List UInt8)) :
    (initial provisioning result authority managedKey).participants =
      set ∅ provisioning.initialParticipantID provisioning.host := by
  simp [initial]

/-- Every participant is filed under its own identifier. -/
def Keyed : Prop := ∀ id p, space.participants.get? id = some p → p.participantID = id

end MemorySpace

variable {space space' : MemorySpace S} {p participant : Participant S} {id pid : UUID}
  {c : Core H S} {s s' : MemoryStore H S} {op : Operation} {h : H}

theorem MemorySpace.Keyed.set (h : space.Keyed)
    (hset : space'.participants = space.participants.set id p)
    (hid : p.participantID = id) : space'.Keyed := by
  intro id' p' hp'
  rw [hset] at hp'
  by_cases hne : id' = id
  · subst hne
    rw [get?_set_self] at hp'
    cases hp'
    exact hid
  · rw [get?_set_ne _ _ hne] at hp'
    exact h id' p' hp'

theorem MemorySpace.Keyed.own (h : space.Keyed)
    (hp : space.participants.get? id = some p) : space.participants.get? p.participantID = some p := by
  rw [h id p hp, hp]

theorem MemorySpace.Keyed.congr (h : space.Keyed)
    (hsame : space'.participants = space.participants) : space'.Keyed := by
  intro id p hp
  rw [hsame] at hp
  exact h id p hp

/-! ## Owners -/

/-- Who holds the header of a device list. -/
inductive Owner where
  | participant (spaceID participantID : UUID)
  | invitation (invitationID : UUID)
  deriving DecidableEq

/-- The header an invitation holds until it is claimed. -/
def MemoryInvitation.header (record : MemoryInvitation S) : Option S :=
  if record.result.isNone then some record.invitation.participantDeviceKeys else none

namespace Core

def header (c : Core H S) : Owner → Option S
  | .participant spaceID participantID => (c.spaces.get? spaceID).bind (·.header participantID)
  | .invitation invitationID => (c.invitations.get? invitationID).bind (·.header)

variable (c : Core H S)

@[simp] theorem header_log (event : AuthorityEvent) (o : Owner) :
    (c.log event).header o = c.header o := by
  cases o <;> rfl

theorem header_put_self (id pid : UUID) (space : MemorySpace S) :
    (c.put id space).header (.participant id pid) = space.header pid := by
  simp [header]

variable {id : UUID} {space : MemorySpace S} {o : Owner}

theorem header_put_ne
    (h : ∀ pid, o ≠ .participant id pid) : (c.put id space).header o = c.header o := by
  cases o with
  | participant id' pid =>
    have hne : id' ≠ id := fun heq => h pid (heq ▸ rfl)
    simp [header, get?_set_ne _ _ hne]
  | invitation _ => rfl

theorem header_invite_self (id : UUID) (record : MemoryInvitation S) :
    (c.invite id record).header (.invitation id) = record.header := by
  simp [header]

theorem header_invite_ne {record : MemoryInvitation S}
    (h : o ≠ .invitation id) : (c.invite id record).header o = c.header o := by
  cases o with
  | participant _ _ => rfl
  | invitation id' =>
    have hne : id' ≠ id := fun heq => h (heq ▸ rfl)
    simp [header, get?_set_ne _ _ hne]

/-- A Space that keeps its headers leaves those of the store alone. -/
theorem header_put_same {space' : MemorySpace S}
    (hspace : c.spaces.get? id = some space) (h : ∀ pid, space'.header pid = space.header pid)
    (o : Owner) : (c.put id space').header o = c.header o := by
  by_cases ho : ∃ pid, o = .participant id pid
  · obtain ⟨pid, rfl⟩ := ho
    rw [header_put_self, h]
    simp [header, hspace]
  · exact header_put_ne c fun pid heq => ho ⟨pid, heq⟩

/-- The other headers of a Space stay when one participant gets another. -/
theorem header_put_other {pid} {space' : MemorySpace S} (hspace : c.spaces.get? id = some space)
    (h : ∀ pid', pid' ≠ pid → space'.header pid' = space.header pid')
    (ho : o ≠ .participant id pid) : (c.put id space').header o = c.header o := by
  by_cases hid : ∃ pid', o = .participant id pid'
  · obtain ⟨pid', rfl⟩ := hid
    rw [header_put_self, h pid' fun heq => ho (heq ▸ rfl)]
    simp [header, hspace]
  · exact header_put_ne c fun pid' heq => hid ⟨pid', heq⟩

/-- A new Space brings the headers of its participants. -/
theorem header_put_new {pid} (hnone : c.spaces.get? id = none)
    (h : ∀ pid', pid' ≠ pid → space.header pid' = none) (ho : o ≠ .participant id pid) :
    (c.put id space).header o = c.header o := by
  by_cases hid : ∃ pid', o = .participant id pid'
  · obtain ⟨pid', rfl⟩ := hid
    rw [header_put_self, h pid' fun heq => ho (heq ▸ rfl)]
    simp [header, hnone]
  · exact header_put_ne c fun pid' heq => hid ⟨pid', heq⟩

end Core

theorem MemorySpace.header_set_self
    (h : space'.participants = space.participants.set id p) : space'.header id = some p.deviceKeys := by
  unfold MemorySpace.header
  rw [h, get?_set_self]
  rfl

theorem MemorySpace.header_set_ne
    (h : space'.participants = space.participants.set id p) (hne : pid ≠ id) :
    space'.header pid = space.header pid := by
  unfold MemorySpace.header
  rw [h, get?_set_ne _ _ hne]

/-! ## Separation -/

variable {L : Slices ParticipantDeviceKey H S} {Ok : H → S → Prop} {Apart : S → S → Prop}

/-- Every header points into the memory, and no two owners share any of it. -/
structure Core.Separate (Ok : H → S → Prop) (Apart : S → S → Prop) (c : Core H S) : Prop where
  ok : ∀ {o t}, c.header o = some t → Ok c.heap t
  apart : ∀ {o o' t t'}, o ≠ o' → c.header o = some t → c.header o' = some t' → Apart t t'

namespace Core.Separate

variable {c c' : Core H S}

/-- Headers are only given up or handed over: each one there is now was there before, and no two
owners have it from the same one. -/
theorem move (hsep : c.Separate Ok Apart) (hheap : c'.heap = c.heap) (giver : Owner → Owner)
    (hgiver : ∀ {o t}, c'.header o = some t → c.header (giver o) = some t)
    (hinj : ∀ {o o' t t'}, c'.header o = some t → c'.header o' = some t' → giver o = giver o' →
      o = o') : c'.Separate Ok Apart where
  ok h := hheap ▸ hsep.ok (hgiver h)
  apart hne h h' := hsep.apart (fun heq => hne (hinj h h' heq)) (hgiver h) (hgiver h')

/-- No header changes. -/
theorem same (hsep : c.Separate Ok Apart) (hheap : c'.heap = c.heap)
    (hheader : ∀ o, c'.header o = c.header o) : c'.Separate Ok Apart :=
  hsep.move hheap id (fun h => (hheader _).symm.trans h) fun _ _ h => h

/-- One owner writes to its list and everyone else's is kept. -/
theorem write (laws : L.Laws Ok Apart) (hsep : c.Separate Ok Apart) {o} {t t' : S}
    (howner : c.header o = some t) (hkeeps : L.Keeps Ok Apart c.heap c'.heap t t')
    (hok : Ok c'.heap t') (howned : c'.header o = some t')
    (hother : ∀ {o'}, o' ≠ o → c'.header o' = c.header o') : c'.Separate Ok Apart where
  ok {o' u} h := by
    by_cases ho : o' = o
    · subst ho
      rw [howned] at h
      cases h
      exact hok
    · rw [hother ho] at h
      exact (hkeeps u (hsep.ok h) (hsep.apart (Ne.symm ho) howner h)).1
  apart {o₁ o₂ u u'} hne h h' := by
    by_cases h₁ : o₁ = o
    · subst h₁
      rw [howned] at h
      cases h
      rw [hother (Ne.symm hne)] at h'
      exact (hkeeps u' (hsep.ok h') (hsep.apart hne howner h')).2.2
    · rw [hother h₁] at h
      by_cases h₂ : o₂ = o
      · subst h₂
        rw [howned] at h'
        cases h'
        exact laws.apart_symm (hkeeps u (hsep.ok h) (hsep.apart (Ne.symm hne) howner h)).2.2
      · rw [hother h₂] at h'
        exact hsep.apart hne h h'

/-- One owner gets a list of its own. -/
theorem fresh (laws : L.Laws Ok Apart) (hsep : c.Separate Ok Apart) {o}
    {keys : GoSlice ParticipantDeviceKey} {spare : Nat}
    (hheap : c'.heap = (L.make c.heap keys spare).1)
    (howned : c'.header o = some (L.make c.heap keys spare).2)
    (hother : ∀ {o'}, o' ≠ o → c'.header o' = c.header o') : c'.Separate Ok Apart where
  ok {o' u} h := by
    rw [hheap]
    by_cases ho : o' = o
    · subst ho
      rw [howned] at h
      cases h
      exact laws.make_ok ..
    · rw [hother ho] at h
      exact (laws.make_keeps _ _ _ u (hsep.ok h)).1
  apart {o₁ o₂ u u'} hne h h' := by
    by_cases h₁ : o₁ = o
    · subst h₁
      rw [howned] at h
      cases h
      rw [hother (Ne.symm hne)] at h'
      exact (laws.make_keeps _ _ _ u' (hsep.ok h')).2.2
    · rw [hother h₁] at h
      by_cases h₂ : o₂ = o
      · subst h₂
        rw [howned] at h'
        cases h'
        exact laws.apart_symm (laws.make_keeps _ _ _ u (hsep.ok h)).2.2
      · rw [hother h₂] at h'
        exact hsep.apart hne h h'

end Core.Separate

/-! ## Identifiers -/

/-- Every Space files its participants under their own identifiers. -/
def Core.Keyed (c : Core H S) : Prop := ∀ id space, c.spaces.get? id = some space → space.Keyed

theorem Core.Keyed.put (h : c.Keyed) (hspace : space.Keyed) : (c.put id space).Keyed := by
  intro id' space' hget
  by_cases hne : id' = id
  · subst hne
    rw [Core.put_spaces, get?_set_self] at hget
    cases hget
    exact hspace
  · rw [Core.put_spaces, get?_set_ne _ _ hne] at hget
    exact h id' space' hget

theorem Core.Keyed.congr {c' : Core H S} (h : c.Keyed) (hspaces : c'.spaces = c.spaces) :
    c'.Keyed := by
  intro id space hget
  rw [hspaces] at hget
  exact h id space hget

/-- What a refused request left behind has the Spaces it found. -/
theorem Refusal.spaces (h : Refusal L s s' op) : s'.core.spaces = s.core.spaces := by
  cases h with
  | quiet hcore => rw [hcore]
  | enrollment _ _ _ _ _ _ _ hcore => rw [hcore]
  | revocation _ _ _ _ _ _ _ _ hcore => rw [hcore]

open MemorySpace

theorem Change.keyed (h : Change L s s' op) (hkeyed : s.core.Keyed) : s'.core.Keyed := by
  cases h with
  | provisioned _ _ _ hcore =>
    rw [hcore]
    refine Core.Keyed.congr (c := Core.put _ _ _) (Core.Keyed.put (hkeyed.congr rfl) ?_) rfl
    intro id p hp
    rw [initial_participants, get?_set] at hp
    split at hp
    · cases hp
      exact Eq.symm ‹_›
    · simp at hp
  | invited _ _ _ hcore | cancelled _ _ _ hcore => exact hkeyed.congr (by rw [hcore]; rfl)
  | claimed _ _ _ hparticipantID _ hspace hcore =>
    rw [hcore]
    refine Core.Keyed.congr (hkeyed.put ?_) rfl
    exact (hkeyed _ _ hspace).set (claimed_fields ..).1 rfl
  | roleChanged _ hspace hparticipant _ hcore =>
    rw [hcore]
    refine Core.Keyed.congr (hkeyed.put ?_) rfl
    exact (hkeyed _ _ hspace).set (attest_fields ..).1 rfl
  | enrolled _ hspace hparticipant _ _ hcore =>
    rw [hcore]
    refine Core.Keyed.congr (c := Core.put _ _ _) (Core.Keyed.put (hkeyed.congr rfl) ?_) rfl
    exact (hkeyed _ _ hspace).set (attest_fields ..).1 rfl
  | deviceRevoked _ _ hspace _ hparticipant _ _ hcore =>
    rw [hcore]
    refine Core.Keyed.congr (c := Core.put _ _ _) (Core.Keyed.put (hkeyed.congr rfl) ?_) rfl
    exact (hkeyed _ _ hspace).set (rekeyed_fields ..).1 rfl
  | participantRevoked _ _ hspace _ hparticipant hcore =>
    rw [hcore]
    refine Core.Keyed.congr (hkeyed.put ?_) rfl
    exact (hkeyed _ _ hspace).set (left_fields ..).1 rfl
  | bound hspace hcore =>
    rw [hcore]
    refine Core.Keyed.congr (hkeyed.put ?_) rfl
    exact (hkeyed _ _ hspace).congr rfl
  | presented hspace hcore | activated hspace hcore =>
    rw [hcore]
    exact hkeyed.put ((hkeyed _ _ hspace).congr rfl)
  | staged hcore => exact hkeyed.congr (by rw [hcore])

theorem Step.keyed (h : Step L s s' op) (hkeyed : s.core.Keyed) : s'.core.Keyed := by
  cases h with
  | refused _ h => exact hkeyed.congr h.spaces
  | repeated _ _ hcore => exact hkeyed.congr (by rw [hcore])
  | changed _ h => exact h.keyed hkeyed

open List

/-- **The entry the checks find is the stored participant.** -/
theorem find?_activeMemoryParticipants (hkeyed : space.Keyed)
    {candidate : Participant S} (hparticipant : space.participants.get? id = some participant)
    (hfind : (activeMemoryParticipants space).find? (·.participantID = id) = some candidate) :
    candidate = participant := by
  have hmem := mem_of_find?_eq_some hfind
  have hid : candidate.participantID = id := by simpa using List.find?_some hfind
  unfold activeMemoryParticipants at hmem
  rw [mem_insertionSort, mem_filter, mem_map] at hmem
  obtain ⟨⟨⟨id', p⟩, hpair, rfl⟩, -⟩ := hmem
  have hget : space.participants.get? id' = some p := mem_pairs.mp hpair
  have hid' := hkeyed id' p hget
  obtain rfl : id' = id := hid'.symm.trans hid
  exact Option.some.inj (hget.symm.trans hparticipant)

theorem find?_active (hkeyed : space.Keyed)
    (hparticipant : space.participants.get? id = some participant)
    (hactive : participant.revokedAtMilliseconds = none) :
    (activeMemoryParticipants space).find? (·.participantID = id) = some participant := by
  have hmem : participant ∈ activeMemoryParticipants space := by
    unfold activeMemoryParticipants
    rw [mem_insertionSort, mem_filter, mem_map]
    exact ⟨⟨(id, participant), mem_pairs.mpr hparticipant, rfl⟩, by simpa using hactive⟩
  have hid : participant.participantID = id := hkeyed id participant hparticipant
  cases hfind : (activeMemoryParticipants space).find? (·.participantID = id) with
  | none => exact absurd hid (by simpa using List.find?_eq_none.mp hfind _ hmem)
  | some candidate => rw [find?_activeMemoryParticipants hkeyed hparticipant hfind]

/-! ## Every request keeps the lists apart -/

theorem header_of_get?
    (hspace : c.spaces.get? id = some space) (hp : space.participants.get? pid = some p) :
    c.header (.participant id pid) = some p.deviceKeys := by
  simp [Core.header, MemorySpace.header, hspace, hp]

variable {s s' : MemoryStore H S} {op : Operation}

/-- A refused request may have written to the list it names. -/
theorem Refusal.separate (laws : L.Laws Ok Apart) (h : Refusal L s s' op) (hkeyed : s.core.Keyed)
    (hsep : s.core.Separate Ok Apart) : s'.core.Separate Ok Apart := by
  cases h with
  | quiet hcore => exact hcore ▸ hsep
  | enrollment _ hspace hparticipant _ _ _ hcandidate hcore =>
    obtain rfl := find?_activeMemoryParticipants (hkeyed _ _ hspace) hparticipant hcandidate
    have howner := header_of_get? (c := s.core) hspace hparticipant
    have hok := hsep.ok howner
    rw [hcore]
    exact hsep.write laws howner (.stay (laws.appendSorted_keeps _ _ _ hok))
      (laws.appendSorted_copy _ _ _ hok).1 howner fun _ => rfl
  | revocation _ hspace hparticipant _ _ _ hcandidate _ hcore =>
    obtain rfl := find?_activeMemoryParticipants (hkeyed _ _ hspace) hparticipant hcandidate
    have howner := header_of_get? (c := s.core) hspace hparticipant
    have hok := hsep.ok howner
    rw [hcore]
    exact hsep.write laws howner (.stay (laws.set_keeps _ _ hok)) (laws.set_copy _ _ hok).1 howner
      fun _ => rfl

/-- A check of the roster that passed left the list of the participant in place. -/
theorem RosterChecked.keeps {h₁ : H} {Writes : S → H → Prop} (hkeyed : space.Keyed)
    (hparticipant : space.participants.get? id = some participant)
    (hok : Ok h participant.deviceKeys)
    (hwrites : ∀ h₁, Writes participant.deviceKeys h₁ →
      L.Keeps Ok Apart h h₁ participant.deviceKeys participant.deviceKeys ∧
        Ok h₁ participant.deviceKeys)
    (hchecked : RosterChecked space id h Writes h₁) :
    L.Keeps Ok Apart h h₁ participant.deviceKeys participant.deviceKeys ∧
      Ok h₁ participant.deviceKeys := by
  cases hchecked with
  | plain => exact ⟨.refl h _, hok⟩
  | secure hcandidate hwritten =>
    obtain rfl := find?_activeMemoryParticipants hkeyed hparticipant hcandidate
    exact hwrites _ hwritten

/-- A request that replaces one participant and keeps its header. -/
theorem Core.Separate.replace (hsep : c.Separate Ok Apart)
    {p' : Participant S} (hspace : c.spaces.get? id = some space)
    (hp : space.participants.get? pid = some p)
    (hset : space'.participants = space.participants.set pid p')
    (hkeys : p'.deviceKeys = p.deviceKeys) : (c.put id space').Separate Ok Apart := by
  refine hsep.same rfl (Core.header_put_same c hspace fun pid' => ?_)
  by_cases hne : pid' = pid
  · subst hne
    rw [header_set_self hset, hkeys]
    simp [MemorySpace.header, hp]
  · exact header_set_ne hset hne

/-- A request that gives one participant another list, after writing to the old one. -/
theorem Core.Separate.rewrite (laws : L.Laws Ok Apart) (hsep : c.Separate Ok Apart)
     {p' : Participant S}
    (hspace : c.spaces.get? id = some space) (hp : space.participants.get? pid = some p)
    (hset : space'.participants = space.participants.set pid p')
    (hkeeps : L.Keeps Ok Apart c.heap h p.deviceKeys p'.deviceKeys) (hok : Ok h p'.deviceKeys) :
    (({ c with heap := h }).put id space').Separate Ok Apart := by
  refine hsep.write laws (header_of_get? hspace hp) hkeeps hok ?_ fun ho => ?_
  · rw [Core.header_put_self, header_set_self hset]
  · exact Core.header_put_other { c with heap := h } hspace
      (fun pid' hne => header_set_ne hset hne) ho

theorem Core.Separate.log (hsep : c.Separate Ok Apart) (event : AuthorityEvent) :
    (c.log event).Separate Ok Apart := hsep.same rfl (Core.header_log c event)

/-- A claim hands the list of its invitation over to the participant. -/
theorem Core.Separate.claim (hsep : c.Separate Ok Apart) {invitationID}
    {record record' : MemoryInvitation S} {now : Int}
    (hspace : c.spaces.get? id = some space)
    (hrecord : c.invitations.get? invitationID = some record)
    (hunclaimed : record.result = none) (hclaimed : record'.result.isNone = false) :
    ((c.put id (space.claimed record.invitation now)).invite invitationID record').Separate
      Ok Apart := by
  have hset := (space.claimed_fields record.invitation now).1
  have hnone : ((c.put id (space.claimed record.invitation now)).invite invitationID record').header
      (.invitation invitationID) = none := by
    rw [Core.header_invite_self, MemoryInvitation.header, hclaimed]
    rfl
  -- Every owner has its own header, except that the participant has that of the invitation.
  refine hsep.move rfl (fun o => if o = .participant id record.invitation.participantID then
    .invitation invitationID else o) (fun {o t} h => ?_) (fun {o o' t t'} h h' heq => ?_)
  · by_cases ho : o = .participant id record.invitation.participantID
    · rw [if_pos ho]
      subst ho
      rw [Core.header_invite_ne _ (by simp), Core.header_put_self, header_set_self hset] at h
      rw [← h]
      simp [Core.header, hrecord, MemoryInvitation.header, hunclaimed, MemorySpace.admitted,
        Invitation.participant]
    · rw [if_neg ho]
      by_cases hi : o = .invitation invitationID
      · subst hi
        rw [hnone] at h
        cases h
      · rw [Core.header_invite_ne _ hi, Core.header_put_other c hspace
          (fun pid' hne => header_set_ne hset hne) ho] at h
        exact h
  · have hne : ∀ {o t}, ((c.put id (space.claimed record.invitation now)).invite invitationID
        record').header o = some t → o ≠ .invitation invitationID := by
      rintro o t ho rfl
      rw [hnone] at ho
      cases ho
    split at heq <;> split at heq
    · exact ‹o = _›.trans ‹o' = _›.symm
    · exact absurd heq.symm (hne h')
    · exact absurd heq (hne h)
    · exact heq

theorem Change.separate (laws : L.Laws Ok Apart) (h : Change L s s' op) (hkeyed : s.core.Keyed)
    (hsep : s.core.Separate Ok Apart) : s'.core.Separate Ok Apart := by
  -- A new list is `fresh`; a claim hands the invitation's list on; a request about devices rewrites
  -- the list of one participant. Every other request leaves all the headers as they are.
  cases h with
  | @provisioned _ provisioning spare relayResult authority managedKey _ _ hfresh hcore =>
    rw [hcore]
    have hparticipants := initial_participants (provisioning.withKeys
      (L.make s.heap provisioning.initialParticipantDeviceKeys spare).2) relayResult authority managedKey
    refine (hsep.fresh laws (o := .participant provisioning.spaceID provisioning.initialParticipantID)
      rfl ?_ fun ho => ?_).log _
    · rw [Core.header_put_self, MemorySpace.header, hparticipants]
      exact congrArg (Option.map _) (get?_set_self ..)
    · refine Core.header_put_new _ hfresh (fun pid hne => ?_) ho
      rw [MemorySpace.header, hparticipants]
      exact congrArg (Option.map _) ((get?_set_ne _ _ hne).trans (get?_empty pid))
  | @invited _ invitation spare _ _ _ _ hfresh hcore =>
    rw [hcore]
    refine (hsep.fresh laws (o := .invitation invitation.invitationID) rfl ?_ fun ho => ?_).log _
    · rw [Core.header_invite_self]
      rfl
    · exact Core.header_invite_ne _ ho
  | claimed _ hrecord _ _ hunclaimed hspace hcore =>
    rw [hcore]
    exact (hsep.claim hspace hrecord hunclaimed rfl).log _
  | @cancelled _ cancellation _ record result _ hrecord hunclaimed hcore =>
    rw [hcore]
    refine Core.Separate.log ?_ _
    refine hsep.same rfl fun o => ?_
    by_cases ho : o = .invitation cancellation.invitationID
    · subst ho
      have hheader : s.core.header (.invitation cancellation.invitationID) = record.header := by
        rw [Core.header, show s.core.invitations.get? _ = some record from hrecord]
        rfl
      rw [Core.header_invite_self, hheader]
      rfl
    · exact Core.header_invite_ne _ ho
  | roleChanged _ hspace hparticipant _ hcore =>
    rw [hcore]
    refine Core.Separate.log (hsep.replace hspace ((hkeyed _ _ hspace).own hparticipant)
      (attest_fields ..).1 ?_) _
    rfl
  | enrolled _ hspace hparticipant _ hchecked hcore =>
    rw [hcore]
    have hok := hsep.ok (header_of_get? hspace hparticipant)
    -- the list is written to twice, by the check of the roster and by the request itself
    obtain ⟨hkeeps, hok₁⟩ := hchecked.keeps (hkeyed _ _ hspace) hparticipant hok <| by
      rintro _ rfl
      exact ⟨.stay (laws.appendSorted_keeps _ _ _ hok), (laws.appendSorted_copy _ _ _ hok).1⟩
    exact (hsep.rewrite laws hspace ((hkeyed _ _ hspace).own hparticipant)
      (attest_fields ..).1 (hkeeps.trans (laws.appendSorted_keeps _ _ _ hok₁))
      (laws.appendSorted_ok _ _ _ hok₁)).log _
  | deviceRevoked _ _ hspace _ hparticipant _ hchecked hcore =>
    rw [hcore]
    have hok := hsep.ok (header_of_get? hspace hparticipant)
    obtain ⟨hkeeps, hok₁⟩ := hchecked.keeps (hkeyed _ _ hspace) hparticipant hok <| by
      rintro _ ⟨i, rfl⟩
      exact ⟨.stay (laws.set_keeps _ _ hok), (laws.set_copy _ _ hok).1⟩
    exact (hsep.rewrite laws hspace ((hkeyed _ _ hspace).own hparticipant)
      (rekeyed_fields ..).1 (hkeeps.trans (laws.set_keeps _ _ hok₁))
      (laws.set_ok _ _ hok₁)).log _
  | participantRevoked _ _ hspace _ hparticipant hcore =>
    rw [hcore]
    refine Core.Separate.log (hsep.replace hspace ((hkeyed _ _ hspace).own hparticipant)
      (left_fields ..).1 ?_) _
    rfl
  | bound hspace hcore =>
    rw [hcore]
    refine Core.Separate.log ?_ _
    exact hsep.same rfl (Core.header_put_same s.core hspace fun _ => rfl)
  | presented hspace hcore | activated hspace hcore =>
    rw [hcore]
    exact hsep.same rfl (Core.header_put_same s.core hspace fun _ => rfl)
  | staged hcore =>
    rw [hcore]
    exact hsep.same rfl fun o => by cases o <;> rfl

theorem Step.separate (laws : L.Laws Ok Apart) (h : Step L s s' op) (hkeyed : s.core.Keyed)
    (hsep : s.core.Separate Ok Apart) : s'.core.Separate Ok Apart := by
  cases h with
  | refused _ h | changed _ h => exact h.separate laws hkeyed hsep
  | repeated _ _ hcore => exact hcore ▸ hsep

/-! ## Runs -/

open MemoryStore

theorem Core.separate_new (ttl : Option Int) : (new L ttl).core.Separate Ok Apart where
  ok {o t} h := by cases o <;> simp [new, core, Core.header] at h
  apart {o o' t t'} _ h _ := by cases o <;> simp [new, core, Core.header] at h

theorem Core.keyed_new (ttl : Option Int) : (new L ttl).core.Keyed := by
  intro id space h
  simp [new, core] at h

/-- **Over every run** every participant is filed under its identifier and the device lists are kept
apart. -/
theorem separate_after (laws : L.Laws Ok Apart) (ttl : Option Int) (ops : List Operation) :
    (after L ttl ops).core.Keyed ∧ (after L ttl ops).core.Separate Ok Apart := by
  refine invariant (I := fun s : MemoryStore H S => s.core.Keyed ∧ s.core.Separate Ok Apart)
    ⟨Core.keyed_new ttl, Core.separate_new ttl⟩ (fun s op ih _ => ?_) (along_true ops)
  exact ⟨(op.step L s).keyed ih.1, (op.step L s).separate laws ih.1 ih.2⟩

end

end FacetsNode.SharedSpaces
