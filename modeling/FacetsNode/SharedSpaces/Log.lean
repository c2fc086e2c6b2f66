import FacetsNode.SharedSpaces.Refusals

/-!
# The authority log

Every request that changes the authority over a Space appends one event to its log. The events and
the state are written by separate statements; that they agree is an invariant over runs.

* `AuthorityState` — what the log is about: the key epoch, the active participants with their roles,
  how far every invitation got, and the revision of every compute binding.
* **Replay** (`Core.Replays`) — folding the events of a Space over the empty state gives the state
  the store is in.
* **Growth** (`spaces_later`) — nothing logged or claimed is taken back.
* **Numbering** — the events carry the sequences 1, 2, 3, …, so that pages cut the log at its
  positions (`pages_eq`).
* **Retries** (`events_of_retry`) — a request that was accepted once appends nothing when it is
  repeated.
-/

namespace FacetsNode.SharedSpaces

open Relay (UUID AdministrationCredential)
open Attempt

/-! ## What the log is about -/

/-- How far an invitation got. -/
inductive InvitationPhase where
  | created
  | claimed
  | cancelled

@[ext] structure AuthorityState where
  keyEpoch : Nat
  roles : UUID → Option Role
  invitations : UUID → Option InvitationPhase
  bindings : UUID → Option Nat

namespace AuthorityState

/-- Before the Space exists. -/
def empty : AuthorityState := ⟨0, fun _ => none, fun _ => none, fun _ => none⟩

/-- An entry of a function on identifiers, if there is one to change. -/
def change {α : Type} (f : UUID → Option α) (id : Option UUID) (value : Option α) :
    UUID → Option α :=
  match id with
  | none => f
  | some id => Function.update f id value

/-- What one event says. -/
def apply (a : AuthorityState) (e : AuthorityEvent) : AuthorityState where
  keyEpoch := e.currentKeyEpoch.getD a.keyEpoch
  roles :=
    match e.eventType with
    | .spaceProvisioned | .invitationClaimed | .participantRoleChanged =>
      change a.roles e.subjectParticipantID e.currentRole
    | .participantRevoked => change a.roles e.subjectParticipantID none
    | _ => a.roles
  invitations :=
    match e.eventType with
    | .invitationCreated => change a.invitations e.invitationID (some .created)
    | .invitationClaimed => change a.invitations e.invitationID (some .claimed)
    | .invitationCancelled => change a.invitations e.invitationID (some .cancelled)
    | _ => a.invitations
  bindings :=
    match e.eventType with
    | .spaceComputeBindingChanged => change a.bindings e.computeBindingID e.currentBindingRevision
    | _ => a.bindings

end AuthorityState

/-- The state a log describes. -/
def replay (events : List AuthorityEvent) : AuthorityState :=
  events.foldl AuthorityState.apply AuthorityState.empty

theorem replay_concat (events : List AuthorityEvent) (e : AuthorityEvent) :
    replay (events ++ [e]) = (replay events).apply e := by
  simp [replay]

open MemoryStore

open Option

section
variable {H S : Type}

/-- How far the invitation got. -/
def MemoryInvitation.phase (record : MemoryInvitation S) : InvitationPhase :=
  if record.result.isSome then .claimed
  else if record.cancellation.isSome then .cancelled
  else .created

/-- The role of a participant that was not revoked. -/
def Participant.activeRole {D : Type} (p : Participant D) : Option Role :=
  if p.revokedAtMilliseconds = none then some p.role else none

/-- The authority over a Space, as the store has it. -/
def MemorySpace.authority (space : MemorySpace S) (spaceID : UUID)
    (invitations : GoMap UUID (MemoryInvitation S)) : AuthorityState where
  keyEpoch := space.keyEpoch
  roles id := (space.participants.get? id).bind (·.activeRole)
  invitations id :=
    ((invitations.get? id).filter (·.invitation.spaceID = spaceID)).map (·.phase)
  bindings id := (space.computeBindings.get? id).map (·.revision)

/-- The log of a Space. -/
def Core.events (c : Core H S) (spaceID : UUID) : List AuthorityEvent :=
  (c.authorityEvents.get? spaceID).getD []

open GoMap

theorem Core.events_log_self (c : Core H S) (event : AuthorityEvent) :
    ∃ n, (c.log event).events event.spaceID =
      c.events event.spaceID ++ [{ event with version := schemaVersion, sequence := n }] ∧
      n = increment ((c.nextAuthoritySequences.get? event.spaceID).getD 0) := by
  refine ⟨_, ?_, rfl⟩
  unfold Core.events Core.log
  rw [get?_set_self]
  rfl

variable {id : UUID} {space : MemorySpace S} {k : Nat} {s : MemoryStore H S}

theorem Core.events_log_ne (c : Core H S) (event : AuthorityEvent)
    (h : id ≠ event.spaceID) : (c.log event).events id = c.events id := by
  unfold Core.events Core.log
  rw [get?_set_ne _ _ h]

/-! ## Replay -/

/-- The log of every Space describes the Space, and is numbered from 1. -/
structure Core.Replays (c : Core H S) : Prop where
  replays : ∀ {id space}, c.spaces.get? id = some space →
    replay (c.events id) = space.authority id c.invitations
  unlogged : ∀ {id}, c.spaces.get? id = none → c.events id = []
  invited : ∀ {id record}, c.invitations.get? id = some record →
    (c.spaces.get? record.invitation.spaceID).isSome = true
  numbered : ∀ id, (c.events id).map (·.sequence) =
    (List.range (c.events id).length).map fun i => (i + 1) % 2 ^ 64
  next : ∀ id, (c.nextAuthoritySequences.get? id).getD 0 = (c.events id).length % 2 ^ 64

namespace Core.Replays

variable {c c' : Core H S}

/-- Nothing the log is about has changed. -/
theorem same (h : c.Replays) (hevents : c'.authorityEvents = c.authorityEvents)
    (hnext : c'.nextAuthoritySequences = c.nextAuthoritySequences)
    (hinvitations : c'.invitations = c.invitations)
    (hspaces : ∀ id, (c'.spaces.get? id).map (·.authority id c.invitations) =
      (c.spaces.get? id).map (·.authority id c.invitations)) : c'.Replays := by
  have hlog : ∀ id, c'.events id = c.events id := fun id => by unfold Core.events; rw [hevents]
  have hnone : ∀ {id}, c'.spaces.get? id = none ↔ c.spaces.get? id = none := fun {id} => by
    rw [← map_eq_none_iff (f := (·.authority id c.invitations)), hspaces id, map_eq_none_iff]
  refine ⟨fun {id space} hspace => ?_, fun {id} hspace => ?_, fun {id record} hrecord => ?_,
    fun id => ?_, fun id => ?_⟩
  · have hmap := hspaces id
    rw [hspace, map_some] at hmap
    obtain ⟨space₀, hspace₀, heq⟩ := map_eq_some_iff.mp hmap.symm
    rw [hlog, h.replays hspace₀, heq, hinvitations]
  · rw [hlog, h.unlogged (hnone.mp hspace)]
  · rw [hinvitations] at hrecord
    have hsome := h.invited hrecord
    rw [isSome_iff_ne_none] at hsome ⊢
    exact fun heq => hsome (hnone.mp heq)
  · rw [hlog, h.numbered]
  · rw [hlog, hnext, h.next]

/-- One event is filed, and it says what became of its Space. -/
theorem log (h : c.Replays) {event spaceID} {space : MemorySpace S}
    (hevent : event.spaceID = spaceID) (hevents : c'.authorityEvents = c.authorityEvents)
    (hnext : c'.nextAuthoritySequences = c.nextAuthoritySequences)
    (hspace : c'.spaces.get? spaceID = some space)
    (htells : (replay (c.events spaceID)).apply event = space.authority spaceID c'.invitations)
    (hother : ∀ id, id ≠ spaceID → c'.spaces.get? id = c.spaces.get? id)
    (hinvitations : ∀ {id record}, c'.invitations.get? id = some record →
      c.invitations.get? id = some record ∨ record.invitation.spaceID = spaceID)
    (hkept : ∀ {id record}, c.invitations.get? id = some record →
      c'.invitations.get? id = some record ∨ record.invitation.spaceID = spaceID) :
    (c'.log event).Replays := by
  subst hevent
  have hlog : ∀ id, c'.events id = c.events id := fun id => by unfold Core.events; rw [hevents]
  obtain ⟨n, hself, hn⟩ := c'.events_log_self event
  rw [hlog] at hself
  rw [hnext, h.next] at hn
  have hsequence : n = ((c.events event.spaceID).length + 1) % 2 ^ 64 := by
    rw [hn, increment, Nat.mod_add_mod]
  refine ⟨fun {id space'} hspace' => ?_, fun {id} hnone => ?_, fun {id record} hrecord => ?_,
    fun id => ?_, fun id => ?_⟩
  · by_cases hid : id = event.spaceID
    · subst hid
      obtain rfl : space = space' := some.inj (hspace.symm.trans hspace')
      rw [hself, replay_concat]
      exact htells
    · -- Another Space: its log and record are as before, and so are the invitations that are its own.
      rw [Core.events_log_ne _ _ hid, hlog, h.replays ((hother id hid).symm.trans hspace')]
      refine congrArg (AuthorityState.mk _ _ · _) (funext fun iid => ?_)
      refine congrArg (Option.map _) (Option.ext fun record => ?_)
      simp only [filter_eq_some_iff, decide_eq_true_eq]
      constructor
      · rintro ⟨hrecord, hrid⟩
        exact ⟨(hkept hrecord).resolve_right fun heq => hid (hrid.symm.trans heq), hrid⟩
      · rintro ⟨hrecord, hrid⟩
        exact ⟨(hinvitations hrecord).resolve_right fun heq => hid (hrid.symm.trans heq), hrid⟩
  · have hid : id ≠ event.spaceID := by
      rintro rfl
      exact absurd (hspace.symm.trans hnone) (by simp)
    rw [Core.events_log_ne _ _ hid, hlog, h.unlogged ((hother id hid).symm.trans hnone)]
  · by_cases hid : record.invitation.spaceID = event.spaceID
    · rw [hid]
      exact isSome_iff_exists.mpr ⟨space, hspace⟩
    · have hbefore := (hinvitations hrecord).resolve_right hid
      show (c'.spaces.get? _).isSome = true
      rw [hother _ hid]
      exact h.invited hbefore
  · by_cases hid : id = event.spaceID
    · subst hid
      rw [hself, List.map_append, h.numbered, List.length_append, List.length_singleton,
        List.range_succ, List.map_append, List.map_singleton, List.map_singleton, hsequence]
    · rw [Core.events_log_ne _ _ hid, hlog, h.numbered]
  · by_cases hid : id = event.spaceID
    · subst hid
      rw [hself, List.length_append, List.length_singleton, ← hsequence, hn, ← h.next, ← hnext]
      unfold Core.log
      rw [get?_set_self]
      rfl
    · rw [Core.events_log_ne _ _ hid, hlog, ← h.next, ← hnext]
      unfold Core.log
      rw [get?_set_ne _ _ hid]

/-- A request that keeps the invitations and changes one Space. -/
theorem put_log (h : c.Replays) {c₀ : Core H S} {event spaceID}
    {space space' : MemorySpace S} (hspace : c.spaces.get? spaceID = some space)
    (hevent : event.spaceID = spaceID) (hspaces : c₀.spaces = c.spaces)
    (hevents : c₀.authorityEvents = c.authorityEvents)
    (hnext : c₀.nextAuthoritySequences = c.nextAuthoritySequences)
    (hinvitations : c₀.invitations = c.invitations)
    (htells : (space.authority spaceID c.invitations).apply event =
      space'.authority spaceID c.invitations) : ((c₀.put spaceID space').log event).Replays := by
  have hput : (c₀.put spaceID space').spaces.get? spaceID = some space' := by
    rw [Core.put_spaces, get?_set_self]
  refine h.log hevent hevents hnext hput ?_ (fun id hid => ?_) (fun hrecord => ?_)
    fun hrecord => ?_
  · rw [h.replays hspace, htells, Core.put_invitations, hinvitations]
  · rw [Core.put_spaces, get?_set_ne _ _ hid, hspaces]
  · rw [Core.put_invitations, hinvitations] at hrecord
    exact .inl hrecord
  · rw [Core.put_invitations, hinvitations]
    exact .inl hrecord

/-- Another Space of the same authority leaves what its log describes. -/
theorem put (h : c.Replays) {id} {space space' : MemorySpace S}
    (hspace : c.spaces.get? id = some space)
    (hsame : space'.authority id c.invitations = space.authority id c.invitations) :
    (c.put id space').Replays := by
  refine h.same rfl rfl rfl fun id' => ?_
  by_cases hid : id' = id
  · subst hid
    rw [Core.put_spaces, get?_set_self, hspace, map_some, map_some, hsame]
  · rw [Core.put_spaces, get?_set_ne _ _ hid]

end Core.Replays

/-! ## Every request -/

open MemorySpace

section
variable {space : MemorySpace S} {spaceID : UUID} {invitations : GoMap UUID (MemoryInvitation S)}

variable {space' : MemorySpace S} {invitations' : GoMap UUID (MemoryInvitation S)}

/-- The roles after one participant was filed. -/
theorem MemorySpace.authority_roles {id} {p : Participant S} {role : Option Role}
    (hset : space'.participants = space.participants.set id p) (hrole : p.activeRole = role) :
    (space'.authority spaceID invitations').roles =
      Function.update (space.authority spaceID invitations).roles id role := by
  funext pid
  simp only [MemorySpace.authority, hset]
  by_cases hid : pid = id
  · subst hid
    rw [get?_set_self, Function.update_self, ← hrole]
    rfl
  · rw [get?_set_ne _ _ hid, Function.update_of_ne hid]

/-- The roles stay when a participant is filed again with its role. -/
theorem MemorySpace.authority_roles_same {id} {p p' : Participant S}
    (hset : space'.participants = space.participants.set id p')
    (hp : space.participants.get? id = some p) (hrole : p'.activeRole = p.activeRole) :
    (space'.authority spaceID invitations).roles = (space.authority spaceID invitations).roles := by
  rw [authority_roles hset hrole]
  refine Function.update_eq_self_iff.mpr ?_
  simp only [MemorySpace.authority, hp]
  rfl

/-- The phases after one invitation of the Space was filed. -/
theorem MemorySpace.authority_phases {id} {record : MemoryInvitation S}
    {phase} (hspace : record.invitation.spaceID = spaceID)
    (hphase : record.phase = phase) :
    (space'.authority spaceID (invitations.set id record)).invitations =
      Function.update (space.authority spaceID invitations).invitations id (some phase) := by
  funext iid
  simp only [MemorySpace.authority]
  by_cases hid : iid = id
  · subst hid
    rw [get?_set_self, Function.update_self, ← hphase]
    simp [hspace]
  · rw [get?_set_ne _ _ hid, Function.update_of_ne hid]

end

variable {L : Slices ParticipantDeviceKey H S} {s s' : MemoryStore H S} {op : Operation}

/-- A request that changes a Space and one of its invitations. -/
theorem Core.Replays.invite_log {c c₀ : Core H S} (h : c.Replays) {event spaceID}
    {space' : MemorySpace S} {record : MemoryInvitation S}
    (hspace : c.spaces.get? spaceID = some space) (hevent : event.spaceID = spaceID)
    (hspace' : c₀.spaces.get? spaceID = some space')
    (hother : ∀ id, id ≠ spaceID → c₀.spaces.get? id = c.spaces.get? id)
    (hevents : c₀.authorityEvents = c.authorityEvents)
    (hnext : c₀.nextAuthoritySequences = c.nextAuthoritySequences)
    (hinvitations : c₀.invitations = c.invitations) (hrecord : record.invitation.spaceID = spaceID)
    (hbefore : ∀ old, c.invitations.get? id = some old → old.invitation.spaceID = spaceID)
    (htells : (space.authority spaceID c.invitations).apply event =
      space'.authority spaceID (c.invitations.set id record)) :
    ((c₀.invite id record).log event).Replays := by
  refine h.log hevent hevents hnext hspace' ?_ hother
    (fun {id' record'} hget => ?_) fun {id' record'} hget => ?_
  · rw [h.replays hspace, htells, Core.invite_invitations, hinvitations]
  · rw [Core.invite_invitations, hinvitations] at hget
    by_cases hid : id' = id
    · subst hid
      rw [get?_set_self] at hget
      exact .inr (some.inj hget ▸ hrecord)
    · rw [get?_set_ne _ _ hid] at hget
      exact .inl hget
  · by_cases hid : id' = id
    · subst hid
      exact .inr (hbefore record' hget)
    · rw [Core.invite_invitations, hinvitations, get?_set_ne _ _ hid]
      exact .inl hget

/-- The authority over a Space nobody was invited to yet. -/
theorem MemorySpace.authority_initial (provisioning : SpaceProvisioning S)
    {result} {authority : Option InitialBinding}
    {managedKey : Option (List UInt8)} {invitations : GoMap UUID (MemoryInvitation S)}
    (hnone : ∀ id record, invitations.get? id = some record →
      record.invitation.spaceID ≠ provisioning.spaceID) :
    (initial provisioning result authority managedKey).authority provisioning.spaceID
      invitations = AuthorityState.empty.apply provisioning.event := by
  have hphases : ∀ id, ((invitations.get? id).filter
      (·.invitation.spaceID = provisioning.spaceID)) = none := by
    intro id
    rw [filter_eq_none_iff]
    intro record hrecord
    simpa using hnone id record hrecord
  refine AuthorityState.ext ?_ (funext fun id => ?_) (funext fun id => ?_) (funext fun id => ?_)
  · simp only [MemorySpace.authority, initial, attest_fields]
    rfl
  · simp only [MemorySpace.authority, initial_participants]
    show _ = Function.update (fun _ => none) provisioning.initialParticipantID (some Role.host) id
    by_cases hid : id = provisioning.initialParticipantID
    · subst hid
      rw [get?_set_self, Function.update_self]
      rfl
    · rw [get?_set_ne _ _ hid, get?_empty, Function.update_of_ne hid]
      rfl
  · simp only [MemorySpace.authority, hphases]
    rfl
  · simp only [MemorySpace.authority, initial, attest_fields, get?_empty]
    rfl

/-- **One accepted change.** The event it appends, applied to what the log said before, gives what
the changed Space says now. -/
theorem Change.replays (h : Change L s s' op) (hkeyed : s.core.Keyed) (hreplays : s.core.Replays) :
    s'.core.Replays := by
  -- One case per accepted operation. `put_log` (or `invite_log`, where an invitation is written
  -- too) leaves one equation, the event's effect against the written Space, which is split into its
  -- four parts: the key epoch, the roles, the phases of invitations and the revisions of bindings.
  cases h with
  | @provisioned _ provisioning spare relayResult authority managedKey _ _ hfresh hcore _ =>
    rw [hcore]
    -- A new Space has no invitations: each belongs to a Space that exists.
    have hnone : ∀ id record, s.invitations.get? id = some record →
        record.invitation.spaceID ≠ provisioning.spaceID := by
      intro id record hrecord hid
      have hsome := hreplays.invited hrecord
      rw [hid] at hsome
      exact absurd (hsome.symm.trans (congrArg Option.isSome hfresh)) (by simp)
    have hspaceID : provisioning.event.spaceID = provisioning.spaceID := rfl
    refine hreplays.log hspaceID rfl rfl (get?_set_self ..) ?_
      (fun id hid => get?_set_ne _ _ hid) .inl .inl
    rw [hreplays.unlogged hfresh]
    exact (authority_initial (provisioning.withKeys _) hnone).symm
  | @invited credential invitation spare _ space _ hspace hfresh hcore _ =>
    rw [hcore]
    refine hreplays.invite_log hspace rfl hspace (fun _ _ => rfl) rfl rfl rfl rfl
      (fun old hold => absurd (hold.symm.trans hfresh) (by simp)) ?_
    refine AuthorityState.ext rfl rfl (authority_phases ?_ ?_).symm rfl
    · rfl
    · rfl
  | @claimed credential claim now record space result _ hrecord hspaceID hparticipantID hunclaimed
      hspace hcore _ =>
      rw [hcore]
      refine hreplays.invite_log hspace rfl (get?_set_self ..)
        (fun id hid => get?_set_ne _ _ hid) rfl rfl rfl hspaceID (fun old hold => ?_) ?_
      · obtain rfl : record = old := some.inj (hrecord.symm.trans hold)
        exact hspaceID
      · refine AuthorityState.ext ?_ ?_ (authority_phases ?_ ?_).symm ?_
        · simp only [MemorySpace.authority, claimed_fields]
          rfl
        · show Function.update _ claim.participantID _ = _
          rw [← hparticipantID]
          exact (authority_roles (claimed_fields ..).1 rfl).symm
        · exact hspaceID
        · rfl
        · simp only [MemorySpace.authority, claimed_fields]
          rfl
  | @cancelled credential cancellation _ record result _ hrecord hunclaimed hcore _ hspaceID =>
    rw [hcore]
    -- The source looks the invitation up and not the Space, which the invariant supplies.
    obtain ⟨space, hspace⟩ := isSome_iff_exists.mp (hreplays.invited hrecord)
    rw [hspaceID] at hspace
    refine hreplays.invite_log hspace rfl hspace (fun _ _ => rfl) rfl rfl rfl hspaceID
      (fun old hold => ?_) ?_
    · obtain rfl : record = old := some.inj (hrecord.symm.trans hold)
      exact hspaceID
    · refine AuthorityState.ext rfl rfl ?_ rfl
      have hphase : MemoryInvitation.phase { record with cancellation := some result } =
          .cancelled := by
        simp [MemoryInvitation.phase, hunclaimed]
      refine (authority_phases ?_ hphase).symm
      exact hspaceID
  | @roleChanged credential change _ space participant _ hspace hparticipant hactive hcore _ =>
    rw [hcore]
    refine hreplays.put_log hspace rfl rfl rfl rfl rfl ?_
    have hid := hkeyed _ _ hspace _ _ hparticipant
    refine AuthorityState.ext ?_ ?_ rfl ?_
    · simp only [MemorySpace.authority, attest_fields]
      rfl
    · show Function.update _ change.participantID _ = _
      rw [← hid]
      refine (authority_roles (attest_fields ..).1 ?_).symm
      exact if_pos hactive
    · simp only [MemorySpace.authority, attest_fields]
      rfl
  | enrolled _ hspace hparticipant hactive _ hcore _ =>
    -- Devices are no part of what the log says: the participant keeps its role.
    rw [hcore]
    refine hreplays.put_log hspace rfl rfl rfl rfl rfl ?_
    have hown := (hkeyed _ _ hspace).own hparticipant
    refine AuthorityState.ext ?_ ?_ rfl ?_
    · simp only [MemorySpace.authority, attest_fields]
      rfl
    · refine (authority_roles_same (attest_fields ..).1 hown ?_).symm
      rfl
    · simp only [MemorySpace.authority, attest_fields]
      rfl
  | deviceRevoked _ _ hspace _ hparticipant hactive _ hcore _ =>
    rw [hcore]
    refine hreplays.put_log hspace rfl rfl rfl rfl rfl ?_
    have hown := (hkeyed _ _ hspace).own hparticipant
    refine AuthorityState.ext ?_ ?_ rfl ?_
    · simp only [MemorySpace.authority, rekeyed_fields]
      rfl
    · refine (authority_roles_same (rekeyed_fields ..).1 hown ?_).symm
      rfl
    · simp only [MemorySpace.authority, rekeyed_fields]
      rfl
  | @participantRevoked _ _ revocation _ _ _ _ _ _ hspace _ hparticipant hcore _ =>
    rw [hcore]
    refine hreplays.put_log hspace rfl rfl rfl rfl rfl ?_
    have hid := hkeyed _ _ hspace _ _ hparticipant
    refine AuthorityState.ext ?_ ?_ rfl ?_
    · simp only [MemorySpace.authority, left_fields]
      rfl
    · show Function.update _ revocation.participantID _ = _
      rw [← hid]
      exact (authority_roles (left_fields ..).1 rfl).symm
    · simp only [MemorySpace.authority, left_fields]
      rfl
  | @bound _ change _ space binding hspace hcore _ _ hrevision =>
    rw [hcore]
    refine hreplays.put_log hspace rfl rfl rfl rfl rfl ?_
    refine AuthorityState.ext rfl rfl rfl (funext fun id => ?_)
    show Function.update _ change.bindingID _ id = _
    by_cases hid : id = change.bindingID
    · subst hid
      rw [Function.update_self]
      exact ((congrArg (Option.map _) (get?_set_self ..)).trans
        (congrArg some hrevision)).symm
    · rw [Function.update_of_ne hid]
      exact (congrArg (Option.map _) (get?_set_ne _ _ hid)).symm
  -- The last three append no event.
  | presented hspace hcore _ =>
    rw [hcore]
    exact hreplays.put hspace rfl
  | staged hcore _ =>
    rw [hcore]
    exact hreplays.same rfl rfl rfl fun _ => rfl
  | activated hspace hcore _ =>
    rw [hcore]
    exact hreplays.put hspace rfl

/-- A refused request leaves the log and what it is about. -/
theorem Refusal.replays (h : Refusal L s s' op) (hreplays : s.core.Replays) : s'.core.Replays := by
  cases h with
  | quiet hcore => exact hcore ▸ hreplays
  | enrollment _ _ _ _ _ _ _ hcore | revocation _ _ _ _ _ _ _ _ hcore =>
    rw [hcore]
    exact hreplays.same rfl rfl rfl fun _ => rfl

theorem Step.replays (h : Step L s s' op) (hkeyed : s.core.Keyed) (hreplays : s.core.Replays) :
    s'.core.Replays := by
  cases h with
  | refused _ h _ => exact h.replays hreplays
  | repeated _ _ hcore _ => exact hcore ▸ hreplays
  | changed _ h => exact h.replays hkeyed hreplays

theorem Core.replays_new (ttl : Option Int) : (new L ttl).core.Replays where
  replays h := by simp [new, core] at h
  unlogged _ := rfl
  invited h := by simp [new, core] at h
  numbered _ := rfl
  next _ := rfl

/-- **Over every run the log describes the state.** -/
theorem replays_after (ttl : Option Int) (ops : List Operation) :
    (after L ttl ops).core.Replays := by
  refine (invariant (I := fun s : MemoryStore H S => s.core.Keyed ∧ s.core.Replays)
    ⟨Core.keyed_new ttl, Core.replays_new ttl⟩ (fun s op ih _ => ?_) (along_true ops)).2
  exact ⟨(op.step L s).keyed ih.1, (op.step L s).replays ih.1 ih.2⟩

/-! ## Growth -/

/-- Kept are every Space, with no lower key epoch, every invitation, whose record is not written
again once it is claimed, and the logged events. An invitation is compared with the header of its
device list only: the array behind it is the participant's from the claim on. -/
structure Core.Later (c c' : Core H S) : Prop where
  spaces : c.spaces.Evolves (fun space space' => space.keyEpoch ≤ space'.keyEpoch) c'.spaces
  invitations : c.invitations.Evolves (fun record record' =>
    record'.invitation = record.invitation ∧
      (record.result ≠ none → record' = record)) c'.invitations
  events : ∀ id, c.events id <+: c'.events id

namespace Core.Later

variable {c c' c'' : Core H S}

theorem same (hspaces : c'.spaces = c.spaces) (hinvitations : c'.invitations = c.invitations)
    (hevents : c'.authorityEvents = c.authorityEvents) : c.Later c' where
  spaces := hspaces ▸ .refl (fun space => le_refl space.keyEpoch) _
  invitations := hinvitations ▸ .refl (fun _ => ⟨rfl, fun _ => rfl⟩) _
  events id := by
    unfold Core.events
    rw [hevents]

theorem trans (h : c.Later c') (h' : c'.Later c'') : c.Later c'' where
  spaces := h.spaces.trans h'.spaces le_trans
  invitations := by
    refine h.invitations.trans h'.invitations fun h₁ h₂ => ⟨h₂.1.trans h₁.1, fun hclaimed => ?_⟩
    have heq := h₁.2 hclaimed
    exact (h₂.2 (heq ▸ hclaimed)).trans heq
  events id := (h.events id).trans (h'.events id)

theorem invite (h : c.Later c') {id} {record record' : MemoryInvitation S}
    (hrecord : c'.invitations.get? id = some record) (hunclaimed : record.result = none)
    (hterms : record'.invitation = record.invitation) : c.Later (c'.invite id record') :=
  h.trans { same (c := c') rfl rfl rfl with
    invitations := .set_old (fun _ => ⟨rfl, fun _ => rfl⟩) hrecord
      ⟨hterms, fun hclaimed => (hclaimed hunclaimed).elim⟩ }

theorem log (h : c.Later c') (event : AuthorityEvent) : c.Later (c'.log event) := by
  refine { h with events := fun id => (h.events id).trans ?_ }
  by_cases hid : id = event.spaceID
  · obtain ⟨n, hself, -⟩ := c'.events_log_self event
    rw [hid, hself]
    exact List.prefix_append ..
  · rw [events_log_ne _ _ hid]

end Core.Later

theorem Change.later (h : Change L s s' op) : s.core.Later s'.core := by
  -- Only the two revocations raise the epoch, and their own checks say by how much.
  have hput : ∀ {heap id space space'}, s.spaces.get? id = some space →
      space.keyEpoch ≤ space'.keyEpoch →
        s.core.Later ({ s.core with heap := heap }.put id space') :=
    fun hspace hle => { Core.Later.same (c := s.core) rfl rfl rfl with
      spaces := .set_old (fun space => le_refl space.keyEpoch) hspace hle }
  cases h with
  | provisioned _ _ hfresh hcore _ =>
    rw [hcore]
    apply Core.Later.log
    exact { Core.Later.same (c := s.core) rfl rfl rfl with
      spaces := .set_new (fun space => le_refl space.keyEpoch) hfresh }
  | invited _ _ hfresh hcore _ =>
    rw [hcore]
    apply Core.Later.log
    exact { Core.Later.same (c := s.core) rfl rfl rfl with
      invitations := .set_new (fun _ => ⟨rfl, fun _ => rfl⟩) hfresh }
  | claimed _ hrecord _ _ hunclaimed hspace hcore _ =>
    rw [hcore]
    refine .log (.invite (hput hspace ?_) hrecord hunclaimed ?_) _
    · simp
    · rfl
  | cancelled _ hrecord hunclaimed hcore _ _ =>
    rw [hcore]
    apply Core.Later.log
    exact .invite (.same rfl rfl rfl) hrecord hunclaimed rfl
  | roleChanged _ hspace _ _ hcore _ =>
    rw [hcore]
    refine .log (hput hspace ?_) _
    simp [MemorySpace.putParticipant]
  | enrolled _ hspace _ _ _ hcore _ =>
    rw [hcore]
    refine .log (hput hspace ?_) _
    simp [MemorySpace.putParticipant, MemorySpace.putGrant]
  | deviceRevoked _ hvalid hspace hepoch _ _ _ hcore _ =>
    rw [hcore]
    refine .log (hput hspace ?_) _
    obtain ⟨_, hfields, -⟩ := bind_eq_ok.mp hvalid
    grind [refuseWhen_eq_ok.mp hfields, rekeyed_fields]
  | participantRevoked _ hvalid hspace hepoch _ hcore _ =>
    rw [hcore]
    refine .log (hput hspace ?_) _
    grind [refuseWhen_eq_ok.mp hvalid, left_fields]
  | bound hspace hcore _ _ _ =>
    rw [hcore]
    apply Core.Later.log
    exact hput hspace le_rfl
  | presented hspace hcore _ | activated hspace hcore _ =>
    rw [hcore]
    exact hput hspace le_rfl
  | staged hcore _ =>
    rw [hcore]
    exact .same rfl rfl rfl

theorem Step.later (h : Step L s s' op) : s.core.Later s'.core := by
  cases h with
  | refused _ h _ =>
    cases h with
    | quiet hcore | enrollment _ _ _ _ _ _ _ hcore | revocation _ _ _ _ _ _ _ _ hcore =>
      exact hcore ▸ .same rfl rfl rfl
  | repeated _ _ hcore _ => exact hcore ▸ .same rfl rfl rfl
  | changed _ h => exact h.later

/-- **Authority is not rolled back.** However a store runs on, every Space is kept with no lower key
epoch, its log extends the one it had, and an invitation keeps its terms, but for the contents of
its device list, and is not written again once it is claimed. -/
theorem spaces_later (L : Slices ParticipantDeviceKey H S) (s : MemoryStore H S)
    (ops : List Operation) : s.core.Later (run (Operation.apply L) s ops).core :=
  related_of_run (R := fun s s' : MemoryStore H S => s.core.Later s'.core)
    (fun _ => .same rfl rfl rfl) .trans (fun s op => (op.step L s).later) s ops

/-! ## Pages -/

/-- Successive pages, each from where the one before ended. -/
def pages (credential : AdministrationCredential) :
    List Int → Nat → Attempt (MemoryStore H S) SpacesError (List AuthorityEvent)
  | [], _ => pure []
  | limit :: limits, afterSequence => do
    let page ← listAuthorityEvents credential afterSequence limit
    let events ← pages credential limits page.nextSequence
    pure (page.events ++ events)

/-- In a log that is numbered from `n + 1`, the sequences beyond `n + k` are those behind the first
`k` events. -/
theorem filter_sequence {events : List AuthorityEvent} {n : Nat}
    (h : events.map (·.sequence) = List.range' (n + 1) events.length) (k : Nat) :
    events.filter (·.sequence > n + k) = events.drop k := by
  induction events generalizing n k with
  | nil => simp
  | cons e rest ih =>
    rw [List.map_cons, List.length_cons, List.range'_succ, List.cons.injEq] at h
    cases k with
    | zero =>
      -- Everything is beyond `n`: the head by `h`, the rest as the log from `n + 1` beyond itself.
      have hrest := ih h.2 0
      have hall : rest.filter (·.sequence > n) = rest := by
        refine List.filter_eq_self.mpr fun a ha => decide_eq_true ?_
        have hmem : a.sequence ∈ List.range' (n + 1 + 1) rest.length := h.2 ▸
          List.mem_map_of_mem ha
        rw [List.mem_range'_1] at hmem
        omega
      rw [Nat.add_zero, List.filter_cons_of_pos (by simp [h.1]), hall, List.drop_zero]
    | succ k =>
      have hskip : ¬ decide (e.sequence > n + (k + 1)) = true := by
        rw [decide_eq_true_iff, h.1]
        omega
      rw [List.filter_cons, if_neg hskip, List.drop_succ_cons, ← ih h.2 k]
      refine List.filter_congr fun a _ => ?_
      rw [show n + (k + 1) = n + 1 + k by omega]

/-- Where a page of a log numbered from 1 ends. -/
theorem getLast?_sequence {events : List AuthorityEvent}
    (h : events.map (·.sequence) = List.range' 1 events.length) (hk : k ≤ events.length) (m : Nat) :
    ((((events.drop k).take m).getLast?).map (·.sequence)).getD k = min (k + m) events.length := by
  have hmap : ((events.drop k).take m).map (·.sequence) =
      List.range' (1 + k) (min m (events.length - k)) := by
    rw [List.map_take, List.map_drop, h, List.drop_range']
    refine List.ext_getElem (by simp) fun i hi hi' => ?_
    simp
  rw [← List.getLast?_map, hmap, List.getLast?_range']
  by_cases hzero : min m (events.length - k) = 0
  · rw [if_pos hzero]
    simp only [getD_none]
    omega
  · rw [if_neg hzero]
    simp only [getD_some]
    omega

/-- One page of a log numbered from 1. -/
theorem listAuthorityEvents_eq {credential status} {limit : Int}
    (hspace : s.spaces.get? credential.tenantID = some space)
    (hdomain : credential.domainID = space.domainID)
    (hstatus : s.relay.getDomainStatus credential = .ok status)
    (hlimit : 1 ≤ limit ∧ limit ≤ maximumAuthorityEventPageSize)
    (hnumbered : (s.core.events credential.tenantID).map (·.sequence) =
      List.range' 1 (s.core.events credential.tenantID).length)
    (hk : k ≤ (s.core.events credential.tenantID).length) :
    listAuthorityEvents credential k limit s = (.ok ⟨schemaVersion, credential.tenantID,
        ((s.core.events credential.tenantID).drop k).take limit.toNat,
        min (k + limit.toNat) (s.core.events credential.tenantID).length⟩, s) := by
  have hfilter := filter_sequence (n := 0) (by rw [Nat.zero_add]; exact hnumbered) k
  rw [Nat.zero_add] at hfilter
  have hlast := getLast?_sequence hnumbered hk limit.toNat
  have hsize : ¬ (limit < 1 ∨ limit > maximumAuthorityEventPageSize) := by omega
  have hpage : listAuthorityEvents credential k limit s = (.ok ⟨schemaVersion, credential.tenantID,
        ((s.core.events credential.tenantID).filter (·.sequence > k)).take limit.toNat,
        ((((s.core.events credential.tenantID).filter
          (·.sequence > k)).take limit.toNat).getLast?.map
          (·.sequence)).getD k⟩, s) := by
    simp only [listAuthorityEvents, refuse, rejectIf, findSpace, domainStatus, Attempt.ofExcept,
      ofRelay,
      Bind.bind, Attempt.get, hspace, hdomain, if_neg hsize]
    simp only [Pure.pure, ne_eq, not_true, if_false, hstatus, Except.mapError]
    rfl
  rw [hpage, hfilter, hlast]

/-- **Pages of any sizes cut the log** into consecutive pieces. -/
theorem pages_eq {credential status} (hspace : s.spaces.get? credential.tenantID = some space)
    (hdomain : credential.domainID = space.domainID)
    (hstatus : s.relay.getDomainStatus credential = .ok status)
    (hnumbered : (s.core.events credential.tenantID).map (·.sequence) =
      List.range' 1 (s.core.events credential.tenantID).length) {limits : List Int}
    (hlimits : ∀ limit ∈ limits, 1 ≤ limit ∧ limit ≤ maximumAuthorityEventPageSize)
    (hk : k ≤ (s.core.events credential.tenantID).length) :
    pages credential limits k s =
      (.ok (((s.core.events credential.tenantID).drop k).take (limits.map Int.toNat).sum), s) := by
  induction limits generalizing k with
  | nil => simp [pages, Pure.pure]
  | cons limit limits ih =>
    have hpage := listAuthorityEvents_eq hspace hdomain hstatus
      (hlimits limit List.mem_cons_self) hnumbered hk
    have hrest := ih (fun l hl => hlimits l (List.mem_cons_of_mem _ hl))
      (Nat.min_le_right (k + limit.toNat) _)
    simp only [pages, Bind.bind, hpage, hrest, Pure.pure, List.map_cons, List.sum_cons]
    refine congrArg (fun l => (Except.ok l, s)) ?_
    -- The next page starts where this one ended, or both are past the end.
    have hnext : (s.core.events credential.tenantID).drop
        (min (k + limit.toNat) (s.core.events credential.tenantID).length) =
        ((s.core.events credential.tenantID).drop k).drop limit.toNat := by
      rw [List.drop_drop]
      by_cases hend : k + limit.toNat ≤ (s.core.events credential.tenantID).length
      · rw [Nat.min_eq_left hend]
      · rw [Nat.min_eq_right (by omega), List.drop_length, List.drop_eq_nil_of_le (by omega)]
    rw [hnext, List.take_add]

/-! ## Retries -/

/-- What is filed, stays filed. -/
structure Grows (s s' : MemoryStore H S) : Prop where
  filed : ∀ k, s.filed k = true → s'.filed k = true
  spaces : ∀ id, (s.spaces.get? id).isSome = true → (s'.spaces.get? id).isSome = true
  invitations : ∀ id, (s.invitations.get? id).isSome = true → (s'.invitations.get? id).isSome = true
  results : ∀ id, ((s.invitations.get? id).bind (·.result)).isSome = true →
    ((s'.invitations.get? id).bind (·.result)).isSome = true

theorem Files.mono {retry} (h : Files s s' retry) (k : Retry) (hk : s.filed k = true) :
    s'.filed k = true := by
  rw [h k, hk, Bool.true_or]

theorem Files.self {retry} (h : Files s s' retry) : s'.filed retry = true := by
  rw [h retry, decide_eq_true rfl, Bool.or_true]

theorem isSome_of_set {V : Type} {m m' : GoMap UUID V} {v : V} (h : m' = m.set id v)
    (id' : UUID) (hsome : (m.get? id').isSome = true) : (m'.get? id').isSome = true := by
  rw [h]
  by_cases hid : id' = id
  · rw [hid]
    exact isSome_get?_own m id v
  · rw [get?_set_ne _ _ hid, hsome]

theorem isSome_of_eq {V : Type} {m m' : GoMap UUID V} (h : m' = m) (id : UUID)
    (hsome : (m.get? id).isSome = true) : (m'.get? id).isSome = true := by
  rw [h, hsome]

/-- Nothing but the tables of Spaces and of answers changes. -/
theorem Grows.of_spaces (hfiled : ∀ k, s.filed k = true → s'.filed k = true)
    (hspaces : ∀ id, (s.spaces.get? id).isSome = true → (s'.spaces.get? id).isSome = true)
    (hinvitations : s'.invitations = s.invitations) : Grows s s' :=
  ⟨hfiled, hspaces, fun _ h => hinvitations ▸ h, fun _ h => hinvitations ▸ h⟩

theorem Grows.of_space
    (hfiled : ∀ k, s.filed k = true → s'.filed k = true)
    (hspaces : s'.spaces = s.spaces.set id space)
    (hinvitations : s'.invitations = s.invitations) : Grows s s' :=
  .of_spaces hfiled (isSome_of_set hspaces) hinvitations

theorem Grows.of_core (hfiled : s'.filed = s.filed) (hspaces : s'.spaces = s.spaces)
    (hinvitations : s'.invitations = s.invitations) : Grows s s' :=
  .of_spaces (fun _ h => hfiled ▸ h) (isSome_of_eq hspaces) hinvitations

/-- One invitation is filed again, no less claimed than before. -/
theorem Grows.of_invite {record : MemoryInvitation S}
    (hfiled : ∀ k, s.filed k = true → s'.filed k = true)
    (hspaces : ∀ id, (s.spaces.get? id).isSome = true → (s'.spaces.get? id).isSome = true)
    (hinvitations : s'.invitations = s.invitations.set id record)
    (hresult : ((s.invitations.get? id).bind (·.result)).isSome = true →
      record.result.isSome = true) : Grows s s' := by
  refine ⟨hfiled, hspaces, fun id' h => ?_, fun id' h => ?_⟩
  · exact isSome_of_set hinvitations id' h
  · rw [hinvitations]
    by_cases hid : id' = id
    · subst hid
      rw [get?_set_self]
      exact hresult h
    · rw [get?_set_ne _ _ hid]
      exact h

theorem Change.grows (h : Change L s s' op) : Grows s s' := by
  cases h with
  | provisioned _ _ _ hcore hfiled | roleChanged _ _ _ _ hcore hfiled
  | enrolled _ _ _ _ _ hcore hfiled | deviceRevoked _ _ _ _ _ _ _ hcore hfiled
  | participantRevoked _ _ _ _ _ hcore hfiled | bound _ hcore hfiled _ _
  | presented _ hcore hfiled =>
    exact .of_space hfiled.mono (congrArg Core.spaces hcore) (congrArg Core.invitations hcore)
  | invited _ _ hfresh hcore hfiled =>
    have hspaces := congrArg Core.spaces hcore
    have hinvitations := congrArg Core.invitations hcore
    refine .of_invite hfiled.mono (isSome_of_eq hspaces) hinvitations fun h => ?_
    rw [hfresh] at h
    cases h
  | claimed _ _ _ _ _ _ hcore hfiled =>
    have hspaces := congrArg Core.spaces hcore
    have hinvitations := congrArg Core.invitations hcore
    exact .of_invite (fun k h => hfiled ▸ h) (isSome_of_set hspaces)
      hinvitations fun _ => rfl
  | cancelled _ hrecord hunclaimed hcore hfiled _ =>
    have hspaces := congrArg Core.spaces hcore
    have hinvitations := congrArg Core.invitations hcore
    refine .of_invite hfiled.mono (isSome_of_eq hspaces) hinvitations fun h => ?_
    rw [hrecord] at h
    exact h
  | staged hcore hfiled =>
    exact .of_core hfiled (congrArg Core.spaces hcore) (congrArg Core.invitations hcore)
  | activated _ hcore hfiled =>
    exact .of_space (fun k h => hfiled ▸ h) (congrArg Core.spaces hcore)
      (congrArg Core.invitations hcore)

theorem Refusal.invitations (h : Refusal L s s' op) : s'.core.invitations = s.core.invitations := by
  cases h with
  | quiet hcore => rw [hcore]
  | enrollment _ _ _ _ _ _ _ hcore => rw [hcore]
  | revocation _ _ _ _ _ _ _ _ hcore => rw [hcore]

theorem Step.grows (h : Step L s s' op) : Grows s s' := by
  cases h with
  | refused _ h hfiled => exact .of_core hfiled h.spaces h.invitations
  | repeated _ _ hcore hfiled =>
    exact .of_core hfiled (congrArg Core.spaces hcore) (congrArg Core.invitations hcore)
  | changed _ h => exact h.grows

/-- What was answered, stays answered. -/
theorem Grows.answered (h : Grows s s') {op : Operation} (hanswered : op.fresh s = false) :
    op.fresh s' = false := by
  -- One table tells most requests; a first Space or invitation is told by its own identifier as
  -- well.
  cases op with
  | provisionSpace custody p spare now | provisionSpaceWithAuthority custody p a spare now =>
    simp only [Operation.fresh, Bool.and_eq_false_iff, isNone_eq_false_iff] at hanswered ⊢
    exact hanswered.imp (h.filed (.space p.retryID)) (h.spaces p.spaceID)
  | createInvitation c i spare now =>
    simp only [Operation.fresh, Bool.and_eq_false_iff, isNone_eq_false_iff] at hanswered ⊢
    exact hanswered.imp (h.filed (.invitation i.retryID)) (h.invitations i.invitationID)
  | claimInvitation c r now =>
    simp only [Operation.fresh, isNone_eq_false_iff] at hanswered ⊢
    exact h.results c.invitationID hanswered
  | cancelInvitation c r now =>
    simp only [Operation.fresh, isNone_eq_false_iff] at hanswered ⊢
    exact h.filed (.cancellation r.retryID) hanswered
  | changeParticipantRole c r now =>
    simp only [Operation.fresh, isNone_eq_false_iff] at hanswered ⊢
    exact h.filed (.roleChange r.retryID) hanswered
  | enrollParticipantDevice c e spareOfCheck spare now =>
    simp only [Operation.fresh, isNone_eq_false_iff] at hanswered ⊢
    exact h.filed (.enrollment e.retryID) hanswered
  | revokeParticipantDevice c r now =>
    simp only [Operation.fresh, isNone_eq_false_iff] at hanswered ⊢
    exact h.filed (.deviceRevocation r.retryID) hanswered
  | revokeParticipant custody c r now =>
    simp only [Operation.fresh, isNone_eq_false_iff] at hanswered ⊢
    exact h.filed (.revocation r.retryID) hanswered
  | changeComputeBinding c r now =>
    simp only [Operation.fresh, isNone_eq_false_iff] at hanswered ⊢
    exact h.filed (.binding r.retryID) hanswered
  | _ => rfl

/-- What is answered now, is answered from now on. -/
theorem Change.answered (h : Change L s s' op) : op.fresh s' = false := by
  cases h with
  | provisioned _ hop _ _ hfiled =>
    cases op with
    | provisionSpace custody p spare now =>
      have hp : p = _ := hop
      subst hp
      have hself := hfiled.self
      simp only [Operation.fresh, Bool.and_eq_false_iff, isNone_eq_false_iff]
      exact .inl hself
    | provisionSpaceWithAuthority custody p a spare now =>
      have hp : p = _ := hop
      subst hp
      have hself := hfiled.self
      simp only [Operation.fresh, Bool.and_eq_false_iff, isNone_eq_false_iff]
      exact .inl hself
    | _ => exact hop.elim
  | invited _ _ _ _ hfiled =>
    have hself := hfiled.self
    simp only [Operation.fresh, Bool.and_eq_false_iff, isNone_eq_false_iff]
    exact .inl hself
  | claimed _ _ _ _ _ _ hcore _ =>
    have hinvitations : s'.invitations = s.invitations.set _ _ := congrArg Core.invitations hcore
    simp only [Operation.fresh, hinvitations, get?_set_self, bind_some, isNone_some]
  | cancelled _ _ _ _ hfiled _ | roleChanged _ _ _ _ _ hfiled
  | enrolled _ _ _ _ _ _ hfiled | deviceRevoked _ _ _ _ _ _ _ _ hfiled
  | participantRevoked _ _ _ _ _ _ hfiled | bound _ _ hfiled _ _ =>
    exact isNone_eq_false_iff.mpr hfiled.self
  | presented => rfl
  | staged => rfl
  | activated => rfl

theorem Step.answered (h : Step L s s' op) (haccepted : op.accepted L s = true) :
    op.fresh s' = false := by
  cases h with
  | refused hanswer => rw [haccepted] at hanswer; cases hanswer
  | repeated hanswer hfresh hcore hfiled =>
    exact (Step.repeated hanswer hfresh hcore hfiled : Step L s s' op).grows.answered hfresh
  | changed _ h => exact h.answered

/-- **A request that was answered before logs nothing.** -/
theorem Step.events_of_answered (h : Step L s s' op) (hanswered : op.fresh s = false) :
    s'.core.authorityEvents = s.core.authorityEvents := by
  have absurd : op.fresh s = true → False := fun hnew => by rw [hanswered] at hnew; cases hnew
  cases h with
  | refused _ h _ =>
    cases h with
    | quiet hcore => rw [hcore]
    | enrollment _ _ _ _ _ _ _ hcore => rw [hcore]
    | revocation _ _ _ _ _ _ _ _ hcore => rw [hcore]
  | repeated _ _ hcore _ => rw [hcore]
  | changed _ h =>
    cases h with
    | provisioned hnew | invited hnew | claimed hnew | cancelled hnew | roleChanged hnew
    | enrolled hnew | deviceRevoked hnew | participantRevoked hnew | bound _ _ _ hnew =>
      exact (absurd hnew).elim
    | presented _ hcore => rw [hcore]; rfl
    | activated _ hcore => rw [hcore]; rfl
    | staged hcore => rw [hcore]

/-- The same request again: the clock, the room of the slices it copies and what key custody answers
are not part of it. -/
inductive Operation.Again : Operation → Operation → Prop
  | provisionSpace {custody custody' p spare spare' now now'} :
      Again (.provisionSpace custody p spare now) (.provisionSpace custody' p spare' now')
  | provisionSpaceWithAuthority {custody custody' p a spare spare' now now'} :
      Again (.provisionSpaceWithAuthority custody p a spare now)
        (.provisionSpaceWithAuthority custody' p a spare' now')
  | createInvitation {c i spare spare' now now'} :
      Again (.createInvitation c i spare now) (.createInvitation c i spare' now')
  | claimInvitation {c r now now'} : Again (.claimInvitation c r now) (.claimInvitation c r now')
  | cancelInvitation {c r now now'} : Again (.cancelInvitation c r now) (.cancelInvitation c r now')
  | changeParticipantRole {c r now now'} :
      Again (.changeParticipantRole c r now) (.changeParticipantRole c r now')
  | enrollParticipantDevice {c e room room' spare spare' now now'} :
      Again (.enrollParticipantDevice c e room spare now)
        (.enrollParticipantDevice c e room' spare' now')
  | revokeParticipantDevice {c r now now'} :
      Again (.revokeParticipantDevice c r now) (.revokeParticipantDevice c r now')
  | revokeParticipant {custody custody' c r now now'} :
      Again (.revokeParticipant custody c r now) (.revokeParticipant custody' c r now')
  | changeComputeBinding {c r now now'} :
      Again (.changeComputeBinding c r now) (.changeComputeBinding c r now')
  | updateParticipantPresentation {c u now now'} :
      Again (.updateParticipantPresentation c u now) (.updateParticipantPresentation c u now')
  | publishEnvelope {c e now now'} : Again (.publishEnvelope c e now) (.publishEnvelope c e now')
  | stageCheckpoint {c r now now'} : Again (.stageCheckpoint c r now) (.stageCheckpoint c r now')
  | activateCheckpoint {c r now now'} :
      Again (.activateCheckpoint c r now) (.activateCheckpoint c r now')
  | same (op : Operation) : Again op op

theorem Operation.Again.fresh {again} (h : op.Again again) : again.fresh s = op.fresh s := by
  cases h <;> rfl

/-- Between a request that was accepted and its retry anything may happen. -/
theorem events_of_retry {op again : Operation} (between : List Operation)
    (hagain : op.Again again) (haccepted : op.accepted L s = true) :
    (run (Operation.apply L) s (op :: between ++ [again])).core.authorityEvents =
      (run (Operation.apply L) s (op :: between)).core.authorityEvents := by
  have hanswered : op.fresh (run (Operation.apply L) s (op :: between)) = false :=
    invariant (I := fun s : MemoryStore H S => op.fresh s = false) (s := op.apply L s)
      ((op.step L s).answered haccepted)
      (fun s a ih _ => (a.step L s).grows.answered ih) (along_true between)
  rw [run_concat]
  refine (again.step L _).events_of_answered ?_
  rw [hagain.fresh, hanswered]

/-- **The authority log.** In every state a run reaches, the log of a Space replays to its
authority; its events are numbered without gaps; pages of any sizes, each from where the one before
ended, read it once and in order; and a retry of an accepted request leaves every log as it is. -/
theorem authority_log_after (L : Slices ParticipantDeviceKey H S) (ttl : Option Int)
    (ops : List Operation) :
    (∀ id space, (after L ttl ops).spaces.get? id = some space →
      replay ((after L ttl ops).core.events id) =
        space.authority id (after L ttl ops).invitations) ∧
    (∀ id, ((after L ttl ops).core.events id).length < 2 ^ 64 →
      ((after L ttl ops).core.events id).map (·.sequence) =
        List.range' 1 ((after L ttl ops).core.events id).length) ∧
    (∀ credential space status limits,
      (after L ttl ops).spaces.get? credential.tenantID = some space →
      credential.domainID = space.domainID →
      (after L ttl ops).relay.getDomainStatus credential = .ok status →
      ((after L ttl ops).core.events credential.tenantID).length < 2 ^ 64 →
      (∀ limit ∈ limits, 1 ≤ limit ∧ limit ≤ maximumAuthorityEventPageSize) →
      ((after L ttl ops).core.events credential.tenantID).length ≤ (limits.map Int.toNat).sum →
      pages credential limits 0 (after L ttl ops) =
        (.ok ((after L ttl ops).core.events credential.tenantID), after L ttl ops)) ∧
    (∀ op again between id, op.Again again → op.accepted L (after L ttl ops) = true →
      (after L ttl (ops ++ op :: between ++ [again])).core.events id =
        (after L ttl (ops ++ op :: between)).core.events id) := by
  have hreplays := replays_after (L := L) ttl ops
  have hnumbered : ∀ id, ((after L ttl ops).core.events id).length < 2 ^ 64 →
      ((after L ttl ops).core.events id).map (·.sequence) =
        List.range' 1 ((after L ttl ops).core.events id).length := by
    intro id hlength
    rw [hreplays.numbered id, List.range'_eq_map_range]
    refine List.map_congr_left fun i hi => ?_
    have hsmall := List.mem_range.mp hi
    rw [Nat.mod_eq_of_lt (by omega), Nat.add_comm]
  refine ⟨fun id space hspace => hreplays.replays hspace, hnumbered, ?_, ?_⟩
  · intro credential space status limits hspace hdomain hstatus hlength hlimits hall
    have hpages := pages_eq hspace hdomain hstatus (hnumbered _ hlength) hlimits (Nat.zero_le _)
    rwa [List.drop_zero, List.take_of_length_le hall] at hpages
  · intro op again between id hagain haccepted
    have hevents := events_of_retry between hagain haccepted
    unfold Core.events after
    rw [List.append_assoc, List.cons_append, run_append, run_append]
    exact congrArg (fun m : GoMap UUID (List AuthorityEvent) => (m.get? id).getD []) hevents

end

namespace Sample

def custody : Custody := ⟨fun _ _ => .ok (List.replicate 32 0), fun _ _ key => .ok key⟩

/-- A managed Space, whose participants have no devices. -/
def managed : Operation :=
  .provisionSpace (some custody) { provisioning [] current with
    securityMode := .managed, initialSecureRosterAttestation := none } 0 0

def invitation : Invitation (GoSlice ParticipantDeviceKey) where
  version := 1
  retryID := 81
  spaceID := 1
  invitationID := 80
  participantID := 4
  subscriptionID := 31
  kind := .person
  role := .reader
  interactionMode := .collaborative
  participantSigningKey := signingKey
  participantDeviceKeys := none
  keyGrant := none
  activationSecureRosterAttestation := none
  relayAdmission :=
    ⟨1, 1, 2, 80, (Relay.admissionAuthorizationDigest ⟨1, 2, 80, Relay.Sample.token⟩).getD [],
      Role.reader.capabilities .collaborative, 11, 1000, none, none, none, none⟩
  createdAtMilliseconds := 11

/-- Participant 4 is invited as a reader and joins. -/
def joining : List Operation :=
  managed :: bootstrap ++ [.createInvitation Relay.Sample.administrator invitation 0 11,
    .claimInvitation ⟨1, 2, 80, Relay.Sample.token⟩
      ⟨1, 1, 4, ⟨4, (Relay.authorizationDigest Relay.Sample.reader).getD []⟩, 12⟩ 12]

/-- The participant becomes a moderator. -/
def promoting : Operation :=
  .changeParticipantRole Relay.Sample.administrator ⟨1, 82, 1, 4, .reader, .moderator, 13, none⟩ 13

/-- The participant leaves, and the key epoch with them. -/
def removing : Operation :=
  .revokeParticipant (some custody) Relay.Sample.administrator ⟨1, 83, 1, 4, 1, 2, [], none⟩ 14

/-- The whole history of the Space. -/
def history : List Operation := joining ++ [promoting, removing]

theorem history_sample : promoting.accepted Slices.arrays
    (after Slices.arrays none joining) = true ∧
    ((after Slices.arrays none history).spaces.get? 1).map (fun s => (s.domainID, s.keyEpoch)) =
      some (2, 2) ∧
    ((after Slices.arrays none history).relay.getDomainStatus
      Relay.Sample.administrator).isOk = true ∧
    ((after Slices.arrays none history).core.events 1).length = 5 := by
  decide +kernel

end Sample

open Sample

/-- Five events, of an invitation, its claim, a role and an epoch among them, read in two pages; a
retry of the role change after the participant has left adds none. -/
theorem authority_log_after_sample :
    (replay ((after Slices.arrays none history).core.events 1)).keyEpoch = 2 ∧
    ((after Slices.arrays none history).core.events 1).map (·.sequence) = [1, 2, 3, 4, 5] ∧
    pages Relay.Sample.administrator [3, 2] 0 (after Slices.arrays none history) =
      (.ok ((after Slices.arrays none history).core.events 1), after Slices.arrays none history) ∧
    (after Slices.arrays none (joining ++ promoting :: [removing] ++ [promoting])).core.events 1 =
      (after Slices.arrays none (joining ++ promoting :: [removing])).core.events 1 := by
  obtain ⟨haccepted, hspace, hstatus, hlength⟩ := history_sample
  obtain ⟨space, hspace, hfields⟩ := map_eq_some_iff.mp hspace
  obtain ⟨hdomain, hepoch⟩ := Prod.mk.inj hfields
  obtain ⟨status, hstatus⟩ : ∃ status, (after Slices.arrays none
      history).relay.getDomainStatus Relay.Sample.administrator = .ok status := by
    cases h : (after Slices.arrays none history).relay.getDomainStatus
      Relay.Sample.administrator with
    | ok status => exact ⟨status, rfl⟩
    | error e => rw [h] at hstatus; cases hstatus
  obtain ⟨hreplay, hnumbered, hpages, -⟩ := authority_log_after Slices.arrays none history
  obtain ⟨-, -, -, hretry⟩ := authority_log_after Slices.arrays none joining
  refine ⟨?_, ?_, ?_, hretry promoting promoting [removing] 1 (.same _) haccepted⟩
  · rw [hreplay 1 space hspace]
    exact hepoch
  · have hsequences := hnumbered 1 (by omega)
    rw [hlength] at hsequences
    exact hsequences
  · exact hpages Relay.Sample.administrator space status [3, 2] hspace hdomain.symm hstatus
      (lt_of_eq_of_lt hlength (by decide)) (by decide) (le_of_eq hlength)

end FacetsNode.SharedSpaces
