import FacetsNode.ComputePool.Contracts

/-!
# Activation of protection policies

`EvaluatePolicyActivation` decides whether a proposed policy of a Space takes the place of the
current one: at once when it weakens nothing, otherwise when every active participant has
acknowledged it.

* `AtMostAsPermissive` — a policy weakens nothing of another; this is a preorder;
* `activation_cases` — what an evaluation answers;
* **`activation_chain`** — along any chain of activations the identity of the policy is constant and
  each one names its predecessor, and a chain that weakens something contains a unanimous step.
-/

namespace FacetsNode.ComputePool

open Relay (UUID uuidNil uuidString)

inductive PolicyActivationRequirement where
  | immediate
  | unanimous

structure PolicyActivationEvaluation where
  requirement : PolicyActivationRequirement
  authoritativePolicy : SpaceProtectionPolicy
  pendingPolicy : Option SpaceProtectionPolicy
  missingParticipantIDs : List UUID

structure PolicyParticipantSigningAuthority where
  participantID : UUID
  signingKeyFingerprint : GoString

/-! ## Weakening -/

def commitmentControls (value : SpaceProtectionCommitments) : List PolicyControl :=
  [value.sharing, value.computation, value.externalAgents, value.localLLM,
    value.privateInfrastructureLLM, value.externalProviderLLM, value.exportCopy,
    value.disclosureOverrides]

def controlPermissiveness : PolicyControl → Nat
  | .prohibited => 0
  | .consentRequired => 1
  | .allowed => 2

/-- Some control of the second list is more permissive than the one at its place in the first. -/
def controlsWeaken (old new : List PolicyControl) : Bool :=
  (old.zip new).any fun p => controlPermissiveness p.1 < controlPermissiveness p.2

/-- The loop body over the rules of one privacy class. -/
def ruleWeakens (old new : PrivacyClassRule) : Bool :=
  controlsWeaken [old.publicSharing, old.externalProcessing, old.exportCopy]
      [new.publicSharing, new.externalProcessing, new.exportCopy] ||
    !old.rememberedConsentAllowed && new.rememberedConsentAllowed

def policyIsWeakening (current proposed : SpaceProtectionPolicy) : Bool :=
  controlsWeaken (commitmentControls current.commitments)
    (commitmentControls proposed.commitments) ||
    !current.commitments.sharedBrowserHistoryEnabled &&
      proposed.commitments.sharedBrowserHistoryEnabled ||
    current.commitments.privateUserConfigurationsByDefault &&
      !proposed.commitments.privateUserConfigurationsByDefault ||
    (current.rules.zip proposed.rules).any fun p => ruleWeakens p.1 p.2

/-! ## Evaluation -/

def stringsAreSorted : List GoString → Bool
  | a :: b :: l => !decide (b < a) && stringsAreSorted (b :: l)
  | _ => true

def sortedUniqueUUIDs (values : List UUID) : Bool :=
  values.all (· != uuidNil) && stringsAreSorted (values.map uuidString) &&
    decide (values.map uuidString).Nodup

/-- The arguments of `EvaluatePolicyActivation`. -/
structure PolicyActivation where
  (signedCurrent signedProposed : SignedSpaceProtectionPolicy)
  expectedPolicyAuthorityID : UUID
  expectedPolicySigningKeyFingerprint : GoString
  activeParticipants : List PolicyParticipantSigningAuthority
  acknowledgements : List PolicyAcknowledgement

namespace PolicyActivation

variable (c : Suite) (x : PolicyActivation)

def current : SpaceProtectionPolicy := x.signedCurrent.policy
def proposed : SpaceProtectionPolicy := x.signedProposed.policy
def participantIDs : List UUID := x.activeParticipants.map (·.participantID)

/-- `authorityByParticipant`, filled by the first loop. -/
def authorityByParticipant : GoMap UUID GoString :=
  (∅ : GoMap UUID GoString).setAll
    (x.activeParticipants.map fun a => (a.participantID, a.signingKeyFingerprint))

/-- The checks in front of the comparison. -/
def valid : Bool :=
  x.activeParticipants.all (fun a =>
    a.participantID != uuidNil && validSHA256Hex a.signingKeyFingerprint) &&
    x.signedCurrent.validate c && x.signedProposed.validate c &&
    x.signedCurrent.signature.signerID == x.expectedPolicyAuthorityID &&
    x.signedProposed.signature.signerID == x.expectedPolicyAuthorityID &&
    x.signedCurrent.signature.signingKeyFingerprint == x.expectedPolicySigningKeyFingerprint &&
    x.signedProposed.signature.signingKeyFingerprint == x.expectedPolicySigningKeyFingerprint &&
    x.current.policyID == x.proposed.policyID && x.current.spaceID == x.proposed.spaceID &&
    x.current.sharedSpaceSecurityProfile == x.proposed.sharedSpaceSecurityProfile &&
    x.proposed.revision == x.current.revision + 1 && x.participantIDs != [] &&
    sortedUniqueUUIDs x.participantIDs &&
    x.authorityByParticipant.len == x.activeParticipants.length &&
    (c.digest (.policy x.current)).isSome &&
    x.proposed.predecessorDigest == c.digest (.policy x.current)

/-- The condition of the loop over the acknowledgements. -/
def accepts (a : PolicyAcknowledgement) : Bool :=
  a.validate c && a.spaceID == x.proposed.spaceID && a.policyID == x.proposed.policyID &&
    a.policyRevision == x.proposed.revision &&
    a.policyDigest == (c.digest (.policy x.proposed)).getD [] &&
    (x.authorityByParticipant.get? a.participantID).getD [] == a.signature.signingKeyFingerprint

/-- The participants without an accepted acknowledgement. -/
def missing : List UUID :=
  x.participantIDs.filter fun id =>
    !x.acknowledgements.any fun a => x.accepts c a && a.participantID == id

/-- `EvaluatePolicyActivation`. -/
def evaluate : Option PolicyActivationEvaluation :=
  if !x.valid c then none
  else if !policyIsWeakening x.current x.proposed then
    some ⟨.immediate, x.proposed, none, []⟩
  else if x.missing c = [] then
    some ⟨.unanimous, x.proposed, none, []⟩
  else
    some ⟨.unanimous, x.current, some x.proposed, x.missing c⟩

end PolicyActivation

/-! ## At most as permissive -/

/-- A rule allows no more than another one. -/
structure PrivacyClassRule.AtMost (new old : PrivacyClassRule) : Prop where
  publicSharing : controlPermissiveness new.publicSharing ≤ controlPermissiveness old.publicSharing
  externalProcessing :
    controlPermissiveness new.externalProcessing ≤ controlPermissiveness old.externalProcessing
  exportCopy : controlPermissiveness new.exportCopy ≤ controlPermissiveness old.exportCopy
  rememberedConsentAllowed : new.rememberedConsentAllowed = true →
    old.rememberedConsentAllowed = true

/-- Commitments allow no more than others. -/
structure SpaceProtectionCommitments.AtMost (new old : SpaceProtectionCommitments) : Prop where
  controls : List.Forall₂ (fun a b => controlPermissiveness a ≤ controlPermissiveness b)
    (commitmentControls new) (commitmentControls old)
  sharedBrowserHistoryEnabled :
    new.sharedBrowserHistoryEnabled = true → old.sharedBrowserHistoryEnabled = true
  privateUserConfigurationsByDefault :
    old.privateUserConfigurationsByDefault = true → new.privateUserConfigurationsByDefault = true

/-- No control, rule or flag of the policy is more permissive than in the other one. The rules of
valid policies stand in the order of the privacy classes, so rules are compared class by class. -/
structure SpaceProtectionPolicy.AtMostAsPermissive (new old : SpaceProtectionPolicy) : Prop where
  commitments : new.commitments.AtMost old.commitments
  rules : List.Forall₂ PrivacyClassRule.AtMost new.rules old.rules

theorem forall₂_trans {α : Type} {r : α → α → Prop} {l₁ l₂ l₃ : List α} (h : List.Forall₂ r l₁ l₂)
    (h' : List.Forall₂ r l₂ l₃) (hr : ∀ a b d, r a b → r b d → r a d) : List.Forall₂ r l₁ l₃ := by
  induction h generalizing l₃ with
  | nil => exact h'
  | cons hab _ ih =>
    cases h' with
    | cons hbd hrest => exact .cons (hr _ _ _ hab hbd) (ih hrest)

theorem PrivacyClassRule.AtMost.refl (a : PrivacyClassRule) : a.AtMost a :=
  ⟨le_rfl, le_rfl, le_rfl, id⟩

theorem PrivacyClassRule.AtMost.trans {a b d : PrivacyClassRule} (h : a.AtMost b)
    (h' : b.AtMost d) :
    a.AtMost d where
  publicSharing := h.publicSharing.trans h'.publicSharing
  externalProcessing := h.externalProcessing.trans h'.externalProcessing
  exportCopy := h.exportCopy.trans h'.exportCopy
  rememberedConsentAllowed hallowed :=
    h'.rememberedConsentAllowed (h.rememberedConsentAllowed hallowed)

theorem SpaceProtectionCommitments.AtMost.trans {a b d : SpaceProtectionCommitments}
    (h : a.AtMost b)
    (h' : b.AtMost d) : a.AtMost d where
  controls := forall₂_trans h.controls h'.controls fun _ _ _ => le_trans
  sharedBrowserHistoryEnabled henabled :=
    h'.sharedBrowserHistoryEnabled (h.sharedBrowserHistoryEnabled henabled)
  privateUserConfigurationsByDefault hprivate :=
    h.privateUserConfigurationsByDefault (h'.privateUserConfigurationsByDefault hprivate)

theorem SpaceProtectionPolicy.AtMostAsPermissive.refl (p : SpaceProtectionPolicy) :
    p.AtMostAsPermissive p where
  commitments := ⟨List.forall₂_same.mpr fun _ _ => le_rfl, id, id⟩
  rules := List.forall₂_same.mpr fun r _ => .refl r

theorem SpaceProtectionPolicy.AtMostAsPermissive.trans {a b d : SpaceProtectionPolicy}
    (h : a.AtMostAsPermissive b) (h' : b.AtMostAsPermissive d) : a.AtMostAsPermissive d where
  commitments := h.commitments.trans h'.commitments
  rules := forall₂_trans h.rules h'.rules fun _ _ _ => .trans

/-- No pair at the same place of two lists is found. -/
theorem any_zip_eq_false {α : Type} {f : α × α → Bool} {old new : List α}
    (hlength : old.length = new.length) :
    (old.zip new).any f = false ↔ List.Forall₂ (fun b a => f (a, b) = false) new old := by
  induction old generalizing new with
  | nil =>
    cases new with
    | nil => simp
    | cons b new => cases hlength
  | cons a old ih =>
    cases new with
    | nil => cases hlength
    | cons b new =>
      rw [List.zip_cons_cons, List.any_cons, Bool.or_eq_false_iff, ih (Nat.succ.inj hlength),
        List.forall₂_cons]

theorem controlsWeaken_eq_false {old new : List PolicyControl} (hlength : old.length = new.length) :
    controlsWeaken old new = false ↔
      List.Forall₂ (fun a b => controlPermissiveness a ≤ controlPermissiveness b) new old := by
  unfold controlsWeaken
  rw [any_zip_eq_false hlength]
  simp only [decide_eq_false_iff_not, not_lt]

theorem PrivacyClassRule.atMost_of_not_weakens {old new}
    (h : ruleWeakens old new = false) : new.AtMost old := by
  simp only [ruleWeakens, Bool.or_eq_false_iff] at h
  obtain ⟨hcontrols, hremembered⟩ := h
  rw [controlsWeaken_eq_false (by rfl)] at hcontrols
  simp only [List.forall₂_cons, List.Forall₂.nil, and_true] at hcontrols
  refine ⟨hcontrols.1, hcontrols.2.1, hcontrols.2.2, fun hallowed => ?_⟩
  simpa [hallowed] using hremembered

/-- Valid policies have a rule for each class. -/
theorem SpaceProtectionPolicy.length_rules {p : SpaceProtectionPolicy} (h : p.validate = true) :
    p.rules.length = privacyClasses.length := by
  simp only [SpaceProtectionPolicy.validate, Bool.and_eq_true, beq_iff_eq] at h
  rw [← h.1.2, List.length_map]

/-- What is not a weakening is at most as permissive. -/
theorem atMost_of_not_weakening {current proposed : SpaceProtectionPolicy}
    (hcurrent : current.validate = true) (hproposed : proposed.validate = true)
    (h : policyIsWeakening current proposed = false) : proposed.AtMostAsPermissive current := by
  have hlength : current.rules.length = proposed.rules.length :=
    (SpaceProtectionPolicy.length_rules hcurrent).trans
      (SpaceProtectionPolicy.length_rules hproposed).symm
  simp only [policyIsWeakening, Bool.or_eq_false_iff] at h
  obtain ⟨⟨⟨hcontrols, hhistory⟩, hprivate⟩, hrules⟩ := h
  rw [controlsWeaken_eq_false (by rfl)] at hcontrols
  rw [any_zip_eq_false hlength] at hrules
  refine ⟨⟨hcontrols, fun henabled => ?_, fun hdefault => ?_⟩,
    hrules.imp fun _ _ hrule => PrivacyClassRule.atMost_of_not_weakens hrule⟩
  · simpa [henabled] using hhistory
  · simpa [hdefault] using hprivate

/-! ## What an evaluation answers -/

namespace PolicyActivation

variable {c : Suite} {x : PolicyActivation} {e : PolicyActivationEvaluation}

/-- The participant has signed exactly the proposed policy, with its registered key. -/
structure Acknowledged (c : Suite) (x : PolicyActivation) (p : PolicyParticipantSigningAuthority)
    (a : PolicyAcknowledgement) : Prop where
  participant : a.participantID = p.participantID
  signer : a.signature.signerID = p.participantID
  key : a.signature.signingKeyFingerprint = p.signingKeyFingerprint
  signed : a.validate c = true
  spaceID : a.spaceID = x.proposed.spaceID
  policyID : a.policyID = x.proposed.policyID
  revision : a.policyRevision = x.proposed.revision
  digest : a.policyDigest = (c.digest (.policy x.proposed)).getD []

/-- What the checks in front of the comparison give. -/
structure Checked (c : Suite) (x : PolicyActivation) : Prop where
  current : x.current.validate = true
  proposed : x.proposed.validate = true
  policyID : x.proposed.policyID = x.current.policyID
  spaceID : x.proposed.spaceID = x.current.spaceID
  profile : x.proposed.sharedSpaceSecurityProfile = x.current.sharedSpaceSecurityProfile
  revision : x.proposed.revision = x.current.revision + 1
  predecessor : x.proposed.predecessorDigest = c.digest (.policy x.current)
  digest : (c.digest (.policy x.current)).isSome = true
  distinct : x.participantIDs.Nodup

theorem checked_of_valid (h : x.valid c = true) : x.Checked c := by
  simp only [valid, SignedSpaceProtectionPolicy.validate, sortedUniqueUUIDs, Bool.and_eq_true,
    beq_iff_eq, decide_eq_true_eq] at h
  obtain ⟨⟨⟨⟨⟨⟨⟨⟨⟨⟨⟨⟨⟨⟨⟨-, hcurrent, -⟩, hproposed, -⟩, -⟩, -⟩, -⟩, -⟩, hpolicy⟩, hspace⟩,
    hprofile⟩,
    hrevision⟩, -⟩, -, hnodup⟩, -⟩, hdigest⟩, hpredecessor⟩ := h
  exact ⟨hcurrent, hproposed, hpolicy.symm, hspace.symm, hprofile.symm, hrevision, hpredecessor,
    hdigest,
    hnodup.of_map _⟩

variable {p : PolicyParticipantSigningAuthority}

/-- The key registered for an active participant. -/
theorem Checked.authority (h : x.Checked c) (hp : p ∈ x.activeParticipants) :
    x.authorityByParticipant.get? p.participantID = some p.signingKeyFingerprint := by
  have hkeys : ((x.activeParticipants.map fun a =>
      (a.participantID, a.signingKeyFingerprint)).map Prod.fst).Nodup := by
    rw [List.map_map]
    exact h.distinct
  exact (GoMap.get?_setAll_empty hkeys).mpr (List.mem_map.mpr ⟨p, hp, rfl⟩)

/-- The loop over the acknowledgements accepts one for an active participant exactly when it is
signed with the registered key over the proposed policy. -/
theorem Checked.accepts_iff (h : x.Checked c) (hp : p ∈ x.activeParticipants) {a} :
    (x.accepts c a = true ∧ a.participantID = p.participantID) ↔ x.Acknowledged c p a := by
  simp only [accepts, Bool.and_eq_true, beq_iff_eq]
  constructor
  · rintro ⟨⟨⟨⟨⟨⟨hvalid, hspace⟩, hpolicy⟩, hrevision⟩, hdigest⟩, hkey⟩, hid⟩
    rw [hid, h.authority hp] at hkey
    have hsigner : a.signature.signerID = a.participantID := by
      simp only [PolicyAcknowledgement.validate, Bool.and_eq_true, beq_iff_eq] at hvalid
      exact hvalid.1.2
    exact ⟨hid, hsigner.trans hid, hkey.symm, hvalid, hspace, hpolicy, hrevision, hdigest⟩
  · intro ha
    refine ⟨⟨⟨⟨⟨⟨ha.signed, ha.spaceID⟩, ha.policyID⟩, ha.revision⟩, ha.digest⟩, ?_⟩,
      ha.participant⟩
    rw [ha.participant, h.authority hp, ha.key]
    rfl

/-- The missing participants are those without an acknowledgement. -/
theorem Checked.mem_missing (h : x.Checked c) (hp : p ∈ x.activeParticipants) :
    p.participantID ∈ x.missing c ↔ ¬ ∃ a ∈ x.acknowledgements, x.Acknowledged c p a := by
  have hmem : p.participantID ∈ x.participantIDs := List.mem_map.mpr ⟨p, hp, rfl⟩
  simp only [missing, List.mem_filter, hmem, true_and, Bool.not_eq_true', List.any_eq_false,
    Bool.and_eq_true, beq_iff_eq, h.accepts_iff hp, not_exists, not_and]

/-- **An evaluation** activates the proposal — because it weakens nothing, or because every active
participant has acknowledged it — or keeps the current policy and lists who is missing. -/
theorem activation_cases (he : x.evaluate c = some e) : x.Checked c ∧
      ((e = ⟨.immediate, x.proposed, none, []⟩ ∧ x.proposed.AtMostAsPermissive x.current) ∨
      (e = ⟨.unanimous, x.proposed, none, []⟩ ∧
        ∀ p ∈ x.activeParticipants, ∃ a ∈ x.acknowledgements, x.Acknowledged c p a) ∨
      (e = ⟨.unanimous, x.current, some x.proposed, x.missing c⟩ ∧ x.missing c ≠ [])) := by
  unfold evaluate at he
  split at he
  · cases he
  next hvalid =>
  have h : x.Checked c := checked_of_valid (by simpa using hvalid)
  refine ⟨h, ?_⟩
  split at he
  · next hweak =>
    exact .inl ⟨(Option.some.inj he).symm,
      atMost_of_not_weakening h.current h.proposed (by simpa using hweak)⟩
  split at he
  · next hmissing =>
    refine .inr (.inl ⟨(Option.some.inj he).symm, fun p hp => ?_⟩)
    by_contra hnone
    have hmem := (h.mem_missing hp).mpr hnone
    rw [hmissing] at hmem
    cases hmem
  · next hmissing => exact .inr (.inr ⟨(Option.some.inj he).symm, hmissing⟩)

/-- The evaluation makes the policy `q` take the place of `p`. -/
structure Activates (c : Suite) (x : PolicyActivation) (p q : SpaceProtectionPolicy) : Prop where
  current : x.current = p
  authoritative : (x.evaluate c).map PolicyActivationEvaluation.authoritativePolicy = some q
  changed : q ≠ p

theorem Activates.cases {p q} (h : x.Activates c p q) :
    x.Checked c ∧ x.proposed = q ∧ (q.AtMostAsPermissive p ∨
      ∀ p ∈ x.activeParticipants, ∃ a ∈ x.acknowledgements, x.Acknowledged c p a) := by
  obtain ⟨rfl, hauthoritative, hchanged⟩ := h
  obtain ⟨e, he, rfl⟩ := Option.map_eq_some_iff.mp hauthoritative
  obtain ⟨hchecked, ⟨rfl, hatMost⟩ | ⟨rfl, hall⟩ | ⟨rfl, -⟩⟩ := activation_cases he
  · exact ⟨hchecked, rfl, .inl hatMost⟩
  · exact ⟨hchecked, rfl, .inr hall⟩
  · exact absurd rfl hchanged

end PolicyActivation

/-! ## Chains of activations -/

section Chain
variable {c : Suite} {p : Nat → SpaceProtectionPolicy} {x : Nat → PolicyActivation} {n : Nat}
  (h : ∀ i < n, (x i).Activates c (p i) (p (i + 1)))
include h

/-- The identity of the policy is constant, and revisions count up. -/
theorem chain_identity {i : Nat} (hi : i ≤ n) :
    (p i).policyID = (p 0).policyID ∧ (p i).spaceID = (p 0).spaceID ∧
      (p i).sharedSpaceSecurityProfile = (p 0).sharedSpaceSecurityProfile ∧
      (p i).revision = (p 0).revision + i := by
  induction i with
  | zero => exact ⟨rfl, rfl, rfl, rfl⟩
  | succ i ih =>
    obtain ⟨hpolicy, hspace, hprofile, hrevision⟩ := ih (Nat.le_of_succ_le hi)
    obtain ⟨hchecked, hproposed, -⟩ := (h i hi).cases
    have hcurrent := (h i hi).current
    refine ⟨?_, ?_, ?_, ?_⟩
    · rw [← hproposed, hchecked.policyID, hcurrent, hpolicy]
    · rw [← hproposed, hchecked.spaceID, hcurrent, hspace]
    · rw [← hproposed, hchecked.profile, hcurrent, hprofile]
    · rw [← hproposed, hchecked.revision, hcurrent, hrevision]
      rfl

omit h in
/-- Without a unanimous step nothing is weakened. -/
theorem chain_atMost (hstep : ∀ i < n, (p (i + 1)).AtMostAsPermissive (p i)) :
    (p n).AtMostAsPermissive (p 0) := by
  induction n with
  | zero => exact .refl _
  | succ n ih =>
    exact (hstep n (Nat.lt_succ_self n)).trans (ih fun i hi => hstep i (Nat.lt_succ_of_lt hi))

end Chain

/-- **Weakening needs unanimity.** Along a chain of activations, the policy keeps its identity, the
Space and the security profile, revisions are consecutive and each policy names the digest of the
one before. A chain at whose end something is more permissive has a step at which every active
participant had acknowledged exactly the policy proposed there. An evaluation that does not activate
the proposal answers the current policy, and lists exactly the active participants without an
acknowledgement. -/
theorem activation_chain (c : Suite) (p : Nat → SpaceProtectionPolicy) (x : Nat → PolicyActivation)
    (n : Nat) (h : ∀ i < n, (x i).Activates c (p i) (p (i + 1))) :
    (∀ i ≤ n, (p i).policyID = (p 0).policyID ∧ (p i).spaceID = (p 0).spaceID ∧
      (p i).sharedSpaceSecurityProfile = (p 0).sharedSpaceSecurityProfile ∧
      (p i).revision = (p 0).revision + i) ∧
    (∀ i < n, (p (i + 1)).predecessorDigest = c.digest (.policy (p i)) ∧
      (c.digest (.policy (p i))).isSome = true) ∧
    (¬ (p n).AtMostAsPermissive (p 0) → ∃ i < n, (x i).proposed = p (i + 1) ∧
      ∀ participant ∈ (x i).activeParticipants, ∃ a ∈ (x i).acknowledgements,
        (x i).Acknowledged c participant a) ∧
    ∀ (y : PolicyActivation) (e : PolicyActivationEvaluation), y.evaluate c = some e →
      e.authoritativePolicy ≠ y.proposed →
        e.authoritativePolicy = y.current ∧ e.pendingPolicy = some y.proposed ∧
        e.missingParticipantIDs ≠ [] ∧
        (∀ id ∈ e.missingParticipantIDs, id ∈ y.activeParticipants.map (·.participantID)) ∧
        ∀ participant ∈ y.activeParticipants, (participant.participantID ∈ e.missingParticipantIDs ↔
          ¬ ∃ a ∈ y.acknowledgements, y.Acknowledged c participant a) := by
  refine ⟨fun i hi => chain_identity h hi, fun i hi => ?_, fun hweaker => ?_,
    fun y e he hkept => ?_⟩
  · obtain ⟨hchecked, hproposed, -⟩ := (h i hi).cases
    rw [← hproposed, hchecked.predecessor, ← (h i hi).current]
    exact ⟨rfl, hchecked.digest⟩
  · by_contra hnone
    refine hweaker (chain_atMost fun i hi => ?_)
    obtain ⟨-, hproposed, hatMost | hall⟩ := (h i hi).cases
    · exact hatMost
    · exact absurd ⟨i, hi, hproposed, hall⟩ hnone
  · obtain ⟨hchecked, ⟨rfl, -⟩ | ⟨rfl, -⟩ | ⟨rfl, hmissing⟩⟩ := PolicyActivation.activation_cases he
    · exact absurd rfl hkept
    · exact absurd rfl hkept
    · exact ⟨rfl, rfl, hmissing, fun id hid => (List.mem_filter.mp hid).1,
        fun participant hparticipant => hchecked.mem_missing hparticipant⟩

/-- A policy that prohibits sharing, and its successors that allow it. -/
def samplePolicy (i : Nat) : SpaceProtectionPolicy where
  version := 1
  policyID := 50
  spaceID := 51
  sharedSpaceSecurityProfile := none
  revision := i + 1
  predecessorDigest := if i = 0 then none else some (sampleDigest (220 + UInt8.ofNat i))
  rules := privacyClasses.map fun privacyClass =>
    ⟨privacyClass, .prohibited, .prohibited, .prohibited, false⟩
  commitments :=
    ⟨if i = 0 then .prohibited else .allowed, .prohibited, .prohibited, .prohibited, .prohibited,
      .prohibited, .prohibited, .prohibited, false, true⟩
  createdAtMilliseconds := 0

def sampleAcknowledgement (participantID : Relay.UUID) : PolicyAcknowledgement where
  version := 1
  acknowledgementID := 38 + participantID
  spaceID := 51
  policyID := 50
  policyRevision := 2
  policyDigest := sampleDigest 222
  participantID := participantID
  acknowledgedAtMilliseconds := 0
  signature := sampleES256 participantID

/-- Two participants. The first step weakens the policy and both acknowledge it; the second does
not, and nobody is asked. -/
def samplePolicyActivation (i : Nat) : PolicyActivation where
  signedCurrent := ⟨samplePolicy i, sampleES256 21⟩
  signedProposed := ⟨samplePolicy (i + 1), sampleES256 21⟩
  expectedPolicyAuthorityID := 21
  expectedPolicySigningKeyFingerprint := sampleDigest 0
  activeParticipants := [⟨22, sampleDigest 0⟩, ⟨23, sampleDigest 0⟩]
  acknowledgements := if i = 0 then [sampleAcknowledgement 22, sampleAcknowledgement 23] else []

theorem samplePolicyActivation_activates : ∀ i < 2,
    (samplePolicyActivation i).Activates sampleSuite (samplePolicy i) (samplePolicy (i + 1)) := by
  intro i hi
  interval_cases i
  · exact ⟨rfl, by decide +kernel, by decide +kernel⟩
  · exact ⟨rfl, by decide +kernel, by decide +kernel⟩

theorem activation_chain_sample : (samplePolicy 2).revision = (samplePolicy 0).revision + 2 ∧
      ∃ i < 2, (samplePolicyActivation i).proposed = samplePolicy (i + 1) ∧
        ∀ participant ∈ (samplePolicyActivation i).activeParticipants,
          ∃ a ∈ (samplePolicyActivation i).acknowledgements,
            (samplePolicyActivation i).Acknowledged sampleSuite participant a := by
  obtain ⟨hidentity, -, hunanimous, -⟩ := activation_chain sampleSuite samplePolicy
    samplePolicyActivation 2 samplePolicyActivation_activates
  refine ⟨(hidentity 2 le_rfl).2.2.2, hunanimous fun h => ?_⟩
  -- sharing went from prohibited to allowed
  have hcontrols := h.commitments.controls
  simp [samplePolicy, commitmentControls, controlPermissiveness] at hcontrols

end FacetsNode.ComputePool
