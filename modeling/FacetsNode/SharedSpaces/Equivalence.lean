import FacetsNode.SharedSpaces.Refusals

/-!
# Recognising a repeated revocation

A revocation is recognised as a retry by `Equivalent`, which looks the grants of the retry up among
those of the stored request. The stored grants have distinct targets, those of the retry may repeat:
a retry is recognised that leaves a grant out and has another one twice.
-/

namespace FacetsNode.SharedSpaces

open Relay (UUID)
open ParticipantKeyGrant (target)

section
variable {left right grants : List ParticipantKeyGrant} {seen : List GrantTarget}

/-- Distinct targets: the grants are filed, each under its own. -/
theorem grantsByTarget_of_nodup (h : (left.map target).Nodup) :
    ∃ m, grantsByTarget left = some m ∧ ∀ t g, m.get? t = some g ↔ g ∈ left ∧ g.target = t := by
  induction left with
  | nil => exact ⟨∅, rfl, by simp⟩
  | cons grant rest ih =>
    rw [List.map_cons, List.nodup_cons] at h
    obtain ⟨m, hm, hget⟩ := ih h.2
    have hnew : m.get? grant.target = none := by
      refine Option.eq_none_iff_forall_ne_some.mpr fun g hg => h.1 ?_
      obtain ⟨hmem, htarget⟩ := (hget _ _).mp hg
      exact List.mem_map.mpr ⟨g, hmem, htarget⟩
    refine ⟨m.set grant.target grant, by simp [grantsByTarget, hm, hnew], fun t g => ?_⟩
    rw [GoMap.get?_set, List.mem_cons]
    split
    · next heq =>
      subst heq
      rw [Option.some.injEq]
      constructor
      · rintro rfl
        exact ⟨.inl rfl, rfl⟩
      · rintro ⟨rfl | hmem, htarget⟩
        · rfl
        · exact absurd (List.mem_map.mpr ⟨g, hmem, htarget⟩) h.1
    · next hne =>
      rw [hget]
      constructor
      · rintro ⟨hmem, htarget⟩
        exact ⟨.inr hmem, htarget⟩
      · rintro ⟨rfl | hmem, htarget⟩
        · exact absurd htarget (Ne.symm hne)
        · exact ⟨hmem, htarget⟩

theorem sameGrants_iff (h : (left.map target).Nodup) :
    sameGrants left right = true ↔ right.length = left.length ∧ right ⊆ left := by
  obtain ⟨m, hm, hget⟩ := grantsByTarget_of_nodup h
  simp only [sameGrants, hm, Bool.and_eq_true, beq_iff_eq, List.all_eq_true, decide_eq_true_eq,
    hget,
    and_true]
  rw [eq_comm]
  rfl

/-- The lookup decides a permutation, but for a retry that repeats one of the grants. -/
theorem sameGrants_exact {p : Prop} (h : (left.map target).Nodup) :
    (p ∧ sameGrants left right = true ↔ p ∧ right.Perm left) ↔
      right.Nodup ∨ ¬ (p ∧ right.length = left.length ∧ right ⊆ left) := by
  rw [sameGrants_iff h]
  constructor
  · intro hiff
    by_cases hfound : p ∧ right.length = left.length ∧ right ⊆ left
    · exact .inl ((hiff.mp hfound).2.nodup_iff.mpr h.of_map)
    · exact .inr hfound
  · intro hcase
    constructor
    · intro hfound
      have hnodup := hcase.resolve_right (not_not.mpr hfound)
      have hsub := List.subperm_of_subset hnodup hfound.2.2
      exact ⟨hfound.1, hsub.perm_of_length_le hfound.2.1.ge⟩
    · rintro ⟨hp, hperm⟩
      exact ⟨hp, hperm.length_eq, hperm.subset⟩

/-- A loop that refuses a target it has seen leaves distinct ones. -/
theorem targets_cons {grant : ParticipantKeyGrant} (hnew : grant.target ∉ seen)
    (ih : (grants.map target).Nodup ∧ ∀ g ∈ grants, g.target ∉ grant.target :: seen) :
    ((grant :: grants).map target).Nodup ∧ ∀ g ∈ grant :: grants, g.target ∉ seen := by
  refine ⟨List.nodup_cons.mpr ⟨fun hmem => ?_, ih.1⟩, fun g hg => ?_⟩
  · obtain ⟨g, hg, htarget⟩ := List.mem_map.mp hmem
    exact ih.2 g hg (htarget ▸ List.mem_cons_self)
  · rcases List.mem_cons.mp hg with rfl | hg
    · exact hnew
    · exact fun hmem => ih.2 g hg (List.mem_cons_of_mem _ hmem)

end

variable {mode : SecurityMode} {participants : List FullParticipant} {now : Int}

namespace ParticipantRevocation

variable {r s : ParticipantRevocation}

theorem targets_of_validateGrants {active : List FullParticipant}
    {expected : GoMap GrantTarget GoString} {issuers : GoMap UUID ParticipantSigningKey}
    {seen : List GrantTarget} {grants : List ParticipantKeyGrant}
    (h : r.validateGrants active expected issuers now seen grants = .ok ()) :
    (grants.map target).Nodup ∧ ∀ g ∈ grants, g.target ∉ seen := by
  induction grants generalizing seen with
  | nil => simp
  | cons grant rest ih =>
    simp only [validateGrants, bind_eq_ok, refuseWhen_eq_ok] at h
    obtain ⟨-, -, -, -, -, -, -, -, -, -, -, -, h⟩ := h
    split at h
    · cases h
    · simp only [bind_eq_ok, refuseWhen_eq_ok] at h
      obtain ⟨-, -, -, hnew, h⟩ := h
      exact targets_cons hnew (ih h)

theorem targets_nodup (h : r.validateKeyGrants mode participants now = .ok ()) :
    (r.keyGrants.map target).Nodup := by
  unfold validateKeyGrants at h
  cases mode with
  | «private» | managed =>
    rw [refuseWhen_eq_ok, not_or, not_not, not_not] at h
    simp [h.2]
  | secure =>
    simp only [bind_eq_ok] at h
    obtain ⟨-, -, -, -, -, -, h⟩ := h
    exact (targets_of_validateGrants h).1

/-- The requests agree in every field but the grants. -/
def Agrees (r s : ParticipantRevocation) : Prop := { s with keyGrants := r.keyGrants } = r

theorem equivalent_iff :
    r.equivalent s = true ↔ r.Agrees s ∧ sameGrants r.keyGrants s.keyGrants = true := by
  cases r
  cases s
  simp only [equivalent, Agrees, Bool.and_eq_true, beq_iff_eq, mk.injEq, true_and]
  grind

end ParticipantRevocation

namespace ParticipantDeviceRevocation

variable {r s : ParticipantDeviceRevocation}

theorem targets_of_validateGrants {expected : GoMap GrantTarget GoString}
    {issuers : GoMap UUID ParticipantSigningKey} {seen : List GrantTarget}
    {grants : List ParticipantKeyGrant}
    (h : r.validateGrants expected issuers now seen grants = .ok ()) :
    (grants.map target).Nodup ∧ ∀ g ∈ grants, g.target ∉ seen := by
  induction grants generalizing seen with
  | nil => simp
  | cons grant rest ih =>
    simp only [validateGrants, bind_eq_ok, refuseWhen_eq_ok] at h
    obtain ⟨-, -, -, -, -, -, -, -, -, -, -, -, -, hnew, h⟩ := h
    exact targets_cons hnew (ih h)

theorem targets_nodup (h : r.validateKeyGrants mode participants now = .ok ()) :
    (r.keyGrants.map target).Nodup := by
  unfold validateKeyGrants at h
  cases mode with
  | managed => cases h
  | «private» =>
    rw [refuseWhen_eq_ok, not_or, not_not, not_not] at h
    simp [h.2]
  | secure =>
    simp only [bind_eq_ok] at h
    obtain ⟨-, -, -, -, -, -, -, -, h⟩ := h
    exact (targets_of_validateGrants h).1

/-- The requests agree in every field but the grants. -/
def Agrees (r s : ParticipantDeviceRevocation) : Prop := { s with keyGrants := r.keyGrants } = r

theorem equivalent_iff :
    r.equivalent s = true ↔ r.Agrees s ∧ sameGrants r.keyGrants s.keyGrants = true := by
  cases r
  cases s
  simp only [equivalent, Agrees, Bool.and_eq_true, beq_iff_eq, mk.injEq, true_and]
  grind

end ParticipantDeviceRevocation

/-- **Which retries are recognised.** A validated revocation recognises exactly the same request
with its grants in any order, unless the retry has as many grants, all of them granted before, and
one twice. -/
theorem equivalent_exact (mode : SecurityMode) (participants : List FullParticipant) (now : Int) :
    (∀ r s : ParticipantRevocation,
      r.validate = .ok () → r.validateKeyGrants mode participants now = .ok () →
      ((r.equivalent s = true ↔ r.Agrees s ∧ s.keyGrants.Perm r.keyGrants) ↔
        s.keyGrants.Nodup ∨ ¬ (r.Agrees s ∧ s.keyGrants.length = r.keyGrants.length ∧
          s.keyGrants ⊆ r.keyGrants))) ∧
    ∀ r s : ParticipantDeviceRevocation,
      r.validate = .ok () → r.validateKeyGrants mode participants now = .ok () →
      ((r.equivalent s = true ↔ r.Agrees s ∧ s.keyGrants.Perm r.keyGrants) ↔
        s.keyGrants.Nodup ∨ ¬ (r.Agrees s ∧ s.keyGrants.length = r.keyGrants.length ∧
          s.keyGrants ⊆ r.keyGrants)) := by
  refine ⟨fun r s _ hgrants => ?_, fun r s _ hgrants => ?_⟩
  · rw [ParticipantRevocation.equivalent_iff]
    exact sameGrants_exact (ParticipantRevocation.targets_nodup hgrants)
  · rw [ParticipantDeviceRevocation.equivalent_iff]
    exact sameGrants_exact (ParticipantDeviceRevocation.targets_nodup hgrants)

namespace Sample

/-- Participant 4 leaves; the host keeps both devices. -/
def leaving (keyGrants : List ParticipantKeyGrant) : ParticipantRevocation :=
  ⟨1, 71, 1, 4, 1, 2, keyGrants, none⟩

def grants : List ParticipantKeyGrant :=
  [grant 201 32570146250209062849467120727717770261900312806227182519787149597478003366019,
   grant 202 0x602b959b70b93b7fd097167edcc8509853f094bcb3cc173334d0cff9045ea7c4]

theorem leaving_valid : (leaving grants).validate = .ok () ∧
    (leaving grants).validateKeyGrants .secure [host deviceKeys] 21 = .ok () := by
  decide +kernel

end Sample

open Sample

theorem equivalent_exact_sample : ((leaving grants).equivalent (leaving grants.reverse) = true ↔
      (leaving grants).Agrees (leaving grants.reverse) ∧ grants.reverse.Perm grants) :=
  ((equivalent_exact _ _ _).1 _ _ leaving_valid.1 leaving_valid.2).mpr
    (.inl (by decide +kernel))

/-- One device is left out, and the retry is recognised. -/
theorem equivalent_without_grant : (leaving grants).validate = .ok () ∧
    (leaving grants).validateKeyGrants .secure [host deviceKeys] 21 = .ok () ∧
    (leaving grants).equivalent (leaving (grants.take 1 ++ grants.take 1)) = true ∧
    ¬ (grants.take 1 ++ grants.take 1).Perm grants := by
  refine ⟨leaving_valid.1, leaving_valid.2, by decide +kernel, fun hperm => ?_⟩
  have hnodup : grants.Nodup := by decide +kernel
  exact absurd (hperm.nodup_iff.mpr hnodup) (by decide +kernel)

end FacetsNode.SharedSpaces
