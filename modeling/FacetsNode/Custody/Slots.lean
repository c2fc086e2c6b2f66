import FacetsNode.Custody.Files

/-!
# What a name stands for

Seen from one name, the two directories are in one of four situations: nothing is there, a file is
being staged, it is linked under both directories, or it is stored. `Slot` is that view, and
`Represents d φ` says that the disk `d` is what the map `φ` of names to slots says it is, with no
inode shared between two names. The calls of the store then act on *one* slot and leave every other
alone: a file that is created, altered, linked or removed under a name changes the map at that name
only.

A slot never goes back (`Slot.Grows`): in particular the bytes of an object never change.
-/

namespace FacetsNode.Custody

open Attempt

/-- What the directories hold under one name. -/
inductive Slot where
  | empty
  | staged (bytes : List UInt8) (permission : Permission)
  | linked (bytes : List UInt8)
  | stored (bytes : List UInt8)

namespace Slot

/-- The bytes under `objects`. -/
def object : Slot → Option (List UInt8)
  | .linked bytes | .stored bytes => some bytes
  | .empty | .staged .. => none

/-- The second slot may follow the first: an object stays, and a stored one is not staged again. -/
inductive Grows : Slot → Slot → Prop
  | refl {slot} : Grows slot slot
  | staged {slot bytes permission} (h : slot.object = none) : Grows slot (.staged bytes permission)
  | linked {slot bytes} (h : slot.object = none) : Grows slot (.linked bytes)
  | stored {slot bytes} (h : slot.object = none ∨ slot = .linked bytes) : Grows slot (.stored bytes)

theorem Grows.trans {a b c} (h : Grows a b) (h' : Grows b c) : Grows a c := by
  cases h' with
  | refl => exact h
  | staged hnone =>
    cases h with
    | refl => exact .staged hnone
    | staged hnone' => exact .staged hnone'
    | linked => cases hnone
    | stored => cases hnone
  | linked hnone =>
    cases h with
    | refl => exact .linked hnone
    | staged hnone' => exact .linked hnone'
    | linked => cases hnone
    | stored => cases hnone
  | stored hnone =>
    cases h with
    | refl => exact .stored hnone
    | staged hnone' => exact .stored (.inl hnone')
    | linked hnone' =>
      rcases hnone with hnone | heq
      · cases hnone
      · cases heq
        exact .stored (.inl hnone')
    | stored => rcases hnone with hnone | heq <;> cases ‹_›

theorem Grows.object_eq {a b} (h : Grows a b) {bytes : List UInt8}
    (hobject : a.object = some bytes) : b.object = some bytes := by
  cases h with
  | refl => exact hobject
  | staged hnone | linked hnone => simp [hnone] at hobject
  | stored hnone =>
    rcases hnone with hnone | rfl
    · simp [hnone] at hobject
    · exact hobject

/-- The slot holds this wire, or a start of it that can still be written on. -/
def Of (wire : List UInt8) : Slot → Prop
  | .empty => True
  | .staged bytes permission => bytes <+: wire ∧ (permission = .readOnly → bytes = wire)
  | .linked bytes | .stored bytes => bytes = wire

end Slot

/-! ## Disks as maps of slots -/

/-- The disk holds this slot under a name. -/
inductive Disk.Holds (d : Disk) (name : GoString) : Slot → Prop
  | empty (hs : d.staging.get? name = none) (ho : d.objects.get? name = none) : Holds d name .empty
  | staged {n bytes permission} (hs : d.staging.get? name = some n)
      (ho : d.objects.get? name = none) (hi : d.inodes.get? n = some ⟨bytes, permission, 1⟩) :
      Holds d name (.staged bytes permission)
  | linked {n bytes} (hs : d.staging.get? name = some n) (ho : d.objects.get? name = some n)
      (hi : d.inodes.get? n = some ⟨bytes, .readOnly, 2⟩) : Holds d name (.linked bytes)
  | stored {n bytes} (hs : d.staging.get? name = none) (ho : d.objects.get? name = some n)
      (hi : d.inodes.get? n = some ⟨bytes, .readOnly, 1⟩) : Holds d name (.stored bytes)

/-- The name stands for this inode, in one directory or the other. -/
def Disk.Owns (d : Disk) (name : GoString) (n : Nat) : Prop :=
  d.staging.get? name = some n ∨ d.objects.get? name = some n

structure Represents (d : Disk) (φ : GoString → Slot) : Prop where
  holds : ∀ name, d.Holds name (φ name)
  separate : ∀ a b n, d.Owns a n → d.Owns b n → a = b
  bounded : ∀ a n, d.Owns a n → n < d.next

open GoMap

theorem represents_empty : Represents Disk.empty (fun _ => .empty) where
  holds name := .empty (get?_empty _) (get?_empty _)
  separate a b n ha _ := by rcases ha with ha | ha <;> simp [Disk.empty] at ha
  bounded a n ha := by rcases ha with ha | ha <;> simp [Disk.empty] at ha

section
variable {d d' : Disk} {φ : GoString → Slot} {name : GoString}

/-- What is said of one name is said of an inode nobody else has. -/
theorem Disk.Holds.congr {slot} (h : d.Holds name slot)
    (hs : d'.staging.get? name = d.staging.get? name)
    (ho : d'.objects.get? name = d.objects.get? name)
    (hi : ∀ n, d.Owns name n → d'.inodes.get? n = d.inodes.get? n) : d'.Holds name slot := by
  cases h with
  | empty hs' ho' => exact .empty (hs.trans hs') (ho.trans ho')
  | staged hs' ho' hi' => exact .staged (hs.trans hs') (ho.trans ho') ((hi _ (.inl hs')).trans hi')
  | linked hs' ho' hi' => exact .linked (hs.trans hs') (ho.trans ho') ((hi _ (.inl hs')).trans hi')
  | stored hs' ho' hi' => exact .stored (hs.trans hs') (ho.trans ho') ((hi _ (.inr ho')).trans hi')

/-- **Frame.** A change under one name, of an inode that is the name's own or new, changes the map
at that name. -/
theorem Represents.update {slot} (h : Represents d φ)
    (hs : ∀ other, other ≠ name → d'.staging.get? other = d.staging.get? other)
    (ho : ∀ other, other ≠ name → d'.objects.get? other = d.objects.get? other)
    (hi : ∀ other n, other ≠ name → d.Owns other n → d'.inodes.get? n = d.inodes.get? n)
    (hown : ∀ n, d'.Owns name n → d.Owns name n ∨ n = d.next ∧ d.next < d'.next)
    (hnext : d.next ≤ d'.next) (hslot : d'.Holds name slot) :
    Represents d' (Function.update φ name slot) := by
  have howns : ∀ a n, a ≠ name → d'.Owns a n → d.Owns a n := by
    intro a n hne ha
    unfold Disk.Owns at ha ⊢
    rwa [hs a hne, ho a hne] at ha
  refine ⟨?_, ?_, ?_⟩
  · intro a
    by_cases heq : a = name
    · subst heq
      rw [Function.update_self]
      exact hslot
    · rw [Function.update_of_ne heq]
      exact (h.holds a).congr (hs a heq) (ho a heq) fun n hn => hi a n heq hn
  · -- the name's inode is its old one or a new one, and neither is another name's
    have hother : ∀ a n, a ≠ name → d'.Owns name n → ¬ d'.Owns a n := by
      intro a n hne hn ha
      rcases hown n hn with hold | ⟨rfl, -⟩
      · exact hne (h.separate a name n (howns a n hne ha) hold)
      · exact absurd (h.bounded a _ (howns a _ hne ha)) (lt_irrefl _)
    intro a b n ha hb
    by_cases haeq : a = name
    · by_cases hbeq : b = name
      · rw [haeq, hbeq]
      · exact absurd hb (hother b n hbeq (haeq ▸ ha))
    · by_cases hbeq : b = name
      · exact absurd ha (hother a n haeq (hbeq ▸ hb))
      · exact h.separate a b n (howns a n haeq ha) (howns b n hbeq hb)
  · intro a n ha
    by_cases heq : a = name
    · subst heq
      rcases hown n ha with hold | ⟨rfl, hlt⟩
      · exact (h.bounded a n hold).trans_le hnext
      · exact hlt
    · exact (h.bounded a n (howns a n heq ha)).trans_le hnext

/-- Two changes under one name are one. -/
theorem Represents.update_update {slot slot'}
    (h : Represents d (Function.update (Function.update φ name slot) name slot')) :
    Represents d (Function.update φ name slot') := by
  rwa [Function.update_idem] at h

theorem Represents.of_slot (h : Represents d φ) : Represents d
    (Function.update φ name (φ name)) := by
  rwa [Function.update_eq_self]

end

/-! ## The calls on a disk -/

theorem Disk.alter_objects (d : Disk) (n : Nat) (f : Inode → Inode) :
    (d.alter n f).objects = d.objects := by
  unfold Disk.alter
  cases d.inodes.get? n with
  | none => rfl
  | some i => rfl

section
variable {d : Disk} {φ : GoString → Slot} {id : GoString} {n : Nat} {bytes : List UInt8}
  {permission : Permission}

/-- The name is being staged, in this inode. -/
structure Disk.Stages (d : Disk) (id : GoString) (n : Nat) (bytes : List UInt8)
    (permission : Permission) : Prop where
  staging : d.staging.get? id = some n
  objects : d.objects.get? id = none
  inode : d.inodes.get? n = some ⟨bytes, permission, 1⟩

theorem Represents.stages (h : Represents d φ) (hslot : φ id = .staged bytes permission) :
    ∃ n, d.Stages id n bytes permission := by
  have hholds := h.holds id
  rw [hslot] at hholds
  cases hholds with
  | @staged n _ _ hs ho hi => exact ⟨n, hs, ho, hi⟩

theorem Represents.create (h : Represents d φ) (hslot : φ id = .empty) :
    Represents (d.create id) (Function.update φ id (.staged [] .readWrite)) ∧
      (d.create id).Stages id d.next [] .readWrite := by
  have hholds := h.holds id
  rw [hslot] at hholds
  cases hholds with
  | empty hs ho =>
    have hstages : (d.create id).Stages id d.next [] .readWrite :=
      ⟨get?_set_self _ _ _, ho, get?_set_self _ _ _⟩
    refine ⟨h.update ?_ (fun _ _ => rfl) ?_ ?_ (Nat.le_succ _) ?_, hstages⟩
    · exact fun other hne => get?_set_ne _ _ hne
    · intro other n hne hn
      exact get?_set_ne _ _ (h.bounded other n hn).ne
    · rintro n (hn | hn)
      · rw [hstages.staging, Option.some.injEq] at hn
        exact .inr ⟨hn.symm, Nat.lt_succ_self _⟩
      · exact .inl (.inr hn)
    · exact .staged hstages.staging hstages.objects hstages.inode

/-- A change of the file that is being staged. -/
theorem Represents.alter (h : Represents d φ) (hstages : d.Stages id n bytes permission)
    {f : Inode → Inode} {bytes' : List UInt8} {permission'}
    (hf : f ⟨bytes, permission, 1⟩ = ⟨bytes', permission', 1⟩) :
    Represents (d.alter n f) (Function.update φ id (.staged bytes' permission')) ∧
      (d.alter n f).Stages id n bytes' permission' := by
  have hd : d.alter n f = { d with inodes := d.inodes.set n ⟨bytes', permission', 1⟩ } := by
    unfold Disk.alter
    rw [hstages.inode]
    simp only [hf]
  rw [hd]
  have hstages' : ({ d with inodes := d.inodes.set n ⟨bytes', permission', 1⟩ } : Disk).Stages id n
      bytes' permission' := ⟨hstages.staging, hstages.objects, get?_set_self _ _ _⟩
  refine ⟨h.update (fun _ _ => rfl) (fun _ _ => rfl) ?_ (fun _ hn => .inl hn) le_rfl ?_, hstages'⟩
  · intro other m hne hm
    refine get?_set_ne _ _ ?_
    rintro rfl
    exact hne (h.separate other id m hm (.inl hstages.staging))
  · exact .staged hstages'.staging hstages'.objects hstages'.inode

/-- Bytes written at the end of the file that is being staged. -/
theorem Represents.write (h : Represents d φ) (hstages : d.Stages id n bytes permission)
    (data : List UInt8) :
    Represents (d.write n bytes.length data)
        (Function.update φ id (.staged (bytes ++ data) permission)) ∧
      (d.write n bytes.length data).Stages id n (bytes ++ data) permission := by
  refine h.alter hstages ?_
  simp

theorem Represents.chmod (h : Represents d φ) (hstages : d.Stages id n bytes permission)
    (permission' : Permission) :
    Represents (d.chmod n permission') (Function.update φ id (.staged bytes permission')) ∧
      (d.chmod n permission').Stages id n bytes permission' :=
  h.alter hstages rfl

/-- The file that is being staged gets its second name. -/
theorem Represents.link (h : Represents d φ) (hstages : d.Stages id n bytes .readOnly) :
    Represents { (d.alter n fun i => { i with links := i.links + 1 }) with
      objects := d.objects.set id n } (Function.update φ id (.linked bytes)) := by
  have hd : (d.alter n fun i => { i with links := i.links + 1 }) =
      { d with inodes := d.inodes.set n ⟨bytes, .readOnly, 2⟩ } := by
    unfold Disk.alter
    rw [hstages.inode]
  rw [hd]
  refine h.update (fun _ _ => rfl) ?_ ?_ ?_ le_rfl ?_
  · exact fun other hne => get?_set_ne _ _ hne
  · intro other m hne hm
    refine get?_set_ne _ _ ?_
    rintro rfl
    exact hne (h.separate other id m hm (.inl hstages.staging))
  · rintro m (hm | hm)
    · exact .inl (.inl hm)
    · rw [get?_set_self, Option.some.injEq] at hm
      exact .inl (.inl (hm ▸ hstages.staging))
  · exact .linked hstages.staging (get?_set_self _ _ _) (get?_set_self _ _ _)

/-- The linked file loses its first name. -/
theorem Represents.unlink (h : Represents d φ) (hs : d.staging.get? id = some n)
    (ho : d.objects.get? id = some n) (hi : d.inodes.get? n = some ⟨bytes, .readOnly, 2⟩) :
    Represents { (d.alter n fun i => { i with links := i.links - 1 }) with
      staging := d.staging.delete id } (Function.update φ id (.stored bytes)) := by
  have hd : (d.alter n fun i => { i with links := i.links - 1 }) =
      { d with inodes := d.inodes.set n ⟨bytes, .readOnly, 1⟩ } := by
    unfold Disk.alter
    rw [hi]
    rfl
  rw [hd]
  refine h.update ?_ (fun _ _ => rfl) ?_ ?_ le_rfl ?_
  · intro other hne
    show (d.staging.delete id).get? other = _
    rw [get?_delete, if_neg hne]
  · intro other m hne hm
    refine get?_set_ne _ _ ?_
    rintro rfl
    exact hne (h.separate other id m hm (.inl hs))
  · rintro m (hm | hm)
    · have hgone : (d.staging.delete id).get? id = none := by rw [get?_delete, if_pos rfl]
      rw [show (d.staging.delete id).get? id = some m from hm] at hgone
      cases hgone
    · exact .inl (.inr hm)
  · refine .stored ?_ ho (get?_set_self _ _ _)
    show (d.staging.delete id).get? id = none
    rw [get?_delete, if_pos rfl]

end

end FacetsNode.Custody
