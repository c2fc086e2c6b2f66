import FacetsNode.Custody.Slots

/-!
# Interrupted writes converge

A `Put` may stop at any checkpoint and inside any block. Whatever is on the disk then is a slot the
next `Put` of the same wire recognises: a start of the wire that it goes on writing, a complete file
that it links, a linked file that it finishes. The walk through the code below keeps one statement,
`Reached`: the disk is what it was, except for the slot of the name, which has only grown and still
holds this wire. At the end of it, a `Put` that does not stop has stored the wire.
-/

namespace FacetsNode.Custody

open Attempt Store

/-! ## Blocks -/

/-- The blocks start at `start`, follow one another without a gap, and end at `total`. -/
def Covers : Nat → Nat → List (Nat × Nat) → Prop
  | start, total, [] => start = total
  | start, total, (offset, count) :: rest =>
    offset = start ∧ 0 < count ∧ count ≤ blockBytes ∧ Covers (start + count) total rest

theorem covers_blocks (rounds : Nat) {offset total : Nat} (hle : offset ≤ total)
    (hrounds : total ≤ offset + rounds) : Covers offset total (blocks rounds offset total) := by
  induction rounds generalizing offset with
  | zero => exact le_antisymm hle hrounds
  | succ rounds ih =>
    unfold blocks
    by_cases hlt : offset < total
    · rw [if_pos hlt]
      have hpos : 0 < min blockBytes (total - offset) := by
        simp only [lt_min_iff, blockBytes]
        omega
      have hmin : min blockBytes (total - offset) ≤ total - offset := min_le_right _ _
      exact ⟨rfl, hpos, min_le_left _ _, ih (by omega) (by omega)⟩
    · rw [if_neg hlt]
      show offset = total
      omega

open List

theorem end_le_of_covers {start total offset count : Nat} {bs : List (Nat × Nat)}
    (h : Covers start total bs) : (start ≤ total) ∧
    ((offset, count) ∈ bs → offset + count ≤ total) := by
  induction bs generalizing start with
  | nil => exact ⟨le_of_eq h, by simp⟩
  | cons b bs ih =>
    obtain ⟨o, c⟩ := b
    obtain ⟨rfl, -, -, hrest⟩ := h
    obtain ⟨hle, hmem⟩ := ih hrest
    refine ⟨by omega, fun h => ?_⟩
    rcases mem_cons.mp h with heq | h
    · cases heq
      exact hle
    · exact hmem h

/-- A part of a longer text that lies inside a start of it. -/
theorem slice_of_start {a b : List UInt8} (h : a <+: b) (start : Nat) {stop : Nat}
    (hstop : stop ≤ a.length) : slice a start stop = slice b start stop := by
  obtain ⟨rest, rfl⟩ := h
  unfold slice
  rw [take_append_of_le_length hstop]

theorem sameStart_of_start {staged wire : List UInt8} (h : staged <+: wire) :
    sameStart staged wire = true := by
  unfold sameStart
  rw [all_eq_true]
  rintro ⟨offset, count⟩ hmem
  have hcovers : Covers 0 staged.length (blocks staged.length 0 staged.length) :=
    covers_blocks _ (Nat.zero_le _) (by omega)
  have hle := (end_le_of_covers hcovers).2 hmem
  simpa using slice_of_start h offset hle

/-- The next bytes of the wire, or some of them, after a start of it. -/
theorem prefix_append_slice {bytes wire : List UInt8} (h : bytes <+: wire) (count k : Nat) :
    bytes ++ (slice wire bytes.length (bytes.length + count)).take k <+: wire := by
  obtain ⟨rest, rfl⟩ := h
  have hslice : slice (bytes ++ rest) bytes.length (bytes.length + count) = rest.take count := by
    unfold slice
    rw [take_length_add_append, drop_left]
  rw [hslice, take_take]
  exact prefix_append_right_inj bytes |>.mpr (List.take_prefix _ rest)

theorem length_slice {wire : List UInt8} {offset count : Nat} (h : offset + count ≤ wire.length) :
    (slice wire offset (offset + count)).length = count := by
  unfold slice
  rw [length_drop, length_take, min_eq_left h]
  omega

/-! ## One command in front of the rest -/

section
variable {α : Type} {w : World} {Q : Except FileError α → World → Prop}

variable {f : Unit → Attempt World FileError α}

theorem ends_checkpoint {point} (hstop : w.stop ≠ none → Q (.error .stopped) w)
    (hok : ∀ stop, (w.stop = none → stop = none) → Ends (f ()) { w with stop } Q) :
    Ends (checkpoint point >>= f) w Q := by
  refine ends_bind ?_
  unfold Ends checkpoint
  rcases w with ⟨disk, stop, admitted⟩
  rcases stop with _ | ⟨p, count⟩ | ⟨count, bytes⟩
  · exact hok none fun _ => rfl
  · by_cases hp : p = point
    · cases count with
      | zero => simpa [hp] using hstop (by simp)
      | succ n => simpa [Ends, hp] using hok (some (.at p n)) (by simp)
    · simpa [Ends, hp] using hok (some (.at p count)) (by simp)
  · exact hok _ (by simp)

theorem ends_write {file offset : Nat} {data : List UInt8} (hstop : w.stop ≠ none → ∀ k,
      Q (.error .stopped) { w with disk := w.disk.write file offset (data.take k) })
    (hok : ∀ stop, (w.stop = none → stop = none) →
      Ends (f ()) { w with disk := w.disk.write file offset data, stop } Q) :
    Ends (Store.write file offset data >>= f) w Q := by
  refine ends_bind ?_
  unfold Ends Store.write
  rcases w with ⟨disk, stop, admitted⟩
  rcases stop with _ | ⟨p, count⟩ | ⟨_ | count, bytes⟩
  · exact hok none fun _ => rfl
  · exact hok _ (by simp)
  · exact hstop (by simp) bytes
  · exact hok _ (by simp)

/-- The log of the admission calls after one more. -/
def logged (admission : Admission) (log : List (Nat × Nat)) (call : Nat × Nat) :
    List (Nat × Nat) :=
  match admission with
  | none => log
  | some _ => log ++ [call]

/-- The callback grants whatever it is asked. -/
def Grants (admission : Admission) : Prop :=
  ∀ g, admission = some g → ∀ offset count, g offset count = .ok ()

theorem ends_askAdmission {admission} {offset count : Nat} (hrefused : ¬ Grants admission → ∀ e,
      Q (.error e) { w with admitted := logged admission w.admitted (offset, count) })
    (hok : Ends (f ()) { w with admitted := logged admission w.admitted (offset, count) } Q) :
    Ends (askAdmission admission offset count >>= f) w Q := by
  cases admission with
  | none => exact hok
  | some g =>
    refine ends_bind (ends_modify ?_)
    show Ends (Attempt.ofExcept (g offset count)) _ _
    unfold Ends Attempt.ofExcept
    cases hg : g offset count with
    | ok u => exact hok
    | error e =>
      refine hrefused (fun hgrants => ?_) e
      rw [hgrants g rfl offset count] at hg
      cases hg

end

/-! ## Checks that pass -/

section
variable {d : Disk} {id : GoString} {n : Nat} {bytes : List UInt8} {permission : Permission}

theorem Disk.Stages.lstat (h : d.Stages id n bytes permission) :
    d.lstat .staging id = some (n, ⟨bytes, permission, 1⟩) := by
  simp [Disk.lstat, Disk.directory, h.staging, h.inode]

theorem Disk.Stages.stableFile (h : d.Stages id n bytes permission) {permissions : List Permission}
    (hmem : permission ∈ permissions) :
    Store.stableFile d .staging id n 1 permissions = true := by
  simp [Store.stableFile, h.lstat, h.inode, privateFile, hmem]

/-- The object under a name, in this inode: alone, or with its alias still under `staging`. -/
inductive Disk.Stores (d : Disk) (id : GoString) (n : Nat) (bytes : List UInt8) : Slot → Prop
  | linked (hs : d.staging.get? id = some n) (ho : d.objects.get? id = some n)
      (hi : d.inodes.get? n = some ⟨bytes, .readOnly, 2⟩) : Stores d id n bytes (.linked bytes)
  | stored (hs : d.staging.get? id = none) (ho : d.objects.get? id = some n)
      (hi : d.inodes.get? n = some ⟨bytes, .readOnly, 1⟩) : Stores d id n bytes (.stored bytes)

theorem Represents.stores {φ : GoString → Slot} (h : Represents d φ)
    (hslot : (φ id).object = some bytes) : ∃ n, d.Stores id n bytes (φ id) := by
  have hholds := h.holds id
  cases hcase : φ id with
  | empty | staged => simp [hcase, Slot.object] at hslot
  | linked bytes' =>
    rw [hcase] at hslot hholds
    cases hslot
    cases hholds with
    | linked hs ho hi => exact ⟨_, .linked hs ho hi⟩
  | stored bytes' =>
    rw [hcase] at hslot hholds
    cases hslot
    cases hholds with
    | stored hs ho hi => exact ⟨_, .stored hs ho hi⟩

/-- Everything the store checks about an object, and its inode. -/
theorem Disk.Stores.checks {slot} (h : d.Stores id n bytes slot) :
    ∃ links, d.lstat .objects id = some (n, ⟨bytes, .readOnly, links⟩) ∧
      d.inodes.get? n = some ⟨bytes, .readOnly, links⟩ ∧
      privateFile ⟨bytes, .readOnly, links⟩ 2 [.readOnly] = true ∧
      Store.stableFile d .objects id n 2 [.readOnly] = true ∧ validateAlias d id n = true := by
  cases h with
  | linked hs ho hi =>
    exact ⟨2, by simp [Disk.lstat, Disk.directory, ho, hi], hi, by simp [privateFile],
      by simp [Store.stableFile, Disk.lstat, Disk.directory, ho, hi, privateFile],
      by simp [validateAlias, Disk.lstat, Disk.directory, hs, hi, privateFile]⟩
  | stored hs ho hi =>
    exact ⟨1, by simp [Disk.lstat, Disk.directory, ho, hi], hi, by simp [privateFile],
      by simp [Store.stableFile, Disk.lstat, Disk.directory, ho, hi, privateFile],
      by simp [validateAlias, Disk.lstat, Disk.directory, hs, hi]⟩

end

/-! ## The walk -/

namespace Slot

/-- The bytes that are already staged. -/
def written : Slot → List UInt8
  | .staged bytes _ => bytes
  | .empty | .linked _ | .stored _ => []

/-- The admission calls a `Put` still has to make. -/
def calls (slot : Slot) (wire : List UInt8) : List (Nat × Nat) :=
  match slot.object with
  | some _ => []
  | none => blocks wire.length slot.written.length wire.length ++ [(wire.length, 0)]

end Slot

/-- The disk is what it was, except for the slot of one name: that one has only grown, and holds the
wire if it held it before. -/
structure Reached (φ : GoString → Slot) (id : GoString) (wire : List UInt8) (d : Disk)
    (slot : Slot) :
    Prop where
  disk : Represents d (Function.update φ id slot)
  grows : (φ id).Grows slot
  of : (φ id).Of wire → slot.Of wire

/-- What a `Put` comes to: a disk that is reached, and, when nothing stood in its way, the stored
wire after these admission calls. -/
def Outcome (φ : GoString → Slot) (id : GoString) (wire : List UInt8) (clean : Prop)
    (log : List (Nat × Nat)) (r : Except FileError Unit) (w : World) : Prop :=
  ∃ slot, Reached φ id wire w.disk slot ∧
    (clean → r = .ok () ∧ slot = .stored wire ∧ w.admitted = log)

section
variable {φ : GoString → Slot} {id : GoString} {wire bytes : List UInt8} {d : Disk} {slot : Slot}
  {n : Nat} {permission : Permission} {clean : Prop} {log : List (Nat × Nat)} {w : World}
  {expected : Reference} {admission : Admission}

theorem Represents.reached (h : Represents d φ) : Reached φ id wire d (φ id) :=
  ⟨h.of_slot, .refl, fun hof => hof⟩

theorem Reached.outcome (h : Reached φ id wire w.disk slot) (hnot : ¬ clean) {e} :
    Outcome φ id wire clean log (.error e) w :=
  ⟨slot, h, fun hclean => absurd hclean hnot⟩

theorem Reached.write (h : Reached φ id wire d (.staged bytes .readWrite))
    (hstages : d.Stages id n bytes .readWrite) (hnone : (φ id).object = none) {data : List UInt8}
    (hdata : bytes <+: wire → bytes ++ data <+: wire) :
    Reached φ id wire (d.write n bytes.length data) (.staged (bytes ++ data) .readWrite) ∧
      (d.write n bytes.length data).Stages id n (bytes ++ data) .readWrite := by
  obtain ⟨hdisk, hstages'⟩ := h.disk.write hstages data
  refine ⟨⟨hdisk.update_update, .staged hnone, fun hof => ⟨hdata (h.of hof).1, ?_⟩⟩, hstages'⟩
  intro heq
  cases heq

/-- The file is made read-only once it is as long as the wire. -/
theorem Reached.chmod (h : Reached φ id wire d (.staged bytes permission))
    (hstages : d.Stages id n bytes permission) (hnone : (φ id).object = none)
    (hlength : bytes.length = wire.length) :
    Reached φ id wire (d.chmod n .readOnly) (.staged bytes .readOnly) ∧
      (d.chmod n .readOnly).Stages id n bytes .readOnly := by
  obtain ⟨hdisk, hstages'⟩ := h.disk.chmod hstages .readOnly
  refine ⟨⟨hdisk.update_update, .staged hnone, fun hof => ?_⟩, hstages'⟩
  have hstart : bytes <+: wire := (h.of hof).1
  exact ⟨hstart, fun _ => hstart.eq_of_length hlength⟩

theorem Reached.link (h : Reached φ id wire d (.staged bytes .readOnly))
    (hstages : d.Stages id n bytes .readOnly) (hnone : (φ id).object = none) :
    Reached φ id wire { (d.alter n fun i => { i with links := i.links + 1 }) with
      objects := d.objects.set id n } (.linked bytes) :=
  ⟨(h.disk.link hstages).update_update, .linked hnone, fun hof => (h.of hof).2 rfl⟩

theorem Reached.unlink (h : Reached φ id wire d (.linked bytes)) (hs : d.staging.get? id = some n)
    (ho : d.objects.get? id = some n) (hi : d.inodes.get? n = some ⟨bytes, .readOnly, 2⟩) :
    Reached φ id wire { (d.alter n fun i => { i with links := i.links - 1 }) with
      staging := d.staging.delete id } (.stored bytes) :=
  ⟨(h.disk.unlink hs ho hi).update_update, h.grows.trans (.stored (.inr rfl)), h.of⟩

theorem Reached.stores (h : Reached φ id wire d slot) (hslot : slot.object = some bytes) :
    ∃ n, d.Stores id n bytes slot := by
  have hself : (Function.update φ id slot) id = slot := Function.update_self _ _ _
  have hobject : ((Function.update φ id slot) id).object = some bytes := by
    rw [hself]
    exact hslot
  obtain ⟨n, hn⟩ := h.disk.stores hobject
  rw [hself] at hn
  exact ⟨n, hn⟩

/-! ### Reading an object -/

theorem ends_openObject {α : Type} {f : Nat → Attempt World FileError α}
    {Q : Except FileError α → World → Prop} (h : w.disk.Stores id n bytes slot)
    (hok : Ends (f n) w Q) : Ends (openRegular .objects id 2 [.readOnly] >>= f) w Q := by
  obtain ⟨links, hlstat, -, hprivate, hstable, -⟩ := h.checks
  refine ends_bind ?_
  unfold openRegular
  refine ends_get ?_
  rw [hlstat]
  refine ends_rejectIf (fun hbad => ?_) fun _ => ends_rejectIf (fun hbad => ?_) fun _ => ?_
  · rw [hprivate] at hbad
    cases hbad
  · rw [hstable] at hbad
    cases hbad
  · exact hok

theorem ends_contents {α : Type} {f : Inode → Attempt World FileError α}
    {Q : Except FileError α → World → Prop} {i} (h : w.disk.inodes.get? n = some i)
    (hok : Ends (f i) w Q) : Ends (contents n >>= f) w Q := by
  refine ends_bind ?_
  unfold contents
  refine ends_get ?_
  rw [h]
  exact hok

/-- An object is read exactly when it verifies, and then as it is. -/
theorem ends_readLocked {Q : Except FileError (List UInt8) → World → Prop}
    (h : w.disk.Stores expected.ciphertextID n bytes slot)
    (herr : verify bytes expected ≠ .ok () → Q (.error .invalid) w)
    (hok : verify bytes expected = .ok () → Q (.ok bytes) w) : Ends (readLocked expected) w Q := by
  obtain ⟨links, -, hinode, -, hstable, halias⟩ := h.checks
  unfold readLocked
  refine ends_openObject h (ends_contents hinode ?_)
  refine ends_rejectIf (fun hlength => ?_) fun hlength => ?_
  · refine herr fun hverify => hlength ?_
    exact (verify_eq_ok hverify).2.2.2.1
  have htake : bytes.take (wireOverhead + expected.header.plaintextBytes + 1) = bytes := by
    rw [take_of_length_le]
    rw [not_not.mp hlength]
    omega
  refine ends_rejectIf (fun hverify => herr ?_) fun hverify => ends_get ?_
  · rwa [htake] at hverify
  refine ends_rejectIf (fun hbad => ?_) fun _ => ends_rejectIf (fun hbad => ?_) fun _ => ?_
  · rw [hstable] at hbad
    cases hbad
  · rw [halias] at hbad
    cases hbad
  · rw [htake] at hverify ⊢
    exact hok (not_not.mp hverify)

/-! ### Finishing an object -/

theorem ends_finishTail (h : Reached φ id wire w.disk (.stored bytes))
    (hstores : w.disk.Stores id n bytes (.stored bytes))
    (hclean : clean → bytes = wire ∧ w.stop = none ∧ w.admitted = log) :
    Ends (do
      checkpoint .afterStageRemove
      checkpoint .afterStagingSync
      let w ← get
      rejectIf (stableFile w.disk .objects id n 1 [.readOnly] = false) .invalid) w
      (Outcome φ id wire clean log) := by
  refine ends_checkpoint (fun hstop => h.outcome fun hc => hstop (hclean hc).2.1) fun s hs => ?_
  refine ends_checkpoint (fun hstop => h.outcome fun hc =>
    hstop (hs (hclean hc).2.1)) fun s' hs' => ?_
  refine ends_get ?_
  cases hstores with
  | stored hs ho hi =>
    have hstable : stableFile w.disk .objects id n 1 [.readOnly] = true := by
      simp [stableFile, Disk.lstat, Disk.directory, ho, hi, privateFile]
    refine ends_rejectIf_last (fun hbad => ?_) fun _ => ?_
    · rw [hstable] at hbad
      cases hbad
    · refine ⟨_, h, fun hc => ⟨rfl, ?_, (hclean hc).2.2⟩⟩
      rw [(hclean hc).1]

theorem ends_finish (h : Reached φ expected.ciphertextID wire w.disk slot)
    (hslot : slot.object = some bytes)
    (hclean : clean → bytes = wire ∧ verify wire expected = .ok () ∧ w.stop = none ∧
      w.admitted = log) :
    Ends (finish expected) w (Outcome φ expected.ciphertextID wire clean log) := by
  obtain ⟨n, hstores⟩ := h.stores hslot
  unfold finish
  refine ends_bind (ends_readLocked hstores ?_ fun _ => ?_)
  · refine fun hverify => h.outcome fun hc => hverify ?_
    rw [(hclean hc).1]
    exact (hclean hc).2.1
  refine ends_openObject hstores ?_
  refine ends_checkpoint (fun hstop => h.outcome fun hc => hstop (hclean hc).2.2.1) fun s hs => ?_
  refine ends_get (ends_rejectIf (fun hbad => ?_) fun _ => ends_bind ?_)
  · obtain ⟨_, -, -, -, -, halias⟩ := hstores.checks
    rw [show validateAlias w.disk expected.ciphertextID n = false from hbad] at halias
    cases halias
  have hclean' : clean → bytes = wire ∧ s = none ∧ w.admitted = log := fun hc =>
    ⟨(hclean hc).1, hs (hclean hc).2.2.1, (hclean hc).2.2.2⟩
  -- The staged name is there only if a call stopped between the link and its removal.
  unfold removeStage
  refine ends_get ?_
  cases hstores with
  | stored hstage ho hi =>
    have hlstat : w.disk.lstat .staging expected.ciphertextID = none := by
      simp [Disk.lstat, Disk.directory, hstage]
    simp only [hlstat]
    exact ends_pure (ends_finishTail h (.stored hstage ho hi) hclean')
  | linked hstage ho hi =>
    have hlstat : w.disk.lstat .staging expected.ciphertextID =
        some (n, ⟨bytes, .readOnly, 2⟩) := by
      simp [Disk.lstat, Disk.directory, hstage, hi]
    simp only [hlstat]
    refine ends_rejectIf (fun hne => absurd rfl hne) fun _ => ?_
    have hunlinked := h.unlink hstage ho hi
    obtain ⟨n', hn'⟩ := hunlinked.stores (show (Slot.stored bytes).object = some bytes from rfl)
    have hsame : n' = n := by
      cases hn' with
      | stored _ ho' _ =>
        have hobjects := ho'
        rw [show _ = (w.disk.alter n _).objects.get? _ from rfl, Disk.alter_objects, ho] at hobjects
        exact (Option.some.inj hobjects).symm
    exact ends_finishTail hunlinked (hsame ▸ hn') hclean'

/-! ### Staging the wire -/

variable (wire) in
theorem ends_openStage {Q : Except FileError Nat → World → Prop} (h : Represents w.disk φ)
    (hnone : (φ id).object = none)
    (hok : ∀ n permission d, Reached φ id wire d (.staged (φ id).written permission) →
      d.Stages id n (φ id).written permission → Q (.ok n) { w with disk := d }) :
    Ends (openStage id) w Q := by
  have hholds := h.holds id
  unfold openStage
  refine ends_get ?_
  cases hcase : φ id with
  | linked | stored => simp [hcase, Slot.object] at hnone
  | empty =>
    rw [hcase] at hholds hok
    cases hholds with
    | empty hs ho =>
      obtain ⟨hdisk, hstages⟩ := h.create hcase
      rw [hs]
      refine ends_modify (ends_get (ends_rejectIf (fun hbad => ?_) fun _ => ?_))
      · have hstable : stableFile (w.disk.create id) .staging id w.disk.next 1 [.readWrite] =
            true := hstages.stableFile (by simp)
        rw [show stableFile (w.disk.create id) .staging id w.disk.next 1 [.readWrite] = false
          from hbad] at hstable
        cases hstable
      · refine hok _ _ _ ⟨hdisk, ?_, fun _ => ⟨List.nil_prefix, fun heq => ?_⟩⟩ hstages
        · exact .staged hnone
        · cases heq
  | staged bytes permission =>
    obtain ⟨n, hstages⟩ := h.stages hcase
    rw [hstages.staging]
    unfold openRegular
    refine ends_get ?_
    rw [hstages.lstat]
    have hmem : permission ∈ [Permission.readWrite, .readOnly] := by
      cases permission <;> simp
    refine ends_rejectIf (fun hbad => ?_) fun _ => ends_rejectIf (fun hbad => ?_) fun _ => ?_
    · simp [privateFile, hmem] at hbad
    · rw [hstages.stableFile hmem] at hbad
      cases hbad
    · rw [hcase] at hok
      exact hok n permission w.disk (hcase ▸ h.reached) hstages

/-- The loop: what is staged grows block by block, and stays a start of the wire if it was one. -/
theorem ends_writeBlocks {Q : Except FileError Unit → World → Prop} {rounds : Nat}
    (h : Reached φ id wire w.disk (.staged bytes permission))
    (hstages : w.disk.Stages id n bytes permission) (hnone : (φ id).object = none)
    (hle : bytes.length ≤ wire.length) (hrounds : wire.length ≤ bytes.length + rounds)
    (hwritable : bytes.length < wire.length → permission = .readWrite)
    (hclean : clean → w.stop = none ∧ Grants admission)
    (herr : ∀ e w' bytes', Reached φ id wire w'.disk (.staged bytes' .readWrite) → ¬ clean →
      Q (.error e) w') (hok : ∀ w' bytes', Reached φ id wire w'.disk (.staged bytes' permission) →
      w'.disk.Stages id n bytes' permission → bytes'.length = wire.length →
      (clean → w'.stop = none ∧ w'.admitted =
        (blocks rounds bytes.length wire.length).foldl (logged admission) w.admitted) →
      Q (.ok ()) w') :
    Ends (writeBlocks id n wire admission (blocks rounds bytes.length wire.length)) w Q := by
  -- Induction on the rounds left, over what is staged: every round writes at least one byte.
  induction rounds generalizing bytes w with
  | zero => exact hok w bytes h hstages (le_antisymm hle hrounds) fun hc => ⟨(hclean hc).1, rfl⟩
  | succ rounds ih =>
    unfold blocks at hok ⊢
    by_cases hlt : bytes.length < wire.length
    · obtain rfl := hwritable hlt
      rw [if_pos hlt] at hok ⊢
      generalize hcount : min blockBytes (wire.length - bytes.length) = count at hok ⊢
      have hpos : 0 < count := by
        rw [← hcount, lt_min_iff]
        exact ⟨by decide, by omega⟩
      have hfits : bytes.length + count ≤ wire.length := by
        have := min_le_right blockBytes (wire.length - bytes.length)
        omega
      unfold writeBlocks
      refine ends_get (ends_rejectIf (fun hbad => ?_) fun _ => ?_)
      · rw [hstages.stableFile (by simp)] at hbad
        cases hbad
      refine ends_askAdmission (fun hrefused e => herr e _ bytes h fun hc =>
        hrefused (hclean hc).2) ?_
      refine ends_write (fun hstop k => ?_) fun s hs => ?_
      · refine herr _ _ _ (h.write hstages hnone ?_).1 fun hc => hstop (hclean hc).1
        exact fun hstart => prefix_append_slice hstart count k
      have hdata : bytes <+: wire →
          bytes ++ slice wire bytes.length (bytes.length + count) <+: wire := by
        intro hstart
        have := prefix_append_slice hstart count count
        rwa [take_of_length_le (length_slice hfits).le] at this
      obtain ⟨h', hstages'⟩ := h.write hstages hnone hdata
      have hlength : (bytes ++ slice wire bytes.length (bytes.length + count)).length =
          bytes.length + count := by
        rw [length_append, length_slice hfits]
      refine ends_checkpoint (fun hstop => herr _ _ _ h' fun hc => hstop (hs (hclean hc).1))
        fun s' hs' => ?_
      have hrest := ih (w := ⟨_, s', logged admission w.admitted (bytes.length, count)⟩) h' hstages'
        (by omega) (by omega) (fun _ => rfl)
        (fun hc => ⟨hs' (hs (hclean hc).1), (hclean hc).2⟩)
      rw [hlength] at hrest
      exact hrest hok
    · rw [if_neg hlt] at hok ⊢
      exact hok w bytes h hstages (by omega) fun hc => ⟨(hclean hc).1, rfl⟩

theorem ends_stage {Q : Except FileError Nat → World → Prop} (h : Represents w.disk φ)
    (hid : id = expected.ciphertextID) (hnone : (φ id).object = none)
    (hclean : clean → w.stop = none ∧ Grants admission ∧ (φ id).Of wire)
    (herr : ∀ e w' slot, Reached φ id wire w'.disk slot → ¬ clean → Q (.error e) w')
    (hok : ∀ n w' bytes, Reached φ id wire w'.disk (.staged bytes .readOnly) →
      w'.disk.Stages id n bytes .readOnly → (clean → w'.stop = none ∧ bytes = wire ∧ w'.admitted =
        (blocks wire.length (φ id).written.length wire.length).foldl
          (logged admission) w.admitted) →
      Q (.ok n) w') :
    Ends (stage expected wire admission) w Q := by
  subst hid
  -- What is staged already must be a start of the wire, and a read-only file the whole of it; then
  -- the blocks that are missing are written.
  unfold stage
  refine ends_bind (ends_openStage wire h hnone fun n permission d hreached hstages => ?_)
  refine ends_checkpoint (fun hstop => herr _ _ _ hreached fun hc => hstop (hclean hc).1)
    fun s hs => ?_
  have hof : clean → (Slot.staged (φ expected.ciphertextID).written permission).Of wire := fun hc =>
    hreached.of (hclean hc).2.2
  refine ends_contents hstages.inode ?_
  refine ends_rejectIf (fun hlong => herr _ _ _ hreached fun hc => ?_) fun hlong => ?_
  · exact absurd (hof hc).1.length_le (not_le.mpr hlong)
  refine ends_rejectIf (fun hstart => herr _ _ _ hreached fun hc => ?_) fun _ => ?_
  · rw [sameStart_of_start (hof hc).1] at hstart
    cases hstart
  refine ends_rejectIf (fun hshort => herr _ _ _ hreached fun hc => ?_) fun hshort => ?_
  · have hro : permission = .readOnly := by
      cases permission with
      | readWrite => exact absurd rfl hshort.2
      | readOnly => rfl
    exact absurd hshort.1 (by rw [(hof hc).2 hro]; exact lt_irrefl _)
  refine ends_bind (ends_writeBlocks hreached hstages hnone (not_lt.mp hlong) (by omega) ?_
    (fun hc => ⟨hs (hclean hc).1, (hclean hc).2.1⟩)
    (fun e w' bytes' hr hnot => herr e w' _ hr hnot) ?_)
  · intro hlt
    by_contra hne
    exact hshort ⟨hlt, hne⟩
  · intro w' bytes' hr hst hlength hc'
    obtain ⟨hreached', hstages'⟩ := hr.chmod hst hnone hlength
    refine ends_modify (ends_pure (hok n _ bytes' hreached' hstages' fun hc => ?_))
    have hstart : bytes' <+: wire := (hr.of (hclean hc).2.2).1
    exact ⟨(hc' hc).1, hstart.eq_of_length hlength, (hc' hc).2⟩

/-! ### The whole of `Put` -/

variable (clean wire expected admission) in
/-- **One `Put`.** Wherever it stops, the disk has changed in the slot of its name only, and that
slot has grown. When it does not stop, is granted what it asks for and finds nothing but its own
wire, the wire is stored. -/
theorem ends_put (h : Represents w.disk φ)
    (hclean : clean → w.stop = none ∧ Grants admission ∧ (φ expected.ciphertextID).Of wire ∧
      verify wire expected = .ok ()) :
    Ends (putWithWriteAdmission expected wire admission) w
      (Outcome φ expected.ciphertextID wire clean
        (((φ expected.ciphertextID).calls wire).foldl (logged admission) w.admitted)) := by
  -- The proof follows the source from check to check. `h.reached`, `hreached` and `hlinked` say in
  -- turn how far the slot has grown, and each early return closes with the latest of them; what a
  -- clean call has done so far is carried beside it.
  unfold putWithWriteAdmission
  refine ends_rejectIf (fun hverify => h.reached.outcome fun hc => hverify (hclean hc).2.2.2)
    fun hverify => ends_get ?_
  cases hobject : (φ expected.ciphertextID).object with
  | some bytes =>
    -- The object is there: what is left is to remove the staged name.
    obtain ⟨n, hstores⟩ := h.stores hobject
    obtain ⟨links, hlstat, -⟩ := hstores.checks
    rw [hlstat]
    refine ends_finish h.reached hobject fun hc => ?_
    obtain ⟨hstop, -, hof, hverify⟩ := hclean hc
    refine ⟨?_, hverify, hstop, ?_⟩
    · cases hcase : φ expected.ciphertextID <;> rw [hcase] at hobject hof <;> cases hobject
      · exact hof
      · exact hof
    · rw [Slot.calls, hobject]
      rfl
  | none =>
    have hlstat : w.disk.lstat .objects expected.ciphertextID = none := by
      have hholds := h.holds expected.ciphertextID
      cases hcase : φ expected.ciphertextID with
      | linked | stored => simp [hcase, Slot.object] at hobject
      | empty =>
        rw [hcase] at hholds
        cases hholds with
        | empty hs ho => simp [Disk.lstat, Disk.directory, ho]
      | staged =>
        rw [hcase] at hholds
        cases hholds with
        | staged hs ho hi => simp [Disk.lstat, Disk.directory, ho]
    rw [hlstat]
    -- Stage the wire, check the staged file, ask for admission, link, and finish.
    refine ends_bind (ends_stage h rfl hobject
      (fun hc => ⟨(hclean hc).1, (hclean hc).2.1, (hclean hc).2.2.1⟩)
      (fun e w' slot hr hnot => hr.outcome hnot) fun n w' bytes hreached hstages hc' => ?_)
    refine ends_get (ends_rejectIf (fun hbad => ?_) fun _ => ends_bind ?_)
    · rw [hstages.stableFile (by simp)] at hbad
      cases hbad
    unfold verifyFile
    refine ends_contents hstages.inode ?_
    refine ends_rejectIf_last (fun hbad => ?_) fun _ => ?_
    · -- A clean call has staged the whole wire, so the file verifies as the wire did.
      refine hreached.outcome fun hc => hbad ?_
      have hlength := (verify_eq_ok (hclean hc).2.2.2).2.2.2.2
      rw [(hc' hc).2.1]
      show verify (wire.take _) expected = .ok ()
      rw [take_of_length_le (by omega)]
      exact (hclean hc).2.2.2
    refine ends_checkpoint (fun hstop => hreached.outcome fun hc => hstop (hc' hc).1)
      fun s hs => ends_get ?_
    refine ends_rejectIf (fun hbad => ?_) fun _ => ?_
    · rw [hstages.stableFile (by simp)] at hbad
      cases hbad
    refine ends_askAdmission (fun hrefused e =>
      ⟨_, hreached, fun hc => absurd (hclean hc).2.1 hrefused⟩) (ends_bind ?_)
    unfold Store.link
    refine ends_get ?_
    simp only [hstages.lstat, hstages.objects]
    have hlinked := hreached.link hstages hobject
    refine ends_checkpoint (fun hstop => hlinked.outcome fun hc => hstop (hs (hc' hc).1))
      fun s' hs' => ?_
    refine ends_finish hlinked rfl fun hc => ?_
    refine ⟨(hc' hc).2.1, (hclean hc).2.2.2, hs' (hs (hc' hc).1), ?_⟩
    show logged admission w'.admitted (wire.length, 0) = _
    rw [Slot.calls, hobject, (hc' hc).2.2]
    simp only [foldl_append, foldl_cons, foldl_nil]

end

/-! ## Runs -/

/-- The bytes of the file under a name. -/
def Disk.bytes (d : Disk) (dir : Directory) (name : GoString) : Option (List UInt8) :=
  (d.lstat dir name).map fun (_, i) => i.bytes

/-- A `Put` that stores anything under the name of this reference stores this wire. Another wire
with the same digest is what this leaves out. -/
def FileOperation.Agrees (reference : Reference) (wire : List UInt8) : FileOperation → Prop
  | .put other wire' _ _ =>
    verify wire' other = .ok () → other.ciphertextID = reference.ciphertextID → wire' = wire
  | .read _ => True

section
variable {d : Disk} {φ : GoString → Slot} {reference : Reference} {wire : List UInt8}

theorem Represents.bytes_objects (h : Represents d φ) (name : GoString) :
    d.bytes .objects name = (φ name).object := by
  have hholds := h.holds name
  unfold Disk.bytes Disk.lstat Disk.directory
  generalize φ name = slot at hholds
  cases hholds with
  | empty hs ho | staged hs ho hi => simp [ho, Slot.object]
  | linked hs ho hi | stored hs ho hi => simp [ho, hi, Slot.object]

/-- The file under `staging`: the staged bytes, or those of the object. -/
theorem Represents.bytes_staging (h : Represents d φ) (name : GoString) :
    d.bytes .staging name = match φ name with
      | .empty | .stored _ => none
      | .staged bytes _ | .linked bytes => some bytes := by
  have hholds := h.holds name
  unfold Disk.bytes Disk.lstat Disk.directory
  generalize φ name = slot at hholds
  cases hholds with
  | empty hs ho => simp [hs]
  | staged hs ho hi => simp [hs, hi]
  | linked hs ho hi => simp [hs, hi]
  | stored hs ho hi => simp [hs]

theorem Disk.Holds.lstat_stored {name} {bytes : List UInt8} (h : d.Holds name (.stored bytes)) :
    (∃ n, d.lstat .objects name = some (n, ⟨bytes, .readOnly, 1⟩)) ∧
      d.lstat .staging name = none := by
  cases h with
  | @stored n _ hs ho hi =>
    exact ⟨⟨n, by simp [Disk.lstat, Disk.directory, ho, hi]⟩,
      by simp [Disk.lstat, Disk.directory, hs]⟩

/-- A wire that does not verify is refused before anything is written. -/
theorem put_of_not_verify {w admission} (h : verify wire reference ≠ .ok ()) :
    (putWithWriteAdmission reference wire admission w).2 = w := by
  have hends : Ends (putWithWriteAdmission reference wire admission) w (fun _ w' => w' = w) := by
    unfold putWithWriteAdmission
    exact ends_reject rfl fun hverify => absurd h hverify
  exact hends

variable (reference) in
/-- Reading leaves the disk alone, and returns what is stored, if it verifies. -/
theorem ends_read {w} (h : Represents w.disk φ) :
    Ends (read reference) w (fun r w' => w' = w ∧ ∀ data, r = .ok data →
      (φ reference.ciphertextID).object = some data ∧ verify data reference = .ok ()) := by
  unfold Store.read
  refine ends_reject (⟨rfl, fun _ heq => by cases heq⟩) fun _ => ?_
  have hbytes := h.bytes_objects reference.ciphertextID
  cases hobject : (φ reference.ciphertextID).object with
  | some bytes =>
    obtain ⟨n, hstores⟩ := h.stores hobject
    refine ends_readLocked hstores (fun _ => ⟨rfl, fun _ heq => by cases heq⟩) fun hverify => ?_
    refine ⟨rfl, fun data heq => ?_⟩
    cases heq
    exact ⟨rfl, hverify⟩
  | none =>
    rw [hobject, Disk.bytes, Option.map_eq_none_iff] at hbytes
    unfold readLocked
    refine ends_bind ?_
    unfold openRegular
    refine ends_get ?_
    rw [hbytes]
    exact ⟨rfl, fun _ heq => by cases heq⟩

variable (reference wire) in
/-- **One step.** Every slot grows, and the slot of the reference keeps holding its wire. -/
theorem FileOperation.represents_apply (op : FileOperation) (h : Represents d φ) :
    ∃ φ', Represents (op.apply d) φ' ∧ (∀ name, (φ name).Grows (φ' name)) ∧
      (op.Agrees reference wire → (φ reference.ciphertextID).Of wire →
        (φ' reference.ciphertextID).Of wire) := by
  cases op with
  | read other =>
    have hread : (FileOperation.read other).apply d = d :=
      congrArg World.disk (ends_read other (w := ⟨d, none, []⟩) h).1
    rw [hread]
    exact ⟨φ, h, fun _ => .refl, fun _ hof => hof⟩
  | put other wire' admission stop =>
    by_cases hverify : verify wire' other = .ok ()
    · obtain ⟨slot, hreached, -⟩ := ends_put wire' False other admission
        (w := ⟨d, stop, []⟩) h False.elim
      refine ⟨_, hreached.disk, fun name => ?_, fun hagrees hof => ?_⟩
      · by_cases hname : name = other.ciphertextID
        · subst hname
          rw [Function.update_self]
          exact hreached.grows
        · rw [Function.update_of_ne hname]
          exact .refl
      · by_cases hname : reference.ciphertextID = other.ciphertextID
        · obtain rfl := hagrees hverify hname.symm
          rw [hname] at hof ⊢
          rw [Function.update_self]
          exact hreached.of hof
        · rwa [Function.update_of_ne hname]
    · have hput : (FileOperation.put other wire' admission stop).apply d = d :=
        congrArg World.disk (put_of_not_verify hverify)
      rw [hput]
      exact ⟨φ, h, fun _ => .refl, fun _ hof => hof⟩

variable (reference wire) in
/-- A whole run, from a disk that holds nothing else under the name. -/
theorem represents_of_run {ops : List FileOperation} (h : Represents d φ)
    (hof : (φ reference.ciphertextID).Of wire) (hops : ∀ op ∈ ops, op.Agrees reference wire) :
    ∃ φ', Represents (run FileOperation.apply d ops) φ' ∧ (φ' reference.ciphertextID).Of wire := by
  induction ops generalizing d φ with
  | nil => exact ⟨φ, h, hof⟩
  | cons op ops ih =>
    obtain ⟨φ', h', -, hof'⟩ := op.represents_apply reference wire h
    exact ih h' (hof' (hops op mem_cons_self) hof)
      fun op' hmem => hops op' (mem_cons_of_mem _ hmem)

theorem slots_of_run (h : Represents d φ) (ops : List FileOperation) :
    ∃ φ', Represents (run FileOperation.apply d ops) φ' ∧ ∀ name, (φ name).Grows (φ' name) := by
  refine invariant (I := fun d' => ∃ φ', Represents d' φ' ∧ ∀ name, (φ name).Grows (φ' name))
    ⟨φ, h, fun _ => .refl⟩ ?_ (along_true ops)
  rintro d' op ⟨φ₁, h₁, hgrows⟩ -
  obtain ⟨φ₂, h₂, hgrows', -⟩ := op.represents_apply ⟨⟨0, 0, 0, 0⟩, []⟩ [] h₁
  exact ⟨φ₂, h₂, fun name => (hgrows name).trans (hgrows' name)⟩

/-- **The disk refines the slots.** After any calls, each stopped wherever, every name is in
one of the four states, no two names share a file, and further calls only move each name onwards. -/
theorem disk_refines_slots (earlier later : List FileOperation) :
    ∃ φ φ', Represents (run FileOperation.apply Disk.empty earlier) φ ∧
      Represents (run FileOperation.apply Disk.empty (earlier ++ later)) φ' ∧
      ∀ name, (φ name).Grows (φ' name) := by
  obtain ⟨φ, h, -⟩ := slots_of_run represents_empty earlier
  obtain ⟨φ', h', hgrows⟩ := slots_of_run h later
  rw [run_append]
  exact ⟨φ, φ', h, h', hgrows⟩

theorem foldl_logged (g : Nat → Nat → Except FileError Unit) (calls log : List (Nat × Nat)) :
    calls.foldl (logged (some g)) log = log ++ calls := by
  induction calls generalizing log with
  | nil => simp
  | cons call calls ih =>
    rw [foldl_cons, ih]
    simp [logged]

/-- A `Put` that nothing stands in the way of. -/
theorem put_of_represents (h : Represents d φ) (hof : (φ reference.ciphertextID).Of wire)
    (hverify : verify wire reference = .ok ()) {g : Nat → Nat → Except FileError Unit}
    (hg : ∀ offset count, g offset count = .ok ()) :
    (putWithWriteAdmission reference wire (some g) ⟨d, none, []⟩).1 = .ok () ∧
      Represents (putWithWriteAdmission reference wire (some g) ⟨d, none, []⟩).2.disk
        (Function.update φ reference.ciphertextID (.stored wire)) ∧
      (putWithWriteAdmission reference wire (some g) ⟨d, none, []⟩).2.admitted =
        (φ reference.ciphertextID).calls wire := by
  have hgrants : Grants (some g) := by
    intro g' heq
    cases heq
    exact hg
  obtain ⟨slot, hreached, hclean⟩ := ends_put wire True reference (some g)
    (w := ⟨d, none, []⟩) h
    fun _ => ⟨rfl, hgrants, hof, hverify⟩
  obtain ⟨hok, rfl, hlog⟩ := hclean trivial
  rw [foldl_logged] at hlog
  exact ⟨hok, hreached.disk, hlog⟩

/-- **Crash and retry converge.** After any run of calls that stop anywhere, with nothing but this
wire under its name: whatever call comes next, no object loses or changes its bytes; what is staged
is a start of the wire; a `Put` that does not stop and is granted what it asks for succeeds, and
leaves one file with one name that holds the wire; it asks for the blocks that are not yet staged,
in order and without a gap, and then to link, unless the object was already there, when it asks for
nothing; and what is read is the wire. -/
theorem put_converges (hverify : verify wire reference = .ok ()) {ops : List FileOperation}
    (hops : ∀ op ∈ ops, op.Agrees reference wire) {g : Nat → Nat → Except FileError Unit}
    (hg : ∀ offset count, g offset count = .ok ()) :
    let d := run FileOperation.apply Disk.empty ops
    let put := putWithWriteAdmission reference wire (some g) ⟨d, none, []⟩
    (∀ (op : FileOperation) name bytes, d.bytes .objects name = some bytes →
      (op.apply d).bytes .objects name = some bytes) ∧
    (∀ bytes, d.bytes .staging reference.ciphertextID = some bytes → bytes <+: wire) ∧
    put.1 = .ok () ∧
    (∃ n, put.2.disk.lstat .objects reference.ciphertextID = some (n, ⟨wire, .readOnly, 1⟩)) ∧
    put.2.disk.lstat .staging reference.ciphertextID = none ∧
    (d.bytes .objects reference.ciphertextID = none →
      ∃ bs, Covers ((d.bytes .staging reference.ciphertextID).getD []).length wire.length bs ∧
        put.2.admitted = bs ++ [(wire.length, 0)]) ∧
    (∀ bytes, d.bytes .objects reference.ciphertextID = some bytes → put.2.admitted = []) ∧
    (∀ data, (read reference ⟨d, none, []⟩).1 = .ok data → data = wire) := by
  -- The disk after the run represents slots, of which the one of this name is of this wire; every
  -- part is read off there.
  obtain ⟨φ, h, hof⟩ := represents_of_run reference wire represents_empty
    trivial hops
  intro d put
  obtain ⟨hok, hstored, hcalls⟩ := put_of_represents h hof hverify hg
  have hself := hstored.holds reference.ciphertextID
  rw [Function.update_self] at hself
  refine ⟨?_, ?_, hok, ?_, ?_, ?_, ?_, ?_⟩
  · intro op name bytes hbytes
    obtain ⟨φ', h', hgrows, -⟩ := op.represents_apply reference wire h
    rw [h.bytes_objects] at hbytes
    rw [h'.bytes_objects]
    exact (hgrows name).object_eq hbytes
  · intro bytes hbytes
    rw [h.bytes_staging] at hbytes
    cases hcase : φ reference.ciphertextID with
    | empty | stored => simp [hcase] at hbytes
    | staged bytes' permission =>
      simp only [hcase, Option.some.injEq] at hbytes hof
      exact hbytes ▸ hof.1
    | linked bytes' =>
      simp only [hcase, Option.some.injEq] at hbytes hof
      have hwire : bytes = wire := hbytes.symm.trans hof
      exact hwire ▸ prefix_rfl
  · exact hself.lstat_stored.1
  · exact hself.lstat_stored.2
  · intro hnone
    rw [h.bytes_objects] at hnone
    have hwritten : (d.bytes .staging reference.ciphertextID).getD [] =
        (φ reference.ciphertextID).written := by
      rw [h.bytes_staging]
      cases hcase : φ reference.ciphertextID with
      | empty => rfl
      | staged => rfl
      | linked | stored => simp [hcase, Slot.object] at hnone
    have hle : (φ reference.ciphertextID).written.length ≤ wire.length := by
      cases hcase : φ reference.ciphertextID with
      | staged bytes permission =>
        rw [hcase] at hof
        exact hof.1.length_le
      | empty | linked | stored => exact Nat.zero_le _
    rw [hwritten]
    refine ⟨_, covers_blocks wire.length hle (by omega), ?_⟩
    rw [hcalls, Slot.calls, hnone]
  · intro bytes hbytes
    rw [h.bytes_objects] at hbytes
    rw [hcalls, Slot.calls, hbytes]
  · intro data hdata
    obtain ⟨-, hread⟩ := ends_read reference (w := ⟨d, none, []⟩) h
    obtain ⟨hobject, -⟩ := hread data hdata
    cases hcase : φ reference.ciphertextID <;> rw [hcase] at hobject hof <;> cases hobject
    · exact hof
    · exact hof

end

/-! ### A wire without plaintext -/

namespace Sample

/-- The smallest wire there is: a header, and a nonce and a tag of zeros. -/
def wire : List UInt8 :=
  magic ++ List.replicate 15 0 ++ [1] ++ List.replicate 7 0 ++ [1] ++ List.replicate 15 0 ++ [1] ++
    [0, 1] ++ List.replicate 36 0

def reference : Reference := ⟨⟨1, 1, 1, 0⟩, Hex.encode (Sha256.sum wire)⟩

theorem verify_wire : verify wire reference = .ok () := by decide +kernel

/-- A write that stops after forty bytes, a read of what is not there, a `Put` that is refused
further blocks, and one that stops with the whole wire staged. -/
def interrupted : List FileOperation :=
  [.put reference wire none (some (.during 0 40)), .read reference,
   .put reference wire (some fun _ _ => .error .refused) none,
   .put reference wire none (some (.at .afterStageSync 0))]

/-- The link is made, and the call stops before it removes the staged name. -/
def linking : FileOperation := .put reference wire none (some (.at .afterObjectLink 0))

end Sample

open Sample

theorem put_converges_sample :
    let d := run FileOperation.apply Disk.empty interrupted
    let put := putWithWriteAdmission reference wire (some fun _ _ => .ok ()) ⟨d, none, []⟩
    verify wire reference = .ok () ∧ put.1 = .ok () ∧
      (∃ n, put.2.disk.lstat .objects reference.ciphertextID = some (n, ⟨wire, .readOnly, 1⟩)) ∧
      put.2.disk.lstat .staging reference.ciphertextID = none ∧
      ∃ bs, Covers wire.length wire.length bs ∧ put.2.admitted = bs ++ [(wire.length, 0)] := by
  intro d put
  have hstaged : d.bytes .staging reference.ciphertextID = some wire := by decide +kernel
  have hnone : d.bytes .objects reference.ciphertextID = none := by decide +kernel
  have hops : ∀ op ∈ interrupted, op.Agrees reference wire := by
    simp only [interrupted, forall_mem_cons, FileOperation.Agrees]
    simp
  obtain ⟨-, -, hok, hobject, hremoved, hasked, -⟩ :=
    put_converges verify_wire hops (g := fun _ _ => .ok ()) fun _ _ => rfl
  have hcovers := hasked hnone
  rw [hstaged] at hcovers
  exact ⟨verify_wire, hok, hobject, hremoved, hcovers⟩

/-- A `Put` after one that stopped with the link made asks for nothing, not even for the link. -/
theorem put_stored_asks_nothing :
    let d := run FileOperation.apply Disk.empty (interrupted ++ [linking])
    let put := putWithWriteAdmission reference wire (some fun _ _ => .ok ()) ⟨d, none, []⟩
    verify wire reference = .ok () ∧ d.bytes .objects reference.ciphertextID = some wire ∧
      d.bytes .staging reference.ciphertextID = some wire ∧ put.1.isOk = true ∧
      ¬ ∃ bs, put.2.admitted = bs ++ [(wire.length, 0)] := by
  intro d put
  have hadmitted : put.2.admitted = [] := by decide +kernel
  refine ⟨verify_wire, by decide +kernel, by decide +kernel, by decide +kernel, ?_⟩
  rw [hadmitted]
  rintro ⟨bs, hbs⟩
  simp at hbs

end FacetsNode.Custody
