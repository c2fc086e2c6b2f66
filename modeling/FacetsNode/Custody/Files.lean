import FacetsNode.Custody.Wire
import FacetsNode.Lib.GoMap
import FacetsNode.Lib.Run

/-!
# Immutable object files

The file store of immutable custody (`objectcustodyfiles`). An object is written under `staging`,
block by block, made read-only, linked under `objects`, and removed from `staging`. A call can stop
at any of the store's checkpoints or inside a block; what the calls before that did to the disk
stays.

The disk is two directories, from names to inodes, and the inodes with their bytes, permission and
link count. One process owns both directories: between two calls nothing else touches them, and the
directories themselves — which the store compares again and again with the handles it opened — stay
what they were.
-/

namespace FacetsNode.Custody

open Attempt

/-! ## Disks -/

/-- The two modes files of the store have: `0600` and `0400`. -/
inductive Permission where
  | readWrite
  | readOnly
  deriving DecidableEq

structure Inode where
  bytes : List UInt8
  permission : Permission
  links : Nat

inductive Directory where
  | staging
  | objects

structure Disk where
  inodes : GoMap Nat Inode
  (staging objects : GoMap GoString Nat)
  next : Nat

namespace Disk

def empty : Disk := ⟨∅, ∅, ∅, 0⟩

def directory (d : Disk) : Directory → GoMap GoString Nat
  | .staging => d.staging
  | .objects => d.objects

/-- `Lstat`: the inode a name stands for. -/
def lstat (d : Disk) (dir : Directory) (name : GoString) : Option (Nat × Inode) :=
  ((d.directory dir).get? name).bind fun n => (d.inodes.get? n).map fun i => (n, i)

/-- `O_CREATE|O_EXCL` under `staging`, where the name is free. -/
def create (d : Disk) (name : GoString) : Disk :=
  { d with
    inodes := d.inodes.set d.next ⟨[], .readWrite, 1⟩
    staging := d.staging.set name d.next
    next := d.next + 1 }

/-- Change an open file. -/
def alter (d : Disk) (file : Nat) (f : Inode → Inode) : Disk :=
  match d.inodes.get? file with
  | none => d
  | some i => { d with inodes := d.inodes.set file (f i) }

/-- `Write` at a position of an open file. -/
def write (d : Disk) (file offset : Nat) (data : List UInt8) : Disk :=
  d.alter file fun i =>
    { i with bytes := i.bytes.take offset ++ data ++ i.bytes.drop (offset + data.length) }

/-- `Chmod` of an open file. -/
def chmod (d : Disk) (file : Nat) (permission : Permission) : Disk :=
  d.alter file fun i => { i with permission }

end Disk

/-! ## Stops -/

inductive Boundary where
  | afterStageCreate
  | afterStageWrite
  | afterStageSync
  | afterObjectLink
  | afterObjectSync
  | afterStageRemove
  | afterStagingSync
  deriving DecidableEq

/-- Where a call stops: at a checkpoint, after having passed it `count` times, or inside a block
after `count` whole ones. -/
inductive Stop where
  | at (point : Boundary) (count : Nat)
  | during (count bytes : Nat)

inductive FileError where
  | invalid
  | unavailable
  | missing
  -- the call stops here
  | stopped
  -- the admission callback refuses
  | refused

/-- The disk during a call, where the call will stop, and the admission calls it has made. -/
structure World where
  disk : Disk
  stop : Option Stop
  admitted : List (Nat × Nat)

/-- The `admission` callback; `none` is `nil`. -/
abbrev Admission := Option (Nat → Nat → Except FileError Unit)

namespace Store

def checkpoint (point : Boundary) : Attempt World FileError Unit := fun w =>
  match w.stop with
  | some (.at p count) =>
    if p = point then
      match count with
      | 0 => (.error .stopped, w)
      | n + 1 => (.ok (), { w with stop := some (.at p n) })
    else (.ok (), w)
  | _ => (.ok (), w)

/-- `file.Write`, at the position the file was read to or written to so far. -/
def write (file offset : Nat) (data : List UInt8) : Attempt World FileError Unit := fun w =>
  match w.stop with
  | some (.during 0 bytes) =>
    (.error .stopped, { w with disk := w.disk.write file offset (data.take bytes) })
  | some (.during (n + 1) bytes) =>
    (.ok (), { w with disk := w.disk.write file offset data, stop := some (.during n bytes) })
  | _ => (.ok (), { w with disk := w.disk.write file offset data })

/-- Ask for admission, where there is somebody to ask. -/
def askAdmission (admission : Admission) (offset count : Nat) : Attempt World FileError Unit :=
  match admission with
  | none => pure ()
  | some f => do
    modify fun w => { w with admitted := w.admitted ++ [(offset, count)] }
    ofExcept (f offset count)

/-! ## Files -/

def privateFile (i : Inode) (maximumLinks : Nat) (permissions : List Permission) : Bool :=
  1 ≤ i.links && i.links ≤ maximumLinks && permissions.contains i.permission

/-- `stableFile`: the name still stands for the open file. -/
def stableFile (d : Disk) (dir : Directory) (name : GoString) (file : Nat) (maximumLinks : Nat)
    (permissions : List Permission) : Bool :=
  match d.lstat dir name, d.inodes.get? file with
  | some (n, info), some held =>
    privateFile info maximumLinks permissions && privateFile held maximumLinks permissions &&
      n == file
  | _, _ => false

/-- `openRegular`: the inode that was opened. -/
def openRegular (dir : Directory) (name : GoString) (maximumLinks : Nat)
    (permissions : List Permission) : Attempt World FileError Nat := do
  let w ← get
  match w.disk.lstat dir name with
  | none => fail .missing
  | some (n, info) => do
    rejectIf (privateFile info maximumLinks permissions = false) .invalid
    rejectIf (stableFile w.disk dir name n maximumLinks permissions = false) .invalid
    pure n

def openStage (id : GoString) : Attempt World FileError Nat := do
  let w ← get
  match w.disk.staging.get? id with
  | some _ => openRegular .staging id 1 [.readWrite, .readOnly]
  | none => do
    modify fun w => { w with disk := w.disk.create id }
    let created ← get
    rejectIf (stableFile created.disk .staging id w.disk.next 1 [.readWrite] = false) .invalid
    pure w.disk.next

def validateAlias (d : Disk) (id : GoString) (object : Nat) : Bool :=
  match d.inodes.get? object with
  | none => false
  | some held =>
    match d.lstat .staging id with
    | none => held.links == 1
    | some (n, stage) => privateFile stage 2 [.readOnly] && n == object && held.links == 2

/-- The bytes of an open file. -/
def contents (file : Nat) : Attempt World FileError Inode := do
  let w ← get
  match w.disk.inodes.get? file with
  | none => fail .invalid
  | some i => pure i

def readLocked (expected : Reference) : Attempt World FileError (List UInt8) := do
  let file ← openRegular .objects expected.ciphertextID 2 [.readOnly]
  let count := wireOverhead + expected.header.plaintextBytes
  let info ← contents file
  rejectIf (info.bytes.length ≠ count) .invalid
  let data := info.bytes.take (count + 1)
  rejectIf (verify data expected ≠ .ok ()) .invalid
  let w ← get
  rejectIf (stableFile w.disk .objects expected.ciphertextID file 2 [.readOnly] = false) .invalid
  rejectIf (validateAlias w.disk expected.ciphertextID file = false) .invalid
  pure data

/-- Remove the name under `staging`, if it is there; it must stand for the object. -/
def removeStage (id : GoString) (object : Nat) : Attempt World FileError Unit := do
  let w ← get
  match w.disk.lstat .staging id with
  | none => pure ()
  | some (n, _) => do
    rejectIf (n ≠ object) .invalid
    modify fun w => { w with disk :=
      { (w.disk.alter n fun i => { i with links := i.links - 1 }) with
      staging := w.disk.staging.delete id } }

def finish (expected : Reference) : Attempt World FileError Unit := do
  let id := expected.ciphertextID
  let _ ← readLocked expected
  let file ← openRegular .objects id 2 [.readOnly]
  checkpoint .afterObjectSync
  let w ← get
  rejectIf (validateAlias w.disk id file = false) .invalid
  removeStage id file
  checkpoint .afterStageRemove
  checkpoint .afterStagingSync
  let w ← get
  rejectIf (stableFile w.disk .objects id file 1 [.readOnly] = false) .invalid

/-- `root.Link`, from `staging` to `objects` under the same name. -/
def link (id : GoString) : Attempt World FileError Unit := do
  let w ← get
  match w.disk.lstat .staging id, w.disk.objects.get? id with
  | some (n, _), none =>
    modify fun w => { w with disk :=
      { (w.disk.alter n fun i => { i with links := i.links + 1 }) with
      objects := w.disk.objects.set id n } }
  | _, _ => fail .unavailable

/-! ## Operations -/

def blockBytes : Nat := 64 * 1024

/-- The blocks from an offset up to a total, as offset and count. The first argument bounds the
number of rounds; the total is enough. -/
def blocks : Nat → Nat → Nat → List (Nat × Nat)
  | 0, _, _ => []
  | rounds + 1, offset, total =>
    if offset < total then
      (offset, min blockBytes (total - offset)) ::
        blocks rounds (offset + min blockBytes (total - offset)) total
    else []

/-- The loop that compares what is staged with the start of the wire, block by block. -/
def sameStart (staged wire : List UInt8) : Bool :=
  (blocks staged.length 0 staged.length).all fun (offset, count) =>
    slice staged offset (offset + count) == slice wire offset (offset + count)

/-- The loop that writes the rest of the wire. -/
def writeBlocks (id : GoString) (file : Nat) (wire : List UInt8) (admission : Admission) :
    List (Nat × Nat) → Attempt World FileError Unit
  | [] => pure ()
  | (offset, count) :: rest => do
    let w ← get
    rejectIf (stableFile w.disk .staging id file 1 [.readWrite] = false) .invalid
    askAdmission admission offset count
    write file offset (slice wire offset (offset + count))
    checkpoint .afterStageWrite
    writeBlocks id file wire admission rest

def verifyFile (file : Nat) (expected : Reference) : Attempt World FileError Unit := do
  let info ← contents file
  let data := info.bytes.take (wireOverhead + maximumPlaintextBytes + 1)
  rejectIf (verify data expected ≠ .ok ()) .invalid

/-- The part of a `Put` that stages the wire and makes the file read-only. -/
def stage (expected : Reference) (wire : List UInt8) (admission : Admission) :
    Attempt World FileError Nat := do
  let id := expected.ciphertextID
  let file ← openStage id
  checkpoint .afterStageCreate
  let info ← contents file
  rejectIf (info.bytes.length > wire.length) .invalid
  rejectIf (sameStart info.bytes wire = false) .invalid
  rejectIf (info.bytes.length < wire.length ∧ info.permission ≠ .readWrite) .invalid
  writeBlocks id file wire admission (blocks wire.length info.bytes.length wire.length)
  modify fun w => { w with disk := w.disk.chmod file .readOnly }
  pure file

def putWithWriteAdmission (expected : Reference) (wire : List UInt8) (admission : Admission) :
    Attempt World FileError Unit := do
  rejectIf (verify wire expected ≠ .ok ()) .invalid
  let id := expected.ciphertextID
  let w ← get
  match w.disk.lstat .objects id with
  | some _ => finish expected
  | none => do
    let file ← stage expected wire admission
    let w ← get
    rejectIf (stableFile w.disk .staging id file 1 [.readOnly] = false) .invalid
    verifyFile file expected
    checkpoint .afterStageSync
    let w ← get
    rejectIf (stableFile w.disk .staging id file 1 [.readOnly] = false) .invalid
    askAdmission admission wire.length 0
    link id
    checkpoint .afterObjectLink
    finish expected

def read (expected : Reference) : Attempt World FileError (List UInt8) := do
  rejectIf (expected.validate ≠ .ok ()) .invalid
  readLocked expected

end Store

/-! ## Runs -/

/-- A call of the store, and where it stops. -/
inductive FileOperation where
  | put (expected : Reference) (wire : List UInt8) (admission : Admission) (stop : Option Stop)
  | read (expected : Reference)

/-- The disk after the call. -/
def FileOperation.apply : FileOperation → Disk → Disk
  | .put expected wire admission stop, d =>
    (Store.putWithWriteAdmission expected wire admission ⟨d, stop, []⟩).2.disk
  | .read expected, d => (Store.read expected ⟨d, none, []⟩).2.disk

end FacetsNode.Custody
