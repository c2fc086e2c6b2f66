import FacetsNode.Lib.Attempt
import FacetsNode.Relay.Model

/-!
# Immutable object wires

The bounded opaque ciphertexts custody stores (`objectcustodywire`). A wire is a fixed header, a
nonce, the ciphertext and a tag; custody reads the header and hashes the whole, and knows nothing
else about it. A reference names a wire by the header it starts with and the digest of its bytes.
-/

namespace FacetsNode.Custody

open Relay (UUID uuidNil)

def headerBytes : Nat := 54
def wireOverhead : Nat := headerBytes + 12 + 16
def maximumPlaintextBytes : Nat := 4 * 1024 * 1024
def magic : List UInt8 := [0x46, 0x43, 0x4f, 0x01]

inductive WireError where
  | header
  | wire
  | reference
  deriving DecidableEq

/-- `Header`; the two counts are below `2 ^ 64`. -/
structure Header where
  scopeID : UUID
  contentEpoch : Nat
  incarnationID : UUID
  plaintextBytes : Nat
  deriving DecidableEq

namespace Header

def validate (h : Header) : Except WireError Unit :=
  if h.scopeID = uuidNil ∨ h.incarnationID = uuidNil ∨ h.contentEpoch = 0 ∨
      h.plaintextBytes > maximumPlaintextBytes then
    .error .header
  else .ok ()

end Header

/-- The identifier sixteen bytes spell. -/
def uuidOfBytes (bytes : List UInt8) : UUID := BitVec.ofNat 128 (readBeUint64 bytes)

/-- The bytes from one position to another. -/
def slice (bytes : List UInt8) (start stop : Nat) : List UInt8 := (bytes.take stop).drop start

def decodeHeader (encoded : List UInt8) : Except WireError Header := do
  if encoded.length ≠ headerBytes ∨ slice encoded 0 4 ≠ magic ∨ slice encoded 44 46 ≠ [0, 1] then
    .error .header
  let h : Header :=
    { scopeID := uuidOfBytes (slice encoded 4 20)
      contentEpoch := readBeUint64 (slice encoded 20 28)
      incarnationID := uuidOfBytes (slice encoded 28 44)
      plaintextBytes := readBeUint64 (slice encoded 46 54) }
  h.validate
  .ok h

structure Reference where
  header : Header
  ciphertextID : GoString
  deriving DecidableEq

/-- A digest in lower-case hexadecimal. -/
def validDigest (value : GoString) : Bool :=
  (Hex.decode value).any fun decoded => decoded.length == 32 && Hex.encode decoded == value

def Reference.validate (r : Reference) : Except WireError Unit := do
  r.header.validate
  if validDigest r.ciphertextID = false then .error .reference else .ok ()

def inspect (wire : List UInt8) : Except WireError Reference :=
  if wire.length < wireOverhead ∨ wire.length > wireOverhead +
    maximumPlaintextBytes then .error .wire
  else do
    let h ← decodeHeader (wire.take headerBytes)
    if wire.length ≠ wireOverhead + h.plaintextBytes then .error .wire
    else .ok ⟨h, Hex.encode (Sha256.sum wire)⟩

def verify (wire : List UInt8) (expected : Reference) : Except WireError Unit := do
  expected.validate
  let actual ← inspect wire
  if actual ≠ expected then .error .reference else .ok ()

/-- What a verified wire is. -/
theorem verify_eq_ok {wire : List UInt8} {r : Reference} (h : verify wire r = .ok ()) :
    r.validate = .ok () ∧ inspect wire = .ok r ∧ r.ciphertextID = Hex.encode (Sha256.sum wire) ∧
      wire.length = wireOverhead + r.header.plaintextBytes ∧
      wire.length ≤ wireOverhead + maximumPlaintextBytes := by
  obtain ⟨_, hvalid, h⟩ := bind_eq_ok.mp h
  obtain ⟨actual, hinspect, h⟩ := bind_eq_ok.mp h
  have hsame : actual = r := by
    by_contra hne
    rw [if_pos hne] at h
    cases h
  subst hsame
  refine ⟨hvalid, hinspect, ?_⟩
  unfold inspect at hinspect
  split at hinspect
  · cases hinspect
  · rename_i hbounds
    rw [not_or, not_lt, not_lt] at hbounds
    obtain ⟨header, _, hinspect⟩ := bind_eq_ok.mp hinspect
    split at hinspect
    · cases hinspect
    · rename_i hlength
      cases hinspect
      exact ⟨rfl, not_not.mp hlength, hbounds.2⟩

end FacetsNode.Custody
