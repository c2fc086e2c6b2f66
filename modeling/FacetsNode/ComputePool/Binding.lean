import FacetsNode.Lib.Json
import FacetsNode.Lib.P256
import FacetsNode.Relay.Model

/-!
# Bindings of a Space to a Compute Pool

The records of `computepool` that a Shared Space stores, and their validation. Every failed check of
the source is the same `ErrInvalid`, so validation is a Boolean here. The enumerations are types, so
a text outside them cannot be written down.
-/

namespace FacetsNode.ComputePool

open Relay (UUID uuidNil uuidString)

def schemaVersion : Int := 2
def signatureSchemaVersion : Int := 1
def maximumResourceByteCount : Nat := 2 ^ 40
def maximumWallTimeMilliseconds : Nat := 24 * 60 * 60 * 1000
def maximumIdentifierBytes : Nat := 256
def maximumIdentifierCount : Nat := 128

/-! ## Texts -/

def validSHA256Hex (value : GoString) : Bool :=
  value.length == 64 && (Hex.decode value).isSome && value == value.map lowerByte

def validIdentifier (value : GoString) : Bool :=
  Utf8.valid value && Utf8.trimmed value && value != [] && value.length ≤ maximumIdentifierBytes

/-- A strictly increasing list of texts, each of them valid. -/
def increasing (valid : GoString → Bool) : List GoString → Bool
  | [] => true
  | [value] => valid value
  | value :: value' :: rest =>
    valid value && decide (value < value') && increasing valid (value' :: rest)

/-- `validIdentifiers`: sorted, and no text twice in a row. -/
def validIdentifiers (values : List GoString) (optional : Bool) : Bool :=
  values.length ≤ maximumIdentifierCount && increasing validIdentifier values &&
    (optional || values != [])

def validUUIDs (values : List UUID) : Bool :=
  values.length ≤ maximumIdentifierCount && values.all (· ≠ uuidNil) &&
    increasing (fun _ => true) (values.map uuidString)

/-- `validSortedEnum`, of values with these texts. -/
def validSortedEnum (texts : List GoString) : Bool :=
  texts != [] && texts.length ≤ maximumIdentifierCount && increasing (fun _ => true) texts

def validTimestamps (created updated : Int) : Bool := 0 ≤ created && created ≤ updated

/-! ## Ceilings -/

structure ResourceCeiling where
  (maximumInputBytes maximumOutputBytes maximumMemoryBytes maximumWallTimeMilliseconds : Nat)
  deriving DecidableEq

def ResourceCeiling.validate (c : ResourceCeiling) : Bool :=
  0 < c.maximumInputBytes && c.maximumInputBytes ≤ maximumResourceByteCount &&
    0 < c.maximumOutputBytes && c.maximumOutputBytes ≤ maximumResourceByteCount &&
    0 < c.maximumMemoryBytes && c.maximumMemoryBytes ≤ maximumResourceByteCount &&
    0 < c.maximumWallTimeMilliseconds &&
    c.maximumWallTimeMilliseconds ≤ ComputePool.maximumWallTimeMilliseconds

structure BudgetCeiling where
  maximumCostMinorUnits : Nat
  currencyIdentifier : GoString
  deriving DecidableEq

def BudgetCeiling.validate (c : BudgetCeiling) : Bool :=
  c.maximumCostMinorUnits != 0 && validIdentifier c.currencyIdentifier

/-! ## Authority -/

inductive ScopeKind where
  | deviceSync
  | sharedSpace
  | backupCustody
  | computePool
  deriving DecidableEq

structure Scope where
  kind : ScopeKind
  scopeID : UUID
  deriving DecidableEq

structure AuthorityTrustAnchor where
  version : Int
  scope : Scope
  signerID : UUID
  (publicSigningKeyX963 signingKeyFingerprint : GoString)
  deriving DecidableEq

def AuthorityTrustAnchor.validate (a : AuthorityTrustAnchor) : Bool :=
  match Base64Url.canonical a.publicSigningKeyX963 with
  | none => false
  | some publicKey =>
    a.version == signatureSchemaVersion && a.scope.scopeID != uuidNil &&
      a.scope.kind == .computePool && a.signerID != uuidNil && (P256.unmarshal publicKey).isSome &&
      Hex.encode (Sha256.sum publicKey) == a.signingKeyFingerprint

structure AuthorityReference where
  version : Int
  poolID : UUID
  trustAnchor : AuthorityTrustAnchor
  acceptedManifestRevision : Nat
  acceptedManifestDigest : GoString
  deriving DecidableEq

def AuthorityReference.validate (r : AuthorityReference) : Bool :=
  r.version == schemaVersion && r.poolID != uuidNil && r.acceptedManifestRevision != 0 &&
    validSHA256Hex r.acceptedManifestDigest && r.trustAnchor.validate &&
    r.trustAnchor.scope.scopeID == r.poolID

/-! ## Data use -/

inductive PrivacyClass where
  | «public»
  | personal
  | confidential
  | restricted
  deriving DecidableEq

def privacyClasses : List PrivacyClass := [.public, .personal, .confidential, .restricted]

inductive DisclosureAudience where
  | privateInvoker
  | invitedSpace
  | publicAudience
  deriving DecidableEq

inductive PlaintextBoundary where
  | facetsManagedLocalRuntime
  | separateLocalProcess
  | privateInfrastructure
  | externalProvider
  deriving DecidableEq

inductive NetworkEgress where
  | none
  | torNetwork
  | directInternet
  deriving DecidableEq

def NetworkEgress.text : NetworkEgress → GoString
  | .none => goString "none"
  | .torNetwork => goString "tor_network"
  | .directInternet => goString "direct_internet"

inductive TrainingUse where
  | prohibited
  | providerOptOut
  | permitted
  | unknown
  deriving DecidableEq

def TrainingUse.text : TrainingUse → GoString
  | .prohibited => goString "prohibited"
  | .providerOptOut => goString "provider_opt_out"
  | .permitted => goString "permitted"
  | .unknown => goString "unknown"

inductive ToolAccess where
  | none
  | declaredSubset
  | unrestricted
  | unknown
  deriving DecidableEq

def ToolAccess.text : ToolAccess → GoString
  | .none => goString "none"
  | .declaredSubset => goString "declared_subset"
  | .unrestricted => goString "unrestricted"
  | .unknown => goString "unknown"

inductive ResultPolicy where
  | privateToInvoker
  | sharedImportAllowed
  | sharedImportRequired
  deriving DecidableEq

inductive PolicyControl where
  | allowed
  | consentRequired
  | prohibited
  deriving DecidableEq

structure DataUseConstraint where
  privacyClass : PrivacyClass
  audience : DisclosureAudience
  maximumPlaintextBoundary : PlaintextBoundary
  permittedProviderIdentifiers : List GoString
  permittedNetworkEgress : List NetworkEgress
  maximumRequestRetentionMilliseconds : Option Nat
  permittedTrainingUse : List TrainingUse
  permittedToolAccess : List ToolAccess
  resultPolicy : ResultPolicy
  overrideControl : PolicyControl
  deriving DecidableEq

def DataUseConstraint.validate (c : DataUseConstraint) : Bool :=
  validIdentifiers c.permittedProviderIdentifiers true &&
    validSortedEnum (c.permittedNetworkEgress.map NetworkEgress.text) &&
    validSortedEnum (c.permittedTrainingUse.map TrainingUse.text) &&
    validSortedEnum (c.permittedToolAccess.map ToolAccess.text) &&
    c.maximumRequestRetentionMilliseconds != some 0

/-! ## Bindings -/

structure SpaceBinding where
  version : Int
  (bindingID spaceID : UUID)
  poolAuthority : AuthorityReference
  allowedOperations : List GoString
  eligiblePrincipalIDs : List UUID
  (eligibleRoleIdentifiers allowedProviderIdentifiers : List GoString)
  resourceCeiling : ResourceCeiling
  budgetCeiling : BudgetCeiling
  pricingRevision : Nat
  dataUseConstraints : List DataUseConstraint
  (revision sourceAuthorityRevision : Nat)
  (createdAtMilliseconds updatedAtMilliseconds : Int)

def SpaceBinding.validate (b : SpaceBinding) : Bool :=
  b.version == schemaVersion && b.bindingID != uuidNil && b.spaceID != uuidNil &&
    b.pricingRevision != 0 && b.revision != 0 && b.sourceAuthorityRevision != 0 &&
    b.poolAuthority.validate && validIdentifiers b.allowedOperations false &&
    validUUIDs b.eligiblePrincipalIDs && validIdentifiers b.eligibleRoleIdentifiers true &&
    (b.eligiblePrincipalIDs != [] || b.eligibleRoleIdentifiers != []) &&
    validIdentifiers b.allowedProviderIdentifiers false && b.resourceCeiling.validate &&
    b.budgetCeiling.validate &&
    validTimestamps b.createdAtMilliseconds b.updatedAtMilliseconds &&
    b.dataUseConstraints.all DataUseConstraint.validate &&
    b.dataUseConstraints.map DataUseConstraint.privacyClass == privacyClasses

end FacetsNode.ComputePool
