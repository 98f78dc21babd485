import Orbital.AbiRegistry.Attestation

/-! # `abi-registry/src/attestationPolicy.ts`

The attestations for a contract are verified and counted once. Those that a later one of
the same attester supersedes are set aside, and what is left is ranked.
-/

namespace Orbital.AbiRegistry

open Foundation
open Attestation (AttestationInvalidCode)

inductive AttestationExecutableKind
  | wasm
  | stellarAsset
  deriving DecidableEq

def AttestationExecutableKind.text : AttestationExecutableKind → JsString
  | .wasm => js "wasm"
  | .stellarAsset => js "stellarAsset"

/-- An object of the type: it has these members, in any order, and maybe more. -/
structure AttestationDocument where
  members : List (JsString × JsValue)
  distinctKeys : JsonTree.DistinctKeys (.object members)
  contractId : JsString
  executableKind : AttestationExecutableKind
  wasmHash : Option JsString
  events : List JsValue
  attester : JsString
  createdAt : JsString
  expiresAt : Option JsString
  supersedes : Option JsString
  holdsContractId : JsValue.member? members (js "contractId") = some (.leaf (.string contractId))
  holdsExecutableKind : JsValue.member? members (js "executableKind") =
    some (.leaf (.string executableKind.text))
  holdsWasmHash : JsValue.member? members (js "wasmHash") =
    wasmHash.map fun text => .leaf (.string text)
  holdsEvents : JsValue.member? members (js "events") = some (.array events)
  holdsAttester : JsValue.member? members (js "attester") = some (.leaf (.string attester))
  holdsCreatedAt : JsValue.member? members (js "createdAt") = some (.leaf (.string createdAt))
  holdsExpiresAt : JsValue.member? members (js "expiresAt") =
    expiresAt.map fun text => .leaf (.string text)
  holdsSupersedes : JsValue.member? members (js "supersedes") =
    supersedes.map fun text => .leaf (.string text)

/-- `AttestationEnvelope<AttestationDocument>` -/
structure DocumentEnvelope where
  v : JsValue
  payload : AttestationDocument
  publicKey : JsString
  signature : JsString

def DocumentEnvelope.toEnvelope (envelope : DocumentEnvelope) : AttestationEnvelope where
  v := envelope.v
  payload := envelope.payload.members
  publicKey := envelope.publicKey
  signature := envelope.signature

namespace AttestationPolicy

structure Host extends Attestation.Host where
  /-- `text.toLowerCase()` -/
  toLowerCase : JsString → JsString

def attestationDomain : JsString :=
  js "orbital-attestation-v1"

variable (host : Host)

/-! ## `verifyAttestation` -/

abbrev ReferenceTime := Option Int

/-- `attestationExpiryProblem`; nothing has expired at an invalid date. -/
def expiryProblem (document : AttestationDocument) : ReferenceTime → Option AttestationInvalidCode
  | some now => Attestation.attestationExpiryProblem host.toHost document.members now
  | none =>
      (Attestation.attestationExpiryProblem host.toHost document.members 0).filter
        (· = .malformedExpiry)

def wasmHashProblem (document : AttestationDocument) (expected : JsString) :
    Option AttestationInvalidCode :=
  if document.executableKind ≠ .wasm then some .notAWasmAttestation
  else
    match document.wasmHash with
    | none => some .notAWasmAttestation
    | some wasmHash =>
        if host.toLowerCase expected = host.toLowerCase wasmHash then none
        else some .wasmHashMismatch

structure VerifyAttestationOptions where
  expectedWasmHash : Option JsString
  domain : Option JsString
  now : ReferenceTime
  checkExpiry : Bool

/-- None for a verdict that is valid, or why it is not. -/
def verifyAttestation (envelope : DocumentEnvelope) (options : VerifyAttestationOptions) :
    Option AttestationInvalidCode :=
  match Attestation.signatureProblem host.toHost envelope.toEnvelope
      (options.domain.getD attestationDomain) with
  | some code => some code
  | none =>
      match if options.checkExpiry then expiryProblem host envelope.payload options.now else none with
      | some code => some code
      | none => options.expectedWasmHash.bind (wasmHashProblem host envelope.payload)

/-! ## Trust -/

inductive AttestationTrust
  | deployer
  | thirdParty
  | unbound
  deriving DecidableEq

def AttestationTrust.rank : AttestationTrust → Int
  | .deployer => 2
  | .thirdParty => 1
  | .unbound => 0

def classifyAttester (attester : JsString) : Option JsString → AttestationTrust
  | none => .unbound
  | some deployer => if attester = deployer then .deployer else .thirdParty

def meetsMinimumTrust (trust minimum : AttestationTrust) : Bool :=
  minimum.rank ≤ trust.rank

def attestationHash (document : AttestationDocument) : Except CanonicalJsonError JsString := do
  let text ← canonicalizeJson (.object document.members)
  return toHex (host.sha256 (utf8 text))

/-! ## `resolveAttestations` -/

structure ResolveAttestationsOptions where
  contractId : JsString
  deployer : Option JsString
  minimumTrust : Option AttestationTrust
  expectedWasmHash : Option JsString
  domain : Option JsString
  now : ReferenceTime

structure ResolvedAttestation where
  envelope : DocumentEnvelope
  hash : JsString
  trust : AttestationTrust

inductive RejectionCode
  | invalid (code : AttestationInvalidCode)
  | wrongContract
  | belowMinimumTrust
  deriving DecidableEq

structure RejectedAttestation where
  envelope : DocumentEnvelope
  code : RejectionCode

structure ResolveAttestationsResult where
  effective : List ResolvedAttestation
  superseded : List ResolvedAttestation
  rejected : List RejectedAttestation
  preferred : Option ResolvedAttestation
  conflicting : Bool

variable (options : ResolveAttestationsOptions)

def verdict (envelope : DocumentEnvelope) : Option AttestationInvalidCode :=
  verifyAttestation host envelope
    { domain := options.domain
      now := options.now
      expectedWasmHash := options.expectedWasmHash
      checkExpiry := false }

structure Collected where
  candidates : List ResolvedAttestation
  rejected : List RejectedAttestation
  seen : List JsString

def candidateKey (envelope : DocumentEnvelope) (hash : JsString) : JsString :=
  envelope.publicKey ++ js ":" ++ hash

def Collected.add (collected : Collected) (envelope : DocumentEnvelope) :
    Except CanonicalJsonError Collected :=
  match verdict host options envelope with
  | some code =>
      .ok { collected with rejected := collected.rejected ++ [⟨envelope, .invalid code⟩] }
  | none =>
      if envelope.payload.contractId ≠ options.contractId then
        .ok { collected with rejected := collected.rejected ++ [⟨envelope, .wrongContract⟩] }
      else do
        let hash ← attestationHash host envelope.payload
        if candidateKey envelope hash ∈ collected.seen then return collected
        return { collected with
          seen := candidateKey envelope hash :: collected.seen
          candidates := collected.candidates ++
            [⟨envelope, hash, classifyAttester envelope.payload.attester options.deployer⟩] }

/-- `replacement` retires `original`, if they are two candidates. -/
def supersedes (replacement original : ResolvedAttestation) : Bool :=
  match replacement.envelope.payload.supersedes with
  | none => false
  | some target =>
      original.hash == host.toLowerCase target &&
        original.envelope.payload.attester == replacement.envelope.payload.attester

def retiredPlaces (candidates : List ResolvedAttestation) : List Nat :=
  candidates.zipIdx.flatMap fun replacement =>
    (candidates.zipIdx.filter fun original =>
      original.2 ≠ replacement.2 ∧ supersedes host replacement.1 original.1).map Prod.snd

def dropped (candidate : ResolvedAttestation) : Option RejectionCode :=
  match expiryProblem host candidate.envelope.payload options.now with
  | some code => some (.invalid code)
  | none =>
      if meetsMinimumTrust candidate.trust (options.minimumTrust.getD .unbound) then none
      else some .belowMinimumTrust

def createdAtMs (resolved : ResolvedAttestation) : Int :=
  (host.dateParse resolved.envelope.payload.createdAt).getD 0

def compareResolved (first second : ResolvedAttestation) : Int :=
  let byTrust := second.trust.rank - first.trust.rank
  if byTrust ≠ 0 then byTrust
  else
    let byTime := createdAtMs host second - createdAtMs host first
    if byTime ≠ 0 then byTime
    else if ¬JsString.Le second.hash first.hash then -1
    else if ¬JsString.Le first.hash second.hash then 1
    else 0

/-- The first argument of a sort may stay in front of the second. -/
def InOrder (first second : ResolvedAttestation) : Prop :=
  compareResolved host first second ≤ 0

instance : DecidableRel (InOrder host) := fun first second =>
  inferInstanceAs (Decidable (compareResolved host first second ≤ 0))

def resolveAttestations (envelopes : List DocumentEnvelope) :
    Except CanonicalJsonError ResolveAttestationsResult := do
  let collected ← envelopes.foldlM (Collected.add host options) ⟨[], [], []⟩
  let retired := retiredPlaces host collected.candidates
  let superseded := collected.candidates.zipIdx.filter fun candidate => candidate.2 ∈ retired
  let others := collected.candidates.zipIdx.filter fun candidate => candidate.2 ∉ retired
  let others := others.map Prod.fst
  let rejected := others.filterMap fun candidate =>
    (dropped host options candidate).map (⟨candidate.envelope, ·⟩)
  let effective := others.filter fun candidate => (dropped host options candidate).isNone
  let effective := effective.insertionSort (InOrder host)
  let events ← effective.mapM fun resolved =>
    canonicalizeJson (.array resolved.envelope.payload.events)
  return {
    effective := effective
    superseded := superseded.map Prod.fst
    rejected := collected.rejected ++ rejected
    preferred := effective.head?
    conflicting := 1 < events.dedup.length }

end AttestationPolicy

end Orbital.AbiRegistry
