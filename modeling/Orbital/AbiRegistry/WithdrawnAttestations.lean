import Orbital.AbiRegistry.AttestationPolicy
import Orbital.Foundation.Fallible
import Orbital.Foundation.WellFormedText

/-! # Which attestations stay withdrawn

An attester withdraws an attestation by another one that names its hash.
`resolveAttestations` looks for it among the envelopes that pass the check of the WASM
hash too, so that an attestation is effective although a signed one withdraws it.
-/

namespace Orbital.AbiRegistry.AttestationPolicy

open Foundation
open Attestation (AttestationInvalidCode)

section Definitions

variable (host : Host) (options : ResolveAttestationsOptions)

def SignatureValid (envelope : DocumentEnvelope) : Prop :=
  Attestation.signatureProblem host.toHost envelope.toEnvelope
    (options.domain.getD attestationDomain) = none

/-- The replacement is another document of the attester about the contract, and names the
hash of the original in letters of either case. -/
structure Withdraws (replacement original : DocumentEnvelope) : Prop where
  contract : replacement.payload.contractId = original.payload.contractId
  attester : replacement.payload.attester = original.payload.attester
  other : attestationHash host replacement.payload ≠ attestationHash host original.payload
  names : ∃ target ∈ replacement.payload.supersedes,
    attestationHash host original.payload = .ok (host.toLowerCase target)

structure Passes (envelope : DocumentEnvelope) : Prop where
  verdict : verdict host options envelope = none
  contract : envelope.payload.contractId = options.contractId
  expiry : expiryProblem host envelope.payload options.now = none
  trust : meetsMinimumTrust (classifyAttester envelope.payload.attester options.deployer)
    (options.minimumTrust.getD .unbound) = true

/-- The digests of two canonical texts that are listed differ if the texts do. -/
def NoCollision (envelopes : List DocumentEnvelope) : Prop :=
  ∀ first ∈ envelopes, ∀ second ∈ envelopes, ∀ text other,
    canonicalizeJson (.object first.payload.members) = .ok text →
    canonicalizeJson (.object second.payload.members) = .ok other →
    host.sha256 (utf8 text) = host.sha256 (utf8 other) → utf8 text = utf8 other

structure StaysWithdrawn (envelopes : List DocumentEnvelope)
    (result : ResolveAttestationsResult) : Prop where
  resolved : resolveAttestations host options envelopes = .ok result
  effective : ∀ resolved ∈ result.effective, ∀ replacement ∈ envelopes,
    SignatureValid host options replacement → ¬ Withdraws host replacement resolved.envelope
  superseded : ∀ resolved ∈ result.superseded, ∃ replacement ∈ envelopes,
    SignatureValid host options replacement ∧ Withdraws host replacement resolved.envelope

end Definitions

variable {host : Host} {options : ResolveAttestationsOptions}

/-! ## Envelopes -/

variable {envelope first second : DocumentEnvelope}

theorem signatureValid_of_verdict (valid : verdict host options envelope = none) :
    SignatureValid host options envelope := by
  rw [verdict, verifyAttestation] at valid
  split at valid
  · cases valid
  · assumption

theorem verdict_of_signatureValid (valid : SignatureValid host options envelope) :
    verdict host options envelope =
      options.expectedWasmHash.bind (wasmHashProblem host envelope.payload) := by
  rw [SignatureValid] at valid
  rw [verdict, verifyAttestation]
  simp [valid]

theorem publicKey_of_signatureValid (valid : SignatureValid host options envelope) :
    envelope.publicKey = envelope.payload.attester := by
  have named := (Attestation.signed_of_signatureProblem valid).1
  simp only [DocumentEnvelope.toEnvelope, envelope.payload.holdsAttester, Attestation.isText] at named
  exact (beq_iff_eq.mp named).symm

theorem canonical_of_signatureValid (valid : SignatureValid host options envelope) :
    ∃ text, canonicalizeJson (.object envelope.payload.members) = .ok text :=
  Attestation.canonicalizeJson_of_signed (Attestation.signed_of_signatureProblem valid).2

theorem attestationHash_eq_ok {document : AttestationDocument} {hash : JsString} :
    attestationHash host document = .ok hash ↔
      ∃ text, canonicalizeJson (.object document.members) = .ok text ∧
        toHex (host.sha256 (utf8 text)) = hash := by
  rw [attestationHash]
  cases canonicalizeJson (.object document.members) with
  | error error => simp [bind, Except.bind]
  | ok text => simp [bind, Except.bind, pure, Except.pure]

theorem wellFormed_of_canonicalizeJson {value : JsValue} {text : JsString}
    (distinct : value.DistinctKeys) (canonical : canonicalizeJson value = .ok text) :
    WellFormed text := by
  rcases CanonicalJson.textOf_serialize distinct canonical with ⟨tree, rfl, -⟩
  exact WellFormed.print tree

theorem sameData_of_hash {envelopes : List DocumentEnvelope}
    (noCollision : NoCollision host envelopes) (isFirst : first ∈ envelopes)
    (isSecond : second ∈ envelopes) {hash : JsString}
    (hashed : attestationHash host first.payload = .ok hash)
    (hashed' : attestationHash host second.payload = .ok hash) :
    JsValue.SameData (.object first.payload.members) (.object second.payload.members) := by
  rcases attestationHash_eq_ok.mp hashed with ⟨text, canonical, rfl⟩
  rcases attestationHash_eq_ok.mp hashed' with ⟨other, canonical', same⟩
  have digests := congrArg leadingHex same
  rw [leadingHex_toHex, leadingHex_toHex] at digests
  have bytes := noCollision first isFirst second isSecond text other canonical canonical'
    digests.symm
  have wellFormed := wellFormed_of_canonicalizeJson first.payload.distinctKeys canonical
  have wellFormed' := wellFormed_of_canonicalizeJson second.payload.distinctKeys canonical'
  cases WellFormed.utf8_inj wellFormed wellFormed' bytes
  exact @sameData_of_canonicalizeJson_eq _ ⟨_, first.payload.distinctKeys⟩
    ⟨_, second.payload.distinctKeys⟩ canonical canonical'

theorem text_of_sameData {first second : List (JsString × JsValue)}
    (same : JsValue.SameData (.object first) (.object second)) {key : JsString}
    {left right : Option JsString}
    (holds : JsValue.member? first key = left.map fun text => .leaf (.string text))
    (holds' : JsValue.member? second key = right.map fun text => .leaf (.string text)) :
    left = right := by
  cases same with
  | object keys members =>
      have both := keys key
      rw [holds, holds'] at both
      rcases left with - | left <;> rcases right with - | right
      · rfl
      · cases both
      · cases both
      · have member := members key _ _ holds holds'
        cases member with
        | leaf texts =>
            cases texts
            rfl

theorem expiryProblem_congr {first second : AttestationDocument}
    (same : JsValue.SameData (.object first.members) (.object second.members)) :
    expiryProblem host first = expiryProblem host second := by
  have expiresAt := text_of_sameData same first.holdsExpiresAt second.holdsExpiresAt
  have members : JsValue.member? first.members (js "expiresAt") =
      JsValue.member? second.members (js "expiresAt") := by
    rw [first.holdsExpiresAt, second.holdsExpiresAt, expiresAt]
  funext now
  cases now <;> simp [expiryProblem, Attestation.attestationExpiryProblem, members]

theorem colon_notMem_toHex (bytes : Bytes) : (0x3A : CodeUnit) ∉ toHex bytes := by
  intro member
  have digit := (hexPairs_toHex bytes).2 _ member
  revert digit
  decide

theorem candidateKey_inj {bytes other : Bytes}
    (same : candidateKey first (toHex bytes) = candidateKey second (toHex other)) :
    first.publicKey = second.publicKey ∧ toHex bytes = toHex other := by
  have behind : ∀ (envelope : DocumentEnvelope) (bytes : Bytes),
      (candidateKey envelope (toHex bytes)).reverse.takeWhile (· != 0x3A) =
        (toHex bytes).reverse := by
    intro envelope bytes
    have noColon : ∀ unit ∈ (toHex bytes).reverse, (unit != 0x3A) = true := by
      intro unit member
      have inside := List.mem_reverse.mp member
      exact bne_iff_ne.mpr fun colon => colon_notMem_toHex bytes (colon ▸ inside)
    rw [candidateKey, List.reverse_append, List.reverse_append,
      List.takeWhile_append_of_pos noColon]
    exact List.append_nil _
  have hashes : toHex bytes = toHex other := by
    rw [← List.reverse_inj, ← behind first bytes, same, behind]
  rw [candidateKey, candidateKey, hashes, List.append_cancel_right_eq,
    List.append_cancel_right_eq] at same
  exact ⟨same, hashes⟩

/-! ## The candidates -/

def Eligible (host : Host) (options : ResolveAttestationsOptions) (envelope : DocumentEnvelope) :
    Prop :=
  verdict host options envelope = none ∧ envelope.payload.contractId = options.contractId

def ResolvedAttestation.key (candidate : ResolvedAttestation) : JsString :=
  candidateKey candidate.envelope candidate.hash

structure Collected.Gathers (host : Host) (options : ResolveAttestationsOptions)
    (done : List DocumentEnvelope) (collected : Collected) : Prop where
  member : ∀ candidate ∈ collected.candidates, candidate.envelope ∈ done
  eligible : ∀ candidate ∈ collected.candidates, Eligible host options candidate.envelope
  hashed : ∀ candidate ∈ collected.candidates,
    attestationHash host candidate.envelope.payload = .ok candidate.hash
  trust : ∀ candidate ∈ collected.candidates,
    candidate.trust = classifyAttester candidate.envelope.payload.attester options.deployer
  complete : ∀ envelope ∈ done, Eligible host options envelope →
    ∃ candidate ∈ collected.candidates, candidate.envelope.publicKey = envelope.publicKey ∧
      attestationHash host envelope.payload = .ok candidate.hash
  seen : ∀ key, key ∈ collected.seen ↔ key ∈ collected.candidates.map ResolvedAttestation.key
  nodup : (collected.candidates.map ResolvedAttestation.key).Nodup

namespace Collected.Gathers

variable {done : List DocumentEnvelope} {collected : Collected} {envelope : DocumentEnvelope}

theorem empty : Gathers host options [] ⟨[], [], []⟩ := by
  constructor <;> simp

theorem skip (gathers : collected.Gathers host options done)
    (rejected : List RejectedAttestation)
    (known : Eligible host options envelope → ∃ candidate ∈ collected.candidates,
      candidate.envelope.publicKey = envelope.publicKey ∧
        attestationHash host envelope.payload = .ok candidate.hash) :
    ({ collected with rejected } : Collected).Gathers host options (done ++ [envelope]) where
  member candidate inside := List.mem_append_left _ (gathers.member candidate inside)
  eligible := gathers.eligible
  hashed := gathers.hashed
  trust := gathers.trust
  complete other inside eligible := by
    rcases List.mem_append.mp inside with earlier | last
    · exact gathers.complete other earlier eligible
    · cases List.mem_singleton.mp last
      exact known eligible
  seen := gathers.seen
  nodup := gathers.nodup

theorem push (gathers : collected.Gathers host options done)
    (eligible : Eligible host options envelope) {hash : JsString}
    (hashed : attestationHash host envelope.payload = .ok hash)
    (unseen : candidateKey envelope hash ∉ collected.seen) :
    ({ collected with
        seen := candidateKey envelope hash :: collected.seen
        candidates := collected.candidates ++
          [⟨envelope, hash, classifyAttester envelope.payload.attester options.deployer⟩] } :
      Collected).Gathers host options (done ++ [envelope]) where
  member candidate inside := by
    rcases List.mem_append.mp inside with earlier | last
    · exact List.mem_append_left _ (gathers.member candidate earlier)
    · cases List.mem_singleton.mp last
      simp
  eligible := by simpa [or_imp, forall_and] using ⟨gathers.eligible, eligible⟩
  hashed := by simpa [or_imp, forall_and] using ⟨gathers.hashed, hashed⟩
  trust := by simpa [or_imp, forall_and] using gathers.trust
  complete other inside isEligible := by
    rcases List.mem_append.mp inside with earlier | last
    · rcases gathers.complete other earlier isEligible with ⟨candidate, isCandidate, same⟩
      exact ⟨candidate, List.mem_append_left _ isCandidate, same⟩
    · cases List.mem_singleton.mp last
      exact ⟨_, List.mem_append_right _ List.mem_cons_self, rfl, hashed⟩
  seen key := by simp [gathers.seen, ResolvedAttestation.key, or_comm]
  nodup := by
    rw [List.map_append, List.nodup_append_comm]
    refine List.nodup_cons.mpr ⟨?_, gathers.nodup⟩
    exact fun inside => unseen ((gathers.seen _).mpr inside)

theorem add (gathers : collected.Gathers host options done) (envelope : DocumentEnvelope) :
    ∃ next, collected.add host options envelope = .ok next ∧
      next.Gathers host options (done ++ [envelope]) := by
  rw [Collected.add]
  cases valid : verdict host options envelope with
  | some code =>
      refine ⟨_, rfl, gathers.skip _ fun eligible => ?_⟩
      rw [eligible.1] at valid
      cases valid
  | none =>
      by_cases foreign : envelope.payload.contractId ≠ options.contractId
      · rw [if_pos foreign]
        exact ⟨_, rfl, gathers.skip _ fun eligible => absurd eligible.2 foreign⟩
      · rw [if_neg foreign]
        rcases canonical_of_signatureValid (signatureValid_of_verdict valid) with
          ⟨text, canonical⟩
        have hashed : attestationHash host envelope.payload =
            .ok (toHex (host.sha256 (utf8 text))) :=
          attestationHash_eq_ok.mpr ⟨text, canonical, rfl⟩
        rw [hashed]
        by_cases repeated :
            candidateKey envelope (toHex (host.sha256 (utf8 text))) ∈ collected.seen
        · refine ⟨collected, if_pos repeated, gathers.skip collected.rejected fun _ => ?_⟩
          rcases List.mem_map.mp ((gathers.seen _).mp repeated) with ⟨candidate, inside, same⟩
          rcases attestationHash_eq_ok.mp (gathers.hashed candidate inside) with
            ⟨other, -, isHash⟩
          rw [ResolvedAttestation.key, ← isHash] at same
          rcases candidateKey_inj same with ⟨publicKey, hash⟩
          exact ⟨candidate, inside, publicKey, by rw [hashed, ← isHash, hash]⟩
        · exact ⟨_, if_neg repeated,
            gathers.push ⟨valid, not_not.mp foreign⟩ hashed repeated⟩

theorem foldlM (gathers : collected.Gathers host options done)
    (envelopes : List DocumentEnvelope) :
    ∃ next, envelopes.foldlM (Collected.add host options) collected = .ok next ∧
      next.Gathers host options (done ++ envelopes) := by
  induction envelopes generalizing done collected with
  | nil => exact ⟨collected, rfl, by rwa [List.append_nil]⟩
  | cons envelope rest induction =>
      rcases gathers.add envelope with ⟨next, added, gathered⟩
      rcases induction gathered with ⟨last, run, all⟩
      refine ⟨last, ?_, by simpa using all⟩
      rw [List.foldlM_cons, added]
      exact run

end Collected.Gathers

/-! ## What is retired -/

def Retired (host : Host) (candidates : List ResolvedAttestation)
    (original : ResolvedAttestation) : Prop :=
  ∃ replacement ∈ candidates, supersedes host replacement original = true ∧
    replacement.hash ≠ original.hash

section Retired

variable {envelopes : List DocumentEnvelope} {collected : Collected}

theorem supersedes_iff {replacement original : ResolvedAttestation} :
    supersedes host replacement original = true ↔
      (∃ target ∈ replacement.envelope.payload.supersedes,
        original.hash = host.toLowerCase target) ∧
      original.envelope.payload.attester = replacement.envelope.payload.attester := by
  rw [supersedes]
  cases replacement.envelope.payload.supersedes <;> simp

theorem mem_retiredPlaces {candidates : List ResolvedAttestation} {place : Nat} :
    place ∈ retiredPlaces host candidates ↔
      ∃ original replacement other, candidates[place]? = some original ∧
        candidates[other]? = some replacement ∧ place ≠ other ∧
        supersedes host replacement original = true := by
  simp only [retiredPlaces, List.mem_flatMap, List.mem_map, List.mem_filter, decide_eq_true_eq,
    List.mem_zipIdx_iff_getElem?, Prod.exists]
  constructor
  · rintro ⟨replacement, other, atOther, original, same, ⟨atPlace, distinct, retires⟩, rfl⟩
    exact ⟨original, replacement, other, atPlace, atOther, distinct, retires⟩
  · rintro ⟨original, replacement, other, atPlace, atOther, distinct, retires⟩
    exact ⟨replacement, other, atOther, original, place, ⟨atPlace, distinct, retires⟩, rfl⟩

namespace Collected.Gathers

theorem publicKey (gathers : collected.Gathers host options envelopes)
    {candidate : ResolvedAttestation} (inside : candidate ∈ collected.candidates) :
    candidate.envelope.publicKey = candidate.envelope.payload.attester :=
  publicKey_of_signatureValid (signatureValid_of_verdict (gathers.eligible candidate inside).1)

theorem mem_retiredPlaces_iff (gathers : collected.Gathers host options envelopes)
    {place : Nat} {original : ResolvedAttestation}
    (atPlace : collected.candidates[place]? = some original) :
    place ∈ retiredPlaces host collected.candidates ↔
      Retired host collected.candidates original := by
  rw [mem_retiredPlaces]
  constructor
  · rintro ⟨found, replacement, other, atFound, atOther, distinct, retires⟩
    cases atPlace.symm.trans atFound
    have isOriginal := List.mem_of_getElem? atPlace
    have isReplacement := List.mem_of_getElem? atOther
    refine ⟨replacement, isReplacement, retires, fun hash => distinct ?_⟩
    have attester := (supersedes_iff.mp retires).2
    have key : original.key = replacement.key := by
      rw [ResolvedAttestation.key, ResolvedAttestation.key, candidateKey, candidateKey,
        gathers.publicKey isOriginal, gathers.publicKey isReplacement, attester, hash]
    have keys : (collected.candidates.map ResolvedAttestation.key)[place]? =
        (collected.candidates.map ResolvedAttestation.key)[other]? := by
      rw [List.getElem?_map, List.getElem?_map, atPlace, atOther]
      exact congrArg some key
    have within : place < (collected.candidates.map ResolvedAttestation.key).length := by
      simpa using (List.getElem?_eq_some_iff.mp atPlace).1
    exact (List.getElem?_inj within gathers.nodup).mp keys
  · rintro ⟨replacement, isReplacement, retires, distinct⟩
    rcases List.mem_iff_getElem?.mp isReplacement with ⟨other, atOther⟩
    refine ⟨original, replacement, other, atPlace, atOther, ?_, retires⟩
    rintro rfl
    cases atPlace.symm.trans atOther
    exact distinct rfl

end Collected.Gathers

theorem dropped_eq_none_iff {candidate : ResolvedAttestation} :
    dropped host options candidate = none ↔
      expiryProblem host candidate.envelope.payload options.now = none ∧
        meetsMinimumTrust candidate.trust (options.minimumTrust.getD .unbound) = true := by
  rw [dropped]
  cases expiryProblem host candidate.envelope.payload options.now <;> simp

theorem mem_split {candidates : List ResolvedAttestation} {keep : Nat → Bool}
    {condition : ResolvedAttestation → Prop} {candidate : ResolvedAttestation}
    (kept : ∀ place candidate, candidates[place]? = some candidate →
      (keep place = true ↔ condition candidate)) :
    candidate ∈ (candidates.zipIdx.filter fun item => keep item.2).map Prod.fst ↔
      candidate ∈ candidates ∧ condition candidate := by
  simp only [List.mem_map, List.mem_filter, List.mem_zipIdx_iff_getElem?, Prod.exists]
  constructor
  · rintro ⟨found, place, ⟨atPlace, isKept⟩, rfl⟩
    exact ⟨List.mem_of_getElem? atPlace, (kept place _ atPlace).mp isKept⟩
  · rintro ⟨inside, holds⟩
    rcases List.mem_iff_getElem?.mp inside with ⟨place, atPlace⟩
    exact ⟨candidate, place, ⟨atPlace, (kept place _ atPlace).mpr holds⟩, rfl⟩

theorem resolveAttestations_spec (host : Host) (options : ResolveAttestationsOptions)
    (envelopes : List DocumentEnvelope) :
    ∃ collected result, Collected.Gathers host options envelopes collected ∧
      resolveAttestations host options envelopes = .ok result ∧
      (∀ candidate, candidate ∈ result.effective ↔ candidate ∈ collected.candidates ∧
        ¬ Retired host collected.candidates candidate ∧
        dropped host options candidate = none) ∧
      ∀ candidate, candidate ∈ result.superseded ↔ candidate ∈ collected.candidates ∧
        Retired host collected.candidates candidate := by
  rcases (@Collected.Gathers.empty host options).foldlM envelopes with
    ⟨collected, run, gathers⟩
  rw [List.nil_append] at gathers
  have retired : ∀ place candidate, collected.candidates[place]? = some candidate →
      (decide (place ∈ retiredPlaces host collected.candidates) = true ↔
        Retired host collected.candidates candidate) := by
    intro place candidate atPlace
    rw [decide_eq_true_eq, gathers.mem_retiredPlaces_iff atPlace]
  have others : ∀ place candidate, collected.candidates[place]? = some candidate →
      (decide (place ∉ retiredPlaces host collected.candidates) = true ↔
        ¬ Retired host collected.candidates candidate) := by
    intro place candidate atPlace
    rw [decide_eq_true_eq, gathers.mem_retiredPlaces_iff atPlace]
  rw [resolveAttestations, run]
  dsimp only [bind, Except.bind]
  generalize isEffective : List.insertionSort (InOrder host) _ = effective
  have members : ∀ candidate, candidate ∈ effective ↔ candidate ∈ collected.candidates ∧
      ¬ Retired host collected.candidates candidate ∧ dropped host options candidate = none := by
    intro candidate
    rw [← isEffective, List.mem_insertionSort, List.mem_filter, mem_split others, and_assoc,
      Option.isNone_iff_eq_none]
  have written : ∀ candidate ∈ effective, ∃ text,
      canonicalizeJson (.array candidate.envelope.payload.events) = .ok text := by
    intro candidate inside
    rcases attestationHash_eq_ok.mp (gathers.hashed candidate ((members candidate).mp inside).1)
      with ⟨text, canonical, -⟩
    exact canonicalizeJson_member canonical candidate.envelope.payload.holdsEvents
  rcases mapM_eq_ok written with ⟨events, areEvents⟩
  rw [areEvents]
  exact ⟨collected, _, gathers, rfl, members, fun candidate => mem_split retired⟩

end Retired

/-! ## Withdrawal -/

theorem Withdraws.congr {replacement : DocumentEnvelope}
    (withdraws : Withdraws host replacement first)
    (contract : first.payload.contractId = second.payload.contractId)
    (attester : first.payload.attester = second.payload.attester)
    (hash : attestationHash host first.payload = attestationHash host second.payload) :
    Withdraws host replacement second :=
  ⟨withdraws.contract.trans contract, withdraws.attester.trans attester,
    hash ▸ withdraws.other, hash ▸ withdraws.names⟩

section Withdrawal

variable {envelopes : List DocumentEnvelope} {collected : Collected}
  {original : ResolvedAttestation}

namespace Collected.Gathers

theorem withdraws_of_retired (gathers : collected.Gathers host options envelopes)
    (isOriginal : original ∈ collected.candidates)
    (retired : Retired host collected.candidates original) :
    ∃ replacement ∈ envelopes, verdict host options replacement = none ∧
      Withdraws host replacement original.envelope := by
  rcases retired with ⟨replacement, inside, retires, distinct⟩
  rcases supersedes_iff.mp retires with ⟨⟨target, isTarget, names⟩, attester⟩
  have hashed := gathers.hashed original isOriginal
  have contract := (gathers.eligible original isOriginal).2
  refine ⟨replacement.envelope, gathers.member replacement inside,
    (gathers.eligible replacement inside).1, ?_, attester.symm, ?_, target, isTarget, ?_⟩
  · rw [(gathers.eligible replacement inside).2, contract]
  · rw [gathers.hashed replacement inside, hashed]
    exact fun same => distinct (Except.ok.inj same)
  · rw [hashed, names]

theorem retired_of_withdraws (gathers : collected.Gathers host options envelopes)
    (noCollision : NoCollision host envelopes) (isOriginal : original ∈ collected.candidates)
    {replacement : DocumentEnvelope} (inside : replacement ∈ envelopes)
    (valid : verdict host options replacement = none)
    (withdraws : Withdraws host replacement original.envelope) :
    Retired host collected.candidates original := by
  have contract := withdraws.contract.trans (gathers.eligible original isOriginal).2
  rcases gathers.complete replacement inside ⟨valid, contract⟩ with
    ⟨candidate, isCandidate, publicKey, hashed⟩
  have candidateHash := gathers.hashed candidate isCandidate
  have same := sameData_of_hash noCollision inside (gathers.member candidate isCandidate) hashed
    candidateHash
  have target := text_of_sameData same replacement.payload.holdsSupersedes
    candidate.envelope.payload.holdsSupersedes
  have originalHash := gathers.hashed original isOriginal
  refine ⟨candidate, isCandidate, supersedes_iff.mpr ⟨?_, ?_⟩, fun equal => ?_⟩
  · rcases withdraws.names with ⟨named, isNamed, names⟩
    rw [originalHash] at names
    exact ⟨named, target ▸ isNamed, Except.ok.inj names⟩
  · rw [← gathers.publicKey isCandidate, publicKey,
      publicKey_of_signatureValid (signatureValid_of_verdict valid), withdraws.attester]
  · apply withdraws.other
    rw [hashed, originalHash, equal]

theorem candidate_of_passes (gathers : collected.Gathers host options envelopes)
    (noCollision : NoCollision host envelopes) {envelope : DocumentEnvelope}
    (inside : envelope ∈ envelopes) (passes : Passes host options envelope) :
    ∃ candidate ∈ collected.candidates, dropped host options candidate = none ∧
      candidate.envelope.payload.contractId = envelope.payload.contractId ∧
      candidate.envelope.payload.attester = envelope.payload.attester ∧
      attestationHash host candidate.envelope.payload = attestationHash host envelope.payload := by
  rcases gathers.complete envelope inside ⟨passes.verdict, passes.contract⟩ with
    ⟨candidate, isCandidate, publicKey, hashed⟩
  have candidateHash := gathers.hashed candidate isCandidate
  have same := sameData_of_hash noCollision (gathers.member candidate isCandidate) inside
    candidateHash hashed
  have attester : candidate.envelope.payload.attester = envelope.payload.attester := by
    rw [← gathers.publicKey isCandidate, publicKey,
      publicKey_of_signatureValid (signatureValid_of_verdict passes.verdict)]
  refine ⟨candidate, isCandidate, ?_, ?_, attester, candidateHash.trans hashed.symm⟩
  · rw [dropped_eq_none_iff, expiryProblem_congr same, gathers.trust candidate isCandidate,
      attester]
    exact ⟨passes.expiry, passes.trust⟩
  · rw [(gathers.eligible candidate isCandidate).2, passes.contract]

end Collected.Gathers

theorem withdrawn_of_stays (noCollision : NoCollision host envelopes)
    {result : ResolveAttestationsResult} (stays : StaysWithdrawn host options envelopes result)
    {envelope : DocumentEnvelope} (inside : envelope ∈ envelopes)
    (passes : Passes host options envelope)
    (withdrawn : ∃ replacement ∈ envelopes, SignatureValid host options replacement ∧
      Withdraws host replacement envelope) :
    ∃ replacement ∈ envelopes, verdict host options replacement = none ∧
      Withdraws host replacement envelope := by
  rcases withdrawn with ⟨signed, isSigned, signature, withdraws⟩
  rcases resolveAttestations_spec host options envelopes with
    ⟨collected, found, gathers, resolved, effective, -⟩
  cases resolved.symm.trans stays.resolved
  rcases gathers.candidate_of_passes noCollision inside passes with
    ⟨candidate, isCandidate, kept, contract, attester, hash⟩
  -- the candidate is withdrawn, so it is not effective and something retires it
  by_cases retired : Retired host collected.candidates candidate
  · rcases gathers.withdraws_of_retired isCandidate retired with
      ⟨replacement, isReplacement, valid, names⟩
    exact ⟨replacement, isReplacement, valid, names.congr contract attester hash⟩
  · exact absurd (withdraws.congr contract.symm attester.symm hash.symm)
      (stays.effective candidate ((effective candidate).mpr ⟨isCandidate, retired, kept⟩)
        signed isSigned signature)

/-- Attestations stay withdrawn exactly if every one that passes itself and is withdrawn by
a signed envelope is withdrawn by one that also passes the check of the WASM hash. -/
theorem staysWithdrawn_iff (host : Host) (options : ResolveAttestationsOptions)
    (envelopes : List DocumentEnvelope) (noCollision : NoCollision host envelopes) :
    (∃ result, StaysWithdrawn host options envelopes result) ↔
      ∀ original ∈ envelopes, Passes host options original →
        (∃ replacement ∈ envelopes, SignatureValid host options replacement ∧
          Withdraws host replacement original) →
        ∃ replacement ∈ envelopes, verdict host options replacement = none ∧
          Withdraws host replacement original := by
  constructor
  · rintro ⟨result, stays⟩ original inside passes
    exact withdrawn_of_stays noCollision stays inside passes
  · intro withdrawn
    rcases resolveAttestations_spec host options envelopes with
      ⟨collected, result, gathers, resolved, effective, superseded⟩
    refine ⟨result, resolved, ?_, ?_⟩
    · intro candidate isEffective signed isSigned signature withdraws
      rcases (effective candidate).mp isEffective with ⟨isCandidate, live, kept⟩
      have eligible := gathers.eligible candidate isCandidate
      rw [dropped_eq_none_iff, gathers.trust candidate isCandidate] at kept
      rcases withdrawn candidate.envelope (gathers.member candidate isCandidate)
        ⟨eligible.1, eligible.2, kept.1, kept.2⟩ ⟨signed, isSigned, signature, withdraws⟩ with
        ⟨replacement, inside, valid, names⟩
      exact live (gathers.retired_of_withdraws noCollision isCandidate inside valid names)
    · intro candidate isSuperseded
      rcases (superseded candidate).mp isSuperseded with ⟨isCandidate, retired⟩
      rcases gathers.withdraws_of_retired isCandidate retired with
        ⟨replacement, inside, valid, names⟩
      exact ⟨replacement, inside, signatureValid_of_verdict valid, names⟩

end Withdrawal

/-! ### A sample -/

def sampleAttester : JsString :=
  js "GDYWLYPF67BJBZJPF3PPH65LMDF245F72MTU7DS64HPDGROJKSQWNACE"

def sampleContractId : JsString :=
  js "CAAAAAAAAAAAAAAAAAAAAAAAAAAAAAAAAAAAAAAAAAAAAAAAAAAABSC4"

def sampleDocument (wasmHash : JsString) (supersedes : Option JsString) : AttestationDocument where
  members := [(js "contractId", .leaf (.string sampleContractId)),
      (js "executableKind", .leaf (.string (js "wasm"))),
      (js "wasmHash", .leaf (.string wasmHash)), (js "events", .array []),
      (js "attester", .leaf (.string sampleAttester)),
      (js "createdAt", .leaf (.string (js "2026-01-01T00:00:00Z")))] ++
    supersedes.toList.map fun text => (js "supersedes", .leaf (.string text))
  distinctKeys := by
    refine .object ?_ ?_
    · cases supersedes <;> simp +decide
    · cases supersedes <;> simp [JsonTree.DistinctKeys.leaf, JsonTree.DistinctKeys.array]
  contractId := sampleContractId
  executableKind := .wasm
  wasmHash := some wasmHash
  events := []
  attester := sampleAttester
  createdAt := js "2026-01-01T00:00:00Z"
  expiresAt := none
  supersedes
  holdsContractId := rfl
  holdsExecutableKind := rfl
  holdsWasmHash := rfl
  holdsEvents := rfl
  holdsAttester := rfl
  holdsCreatedAt := rfl
  holdsExpiresAt := by cases supersedes <;> rfl
  holdsSupersedes := by cases supersedes <;> rfl

def sampleEnvelope (document : AttestationDocument) (signature : JsString) : DocumentEnvelope where
  v := .leaf (.number Attestation.attestationEnvelopeVersion)
  payload := document
  publicKey := sampleAttester
  signature

def originalHash : JsString :=
  js "08b9f70f869ad075c3462f1977408f6b02b1eae64b9d850a329dfbd3ff9c440a"

def replacementHash : JsString :=
  js "17dd7faabcca4bb9f2bdfbed47925797b99857f44642796e43efdfb2f9196628"

def sampleOriginal : DocumentEnvelope :=
  sampleEnvelope (sampleDocument (List.replicate 64 0x61) none)
    (js "thHIroIMeIfIZS4NpRcgH0tllybkou+/U45//xJFTXPB0YPoUtCMJVDiXAGIq40+reAMVN0+v+ob8YqBskJLDQ==")

/-- It withdraws the first one and speaks of other code. -/
def sampleReplacement : DocumentEnvelope :=
  sampleEnvelope
    (sampleDocument (List.replicate 64 0x62) (some originalHash))
    (js "IqIeZPg1m1PRmRkv79CfoByR+n7QYhIsL056fUhUArWSHGt02BkN3oUr5xGRjs+y1twFk+T1r8Z0zLPC5h9PDQ==")

def originalDigest : Bytes :=
  leadingHex (js "4dfce544f2f0a86dbbe9d82db59c169a1f04597f2f3650bcee50ddf0ba912f47")

def replacementDigest : Bytes :=
  leadingHex (js "22dd79eb1ae5afbb06326ac1ca67192748ca620d8160bcbb21da65f0f4530e5b")

def sampleHost : Host where
  isValidEd25519PublicKey := fun key => key = sampleAttester
  sha256 := fun bytes =>
    match bytes.length with
    | 292 => leadingHex originalHash
    | 372 => leadingHex replacementHash
    | 339 => originalDigest
    | 419 => replacementDigest
    | _ => 0 :: bytes
  verifies := fun key digest signature =>
    key = sampleAttester ∧ ((digest = originalDigest ∧ signature = sampleOriginal.signature) ∨
      (digest = replacementDigest ∧ signature = sampleReplacement.signature))
  dateParse := fun text => if text = js "2026-01-01T00:00:00Z" then some 1767225600000 else none
  toLowerCase := fun text =>
    text.map fun unit => if 0x41 ≤ unit.toNat ∧ unit.toNat ≤ 0x5A then unit + 0x20 else unit

def sampleOptions (expectedWasmHash : Option JsString) : ResolveAttestationsOptions where
  contractId := sampleContractId
  deployer := none
  minimumTrust := none
  expectedWasmHash
  domain := none
  now := some 1767312000000

theorem verifies_sample {digest : Bytes} {signature : JsString}
    (known : digest = originalDigest ∧ signature = sampleOriginal.signature ∨
      digest = replacementDigest ∧ signature = sampleReplacement.signature) :
    sampleHost.verifies sampleAttester digest signature = true := by
  simp only [sampleHost, decide_eq_true_eq, true_and]
  exact known

/-- The hashes of the two payloads, and what is under the signatures. -/
theorem sample_answers :
    (attestationHash sampleHost sampleOriginal.payload = .ok originalHash ∧
        attestationHash sampleHost sampleReplacement.payload = .ok replacementHash) ∧
      Attestation.Signed sampleHost.toHost sampleOriginal.toEnvelope attestationDomain ∧
        Attestation.Signed sampleHost.toHost sampleReplacement.toEnvelope attestationDomain := by
  refine ⟨⟨?_, ?_⟩, ⟨originalDigest, ?_, verifies_sample (.inl ⟨rfl, rfl⟩)⟩,
    ⟨replacementDigest, ?_, verifies_sample (.inr ⟨rfl, rfl⟩)⟩⟩
  · simp only [attestationHash, sampleOriginal, sampleHost, sampleDocument, sampleEnvelope,
      originalHash, sampleAttester, sampleContractId]
    repeat rw [js_ofList]
    decide +kernel
  · simp only [attestationHash, sampleReplacement, sampleHost, sampleDocument, sampleEnvelope,
      originalHash, replacementHash, sampleAttester, sampleContractId]
    repeat rw [js_ofList]
    decide +kernel
  · simp only [sampleOriginal, DocumentEnvelope.toEnvelope, sampleDocument, sampleEnvelope,
      sampleAttester, sampleContractId]
    repeat rw [js_ofList]
    decide +kernel
  · simp only [sampleReplacement, DocumentEnvelope.toEnvelope, sampleDocument, sampleEnvelope,
      originalHash, sampleAttester, sampleContractId]
    repeat rw [js_ofList]
    decide +kernel

theorem signatureProblem_sample {document : AttestationDocument} {signature : JsString}
    (attester : document.attester = sampleAttester)
    (signed : Attestation.Signed sampleHost.toHost (sampleEnvelope document signature).toEnvelope
      attestationDomain) :
    Attestation.signatureProblem sampleHost.toHost
      (sampleEnvelope document signature).toEnvelope attestationDomain = none := by
  apply Attestation.signatureProblem_of_signed ?_ ?_ ?_ signed
  · exact decide_eq_true rfl
  · simp only [sampleHost, sampleEnvelope, DocumentEnvelope.toEnvelope, decide_true]
  · simp only [sampleEnvelope, DocumentEnvelope.toEnvelope]
    rw [document.holdsAttester, attester]
    exact beq_self_eq_true _

theorem hashes_differ : originalHash ≠ replacementHash := by
  rw [originalHash, replacementHash, js_ofList, js_ofList]
  decide

theorem sample_noCollision : NoCollision sampleHost [sampleOriginal, sampleReplacement] := by
  intro first isFirst second isSecond text other canonical canonical' same
  have hashed : attestationHash sampleHost first.payload =
      attestationHash sampleHost second.payload := by
    rw [attestationHash_eq_ok.mpr ⟨text, canonical, rfl⟩,
      attestationHash_eq_ok.mpr ⟨other, canonical', rfl⟩, same]
  rcases List.mem_pair.mp isFirst with rfl | rfl <;> rcases List.mem_pair.mp isSecond with rfl | rfl
  · rw [Except.ok.inj (canonical.symm.trans canonical')]
  · rw [sample_answers.1.1, sample_answers.1.2] at hashed
    exact absurd (Except.ok.inj hashed) hashes_differ
  · rw [sample_answers.1.1, sample_answers.1.2] at hashed
    exact absurd (Except.ok.inj hashed).symm hashes_differ
  · rw [Except.ok.inj (canonical.symm.trans canonical')]

theorem sample_signatureValid (expectedWasmHash : Option JsString)
    (inside : envelope ∈ [sampleOriginal, sampleReplacement]) :
    SignatureValid sampleHost (sampleOptions expectedWasmHash) envelope := by
  rcases List.mem_pair.mp inside with rfl | rfl
  · exact signatureProblem_sample rfl sample_answers.2.1
  · exact signatureProblem_sample rfl sample_answers.2.2

theorem sample_withdraws : Withdraws sampleHost sampleReplacement sampleOriginal where
  contract := by simp only [sampleReplacement, sampleOriginal, sampleEnvelope, sampleDocument]
  attester := by simp only [sampleReplacement, sampleOriginal, sampleEnvelope, sampleDocument]
  other := by
    rw [sample_answers.1.1, sample_answers.1.2]
    exact fun same => hashes_differ (Except.ok.inj same).symm
  names := by
    rw [sample_answers.1.1]
    exact ⟨originalHash, rfl, by decide +kernel⟩

/-- Where no code is expected, the original stays withdrawn. -/
theorem sample_staysWithdrawn :
    ∃ result, StaysWithdrawn sampleHost (sampleOptions none) [sampleOriginal, sampleReplacement]
      result := by
  apply (staysWithdrawn_iff _ _ _ sample_noCollision).mpr
  rintro original - - ⟨replacement, inside, signature, withdraws⟩
  exact ⟨replacement, inside, verdict_of_signatureValid signature, withdraws⟩

/-- Where the code of the first attestation is expected, the original is effective again. -/
theorem withdrawn_attestation_is_effective :
    NoCollision sampleHost [sampleOriginal, sampleReplacement] ∧
      ¬ ∃ result, StaysWithdrawn sampleHost (sampleOptions (some (List.replicate 64 0x61)))
        [sampleOriginal, sampleReplacement] result := by
  refine ⟨sample_noCollision, ?_⟩
  rintro ⟨result, stays⟩
  have passes : Passes sampleHost (sampleOptions (some (List.replicate 64 0x61)))
      sampleOriginal := by
    refine ⟨?_, rfl, by decide +kernel, by decide +kernel⟩
    rw [verdict_of_signatureValid (sample_signatureValid _ (by simp))]
    decide +kernel
  rcases withdrawn_of_stays sample_noCollision stays (by simp) passes
    ⟨sampleReplacement, by simp, sample_signatureValid _ (by simp), sample_withdraws⟩ with
    ⟨replacement, inside, valid, withdraws⟩
  rcases List.mem_pair.mp inside with rfl | rfl
  · rcases withdraws.names with ⟨target, none, -⟩
    cases none
  · rw [verdict_of_signatureValid (sample_signatureValid _ (by simp))] at valid
    revert valid
    decide +kernel

end Orbital.AbiRegistry.AttestationPolicy
