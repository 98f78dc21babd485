import Mathlib.Data.Finset.Insert
import Orbital.Foundation.InsertionMap
import Orbital.Foundation.JsonText

/-! # `worker-core/src/verification/canonical.ts`

The ledgers of an export and the events that their operations are for the subjects. The case
conversion and the collation of texts, and the hash, are those of the platform.
-/

namespace Orbital.WorkerCore.Verdicts

open Foundation

structure Platform where
  /-- `text.toUpperCase()` -/
  toUpperCase : JsString → JsString
  localeCompare : JsString → JsString → Int
  sha256 : Bytes → Bytes

/-! ## Exports -/

inductive ExportOperation
  | payment (from_ to_ amount asset : JsString)
  | mint (to_ amount asset : JsString)
  | burn (from_ amount asset : JsString)
  | clawback (from_ amount asset : JsString)
  | fee (from_ amount : JsString)
  | setAuthorized (trustor asset : JsString) (authorized : Bool)
  deriving DecidableEq

structure ExportTransaction where
  transactionId : JsString
  operations : List ExportOperation
  deriving DecidableEq

structure ExportLedger where
  ledgerSequence : Nat
  closeTime : JsString
  transactions : List ExportTransaction
  deriving DecidableEq

/-! ## Events -/

inductive VerificationEventType
  | paymentSent
  | paymentReceived
  | paymentSelf
  | mint
  | burn
  | clawback
  | fee
  | setAuthorized
  deriving DecidableEq

structure VerificationEvent where
  ledger : Nat
  closeTime : JsString
  kind : VerificationEventType
  subject : JsString
  counterparty : Option JsString
  asset : JsString
  amount : JsString
  authorized : Option Bool
  txHash : Option JsString
  deriving DecidableEq

/-! ## Canonical texts -/

/-- `text.split(".")`, of which only the first two parts are read. -/
def splitPoint (text : JsString) : JsString × Option JsString :=
  let whole := text.takeWhile (· ≠ 0x2E)
  match text.dropWhile (· ≠ 0x2E) with
  | [] => (whole, none)
  | _ :: rest => (whole, some (rest.takeWhile (· ≠ 0x2E)))

def splitSign : JsString → Bool × JsString
  | 0x2D :: rest => (true, rest)
  | text => (false, text)

def canonicalAmount (amount : JsString) : JsString :=
  let signed := splitSign (trim amount)
  let parts := splitPoint signed.2
  let whole := if parts.1 = [] then js "0" else parts.1
  let frac := ((parts.2.getD []) ++ List.replicate 7 0x30).take 7
  (if signed.1 then js "-" else []) ++ whole ++ js "." ++ frac

def canonicalAsset (asset : JsString) : JsString :=
  let trimmed := trim asset
  if trimmed = js "native" ∨ trimmed = js "XLM" then js "XLM" else trimmed

variable (platform : Platform)

def canonicalAddress (address : JsString) : JsString :=
  platform.toUpperCase (trim address)

inductive SubjectType
  | account
  | contract
  deriving DecidableEq

def inferSubjectType (subject : JsString) : SubjectType :=
  if (canonicalAddress platform subject).head? = some 0x43 then .contract else .account

/-! ## Operations as events -/

def make (ledger : Nat) (closeTime : JsString) (txHash : Option JsString)
    (asset amount subject : JsString) (kind : VerificationEventType)
    (counterparty : Option JsString) (authorized : Option Bool) : VerificationEvent where
  ledger := ledger
  closeTime := closeTime
  kind := kind
  subject := canonicalAddress platform subject
  counterparty := counterparty.map (canonicalAddress platform)
  asset := canonicalAsset asset
  amount := amount
  authorized := authorized
  txHash := txHash

def mapOperationToVerificationEvents (ledger : Nat) (closeTime : JsString)
    (txHash : Option JsString) : ExportOperation → List VerificationEvent
  | .payment from_ to_ amount asset =>
      let make := make platform ledger closeTime txHash asset (canonicalAmount amount)
      if canonicalAddress platform from_ = canonicalAddress platform to_ then
        [make from_ .paymentSelf none none]
      else [make from_ .paymentSent (some to_) none, make to_ .paymentReceived (some from_) none]
  | .mint to_ amount asset =>
      [make platform ledger closeTime txHash asset (canonicalAmount amount) to_ .mint none none]
  | .burn from_ amount asset =>
      [make platform ledger closeTime txHash asset (canonicalAmount amount) from_ .burn none none]
  | .clawback from_ amount asset =>
      [make platform ledger closeTime txHash asset (canonicalAmount amount) from_ .clawback none
        none]
  | .fee from_ amount =>
      [make platform ledger closeTime txHash (js "XLM") (canonicalAmount amount) from_ .fee none
        none]
  | .setAuthorized trustor asset authorized =>
      [make platform ledger closeTime txHash asset (js "0") trustor .setAuthorized none
        (some authorized)]

def fromExportLedger (ledger : ExportLedger) : List VerificationEvent :=
  ledger.transactions.flatMap fun transaction =>
    transaction.operations.flatMap fun operation =>
      mapOperationToVerificationEvents platform ledger.ledgerSequence ledger.closeTime
        (some transaction.transactionId) operation

theorem mem_fromExportLedger {ledger : ExportLedger} {event : VerificationEvent}
    (member : event ∈ fromExportLedger platform ledger) :
    event.ledger = ledger.ledgerSequence ∧
      ∃ subject, event.subject = canonicalAddress platform subject := by
  rcases List.mem_flatMap.mp member with ⟨transaction, -, member⟩
  rcases List.mem_flatMap.mp member with ⟨operation, -, member⟩
  cases operation with
  | payment from_ to_ amount asset =>
      rw [mapOperationToVerificationEvents] at member
      split at member
      · cases List.mem_singleton.mp member
        exact ⟨rfl, _, rfl⟩
      · rcases List.mem_pair.mp member with rfl | rfl
        · exact ⟨rfl, _, rfl⟩
        · exact ⟨rfl, _, rfl⟩
  | mint | burn | clawback | fee | setAuthorized =>
      cases List.mem_singleton.mp member
      exact ⟨rfl, _, rfl⟩

end Orbital.WorkerCore.Verdicts

/-! ## `worker-core/src/verification/verdict.ts`

The verdict on a subject in a window of ledgers. The amounts are read as whole numbers, and a
text that is none ends the computation: a verdict is `none` then.
-/

namespace Orbital.WorkerCore.Verdicts

open Foundation

/-! ## Scores -/

structure VerdictCounts where
  paymentSent : Nat
  paymentReceived : Nat
  paymentSelf : Nat
  mint : Nat
  burn : Nat
  clawback : Nat
  fee : Nat
  setAuthorized : Nat
  deriving DecidableEq

def emptyCounts : VerdictCounts :=
  ⟨0, 0, 0, 0, 0, 0, 0, 0⟩

/-- `counts[kind] += 1` -/
def VerdictCounts.add (counts : VerdictCounts) : VerificationEventType → VerdictCounts
  | .paymentSent => { counts with paymentSent := counts.paymentSent + 1 }
  | .paymentReceived => { counts with paymentReceived := counts.paymentReceived + 1 }
  | .paymentSelf => { counts with paymentSelf := counts.paymentSelf + 1 }
  | .mint => { counts with mint := counts.mint + 1 }
  | .burn => { counts with burn := counts.burn + 1 }
  | .clawback => { counts with clawback := counts.clawback + 1 }
  | .fee => { counts with fee := counts.fee + 1 }
  | .setAuthorized => { counts with setAuthorized := counts.setAuthorized + 1 }

def signedStroops (event : VerificationEvent) : Option Int := do
  let signed := splitSign event.amount
  let parts := splitPoint signed.2
  let whole ← readInteger (if parts.1 = [] then js "0" else parts.1)
  let frac ← readInteger (if parts.2.getD [] = [] then js "0" else parts.2.getD [])
  let stroops := whole * 10000000 + frac
  let sign := if signed.1 then -1 else 1
  match event.kind with
  | .paymentSent | .burn | .clawback | .fee => return -sign * stroops
  | .paymentReceived | .mint => return sign * stroops
  | .paymentSelf | .setAuthorized => return 0

def formatStroops (stroops : Int) : JsString :=
  (if stroops < 0 then js "-" else []) ++ Digits.text (Digits.ofNat (stroops.natAbs / 10000000)) ++
    js "." ++ Digits.text (Digits.padded 7 (stroops.natAbs % 10000000))

def least (sofar : Option Nat) (number : Nat) : Option Nat :=
  some (sofar.elim number fun least => if number < least then number else least)

def greatest (sofar : Option Nat) (number : Nat) : Option Nat :=
  some (sofar.elim number fun greatest => if number > greatest then number else greatest)

def earliest (sofar : Option JsString) (text : JsString) : Option JsString :=
  some (sofar.elim text fun earliest => if JsString.Le earliest text then earliest else text)

def latest (sofar : Option JsString) (text : JsString) : Option JsString :=
  some (sofar.elim text fun latest => if JsString.Le text latest then latest else text)

structure Tally where
  counts : VerdictCounts
  counterparties : Finset JsString
  setAuthorizedTrue : Nat
  setAuthorizedFalse : Nat
  firstLedger : Option Nat
  lastLedger : Option Nat
  startCloseTime : Option JsString
  endCloseTime : Option JsString
  deriving DecidableEq

def Tally.empty : Tally :=
  ⟨emptyCounts, ∅, 0, 0, none, none, none, none⟩

section Compute

variable (platform : Platform)

def counterpartyOf (event : VerificationEvent) : Finset JsString :=
  match event.counterparty with
  | none | some [] => ∅
  | some address => {canonicalAddress platform address}

def Tally.add (tally : Tally) (event : VerificationEvent) : Tally where
  counts := tally.counts.add event.kind
  counterparties := tally.counterparties ∪ counterpartyOf platform event
  setAuthorizedTrue := tally.setAuthorizedTrue +
    if event.kind = .setAuthorized ∧ event.authorized = some true then 1 else 0
  setAuthorizedFalse := tally.setAuthorizedFalse +
    if event.kind = .setAuthorized ∧ event.authorized ≠ some true then 1 else 0
  firstLedger := least tally.firstLedger event.ledger
  lastLedger := greatest tally.lastLedger event.ledger
  startCloseTime := earliest tally.startCloseTime event.closeTime
  endCloseTime := latest tally.endCloseTime event.closeTime

abbrev Volume :=
  InsertionMap JsString Int

def addVolume (volume : Volume) (asset : JsString) (stroops : Int) : Volume :=
  if stroops ≠ 0 then volume.set asset ((volume.get? asset).getD 0 + stroops) else volume

def score (sofar : Tally × Volume) (event : VerificationEvent) : Option (Tally × Volume) :=
  (signedStroops event).map fun stroops =>
    (sofar.1.add platform event, addVolume sofar.2 (canonicalAsset event.asset) stroops)

/-! ## Verdicts -/

def compareAssets (first second : JsString × Int) : Prop :=
  platform.localeCompare first.1 second.1 ≤ 0

instance : DecidableRel (compareAssets platform) := fun first second =>
  inferInstanceAs (Decidable (platform.localeCompare first.1 second.1 ≤ 0))

/-- The member that an assignment adds to an object. The one name that no assignment of a text
adds is that of the prototype. -/
def volumeMember (entry : JsString × Int) : Option (JsString × JsString) :=
  if entry.1 = js "__proto__" then none else some (entry.1, formatStroops entry.2)

/-- The sort is stable: what compares equal stays in the order in which it came. -/
def volumeByAsset (volume : Volume) : List (JsString × JsString) :=
  Property.assignAll
    ((volume.entries.insertionSort (compareAssets platform)).filterMap volumeMember)

structure VerdictMetrics where
  eventCount : Nat
  firstLedger : Option Nat
  lastLedger : Option Nat
  counts : VerdictCounts
  volumeByAsset : List (JsString × JsString)
  distinctCounterparties : Nat
  setAuthorizedTrue : Nat
  setAuthorizedFalse : Nat
  deriving DecidableEq

structure Window where
  startLedger : Nat
  endLedger : Nat
  deriving DecidableEq

structure VerdictWindow extends Window where
  startCloseTime : Option JsString
  endCloseTime : Option JsString
  deriving DecidableEq

inductive VerdictSource
  | live
  | backfill
  deriving DecidableEq

structure Verdict where
  subject : JsString
  subjectType : SubjectType
  window : VerdictWindow
  metrics : VerdictMetrics
  fingerprint : JsString
  source : VerdictSource
  deriving DecidableEq

/-! ### The core as JSON -/

def number (value : Nat) : JsonSyntax :=
  .leaf (.number ⟨false, value, [], none⟩)

def text (value : JsString) : JsonSyntax :=
  .leaf (.string value)

def numberOrNull (value : Option Nat) : JsonSyntax :=
  value.elim (.leaf .null) number

def VerdictCounts.json (counts : VerdictCounts) : JsonSyntax :=
  .object [(js "payment_sent", number counts.paymentSent),
    (js "payment_received", number counts.paymentReceived),
    (js "payment_self", number counts.paymentSelf), (js "mint", number counts.mint),
    (js "burn", number counts.burn), (js "clawback", number counts.clawback),
    (js "fee", number counts.fee), (js "set_authorized", number counts.setAuthorized)]

def VerdictMetrics.json (metrics : VerdictMetrics) : JsonSyntax :=
  .object [(js "eventCount", number metrics.eventCount),
    (js "firstLedger", numberOrNull metrics.firstLedger),
    (js "lastLedger", numberOrNull metrics.lastLedger), (js "counts", metrics.counts.json),
    (js "volumeByAsset",
      .object (metrics.volumeByAsset.map fun member => (member.1, text member.2))),
    (js "distinctCounterparties", number metrics.distinctCounterparties),
    (js "setAuthorizedTrue", number metrics.setAuthorizedTrue),
    (js "setAuthorizedFalse", number metrics.setAuthorizedFalse)]

def SubjectType.text : SubjectType → JsString
  | .account => js "account"
  | .contract => js "contract"

def verdictSchemaVersion : Nat :=
  1

def verdictCore (subject : JsString) (window : Window) (metrics : VerdictMetrics) : JsString :=
  JsonSyntax.print (.object [(js "v", number verdictSchemaVersion),
    (js "subject", text (canonicalAddress platform subject)),
    (js "subjectType", text (inferSubjectType platform subject).text),
    (js "window", .object [(js "startLedger", number window.startLedger),
      (js "endLedger", number window.endLedger)]),
    (js "metrics", metrics.json)])

def metricsOf (events : List VerificationEvent) (scores : Tally × Volume) : VerdictMetrics where
  eventCount := events.length
  firstLedger := scores.1.firstLedger
  lastLedger := scores.1.lastLedger
  counts := scores.1.counts
  volumeByAsset := volumeByAsset platform scores.2
  distinctCounterparties := scores.1.counterparties.card
  setAuthorizedTrue := scores.1.setAuthorizedTrue
  setAuthorizedFalse := scores.1.setAuthorizedFalse

def computeVerdict (subject : JsString) (window : Window) (events : List VerificationEvent)
    (source : VerdictSource) : Option Verdict :=
  (events.foldlM (score platform) (Tally.empty, InsertionMap.empty)).map fun scores =>
    let metrics := metricsOf platform events scores
    let canonicalSubject := canonicalAddress platform subject
    { subject := canonicalSubject
      subjectType := inferSubjectType platform subject
      window := ⟨window, scores.1.startCloseTime, scores.1.endCloseTime⟩
      metrics := metrics
      fingerprint :=
        toHex (platform.sha256 (utf8 (verdictCore platform canonicalSubject window metrics)))
      source := source }

/-- `verdictCoreBytes(verdict)` -/
def Verdict.core (verdict : Verdict) : JsString :=
  verdictCore platform verdict.subject verdict.window.toWindow verdict.metrics

/-! ## What a verdict has -/

variable {platform} {subject : JsString} {window : Window} {events : List VerificationEvent}
  {source : VerdictSource} {verdict : Verdict}

/-- A verdict is there if and only if every amount can be read. -/
theorem computeVerdict_isSome_iff :
    (computeVerdict platform subject window events source).isSome ↔
      ∀ event ∈ events, (signedStroops event).isSome := by
  have run : ∀ sofar : Tally × Volume, (events.foldlM (score platform) sofar).isSome ↔
      ∀ event ∈ events, (signedStroops event).isSome := by
    induction events with
    | nil => simp
    | cons event rest induction =>
        intro sofar
        rw [List.foldlM_cons, List.forall_mem_cons, score]
        cases signedStroops event with
        | none => simp
        | some stroops => simpa using induction _
  rw [computeVerdict, Option.isSome_map]
  exact run _

theorem computeVerdict_eq_some
    (computed : computeVerdict platform subject window events source = some verdict) :
    verdict.subject = canonicalAddress platform subject ∧ verdict.window.toWindow = window ∧
      verdict.metrics.eventCount = events.length ∧ verdict.source = source := by
  rcases Option.map_eq_some_iff.mp computed with ⟨scores, -, rfl⟩
  exact ⟨rfl, rfl, rfl, rfl⟩

end Compute

/-! ## A platform for plain texts -/

/-- The small letters of ASCII as capital ones. -/
def asciiUpper (unit : CodeUnit) : CodeUnit :=
  if 0x61 ≤ unit.toNat ∧ unit.toNat ≤ 0x7A then unit - 0x20 else unit

def asciiPlatform : Platform where
  toUpperCase text := text.map asciiUpper
  localeCompare first second :=
    if first = second then 0 else if JsString.Le first second then -1 else 1
  sha256 bytes := (bytes ++ List.replicate 32 0).take 32

theorem toNat_asciiUpper (unit : CodeUnit) : (asciiUpper unit).toNat =
    if 0x61 ≤ unit.toNat ∧ unit.toNat ≤ 0x7A then unit.toNat - 0x20 else unit.toNat := by
  rw [asciiUpper]
  split
  · rename_i small
    exact UInt16.toNat_sub_of_le unit 0x20 (UInt16.le_iff_toNat_le.mpr (by simp; omega))
  · rfl

theorem asciiUpper_asciiUpper (unit : CodeUnit) :
    asciiUpper (asciiUpper unit) = asciiUpper unit := by
  have large : ¬ (0x61 ≤ (asciiUpper unit).toNat ∧ (asciiUpper unit).toNat ≤ 0x7A) := by
    rw [toNat_asciiUpper]
    split <;> omega
  rw [asciiUpper, if_neg large]

theorem isWhiteSpace_asciiUpper (unit : CodeUnit) :
    isWhiteSpace (asciiUpper unit) = isWhiteSpace unit := by
  rw [isWhiteSpace, isWhiteSpace, toNat_asciiUpper]
  split
  · rw [Bool.eq_iff_iff]
    simp
    omega
  · rfl

theorem canonicalAddress_asciiPlatform (text : JsString) :
    canonicalAddress asciiPlatform (canonicalAddress asciiPlatform text) =
      canonicalAddress asciiPlatform text := by
  show (trim ((trim text).map asciiUpper)).map asciiUpper = (trim text).map asciiUpper
  rw [trim_map isWhiteSpace_asciiUpper, trim_trim, List.map_map]
  exact List.map_congr_left fun unit _ => asciiUpper_asciiUpper unit

end Orbital.WorkerCore.Verdicts
