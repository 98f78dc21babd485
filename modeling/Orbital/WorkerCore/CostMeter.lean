import Mathlib.Algebra.Order.Field.Basic
import Mathlib.Algebra.Order.Field.Rat
import Mathlib.Data.Rat.Defs
import Mathlib.Tactic.FieldSimp
import Mathlib.Tactic.Linarith
import Orbital.Foundation.Fallible
import Orbital.Foundation.InsertionMap
import Orbital.Foundation.Intervals
import Orbital.Foundation.JsonTree

/-! # `worker-core/src/backstop/costMeter.ts`

Costs accumulate for subscriptions in an open window, which is sealed at a ledger. Numbers
are exact: a share of a cost is a rational number.
-/

namespace Orbital.WorkerCore

open Foundation

inductive CostDriver
  | rpcCalls
  | rpcMs
  | exportScans
  | exportScanBytes
  | computeMs
  | storageByteLedgers
  deriving DecidableEq

abbrev CostBreakdown := CostDriver → ℚ

def emptyCostBreakdown : CostBreakdown :=
  fun _ => 0

def addInto (target : CostBreakdown) (key : CostDriver) (value : ℚ) : CostBreakdown :=
  Function.update target key (target key + value)

/-- A number that is passed, none if it is not finite, and its text. -/
structure CostNumber where
  value : Option ℚ
  text : JsString

structure CostWindow where
  subscriptionId : JsString
  startLedger : Nat
  endLedger : Nat
  attributedCost : CostBreakdown
  standaloneCost : CostBreakdown

inductive CostMeterErrorCode
  | noSubscriptions
  | negativeValue
  | ledgerOutOfRange
  | windowNotAdvancing
  deriving DecidableEq

structure CostMeterError where
  code : CostMeterErrorCode
  message : JsString
  deriving DecidableEq

def assertNonNegative (number : CostNumber) (label : JsString) : Except CostMeterError ℚ :=
  let error : CostMeterError :=
    ⟨.negativeValue, label ++ js " must be a finite non-negative number, got " ++ number.text⟩
  match number.value with
  | none => .error error
  | some value => if value < 0 then .error error else .ok value

def maxSafeInteger : Nat :=
  2 ^ 53 - 1

def CostNumber.ledger? (number : CostNumber) : Option Nat :=
  match number.value with
  | none => none
  | some value =>
      if value.den = 1 ∧ 0 ≤ value.num ∧ value.num ≤ maxSafeInteger then some value.num.toNat
      else none

def assertLedger (number : CostNumber) (label : JsString) : Except CostMeterError Nat :=
  match number.ledger? with
  | some ledger => .ok ledger
  | none => .error ⟨.ledgerOutOfRange,
      label ++ js " must be a non-negative safe integer, got " ++ number.text⟩

inductive SubscriptionArrival
  | sharedCondition
  | newCondition
  deriving DecidableEq

structure OpenCost where
  attributed : CostBreakdown
  standalone : CostBreakdown

def OpenCost.empty : OpenCost where
  attributed := emptyCostBreakdown
  standalone := emptyCostBreakdown

structure InMemoryCostMeter where
  openStart : Nat
  opened : InsertionMap JsString OpenCost
  conditions : InsertionMap JsString JsString
  arrivals : InsertionMap JsString SubscriptionArrival
  closed : List CostWindow
  arrivalsPerWindow : List (List SubscriptionArrival)
  pendingArrivals : List SubscriptionArrival

namespace InMemoryCostMeter

variable (meter : InMemoryCostMeter)

def openedAt (startLedger : Nat) : InMemoryCostMeter where
  openStart := startLedger
  opened := .empty
  conditions := .empty
  arrivals := .empty
  closed := []
  arrivalsPerWindow := []
  pendingArrivals := []

def new (startLedger : CostNumber) : Except CostMeterError InMemoryCostMeter := do
  return openedAt (← assertLedger startLedger (js "startLedger"))

def track (subscriptionId condition : JsString) : SubscriptionArrival × InMemoryCostMeter :=
  let alreadyWatched := meter.conditions.values.contains condition
  let arrival := if alreadyWatched then .sharedCondition else .newCondition
  (arrival, { meter with
    conditions := meter.conditions.set subscriptionId condition
    arrivals := meter.arrivals.set subscriptionId arrival
    pendingArrivals := meter.pendingArrivals ++ [arrival] })

def untrack (subscriptionId : JsString) : InMemoryCostMeter :=
  { meter with
    conditions := meter.conditions.delete subscriptionId
    arrivals := meter.arrivals.delete subscriptionId }

def changeBucket (subscriptionId : JsString) (change : OpenCost → OpenCost) : InMemoryCostMeter :=
  let bucket := (meter.opened.get? subscriptionId).getD .empty
  { meter with opened := meter.opened.set subscriptionId (change bucket) }

def unique (subscriptionIds : List JsString) : List JsString :=
  subscriptionIds.reverse.dedup.reverse

def shared (subscriptionIds : List JsString) (apply : OpenCost → ℚ → OpenCost) :
    Except CostMeterError InMemoryCostMeter :=
  if subscriptionIds.length = 0 then
    .error ⟨.noSubscriptions, js "A shared cost must name at least one subscription; " ++
      js "an unattributed cost is an unpriced one"⟩
  else
    let share : ℚ := 1 / (unique subscriptionIds).length
    .ok ((unique subscriptionIds).foldl
      (fun meter id => meter.changeBucket id fun bucket => apply bucket share) meter)

def recordRpcCall (subscriptionIds : List JsString) (durationMs : CostNumber) :
    Except CostMeterError InMemoryCostMeter := do
  let durationMs ← assertNonNegative durationMs (js "durationMs")
  meter.shared subscriptionIds fun bucket share => {
    attributed := addInto (addInto bucket.attributed .rpcCalls share) .rpcMs (durationMs * share)
    standalone := addInto (addInto bucket.standalone .rpcCalls 1) .rpcMs durationMs }

def recordExportScan (subscriptionIds : List JsString) (bytesScanned : CostNumber) :
    Except CostMeterError InMemoryCostMeter := do
  let bytesScanned ← assertNonNegative bytesScanned (js "bytesScanned")
  meter.shared subscriptionIds fun bucket share => {
    attributed := addInto (addInto bucket.attributed .exportScans share) .exportScanBytes
      (bytesScanned * share)
    standalone := addInto (addInto bucket.standalone .exportScans 1) .exportScanBytes bytesScanned }

def recordCompute (subscriptionId : JsString) (durationMs : CostNumber) :
    Except CostMeterError InMemoryCostMeter := do
  let durationMs ← assertNonNegative durationMs (js "durationMs")
  return meter.changeBucket subscriptionId fun bucket => {
    attributed := addInto bucket.attributed .computeMs durationMs
    standalone := addInto bucket.standalone .computeMs durationMs }

def recordStorage (subscriptionId : JsString) (bytes : CostNumber) :
    Except CostMeterError InMemoryCostMeter := do
  let bytes ← assertNonNegative bytes (js "bytes")
  return meter.changeBucket subscriptionId fun bucket => {
    attributed := addInto bucket.attributed .storageByteLedgers bytes
    standalone := addInto bucket.standalone .storageByteLedgers bytes }

def sealedIds : List JsString :=
  JsString.sort (unique (meter.opened.keys ++ meter.conditions.keys))

def sealedRecords (endLedger : Nat) : List CostWindow :=
  meter.sealedIds.map fun subscriptionId =>
    let bucket := (meter.opened.get? subscriptionId).getD .empty
    { subscriptionId := subscriptionId
      startLedger := meter.openStart
      endLedger := endLedger
      attributedCost := bucket.attributed
      standaloneCost := bucket.standalone }

def closeWindow (endLedger : CostNumber) :
    Except CostMeterError (List CostWindow × InMemoryCostMeter) := do
  let ledger ← assertLedger endLedger (js "endLedger")
  if ledger ≤ meter.openStart then
    .error ⟨.windowNotAdvancing, js "Window must advance past " ++
      Digits.text (Digits.ofNat meter.openStart) ++ js ", got " ++ endLedger.text⟩
  else
    return (meter.sealedRecords ledger, { meter with
      closed := meter.closed ++ meter.sealedRecords ledger
      arrivalsPerWindow := meter.arrivalsPerWindow ++ [meter.pendingArrivals]
      pendingArrivals := []
      opened := .empty
      openStart := ledger })

def windows : List CostWindow :=
  meter.closed

/-! ## Sequences of calls -/

inductive Call
  | track (subscriptionId condition : JsString)
  | untrack (subscriptionId : JsString)
  | recordRpcCall (subscriptionIds : List JsString) (method : JsString) (durationMs : CostNumber)
  | recordExportScan (subscriptionIds : List JsString) (bytesScanned : CostNumber)
  | recordCompute (subscriptionId : JsString) (durationMs : CostNumber)
  | recordStorage (subscriptionId : JsString) (bytes : CostNumber)
  | closeWindow (endLedger : CostNumber)

inductive Answer
  | done
  | arrival (arrival : SubscriptionArrival)
  | sealed (windows : List CostWindow)
  | refused (error : CostMeterError)

def settle (recorded : Except CostMeterError InMemoryCostMeter) : Answer × InMemoryCostMeter :=
  match recorded with
  | .ok meter => (.done, meter)
  | .error error => (.refused error, meter)

def step : Call → Answer × InMemoryCostMeter
  | .track subscriptionId condition =>
      let tracked := meter.track subscriptionId condition
      (.arrival tracked.1, tracked.2)
  | .untrack subscriptionId => (.done, meter.untrack subscriptionId)
  | .recordRpcCall ids _ durationMs => meter.settle (meter.recordRpcCall ids durationMs)
  | .recordExportScan ids bytes => meter.settle (meter.recordExportScan ids bytes)
  | .recordCompute id durationMs => meter.settle (meter.recordCompute id durationMs)
  | .recordStorage id bytes => meter.settle (meter.recordStorage id bytes)
  | .closeWindow endLedger =>
      match meter.closeWindow endLedger with
      | .ok (windows, meter) => (.sealed windows, meter)
      | .error error => (.refused error, meter)

end InMemoryCostMeter

end Orbital.WorkerCore

/-! ## Attributed cost is spend

An account is kept of what was spent while a window was open, from the calls and their
answers alone. The records of a sealed window share out what the account says, and the
windows follow one another without a gap.
-/

namespace Orbital.WorkerCore.InMemoryCostMeter

open Foundation

/-! ## The account -/

structure SealedWindow where
  startLedger : Nat
  endLedger : Nat
  spend : CostBreakdown
  records : List CostWindow

structure Account where
  start : Nat
  spend : CostBreakdown
  windows : List SealedWindow

def Call.spend : Call → CostBreakdown
  | .recordRpcCall _ _ durationMs => fun
      | .rpcCalls => 1
      | .rpcMs => durationMs.value.getD 0
      | _ => 0
  | .recordExportScan _ bytesScanned => fun
      | .exportScans => 1
      | .exportScanBytes => bytesScanned.value.getD 0
      | _ => 0
  | .recordCompute _ durationMs => fun
      | .computeMs => durationMs.value.getD 0
      | _ => 0
  | .recordStorage _ bytes => fun
      | .storageByteLedgers => bytes.value.getD 0
      | _ => 0
  | _ => emptyCostBreakdown

namespace Account

def openedAt (startLedger : Nat) : Account where
  start := startLedger
  spend := emptyCostBreakdown
  windows := []

def close (account : Account) (endLedger : Nat) (records : List CostWindow) : Account where
  start := endLedger
  spend := emptyCostBreakdown
  windows := account.windows ++ [⟨account.start, endLedger, account.spend, records⟩]

def add (account : Account) (spend : CostBreakdown) : Account :=
  { account with spend := fun driver => account.spend driver + spend driver }

def observe (account : Account) (call : Call) (answer : Answer) : Account :=
  match answer with
  | .refused _ => account
  | .sealed records =>
      match call with
      | .closeWindow endLedger => account.close (endLedger.ledger?.getD 0) records
      | _ => account
  | _ => account.add call.spend

end Account

def observedStep (state : InMemoryCostMeter × Account) (call : Call) :
    InMemoryCostMeter × Account :=
  let answered := state.1.step call
  (answered.2, state.2.observe call answered.1)

def observedRun (startLedger : Nat) (calls : List Call) : InMemoryCostMeter × Account :=
  calls.foldl observedStep (openedAt startLedger, .openedAt startLedger)

/-! ## Buckets -/

theorem addInto_apply (target : CostBreakdown) (key : CostDriver) (value : ℚ)
    (driver : CostDriver) :
    addInto target key value driver = target driver + if driver = key then value else 0 := by
  rw [addInto, Function.update_apply]
  split
  · rename_i same
    rw [same]
  · rw [add_zero]

structure Charges (change : OpenCost → OpenCost) (share cost : CostBreakdown) : Prop where
  attributed : ∀ bucket driver,
    (change bucket).attributed driver = bucket.attributed driver + share driver
  standalone : ∀ bucket driver,
    (change bucket).standalone driver = bucket.standalone driver + cost driver
  below : ∀ driver, share driver ≤ cost driver

/-- No bucket has more attributed to it than it would have cost alone. -/
def Below (opened : InsertionMap JsString OpenCost) : Prop :=
  ∀ id bucket, opened.get? id = some bucket →
    ∀ driver, bucket.attributed driver ≤ bucket.standalone driver

def attributedTotal (meter : InMemoryCostMeter) (driver : CostDriver) : ℚ :=
  meter.opened.total fun bucket => bucket.attributed driver

section Buckets

variable {meter : InMemoryCostMeter} {change : OpenCost → OpenCost}
  {share cost : CostBreakdown}

theorem below_bucket (below : Below meter.opened) (id : JsString) (driver : CostDriver) :
    ((meter.opened.get? id).getD .empty).attributed driver ≤
      ((meter.opened.get? id).getD .empty).standalone driver := by
  cases found : meter.opened.get? id with
  | none => exact le_refl _
  | some bucket => exact below id bucket found driver

theorem part_bucket (id : JsString) (driver : CostDriver) :
    meter.opened.part (fun bucket => bucket.attributed driver) id =
      ((meter.opened.get? id).getD .empty).attributed driver := by
  rw [InsertionMap.part]
  cases meter.opened.get? id with
  | none | some bucket => rfl

theorem attributedTotal_changeBucket (charges : Charges change share cost)
    (id : JsString) (driver : CostDriver) :
    (meter.changeBucket id change).attributedTotal driver =
      meter.attributedTotal driver + share driver := by
  let attributed (bucket : OpenCost) : ℚ := bucket.attributed driver
  have sums : (meter.opened.set id (change ((meter.opened.get? id).getD .empty))).total attributed +
      meter.opened.part attributed id = meter.opened.total attributed +
        attributed (change ((meter.opened.get? id).getD .empty)) :=
    InsertionMap.total_set_add meter.opened id _
  have adds : attributed (change ((meter.opened.get? id).getD .empty)) =
      ((meter.opened.get? id).getD .empty).attributed driver + share driver :=
    charges.attributed _ driver
  rw [part_bucket, adds] at sums
  rw [attributedTotal, attributedTotal, changeBucket]
  linarith

theorem below_changeBucket (charges : Charges change share cost)
    (below : Below meter.opened) (id : JsString) : Below (meter.changeBucket id change).opened := by
  intro other bucket found driver
  rw [changeBucket, InsertionMap.get?_set] at found
  split at found
  · cases found
    rw [charges.attributed, charges.standalone]
    exact add_le_add (below_bucket below id driver) (charges.below driver)
  · exact below other bucket found driver

structure Charged (spend : CostBreakdown) (meter after : InMemoryCostMeter) : Prop where
  total : ∀ driver, after.attributedTotal driver = meter.attributedTotal driver + spend driver
  below : Below meter.opened → Below after.opened
  openStart : after.openStart = meter.openStart
  closed : after.closed = meter.closed

theorem charged_changeBucket (charges : Charges change share cost) (id : JsString) :
    Charged share meter (meter.changeBucket id change) where
  total := attributedTotal_changeBucket charges id
  below := fun below => below_changeBucket charges below id
  openStart := rfl
  closed := rfl

theorem charged_foldl (charges : Charges change share cost) (ids : List JsString) :
    Charged (fun driver => ids.length * share driver) meter
      (ids.foldl (fun meter id => meter.changeBucket id change) meter) := by
  induction ids generalizing meter with
  | nil =>
      refine ⟨fun driver => ?_, fun below => below, rfl, rfl⟩
      rw [List.length_nil, Nat.cast_zero, zero_mul, add_zero]
      rfl
  | cons id rest induction =>
      have first : Charged share meter (meter.changeBucket id change) :=
        charged_changeBucket charges id
      have others := @induction (meter.changeBucket id change)
      refine ⟨fun driver => ?_, fun below => others.below (first.below below),
        others.openStart.trans first.openStart, others.closed.trans first.closed⟩
      rw [List.foldl_cons, others.total, first.total, List.length_cons, Nat.cast_succ]
      linarith

end Buckets

theorem unique_perm_dedup (ids : List JsString) : (unique ids).Perm ids.dedup :=
  (List.reverse_perm _).trans ((List.reverse_perm ids).dedup)

variable {ids : List JsString} {meter after : InMemoryCostMeter} {value : ℚ}

theorem mem_unique {id : JsString} : id ∈ unique ids ↔ id ∈ ids := by
  rw [(unique_perm_dedup ids).mem_iff, List.mem_dedup]

theorem unique_length_pos (some : ids.length ≠ 0) : 0 < (unique ids).length := by
  rcases List.exists_mem_of_length_pos (Nat.pos_of_ne_zero some) with ⟨id, member⟩
  exact List.length_pos_of_mem (mem_unique.mpr member)

theorem charged_shared {apply : OpenCost → ℚ → OpenCost} {cost : CostBreakdown}
    (nonneg : ∀ driver, 0 ≤ cost driver) (attributed : ∀ bucket share driver,
      (apply bucket share).attributed driver = bucket.attributed driver + cost driver * share)
    (standalone : ∀ bucket share driver,
      (apply bucket share).standalone driver = bucket.standalone driver + cost driver)
    (taken : meter.shared ids apply = .ok after) : Charged cost meter after := by
  rw [shared] at taken
  split at taken
  · cases taken
  · rename_i some
    cases taken
    have positive : (0 : ℚ) < (unique ids).length := Nat.cast_pos.mpr (unique_length_pos some)
    have atMostOne : 1 / ((unique ids).length : ℚ) ≤ 1 := by
      rw [div_le_one positive]
      exact_mod_cast unique_length_pos some
    have charges : Charges (fun bucket => apply bucket (1 / (unique ids).length))
        (fun driver => cost driver * (1 / (unique ids).length)) cost :=
      ⟨fun bucket => attributed bucket _, fun bucket => standalone bucket _,
        fun driver => mul_le_of_le_one_right (nonneg driver) atMostOne⟩
    have charged := @charged_foldl meter _ _ _ charges (unique ids)
    refine ⟨fun driver => ?_, charged.below, charged.openStart, charged.closed⟩
    rw [charged.total driver]
    field_simp

/-! ## What the calls charge -/

theorem assertNonNegative_spec {number : CostNumber} {label : JsString}
    (taken : assertNonNegative number label = .ok value) :
    number.value = some value ∧ 0 ≤ value := by
  rw [assertNonNegative] at taken
  cases found : number.value with
  | none =>
      rw [found] at taken
      cases taken
  | some held =>
      rw [found] at taken
      dsimp only at taken
      split at taken
      · cases taken
      · rename_i nonneg
        cases taken
        exact ⟨rfl, not_lt.mp nonneg⟩

def countedCost (count amount : CostDriver) (value : ℚ) : CostBreakdown :=
  fun driver => (if driver = count then 1 else 0) + if driver = amount then value else 0

theorem charged_counted {count amount : CostDriver} (nonneg : 0 ≤ value)
    (taken : meter.shared ids (fun bucket share => {
      attributed := addInto (addInto bucket.attributed count share) amount (value * share)
      standalone := addInto (addInto bucket.standalone count 1) amount value }) = .ok after) :
    Charged (countedCost count amount value) meter after := by
  refine charged_shared ?_ ?_ ?_ taken
  · intro driver
    rw [countedCost]
    apply add_nonneg <;> split <;> first | exact nonneg | exact zero_le_one | exact le_refl _
  · intro bucket share driver
    simp only [addInto_apply, countedCost, add_mul, ite_mul, one_mul, zero_mul]
    rw [add_assoc]
  · intro bucket share driver
    simp only [addInto_apply, countedCost]
    rw [add_assoc]

theorem charged_alone (id : JsString) (amount : CostDriver) (value : ℚ) :
    Charged (fun driver => if driver = amount then value else 0) meter
      (meter.changeBucket id fun bucket => {
        attributed := addInto bucket.attributed amount value
        standalone := addInto bucket.standalone amount value }) :=
  charged_changeBucket ⟨fun bucket driver => addInto_apply bucket.attributed amount value driver,
    fun bucket driver => addInto_apply bucket.standalone amount value driver,
    fun _ => le_refl _⟩ id

theorem charged_of_settle {recorded : Except CostMeterError InMemoryCostMeter}
    {spend : CostBreakdown} (charged : ∀ after, recorded = .ok after → Charged spend meter after) :
    (∃ error, meter.settle recorded = (.refused error, meter)) ∨
      ∃ after, meter.settle recorded = (.done, after) ∧ Charged spend meter after := by
  cases recorded with
  | error error => exact .inl ⟨error, rfl⟩
  | ok after => exact .inr ⟨after, rfl, charged after rfl⟩

section Records

variable {meter after : InMemoryCostMeter}

variable {ids : List JsString} {durationMs : CostNumber} {id : JsString}

theorem charged_recordRpcCall (method : JsString)
    (taken : meter.recordRpcCall ids durationMs = .ok after) :
    Charged (Call.recordRpcCall ids method durationMs).spend meter after := by
  rcases bind_eq_ok.mp taken with ⟨value, checked, shares⟩
  rcases assertNonNegative_spec checked with ⟨held, nonneg⟩
  have spend : (Call.recordRpcCall ids method durationMs).spend =
      countedCost .rpcCalls .rpcMs value := by
    funext driver
    rw [Call.spend, held]
    cases driver <;> simp [countedCost]
  rw [spend]
  exact charged_counted nonneg shares

theorem charged_recordExportScan {bytesScanned : CostNumber}
    (taken : meter.recordExportScan ids bytesScanned = .ok after) :
    Charged (Call.recordExportScan ids bytesScanned).spend meter after := by
  rcases bind_eq_ok.mp taken with ⟨value, checked, shares⟩
  rcases assertNonNegative_spec checked with ⟨held, nonneg⟩
  have spend : (Call.recordExportScan ids bytesScanned).spend =
      countedCost .exportScans .exportScanBytes value := by
    funext driver
    rw [Call.spend, held]
    cases driver <;> simp [countedCost]
  rw [spend]
  exact charged_counted nonneg shares

theorem charged_recordCompute (taken : meter.recordCompute id durationMs = .ok after) :
    Charged (Call.recordCompute id durationMs).spend meter after := by
  rcases bind_eq_ok.mp taken with ⟨value, checked, same⟩
  cases same
  have spend : (Call.recordCompute id durationMs).spend =
      fun driver => if driver = .computeMs then value else 0 := by
    funext driver
    rw [Call.spend, (assertNonNegative_spec checked).1]
    cases driver <;> simp
  rw [spend]
  exact charged_alone id .computeMs value

theorem charged_recordStorage {bytes : CostNumber}
    (taken : meter.recordStorage id bytes = .ok after) :
    Charged (Call.recordStorage id bytes).spend meter after := by
  rcases bind_eq_ok.mp taken with ⟨value, checked, same⟩
  cases same
  have spend : (Call.recordStorage id bytes).spend =
      fun driver => if driver = .storageByteLedgers then value else 0 := by
    funext driver
    rw [Call.spend, (assertNonNegative_spec checked).1]
    cases driver <;> simp
  rw [spend]
  exact charged_alone id .storageByteLedgers value

end Records

/-! ## The books of a run -/

structure SealedWindow.Balanced (window : SealedWindow) : Prop where
  conserved : ∀ driver,
    (window.records.map fun record => record.attributedCost driver).sum = window.spend driver
  below : ∀ record ∈ window.records, ∀ driver,
    record.attributedCost driver ≤ record.standaloneCost driver
  range : ∀ record ∈ window.records,
    record.startLedger = window.startLedger ∧ record.endLedger = window.endLedger

structure Books (startLedger : Nat) (meter : InMemoryCostMeter) (account : Account) : Prop where
  start : account.start = meter.openStart
  spend : ∀ driver, meter.attributedTotal driver = account.spend driver
  below : Below meter.opened
  balanced : ∀ window ∈ account.windows, window.Balanced
  tiles : Tiles SealedWindow.startLedger SealedWindow.endLedger startLedger account.windows
    account.start
  closed : meter.windows = account.windows.flatMap SealedWindow.records

section Books

variable {startLedger : Nat} {meter after : InMemoryCostMeter} {account : Account}

theorem books_openedAt : Books startLedger (openedAt startLedger) (.openedAt startLedger) where
  start := rfl
  spend := fun _ => rfl
  below := fun _ _ none => by cases none
  balanced := fun _ none => by cases none
  tiles := .nil startLedger
  closed := rfl

theorem Books.charge {spend : CostBreakdown} (books : Books startLedger meter account)
    (charged : Charged spend meter after) : Books startLedger after (account.add spend) where
  start := books.start.trans charged.openStart.symm
  spend := fun driver => by rw [charged.total, books.spend]; rfl
  below := charged.below books.below
  balanced := books.balanced
  tiles := books.tiles
  closed := charged.closed.trans books.closed

theorem sealedIds_perm (meter : InMemoryCostMeter) :
    meter.sealedIds.Perm (meter.opened.keys ++ meter.conditions.keys).dedup :=
  (JsString.sort_perm _).trans (unique_perm_dedup _)

theorem sealedRecords_conserved (meter : InMemoryCostMeter) (endLedger : Nat)
    (driver : CostDriver) :
    ((meter.sealedRecords endLedger).map fun record => record.attributedCost driver).sum =
      meter.attributedTotal driver := by
  have nodup : meter.sealedIds.Nodup :=
    (sealedIds_perm meter).nodup_iff.mpr (List.nodup_dedup _)
  have all : ∀ id ∈ meter.opened.keys, id ∈ meter.sealedIds := by
    intro id inside
    rw [(sealedIds_perm meter).mem_iff, List.mem_dedup]
    exact List.mem_append_left _ inside
  rw [attributedTotal, ← InsertionMap.sum_parts meter.opened nodup all, sealedRecords,
    List.map_map]
  congr 1
  apply List.map_congr_left
  intro id _
  exact (part_bucket id driver).symm

theorem Books.close (books : Books startLedger meter account) {endLedger : CostNumber}
    {records : List CostWindow} (closed : meter.closeWindow endLedger = .ok (records, after)) :
    Books startLedger after (account.close (endLedger.ledger?.getD 0) records) := by
  rcases bind_eq_ok.mp closed with ⟨ledger, checked, closes⟩
  have named : endLedger.ledger? = some ledger := by
    rw [assertLedger] at checked
    cases found : endLedger.ledger? with
    | none =>
        rw [found] at checked
        cases checked
    | some held =>
        rw [found] at checked
        cases checked
        rfl
  split at closes
  · cases closes
  · rename_i advances
    cases closes
    rw [named, Option.getD_some, Account.close]
    refine ⟨rfl, fun _ => rfl, fun _ _ none => (by cases none), ?_, ?_, ?_⟩
    · intro window member
      rcases List.mem_append.mp member with before | new
      · exact books.balanced window before
      · cases List.mem_singleton.mp new
        refine ⟨fun driver => ?_, ?_, ?_⟩
        · exact (sealedRecords_conserved meter ledger driver).trans (books.spend driver)
        · intro record inside driver
          rcases List.mem_map.mp inside with ⟨id, -, rfl⟩
          exact below_bucket books.below id driver
        · intro record inside
          rcases List.mem_map.mp inside with ⟨id, -, rfl⟩
          exact ⟨books.start.symm, rfl⟩
    · let segment : SealedWindow :=
        ⟨account.start, ledger, account.spend, meter.sealedRecords ledger⟩
      have proper : segment.startLedger < segment.endLedger := by
        rw [← books.start] at advances
        exact not_le.mp advances
      exact books.tiles.append_singleton rfl proper
    · rw [windows, List.flatMap_append, List.flatMap_singleton, ← books.closed]
      rfl

theorem Books.step (books : Books startLedger meter account) (call : Call) :
    Books startLedger (meter.step call).2 (account.observe call (meter.step call).1) := by
  have recorded : ∀ {recorded : Except CostMeterError InMemoryCostMeter},
      (∀ after, recorded = .ok after → Charged call.spend meter after) →
        Books startLedger (meter.settle recorded).2
          (account.observe call (meter.settle recorded).1) := by
    intro recorded charged
    rcases charged_of_settle charged with ⟨error, refused⟩ | ⟨after, taken, charges⟩
    · rw [refused]
      exact books
    · rw [taken]
      exact books.charge charges
  cases call with
  | track subscriptionId condition | untrack subscriptionId =>
      refine books.charge ⟨fun driver => (add_zero _).symm, fun below => below, rfl, rfl⟩
  | recordRpcCall ids method durationMs =>
      exact recorded fun after => charged_recordRpcCall method
  | recordExportScan ids bytesScanned => exact recorded fun after => charged_recordExportScan
  | recordCompute id durationMs => exact recorded fun after => charged_recordCompute
  | recordStorage id bytes => exact recorded fun after => charged_recordStorage
  | closeWindow endLedger =>
      rw [InMemoryCostMeter.step]
      cases closed : meter.closeWindow endLedger with
      | error error => exact books
      | ok outcome => exact books.close closed

end Books

theorem books_observedRun (startLedger : Nat) (calls : List Call) :
    Books startLedger (observedRun startLedger calls).1 (observedRun startLedger calls).2 := by
  have kept : ∀ state : InMemoryCostMeter × Account, Books startLedger state.1 state.2 →
      Books startLedger (calls.foldl observedStep state).1 (calls.foldl observedStep state).2 := by
    induction calls with
    | nil => exact fun _ books => books
    | cons call rest induction => exact fun state books => induction _ (books.step call)
  exact kept _ books_openedAt

/-- Whatever is called, the records of every sealed window share out what was spent while it
was open, none costs more than it would have cost alone, and the windows follow one another
from the first ledger to the one at which the open window starts. -/
theorem costs_conserved (startLedger : Nat) (calls : List Call) :
    let outcome := observedRun startLedger calls
    (∀ window ∈ outcome.2.windows,
      (∀ driver, (window.records.map fun record => record.attributedCost driver).sum =
        window.spend driver) ∧
      ∀ record ∈ window.records,
        (∀ driver, record.attributedCost driver ≤ record.standaloneCost driver) ∧
          record.startLedger = window.startLedger ∧ record.endLedger = window.endLedger) ∧
    Tiles SealedWindow.startLedger SealedWindow.endLedger startLedger outcome.2.windows
      outcome.1.openStart ∧
    outcome.1.windows = outcome.2.windows.flatMap SealedWindow.records := by
  have books := books_observedRun startLedger calls
  refine ⟨?_, books.start ▸ books.tiles, books.closed⟩
  intro window member
  have balanced := books.balanced window member
  exact ⟨balanced.conserved, fun record inside =>
    ⟨balanced.below record inside, balanced.range record inside⟩⟩

end Orbital.WorkerCore.InMemoryCostMeter
