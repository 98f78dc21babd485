import Mathlib.Data.List.Sort
import Orbital.WorkerCore.Idempotency

/-! # `worker-core/src/subscription/coverage.ts`

The append-only record of the ledgers for which a subscription was covered.
-/

namespace Orbital.WorkerCore.Subscription

open Foundation
open Idempotency (ledgerText)

inductive CoverageReason
  | active
  | grace
  | lapsed
  | cancelled
  deriving DecidableEq

def CoverageReason.text : CoverageReason → JsString
  | .active => js "active"
  | .grace => js "grace"
  | .lapsed => js "lapsed"
  | .cancelled => js "cancelled"

def isCoveredReason : CoverageReason → Bool
  | .active | .grace => true
  | .lapsed | .cancelled => false

structure CoverageWindow where
  subscriptionId : JsString
  startLedger : Int
  endLedger : Int
  covered : Bool
  reason : CoverageReason
  deriving DecidableEq

inductive CoverageLedgerErrorCode
  | ledgerOutOfRange
  | emptyWindow
  | overlappingWindow
  | inconsistentReason
  deriving DecidableEq

structure CoverageLedgerError where
  code : CoverageLedgerErrorCode
  message : JsString
  deriving DecidableEq

/-- The largest integer that a number tells from its neighbours. -/
def maxSafeInteger : Int :=
  9007199254740991

/-- A ledger that passes `assertLedger`. -/
def IsLedger (value : Int) : Prop :=
  0 ≤ value ∧ value ≤ maxSafeInteger

instance (value : Int) : Decidable (IsLedger value) :=
  inferInstanceAs (Decidable (_ ∧ _))

def outOfRangeMessage (label text : JsString) : JsString :=
  label ++ js " must be a non-negative safe integer, got " ++ text

def spanText (startLedger endLedger : Int) : JsString :=
  js "[" ++ ledgerText startLedger ++ js ", " ++ ledgerText endLedger ++ js ")"

def booleanText (value : Bool) : JsString :=
  if value then js "true" else js "false"

namespace CoverageWindow

def assertLedger (value : Int) (label : JsString) : Except CoverageLedgerError Unit :=
  if IsLedger value then .ok ()
  else .error ⟨.ledgerOutOfRange, outOfRangeMessage label (ledgerText value)⟩

def assertValidCoverageWindow (window : CoverageWindow) : Except CoverageLedgerError Unit := do
  assertLedger window.startLedger (js "startLedger")
  assertLedger window.endLedger (js "endLedger")
  if window.endLedger ≤ window.startLedger then
    .error ⟨.emptyWindow, js "A coverage window must span at least one ledger, got " ++
      spanText window.startLedger window.endLedger⟩
  else if window.covered ≠ isCoveredReason window.reason then
    .error ⟨.inconsistentReason, js "reason \"" ++ window.reason.text ++
      js "\" cannot be recorded with covered=" ++ booleanText window.covered⟩
  else .ok ()

def overlaps (window other : CoverageWindow) : Bool :=
  window.startLedger < other.endLedger && other.startLedger < window.endLedger

end CoverageWindow

structure InMemoryCoverageLedger where
  bySubscription : InsertionMap JsString (List CoverageWindow)

namespace InMemoryCoverageLedger

def empty : InMemoryCoverageLedger where
  bySubscription := .empty

def history (ledger : InMemoryCoverageLedger) (subscriptionId : JsString) : List CoverageWindow :=
  (ledger.bySubscription.get? subscriptionId).getD []

/-- `existing.sort((a, b) => a.startLedger - b.startLedger)` -/
def sorted (windows : List CoverageWindow) : List CoverageWindow :=
  windows.insertionSort fun first second => first.startLedger ≤ second.startLedger

def append (ledger : InMemoryCoverageLedger) (window : CoverageWindow) :
    Except CoverageLedgerError InMemoryCoverageLedger := do
  window.assertValidCoverageWindow
  let existing := ledger.history window.subscriptionId
  match existing.find? window.overlaps with
  | some stored =>
      .error ⟨.overlappingWindow, spanText window.startLedger window.endLedger ++
        js " overlaps the stored window " ++ spanText stored.startLedger stored.endLedger ++
        js " for subscription " ++ window.subscriptionId⟩
  | none =>
      .ok { bySubscription :=
        ledger.bySubscription.set window.subscriptionId (sorted (existing ++ [window])) }

theorem append_behind (ledger : InMemoryCoverageLedger) (window : CoverageWindow)
    (isStart : IsLedger window.startLedger) (isEnd : IsLedger window.endLedger)
    (proper : window.startLedger < window.endLedger)
    (consistent : window.covered = isCoveredReason window.reason)
    (ordered : (ledger.history window.subscriptionId).Pairwise fun first second =>
      first.startLedger ≤ second.startLedger)
    (behind : ∀ stored ∈ ledger.history window.subscriptionId,
      stored.startLedger ≤ window.startLedger ∧ stored.endLedger ≤ window.startLedger) :
    ∃ next, ledger.append window = .ok next ∧
      next.history window.subscriptionId = ledger.history window.subscriptionId ++ [window] := by
  have valid : window.assertValidCoverageWindow = .ok () := by
    rw [CoverageWindow.assertValidCoverageWindow, CoverageWindow.assertLedger, if_pos isStart,
      CoverageWindow.assertLedger, if_pos isEnd, if_neg (not_le.mpr proper),
      if_neg (not_not.mpr consistent)]
    rfl
  have apart : (ledger.history window.subscriptionId).find? window.overlaps = none := by
    rw [List.find?_eq_none]
    intro stored member overlap
    rw [CoverageWindow.overlaps, Bool.and_eq_true, decide_eq_true_iff] at overlap
    exact absurd overlap.1 (not_lt.mpr (behind stored member).2)
  have inOrder : sorted (ledger.history window.subscriptionId ++ [window]) =
      ledger.history window.subscriptionId ++ [window] := by
    apply List.Pairwise.insertionSort_eq
    apply List.pairwise_append.mpr
    refine ⟨ordered, List.pairwise_singleton _ _, ?_⟩
    intro stored member other isWindow
    rw [List.mem_singleton.mp isWindow]
    exact (behind stored member).1
  rw [append, valid]
  dsimp only [bind, Except.bind]
  rw [apart]
  refine ⟨_, rfl, ?_⟩
  rw [history, InsertionMap.get?_set, if_pos rfl, inOrder]
  rfl

end InMemoryCoverageLedger

end Orbital.WorkerCore.Subscription

/-! ## `worker-core/src/subscription/lifecycle.ts`

The life of a subscription. Every transition writes the stretch it closes to the coverage
ledger before the state moves, and calls a hook behind that.
-/

namespace Orbital.WorkerCore.Subscription

open Foundation
open Idempotency (ledgerText)

inductive SubscriptionState
  | active
  | expiring
  | lapsed
  | cancelled
  deriving DecidableEq

namespace SubscriptionState

def text : SubscriptionState → JsString
  | .active => js "active"
  | .expiring => js "expiring"
  | .lapsed => js "lapsed"
  | .cancelled => js "cancelled"

def legalTransitions : SubscriptionState → List SubscriptionState
  | .active => [.expiring, .cancelled]
  | .expiring => [.active, .lapsed]
  | .lapsed => [.active]
  | .cancelled => [.active]

def isLegalTransition (before after : SubscriptionState) : Bool :=
  before.legalTransitions.contains after

def isCoveredState : SubscriptionState → Bool
  | .active | .expiring => true
  | .lapsed | .cancelled => false

/-- `REASON_BY_STATE` -/
def reason : SubscriptionState → CoverageReason
  | .active => .active
  | .expiring => .grace
  | .lapsed => .lapsed
  | .cancelled => .cancelled

end SubscriptionState

inductive SubscriptionLifecycleErrorCode
  | illegalTransition
  | ledgerNotAdvancing
  | ledgerOutOfRange
  | invalidWindowSize
  | insufficientLapseNotice
  | prematureLapse
  | missingField
  deriving DecidableEq

/-- What an operation throws: an error of its own, or what the store or a hook has thrown. -/
inductive Failure
  | lifecycle (code : SubscriptionLifecycleErrorCode) (message : JsString)
  | coverage (error : CoverageLedgerError)
  | other (message : JsString)
  deriving DecidableEq

/-- A number that is passed as a ledger: a whole number, or another one by its text. -/
inductive LedgerArgument
  | whole (value : Int)
  | other (text : JsString)
  deriving DecidableEq

def LedgerArgument.text : LedgerArgument → JsString
  | .whole value => ledgerText value
  | .other text => text

structure SubscriptionEvent where
  subscriptionId : JsString
  tier : JsString
  atLedger : Int
  window : Option CoverageWindow
  deriving DecidableEq

inductive HookCall
  | onActivated (event : SubscriptionEvent)
  | onRenewed (event : SubscriptionEvent)
  | onExpiring (event : SubscriptionEvent) (lapsesAtLedger : Int)
  | onLapsed (event : SubscriptionEvent)
  | onCancelled (event : SubscriptionEvent)
  deriving DecidableEq

inductive Request
  | append (window : CoverageWindow)
  | fire (call : HookCall)

abbrev Response : Request → Type :=
  fun _ => Unit

structure BackstopSubscription where
  subscriptionId : JsString
  tier : JsString
  windowLedgers : Int
  currentState : SubscriptionState
  openedAt : Int
  announcedLapseLedger : Option Int
  deriving DecidableEq

abbrev Method (Value : Type) :=
  Async BackstopSubscription Response Failure Value

def fail {Value : Type} (code : SubscriptionLifecycleErrorCode) (message : JsString) :
    Method Value :=
  .fail (.lifecycle code message)

def assertLedger (argument : LedgerArgument) (label : JsString) : Method Int :=
  match argument with
  | .whole value =>
      if IsLedger value then return value
      else fail .ledgerOutOfRange (outOfRangeMessage label argument.text)
  | .other _ => fail .ledgerOutOfRange (outOfRangeMessage label argument.text)

namespace BackstopSubscription

def openWindow (subscription : BackstopSubscription) (atLedger : Int) : CoverageWindow where
  subscriptionId := subscription.subscriptionId
  startLedger := subscription.openedAt
  endLedger := atLedger
  covered := subscription.currentState.isCoveredState
  reason := subscription.currentState.reason

def event (subscription : BackstopSubscription) (atLedger : Int)
    (window : Option CoverageWindow) : SubscriptionEvent where
  subscriptionId := subscription.subscriptionId
  tier := subscription.tier
  atLedger
  window

def notAdvancingMessage (openedAt atLedger : Int) : JsString :=
  js "Ledger must advance past the open window start " ++ ledgerText openedAt ++ js ", got " ++
    ledgerText atLedger

def illegalMessage (before after : SubscriptionState) : JsString :=
  before.text ++ js " -> " ++ after.text ++ js " is not a legal subscription transition"

def insufficientNoticeMessage (windowLedgers atLedger lapsesAtLedger : Int) : JsString :=
  js "A lapse must be announced at least one window (" ++ ledgerText windowLedgers ++
    js " ledgers) ahead: announced at " ++ ledgerText atLedger ++ js ", lapsing at " ++
    ledgerText lapsesAtLedger

def prematureMessage (announced atLedger : Int) : JsString :=
  js "Coverage was announced to end at ledger " ++ ledgerText announced ++
    js "; cannot lapse at " ++ ledgerText atLedger

def append (window : CoverageWindow) : Method Unit :=
  Async.call (.append window)

def fire (call : HookCall) : Method Unit :=
  Async.call (.fire call)

def writeOpenWindow (atLedger : LedgerArgument) : Method CoverageWindow := do
  let ledger ← assertLedger atLedger (js "atLedger")
  let subscription ← Async.get
  if ledger ≤ subscription.openedAt then
    fail .ledgerNotAdvancing (notAdvancingMessage subscription.openedAt ledger)
  else
    append (subscription.openWindow ledger)
    Async.modify fun subscription => { subscription with openedAt := ledger }
    return subscription.openWindow ledger

def transition (after : SubscriptionState) (atLedger : LedgerArgument) : Method CoverageWindow := do
  let subscription ← Async.get
  if subscription.currentState.isLegalTransition after then
    let window ← writeOpenWindow atLedger
    Async.modify fun subscription => { subscription with currentState := after }
    return window
  else fail .illegalTransition (illegalMessage subscription.currentState after)

def announce (announced : Option Int) : Method Unit :=
  Async.modify fun subscription => { subscription with announcedLapseLedger := announced }

def renew (atLedger : LedgerArgument) : Method Unit := do
  let window ← transition .active atLedger
  announce none
  let subscription ← Async.get
  fire (.onRenewed (subscription.event window.endLedger (some window)))

def beginExpiring (atLedger lapsesAtLedger : LedgerArgument) : Method Unit := do
  let ledger ← assertLedger atLedger (js "atLedger")
  let lapse ← assertLedger lapsesAtLedger (js "lapsesAtLedger")
  let subscription ← Async.get
  if lapse - ledger < subscription.windowLedgers then
    fail .insufficientLapseNotice
      (insufficientNoticeMessage subscription.windowLedgers ledger lapse)
  else
    let window ← transition .expiring atLedger
    announce (some lapse)
    let subscription ← Async.get
    fire (.onExpiring (subscription.event ledger (some window)) lapse)

def premature (subscription : BackstopSubscription) (atLedger : Int) : Option Int :=
  subscription.announcedLapseLedger.filter fun announced => atLedger < announced

def lapse (atLedger : LedgerArgument) : Method Unit := do
  let ledger ← assertLedger atLedger (js "atLedger")
  let subscription ← Async.get
  match subscription.premature ledger with
  | some announced => fail .prematureLapse (prematureMessage announced ledger)
  | none =>
      let window ← transition .lapsed atLedger
      announce none
      let subscription ← Async.get
      fire (.onLapsed (subscription.event ledger (some window)))

def cancel (atLedger : LedgerArgument) : Method Unit := do
  let window ← transition .cancelled atLedger
  announce none
  let subscription ← Async.get
  fire (.onCancelled (subscription.event window.endLedger (some window)))

def reactivate (atLedger : LedgerArgument) : Method Unit := do
  let window ← transition .active atLedger
  let subscription ← Async.get
  fire (.onActivated (subscription.event window.endLedger (some window)))

def sealTo (atLedger : LedgerArgument) : Method CoverageWindow :=
  writeOpenWindow atLedger

/-- The checks of `activate`, and the subscription that its hook is told of. -/
def activate (subscriptionId tier : JsString) (windowLedgers atLedger : LedgerArgument) :
    Except Failure BackstopSubscription :=
  if subscriptionId = [] then
    .error (.lifecycle .missingField (js "subscriptionId is required"))
  else if tier = [] then .error (.lifecycle .missingField (js "tier is required"))
  else
    match windowLedgers with
    | .other text => .error (.lifecycle .invalidWindowSize (windowSizeMessage text))
    | .whole size =>
        if 1 ≤ size ∧ size ≤ maxSafeInteger then
          match atLedger with
          | .other text =>
              .error (.lifecycle .ledgerOutOfRange (outOfRangeMessage (js "atLedger") text))
          | .whole ledger =>
              if IsLedger ledger then
                .ok {
                  subscriptionId
                  tier
                  windowLedgers := size
                  currentState := .active
                  openedAt := ledger
                  announcedLapseLedger := none }
              else
                .error (.lifecycle .ledgerOutOfRange
                  (outOfRangeMessage (js "atLedger") (ledgerText ledger)))
        else .error (.lifecycle .invalidWindowSize (windowSizeMessage (ledgerText size)))
where
  windowSizeMessage (text : JsString) : JsString :=
    js "windowLedgers must be a positive safe integer, got " ++ text

end BackstopSubscription

end Orbital.WorkerCore.Subscription
