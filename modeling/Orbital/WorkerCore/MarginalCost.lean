import Orbital.WorkerCore.CostMeter

/-! # `marginalCost` of `backstop/costMeter.ts`

The report compares windows that have records, and looks for the arrivals of a window at its
place among them. The arrivals are kept for every sealed window, so that the two places are
the same only as long as every window has records.
-/

namespace Orbital.WorkerCore

open Foundation

def sumBreakdowns (items : List CostBreakdown) : CostBreakdown :=
  fun driver => (items.map fun item => item driver).sum

def scaleBreakdown (breakdown : CostBreakdown) (factor : ℚ) : CostBreakdown :=
  fun driver => breakdown driver * factor

def subtractBreakdowns (first second : CostBreakdown) : CostBreakdown :=
  fun driver => first driver - second driver

structure MarginalCostEstimate where
  samples : Nat
  perSubscription : CostBreakdown

structure MarginalCostReport where
  transitionsObserved : Nat
  transitionsSkippedFlat : Nat
  transitionsSkippedMixed : Nat
  sharedCondition : Option MarginalCostEstimate
  newCondition : Option MarginalCostEstimate

inductive Transition
  | flat
  | mixed
  | sample (kind : SubscriptionArrival) (cost : CostBreakdown)

def Transition.sample? (kind : SubscriptionArrival) : Transition → Option CostBreakdown
  | .sample found cost => if found = kind then some cost else none
  | _ => none

def Transition.isFlat : Transition → Bool
  | .flat => true
  | _ => false

def Transition.isMixed : Transition → Bool
  | .mixed => true
  | _ => false

namespace InMemoryCostMeter

section Report

variable (meter : InMemoryCostMeter)

def recordsOf (startLedger : Nat) : List CostWindow :=
  meter.closed.filter fun window => window.startLedger = startLedger

def totalForWindow (startLedger : Nat) : CostBreakdown :=
  sumBreakdowns ((meter.recordsOf startLedger).map CostWindow.attributedCost)

def starts : List Nat :=
  (meter.closed.map CostWindow.startLedger).dedup.insertionSort (· ≤ ·)

def totals : List CostBreakdown :=
  meter.starts.map meter.totalForWindow

def counts : List Nat :=
  meter.starts.map fun startLedger => (meter.recordsOf startLedger).length

def transition (index : Nat) : Transition :=
  let current := meter.counts[index]?.getD 0
  let previous := meter.counts[index - 1]?.getD 0
  if current ≤ previous then .flat
  else
    match (meter.arrivalsPerWindow[index]?.getD []).dedup with
    | [kind] =>
        .sample kind (scaleBreakdown
          (subtractBreakdowns (meter.totals[index]?.getD emptyCostBreakdown)
            (meter.totals[index - 1]?.getD emptyCostBreakdown))
          (1 / ((current - previous : Nat) : ℚ)))
    | _ => .mixed

def transitions : List Transition :=
  (List.range' 1 (meter.starts.length - 1)).map meter.transition

def estimate (kind : SubscriptionArrival) : Option MarginalCostEstimate :=
  let rows := meter.transitions.filterMap (Transition.sample? kind)
  if rows.length = 0 then none
  else some ⟨rows.length, scaleBreakdown (sumBreakdowns rows) (1 / (rows.length : ℚ))⟩

def marginalCost : MarginalCostReport where
  transitionsObserved := meter.starts.length - 1
  transitionsSkippedFlat := meter.transitions.countP Transition.isFlat
  transitionsSkippedMixed := meter.transitions.countP Transition.isMixed
  sharedCondition := meter.estimate .sharedCondition
  newCondition := meter.estimate .newCondition

end Report

/-! ## What was sealed -/

structure ClosedWindow where
  startLedger : Nat
  records : List CostWindow
  arrivals : List SubscriptionArrival

def ClosedWindow.hasRecords (window : ClosedWindow) : Bool :=
  !window.records.isEmpty

structure SealHistory where
  start : Nat
  arrivals : List SubscriptionArrival
  windows : List ClosedWindow

namespace SealHistory

def openedAt (startLedger : Nat) : SealHistory where
  start := startLedger
  arrivals := []
  windows := []

def observe (history : SealHistory) (call : Call) : Answer → SealHistory
  | .arrival arrival => { history with arrivals := history.arrivals ++ [arrival] }
  | .sealed records =>
      match call with
      | .closeWindow endLedger => {
          start := endLedger.ledger?.getD 0
          arrivals := []
          windows := history.windows ++ [⟨history.start, records, history.arrivals⟩] }
      | _ => history
  | _ => history

end SealHistory

def historyStep (state : InMemoryCostMeter × SealHistory) (call : Call) :
    InMemoryCostMeter × SealHistory :=
  let answered := state.1.step call
  (answered.2, state.2.observe call answered.1)

def historyRun (startLedger : Nat) (calls : List Call) : InMemoryCostMeter × SealHistory :=
  calls.foldl historyStep (openedAt startLedger, .openedAt startLedger)

structure Follows (meter : InMemoryCostMeter) (history : SealHistory) : Prop where
  start : meter.openStart = history.start
  pending : meter.pendingArrivals = history.arrivals
  closed : meter.closed = history.windows.flatMap ClosedWindow.records
  arrivals : meter.arrivalsPerWindow = history.windows.map ClosedWindow.arrivals
  starts : ∀ window ∈ history.windows, ∀ record ∈ window.records,
    record.startLedger = window.startLedger
  before : ∀ window ∈ history.windows, window.startLedger < history.start
  increasing : history.windows.Pairwise fun earlier later =>
    earlier.startLedger < later.startLedger

def Keeps (meter after : InMemoryCostMeter) : Prop :=
  ∃ opened, after = { meter with opened }

section Follows

variable {meter after : InMemoryCostMeter} {history : SealHistory}

theorem keeps_of_shared {ids : List JsString} {apply : OpenCost → ℚ → OpenCost}
    (taken : meter.shared ids apply = .ok after) : Keeps meter after := by
  have changes (ids : List JsString) (change : OpenCost → OpenCost) :
      ∀ meter : InMemoryCostMeter,
        Keeps meter (ids.foldl (fun meter id => meter.changeBucket id change) meter) := by
    induction ids with
    | nil => exact fun meter => ⟨meter.opened, rfl⟩
    | cons id rest induction =>
        intro meter
        rcases induction (meter.changeBucket id change) with ⟨opened, same⟩
        exact ⟨opened, same⟩
  rw [shared] at taken
  split at taken
  · cases taken
  · cases taken
    exact changes _ _ meter

theorem Follows.keeps (follows : Follows meter history) (keeps : Keeps meter after) :
    Follows after history := by
  rcases keeps with ⟨opened, rfl⟩
  exact ⟨follows.start, follows.pending, follows.closed, follows.arrivals, follows.starts,
    follows.before, follows.increasing⟩

theorem Follows.settle (follows : Follows meter history) (call : Call)
    {recorded : Except CostMeterError InMemoryCostMeter}
    (keeps : ∀ after, recorded = .ok after → Keeps meter after) :
    Follows (meter.settle recorded).2 (history.observe call (meter.settle recorded).1) := by
  cases recorded with
  | error error => exact follows
  | ok after => exact follows.keeps (keeps after rfl)

theorem ledger?_of_assertLedger {number : CostNumber} {label : JsString} {ledger : Nat}
    (checked : assertLedger number label = .ok ledger) : number.ledger? = some ledger := by
  rw [assertLedger] at checked
  split at checked
  · rename_i named
    cases checked
    exact named
  · cases checked

theorem Follows.close (follows : Follows meter history) {endLedger : CostNumber}
    {records : List CostWindow} (closed : meter.closeWindow endLedger = .ok (records, after)) :
    Follows after (history.observe (.closeWindow endLedger) (.sealed records)) := by
  rcases bind_eq_ok.mp closed with ⟨ledger, checked, closes⟩
  split at closes
  · cases closes
  · rename_i advances
    cases closes
    have named := ledger?_of_assertLedger checked
    have next : history.start < ledger := follows.start ▸ not_le.mp advances
    simp only [SealHistory.observe, named, Option.getD_some]
    constructor
    · rfl
    · rfl
    · simp [follows.closed]
    · simp [follows.arrivals, follows.pending]
    · intro window inside record member
      rcases List.mem_append.mp inside with earlier | last
      · exact follows.starts window earlier record member
      · cases List.mem_singleton.mp last
        rcases List.mem_map.mp member with ⟨id, -, rfl⟩
        exact follows.start
    · intro window inside
      rcases List.mem_append.mp inside with earlier | last
      · exact (follows.before window earlier).trans next
      · cases List.mem_singleton.mp last
        exact next
    · simpa [List.pairwise_append] using ⟨follows.increasing, follows.before⟩

theorem Follows.step (follows : Follows meter history) (call : Call) :
    Follows (meter.step call).2 (history.observe call (meter.step call).1) := by
  cases call with
  | track subscriptionId condition =>
      exact ⟨follows.start, congrArg (· ++ _) follows.pending, follows.closed, follows.arrivals,
        follows.starts, follows.before, follows.increasing⟩
  | untrack subscriptionId =>
      exact ⟨follows.start, follows.pending, follows.closed, follows.arrivals, follows.starts,
        follows.before, follows.increasing⟩
  | recordRpcCall ids method durationMs | recordExportScan ids bytesScanned =>
      apply follows.settle
      intro after taken
      rcases bind_eq_ok.mp taken with ⟨value, -, taken⟩
      exact keeps_of_shared taken
  | recordCompute id durationMs | recordStorage id bytes =>
      apply follows.settle
      intro after taken
      rcases bind_eq_ok.mp taken with ⟨value, -, same⟩
      cases same
      exact ⟨_, rfl⟩
  | closeWindow endLedger =>
      rw [InMemoryCostMeter.step]
      cases closed : meter.closeWindow endLedger with
      | error error => exact follows
      | ok outcome => exact follows.close closed

end Follows

theorem follows_historyRun (startLedger : Nat) (calls : List Call) :
    Follows (historyRun startLedger calls).1 (historyRun startLedger calls).2 := by
  have run : ∀ state : InMemoryCostMeter × SealHistory, Follows state.1 state.2 →
      Follows (calls.foldl historyStep state).1 (calls.foldl historyStep state).2 := by
    induction calls with
    | nil => exact fun _ follows => follows
    | cons call rest induction => exact fun state follows => induction _ (follows.step call)
  apply run
  constructor <;> simp [openedAt, SealHistory.openedAt]

/-! ## The windows that are compared -/

def SealHistory.kept (history : SealHistory) : List ClosedWindow :=
  history.windows.filter ClosedWindow.hasRecords

def ClosedWindow.total (window : ClosedWindow) : CostBreakdown :=
  sumBreakdowns (window.records.map CostWindow.attributedCost)

def difference (earlier later : ClosedWindow) : CostBreakdown :=
  scaleBreakdown (subtractBreakdowns later.total earlier.total)
    (1 / ((later.records.length - earlier.records.length : Nat) : ℚ))

section Compared

variable {meter : InMemoryCostMeter} {history : SealHistory}

variable {window : ClosedWindow}

theorem filter_records {windows : List ClosedWindow}
    (starts : ∀ window ∈ windows, ∀ record ∈ window.records,
      record.startLedger = window.startLedger)
    (increasing : windows.Pairwise fun earlier later => earlier.startLedger < later.startLedger)
    (inside : window ∈ windows) :
    (windows.flatMap ClosedWindow.records).filter
        (fun record => record.startLedger = window.startLedger) = window.records := by
  have own {window : ClosedWindow} (inside : window ∈ windows) (startLedger : Nat) :
      window.records.filter (fun record => record.startLedger = startLedger) =
        if window.startLedger = startLedger then window.records else [] := by
    split
    · rename_i same
      exact List.filter_eq_self.mpr fun record member =>
        decide_eq_true ((starts window inside record member).trans same)
    · rename_i other
      exact List.filter_eq_nil_iff.mpr fun record member same =>
        other ((starts window inside record member).symm.trans (of_decide_eq_true same))
  induction windows with
  | nil => cases inside
  | cons head rest induction =>
      have rule := List.forall_mem_cons.mp starts
      have order := List.pairwise_cons.mp increasing
      rw [List.flatMap_cons, List.filter_append, own List.mem_cons_self]
      rcases List.mem_cons.mp inside with rfl | later
      · have none : (rest.flatMap ClosedWindow.records).filter
            (fun record => record.startLedger = window.startLedger) = [] := by
          apply List.filter_eq_nil_iff.mpr
          intro record member same
          rcases List.mem_flatMap.mp member with ⟨other, isOther, isRecord⟩
          have start := rule.2 other isOther record isRecord
          have after := order.1 other isOther
          have equal := of_decide_eq_true same
          omega
        rw [if_pos rfl, none, List.append_nil]
      · rw [if_neg (ne_of_lt (order.1 window later)), List.nil_append]
        exact induction rule.2 order.2 later fun member =>
          own (List.mem_cons_of_mem head member)

theorem recordsOf_eq (follows : Follows meter history) (inside : window ∈ history.windows) :
    meter.recordsOf window.startLedger = window.records := by
  rw [recordsOf, follows.closed]
  exact filter_records follows.starts follows.increasing inside

theorem increasing_kept (follows : Follows meter history) :
    (history.kept.map ClosedWindow.startLedger).Pairwise (· < ·) :=
  List.pairwise_map.mpr (follows.increasing.filter _)

theorem starts_eq (follows : Follows meter history) :
    meter.starts = history.kept.map ClosedWindow.startLedger := by
  have order := increasing_kept follows
  have perm : (meter.closed.map CostWindow.startLedger).dedup.Perm
      (history.kept.map ClosedWindow.startLedger) := by
    apply (List.perm_ext_iff_of_nodup (List.nodup_dedup _) (order.imp ne_of_lt)).mpr
    intro startLedger
    simp only [follows.closed, List.mem_dedup, List.mem_map, List.mem_flatMap, SealHistory.kept,
      List.mem_filter]
    constructor
    · rintro ⟨record, ⟨window, inside, member⟩, rfl⟩
      refine ⟨window, ⟨inside, ?_⟩, (follows.starts window inside record member).symm⟩
      cases records : window.records with
      | nil => simp [records] at member
      | cons first rest => simp [ClosedWindow.hasRecords, records]
    · rintro ⟨window, ⟨inside, some'⟩, rfl⟩
      cases records : window.records with
      | nil => simp [ClosedWindow.hasRecords, records] at some'
      | cons first rest =>
          have member : first ∈ window.records := by simp [records]
          exact ⟨first, ⟨window, inside, member⟩, follows.starts window inside first member⟩
  rw [starts]
  apply List.Perm.eq_of_pairwise' (List.pairwise_insertionSort _ _) (order.imp le_of_lt)
  exact (List.perm_insertionSort _ _).trans perm

theorem counts_eq (follows : Follows meter history) :
    meter.counts = history.kept.map fun window => window.records.length := by
  rw [counts, starts_eq follows, List.map_map]
  apply List.map_congr_left
  intro window inside
  exact congrArg List.length (recordsOf_eq follows (List.mem_filter.mp inside).1)

theorem totals_eq (follows : Follows meter history) :
    meter.totals = history.kept.map ClosedWindow.total := by
  rw [totals, starts_eq follows, List.map_map]
  apply List.map_congr_left
  intro window inside
  rw [Function.comp_apply, totalForWindow, recordsOf_eq follows (List.mem_filter.mp inside).1]
  rfl

structure Compares (history : SealHistory) (index : Nat) (earlier later window : ClosedWindow)
    (kind : SubscriptionArrival) : Prop where
  isEarlier : history.kept[index - 1]? = some earlier
  isLater : history.kept[index]? = some later
  more : earlier.records.length < later.records.length
  atPlace : history.windows[index]? = some window
  oneKind : window.arrivals.dedup = [kind]

theorem transition_eq_sample_iff (follows : Follows meter history) {index : Nat}
    {kind : SubscriptionArrival} {cost : CostBreakdown} :
    meter.transition index = .sample kind cost ↔
      ∃ earlier later window, Compares history index earlier later window kind ∧
        cost = difference earlier later := by
  rw [transition, counts_eq follows, totals_eq follows, follows.arrivals]
  simp only [List.getElem?_map]
  constructor
  · intro sampled
    split at sampled
    · cases sampled
    · rename_i grows
      cases isLater : history.kept[index]? with
      | none => simp [isLater] at grows
      | some later =>
          have inside : index < history.kept.length := (List.getElem?_eq_some_iff.mp isLater).1
          have isEarlier := List.getElem?_eq_getElem (Nat.lt_of_le_of_lt (Nat.sub_le index 1) inside)
          simp only [isLater, isEarlier, Option.map_some, Option.getD_some, not_le] at grows sampled
          cases atPlace : history.windows[index]? with
          | none => simp [atPlace] at sampled
          | some window =>
              simp only [atPlace, Option.map_some, Option.getD_some] at sampled
              split at sampled
              · rename_i oneKind
                cases sampled
                exact ⟨_, later, window, ⟨isEarlier, isLater, grows, atPlace, oneKind⟩, rfl⟩
              · cases sampled
  · rintro ⟨earlier, later, window, compares, rfl⟩
    simp only [compares.isEarlier, compares.isLater, compares.atPlace, compares.oneKind,
      Option.map_some, Option.getD_some]
    rw [if_neg (not_le.mpr compares.more)]
    rfl

end Compared

/-! ## Alignment -/

/-- A sample is of two windows that were sealed one after the other, and its kind is that of the
arrivals of the later one. -/
def Aligned (meter : InMemoryCostMeter) (history : SealHistory) (index : Nat)
    (kind : SubscriptionArrival) (cost : CostBreakdown) : Prop :=
  ∃ earlier later, history.windows[index - 1]? = some earlier ∧
    history.windows[index]? = some later ∧
    meter.starts[index - 1]? = some earlier.startLedger ∧
    meter.starts[index]? = some later.startLedger ∧
    cost = difference earlier later ∧ later.arrivals.dedup = [kind]

section Alignment

variable {α : Type}

variable {p : α → Bool} {items : List α} {place : Nat}

theorem getElem?_filter_eq (front : ∀ item ∈ items.take (place + 1), p item = true) :
    (items.filter p)[place]? = items[place]? := by
  induction items generalizing place with
  | nil => rfl
  | cons head rest induction =>
      simp only [List.take_succ_cons, List.mem_cons, forall_eq_or_imp] at front
      rw [List.filter_cons_of_pos front.1]
      cases place with
      | zero => rfl
      | succ place => exact induction front.2

theorem take_of_getElem?_filter (distinct : items.Nodup) {item : α}
    (atPlace : items[place]? = some item) (keepsPlace : (items.filter p)[place]? = some item) :
    ∀ before ∈ items.take (place + 1), p before = true := by
  have passes : p item = true := (List.mem_filter.mp (List.mem_of_getElem? keepsPlace)).2
  have inside : place < items.length := (List.getElem?_eq_some_iff.mp atPlace).1
  have split : items.take (place + 1) = items.take place ++ [item] := by
    rw [List.take_add_one, atPlace]
    rfl
  have front : (items.take (place + 1)).filter p = (items.take place).filter p ++ [item] := by
    rw [split, List.filter_append, List.filter_cons_of_pos passes, List.filter_nil]
  have whole : items.filter p =
      ((items.take place).filter p ++ [item]) ++ (items.drop (place + 1)).filter p := by
    rw [← front, ← List.filter_append, List.take_append_drop]
  have reached : (items.filter p)[((items.take place).filter p).length]? = some item := by
    rw [whole, List.getElem?_append_left (by simp), List.getElem?_append_right (le_refl _)]
    simp
  have same : ((items.take place).filter p).length = place :=
    (List.getElem?_inj (List.getElem?_eq_some_iff.mp reached).1 (distinct.filter p)).mp
      (reached.trans keepsPlace.symm)
  have full : ((items.take place).filter p).length = (items.take place).length := by
    rw [same, List.length_take, min_eq_left inside.le]
  rw [split]
  exact List.forall_mem_append.mpr
    ⟨List.length_filter_eq_length_iff.mp full, List.forall_mem_singleton.mpr passes⟩

/-- The samples of a run are aligned just when no window without records was sealed before the
later window of one of them. -/
theorem aligned_iff (startLedger : Nat) (calls : List Call) :
    (∀ index kind cost,
        (historyRun startLedger calls).1.transition index = .sample kind cost →
        Aligned (historyRun startLedger calls).1 (historyRun startLedger calls).2 index kind
          cost) ↔
      ∀ index earlier later window kind,
        Compares (historyRun startLedger calls).2 index earlier later window kind →
        ∀ before ∈ (historyRun startLedger calls).2.windows.take (index + 1),
          before.hasRecords = true := by
  have follows := follows_historyRun startLedger calls
  generalize historyRun startLedger calls = state at follows ⊢
  have starts := starts_eq follows
  constructor
  · intro aligned index earlier later window kind compares
    have sampled := (transition_eq_sample_iff follows).mpr ⟨_, _, _, compares, rfl⟩
    rcases aligned index kind _ sampled with ⟨-, sealed, -, isSealed, -, start, -⟩
    have distinct : (state.2.windows.map ClosedWindow.startLedger).Nodup :=
      (List.pairwise_map.mpr follows.increasing).imp ne_of_lt
    have same : sealed = later := by
      apply List.inj_on_of_nodup_map distinct (List.mem_of_getElem? isSealed)
        (List.mem_filter.mp (List.mem_of_getElem? compares.isLater)).1
      simpa [starts, compares.isLater] using start.symm
    exact take_of_getElem?_filter distinct.of_map (same ▸ isSealed) compares.isLater
  · intro allRecorded index kind cost sampled
    rcases (transition_eq_sample_iff follows).mp sampled with
      ⟨earlier, later, window, compares, rfl⟩
    have recorded := allRecorded index earlier later window kind compares
    have isLater := (getElem?_filter_eq recorded).symm.trans compares.isLater
    have isEarlier : state.2.windows[index - 1]? = some earlier := by
      rw [← compares.isEarlier]
      apply (getElem?_filter_eq _).symm
      intro before member
      exact recorded before ((List.take_subset_take_left _ (by omega)) member)
    cases Option.some.inj (isLater.symm.trans compares.atPlace)
    exact ⟨earlier, later, isEarlier, isLater, by simp [starts, compares.isEarlier],
      by simp [starts, compares.isLater], rfl, compares.oneKind⟩

def joinedAfterEmptyWindow : List Call :=
  [.closeWindow ⟨some 10, js "10"⟩, .track (js "s1") (js "A"), .closeWindow ⟨some 20, js "20"⟩,
    .track (js "s2") (js "A"), .closeWindow ⟨some 30, js "30"⟩]

theorem shared_sampled_as_new :
    (∃ cost, (historyRun 0 joinedAfterEmptyWindow).1.transition 1 = .sample .newCondition cost) ∧
      (historyRun 0 joinedAfterEmptyWindow).1.starts = [10, 20] ∧
      ((historyRun 0 joinedAfterEmptyWindow).2.windows.map fun window =>
        (window.startLedger, window.arrivals)) =
        [(0, []), (10, [.newCondition]), (20, [.sharedCondition])] := by
  have starts : (historyRun 0 joinedAfterEmptyWindow).1.starts = [10, 20] := by decide
  have counts : (historyRun 0 joinedAfterEmptyWindow).1.counts = [1, 2] := by decide
  have arrivals : (historyRun 0 joinedAfterEmptyWindow).1.arrivalsPerWindow =
      [[], [.newCondition], [.sharedCondition]] := by decide
  refine ⟨?_, starts, by decide⟩
  rw [transition, counts, arrivals]
  exact ⟨_, rfl⟩

theorem samples_not_aligned :
    ¬∀ startLedger calls index kind cost,
      (historyRun startLedger calls).1.transition index = .sample kind cost →
      Aligned (historyRun startLedger calls).1 (historyRun startLedger calls).2 index kind
        cost := by
  intro aligned
  rcases shared_sampled_as_new with ⟨⟨cost, sampled⟩, starts, sealedWindows⟩
  rcases aligned 0 joinedAfterEmptyWindow 1 .newCondition cost sampled with
    ⟨-, later, -, isLater, -, start, -⟩
  have second := congrArg (·[1]?) sealedWindows
  simp [starts, isLater] at start second
  omega

end Alignment

end InMemoryCostMeter

end Orbital.WorkerCore
