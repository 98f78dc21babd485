import Orbital.Foundation.Links
import Orbital.WorkerCore.WorkerFireVerdictStore

/-! # `MemoryWorkerVerdictStore.ts`: the latest verdict of a window

A record names the one it supersedes by a free id. A window with records has a latest one as
long as these links have no cycle, which the store does not check.
-/

namespace Orbital.WorkerCore.WorkerFireVerdictStore

open Foundation

def Recorded.corrects {Time : Type} (recorded : Recorded Time) : Option JsString :=
  recorded.supersedes.filter fun recordId => !recordId.isEmpty

/-- The store of the memory behind calls of `record`. -/
def memoryStore : Machine MemoryWorkerVerdictStore Call (Except StoreError WorkerVerdictRecord) where
  step store call := record MemoryWorkerVerdictStore.write call.now call.input store

/-! ## The property -/

/-- Records of a window that supersede one another have no cycle. -/
abbrev Acyclic (history : List WorkerVerdictRecord) : Prop :=
  Links.Acyclic Recorded.recordId Recorded.corrects history

structure Judged (localeCompare : JsString → JsString → Int) (store : MemoryWorkerVerdictStore) :
    Prop where
  latest : ∀ windowId, store.getHistoryForWindow windowId ≠ [] →
    (store.getLatestForWindow localeCompare windowId).isSome
  acyclic : ∀ windowId, Acyclic (store.getHistoryForWindow windowId)

def Refused (store : MemoryWorkerVerdictStore) (call : Call) : Prop :=
  call.Unexplained ∨ store.byRecordId.has call.record.recordId = true

/-- A record that is taken does not supersede itself, and from the record that it supersedes no
corrections lead to one that supersedes it in advance. -/
def ClosesNoCycle (store : MemoryWorkerVerdictStore) (call : Call) : Prop :=
  Refused store call ∨
    ¬ Links.Closes Recorded.recordId Recorded.corrects
      (store.getHistoryForWindow call.record.windowId) call.record.recordId call.record.corrects

/-! ## The latest record -/

variable {localeCompare : JsString → JsString → Int} {store : MemoryWorkerVerdictStore}
  {history : List WorkerVerdictRecord} {call : Call}

theorem latestOf_isSome_iff :
    (latestOf localeCompare history).isSome ↔
      ∃ record ∈ history, ∀ other ∈ history, other.corrects ≠ some record.recordId := by
  have superseded (recordId : JsString) :
      recordId ∈ history.filterMap Recorded.corrects ↔
        ∃ other ∈ history, other.corrects = some recordId :=
    List.mem_filterMap
  have left : (latestOf localeCompare history).isSome ↔
      history.filter (fun record => record.recordId ∉ history.filterMap Recorded.corrects) ≠ [] := by
    rw [latestOf, List.getLast?_isSome, ne_eq, ← List.length_eq_zero_iff,
      List.length_insertionSort, List.length_eq_zero_iff]
    rfl
  rw [left, ne_eq, List.filter_eq_nil_iff]
  simp only [decide_eq_true_eq, superseded, not_forall, not_not, exists_prop, not_exists, not_and,
    ne_eq]

theorem latestOf_isSome (acyclic : Acyclic history) (nonempty : history ≠ []) :
    (latestOf localeCompare history).isSome :=
  latestOf_isSome_iff.mpr (acyclic.exists_unlinked nonempty)

/-! ## The store behind a call -/

structure Chained (store : MemoryWorkerVerdictStore) : Prop where
  taken : ∀ windowId, ∀ record ∈ store.getHistoryForWindow windowId,
    store.byRecordId.has record.recordId = true
  acyclic : ∀ windowId, Acyclic (store.getHistoryForWindow windowId)

theorem chained_empty : Chained .empty where
  taken _ _ member := nomatch member
  acyclic _ := Links.acyclic_nil

theorem Chained.judged (chained : Chained store) : Judged localeCompare store where
  latest windowId nonempty := latestOf_isSome (chained.acyclic windowId) nonempty
  acyclic := chained.acyclic

theorem step_refused (refused : Refused store call) : (memoryStore.step store call).2 = store := by
  show (record _ _ _ _).2 = store
  by_cases unexplained : call.Unexplained
  · rw [Call.Unexplained] at unexplained
    rw [record, if_pos unexplained]
  · rw [record_explained unexplained, MemoryWorkerVerdictStore.write,
      if_pos (refused.resolve_left unexplained)]
    rfl

theorem step_taken (taken : ¬ Refused store call) :
    (memoryStore.step store call).2.byRecordId =
        store.byRecordId.set call.record.recordId call.record ∧
      ∀ windowId, (memoryStore.step store call).2.getHistoryForWindow windowId =
        if windowId = call.record.windowId then
          store.getHistoryForWindow windowId ++ [call.record]
        else store.getHistoryForWindow windowId := by
  rw [Refused, not_or] at taken
  show MemoryWorkerVerdictStore.byRecordId (record _ _ _ _).2 = _ ∧
    ∀ windowId, MemoryWorkerVerdictStore.getHistoryForWindow (record _ _ _ _).2 windowId = _
  rw [record_explained taken.1, MemoryWorkerVerdictStore.write, if_neg taken.2]
  refine ⟨rfl, fun windowId => ?_⟩
  show ((store.byWindowId.set call.record.windowId _).get? windowId).getD [] = _
  rw [InsertionMap.get?_set]
  split
  · rename_i same
    rw [same]
    rfl
  · rfl

theorem Chained.fresh (chained : Chained store) (taken : ¬ Refused store call)
    (windowId : JsString) : call.record ∉ store.getHistoryForWindow windowId :=
  fun member => taken (.inr (chained.taken windowId _ member))

theorem Chained.acyclic_step_iff (chained : Chained store) (taken : ¬ Refused store call) :
    Acyclic ((memoryStore.step store call).2.getHistoryForWindow call.record.windowId) ↔
      ClosesNoCycle store call := by
  rw [(step_taken taken).2, if_pos rfl, Acyclic,
    Links.acyclic_append_iff (chained.fresh taken _), ClosesNoCycle, or_iff_right taken]
  exact and_iff_right (chained.acyclic _)

theorem Chained.step (chained : Chained store) (closesNone : ClosesNoCycle store call) :
    Chained (memoryStore.step store call).2 := by
  by_cases refused : Refused store call
  · rw [step_refused refused]
    exact chained
  · rcases step_taken refused with ⟨byRecordId, history⟩
    constructor
    · intro windowId record member
      rw [history] at member
      rw [byRecordId, InsertionMap.has, InsertionMap.get?_set]
      split
      · rfl
      · rename_i different
        apply chained.taken windowId record
        split at member
        · rcases List.mem_append.mp member with before | new
          · exact before
          · rw [List.mem_singleton.mp new] at different
            exact absurd rfl different
        · exact member
    · intro windowId
      by_cases same : windowId = call.record.windowId
      · rw [same]
        exact (chained.acyclic_step_iff refused).mpr closesNone
      · rw [history, if_neg same]
        exact chained.acyclic windowId

/-- Every window with a record has a latest one all along, its corrections without a cycle, if
and only if no record that is taken closes one. -/
theorem judged_throughout_iff (localeCompare : JsString → JsString → Int) (calls : List Call) :
    (∀ front, front <+: calls → Judged localeCompare (memoryStore.after .empty front)) ↔
      memoryStore.Meets ClosesNoCycle .empty calls := by
  apply Machine.throughout_iff (motive := Chained) Chained.judged Chained.step _ chained_empty
  intro store call chained closes judged
  have taken : ¬ Refused store call := fun refused => closes (.inl refused)
  exact closes ((chained.acyclic_step_iff taken).mp (judged.acyclic _))

/-! ### A record that supersedes itself -/

def selfCorrection : Call where
  now := js "2026-01-01T00:00:00.000Z"
  input := { firstVerdict.input with
    supersedes := some firstVerdict.input.recordId
    correctionReason := some (js "backfill") }

/-- The record is taken, and its window has no latest one. -/
theorem window_without_latest :
    ¬ ∀ (calls : List Call) (windowId : JsString),
      (memoryStore.after .empty calls).getHistoryForWindow windowId ≠ [] →
        ((memoryStore.after .empty calls).getLatestForWindow (fun _ _ => 0) windowId).isSome := by
  intro always
  have stored : (memoryStore.after .empty [selfCorrection]).getHistoryForWindow (js "w1:ev-1") =
      [selfCorrection.record] := by
    decide
  have latest := always [selfCorrection] (js "w1:ev-1") (by rw [stored]; exact List.cons_ne_nil _ _)
  revert latest
  decide

end Orbital.WorkerCore.WorkerFireVerdictStore
