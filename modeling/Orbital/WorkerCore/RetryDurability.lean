import Orbital.WorkerCore.WorkerRetryQueue

/-! # Crashes of the file-backed retry queue

Calls may be cut off by a crash, before or behind the rename that writes the file. What was
enqueued and not acknowledged is durable as long as no dequeue takes a record out of the file.
-/

namespace Orbital.WorkerCore.FileWorkerRetryQueue

open Foundation

variable {Metadata Failure : Type} {queue : FileWorkerRetryQueue Metadata Failure}
  {record : WorkerRetryRecord Metadata Failure} {nowMs : ℚ}

def contents (queue : FileWorkerRetryQueue Metadata Failure) :
    List (WorkerRetryRecord Metadata Failure) :=
  queue.file.getD []

/-! ## What a new process hands out -/

/-- A new process that only dequeues hands out the record. -/
def Dequeueable (queue : FileWorkerRetryQueue Metadata Failure)
    (record : WorkerRetryRecord Metadata Failure) : Prop :=
  ∃ times : List ℚ, some record ∈ machine.answers queue.restart (times.map .dequeue)

theorem dequeue_of_none (none : RetryRecords.takeBest queue.load nowMs = none) :
    queue.dequeue nowMs = (Option.none, queue.loaded) := by
  rw [dequeue, none]

theorem dequeue_of_some {best : WorkerRetryRecord Metadata Failure}
    {rest : List (WorkerRetryRecord Metadata Failure)}
    (taken : RetryRecords.takeBest queue.load nowMs = some (best, rest)) :
    queue.dequeue nowMs = (some best, persist rest) := by
  rw [dequeue, taken]

theorem mem_load_of_answer {times : List ℚ}
    (answered : some record ∈ machine.answers queue (times.map .dequeue)) :
    record ∈ queue.load := by
  induction times generalizing queue with
  | nil => cases answered
  | cons nowMs times induction =>
      have answered : some record = (queue.dequeue nowMs).1 ∨
          some record ∈ machine.answers (queue.dequeue nowMs).2 (times.map .dequeue) :=
        List.mem_cons.mp answered
      cases found : RetryRecords.takeBest queue.load nowMs with
      | none =>
          rw [dequeue_of_none found] at answered
          rcases answered with never | later
          · cases never
          · exact @induction queue.loaded later
      | some taken =>
          rcases taken with ⟨best, rest⟩
          rw [dequeue_of_some found] at answered
          rcases RetryRecords.takeBest_eq_some found with ⟨-, front, back, split, others⟩
          rcases answered with now | later
          · cases now
            rw [split]
            exact List.mem_append_right _ List.mem_cons_self
          · have inside : record ∈ rest := induction later
            rw [others] at inside
            rw [split]
            rcases List.mem_append.mp inside with before | behind
            · exact List.mem_append_left _ before
            · exact List.mem_append_right _ (List.mem_cons_of_mem _ behind)

theorem answer_of_mem_load (member : record ∈ queue.load) (isDue : record.nextRetryAt ≤ nowMs) :
    ∃ times : List ℚ, some record ∈ machine.answers queue (times.map .dequeue) := by
  induction size : queue.load.length generalizing queue with
  | zero =>
      rw [List.length_eq_zero_iff.mp size] at member
      cases member
  | succ length induction =>
      cases found : RetryRecords.takeBest queue.load nowMs with
      | none =>
          exact absurd isDue (not_le.mpr (RetryRecords.takeBest_eq_none.mp found record member))
      | some taken =>
          rcases taken with ⟨best, rest⟩
          rcases RetryRecords.takeBest_eq_some found with ⟨-, front, back, split, others⟩
          have step : machine.step queue (.dequeue nowMs) = (some best, persist rest) :=
            dequeue_of_some found
          rw [split, List.mem_append, List.mem_cons] at member
          by_cases isBest : record = best
          · refine ⟨[nowMs], ?_⟩
            rw [List.map_singleton, Machine.answers, step, isBest]
            exact List.mem_cons_self
          · have inside : record ∈ (persist rest).load := by
              show record ∈ rest
              rw [others, List.mem_append]
              rcases member with before | same | behind
              · exact .inl before
              · exact absurd same isBest
              · exact .inr behind
            have shorter : (persist rest).load.length = length := by
              rw [split, List.length_append, List.length_cons] at size
              show rest.length = length
              rw [others, List.length_append]
              omega
            rcases induction inside shorter with ⟨times, answered⟩
            refine ⟨nowMs :: times, ?_⟩
            rw [List.map_cons, Machine.answers, step]
            exact List.mem_cons_of_mem _ answered

theorem dequeueable_iff : queue.Dequeueable record ↔ record ∈ queue.contents := by
  constructor
  · rintro ⟨times, answered⟩
    exact mem_load_of_answer answered
  · intro member
    exact answer_of_mem_load member (le_refl record.nextRetryAt)

/-! ## Processes that crash -/

inductive Ending
  | completes
  | crashesBeforeWrite
  | crashesAfterWrite
  deriving DecidableEq

inductive ProcessEvent (Metadata Failure : Type)
  | call (call : RetryCall Metadata Failure) (ending : Ending)
  | restart

structure Observed (Metadata Failure : Type) where
  queue : FileWorkerRetryQueue Metadata Failure
  owed : JsString → Option (WorkerRetryRecord Metadata Failure)

namespace Observed

def start : Observed Metadata Failure where
  queue := .empty
  owed := fun _ => none

def owe (owed : JsString → Option (WorkerRetryRecord Metadata Failure)) :
    RetryCall Metadata Failure → JsString → Option (WorkerRetryRecord Metadata Failure)
  | .enqueue record now => Function.update owed record.id (some { record with updatedAt := now })
  | .dequeue _ => owed
  | .ack recordId => Function.update owed recordId none

def process : Machine (Observed Metadata Failure) (ProcessEvent Metadata Failure)
    (Option (WorkerRetryRecord Metadata Failure)) where
  step state event :=
    match event with
    | .call call .completes =>
        ((machine.step state.queue call).1, {
          queue := (machine.step state.queue call).2
          owed := owe state.owed call })
    | .call _ .crashesBeforeWrite => (none, { state with queue := state.queue.restart })
    | .call call .crashesAfterWrite => (none, {
        queue := (machine.step state.queue call).2.restart
        owed := owe state.owed call })
    | .restart => (none, { state with queue := state.queue.restart })

/-- What is owed can be dequeued after a crash. -/
def Durable (state : Observed Metadata Failure) : Prop :=
  ∀ id record, state.owed id = some record → state.queue.Dequeueable record

def TakesNothing (state : Observed Metadata Failure) : ProcessEvent Metadata Failure → Prop
  | .call (.dequeue nowMs) ending =>
      ending = .crashesBeforeWrite ∨ ∀ record ∈ state.queue.load, nowMs < record.nextRetryAt
  | _ => True

/-! ## What is owed is in the file -/

variable {state : Observed Metadata Failure}

structure Settled (state : Observed Metadata Failure) : Prop where
  synced : state.queue.load = state.queue.contents
  distinct : RetryRecords.Distinct state.queue.contents
  owed : ∀ id record, state.owed id = some record ↔
    record ∈ state.queue.contents ∧ record.id = id

theorem settled_start : (start : Observed Metadata Failure).Settled where
  synced := rfl
  distinct := List.nodup_nil
  owed := by
    intro id record
    constructor
    · intro never
      cases never
    · rintro ⟨never, -⟩
      cases never

theorem Settled.durable (settled : state.Settled) : state.Durable := by
  intro id record isOwed
  exact dequeueable_iff.mpr ((settled.owed id record).mp isOwed).1

theorem Settled.restart (settled : state.Settled) :
    ({ state with queue := state.queue.restart } : Observed Metadata Failure).Settled where
  synced := rfl
  distinct := settled.distinct
  owed := settled.owed

theorem Settled.enqueue (settled : state.Settled) (record : WorkerRetryRecord Metadata Failure)
    (now : ℚ) : Settled {
      queue := state.queue.enqueue record now
      owed := owe state.owed (.enqueue record now) } where
  synced := rfl
  distinct := by
    show RetryRecords.Distinct (RetryRecords.upsert state.queue.load _)
    rw [settled.synced]
    exact settled.distinct.upsert _
  owed := by
    intro id other
    show Function.update state.owed record.id _ id = some other ↔
      other ∈ RetryRecords.upsert state.queue.load { record with updatedAt := now } ∧ other.id = id
    rw [settled.synced, RetryRecords.mem_upsert settled.distinct, Function.update_apply]
    split
    · rename_i same
      subst same
      rw [Option.some_inj]
      constructor
      · rintro rfl
        exact ⟨.inl rfl, rfl⟩
      · rintro ⟨isNew | ⟨-, differs⟩, sameId⟩
        · exact isNew.symm
        · exact absurd sameId differs
    · rename_i differs
      rw [settled.owed]
      constructor
      · rintro ⟨member, rfl⟩
        exact ⟨.inr ⟨member, differs⟩, rfl⟩
      · rintro ⟨rfl | ⟨member, -⟩, sameId⟩
        · exact absurd sameId.symm differs
        · exact ⟨member, sameId⟩

theorem ack_eq (synced : queue.load = queue.contents) (recordId : JsString) :
    (queue.ack recordId).load = RetryRecords.without queue.contents recordId ∧
      (queue.ack recordId).contents = RetryRecords.without queue.contents recordId := by
  rw [ack, ← synced]
  by_cases shorter : (RetryRecords.without queue.load recordId).length ≠ queue.load.length
  · simp only [if_pos shorter]
    exact ⟨rfl, rfl⟩
  · have same : RetryRecords.without queue.load recordId = queue.load :=
      List.filter_eq_self.mpr (List.length_filter_eq_length_iff.mp (not_not.mp shorter))
    rw [if_neg shorter, same]
    exact ⟨rfl, synced.symm⟩

theorem Settled.ack (settled : state.Settled) (recordId : JsString) : Settled {
      queue := state.queue.ack recordId
      owed := owe state.owed (.ack recordId) } where
  synced := by
    rw [(ack_eq settled.synced recordId).1, (ack_eq settled.synced recordId).2]
  distinct := by
    rw [(ack_eq settled.synced recordId).2]
    exact settled.distinct.sublist (List.filter_sublist.map _)
  owed := by
    intro id other
    show Function.update state.owed recordId none id = some other ↔ _
    rw [(ack_eq settled.synced recordId).2, RetryRecords.without, List.mem_filter,
      Function.update_apply, decide_eq_true_iff]
    split
    · rename_i same
      subst same
      constructor
      · intro never
        cases never
      · rintro ⟨⟨-, differs⟩, sameId⟩
        exact absurd sameId differs
    · rename_i differs
      rw [settled.owed]
      constructor
      · rintro ⟨member, rfl⟩
        exact ⟨⟨member, differs⟩, rfl⟩
      · rintro ⟨⟨member, -⟩, sameId⟩
        exact ⟨member, sameId⟩

theorem Settled.loaded (settled : state.Settled) :
    ({ state with queue := state.queue.loaded } : Observed Metadata Failure).Settled where
  synced := settled.synced
  distinct := settled.distinct
  owed := settled.owed

theorem Settled.call (settled : state.Settled) {call : RetryCall Metadata Failure}
    (nothing : state.TakesNothing (.call call .completes)) : Settled {
      queue := (machine.step state.queue call).2
      owed := owe state.owed call } := by
  cases call with
  | enqueue record now => exact settled.enqueue record now
  | ack recordId => exact settled.ack recordId
  | dequeue nowMs =>
      rcases nothing with never | late
      · cases never
      · have step : machine.step state.queue (.dequeue nowMs) = (none, state.queue.loaded) :=
          dequeue_of_none (RetryRecords.takeBest_eq_none.mpr late)
        rw [step]
        exact settled.loaded

theorem takesNothing_after {call : RetryCall Metadata Failure}
    (nothing : state.TakesNothing (.call call .crashesAfterWrite)) :
    state.TakesNothing (.call call .completes) := by
  cases call with
  | enqueue record now | ack recordId => trivial
  | dequeue nowMs =>
      rcases nothing with never | late
      · cases never
      · exact .inr late

theorem Settled.step (settled : state.Settled) {event : ProcessEvent Metadata Failure}
    (nothing : state.TakesNothing event) : (process.step state event).2.Settled := by
  cases event with
  | restart => exact settled.restart
  | call call ending =>
      cases ending with
      | completes => exact settled.call nothing
      | crashesBeforeWrite => exact settled.restart
      | crashesAfterWrite => exact (settled.call (takesNothing_after nothing)).restart

theorem Settled.not_durable_of_taken (settled : state.Settled) {next : Observed Metadata Failure}
    {best : WorkerRetryRecord Metadata Failure} {rest : List (WorkerRetryRecord Metadata Failure)}
    (taken : RetryRecords.takeBest state.queue.load nowMs = some (best, rest))
    (owed : next.owed = state.owed)
    (file : next.queue.contents = rest) : ¬ next.Durable := by
  intro durable
  rcases RetryRecords.takeBest_eq_some taken with ⟨-, front, back, split, others⟩
  rw [settled.synced] at split
  have isOwed : next.owed best.id = some best := by
    rw [owed, settled.owed, split]
    exact ⟨List.mem_append_right _ List.mem_cons_self, rfl⟩
  have inside := dequeueable_iff.mp (durable best.id best isOwed)
  have once := settled.distinct
  rw [RetryRecords.Distinct, split, List.map_append, List.map_cons, List.nodup_middle,
    List.nodup_cons, ← List.map_append] at once
  rw [file, others] at inside
  exact once.1 (List.mem_map_of_mem inside)

theorem Settled.lost (settled : state.Settled) {event : ProcessEvent Metadata Failure}
    (takes : ¬ state.TakesNothing event) : ¬ (process.step state event).2.Durable := by
  cases event with
  | restart => exact absurd trivial takes
  | call call ending =>
      cases call with
      | enqueue record now | ack recordId => exact absurd trivial takes
      | dequeue nowMs =>
          rw [TakesNothing, not_or] at takes
          cases found : RetryRecords.takeBest state.queue.load nowMs with
          | none => exact absurd (RetryRecords.takeBest_eq_none.mp found) takes.2
          | some taken =>
              rcases taken with ⟨best, rest⟩
              have file : (machine.step state.queue (.dequeue nowMs)).2.contents = rest :=
                congrArg (fun step => contents step.2) (dequeue_of_some found)
              cases ending with
              | crashesBeforeWrite => exact absurd rfl takes.1
              | completes | crashesAfterWrite => exact settled.not_durable_of_taken found rfl file

/-- What is owed can be dequeued after a crash at any point of a run exactly if no dequeue of
the run takes a record out of the file. -/
theorem durable_throughout_iff (events : List (ProcessEvent Metadata Failure)) :
    (∀ front, front <+: events → (process.after start front).Durable) ↔
      process.Meets TakesNothing start events :=
  @Machine.throughout_iff _ _ _ process Settled Durable TakesNothing (fun settled => settled.durable)
    (fun settled nothing => settled.step nothing) (fun settled takes => settled.lost takes) start
      settled_start events

/-- A record that is dequeued and not acknowledged is lost with the process. -/
theorem dequeued_record_lost :
    ¬ (process.after (start : Observed Unit JsString)
      [.call (.enqueue (.payroll 2 0) 0) .completes, .call (.dequeue 0) .completes,
        .restart]).Durable := by
  intro durable
  have owed : owe (owe (fun _ => none) (.enqueue (.payroll 2 0) 0)) (.dequeue 0)
      (WorkerRetryRecord.payroll 2 0).id = some (.payroll 2 0) := by
    rw [owe, owe]
    exact Function.update_self ..
  cases dequeueable_iff.mp (durable (WorkerRetryRecord.payroll 2 0).id (.payroll 2 0) owed)

end Observed

end Orbital.WorkerCore.FileWorkerRetryQueue
