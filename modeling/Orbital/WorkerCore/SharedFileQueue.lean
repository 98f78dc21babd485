import Orbital.Foundation.Trace
import Orbital.WorkerCore.WorkerRetryQueue

/-! # Overlapping calls of `FileWorkerRetryQueue`

Every `await` of a call lets other calls go on. The cache names an array, which calls change
in place; what is written is the text that an array has when its directory is there.
-/

namespace Orbital.WorkerCore

open Foundation

variable {Metadata Failure : Type}

namespace RetryRecords

def serve (records : List (WorkerRetryRecord Metadata Failure)) :
    RetryCall Metadata Failure →
      Option (WorkerRetryRecord Metadata Failure) × List (WorkerRetryRecord Metadata Failure)
  | .enqueue record now => (none, upsert records { record with updatedAt := now })
  | .dequeue nowMs =>
      match takeBest records nowMs with
      | none => (none, records)
      | some (best, rest) => (some best, rest)
  | .ack recordId => (none, without records recordId)

def machine : Machine (List (WorkerRetryRecord Metadata Failure)) (RetryCall Metadata Failure)
    (Option (WorkerRetryRecord Metadata Failure)) where
  step := serve

end RetryRecords

namespace FileWorkerRetryQueue

theorem load_ack (queue : FileWorkerRetryQueue Metadata Failure) (recordId : JsString) :
    (queue.ack recordId).load = RetryRecords.without queue.load recordId := by
  rw [ack]
  by_cases shorter : (RetryRecords.without queue.load recordId).length ≠ queue.load.length
  · simp only [if_pos shorter]
    rfl
  · have same : RetryRecords.without queue.load recordId = queue.load :=
      List.filter_eq_self.mpr (List.length_filter_eq_length_iff.mp (not_not.mp shorter))
    rw [if_neg shorter, same]
    rfl

theorem refines_records : Machine.Refines (@machine Metadata Failure)
    RetryRecords.machine (fun _ _ => True) fun queue records => queue.load = records where
  answer := by
    rintro queue - call rfl -
    cases call with
    | enqueue record now | ack recordId => rfl
    | dequeue nowMs =>
        show (queue.dequeue nowMs).1 = (RetryRecords.serve queue.load (.dequeue nowMs)).1
        rw [dequeue, RetryRecords.serve]
        cases RetryRecords.takeBest queue.load nowMs with
        | none | some taken => rfl
  related := by
    rintro queue - call rfl -
    cases call with
    | enqueue record now => rfl
    | ack recordId => exact load_ack queue recordId
    | dequeue nowMs =>
        show (queue.dequeue nowMs).2.load = (RetryRecords.serve queue.load (.dequeue nowMs)).2
        rw [dequeue, RetryRecords.serve]
        cases RetryRecords.takeBest queue.load nowMs with
        | none | some taken => rfl

end FileWorkerRetryQueue

/-! ## The steps of a call -/

/-- Where a call is. An answer is fixed as soon as the call has looked at the array. -/
inductive CallPhase (Metadata Failure : Type)
  | reading
  | read (contents : List (WorkerRetryRecord Metadata Failure))
  | loaded (address : Nat)
  | makingDirectory (address : Nat) (answer : Option (WorkerRetryRecord Metadata Failure))
  | writing (answer : Option (WorkerRetryRecord Metadata Failure))
  | done (answer : Option (WorkerRetryRecord Metadata Failure))

def CallPhase.answer? :
    CallPhase Metadata Failure → Option (Option (WorkerRetryRecord Metadata Failure))
  | .makingDirectory _ answer => some answer
  | .writing answer => some answer
  | .done answer => some answer
  | _ => none

structure SharedFileQueue (Metadata Failure : Type) where
  file : Option (List (WorkerRetryRecord Metadata Failure))
  arrays : List (List (WorkerRetryRecord Metadata Failure))
  cache : Option Nat
  temporary : List (Nat × List (WorkerRetryRecord Metadata Failure))
  calls : List (RetryCall Metadata Failure × CallPhase Metadata Failure)

namespace SharedFileQueue

variable (queue : SharedFileQueue Metadata Failure)

def opened (file : Option (List (WorkerRetryRecord Metadata Failure))) :
    SharedFileQueue Metadata Failure where
  file := file
  arrays := []
  cache := none
  temporary := []
  calls := []

def array (address : Nat) : List (WorkerRetryRecord Metadata Failure) :=
  queue.arrays[address]?.getD []

def contents : List (WorkerRetryRecord Metadata Failure) :=
  match queue.cache with
  | some address => queue.array address
  | none => queue.file.getD []

/-- Where a call comes to with `this.load()`. -/
def load : CallPhase Metadata Failure :=
  match queue.cache with
  | some address => .loaded address
  | none => .reading

def goes (index : Nat) (call : RetryCall Metadata Failure) (phase : CallPhase Metadata Failure) :
    SharedFileQueue Metadata Failure :=
  { queue with calls := queue.calls.set index (call, phase) }

/-- `this.cache = records`, and the directory is asked for. -/
def persist (index : Nat) (call : RetryCall Metadata Failure) (address : Nat)
    (answer : Option (WorkerRetryRecord Metadata Failure)) : SharedFileQueue Metadata Failure :=
  { queue with cache := some address }.goes index call (.makingDirectory address answer)

def act (index : Nat) (call : RetryCall Metadata Failure) (address : Nat) :
    SharedFileQueue Metadata Failure :=
  match call with
  | .enqueue record now =>
      let records := RetryRecords.upsert (queue.array address) { record with updatedAt := now }
      let changed := { queue with arrays := queue.arrays.set address records }
      changed.persist index call address none
  | .dequeue nowMs =>
      match RetryRecords.takeBest (queue.array address) nowMs with
      | none => queue.goes index call (.done none)
      | some (best, rest) =>
          let changed := { queue with arrays := queue.arrays.set address rest }
          changed.persist index call address (some best)
  | .ack recordId =>
      let next := RetryRecords.without (queue.array address) recordId
      if next.length ≠ (queue.array address).length then
        let changed := { queue with arrays := queue.arrays ++ [next] }
        changed.persist index call queue.arrays.length none
      else queue.goes index call (.done none)

inductive Event (Metadata Failure : Type)
  | start (call : RetryCall Metadata Failure)
  | proceed (index : Nat)

def proceed (index : Nat) (call : RetryCall Metadata Failure) :
    CallPhase Metadata Failure → Option (SharedFileQueue Metadata Failure)
  | .reading => some (queue.goes index call (.read (queue.file.getD [])))
  | .read contents =>
      let assigned := { queue with
        arrays := queue.arrays ++ [contents]
        cache := some queue.arrays.length }
      some (assigned.goes index call (.loaded queue.arrays.length))
  | .loaded address => some (queue.act index call address)
  | .makingDirectory address answer =>
      let written := { queue with
        temporary := queue.temporary ++ [(index, queue.array address)] }
      some (written.goes index call (.writing answer))
  | .writing answer =>
      (queue.temporary.find? fun entry => entry.1 = index).map fun entry =>
        let renamed := { queue with
          file := some entry.2
          temporary := queue.temporary.eraseP fun other => other.1 = index }
        renamed.goes index call (.done answer)
  | .done _ => none

def step : Event Metadata Failure → Option (SharedFileQueue Metadata Failure)
  | .start call => some { queue with calls := queue.calls ++ [(call, queue.load)] }
  | .proceed index =>
      queue.calls[index]?.bind fun call => queue.proceed index call.1 call.2

/-- The file is read by one call, calls look at arrays and write arrays that are in the cache,
and texts get to the file in their order. -/
def Ready (index : Nat) : CallPhase Metadata Failure → Prop
  | .read _ => queue.cache = none
  | .loaded address => queue.cache = some address
  | .makingDirectory address _ => queue.cache = some address
  | .writing _ => queue.temporary.head?.map Prod.fst = some index
  | _ => True

instance (index : Nat) : (phase : CallPhase Metadata Failure) → Decidable (queue.Ready index phase)
  | .read _ => inferInstanceAs (Decidable (queue.cache = none))
  | .loaded address => inferInstanceAs (Decidable (queue.cache = some address))
  | .makingDirectory address _ => inferInstanceAs (Decidable (queue.cache = some address))
  | .writing _ => inferInstanceAs (Decidable (queue.temporary.head?.map Prod.fst = some index))
  | .reading | .done _ => isTrue trivial

def InOrder : Event Metadata Failure → Prop
  | .start _ => True
  | .proceed index => ∀ call ∈ queue.calls[index]?, queue.Ready index call.2

instance : (event : Event Metadata Failure) → Decidable (queue.InOrder event)
  | .start _ => isTrue trivial
  | .proceed index =>
      inferInstanceAs (Decidable (∀ call ∈ queue.calls[index]?, queue.Ready index call.2))

end SharedFileQueue

end Orbital.WorkerCore
