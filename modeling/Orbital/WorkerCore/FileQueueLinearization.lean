import Mathlib.Data.List.Permutation
import Orbital.WorkerCore.SharedFileQueue

/-! # An order of overlapping calls

In a run whose steps are in order, the calls take effect one after the other where they look
at the array, and the file comes to what the array has.
-/

namespace Orbital.WorkerCore

open Foundation

/-! ## Records that calls account for -/

namespace RetryRecords

variable {Metadata Failure : Type} {records : List (WorkerRetryRecord Metadata Failure)}
  {id : JsString} {call : RetryCall Metadata Failure}

abbrev Exchange (Metadata Failure : Type) :=
  RetryCall Metadata Failure × Option (WorkerRetryRecord Metadata Failure)

def held (id : JsString) (records : List (WorkerRetryRecord Metadata Failure)) : Nat :=
  records.countP fun record => record.id = id

def enqueues (id : JsString) : RetryCall Metadata Failure → Bool
  | .enqueue record _ => record.id = id
  | _ => false

def handsOut (id : JsString) (answer : Option (WorkerRetryRecord Metadata Failure)) : Bool :=
  answer.any fun record => record.id = id

theorem held_serve_le (id : JsString) (records : List (WorkerRetryRecord Metadata Failure))
    (call : RetryCall Metadata Failure) :
    (handsOut id (serve records call).1).toNat + held id (serve records call).2 ≤
      (enqueues id call).toNat + held id records := by
  cases call with
  | enqueue record now =>
      show 0 + held id (upsert records { record with updatedAt := now }) ≤ _
      rcases upsert_cases records { record with updatedAt := now } with
        ⟨front, old, back, split, same, after⟩ | ⟨-, after⟩
      · rw [after, split, held, held, List.countP_append, List.countP_append, List.countP_cons,
          List.countP_cons, same]
        omega
      · rw [after, held, held, List.countP_append, List.countP_singleton, enqueues]
        by_cases isId : record.id = id
        · rw [if_pos (decide_eq_true isId), decide_eq_true isId, Bool.toNat_true]
          omega
        · rw [if_neg (by simpa using isId)]
          omega
  | dequeue nowMs =>
      rw [serve]
      cases found : takeBest records nowMs with
      | none => exact Nat.le_refl _
      | some taken =>
          rcases taken with ⟨best, rest⟩
          rcases takeBest_eq_some found with ⟨-, front, back, split, others⟩
          show (decide (best.id = id)).toNat + held id rest ≤ 0 + held id records
          rw [split, others, held, held, List.countP_append, List.countP_append, List.countP_cons]
          by_cases isId : best.id = id
          · rw [if_pos (decide_eq_true isId), decide_eq_true isId, Bool.toNat_true]
            omega
          · rw [if_neg (by simpa using isId), decide_eq_false isId, Bool.toNat_false]
            omega
  | ack recordId =>
      show 0 + held id (without records recordId) ≤ 0 + held id records
      rw [held, held, without]
      exact Nat.add_le_add_left (List.filter_sublist.countP_le) 0

theorem handsOut_le {history : List (Exchange Metadata Failure)}
    {final : List (WorkerRetryRecord Metadata Failure)}
    (explains : machine.Explains records history final) (id : JsString) :
    history.countP (fun exchange => handsOut id exchange.2) + held id final ≤
      history.countP (fun exchange => enqueues id exchange.1) + held id records := by
  rcases explains with ⟨order, isOrder, answered, rfl⟩
  rw [← isOrder.countP_eq, ← isOrder.countP_eq]
  clear isOrder
  induction order generalizing records with
  | nil => exact Nat.le_refl _
  | cons exchange rest induction =>
      rcases List.cons.inj answered with ⟨first, later⟩
      have step := held_serve_le id records exchange.1
      have others := induction later
      rw [show (serve records exchange.1).1 = exchange.2 from first] at step
      rw [List.countP_cons, List.countP_cons, List.map_cons]
      show _ + held id (machine.after (serve records exchange.1).2 (rest.map Prod.fst)) ≤ _
      have toNat (kind : Bool) : (if kind = true then 1 else 0) = kind.toNat := by
        cases kind <;> rfl
      rw [toNat, toNat]
      have others : _ + held id (machine.after (serve records exchange.1).2 (rest.map Prod.fst)) ≤
          _ + held id (serve records exchange.1).2 := others
      omega

def Settles (id : JsString) (exchange : Exchange Metadata Failure) : Prop :=
  handsOut id exchange.2 = true ∨ exchange.1 = .ack id

theorem has_upsert (records : List (WorkerRetryRecord Metadata Failure))
    (updated : WorkerRetryRecord Metadata Failure) :
    (∀ stored ∈ records, ∃ still ∈ upsert records updated, still.id = stored.id) ∧
      updated ∈ upsert records updated := by
  rcases upsert_cases records updated with ⟨front, old, back, split, same, after⟩ | ⟨-, after⟩
  · rw [after, split]
    refine ⟨?_, List.mem_append_right _ List.mem_cons_self⟩
    intro stored member
    rcases List.mem_append.mp member with before | behind
    · exact ⟨stored, List.mem_append_left _ before, rfl⟩
    · rcases List.mem_cons.mp behind with isOld | behind
      · exact ⟨updated, List.mem_append_right _ List.mem_cons_self, isOld ▸ same.symm⟩
      · exact ⟨stored, List.mem_append_right _ (List.mem_cons_of_mem _ behind), rfl⟩
  · rw [after]
    refine ⟨?_, List.mem_append_right _ List.mem_cons_self⟩
    exact fun stored member => ⟨stored, List.mem_append_left _ member, rfl⟩

theorem has_serve {stored : WorkerRetryRecord Metadata Failure} (member : stored ∈ records)
    (call : RetryCall Metadata Failure) :
    (∃ still ∈ (serve records call).2, still.id = stored.id) ∨
      Settles stored.id (call, (serve records call).1) := by
  cases call with
  | enqueue record now => exact .inl ((has_upsert records _).1 stored member)
  | dequeue nowMs =>
      rw [serve]
      cases found : takeBest records nowMs with
      | none => exact .inl ⟨stored, member, rfl⟩
      | some taken =>
          rcases taken with ⟨best, rest⟩
          rcases takeBest_eq_some found with ⟨-, front, back, split, others⟩
          rw [split, List.mem_append, List.mem_cons] at member
          rcases member with before | rfl | behind
          · exact .inl ⟨stored, others ▸ List.mem_append_left _ before, rfl⟩
          · exact .inr (.inl (decide_eq_true rfl))
          · exact .inl ⟨stored, others ▸ List.mem_append_right _ behind, rfl⟩
  | ack recordId =>
      by_cases same : stored.id = recordId
      · exact .inr (.inr (congrArg RetryCall.ack same.symm))
      · exact .inl ⟨stored, List.mem_filter.mpr ⟨member, decide_eq_true same⟩, rfl⟩

theorem has_after {stored : WorkerRetryRecord Metadata Failure} (member : stored ∈ records)
    {order : List (Exchange Metadata Failure)}
    (answered : machine.answers records (order.map Prod.fst) = order.map Prod.snd) :
    (∃ still ∈ machine.after records (order.map Prod.fst), still.id = stored.id) ∨
      ∃ exchange ∈ order, Settles stored.id exchange := by
  induction order generalizing records stored with
  | nil => exact .inl ⟨stored, member, rfl⟩
  | cons exchange rest induction =>
      rcases List.cons.inj answered with ⟨first, later⟩
      rcases has_serve member exchange.1 with ⟨still, isThere, sameId⟩ | settles
      · rcases induction isThere later with ⟨last, inFinal, sameToo⟩ | ⟨other, inside, settles⟩
        · exact .inl ⟨last, inFinal, sameToo.trans sameId⟩
        · exact .inr ⟨other, List.mem_cons_of_mem _ inside, sameId ▸ settles⟩
      · rw [show (serve records exchange.1).1 = exchange.2 from first] at settles
        exact .inr ⟨exchange, List.mem_cons_self, settles⟩

theorem enqueued_kept {history : List (Exchange Metadata Failure)}
    {final : List (WorkerRetryRecord Metadata Failure)}
    (explains : machine.Explains records history final)
    {record : WorkerRetryRecord Metadata Failure} {now : ℚ}
    {answer : Option (WorkerRetryRecord Metadata Failure)}
    (member : (.enqueue record now, answer) ∈ history) :
    (∃ stored ∈ final, stored.id = record.id) ∨ ∃ exchange ∈ history, Settles record.id exchange := by
  rcases explains with ⟨order, isOrder, answered, rfl⟩
  rcases List.append_of_mem (isOrder.mem_iff.mpr member) with ⟨front, back, split⟩
  rw [split, List.map_append, List.map_cons, Machine.answers_append, List.map_append,
    List.map_cons] at answered
  have asLong : (machine.answers records (front.map Prod.fst)).length =
      (front.map Prod.snd).length := by
    rw [Machine.length_answers, List.length_map, List.length_map]
  rcases List.append_inj answered asLong with ⟨-, behind⟩
  rcases List.cons.inj behind with ⟨-, later⟩
  have enqueued := (has_upsert (machine.after records (front.map Prod.fst))
    { record with updatedAt := now }).2
  rcases has_after enqueued later with ⟨still, inFinal, sameId⟩ | ⟨exchange, inside, settles⟩
  · left
    refine ⟨still, ?_, sameId⟩
    rw [split, List.map_append, List.map_cons, Machine.after_append]
    exact inFinal
  · right
    refine ⟨exchange, isOrder.mem_iff.mp ?_, settles⟩
    rw [split]
    exact List.mem_append_right _ (List.mem_cons_of_mem _ inside)

end RetryRecords

namespace SharedFileQueue

variable {Metadata Failure : Type} {queue next : SharedFileQueue Metadata Failure}
  {file : Option (List (WorkerRetryRecord Metadata Failure))} {index : Nat}
  {call : RetryCall Metadata Failure} {phase : CallPhase Metadata Failure}

/-- A call has changed the records and its text is not fixed yet. -/
def Unwritten (calls : List (RetryCall Metadata Failure × CallPhase Metadata Failure)) : Prop :=
  ∃ (index : Nat) (call : RetryCall Metadata Failure) (address : Nat)
    (answer : Option (WorkerRetryRecord Metadata Failure)),
    calls[index]? = some (call, .makingDirectory address answer)

def latest (queue : SharedFileQueue Metadata Failure) : List (WorkerRetryRecord Metadata Failure) :=
  (queue.temporary.getLast?.map Prod.snd).getD (queue.file.getD [])

def history (queue : SharedFileQueue Metadata Failure) :
    List (RetryCall Metadata Failure × Option (WorkerRetryRecord Metadata Failure)) :=
  Machine.answered CallPhase.answer? queue.calls

structure Untouched (file : Option (List (WorkerRetryRecord Metadata Failure)))
    (queue : SharedFileQueue Metadata Failure) : Prop where
  file_eq : queue.file = file
  temporary : queue.temporary = []
  contents : ∀ call ∈ queue.calls, ∀ contents, call.2 = .read contents →
    contents = file.getD []

structure Consistent (file : Option (List (WorkerRetryRecord Metadata Failure)))
    (queue : SharedFileQueue Metadata Failure) : Prop where
  explained : RetryRecords.machine.Explains (file.getD []) queue.history queue.contents
  untouched : queue.cache = none → queue.Untouched file
  address : ∀ address, queue.cache = some address → address < queue.arrays.length
  settled : queue.cache = none ∨ Unwritten queue.calls ∨ queue.latest = queue.contents
  writing : ∀ entry ∈ queue.temporary, ∃ call answer,
    queue.calls[entry.1]? = some (call, .writing answer)
  distinct : (queue.temporary.map Prod.fst).Nodup

theorem consistent_opened (file : Option (List (WorkerRetryRecord Metadata Failure))) :
    (opened file).Consistent file where
  explained := Machine.explains_nil _ _
  untouched _ := ⟨rfl, rfl, fun _ member => absurd member List.not_mem_nil⟩
  address _ never := by cases never
  settled := .inl rfl
  writing _ member := absurd member List.not_mem_nil
  distinct := List.nodup_nil

/-! ## Calls at their places -/

theorem Unwritten.set (unwritten : Unwritten queue.calls)
    (atIndex : queue.calls[index]? = some (call, phase))
    (other : ∀ address answer, phase ≠ .makingDirectory address answer)
    (next : RetryCall Metadata Failure × CallPhase Metadata Failure) :
    Unwritten (queue.calls.set index next) := by
  rcases unwritten with ⟨place, changing, address, answer, isThere⟩
  refine ⟨place, changing, address, answer, ?_⟩
  rw [List.getElem?_set_ne, isThere]
  rintro rfl
  rw [atIndex] at isThere
  cases isThere
  exact other address answer rfl

theorem writing_set {temporary : List (Nat × List (WorkerRetryRecord Metadata Failure))}
    (writing : ∀ entry ∈ temporary, ∃ call answer,
      queue.calls[entry.1]? = some (call, .writing answer))
    (others : ∀ entry ∈ temporary, entry.1 ≠ index)
    (next : RetryCall Metadata Failure × CallPhase Metadata Failure) :
    ∀ entry ∈ temporary, ∃ call answer,
      (queue.calls.set index next)[entry.1]? = some (call, .writing answer) := by
  intro entry member
  rcases writing entry member with ⟨call, answer, isThere⟩
  refine ⟨call, answer, ?_⟩
  rw [List.getElem?_set_ne (others entry member).symm, isThere]

theorem Consistent.no_text (consistent : queue.Consistent file)
    (atIndex : queue.calls[index]? = some (call, phase))
    (other : ∀ answer, phase ≠ .writing answer) : ∀ entry ∈ queue.temporary, entry.1 ≠ index := by
  rintro entry member rfl
  rcases consistent.writing entry member with ⟨writer, answer, isThere⟩
  rw [atIndex] at isThere
  cases isThere
  exact other answer rfl

theorem Untouched.set (untouched : queue.Untouched file)
    (isFile : ∀ contents, phase = .read contents → contents = file.getD []) :
    (queue.goes index call phase).Untouched file where
  file_eq := untouched.file_eq
  temporary := untouched.temporary
  contents := by
    intro other member contents isRead
    rcases List.mem_or_eq_of_mem_set member with old | new
    · exact untouched.contents other old contents isRead
    · subst new
      exact isFile contents isRead

theorem contents_of_cache {address : Nat} (cached : queue.cache = some address) :
    queue.contents = queue.array address := by
  rw [contents, cached]

theorem history_goes_same (atIndex : queue.calls[index]? = some (call, phase))
    {later : CallPhase Metadata Failure} (same : later.answer? = phase.answer?) :
    (queue.goes index call later).history = queue.history :=
  Machine.answered_set_of_same atIndex same

theorem history_goes_new (atIndex : queue.calls[index]? = some (call, phase))
    (waits : phase.answer? = none) {later : CallPhase Metadata Failure}
    {answer : Option (WorkerRetryRecord Metadata Failure)} (isAnswered : later.answer? = some answer) :
    (queue.goes index call later).history.Perm ((call, answer) :: queue.history) :=
  Machine.answered_set_of_new atIndex waits isAnswered

/-! ## The steps keep it -/

theorem Consistent.goes (consistent : queue.Consistent file)
    (atIndex : queue.calls[index]? = some (call, phase))
    (notWriting : ∀ answer, phase ≠ .writing answer)
    (notMaking : ∀ address answer, phase ≠ .makingDirectory address answer)
    {later : CallPhase Metadata Failure} (same : later.answer? = phase.answer?)
    (isFile : queue.cache = none → ∀ contents, later = .read contents → contents = file.getD []) :
    (queue.goes index call later).Consistent file where
  explained := by
    exact consistent.explained.perm (.of_eq (history_goes_same atIndex same).symm)
  untouched uncached := (consistent.untouched uncached).set (isFile uncached)
  address := consistent.address
  settled := by
    rcases consistent.settled with uncached | unwritten | settled
    · exact .inl uncached
    · exact .inr (.inl (unwritten.set atIndex notMaking _))
    · exact .inr (.inr settled)
  writing := writing_set consistent.writing (consistent.no_text atIndex notWriting) _
  distinct := consistent.distinct

theorem load_answer (queue : SharedFileQueue Metadata Failure) :
    queue.load.answer? = none ∧ ∀ contents, queue.load ≠ .read contents := by
  rw [load]
  cases queue.cache with
  | some address | none => exact ⟨rfl, fun contents never => by cases never⟩

theorem Consistent.start (consistent : queue.Consistent file)
    (call : RetryCall Metadata Failure) :
    ({ queue with calls := queue.calls ++ [(call, queue.load)] } :
      SharedFileQueue Metadata Failure).Consistent file where
  explained := by
    have history : Machine.answered CallPhase.answer?
        (queue.calls ++ [(call, queue.load)]) = queue.history := by
      rw [Machine.answered_append, Machine.answered_cons, (load_answer queue).1]
      exact List.append_nil _
    exact consistent.explained.perm (.of_eq history.symm)
  untouched uncached := {
    file_eq := (consistent.untouched uncached).file_eq
    temporary := (consistent.untouched uncached).temporary
    contents := by
      intro other member contents isRead
      rcases List.mem_append.mp member with old | new
      · exact (consistent.untouched uncached).contents other old contents isRead
      · cases List.mem_singleton.mp new
        exact absurd isRead ((load_answer queue).2 contents) }
  address := consistent.address
  settled := by
    rcases consistent.settled with uncached | ⟨place, making, address, answer, isThere⟩ | settled
    · exact .inl uncached
    · refine .inr (.inl ⟨place, making, address, answer, ?_⟩)
      rw [List.getElem?_append_left (List.getElem?_eq_some_iff.mp isThere).1, isThere]
    · exact .inr (.inr settled)
  writing := by
    intro entry member
    rcases consistent.writing entry member with ⟨writer, answer, isThere⟩
    refine ⟨writer, answer, ?_⟩
    rw [List.getElem?_append_left (List.getElem?_eq_some_iff.mp isThere).1, isThere]
  distinct := consistent.distinct

theorem Consistent.assign (consistent : queue.Consistent file)
    {contents : List (WorkerRetryRecord Metadata Failure)}
    (atIndex : queue.calls[index]? = some (call, .read contents)) (uncached : queue.cache = none) :
    ({ queue with
        arrays := queue.arrays ++ [contents]
        cache := some queue.arrays.length }.goes index call
          (.loaded queue.arrays.length)).Consistent file := by
  have untouched := consistent.untouched uncached
  have isFile : contents = file.getD [] :=
    untouched.contents _ (List.mem_of_getElem? atIndex) contents rfl
  have before : queue.contents = file.getD [] := by
    rw [SharedFileQueue.contents, uncached]
    exact congrArg (Option.getD · []) untouched.file_eq
  have array : (queue.arrays ++ [contents])[queue.arrays.length]?.getD [] = contents := by
    rw [List.getElem?_append_right (Nat.le_refl _), Nat.sub_self]
    rfl
  have same : ({ queue with
      arrays := queue.arrays ++ [contents]
      cache := some queue.arrays.length }.goes index call
        (.loaded queue.arrays.length)).contents = queue.contents :=
    array.trans (isFile.trans before.symm)
  constructor
  · rw [same]
    refine consistent.explained.perm (.of_eq ?_)
    exact (@history_goes_same _ _ queue index call (.read contents) atIndex
      (.loaded queue.arrays.length) rfl).symm
  · intro never
    cases never
  · intro address cached
    cases cached
    show queue.arrays.length < (queue.arrays ++ [contents]).length
    rw [List.length_append, List.length_singleton]
    omega
  · refine .inr (.inr ?_)
    rw [same, before]
    show (queue.temporary.getLast?.map Prod.snd).getD (queue.file.getD []) = file.getD []
    rw [untouched.temporary, untouched.file_eq]
    rfl
  · refine writing_set consistent.writing (consistent.no_text atIndex ?_) _
    intro answer never
    cases never
  · exact consistent.distinct

theorem Consistent.persisted (consistent : queue.Consistent file) {address place : Nat}
    (atIndex : queue.calls[index]? = some (call, .loaded address))
    {arrays : List (List (WorkerRetryRecord Metadata Failure))} (inside : place < arrays.length)
    {answer : Option (WorkerRetryRecord Metadata Failure)}
    (served : RetryRecords.serve queue.contents call = (answer, arrays[place]?.getD [])) :
    ({ queue with arrays := arrays }.persist index call place answer).Consistent file where
  explained := by
    have step := consistent.explained.step call
    rw [show RetryRecords.machine.step queue.contents call = _ from served] at step
    refine step.perm ?_
    exact (@history_goes_new _ _ queue index call (.loaded address) atIndex rfl
      (.makingDirectory place answer) answer rfl).symm
  untouched never := by cases never
  address := by
    intro other cached
    cases cached
    exact inside
  settled := by
    refine .inr (.inl ⟨index, call, place, answer, ?_⟩)
    exact List.getElem?_set_self (List.getElem?_eq_some_iff.mp atIndex).1
  writing := by
    refine writing_set consistent.writing (consistent.no_text atIndex ?_) _
    intro answer never
    cases never
  distinct := consistent.distinct

theorem Consistent.answers (consistent : queue.Consistent file) {address : Nat}
    (atIndex : queue.calls[index]? = some (call, .loaded address))
    (cached : queue.cache = some address) {answer : Option (WorkerRetryRecord Metadata Failure)}
    (served : RetryRecords.serve queue.contents call = (answer, queue.contents)) :
    (queue.goes index call (.done answer)).Consistent file where
  explained := by
    have step := consistent.explained.step call
    rw [show RetryRecords.machine.step queue.contents call = _ from served] at step
    exact step.perm (history_goes_new atIndex rfl rfl).symm
  untouched uncached := by
    rw [show queue.cache = none from uncached] at cached
    cases cached
  address := consistent.address
  settled := by
    rcases consistent.settled with uncached | unwritten | settled
    · exact .inl uncached
    · refine .inr (.inl (unwritten.set atIndex ?_ _))
      intro address answer never
      cases never
    · exact .inr (.inr settled)
  writing := by
    refine writing_set consistent.writing (consistent.no_text atIndex ?_) _
    intro answer never
    cases never
  distinct := consistent.distinct

theorem Consistent.act (consistent : queue.Consistent file) {address : Nat}
    (atIndex : queue.calls[index]? = some (call, .loaded address))
    (cached : queue.cache = some address) : (queue.act index call address).Consistent file := by
  have contents := contents_of_cache cached
  have inside := consistent.address address cached
  have changed (records : List (WorkerRetryRecord Metadata Failure)) :
      (queue.arrays.set address records)[address]?.getD [] = records := by
    rw [List.getElem?_set_self inside]
    rfl
  have long (records : List (WorkerRetryRecord Metadata Failure)) :
      address < (queue.arrays.set address records).length := by
    rw [List.length_set]
    exact inside
  cases call with
  | enqueue record now =>
      apply consistent.persisted atIndex (long _)
      rw [changed, contents]
      rfl
  | dequeue nowMs =>
      rw [SharedFileQueue.act]
      cases found : RetryRecords.takeBest (queue.array address) nowMs with
      | none =>
          apply consistent.answers atIndex cached
          rw [contents, RetryRecords.serve, found]
      | some taken =>
          apply consistent.persisted atIndex (long _)
          rw [changed, contents, RetryRecords.serve, found]
  | ack recordId =>
      rw [SharedFileQueue.act]
      by_cases shorter : (RetryRecords.without (queue.array address) recordId).length ≠
          (queue.array address).length
      · simp only [if_pos shorter]
        apply consistent.persisted atIndex
        · rw [List.length_append, List.length_singleton]
          omega
        · rw [contents, RetryRecords.serve, List.getElem?_append_right (Nat.le_refl _),
            Nat.sub_self]
          rfl
      · have same : RetryRecords.without (queue.array address) recordId = queue.array address :=
          List.filter_eq_self.mpr (List.length_filter_eq_length_iff.mp (not_not.mp shorter))
        simp only [if_neg shorter]
        apply consistent.answers atIndex cached
        rw [contents, RetryRecords.serve, same]

theorem Consistent.write (consistent : queue.Consistent file) {address : Nat}
    {answer : Option (WorkerRetryRecord Metadata Failure)}
    (atIndex : queue.calls[index]? = some (call, .makingDirectory address answer))
    (cached : queue.cache = some address) :
    ({ queue with
        temporary := queue.temporary ++ [(index, queue.array address)] }.goes index call
          (.writing answer)).Consistent file := by
  have notWriting : ∀ other : Option (WorkerRetryRecord Metadata Failure),
      CallPhase.makingDirectory address answer ≠ .writing other := by
    intro other never
    cases never
  have others := consistent.no_text atIndex notWriting
  have inside := (List.getElem?_eq_some_iff.mp atIndex).1
  constructor
  · refine consistent.explained.perm (.of_eq ?_)
    exact (@history_goes_same _ _ queue index call _ atIndex (.writing answer) rfl).symm
  · intro uncached
    rw [show queue.cache = none from uncached] at cached
    cases cached
  · exact consistent.address
  · refine .inr (.inr ?_)
    show ((queue.temporary ++ [(index, queue.array address)]).getLast?.map Prod.snd).getD _ =
      queue.contents
    rw [List.getLast?_append, List.getLast?_singleton, contents_of_cache cached]
    rfl
  · intro entry member
    rcases List.mem_append.mp member with old | new
    · exact writing_set consistent.writing others _ entry old
    · cases List.mem_singleton.mp new
      exact ⟨call, answer, List.getElem?_set_self inside⟩
  · show ((queue.temporary ++ [(index, queue.array address)]).map Prod.fst).Nodup
    rw [List.map_append, List.map_singleton, List.nodup_append]
    refine ⟨consistent.distinct, List.nodup_singleton _, ?_⟩
    intro other member same isNew
    rcases List.mem_map.mp member with ⟨entry, old, rfl⟩
    rw [List.mem_singleton.mp isNew]
    exact others entry old

theorem Consistent.rename (consistent : queue.Consistent file)
    {answer : Option (WorkerRetryRecord Metadata Failure)}
    (atIndex : queue.calls[index]? = some (call, .writing answer))
    {text : List (WorkerRetryRecord Metadata Failure)}
    {rest : List (Nat × List (WorkerRetryRecord Metadata Failure))}
    (oldest : queue.temporary = (index, text) :: rest) :
    ({ queue with
        file := some text
        temporary := rest }.goes index call (.done answer)).Consistent file := by
  have distinct := consistent.distinct
  rw [oldest, List.map_cons, List.nodup_cons] at distinct
  have cached : queue.cache ≠ none := by
    intro uncached
    rw [(consistent.untouched uncached).temporary] at oldest
    cases oldest
  have same : ({ queue with file := some text, temporary := rest }.goes index call
      (.done answer)).contents = queue.contents := by
    rcases Option.ne_none_iff_exists'.mp cached with ⟨address, isCached⟩
    rw [contents_of_cache isCached]
    exact contents_of_cache isCached
  constructor
  · rw [same]
    refine consistent.explained.perm (.of_eq ?_)
    exact (@history_goes_same _ _ queue index call _ atIndex (.done answer) rfl).symm
  · exact fun uncached => absurd uncached cached
  · exact consistent.address
  · rcases consistent.settled with uncached | unwritten | settled
    · exact .inl uncached
    · refine .inr (.inl (unwritten.set atIndex ?_ _))
      intro address answer never
      cases never
    · refine .inr (.inr ?_)
      rw [same, ← settled, latest, latest, oldest]
      show (rest.getLast?.map Prod.snd).getD text = _
      cases rest with
      | nil => rfl
      | cons entry rest => rw [List.getLast?_cons_cons, List.getLast?_cons]; rfl
  · refine writing_set (fun entry member => ?_) (fun entry member same => ?_) _
    · exact consistent.writing entry (oldest ▸ List.mem_cons_of_mem _ member)
    · subst same
      exact distinct.1 (List.mem_map.mpr ⟨entry, member, rfl⟩)
  · exact distinct.2

theorem Consistent.step (consistent : queue.Consistent file) {event : Event Metadata Failure}
    (inOrder : queue.InOrder event) (taken : queue.step event = some next) :
    next.Consistent file := by
  cases event with
  | start call =>
      cases taken
      exact consistent.start call
  | proceed index =>
      rcases Option.bind_eq_some_iff.mp taken with ⟨⟨call, phase⟩, atIndex, taken⟩
      have ready : queue.Ready index phase := inOrder (call, phase) atIndex
      cases phase with
      | reading =>
          cases taken
          apply consistent.goes atIndex
          · intro answer never
            cases never
          · intro address answer never
            cases never
          · rfl
          · intro uncached contents same
            cases same
            exact congrArg (Option.getD · []) (consistent.untouched uncached).file_eq
      | read contents =>
          cases taken
          exact consistent.assign atIndex ready
      | loaded address =>
          cases taken
          exact consistent.act atIndex ready
      | makingDirectory address answer =>
          cases taken
          exact consistent.write atIndex ready
      | writing answer =>
          rcases Option.map_eq_some_iff.mp ready with ⟨⟨place, text⟩, isHead, same⟩
          cases same
          rcases List.head?_eq_some_iff.mp isHead with ⟨rest, oldest⟩
          have renamed := consistent.rename atIndex oldest
          have found : ((place, text) :: rest).find? (fun entry => entry.1 = place) =
              some (place, text) :=
            List.find?_cons_of_pos (decide_eq_true rfl)
          have erased : ((place, text) :: rest).eraseP (fun entry => entry.1 = place) = rest :=
            List.eraseP_cons_of_pos (decide_eq_true rfl)
          rw [proceed, oldest] at taken
          simp only [found, erased, Option.map_some] at taken
          cases taken
          exact renamed
      | done answer => cases taken

theorem consistent_of_trace {events : List (Event Metadata Failure)}
    (trace : Trace (Guarded InOrder (Takes step)) (opened file) events queue) :
    queue.Consistent file :=
  trace.invariant (fun _ _ _ consistent taken => consistent.step taken.1 taken.2)
    (consistent_opened file)

/-! ## When all calls are done -/

def Complete (queue : SharedFileQueue Metadata Failure) : Prop :=
  ∀ call ∈ queue.calls, ∃ answer, call.2 = .done answer

theorem Consistent.file_eq (consistent : queue.Consistent file) (complete : queue.Complete) :
    queue.file.getD [] = queue.contents := by
  have written : queue.temporary = [] := by
    apply List.eq_nil_iff_forall_not_mem.mpr
    intro entry member
    rcases consistent.writing entry member with ⟨call, answer, isThere⟩
    rcases complete _ (List.mem_of_getElem? isThere) with ⟨other, isDone⟩
    cases isDone
  rcases consistent.settled with uncached | ⟨index, call, address, answer, isThere⟩ | settled
  · rw [contents, uncached]
  · rcases complete _ (List.mem_of_getElem? isThere) with ⟨other, isDone⟩
    cases isDone
  · rw [← settled, latest, written]
    rfl

structure Linearized (file : Option (List (WorkerRetryRecord Metadata Failure)))
    (queue : SharedFileQueue Metadata Failure) : Prop where
  calls : queue.history.map Prod.fst = queue.calls.map Prod.fst
  explained : ∃ sequential,
    FileWorkerRetryQueue.machine.Explains ⟨file, none⟩ queue.history sequential ∧
      sequential.load = queue.contents
  file_eq : queue.file.getD [] = queue.contents
  kept : ∀ record now answer, (.enqueue record now, answer) ∈ queue.history →
    (∃ stored ∈ queue.contents, stored.id = record.id) ∨
      ∃ exchange ∈ queue.history, RetryRecords.Settles record.id exchange
  once : ∀ id, queue.history.countP (fun exchange => RetryRecords.handsOut id exchange.2) ≤
    queue.history.countP (fun exchange => RetryRecords.enqueues id exchange.1) +
      RetryRecords.held id (file.getD [])

/-- In every run whose steps are in order, the calls have been made one after the other as
soon as they are all done. -/
theorem linearized_of_inOrder (file : Option (List (WorkerRetryRecord Metadata Failure)))
    (events : List (Event Metadata Failure)) (queue : SharedFileQueue Metadata Failure)
    (trace : Trace (Guarded InOrder (Takes step)) (opened file) events queue)
    (complete : queue.Complete) : Linearized file queue where
  calls := by
    apply Machine.answered_map_fst
    intro call member
    rcases complete call member with ⟨answer, isDone⟩
    rw [isDone]
    rfl
  explained := by
    have start : (⟨file, none⟩ : FileWorkerRetryQueue Metadata Failure).load = file.getD [] := rfl
    rcases Machine.Explains.of_refines FileWorkerRetryQueue.refines_records start
      (consistent_of_trace trace).explained with ⟨sequential, related, explains⟩
    exact ⟨sequential, explains, related⟩
  file_eq := (consistent_of_trace trace).file_eq complete
  kept _ _ _ member := RetryRecords.enqueued_kept (consistent_of_trace trace).explained member
  once id :=
    (Nat.le_add_right _ _).trans
      (RetryRecords.handsOut_le (consistent_of_trace trace).explained id)

/-! ## Two enqueues on a new queue -/

def payroll : WorkerRetryRecord Unit JsString :=
  .payroll 1 0

def fees : WorkerRetryRecord Unit JsString :=
  { payroll with id := js "fees-aug-2026" }

def bothRead : List (Event Unit JsString) :=
  [.start (.enqueue payroll 0), .start (.enqueue fees 0)] ++
    [0, 1, 0, 0, 1, 1, 0, 0, 1, 1].map .proceed

def firstReads : List (Event Unit JsString) :=
  [.start (.enqueue payroll 0), .proceed 0, .proceed 0, .start (.enqueue fees 0)] ++
    [0, 1, 0, 1, 0, 1].map .proceed

/-- Both calls are done, and the first record is lost in memory and in the file. -/
theorem first_record_lost :
    ∃ queue, runEvents step (opened none) bothRead = some queue ∧ queue.Complete ∧
      ¬ Linearized none queue := by
  refine ⟨⟨some [fees], [[payroll], [fees]], some 1, [], [(.enqueue payroll 0, .done none),
    (.enqueue fees 0, .done none)]⟩, rfl, ?_, ?_⟩
  · intro call member
    rcases List.mem_pair.mp member with rfl | rfl
    · exact ⟨none, rfl⟩
    · exact ⟨none, rfl⟩
  · intro linearized
    rcases linearized.explained with ⟨sequential, ⟨order, isOrder, -, rfl⟩, records⟩
    rcases List.perm_pair.mp isOrder with rfl | rfl
    · have both : (FileWorkerRetryQueue.machine.after ⟨none, none⟩
          [.enqueue payroll 0, .enqueue fees 0]).load = [payroll, fees] := by
        rfl
      cases both.symm.trans records
    · have both : (FileWorkerRetryQueue.machine.after ⟨none, none⟩
          [.enqueue fees 0, .enqueue payroll 0]).load = [fees, payroll] := by
        rfl
      cases both.symm.trans records

theorem second_call_shares :
    ∃ queue, runEvents (fun queue event => if InOrder queue event then step queue event else none)
        (opened none) firstReads = some queue ∧ Linearized none queue := by
  refine ⟨⟨some [payroll, fees], [[payroll, fees]], some 0, [], [(.enqueue payroll 0, .done none),
    (.enqueue fees 0, .done none)]⟩, rfl, ?_⟩
  apply linearized_of_inOrder none firstReads _ (trace_of_runGuarded rfl)
  intro call member
  rcases List.mem_pair.mp member with rfl | rfl
  · exact ⟨none, rfl⟩
  · exact ⟨none, rfl⟩

end SharedFileQueue

end Orbital.WorkerCore
