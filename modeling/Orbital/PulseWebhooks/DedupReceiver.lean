import Orbital.Foundation.NumberText
import Orbital.Foundation.Overlap

/-! # `pulse-webhooks/src/dedup.ts`

A receiver that asks a store whether it has seen the id of an event, marks the id and calls the
handler. The store answers one request after the other; between the check and the mark of a
call other calls go on.
-/

namespace Orbital.PulseWebhooks.Dedup

open Foundation

variable {NormalizedEvent : Type}

/-- The receiver of a handler. A function on events that throws gives no id. -/
structure DedupReceiver (NormalizedEvent : Type) where
  rawId : NormalizedEvent → Option JsString
  idExtractor : Option (NormalizedEvent → Option JsString)

structure Deliveries (NormalizedEvent : Type) where
  ids : List JsString
  handled : List (JsString × NormalizedEvent)

def Deliveries.mark (deliveries : Deliveries NormalizedEvent) (id : JsString) :
    Deliveries NormalizedEvent :=
  { deliveries with ids := if id ∈ deliveries.ids then deliveries.ids else id :: deliveries.ids }

def Deliveries.handle (deliveries : Deliveries NormalizedEvent) (id : JsString)
    (event : NormalizedEvent) : Deliveries NormalizedEvent :=
  { deliveries with handled := deliveries.handled ++ [(id, event)] }

/-- Where a call is: it waits for `seen`, for `mark`, or is about to call the handler. -/
inductive Phase
  | seeing (id : JsString)
  | marking (id : JsString)
  | marked (id : JsString)
  | handled (id : JsString)
  | ended
  deriving DecidableEq

inductive Outcome
  | resolves
  | rejects (carriedOut : Bool)
  deriving DecidableEq

namespace DedupReceiver

variable (receiver : DedupReceiver NormalizedEvent)

def extractId : NormalizedEvent → Option JsString :=
  receiver.idExtractor.getD receiver.rawId

def start (deliveries : Deliveries NormalizedEvent) (event : NormalizedEvent) :
    Deliveries NormalizedEvent × Phase :=
  match receiver.extractId event with
  | some id => (deliveries, .seeing id)
  | none => (deliveries, .ended)

def proceed (deliveries : Deliveries NormalizedEvent) (event : NormalizedEvent) :
    Phase → Outcome → Option (Deliveries NormalizedEvent × Phase)
  | .seeing id, .resolves =>
      some (deliveries, if id ∈ deliveries.ids then .ended else .marking id)
  | .seeing _, .rejects _ => some (deliveries, .ended)
  | .marking id, .resolves => some (deliveries.mark id, .marked id)
  | .marking id, .rejects carriedOut =>
      some (if carriedOut then deliveries.mark id else deliveries, .ended)
  | .marked id, _ => some (deliveries.handle id event, .handled id)
  | .handled _, _ | .ended, _ => none

def tasks : Tasks (Deliveries NormalizedEvent) NormalizedEvent Phase Outcome Empty where
  start := receiver.start
  proceed := proceed
  change := fun deliveries _ => deliveries

abbrev State (NormalizedEvent : Type) :=
  Overlap (Deliveries NormalizedEvent) NormalizedEvent Phase

abbrev Event (NormalizedEvent : Type) :=
  Tasks.Event NormalizedEvent Outcome Empty

def opened (ids : List JsString) : State NormalizedEvent :=
  Tasks.opened ⟨ids, []⟩

def HandledOnce (ids : List JsString) (events : List (Event NormalizedEvent)) : Prop :=
  ∀ final, Trace (Takes receiver.tasks.step) (opened ids) events final →
    (final.shared.handled.map Prod.fst).Nodup

/-- The store does not find an id unseen while another call, which has found it unseen, still
waits for its mark. -/
def Undisturbed (current : State NormalizedEvent) : Event NormalizedEvent → Prop
  | .proceed index .resolves =>
      ∀ event id, current.calls[index]? = some (event, .seeing id) → id ∉ current.shared.ids →
        ∀ call ∈ current.calls, call.2 ≠ .marking id
  | _ => True

end DedupReceiver

/-! ## One call for each id -/

def Phase.taken : Phase → Option JsString
  | .seeing _ => none
  | .marking id => some id
  | .marked id => some id
  | .handled id => some id
  | .ended => none

/-- One call has found an id unseen, the store holds the ids behind it, and it alone has
handled its id. -/
structure Claimed (current : DedupReceiver.State NormalizedEvent) : Prop where
  alone : ∀ {first second : Nat} {event eventToo : NormalizedEvent} {phase phaseToo : Phase}
    {id : JsString}, current.calls[first]? = some (event, phase) →
      current.calls[second]? = some (eventToo, phaseToo) → phase.taken = some id →
        phaseToo.taken = some id → first = second
  stored : ∀ {index : Nat} {event : NormalizedEvent} {phase : Phase} {id : JsString},
    current.calls[index]? = some (event, phase) → phase = .marked id ∨ phase = .handled id →
      id ∈ current.shared.ids
  handled : ∀ {id : JsString}, id ∈ current.shared.handled.map Prod.fst →
    ∃ (event : NormalizedEvent) (index : Nat),
      current.calls[index]? = some (event, Phase.handled id)
  once : (current.shared.handled.map Prod.fst).Nodup

namespace DedupReceiver

variable {receiver : DedupReceiver NormalizedEvent} {ids : List JsString}

theorem mem_mark (deliveries : Deliveries NormalizedEvent) (id other : JsString) :
    other ∈ (deliveries.mark id).ids ↔ other = id ∨ other ∈ deliveries.ids := by
  rw [Deliveries.mark]
  by_cases old : id ∈ deliveries.ids
  · simp only [if_pos old]
    constructor
    · exact Or.inr
    · rintro (rfl | inside)
      · exact old
      · exact inside
  · simp only [if_neg old]
    exact List.mem_cons

theorem claimed_opened (ids : List JsString) : Claimed (opened ids : State NormalizedEvent) where
  alone := fun never => by cases never
  stored := fun never => by cases never
  handled := fun never => absurd never List.not_mem_nil
  once := List.nodup_nil

variable {current : State NormalizedEvent} {index : Nat} {event : NormalizedEvent}
  {phase later : Phase} {deliveries : Deliveries NormalizedEvent}

theorem claimed_start (claimed : Claimed current) (fresh : later.taken = none) :
    Claimed ⟨current.shared, current.calls ++ [(event, later)]⟩ where
  alone := by
    intro first second eventOne eventTwo phaseOne phaseTwo id found foundToo taken takenToo
    rcases Tasks.found_append found with before | ⟨_, same⟩
    · rcases Tasks.found_append foundToo with beforeToo | ⟨_, same⟩
      · exact claimed.alone before beforeToo taken takenToo
      · cases same
        rw [fresh] at takenToo
        cases takenToo
    · cases same
      rw [fresh] at taken
      cases taken
  stored := by
    intro index eventOne phaseOne id found isStored
    rcases Tasks.found_append found with before | ⟨_, same⟩
    · exact claimed.stored before isStored
    · cases same
      rcases isStored with rfl | rfl
      · cases fresh
      · cases fresh
  handled := by
    intro id member
    rcases claimed.handled member with ⟨other, index, found⟩
    exact ⟨other, index, (List.getElem?_append_left (List.getElem?_eq_some_iff.mp found).1).trans
      found⟩
  once := claimed.once

theorem claimed_moved (claimed : Claimed current)
    (found : current.calls[index]? = some (event, phase)) (unhandled : ∀ id, phase ≠ .handled id)
    (alone : ∀ id, later.taken = some id → ∀ other eventToo phaseToo, other ≠ index →
      current.calls[other]? = some (eventToo, phaseToo) → phaseToo.taken ≠ some id)
    (grows : ∀ id ∈ current.shared.ids, id ∈ deliveries.ids)
    (stored : ∀ id, later = .marked id ∨ later = .handled id → id ∈ deliveries.ids)
    (handled : (∀ id, later ≠ .handled id) ∧ deliveries.handled = current.shared.handled ∨
      ∃ id, phase = .marked id ∧ later = .handled id ∧
        deliveries.handled = current.shared.handled ++ [(id, event)]) :
    Claimed ⟨deliveries, current.calls.set index (event, later)⟩ where
  alone := by
    intro first second eventOne eventTwo phaseOne phaseTwo id foundOne foundTwo taken takenToo
    rcases Tasks.found_set foundOne with ⟨other, before⟩ | ⟨rfl, same⟩
    · rcases Tasks.found_set foundTwo with ⟨_, beforeToo⟩ | ⟨rfl, same⟩
      · exact claimed.alone before beforeToo taken takenToo
      · cases same
        exact absurd taken (alone id takenToo first eventOne phaseOne other before)
    · cases same
      rcases Tasks.found_set foundTwo with ⟨other, before⟩ | ⟨rfl, _⟩
      · exact absurd takenToo (alone id taken second eventTwo phaseTwo other before)
      · rfl
  stored := by
    intro other eventOne phaseOne id foundOne isStored
    rcases Tasks.found_set foundOne with ⟨_, before⟩ | ⟨_, same⟩
    · exact grows id (claimed.stored before isStored)
    · cases same
      exact stored id isStored
  handled := by
    intro id member
    have before : id ∈ current.shared.handled.map Prod.fst →
        ∃ (eventToo : NormalizedEvent) (other : Nat),
          (current.calls.set index (event, later))[other]? = some (eventToo, Phase.handled id) := by
      intro inside
      rcases claimed.handled inside with ⟨eventToo, other, foundToo⟩
      refine ⟨eventToo, other, ?_⟩
      rw [Tasks.set_other, foundToo]
      rintro rfl
      rw [found] at foundToo
      cases foundToo
      exact unhandled id rfl
    rcases handled with ⟨_, same⟩ | ⟨new, _, rfl, same⟩
    · rw [same] at member
      exact before member
    · rw [same, List.map_append, List.mem_append] at member
      rcases member with inside | isNew
      · exact before inside
      · rw [List.mem_singleton.mp isNew]
        exact ⟨event, index, Tasks.set_found found⟩
  once := by
    rcases handled with ⟨_, same⟩ | ⟨new, rfl, _, same⟩
    · rw [same]
      exact claimed.once
    · rw [same, List.map_append]
      refine List.nodup_append.mpr ⟨claimed.once, List.nodup_singleton _, ?_⟩
      intro id inside other isNew equal
      rw [List.map_singleton, List.mem_singleton] at isNew
      subst equal
      subst isNew
      rcases claimed.handled inside with ⟨eventToo, place, foundToo⟩
      have same := claimed.alone found foundToo rfl rfl
      subst same
      rw [found] at foundToo
      cases foundToo

theorem claimed_goes (claimed : Claimed current)
    (found : current.calls[index]? = some (event, phase)) (unhandled : ∀ id, phase ≠ .handled id)
    (same : later.taken = none ∨ later.taken = phase.taken)
    (grows : ∀ id ∈ current.shared.ids, id ∈ deliveries.ids)
    (stored : ∀ id, later = .marked id ∨ later = .handled id → id ∈ deliveries.ids)
    (handled : (∀ id, later ≠ .handled id) ∧ deliveries.handled = current.shared.handled ∨
      ∃ id, phase = .marked id ∧ later = .handled id ∧
        deliveries.handled = current.shared.handled ++ [(id, event)]) :
    Claimed ⟨deliveries, current.calls.set index (event, later)⟩ := by
  refine claimed_moved claimed found unhandled ?_ grows stored handled
  intro id taken other eventToo phaseToo different foundToo takenToo
  rcases same with fresh | same
  · rw [fresh] at taken
    cases taken
  · rw [same] at taken
    exact different (claimed.alone foundToo found takenToo taken)

theorem claimed_proceed (claimed : Claimed current) {outcome : Outcome}
    (found : current.calls[index]? = some (event, phase))
    (undisturbed : Undisturbed current (.proceed index outcome))
    (proceeds : proceed current.shared event phase outcome = some (deliveries, later)) :
    Claimed ⟨deliveries, current.calls.set index (event, later)⟩ := by
  cases phase with
  | seeing id =>
      cases outcome with
      | rejects carriedOut =>
          cases proceeds
          exact claimed_goes claimed found (by simp) (Or.inl rfl) (by simp) (by simp) (by simp)
      | resolves =>
          cases proceeds
          by_cases seen : id ∈ current.shared.ids
          · rw [if_pos seen]
            exact claimed_goes claimed found (by simp) (Or.inl rfl) (by simp) (by simp) (by simp)
          · rw [if_neg seen]
            refine claimed_moved claimed found (by simp) ?_ (by simp) (by simp) (by simp)
            intro other taken place eventToo phaseToo _ foundToo takenToo
            cases taken
            have noMark := undisturbed event id found seen _ (List.mem_of_getElem? foundToo)
            cases phaseToo with
            | seeing other => cases takenToo
            | marking other =>
                cases takenToo
                exact noMark rfl
            | marked other =>
                cases takenToo
                exact seen (claimed.stored foundToo (Or.inl rfl))
            | handled other =>
                cases takenToo
                exact seen (claimed.stored foundToo (Or.inr rfl))
            | ended => cases takenToo
  | marking id =>
      cases outcome with
      | resolves =>
          cases proceeds
          refine claimed_goes claimed found (by simp) (Or.inr rfl) ?_ ?_ ?_
          · exact fun other inside => (mem_mark _ _ _).mpr (Or.inr inside)
          · rintro other (same | never)
            · cases same
              exact (mem_mark _ _ _).mpr (Or.inl rfl)
            · cases never
          · exact Or.inl ⟨by simp, rfl⟩
      | rejects carriedOut =>
          cases proceeds
          cases carriedOut with
          | true =>
              refine claimed_goes claimed found (by simp) (Or.inl rfl) ?_ (by simp) ?_
              · exact fun other inside => (mem_mark _ _ _).mpr (Or.inr inside)
              · exact Or.inl ⟨by simp, rfl⟩
          | false =>
              exact claimed_goes claimed found (by simp) (Or.inl rfl) (by simp) (by simp) (by simp)
  | marked id =>
      cases proceeds
      refine claimed_goes claimed found (by simp) (Or.inr rfl) (fun _ inside => inside) ?_ ?_
      · rintro other (never | same)
        · cases never
        · cases same
          exact claimed.stored found (Or.inl rfl)
      · exact Or.inr ⟨id, rfl, rfl, rfl⟩
  | handled id | ended => cases proceeds

theorem claimed_run {events : List (Event NormalizedEvent)} {final : State NormalizedEvent}
    (trace : Trace (Guarded Undisturbed (Takes receiver.tasks.step)) (opened ids) events final) :
    Claimed final := by
  refine Tasks.invariant ?_ trace (claimed_opened ids)
  intro current event next claimed undisturbed moves
  cases moves with
  | start call =>
      dsimp only [tasks, start]
      cases receiver.extractId call with
      | none | some id => exact claimed_start claimed rfl
  | proceed found proceeds => exact claimed_proceed claimed found undisturbed proceeds
  | change change => cases change

/-! ## A check between a check and its mark -/

theorem both_handle {current : State NormalizedEvent} {first second : Nat}
    {event other : NormalizedEvent} {id : JsString} (different : first ≠ second)
    (found : current.calls[first]? = some (event, .marking id))
    (foundToo : current.calls[second]? = some (other, .marking id)) :
    ∃ later final, Trace (Takes receiver.tasks.step) current later final ∧
      final.shared.handled = current.shared.handled ++ [(id, event)] ++ [(id, other)] := by
  have marks : ∀ {current : State NormalizedEvent} {index : Nat} {call : NormalizedEvent},
      current.calls[index]? = some (call, .marking id) →
        Takes receiver.tasks.step current (.proceed index .resolves)
          ⟨current.shared.mark id, current.calls.set index (call, .marked id)⟩ := by
    intro current index call found
    exact (Tasks.moves_iff _).mpr (.proceed found rfl)
  have handles : ∀ {current : State NormalizedEvent} {index : Nat} {call : NormalizedEvent},
      current.calls[index]? = some (call, .marked id) →
        Takes receiver.tasks.step current (.proceed index .resolves)
          ⟨current.shared.handle id call, current.calls.set index (call, .handled id)⟩ := by
    intro current index call found
    exact (Tasks.moves_iff _).mpr (.proceed found rfl)
  let once : State NormalizedEvent :=
    ⟨current.shared.mark id, current.calls.set first (event, .marked id)⟩
  let both : State NormalizedEvent :=
    ⟨once.shared.mark id, once.calls.set second (other, .marked id)⟩
  have firstMarked : both.calls[first]? = some (event, .marked id) :=
    (Tasks.set_other different.symm).trans (Tasks.set_found found)
  have waits : once.calls[second]? = some (other, .marking id) :=
    (Tasks.set_other different).trans foundToo
  let done : State NormalizedEvent :=
    ⟨both.shared.handle id event, both.calls.set first (event, .handled id)⟩
  have secondMarked : done.calls[second]? = some (other, .marked id) :=
    (Tasks.set_other different).trans (Tasks.set_found waits)
  have marksFirst := marks found
  have marksSecond := @marks once second other waits
  have handlesFirst := @handles both first event firstMarked
  have handlesSecond := @handles done second other secondMarked
  have steps := Trace.cons marksFirst (.cons marksSecond (.cons handlesFirst
    (.single handlesSecond)))
  exact ⟨_, _, steps, rfl⟩

/-- The handler is called once at most for each id in every run in which no call finds an id
unseen between the check and the mark of another one, and behind such a check it may be called
twice. -/
theorem handled_once (receiver : DedupReceiver NormalizedEvent) (ids : List JsString) :
    Border (Takes receiver.tasks.step) (opened ids) Undisturbed (receiver.HandledOnce ids) where
  holds := by
    intro events final trace other trace'
    have same := trace'.unique (trace.mono fun _ _ _ step => step.2)
    rw [same]
    exact (claimed_run trace).once
  fails := by
    intro events current event next trace step disturbed
    cases event with
    | start call => exact absurd trivial disturbed
    | change change => cases change
    | proceed index outcome =>
        cases outcome with
        | rejects carriedOut => exact absurd trivial disturbed
        | resolves =>
            rw [Undisturbed] at disturbed
            push Not at disturbed
            rcases disturbed with ⟨event, id, found, unseen, ⟨other, phase⟩, member, marks⟩
            cases marks
            rcases List.getElem?_of_mem member with ⟨second, foundToo⟩
            have different : index ≠ second := by
              rintro rfl
              rw [found] at foundToo
              cases foundToo
            have proceeds : proceed current.shared event (.seeing id) .resolves =
                some (current.shared, .marking id) := by
              rw [proceed, if_neg unseen]
            have moved : Takes receiver.tasks.step current (.proceed index .resolves)
                ⟨current.shared, current.calls.set index (event, .marking id)⟩ :=
              (Tasks.moves_iff _).mpr (.proceed found proceeds)
            have isNext := Option.some.inj (step.symm.trans moved)
            subst isNext
            rcases @both_handle _ receiver ⟨current.shared, _⟩ _ _ _ _ _ different
              (Tasks.set_found found) ((Tasks.set_other different).trans foundToo) with
              ⟨later, final, trace', handled⟩
            refine ⟨later, final, trace', ?_⟩
            intro once
            have nodup := once final (trace.append (.cons moved trace'))
            rw [handled, List.map_append, List.map_append] at nodup
            simp [List.nodup_append] at nodup

theorem undisturbed_of_free {current : State NormalizedEvent} {index : Nat}
    {event : NormalizedEvent} {phase : Phase} (found : current.calls[index]? = some (event, phase))
    (free : ∀ id, phase = .seeing id → ∀ call ∈ current.calls, call.2 ≠ .marking id) :
    Undisturbed current (.proceed index .resolves) := by
  intro _ id seeing _
  rw [found] at seeing
  cases seeing
  exact free id rfl

/-- A second call of an id asks behind the mark of the first, while one of another id waits. -/
theorem handled_in_turn : let receiver : DedupReceiver JsString := ⟨some, none⟩
    let events : List (Event JsString) := [.start (js "a"), .start (js "b"), .proceed 0 .resolves,
      .proceed 1 .resolves, .proceed 0 .resolves, .start (js "a"), .proceed 2 .resolves,
      .proceed 0 .resolves, .proceed 1 .resolves, .proceed 1 .resolves]
    (∃ final, Trace (Guarded Undisturbed (Takes receiver.tasks.step)) (opened []) events final ∧
      final.shared.handled = [(js "a", js "a"), (js "b", js "b")]) ∧
        receiver.HandledOnce [] events := by
  intro receiver events
  have run : ∃ final, Trace (Guarded Undisturbed (Takes receiver.tasks.step)) (opened []) events
      final ∧ final.shared.handled = [(js "a", js "a"), (js "b", js "b")] := by
    refine ⟨_, .cons ⟨trivial, rfl⟩ (.cons ⟨trivial, rfl⟩ (.cons ⟨undisturbed_of_free rfl ?_, rfl⟩
      (.cons ⟨undisturbed_of_free rfl ?_, rfl⟩ (.cons ⟨undisturbed_of_free rfl nofun, rfl⟩
      (.cons ⟨trivial, rfl⟩ (.cons ⟨undisturbed_of_free rfl ?_, rfl⟩
      (.cons ⟨undisturbed_of_free rfl nofun, rfl⟩ (.cons ⟨undisturbed_of_free rfl nofun, rfl⟩
      (.single ⟨undisturbed_of_free rfl nofun, rfl⟩))))))))), rfl⟩
    all_goals
      rintro _ ⟨⟩
      decide
  rcases run with ⟨final, trace, handled⟩
  exact ⟨⟨final, trace, handled⟩, (handled_once receiver []).holds trace⟩

/-- Two calls with one id that both ask before one of them marks. -/
theorem delivered_twice :
    ¬ ∀ (receiver : DedupReceiver JsString) (ids : List JsString) (events : List (Event JsString)),
      receiver.HandledOnce ids events := by
  intro once
  have nodup := once ⟨some, none⟩ [] [.start (js "a"), .start (js "a"), .proceed 0 .resolves,
    .proceed 1 .resolves, .proceed 0 .resolves, .proceed 1 .resolves, .proceed 0 .resolves,
    .proceed 1 .resolves] _ (trace_of_runEvents rfl)
  revert nodup
  decide

end DedupReceiver

end Orbital.PulseWebhooks.Dedup
