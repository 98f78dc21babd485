import Orbital.PulseNotify.ConnectionPool

/-! # `connectionPool.ts`: the messages of a source

A message is read and handed to the subscribers in one `try` block. The first callback that
throws ends the loop over the subscribers, and all of them are told of a parse error.
-/

namespace Orbital.PulseNotify.MessageFanOut

open Foundation
open ConnectionPool (ConnectionEntry)

variable {Subscriber : Type}

inductive Callback
  | onEventId (id : JsString)
  | onEvent (event : JsValue)
  | onAuthExpired
  | onParseError

def Callback.delivers : Callback → Bool
  | .onEvent _ | .onAuthExpired => true
  | .onEventId _ | .onParseError => false

/-- Which callbacks throw on a message; those that may be left out are optional. -/
structure Reaction where
  onEventId : Option Bool
  onEvent : Bool
  onAuthExpired : Option Bool
  onParseError : Bool

/-- A callback that is called when its turn comes. -/
structure Turn (Subscriber : Type) where
  call : Subscriber × Callback
  throws : Bool

/-- The turn of `subscriber.callback?.()` -/
def turn? (subscriber : Subscriber) (callback : Callback) (throws : Option Bool) :
    List (Turn Subscriber) :=
  (throws.map (⟨(subscriber, callback), ·⟩)).toList

def invoke : List (Turn Subscriber) → List (Subscriber × Callback) × Bool
  | [] => ([], false)
  | turn :: rest =>
      if turn.throws then ([turn.call], true)
      else (turn.call :: (invoke rest).1, (invoke rest).2)

def notifySubscribers (notify : Subscriber → List (Turn Subscriber))
    (subscribers : List Subscriber) : List (Subscriber × Callback) × Bool :=
  invoke (subscribers.flatMap notify)

def isAuthExpired : JsValue → Bool
  | .object members =>
      match members.lookup (js "type") with
      | some (.leaf (.string text)) => text = js "auth_expired"
      | _ => false
  | _ => false

structure Arrival (Subscriber : Type) where
  entry : ConnectionEntry Subscriber
  distinct : entry.subscribers.Nodup
  data : JsString
  lastEventId : JsString
  reaction : Subscriber → Reaction
  /-- The subscribers when a throw has been caught: callbacks may come and go. -/
  afterThrow : List Subscriber

namespace Arrival

variable (arrival : Arrival Subscriber)

def notifyParseError (subscriber : Subscriber) : List (Turn Subscriber) :=
  turn? subscriber .onParseError (some (arrival.reaction subscriber).onParseError)

/-- The body of the loop in the `try` block. -/
def notify (data : JsValue) (subscriber : Subscriber) : List (Turn Subscriber) :=
  let reaction := arrival.reaction subscriber
  if isAuthExpired data then turn? subscriber .onAuthExpired reaction.onAuthExpired
  else
    (if arrival.lastEventId = [] then []
      else turn? subscriber (.onEventId arrival.lastEventId) reaction.onEventId) ++
      turn? subscriber (.onEvent data) (some reaction.onEvent)

def onmessage : ConnectionEntry Subscriber × List (Subscriber × Callback) :=
  match JsValue.parse arrival.data with
  | none =>
      (arrival.entry, (notifySubscribers arrival.notifyParseError arrival.entry.subscribers).1)
  | some data =>
      let (calls, threw) := notifySubscribers (arrival.notify data) arrival.entry.subscribers
      (if isAuthExpired data then { arrival.entry with connected := false } else arrival.entry,
        if threw then
          calls ++ (notifySubscribers arrival.notifyParseError arrival.afterThrow).1
        else calls)

/-- All turns of the loop in the `try` block. -/
def turns (data : JsValue) : List (Turn Subscriber) :=
  arrival.entry.subscribers.flatMap (arrival.notify data)

def addressed (data : JsValue) : List (Subscriber × Callback) :=
  if isAuthExpired data then
    (arrival.entry.subscribers.filter fun subscriber =>
      (arrival.reaction subscriber).onAuthExpired.isSome).map (·, .onAuthExpired)
  else arrival.entry.subscribers.map (·, .onEvent data)

/-- A message that can be read is handed to each of the distinct subscribers once, and nobody
is told of a parse error. -/
def Isolated : Prop :=
  ∀ data, JsValue.parse arrival.data = some data →
    (arrival.onmessage.2.filter fun call => call.2.delivers) = arrival.addressed data ∧
    ∀ subscriber, (subscriber, .onParseError) ∉ arrival.onmessage.2

/-- No callback throws on the message; or the first to throw leaves nobody behind, neither a
subscriber to hand the message to nor one to tell of the throw. -/
def Undisturbed : Prop :=
  ∀ data, JsValue.parse arrival.data = some data →
    (∀ turn ∈ arrival.turns data, turn.throws = false) ∨
    arrival.afterThrow = [] ∧ ∃ front first back,
      arrival.turns data = front ++ first :: back ∧
      (∀ turn ∈ front, turn.throws = false) ∧ first.throws = true ∧
      ∀ turn ∈ back, turn.call.2.delivers = false

end Arrival

/-! ## The loop -/

theorem call_of_turn? {subscriber : Subscriber} {callback : Callback} {throws : Option Bool}
    {turn : Turn Subscriber} (inside : turn ∈ turn? subscriber callback throws) :
    turn.call = (subscriber, callback) := by
  rw [turn?, Option.mem_toList, Option.map_eq_some_iff] at inside
  rcases inside with ⟨_, _, rfl⟩
  rfl

theorem delivering_turn? (subscriber : Subscriber) (callback : Callback) (throws : Option Bool) :
    (((turn? subscriber callback throws).map Turn.call).filter fun call => call.2.delivers) =
      if callback.delivers ∧ throws.isSome then [(subscriber, callback)] else [] := by
  cases throws <;> cases delivers : callback.delivers <;> simp [turn?, delivers]

theorem invoke_quiet {turns : List (Turn Subscriber)}
    (quiet : ∀ turn ∈ turns, turn.throws = false) :
    invoke turns = (turns.map Turn.call, false) := by
  induction turns with
  | nil => rfl
  | cons turn rest induction =>
      rcases List.forall_mem_cons.mp quiet with ⟨first, others⟩
      simp [invoke, first, induction others]

theorem invoke_thrown {front back : List (Turn Subscriber)} {first : Turn Subscriber}
    (quiet : ∀ turn ∈ front, turn.throws = false) (throws : first.throws = true) :
    invoke (front ++ first :: back) = ((front ++ [first]).map Turn.call, true) := by
  induction front with
  | nil => simp [invoke, throws]
  | cons turn rest induction =>
      rcases List.forall_mem_cons.mp quiet with ⟨returns, others⟩
      simp [invoke, returns, induction others]

theorem quiet_or_thrown (turns : List (Turn Subscriber)) :
    (∀ turn ∈ turns, turn.throws = false) ∨
    ∃ front first back, turns = front ++ first :: back ∧
      (∀ turn ∈ front, turn.throws = false) ∧ first.throws = true := by
  induction turns with
  | nil => simp
  | cons turn rest induction =>
      cases throws : turn.throws with
      | true => exact .inr ⟨[], turn, rest, rfl, by simp, throws⟩
      | false =>
          rcases induction with quiet | ⟨front, first, back, split, quiet, stops⟩
          · exact .inl (List.forall_mem_cons.mpr ⟨throws, quiet⟩)
          · exact .inr ⟨turn :: front, first, back, by simp [split],
              List.forall_mem_cons.mpr ⟨throws, quiet⟩, stops⟩

/-- What a throw keeps from being handed over stands behind it. -/
theorem delivering_front_iff {front back : List (Turn Subscriber)} {first : Turn Subscriber} :
    (((front ++ [first]).map Turn.call).filter fun call => call.2.delivers) =
        (((front ++ first :: back).map Turn.call).filter fun call => call.2.delivers) ↔
      ∀ turn ∈ back, turn.call.2.delivers = false := by
  have split : front ++ first :: back = (front ++ [first]) ++ back := by simp
  rw [split, @List.map_append _ _ _ (front ++ [first]), List.filter_append,
    List.self_eq_append_right, List.filter_eq_nil_iff]
  simp

namespace Arrival

variable {arrival : Arrival Subscriber} {data : JsValue}

/-- A loop that ran to its end would hand the message to everybody. -/
theorem delivering_turns (arrival : Arrival Subscriber) (data : JsValue) :
    (((arrival.turns data).map Turn.call).filter fun call => call.2.delivers) =
      arrival.addressed data := by
  rw [addressed, turns]
  induction arrival.entry.subscribers with
  | nil => simp
  | cons subscriber rest induction =>
      rw [List.flatMap_cons, List.map_append, List.filter_append, induction, notify]
      split
      · rw [delivering_turn?, List.filter_cons]
        cases (arrival.reaction subscriber).onAuthExpired <;> simp [Callback.delivers]
      · rw [List.map_append, List.filter_append, delivering_turn?]
        split
        · simp [Callback.delivers]
        · rw [delivering_turn?]
          simp [Callback.delivers]

theorem no_parseError (turn : Turn Subscriber) (taken : turn ∈ arrival.turns data) :
    turn.call.2 ≠ .onParseError := by
  rcases List.mem_flatMap.mp taken with ⟨subscriber, _, inside⟩
  rw [notify] at inside
  split at inside
  · simp [call_of_turn? inside]
  · rcases List.mem_append.mp inside with named | handed
    · split at named
      · cases named
      · simp [call_of_turn? named]
    · simp [call_of_turn? handed]

theorem tells_nobody : (∀ subscriber, (subscriber, .onParseError) ∉
    (notifySubscribers arrival.notifyParseError arrival.afterThrow).1) ↔
      arrival.afterThrow = [] := by
  constructor
  · intro untold
    cases left : arrival.afterThrow with
    | nil => rfl
    | cons subscriber rest =>
        have told := untold subscriber
        simp only [left, notifySubscribers, List.flatMap_cons, notifyParseError, turn?, invoke,
          Option.map_some, Option.toList_some, List.singleton_append] at told
        split at told <;> simp at told
  · intro nobody
    simp [nobody, notifySubscribers, invoke]

theorem onmessage_thrown (read : JsValue.parse arrival.data = some data)
    {front back : List (Turn Subscriber)} {first : Turn Subscriber}
    (list : arrival.turns data = front ++ first :: back)
    (quiet : ∀ turn ∈ front, turn.throws = false) (throws : first.throws = true) :
    arrival.onmessage.2 = (front ++ [first]).map Turn.call ++
      (notifySubscribers arrival.notifyParseError arrival.afterThrow).1 := by
  have loop : notifySubscribers (arrival.notify data) arrival.entry.subscribers =
      ((front ++ [first]).map Turn.call, true) :=
    (congrArg invoke list).trans (invoke_thrown quiet throws)
  simp [onmessage, read, loop]

theorem onmessage_quiet (read : JsValue.parse arrival.data = some data)
    (quiet : ∀ turn ∈ arrival.turns data, turn.throws = false) :
    arrival.onmessage.2 = (arrival.turns data).map Turn.call := by
  have loop : notifySubscribers (arrival.notify data) arrival.entry.subscribers =
      ((arrival.turns data).map Turn.call, false) := invoke_quiet quiet
  simp [onmessage, read, loop]

theorem untold_calls {turns : List (Turn Subscriber)}
    (inside : ∀ turn ∈ turns, turn ∈ arrival.turns data) (subscriber : Subscriber) :
    (subscriber, .onParseError) ∉ turns.map Turn.call := by
  intro told
  rcases List.mem_map.mp told with ⟨turn, member, call⟩
  exact no_parseError turn (inside turn member) (congrArg Prod.snd call)

theorem undisturbed_of_isolated (isolated : arrival.Isolated) : arrival.Undisturbed := by
  intro data read
  rcases isolated data read with ⟨delivered, untold⟩
  rcases quiet_or_thrown (arrival.turns data) with
    quiet | ⟨front, first, back, list, quiet, throws⟩
  · exact .inl quiet
  · rw [onmessage_thrown read list quiet throws] at delivered untold
    have nobody : arrival.afterThrow = [] :=
      tells_nobody.mp fun subscriber told => untold subscriber (List.mem_append_right _ told)
    rw [← delivering_turns, list, nobody, notifySubscribers, List.flatMap_nil, invoke,
      List.append_nil] at delivered
    exact .inr ⟨nobody, front, first, back, list, quiet, throws,
      delivering_front_iff.mp delivered⟩

theorem isolated_of_undisturbed (undisturbed : arrival.Undisturbed) : arrival.Isolated := by
  intro data read
  rcases undisturbed data read with
    quiet | ⟨nobody, front, first, back, list, quiet, throws, unaddressed⟩
  · rw [onmessage_quiet read quiet]
    exact ⟨arrival.delivering_turns data, untold_calls fun _ inside => inside⟩
  · have calls := onmessage_thrown read list quiet throws
    rw [nobody, notifySubscribers, List.flatMap_nil, invoke, List.append_nil] at calls
    rw [calls, ← delivering_turns, list]
    have within : ∀ turn ∈ front ++ [first], turn ∈ arrival.turns data := by
      intro turn inside
      rw [list, ← List.singleton_append, ← List.append_assoc]
      exact List.mem_append_left back inside
    exact ⟨delivering_front_iff.mpr unaddressed, untold_calls within⟩

/-- Of any messages, in any order, the handling is isolated exactly if none is disturbed. -/
theorem isolated_iff (arrivals : List (Arrival Subscriber)) :
    (∀ arrival ∈ arrivals, arrival.Isolated) ↔ ∀ arrival ∈ arrivals, arrival.Undisturbed :=
  forall₂_congr fun _ _ => ⟨undisturbed_of_isolated, isolated_of_undisturbed⟩

/-- The first of two subscribers throws on `{}`. -/
def firstThrows : Arrival Bool where
  entry := {
    poolKey := []
    source := { url := [], withCredentials := false, isOpen := true }
    subscribers := [true, false]
    connected := true }
  distinct := by decide
  data := JsonSyntax.print (.object [])
  lastEventId := []
  reaction := fun subscriber => ⟨none, subscriber, none, false⟩
  afterThrow := [true, false]

theorem firstThrows_not_isolated :
    ¬ ∀ arrivals : List (Arrival Bool), ∀ arrival ∈ arrivals, arrival.Isolated := by
  intro always
  have read : JsValue.parse firstThrows.data = some (.object []) := by
    rw [JsValue.parse, firstThrows, JsonSyntax.parse_print]
    rfl
  have told := (always [firstThrows] firstThrows (by simp) _ read).2 true
  have calls : firstThrows.onmessage.2 =
      [(true, .onEvent (.object [])), (true, .onParseError), (false, .onParseError)] := by
    simp only [onmessage, read]
    rfl
  simp [calls] at told

end Arrival

end Orbital.PulseNotify.MessageFanOut
