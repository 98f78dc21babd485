import Orbital.PulseCore.EventEngine.Routing

/-! # `worker-core/src/triggers/predicate.ts`

The condition of an event trigger. It names event types and may narrow them to a contract
filter and to addresses. A condition that is accepted becomes a predicate over events.
-/

namespace Orbital.WorkerCore.EventCondition

open Orbital.PulseCore
open Orbital.PulseCore.SorobanSubscriber (ContractEventType)

variable {Value : Type}

/-- Of what an event carries, the member that the predicate reads. -/
structure EventPayload (Value : Type) where
  inSuccessfulContractCall : Option Bool
  others : Value
  deriving DecidableEq

abbrev Event (Value : Type) :=
  NormalizedEvent (EventPayload Value)

abbrev EventPredicate (Value : Type) :=
  Event Value → Bool

/-! ## Types of events -/

def contractTypeText : ContractEventType → String
  | .invoked => "contract.invoked"
  | .emitted => "contract.emitted"

def typeText : EventType → String
  | .payment .received => "payment.received"
  | .payment .sent => "payment.sent"
  | .payment .self => "payment.self"
  | .accountOptionsChanged => "account.options_changed"
  | .accountCreated => "account.created"
  | .accountMerged => "account.merged"
  | .accountBumpSequence => "account.bump_sequence"
  | .trustline .added => "trustline.added"
  | .trustline .removed => "trustline.removed"
  | .trustline .updated => "trustline.updated"
  | .trustAuth .authorized => "trustline.authorized"
  | .trustAuth .deauthorized => "trustline.deauthorized"
  | .offer .created => "offer.created"
  | .offer .updated => "offer.updated"
  | .offer .deleted => "offer.deleted"
  | .data .set => "data.set"
  | .data .cleared => "data.cleared"
  | .claimableCreated => "claimable.created"
  | .claimableClaimed => "claimable.claimed"
  | .lp .deposited => "lp.deposited"
  | .lp .withdrawn => "lp.withdrawn"
  | .contract type => contractTypeText type
  | .unknown => "unknown"

def isEventType (event : Event Value) (types : List String) : Bool :=
  types.contains (typeText event.type)

def tradeSignalEventTypes : List String :=
  ["offer.created", "offer.updated", "offer.deleted", "lp.deposited", "lp.withdrawn"]

def tradeSignalRejection : String :=
  "trade-signal conditions are not available in W2. Conditions over offers and " ++
    "liquidity pools are price observations, and a worker acting on a price needs " ++
    "the custody guarantees of the W4 vault pattern. See §C.1's build order."

def knownEventTypes : List String :=
  ["payment.received", "payment.sent", "payment.self", "account.created", "account.merged",
    "account.options_changed", "account.bump_sequence", "trustline.added",
    "trustline.removed", "trustline.updated", "trustline.authorized",
    "trustline.deauthorized", "offer.created", "offer.updated", "offer.deleted", "data.set",
    "data.cleared", "claimable.created", "claimable.claimed", "lp.deposited",
    "lp.withdrawn", "asset.clawback", "fee.incurred", "contract.invoked",
    "contract.emitted"]

def contractEventTypes : List String :=
  ["contract.invoked", "contract.emitted"]

/-! ## Addresses of events -/

def classicMembers : ClassicEvent → List (String × String)
  | .payment _ toAddress fromAddress => [("to", toAddress), ("from", fromAddress)]
  | .accountOptions source => [("source", source)]
  | .accountCreated funder account => [("funder", funder), ("account", account)]
  | .accountMerge source destination => [("source", source), ("destination", destination)]
  | .bumpSequence source => [("source", source)]
  | .trustline _ account => [("account", account)]
  | .trustAuth _ trustor issuer => [("trustor", trustor), ("issuer", issuer)]
  | .offer _ source => [("source", source)]
  | .data _ source => [("source", source)]
  | .claimableCreated sponsor _ => [("sponsor", sponsor)]
  | .claimableClaimed claimant => [("claimant", claimant)]
  | .liquidityPool _ source => [("source", source)]

def members : Event Value → List (String × String)
  | .classic event _ => classicMembers event
  | .contract event => [("contractId", event.contractId)]

def member (event : Event Value) (field : String) : Option String :=
  (members event).lookup field

def addressFields : List String :=
  ["from", "to", "account", "contractId", "sourceAccount", "destination", "trustor"]

def addressesOf (event : Event Value) : List String :=
  addressFields.filterMap fun field =>
    (member event field).filter fun value => value ≠ ""

/-! ## Contract filters -/

/-- The wanted segment is `*` or stands at the same place of the topics. -/
def segmentMatches (topics : List String) (wanted : String × Nat) : Bool :=
  wanted.1 = "*" || topics[wanted.2]? = some wanted.1

def patternMatches (topics wanted : List String) : Bool :=
  wanted.zipIdx.all (segmentMatches topics)

def contractIdMatches (event : ContractEvent (EventPayload Value)) (filter : ContractFilter) :
    Bool :=
  let contractIds := filter.contractIds.getD []
  contractIds.isEmpty || contractIds.contains event.contractId

def topicsMatch (event : ContractEvent (EventPayload Value)) (filter : ContractFilter) : Bool :=
  let topics := filter.topics.getD []
  topics.isEmpty ||
    match event.type with
    | .invoked => false
    | .emitted => topics.any (patternMatches event.topics)

def matchesContractFilter (event : Event Value) (filter : ContractFilter) : Bool :=
  match event with
  | .classic _ _ => false
  | .contract event => contractIdMatches event filter && topicsMatch event filter

/-! ## Conditions -/

structure EventConditionSpec where
  eventTypes : List String
  contract : Option ContractFilter
  addresses : Option (List String)
  requireSuccessfulContractCall : Option Bool
  deriving DecidableEq

namespace EventConditionSpec

def typeErrors (spec : EventConditionSpec) : List String :=
  if spec.eventTypes.isEmpty then
    ["eventTypes must name at least one normalized event type — a condition with no type " ++
      "would fire on every event on the network"]
  else
    let unknown := spec.eventTypes.filter fun type => !knownEventTypes.contains type
    let tradeSignals := spec.eventTypes.filter tradeSignalEventTypes.contains
    unknown.map (fun type => "unknown event type \"" ++ type ++ "\"") ++
      if tradeSignals.isEmpty then []
      else [tradeSignalRejection ++ " Rejected types: " ++ ", ".intercalate tradeSignals ++ "."]

def contractErrors (spec : EventConditionSpec) : List String :=
  match spec.contract with
  | none => []
  | some filter =>
      (validateContractFilters [filter]).getD [] ++
        if spec.eventTypes.any contractEventTypes.contains then []
        else
          ["a contract filter only narrows contract.invoked / contract.emitted, but " ++
            "eventTypes names neither — this condition can never match"]

def addressErrors (spec : EventConditionSpec) : List String :=
  if spec.addresses = some [] then
    ["addresses, when present, must name at least one address"]
  else []

def errors (spec : EventConditionSpec) : List String :=
  spec.typeErrors ++ spec.contractErrors ++ spec.addressErrors

def callFits (spec : EventConditionSpec) (event : Event Value) : Bool :=
  match event with
  | .classic _ _ => true
  | .contract event =>
      !(spec.requireSuccessfulContractCall.getD true &&
        event.payload.inSuccessfulContractCall = some false)

def addressFits (spec : EventConditionSpec) (event : Event Value) : Bool :=
  spec.addresses.all fun addresses => (addressesOf event).any addresses.contains

def predicate (spec : EventConditionSpec) : EventPredicate Value := fun event =>
  isEventType event spec.eventTypes && spec.callFits event &&
    spec.contract.all (matchesContractFilter event) && spec.addressFits event

end EventConditionSpec

def compileEventCondition (spec : EventConditionSpec) :
    Except (List String) (EventPredicate Value) :=
  if spec.errors.isEmpty then .ok spec.predicate else .error spec.errors

variable {spec : EventConditionSpec}

theorem compileEventCondition_ok {predicate : EventPredicate Value}
    (compiled : compileEventCondition spec = .ok predicate) :
    spec.errors = [] ∧ predicate = spec.predicate := by
  unfold compileEventCondition at compiled
  split at compiled
  · rename_i accepted
    cases compiled
    exact ⟨List.isEmpty_iff.mp accepted, rfl⟩
  · cases compiled

/-- No accepted condition is over market data. -/
theorem not_tradeSignal (accepted : spec.errors = []) {type : String}
    (named : type ∈ spec.eventTypes) : type ∉ tradeSignalEventTypes := by
  intro signal
  have noTypeErrors : spec.typeErrors = [] :=
    (List.append_eq_nil_iff.mp (List.append_eq_nil_iff.mp accepted).1).1
  have found : type ∈ spec.eventTypes.filter tradeSignalEventTypes.contains :=
    List.mem_filter.mpr ⟨named, List.contains_iff_mem.mpr signal⟩
  have some' : (spec.eventTypes.filter tradeSignalEventTypes.contains).isEmpty = false :=
    List.isEmpty_eq_false_iff.mpr (List.ne_nil_of_mem found)
  have types : spec.eventTypes.isEmpty = false :=
    List.isEmpty_eq_false_iff.mpr (List.ne_nil_of_mem named)
  unfold EventConditionSpec.typeErrors at noTypeErrors
  simp [types, some'] at noTypeErrors

end Orbital.WorkerCore.EventCondition

/-! ## What a contract filter means in a condition

A subscription hands its contract filters to the RPC, which matches types, contract ids and
patterns of topics. The predicate of a condition has a matching of its own for them.
-/

namespace Orbital.WorkerCore.EventCondition

open Orbital.PulseCore
open Orbital.PulseCore.SorobanSubscriber (ContractEventType)

variable {Value : Type}

/-! ## What a filter means -/

/-- `*` stands for one topic and `**` for the rest; any other segment stands for itself. -/
def acceptsTopics : List String → List String → Bool
  | [], topics => topics.isEmpty
  | segment :: pattern, topics =>
      if segment = "**" then acceptsTopics pattern []
      else
        match topics with
        | [] => false
        | topic :: rest => (segment = "*" || segment = topic) && acceptsTopics pattern rest

/-- Events of the RPC's type `contract` are normalized to `contract.emitted`, the others to
`contract.invoked`. -/
def acceptsType (type : ContractFilterType) (event : ContractEventType) : Bool :=
  match type with
  | .contract => event = .emitted
  | .system => event = .invoked
  | .diagnostic => event = .invoked

/-- The meaning of a filter. What it leaves out or leaves empty narrows nothing, and only
emitted events have topics. -/
structure Accepts (filter : ContractFilter) (event : ContractEvent (EventPayload Value)) :
    Prop where
  type : ∀ type ∈ filter.type, acceptsType type event.type = true
  contractId : filter.contractIds.getD [] ≠ [] →
    event.contractId ∈ filter.contractIds.getD []
  topics : filter.topics.getD [] ≠ [] → event.type = .emitted ∧
    ∃ pattern ∈ filter.topics.getD [], acceptsTopics pattern event.topics = true

/-! ## Patterns by their places -/

/-- Every segment but `*` is the topic at its place. -/
def Names : List String → List String → Prop
  | [], _ => True
  | segment :: pattern, topics =>
      (segment = "*" ∨ topics.head? = some segment) ∧ Names pattern topics.tail

/-- The segments before the first `**`. -/
def opening (pattern : List String) : List String :=
  pattern.takeWhile fun segment => segment ≠ "**"

def NamesAll (pattern topics : List String) : Prop :=
  "**" ∉ pattern ∧ pattern.length = topics.length ∧ Names pattern topics

/-- The pattern names topics up to a `**`, behind which it has no other segments. -/
def NamesOpening (pattern topics : List String) : Prop :=
  "**" ∈ pattern ∧ (∀ segment ∈ pattern.drop (opening pattern).length, segment = "**") ∧
    (opening pattern).length ≤ topics.length ∧ Names (opening pattern) topics

variable (pattern topics : List String)

theorem segmentMatches_iff (segment : String) (place : Nat) :
    segmentMatches topics (segment, place) = true ↔
      segment = "*" ∨ topics[place]? = some segment := by
  rw [segmentMatches, Bool.or_eq_true, decide_eq_true_iff, decide_eq_true_iff]

theorem patternMatches_iff : patternMatches topics pattern = true ↔ Names pattern topics := by
  have shifted : ∀ place, (pattern.zipIdx place).all (segmentMatches topics) = true ↔
      Names pattern (topics.drop place) := by
    induction pattern with
    | nil => exact fun place => iff_of_true rfl trivial
    | cons segment pattern induction =>
        intro place
        rw [List.zipIdx_cons, List.all_cons, Bool.and_eq_true, segmentMatches_iff,
          induction (place + 1), Names, List.head?_drop, List.tail_drop]
  exact shifted 0

theorem acceptsTopics_rest : acceptsTopics ("**" :: pattern) topics = acceptsTopics pattern [] := by
  simp [acceptsTopics]

variable {segment : String}

theorem acceptsTopics_cons (notRest : segment ≠ "**") (topic : String)
    (pattern rest : List String) :
    acceptsTopics (segment :: pattern) (topic :: rest) =
      ((segment = "*" || segment = topic) && acceptsTopics pattern rest) := by
  simp [acceptsTopics, notRest]

theorem acceptsTopics_short (notRest : segment ≠ "**") (pattern : List String) :
    acceptsTopics (segment :: pattern) [] = false := by
  simp [acceptsTopics, notRest]

theorem acceptsTopics_nil :
    acceptsTopics pattern [] = true ↔ ∀ segment ∈ pattern, segment = "**" := by
  induction pattern with
  | nil => simp [acceptsTopics]
  | cons segment pattern induction =>
      rw [List.forall_mem_cons]
      by_cases isRest : segment = "**"
      · rw [isRest, acceptsTopics_rest, induction, and_iff_right rfl]
      · rw [acceptsTopics_short isRest]
        exact iff_of_false Bool.false_ne_true fun all => isRest all.1

theorem opening_cons (notRest : segment ≠ "**") (pattern : List String) :
    opening (segment :: pattern) = segment :: opening pattern := by
  simp [opening, notRest]

theorem opening_rest : opening ("**" :: pattern) = [] := by
  simp [opening]

/-- Matching, by places. -/
theorem acceptsTopics_iff :
    acceptsTopics pattern topics = true ↔
      NamesAll pattern topics ∨ NamesOpening pattern topics := by
  induction pattern generalizing topics with
  | nil =>
      cases topics with
      | nil => simp [acceptsTopics, NamesAll, Names]
      | cons topic rest => simp [acceptsTopics, NamesAll, NamesOpening]
  | cons segment pattern induction =>
      by_cases isRest : segment = "**"
      · rw [isRest, acceptsTopics_rest, acceptsTopics_nil, NamesAll, NamesOpening, opening_rest]
        simp [Names]
      · cases topics with
        | nil =>
            rw [acceptsTopics_short isRest]
            simp [NamesAll, NamesOpening, opening_cons isRest]
        | cons topic rest =>
            have named : (segment = "*" || segment = topic) = true ↔
                segment = "*" ∨ (topic :: rest).head? = some segment := by
              rw [Bool.or_eq_true, decide_eq_true_iff, decide_eq_true_iff, List.head?_cons,
                Option.some_inj]
              exact or_congr_right eq_comm
            rw [acceptsTopics_cons isRest, Bool.and_eq_true, induction rest, named]
            unfold NamesAll NamesOpening
            rw [opening_cons isRest, Names, Names]
            generalize (segment = "*" ∨ (topic :: rest).head? = some segment) = first
            by_cases holds : first
            · simp [holds, Ne.symm isRest]
            · simp [holds]

/-! ## The predicate -/

theorem matchesContractFilter_iff (event : ContractEvent (EventPayload Value))
    (filter : ContractFilter) :
    matchesContractFilter (.contract event) filter = true ↔
      (filter.contractIds.getD [] ≠ [] →
        event.contractId ∈ filter.contractIds.getD []) ∧
      (filter.topics.getD [] ≠ [] → event.type = .emitted ∧
        ∃ pattern ∈ filter.topics.getD [], Names pattern event.topics) := by
  have ids : contractIdMatches event filter = true ↔
      (filter.contractIds.getD [] ≠ [] →
        event.contractId ∈ filter.contractIds.getD []) := by
    rw [contractIdMatches, Bool.or_eq_true, List.isEmpty_iff, List.contains_iff_mem,
      or_iff_not_imp_left]
  have patterns : topicsMatch event filter = true ↔
      (filter.topics.getD [] ≠ [] → event.type = .emitted ∧
        ∃ pattern ∈ filter.topics.getD [], Names pattern event.topics) := by
    rw [topicsMatch, Bool.or_eq_true, List.isEmpty_iff, or_iff_not_imp_left]
    cases event.type with
    | invoked => simp
    | emitted => simp [List.any_eq_true, patternMatches_iff]
  rw [matchesContractFilter, Bool.and_eq_true, ids, patterns]

/-! ## Agreement -/

structure OtherwiseMet (spec : EventConditionSpec) (event : Event Value) : Prop where
  type : isEventType event spec.eventTypes = true
  call : spec.callFits event = true
  address : spec.addressFits event = true

def TypeFits (filter : ContractFilter) (type : ContractEventType) : Prop :=
  ∀ wanted ∈ filter.type, acceptsType wanted type = true

/-- A pattern of the filter names topics of the event, whatever their number. -/
def SomeNames (filter : ContractFilter) (topics : List String) : Prop :=
  ∃ pattern ∈ filter.topics.getD [], Names pattern topics

def SomeNamesAll (filter : ContractFilter) (topics : List String) : Prop :=
  ∃ pattern ∈ filter.topics.getD [], NamesAll pattern topics

def SomeNamesOpening (filter : ContractFilter) (topics : List String) : Prop :=
  ∃ pattern ∈ filter.topics.getD [], NamesOpening pattern topics

/-- When the predicate keeps to the meaning of the filter. -/
def Kept (filter : ContractFilter) (event : ContractEvent (EventPayload Value)) : Prop :=
  (filter.contractIds.getD [] ≠ [] ∧ event.contractId ∉ filter.contractIds.getD []) ∨
    (filter.topics.getD [] = [] ∧ TypeFits filter event.type) ∨
    (filter.topics.getD [] ≠ [] ∧ (event.type = .invoked ∨
      (SomeNames filter event.topics ∧ TypeFits filter event.type ∧
        (SomeNamesAll filter event.topics ∨ SomeNamesOpening filter event.topics)) ∨
      (¬SomeNames filter event.topics ∧
        (TypeFits filter event.type → ¬SomeNamesOpening filter event.topics))))

theorem accepts_iff (filter : ContractFilter) (event : ContractEvent (EventPayload Value)) :
    Accepts filter event ↔ TypeFits filter event.type ∧
      (filter.contractIds.getD [] ≠ [] →
        event.contractId ∈ filter.contractIds.getD []) ∧
      (filter.topics.getD [] ≠ [] → event.type = .emitted ∧
        (SomeNamesAll filter event.topics ∨ SomeNamesOpening filter event.topics)) := by
  have topics : (∃ pattern ∈ filter.topics.getD [],
      acceptsTopics pattern event.topics = true) ↔
      SomeNamesAll filter event.topics ∨ SomeNamesOpening filter event.topics := by
    simp only [acceptsTopics_iff, and_or_left, exists_or, SomeNamesAll, SomeNamesOpening]
  rw [← topics]
  exact ⟨fun accepts => ⟨accepts.type, accepts.contractId, accepts.topics⟩,
    fun accepts => ⟨accepts.1, accepts.2.1, accepts.2.2⟩⟩

/-- The predicate of an accepted condition with a contract filter agrees with the filter on
an event, as far as the rest of the condition is met, exactly in these cases. -/
theorem predicate_iff_accepts {spec : EventConditionSpec} {filter : ContractFilter}
    (narrowing : spec.contract = some filter) {predicate : EventPredicate Value}
    (compiled : compileEventCondition spec = .ok predicate)
    {event : ContractEvent (EventPayload Value)} (met : OtherwiseMet spec (.contract event)) :
    (predicate (.contract event) = true ↔ Accepts filter event) ↔ Kept filter event := by
  rcases compileEventCondition_ok compiled with ⟨_, rfl⟩
  have predicate : spec.predicate (.contract event) = true ↔
      matchesContractFilter (.contract event) filter = true := by
    rw [EventConditionSpec.predicate, met.type, met.call, met.address, narrowing]
    simp
  have all : SomeNamesAll filter event.topics → SomeNames filter event.topics := by
    rintro ⟨pattern, member, _, _, names⟩
    exact ⟨pattern, member, names⟩
  rw [predicate, matchesContractFilter_iff, accepts_iff, Kept]
  by_cases other : filter.contractIds.getD [] ≠ [] ∧
      event.contractId ∉ filter.contractIds.getD []
  · -- the predicate and the filter both refuse another contract
    have refused := Classical.not_imp.mpr other
    exact iff_of_true (iff_of_false (fun both => refused both.1) fun all => refused all.2.1)
      (Or.inl other)
  · have named : filter.contractIds.getD [] ≠ [] →
        event.contractId ∈ filter.contractIds.getD [] := by
      intro present
      exact not_not.mp fun absent => other ⟨present, absent⟩
    rw [or_iff_right other, and_iff_right named, and_iff_right named]
    by_cases empty : filter.topics.getD [] = []
    · simp [empty]
    · simp only [ne_eq, empty, not_false_eq_true, false_and, true_and, false_or, forall_const]
      cases event.type with
      | invoked => simp
      | emitted =>
          simp only [reduceCtorEq, false_or, true_and]
          rw [← SomeNames]
          by_cases names : SomeNames filter event.topics
          · simp [names]
          · have notAll : ¬SomeNamesAll filter event.topics := fun namesAll => names (all namesAll)
            simp [names, notAll]

/-! ## Two patterns -/

def patternCondition (pattern : List String) : EventConditionSpec where
  eventTypes := ["contract.emitted"]
  contract := some ⟨none, none, some [pattern]⟩
  addresses := none
  requireSuccessfulContractCall := none

def exampleEvent : ContractEvent (EventPayload Unit) where
  type := .emitted
  contractId := "CTOKEN"
  topics := ["AAAA"]
  payload := ⟨some true, ()⟩

theorem otherwiseMet_example :
    OtherwiseMet (patternCondition pattern) (.contract exampleEvent) where
  type := rfl
  call := rfl
  address := rfl

/-- A pattern that names all topics keeps its meaning. -/
theorem one_topic_kept :
    (patternCondition ["*"]).predicate (.contract exampleEvent) = true ↔
      Accepts ⟨none, none, some [["*"]]⟩ exampleEvent := by
  have accepted : compileEventCondition (patternCondition ["*"]) =
      .ok ((patternCondition ["*"]).predicate : EventPredicate Unit) := rfl
  have names : Names ["*"] ["AAAA"] := ⟨Or.inl rfl, trivial⟩
  have kept : Kept ⟨none, none, some [["*"]]⟩ exampleEvent := by
    refine Or.inr (Or.inr ⟨List.cons_ne_nil _ _, Or.inr (Or.inl ⟨?_, ?_, Or.inl ?_⟩)⟩)
    · exact ⟨["*"], List.mem_cons_self, names⟩
    · intro type wanted
      cases wanted
    · exact ⟨["*"], List.mem_cons_self, by decide, rfl, names⟩
  exact (predicate_iff_accepts rfl accepted (otherwiseMet_example ["*"])).mpr kept

/-- The rest of the topics is any, but the predicate asks for a topic `**`. -/
theorem rest_refused :
    ∃ predicate : EventPredicate Unit,
      compileEventCondition (patternCondition ["**"]) = .ok predicate ∧
      OtherwiseMet (patternCondition ["**"]) (.contract exampleEvent) ∧
      Accepts ⟨none, none, some [["**"]]⟩ exampleEvent ∧
      predicate (.contract exampleEvent) = false := by
  refine ⟨_, rfl, otherwiseMet_example ["**"], ⟨?_, ?_, ?_⟩, by decide⟩
  · intro type wanted
    cases wanted
  · intro present
    exact absurd rfl present
  · intro _
    exact ⟨rfl, ["**"], List.mem_cons_self, by decide⟩

end Orbital.WorkerCore.EventCondition

/-! ## Which delivered events a narrowed condition sees

The engine gives an event to the watchers of the addresses that take part in it. A
condition that is narrowed to such an address sees the event only in some of the roles.
-/

namespace Orbital.WorkerCore.EventCondition

open Orbital.Foundation
open Orbital.PulseCore
open Orbital.PulseCore.EventEngine (Registrations)

variable {Value : Type}

/-! ## What a condition demands -/

/-- Every accepted condition over the event's type that is narrowed to addresses with this
one among them matches the event. -/
def SeenFor (event : Event Value) (address : String) : Prop :=
  ∀ spec predicate, compileEventCondition spec = .ok predicate →
    typeText event.type ∈ spec.eventTypes → spec.contract = none →
    (∃ addresses, spec.addresses = some addresses ∧ address ∈ addresses) →
    predicate event = true

def narrowed (type address : String) : EventConditionSpec where
  eventTypes := [type]
  contract := none
  addresses := some [address]
  requireSuccessfulContractCall := none

theorem narrowed_accepted {type : String} (known : type ∈ knownEventTypes)
    (settled : type ∉ tradeSignalEventTypes) (address : String) :
    (narrowed type address).errors = [] := by
  have types : (narrowed type address).typeErrors = [] := by
    simp [EventConditionSpec.typeErrors, narrowed, known, settled]
  rw [EventConditionSpec.errors, types]
  rfl

variable {event : ClassicEvent} {payload : EventPayload Value}

/-- A classic event of a type that conditions may name is seen for an address exactly if
the address is one of those that are read of it. -/
theorem seenFor_classic (known : typeText event.type ∈ knownEventTypes)
    (settled : typeText event.type ∉ tradeSignalEventTypes) (address : String) :
    SeenFor (.classic event payload) address ↔
      address ∈ addressesOf (.classic event payload : Event Value) := by
  constructor
  · intro seen
    have accepted : compileEventCondition (narrowed (typeText event.type) address) =
        .ok ((narrowed (typeText event.type) address).predicate : EventPredicate Value) := by
      rw [compileEventCondition, narrowed_accepted known settled]
      rfl
    have sees := seen _ _ accepted List.mem_cons_self rfl
      ⟨[address], rfl, List.mem_cons_self⟩
    have fits := (Bool.and_eq_true_iff.mp sees).2
    simpa [EventConditionSpec.addressFits, narrowed] using fits
  · intro isRead spec predicate compiled named unfiltered narrowing
    rcases narrowing with ⟨addresses, isNarrowed, member⟩
    rcases compileEventCondition_ok compiled with ⟨_, rfl⟩
    have typed : isEventType (.classic event payload : Event Value) spec.eventTypes = true :=
      List.contains_iff_mem.mpr named
    have fits : spec.addressFits (.classic event payload : Event Value) = true := by
      rw [EventConditionSpec.addressFits, isNarrowed]
      exact List.any_eq_true.mpr ⟨address, isRead, List.contains_iff_mem.mpr member⟩
    rw [EventConditionSpec.predicate, typed, unfiltered, fits]
    rfl

/-! ## The roles that are read -/

def ReadRole (address : String) : ClassicEvent → Prop
  | .payment _ toAddress fromAddress => address = fromAddress ∨ address = toAddress
  | .accountCreated _ account => address = account
  | .accountMerge _ destination => address = destination
  | .trustline _ account => address = account
  | .trustAuth _ trustor _ => address = trustor
  | .accountOptions _ | .bumpSequence _ | .offer _ _ | .data _ _ | .claimableCreated _ _
  | .claimableClaimed _ | .liquidityPool _ _ => False

instance (address : String) (event : ClassicEvent) : Decidable (ReadRole address event) := by
  cases event <;> unfold ReadRole <;> infer_instance

/-- A type of market data; no accepted condition names it. -/
def IsMarket : EventType → Prop
  | .offer _ | .lp _ => True
  | _ => False

instance (type : EventType) : Decidable (IsMarket type) := by
  cases type <;> unfold IsMarket <;> infer_instance

variable {address : String} {registrations : Registrations (EventPayload Value)}
  {recipient : String × ClassicEvent}

theorem mem_addressesOf {event : Event Value} :
    address ∈ addressesOf event ↔
      address ≠ "" ∧ some address ∈ addressFields.map (member event) := by
  rw [addressesOf, List.mem_filterMap, List.mem_map]
  constructor
  · rintro ⟨field, isField, isRead⟩
    rcases Option.filter_eq_some_iff.mp isRead with ⟨isMember, notEmpty⟩
    exact ⟨of_decide_eq_true notEmpty, field, isField, isMember⟩
  · rintro ⟨notEmpty, field, isField, isMember⟩
    exact ⟨field, isField, Option.filter_eq_some_iff.mpr ⟨isMember, decide_eq_true notEmpty⟩⟩

theorem readRole_iff :
    some address ∈ addressFields.map (member (.classic event payload)) ↔
      ReadRole address event := by
  cases event <;>
    simp [addressFields, member, members, classicMembers, ReadRole, List.lookup_cons, eq_comm]

theorem known_of_resolved {type : EventType} (resolved : type ≠ .unknown) :
    typeText type ∈ knownEventTypes := by
  cases type with
  | unknown => exact absurd rfl resolved
  | payment type | trustline type | trustAuth type | offer type | data type | lp type
  | contract type => cases type <;> decide
  | accountOptionsChanged | accountCreated | accountMerged | accountBumpSequence
  | claimableCreated | claimableClaimed => decide

theorem tradeSignal_iff (type : EventType) :
    typeText type ∈ tradeSignalEventTypes ↔ IsMarket type := by
  cases type with
  | payment type | trustline type | trustAuth type | offer type | data type | lp type
  | contract type => cases type <;> decide
  | accountOptionsChanged | accountCreated | accountMerged | accountBumpSequence
  | claimableCreated | claimableClaimed | unknown => decide

/-! ## Deliveries -/

/-- The addresses whose watchers emit the event, each with the event that it is given.
Contract events go to subscriptions and not to addresses. -/
def deliveries (registrations : Registrations (EventPayload Value)) :
    Event Value → List (String × Event Value)
  | .classic event payload =>
      ((registrations.recipients event payload).map fun recipient =>
        (recipient.1, .classic recipient.2 payload)).filter fun delivery =>
          !(registrations.emitTo delivery.1 delivery.2).isEmpty
  | .contract _ => []

theorem given_of_recipient (among : recipient ∈ registrations.recipients event payload) :
    recipient.2 = event ∧ event.type ≠ .unknown ∨
      ∃ type toAddress fromAddress, recipient.2 = .payment (some type) toAddress fromAddress := by
  cases event with
  | payment type toAddress fromAddress =>
      cases type with
      | some type => cases among
      | none =>
          rw [Registrations.recipients] at among
          split at among
          · rw [List.mem_singleton.mp among]
            exact Or.inr ⟨_, _, _, rfl⟩
          · rcases List.mem_cons.mp among with rfl | last
            · exact Or.inr ⟨_, _, _, rfl⟩
            · rw [List.mem_singleton.mp last]
              exact Or.inr ⟨_, _, _, rfl⟩
  | claimableCreated sponsor claimants =>
      rw [Registrations.recipients] at among
      rcases List.mem_append.mp among with claimant | rest
      · rcases List.mem_map.mp claimant with ⟨address, _, rfl⟩
        exact Or.inl ⟨rfl, fun same => by cases same⟩
      · split at rest
        · cases rest
        · rw [List.mem_singleton.mp rest]
          exact Or.inl ⟨rfl, fun same => by cases same⟩
  | accountCreated | trustAuth =>
      rw [Registrations.recipients] at among
      rcases List.mem_cons.mp among with rfl | rest
      · exact Or.inl ⟨rfl, fun same => by cases same⟩
      · split at rest
        · rw [List.mem_singleton.mp rest]
          exact Or.inl ⟨rfl, fun same => by cases same⟩
        · cases rest
  | accountMerge =>
      rcases List.mem_cons.mp among with rfl | rest
      · exact Or.inl ⟨rfl, fun same => by cases same⟩
      · rw [List.mem_singleton.mp rest]
        exact Or.inl ⟨rfl, fun same => by cases same⟩
  | accountOptions | offer | trustline | bumpSequence | data | claimableClaimed
  | liquidityPool =>
      rw [List.mem_singleton.mp among]
      exact Or.inl ⟨rfl, fun same => by cases same⟩

theorem resolved_of_recipient (among : recipient ∈ registrations.recipients event payload) :
    recipient.2.type ≠ .unknown := by
  rcases given_of_recipient among with ⟨same, resolved⟩ | ⟨type, toAddress, fromAddress, payment⟩
  · rw [same]
    exact resolved
  · rw [payment]
    exact fun same => by cases same

/-- The address has a role in the event that a condition reads, or no accepted condition
names the type of the event. -/
def IsSeen (address : String) : Event Value → Prop
  | .classic event _ => IsMarket event.type ∨ (address ≠ "" ∧ ReadRole address event)
  | .contract _ => False

/-- An event that is delivered to an address is seen by the conditions that are narrowed to
the address exactly in the roles that are read. -/
theorem seenFor_iff (registrations : Registrations (EventPayload Value)) {event : Event Value}
    {delivery : String × Event Value} (delivered : delivery ∈ deliveries registrations event) :
    SeenFor delivery.2 delivery.1 ↔ IsSeen delivery.1 delivery.2 := by
  cases event with
  | contract event => cases delivered
  | classic event payload =>
      rcases List.mem_map.mp (List.mem_filter.mp delivered).1 with ⟨recipient, among, rfl⟩
      have known := known_of_resolved (resolved_of_recipient among)
      by_cases market : IsMarket recipient.2.type
      · constructor
        · exact fun _ => Or.inl market
        · intro _ spec predicate compiled named
          have accepted := (compileEventCondition_ok compiled).1
          exact absurd ((tradeSignal_iff _).mpr market) (not_tradeSignal accepted named)
      · have settled := fun signal => market ((tradeSignal_iff _).mp signal)
        rw [IsSeen, or_iff_right market, seenFor_classic known settled, mem_addressesOf,
          readRole_iff]

/-! ## An account and its funder -/

def watcherOf (address : String) : Registrations (EventPayload Unit) where
  engine := .initial none
  registry := InsertionMap.empty.set address 0
  distinct := List.nodup_singleton 0

def exampleCreation : Event Unit :=
  .classic (.accountCreated "GFUNDER" "GNEW") ⟨none, ()⟩

theorem account_seen : SeenFor exampleCreation "GNEW" := by
  have delivered : ("GNEW", exampleCreation) ∈
      deliveries (watcherOf "GNEW") exampleCreation := by decide
  exact (seenFor_iff (watcherOf "GNEW") delivered).mpr (Or.inr ⟨by decide, rfl⟩)

/-- The funder is given the event that creates the account, and a condition that is narrowed
to the funder does not match it. -/
theorem funder_unseen :
    ("GFUNDER", exampleCreation) ∈ deliveries (watcherOf "GFUNDER") exampleCreation ∧
      ¬SeenFor exampleCreation "GFUNDER" := by
  constructor
  · decide
  · intro seen
    have sees := seen (narrowed "account.created" "GFUNDER") _ rfl List.mem_cons_self rfl
      ⟨["GFUNDER"], rfl, List.mem_cons_self⟩
    exact absurd sees (by decide)

end Orbital.WorkerCore.EventCondition
