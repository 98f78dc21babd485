import Orbital.PulseCore.SorobanSubscriber.Types

/-! # Filters and events

The filters that a contract subscription takes, and the events of the engine.
-/

/-! ## Contract filters

The two kinds of filter a contract subscription takes: `ContractFilter` of a
subscription by configuration, with its checks in `contractFilters.ts` and its
key, and the filters of a subscription by id, which the engine matches itself.
-/

namespace Orbital.PulseCore

open Orbital.PulseCore.SorobanSubscriber (ContractEventType ContractSubscriptionFilter)

variable {Value : Type}

/-! ## Filters of the RPC's shape -/

inductive ContractFilterType
  | system
  | contract
  | diagnostic
  deriving DecidableEq

structure ContractFilter where
  type : Option ContractFilterType
  contractIds : Option (List String)
  topics : Option (List (List String))
  deriving DecidableEq

def isBase64Char (char : Char) : Bool :=
  char.isAlphanum || char = '+' || char = '/'

def isValidBase64XdrScval (str : String) : Bool :=
  let body := str.toList.takeWhile isBase64Char
  let padding := str.toList.drop body.length
  !str.isEmpty && decide (padding = [] ∨ padding = ['='] ∨ padding = ['=', '='])

def segmentErrors (filterIndex patternIndex : Nat) (pattern : List String) : List String :=
  pattern.zipIdx.filterMap fun (segment, index) =>
    if segment = "*" || segment = "**" || isValidBase64XdrScval segment then none
    else some s!"Filter[{filterIndex}].topics[{patternIndex}][{index}] must be '*', '**', or a base64-encoded XDR scval, but got '{segment}'"

def contractIdErrors (filterIndex : Nat) (contractIds : List String) : List String :=
  if 5 < contractIds.length then
    [s!"Filter[{filterIndex}].contractIds length must be ≤ 5, but got {contractIds.length}"]
  else []

def filterErrors (filterIndex : Nat) (filter : ContractFilter) : List String :=
  contractIdErrors filterIndex (filter.contractIds.getD []) ++
    (filter.topics.getD []).zipIdx.flatMap fun (pattern, index) =>
      segmentErrors filterIndex index pattern

/-- `none` when the filters are valid. -/
def validateContractFilters (filters : List ContractFilter) : Option (List String) :=
  let tooMany :=
    if 5 < filters.length then
      [s!"Filters array length must be ≤ 5, but got {filters.length}"]
    else []
  let errors := tooMany ++ filters.zipIdx.flatMap fun (filter, index) => filterErrors index filter
  if errors.isEmpty then none else some errors

/-- What `stableFilterKey` serialises: the filters with their contract ids sorted. -/
def stableFilterKey (filters : List ContractFilter) : List ContractFilter :=
  filters.map fun filter =>
    { filter with contractIds := filter.contractIds.map (List.insertionSort (· ≤ ·)) }

/-! ## Contract events -/

structure ContractEvent (Value : Type) where
  type : ContractEventType
  contractId : String
  topics : List String
  payload : Value
  deriving DecidableEq

def topicsMatch : List (Option String) → List String → Bool
  | [], _ => true
  | none :: patterns, topics => topicsMatch patterns topics.tail
  | some _ :: _, [] => false
  | some pattern :: patterns, topic :: topics =>
      pattern = topic && topicsMatch patterns topics

def matchesContractFilter (event : ContractEvent Value) (filter : ContractSubscriptionFilter) :
    Bool :=
  filter.type.all (fun type => type = event.type) &&
    filter.contractIds.all (fun contractIds => contractIds.contains event.contractId) &&
    filter.topicFilters.all fun topicFilters =>
      match event.type with
      | .emitted => topicsMatch topicFilters event.topics
      | .invoked => false

def matchesContractFilters (event : ContractEvent Value)
    (filters : List ContractSubscriptionFilter) : Bool :=
  filters.isEmpty || filters.any (matchesContractFilter event)

end Orbital.PulseCore

/-! ## Normalized events

The events that `EventEngine.ts` gives to its watchers. Of a classic event the
model has the type and the addresses; whatever else an event carries is its
payload.
-/

namespace Orbital.PulseCore

open Orbital.PulseCore.SorobanSubscriber (ContractEventType)

variable {Value : Type}

inductive PaymentEventType
  | received
  | sent
  | self
  deriving DecidableEq

inductive OfferEventType
  | created
  | updated
  | deleted
  deriving DecidableEq

inductive TrustlineEventType
  | added
  | removed
  | updated
  deriving DecidableEq

inductive DataEventType
  | set
  | cleared
  deriving DecidableEq

inductive LiquidityPoolEventType
  | deposited
  | withdrawn
  deriving DecidableEq

inductive TrustAuthEventType
  | authorized
  | deauthorized
  deriving DecidableEq

inductive EventType
  | payment (type : PaymentEventType)
  | accountOptionsChanged
  | accountCreated
  | accountMerged
  | accountBumpSequence
  | trustline (type : TrustlineEventType)
  | trustAuth (type : TrustAuthEventType)
  | offer (type : OfferEventType)
  | data (type : DataEventType)
  | claimableCreated
  | claimableClaimed
  | lp (type : LiquidityPoolEventType)
  | contract (type : ContractEventType)
  | unknown
  deriving DecidableEq

inductive ClassicEvent
  | payment (type : Option PaymentEventType) (toAddress fromAddress : String)
  | accountOptions (source : String)
  | accountCreated (funder account : String)
  | accountMerge (source destination : String)
  | bumpSequence (source : String)
  | trustline (type : TrustlineEventType) (account : String)
  | trustAuth (type : TrustAuthEventType) (trustor issuer : String)
  | offer (type : OfferEventType) (source : String)
  | data (type : DataEventType) (source : String)
  | claimableCreated (sponsor : String) (claimants : List String)
  | claimableClaimed (claimant : String)
  | liquidityPool (type : LiquidityPoolEventType) (source : String)
  deriving DecidableEq

def ClassicEvent.type : ClassicEvent → EventType
  | .payment (some type) _ _ => .payment type
  | .payment none _ _ => .unknown
  | .accountOptions _ => .accountOptionsChanged
  | .accountCreated _ _ => .accountCreated
  | .accountMerge _ _ => .accountMerged
  | .bumpSequence _ => .accountBumpSequence
  | .trustline type _ => .trustline type
  | .trustAuth type _ _ => .trustAuth type
  | .offer type _ => .offer type
  | .data type _ => .data type
  | .claimableCreated _ _ => .claimableCreated
  | .claimableClaimed _ => .claimableClaimed
  | .liquidityPool type _ => .lp type

inductive NormalizedEvent (Value : Type)
  | classic (event : ClassicEvent) (payload : Value)
  | contract (event : ContractEvent Value)
  deriving DecidableEq

def NormalizedEvent.type : NormalizedEvent Value → EventType
  | .classic event _ => event.type
  | .contract event => .contract event.type

inductive Source
  | horizon
  | soroban
  deriving DecidableEq

def sourceOf : NormalizedEvent Value → Source
  | .contract _ => .soroban
  | .classic _ _ => .horizon

end Orbital.PulseCore
