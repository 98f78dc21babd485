import Orbital.AbiRegistry.PublishedVersions
import Orbital.AbiRegistry.SpecIntegrity
import Orbital.Foundation.Selection

/-! # The version that was current at a ledger

`getSpec` resolves the last record of the list, `getSpecAt` one of the highest ledger up to
the one it is asked for. Versions that were published in one ledger have the same ledger in
their records, and of these it is the first.
-/

namespace Orbital.AbiRegistry.OnChainAbiRegistryClient

open Foundation
open RegistryContract (Chain Publish)

def currentAt (published : List RegistryContract.SpecRecord) (ledger : Nat) :
    Option RegistryContract.SpecRecord :=
  (published.filter fun record => record.publishedAtLedger ≤ ledger).getLast?

/-! ## The records that are resolved -/

def resolved (config : Config) (contractId : Address) : Option SpecRecord → Program (Option JsValue)
  | none => .done none
  | some record => resolveRecord config contractId record

theorem getSpecAt_eq_bind (config : Config) (contractId : Address) (ledger : Nat) :
    getSpecAt config contractId ledger =
      ((Query.getSpecAt ledger).record contractId).bind (resolved config contractId) := by
  rw [getSpecAt, Query.record, Async.bind_eq, Async.bind_assoc]
  congr 1

theorem getSpec_eq_bind (config : Config) (contractId : Address) :
    getSpec config contractId =
      (Query.getSpec.record contractId).bind (resolved config contractId) := by
  rw [getSpec, Query.record, Async.bind_eq, Async.bind_assoc]
  congr 1

/-- The record is the first of the highest ledger up to a given one; without a record all
ledgers are higher. -/
def FirstHighest (records : List SpecRecord) (ledger : Nat) : Option SpecRecord → Prop
  | none => ∀ other ∈ records, ledger < other.publishedAtLedger
  | some record =>
      record.publishedAtLedger ≤ ledger ∧
        (∀ other ∈ records, other.publishedAtLedger ≤ ledger →
          other.publishedAtLedger ≤ record.publishedAtLedger) ∧
        records.find? (fun other => other.publishedAtLedger = record.publishedAtLedger) =
          some record

/-- The loop of `getSpecAt` looks for the first maximum. -/
theorem foldl_laterBy (ledger : Nat) (records : List SpecRecord) (start : Option SpecRecord) :
    records.foldl (laterBy ledger) start =
      (records.filter fun record => record.publishedAtLedger ≤ ledger).foldl
        (List.argAux fun record candidate =>
          candidate.publishedAtLedger < record.publishedAtLedger) start := by
  induction records generalizing start with
  | nil => rfl
  | cons record rest induction =>
      rw [List.foldl_cons, induction]
      by_cases early : record.publishedAtLedger ≤ ledger
      · rw [List.filter_cons_of_pos (by simp [early]), List.foldl_cons]
        cases start <;> simp [laterBy, List.argAux, early]
      · rw [List.filter_cons_of_neg (by simp [early])]
        simp [laterBy, early]

theorem foldl_laterBy_iff {records : List SpecRecord} {ledger : Nat}
    {found : Option SpecRecord} :
    records.foldl (laterBy ledger) none = found ↔ FirstHighest records ledger found := by
  rw [foldl_laterBy]
  change (records.filter _).argmax SpecRecord.publishedAtLedger = found ↔ _
  cases found with
  | none => simp [FirstHighest]
  | some record =>
      rw [argmax_iff_find?, FirstHighest, List.find?_filter]
      by_cases early : record.publishedAtLedger ≤ ledger
      · have same : (fun other : SpecRecord => decide (other.publishedAtLedger ≤ ledger) &&
            decide (other.publishedAtLedger = record.publishedAtLedger)) =
            fun other => decide (other.publishedAtLedger = record.publishedAtLedger) := by
          funext other
          by_cases equal : other.publishedAtLedger = record.publishedAtLedger <;>
            simp [equal, early]
        simp [early, same]
      · simp only [early, false_and, iff_false, not_and]
        intro _ found
        have member := List.find?_some found
        simp [early] at member

section Run

variable {config : Config} {chain : Chain}
  {transport : JsString → Except Failure HttpResponse} {client : Client} {contractId : Address}

theorem run_chosen :
    ∃ after, ∀ choose : List SpecRecord → Option SpecRecord,
      ((getRecords contractId).bind fun records => .done (choose records)).run
          (responder config chain.storage transport) () client =
        { world := ()
          state := after
          result := ((getRecords contractId).run (responder config chain.storage transport) ()
            client).result.map choose } := by
  rcases run_getRecords config chain.storage transport client contractId with
    ⟨recordsCache, run⟩
  refine ⟨{ client with recordsCache }, fun choose => ?_⟩
  rw [Async.run_bind, run]
  dsimp only
  cases liveRecords client contractId with
  | some cached => rfl
  | none =>
      dsimp only
      split <;> rfl

/-- `getSpecAt` resolves the version that was published last up to the ledger, and what
`getSpec` resolves when no version was published later. -/
structure ResolvesCurrent (config : Config) (chain : Chain)
    (transport : JsString → Except Failure HttpResponse) (client : Client)
    (contractId : Address) (ledger : Nat) : Prop where
  current : (((Query.getSpecAt ledger).record contractId).run
      (responder config chain.storage transport) () client).result =
    .ok ((currentAt (chain.published contractId config.publisher) ledger).map .ofNative)
  latest : (∀ record ∈ chain.published contractId config.publisher,
      record.publishedAtLedger ≤ ledger) →
    ((Query.getSpecAt ledger).record contractId).run (responder config chain.storage transport)
          () client =
        (Query.getSpec.record contractId).run (responder config chain.storage transport) ()
          client ∧
      (getSpecAt config contractId ledger).run (responder config chain.storage transport) ()
          client =
        (getSpec config contractId).run (responder config chain.storage transport) () client

theorem resolvesCurrent_iff_records {ledger : Nat} :
    ResolvesCurrent config chain transport client contractId ledger ↔
      ∃ records, ((getRecords contractId).run (responder config chain.storage transport) ()
          client).result = .ok records ∧
        FirstHighest records ledger
          ((currentAt (chain.published contractId config.publisher) ledger).map .ofNative) ∧
        ((∀ record ∈ chain.published contractId config.publisher,
            record.publishedAtLedger ≤ ledger) →
          records.getLast? =
            (currentAt (chain.published contractId config.publisher) ledger).map .ofNative) := by
  rcases @run_chosen config chain transport client contractId with ⟨after, run⟩
  simp only [← foldl_laterBy_iff]
  constructor
  · rintro ⟨current, latest⟩
    rw [Query.record, run] at current
    rcases read : ((getRecords contractId).run (responder config chain.storage transport) ()
      client).result with failure | records
    · rw [read] at current
      cases current
    · rw [read] at current
      have highest := Except.ok.inj current
      refine ⟨records, rfl, highest, fun all => ?_⟩
      have same := congrArg Async.Outcome.result (latest all).1
      rw [Query.record, Query.record, run, run, read] at same
      exact (Except.ok.inj same).symm.trans highest
  · rintro ⟨records, read, highest, last⟩
    have chosenAt : ((Query.getSpecAt ledger).record contractId).run
        (responder config chain.storage transport) () client =
        { world := ()
          state := after
          result := .ok ((currentAt (chain.published contractId config.publisher) ledger).map
            .ofNative) } := by
      rw [Query.record, run, read, ← highest]
      rfl
    constructor
    · rw [chosenAt]
    · intro all
      have same : ((Query.getSpecAt ledger).record contractId).run
            (responder config chain.storage transport) () client =
          (Query.getSpec.record contractId).run (responder config chain.storage transport) ()
            client := by
        rw [chosenAt, Query.record, run, read, ← last all]
        rfl
      refine ⟨same, ?_⟩
      rw [getSpecAt_eq_bind, getSpec_eq_bind, Async.run_bind, Async.run_bind, same]

end Run

/-! ## The records that are listed -/

section Listed

variable {config : Config} {chain : Chain} {contractId : Address} {ledger : Nat}

def listedRecords (config : Config) (chain : Chain) (contractId : Address) : List SpecRecord :=
  (chain.published contractId config.publisher).filterMap
    (listed config chain.storage contractId)

theorem published_of_listed (shows : chain.Shows contractId config.publisher)
    {record : SpecRecord} (member : record ∈ listedRecords config chain contractId) :
    ∃ published ∈ chain.published contractId config.publisher,
      record = .ofNative published := by
  rcases List.mem_filterMap.mp member with ⟨original, -, isListed⟩
  rw [listed] at isListed
  split at isListed
  · cases isListed
  · rcases Option.map_eq_some_iff.mp isListed with ⟨named, isNamed, rfl⟩
    exact ⟨named, ((namedRecord_eq_some_iff shows).mp isNamed).1, rfl⟩

variable {published : List RegistryContract.SpecRecord}

theorem currentAt_spec (nondecreasing : published.Pairwise fun earlier later =>
      earlier.publishedAtLedger ≤ later.publishedAtLedger) {current : RegistryContract.SpecRecord}
    (isCurrent : currentAt published ledger = some current) :
    current.publishedAtLedger ≤ ledger ∧ ∀ record ∈ published,
      record.publishedAtLedger ≤ ledger → record.publishedAtLedger ≤ current.publishedAtLedger := by
  rcases List.getLast?_eq_some_iff.mp isCurrent with ⟨front, whole⟩
  have member : current ∈ published.filter fun record => record.publishedAtLedger ≤ ledger := by
    simp [whole]
  refine ⟨of_decide_eq_true (List.mem_filter.mp member).2, ?_⟩
  intro record isPublished early
  have kept : record ∈ published.filter fun record => record.publishedAtLedger ≤ ledger :=
    List.mem_filter.mpr ⟨isPublished, decide_eq_true early⟩
  have sorted := nondecreasing.filter fun record => record.publishedAtLedger ≤ ledger
  rw [whole, List.pairwise_append] at sorted
  rw [whole, List.mem_append, List.mem_singleton] at kept
  rcases kept with before | rfl
  · exact sorted.2.2 record before current List.mem_cons_self
  · exact le_refl _

theorem currentAt_eq_none :
    currentAt published ledger = none ↔
      ∀ record ∈ published, ledger < record.publishedAtLedger := by
  simp [currentAt]

theorem firstHighest_listedRecords_iff (shows : chain.Shows contractId config.publisher)
    (nondecreasing : (chain.published contractId config.publisher).Pairwise
      fun earlier later => earlier.publishedAtLedger ≤ later.publishedAtLedger) :
    FirstHighest (listedRecords config chain contractId) ledger
        ((currentAt (chain.published contractId config.publisher) ledger).map .ofNative) ↔
      ∀ record, currentAt (chain.published contractId config.publisher) ledger = some record →
        (listedRecords config chain contractId).find?
          (fun other => other.publishedAtLedger = record.publishedAtLedger) =
            some (.ofNative record) := by
  cases isCurrent : currentAt (chain.published contractId config.publisher) ledger with
  | none =>
      rw [currentAt_eq_none] at isCurrent
      simp only [reduceCtorEq, false_implies, implies_true, iff_true]
      intro other member
      rcases published_of_listed shows member with ⟨published, isPublished, rfl⟩
      exact isCurrent published isPublished
  | some current =>
      rcases currentAt_spec nondecreasing isCurrent with ⟨early, highest⟩
      have atMost : ∀ other ∈ listedRecords config chain contractId,
          other.publishedAtLedger ≤ ledger →
          other.publishedAtLedger ≤ current.publishedAtLedger := by
        intro other member
        rcases published_of_listed shows member with ⟨published, isPublished, rfl⟩
        exact highest published isPublished
      simp only [Option.some.injEq, forall_eq']
      exact ⟨fun first => first.2.2, fun found => ⟨early, atMost, found⟩⟩

theorem getLast?_listedRecords_of_none
    (isCurrent : currentAt (chain.published contractId config.publisher) ledger = none)
    (all : ∀ record ∈ chain.published contractId config.publisher,
      record.publishedAtLedger ≤ ledger) :
    (listedRecords config chain contractId).getLast? = none := by
  rw [currentAt_eq_none] at isCurrent
  have empty : chain.published contractId config.publisher = [] :=
    List.eq_nil_iff_forall_not_mem.mpr fun record member =>
      absurd (all record member) (Nat.not_le.mpr (isCurrent record member))
  rw [listedRecords, empty]
  rfl

end Listed

/-- The version that was current at a ledger is resolved exactly if it is listed before
every other version of its ledger, and behind all others too when `getSpec` must agree. A
list that is cached has to begin and end in the same way. -/
theorem resolvesCurrent_iff (config : Config) (calls : List Publish)
    (transport : JsString → Except Failure HttpResponse) (client : Client)
    (contractId : Address) (ledger : Nat)
    (nondecreasing : ((Chain.after calls).published contractId config.publisher).Pairwise
      fun earlier later => earlier.publishedAtLedger ≤ later.publishedAtLedger) :
    ResolvesCurrent config (Chain.after calls) transport client contractId ledger ↔
      match liveRecords client contractId with
      | some cached =>
          FirstHighest cached ledger
              ((currentAt ((Chain.after calls).published contractId config.publisher) ledger).map
                .ofNative) ∧
            ((∀ record ∈ (Chain.after calls).published contractId config.publisher,
                record.publishedAtLedger ≤ ledger) →
              cached.getLast? =
                (currentAt ((Chain.after calls).published contractId config.publisher)
                  ledger).map .ofNative)
      | none =>
          ((Chain.after calls).published contractId config.publisher).length ≤ lastStart ∧
            ∀ current ∈ currentAt ((Chain.after calls).published contractId config.publisher)
                ledger,
              (listedRecords config (Chain.after calls) contractId).find?
                  (fun other => other.publishedAtLedger = current.publishedAtLedger) =
                some (.ofNative current) ∧
              ((∀ record ∈ (Chain.after calls).published contractId config.publisher,
                  record.publishedAtLedger ≤ ledger) →
                (listedRecords config (Chain.after calls) contractId).getLast? =
                  some (.ofNative current)) := by
  have shows := RegistryContract.Chain.shows_after calls contractId config.publisher
  have count : (storedVersions config (Chain.after calls).storage contractId).length =
      ((Chain.after calls).published contractId config.publisher).length := by
    rw [storedVersions, shows.versions, List.length_map]
  rw [resolvesCurrent_iff_records, result_getRecords, records_of_published shows, count]
  cases liveRecords client contractId with
  | some cached => simp
  | none =>
      dsimp only
      by_cases small :
          ((Chain.after calls).published contractId config.publisher).length ≤ lastStart
      · have listed := @firstHighest_listedRecords_iff config (Chain.after calls) contractId ledger
          shows nondecreasing
        rw [if_pos small]
        simp only [Except.ok.injEq, exists_eq_left', small, true_and]
        rw [← listedRecords, listed]
        cases isCurrent : currentAt ((Chain.after calls).published contractId config.publisher)
            ledger with
        | none => simpa using getLast?_listedRecords_of_none isCurrent
        | some current => simp
      · simp [small]

def twoVersions (first second : Nat) : List Publish :=
  [{ samplePublish (js "1.0.0") with sequence := first },
    { samplePublish (js "1.1.0") with sequence := second }]

def newClient : Client where
  now := 0
  recordsCache := .new 300000 512
  specCache := .new 300000 512

/-- Published in different ledgers, each version is resolved at its own. -/
theorem twoVersions_resolve :
    ResolvesCurrent sampleConfig (Chain.after (twoVersions 1000 1001))
        (fun _ => .error (.transport (js "fetch failed"))) newClient sampleContract 1000 ∧
      ResolvesCurrent sampleConfig (Chain.after (twoVersions 1000 1001))
        (fun _ => .error (.transport (js "fetch failed"))) newClient sampleContract 1001 := by
  have uncached : liveRecords newClient sampleContract = none := by decide
  constructor
  · apply (resolvesCurrent_iff _ _ _ _ _ _ (by decide)).mpr
    rw [uncached]
    decide
  · apply (resolvesCurrent_iff _ _ _ _ _ _ (by decide)).mpr
    rw [uncached]
    decide

/-- Published in one ledger, the first version stays the one that is resolved. -/
theorem getSpecAt_keeps_first_of_ledger :
    ((Chain.after (twoVersions 1000 1000)).published sampleContract samplePublisher).Pairwise
        (fun earlier later => earlier.publishedAtLedger ≤ later.publishedAtLedger) ∧
      liveRecords newClient sampleContract = none ∧
      ¬ ResolvesCurrent sampleConfig (Chain.after (twoVersions 1000 1000))
        (fun _ => .error (.transport (js "fetch failed"))) newClient sampleContract 1000 := by
  refine ⟨by decide, by decide, fun resolves => ?_⟩
  rcases resolvesCurrent_iff_records.mp resolves with ⟨records, read, first, -⟩
  have current : currentAt ((Chain.after (twoVersions 1000 1000)).published sampleContract
      samplePublisher) 1000 = some (samplePublish (js "1.1.0")).record := by decide
  have listed : (Except.ok (listedRecords sampleConfig (Chain.after (twoVersions 1000 1000))
      sampleContract) : Except Failure (List SpecRecord)) = .ok records := read
  cases listed
  rw [show sampleConfig.publisher = samplePublisher from rfl, current] at first
  have found := first.2.2
  exact absurd found (by decide)

end Orbital.AbiRegistry.OnChainAbiRegistryClient
