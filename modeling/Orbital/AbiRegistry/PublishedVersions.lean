import Orbital.AbiRegistry.OnChainAbiRegistryClient

/-! # Which published versions the client sees

The client pages through the versions of the contract and reads the record of each. It
lists a version that does not start with the marker of a truncated list, and it reads
the record stored under the text that the decoder makes of the version.
-/

namespace Orbital.AbiRegistry.OnChainAbiRegistryClient

open Foundation
open RegistryContract (Storage Chain Publish)

def lastStart : Nat :=
  2 ^ 32 - 21

section Run

variable (config : Config) (storage : Storage)
  (transport : JsString → Except Failure HttpResponse) (client : Client) (contractId : Address)

def responder : Async.Responder Unit Response Failure :=
  fun world request => (world, respond config storage transport request)

def storedVersions : List Bytes :=
  (storage.versions ⟨contractId, config.publisher⟩).getD []

def pageFailure : Failure :=
  .simulation (js "\"list_versions_paged\" failed")

variable {start : Nat} {record : SpecRecord}

theorem respond_page :
    respond config storage transport (.listVersionsPaged contractId start 25) =
      if (storedVersions config storage contractId).length ≤ start then .ok (some ([], none))
      else if 2 ^ 32 ≤ start + 25 then .error pageFailure
      else
        .ok (some (((storedVersions config storage contractId).drop start).take 25,
          if start + 25 < (storedVersions config storage contractId).length then
            some (start + 25) else none)) := by
  rw [respond, RegistryContract.listVersionsPaged, storedVersions]
  generalize (storage.versions ⟨contractId, config.publisher⟩).getD [] = all
  dsimp only
  rw [show min 25 RegistryContract.maxPageSize = 25 from rfl]
  by_cases past : all.length ≤ start
  · rw [if_pos past, if_pos past]
  · rw [if_neg past, if_neg past]
    by_cases traps : 2 ^ 32 ≤ start + 25
    · rw [if_pos traps, if_pos traps]
      rfl
    · rw [if_neg traps, if_neg traps]
      have first : all.take (min (start + 25) all.length) = all.take (start + 25) := by
        rw [← List.take_take, List.take_length]
      have page : (all.take (start + 25)).drop start = (all.drop start).take 25 := by
        rw [List.drop_take, Nat.add_sub_cancel_left]
      by_cases more : start + 25 < all.length
      · rw [first, page, Nat.min_eq_left (by omega), if_pos more]
      · rw [first, page, if_neg (by omega), if_neg more]

theorem keptVersions_append (front back : List Bytes) :
    keptVersions (front ++ back) = keptVersions front ++ keptVersions back := by
  rw [keptVersions, List.map_append, List.filter_append]
  rfl

theorem run_simulateListVersions {fuel : Nat} (aligned : start % 25 = 0)
    (within : start ≤ lastStart) (some : 0 < fuel)
    (enough : min (storedVersions config storage contractId).length (2 ^ 32) < start + 25 * fuel) :
    (simulateListVersions contractId fuel start).run (responder config storage transport) () client =
      { world := ()
        state := client
        result :=
          if (storedVersions config storage contractId).length ≤ lastStart then
            .ok (keptVersions ((storedVersions config storage contractId).drop start))
          else .error pageFailure } := by
  have answer := @respond_page config storage transport contractId
  generalize storedVersions config storage contractId = all at answer enough ⊢
  unfold lastStart at within ⊢
  induction fuel generalizing start with
  | zero => exact absurd some (Nat.lt_irrefl 0)
  | succ fuel induction =>
      rw [simulateListVersions, Async.bind_eq, Async.run_bind, listVersionsPaged, Async.run_call,
        responder, answer]
      by_cases past : all.length ≤ start
      · rw [if_pos past, if_pos (by omega), List.drop_eq_nil_of_le past]
        rfl
      · by_cases traps : 2 ^ 32 ≤ start + 25
        · rw [if_neg past, if_pos traps, if_neg (by omega)]
          rfl
        · rw [if_neg past, if_neg traps]
          by_cases more : start + 25 < all.length
          · have rest : (all.drop start).drop 25 = all.drop (start + 25) := List.drop_drop
            rw [if_pos more]
            have next := @induction (start + 25) (by omega) (by omega) (by omega) (by omega)
            dsimp only
            rw [Async.Outcome.andThen_ok]
            dsimp only
            rw [Async.bind_eq, Async.run_bind, next]
            by_cases small : all.length ≤ 2 ^ 32 - 21
            · rw [if_pos small, if_pos small, Async.Outcome.andThen_ok, Async.pure_eq,
                Async.run_done, ← keptVersions_append, ← rest, List.take_append_drop]
            · rw [if_neg small, if_neg small, Async.Outcome.andThen_error]
          · rw [if_neg more, if_pos (by omega), List.take_of_length_le (by
              rw [List.length_drop]
              omega)]
            rfl


def namedRecord (version : JsString) : Option RegistryContract.SpecRecord :=
  RegistryContract.getVersion storage contractId config.publisher (utf8 version)

theorem run_simulateGetVersions (versions : List JsString) :
    (simulateGetVersions contractId versions).run (responder config storage transport) () client =
      { world := ()
        state := client
        result := .ok (versions.filterMap fun version =>
          (namedRecord config storage contractId version).map .ofNative) } := by
  induction versions with
  | nil => rfl
  | cons version versions induction =>
      rw [simulateGetVersions, Async.bind_eq, Async.run_bind, simulateGetVersion, Async.bind_eq,
        Async.run_bind, getVersion, Async.run_call, responder, respond, Async.Outcome.andThen_ok,
        Async.pure_eq, Async.run_done, Async.Outcome.andThen_ok, Async.bind_eq, Async.run_bind,
        induction, Async.Outcome.andThen_ok, Async.pure_eq, Async.run_done, List.filterMap_cons,
        namedRecord]
      cases RegistryContract.getVersion storage contractId config.publisher (utf8 version) <;> rfl

def liveRecords : Option (List SpecRecord) :=
  (client.recordsCache.get client.now contractId.text).1

theorem run_getRecords :
    ∃ recordsCache,
      (getRecords contractId).run (responder config storage transport) () client =
        { world := ()
          state := { client with recordsCache }
          result :=
            match liveRecords client contractId with
            | some cached => .ok cached
            | none =>
                if (storedVersions config storage contractId).length ≤ lastStart then
                  .ok ((keptVersions (storedVersions config storage contractId)).filterMap
                    fun version => (namedRecord config storage contractId version).map .ofNative)
                else .error pageFailure } := by
  rw [getRecords, Async.bind_eq, Async.run_bind, cachedRecords, Async.bind_eq, Async.run_bind,
    Async.run_get, Async.Outcome.andThen_ok, Async.bind_eq, Async.run_bind, Async.run_modify,
    Async.Outcome.andThen_ok, Async.pure_eq, Async.run_done, Async.Outcome.andThen_ok, liveRecords]
  cases (client.recordsCache.get client.now contractId.text).1 with
  | some cached => exact ⟨_, rfl⟩
  | none =>
      dsimp only
      rw [Async.bind_eq, Async.run_bind, run_simulateListVersions _ _ _ _ _ rfl (Nat.zero_le _)
        (by decide) (by rw [maxPages]; omega), List.drop_zero]
      split
      · rw [Async.Outcome.andThen_ok, Async.bind_eq, Async.run_bind, run_simulateGetVersions,
          Async.Outcome.andThen_ok]
        exact ⟨_, rfl⟩
      · exact ⟨_, rfl⟩

theorem result_getRecords :
    ((getRecords contractId).run (responder config storage transport) () client).result =
      match liveRecords client contractId with
      | some cached => .ok cached
      | none =>
          if (storedVersions config storage contractId).length ≤ lastStart then
            .ok ((keptVersions (storedVersions config storage contractId)).filterMap fun version =>
              (namedRecord config storage contractId version).map .ofNative)
          else .error pageFailure := by
  rcases run_getRecords config storage transport client contractId with ⟨recordsCache, run⟩
  rw [run]

def liveSpec (record : SpecRecord) : Option JsValue :=
  (client.specCache.get client.now (cacheKey contractId record)).1

def servedText (record : SpecRecord) : Except Failure JsString :=
  match config.offlineBlobs record.specHash with
  | some text => .ok text
  | none =>
      match transport record.pointer with
      | .error failure => .error failure
      | .ok response =>
          if response.ok then .ok response.text
          else .error (.fetch record.pointer response.status)

theorem run_blobText (record : SpecRecord) :
    (blobText config record).run (responder config storage transport) () client =
      { world := (), state := client, result := servedText config transport record } := by
  rw [blobText, servedText]
  cases config.offlineBlobs record.specHash with
  | some text => rfl
  | none =>
      dsimp only
      rw [Async.bind_eq, Async.run_bind, OnChainAbiRegistryClient.transport, Async.run_call,
        responder, respond]
      cases transport record.pointer with
      | error failure => rfl
      | ok response =>
          dsimp only
          rw [Async.Outcome.andThen_ok]
          split <;> rfl

theorem result_resolveRecord (unread : liveSpec client contractId record = none) :
    ((resolveRecord config contractId record).run (responder config storage transport) ()
        client).result =
      ((servedText config transport record).bind fun text =>
        verifyBlob config contractId record text).map some := by
  rw [liveSpec] at unread
  rw [resolveRecord, Async.bind_eq, Async.run_bind, cachedSpec, Async.bind_eq, Async.run_bind,
    Async.run_get, Async.Outcome.andThen_ok, Async.bind_eq, Async.run_bind, Async.run_modify,
    Async.Outcome.andThen_ok, Async.pure_eq, Async.run_done, Async.Outcome.andThen_ok, unread]
  dsimp only
  rw [Async.bind_eq, Async.run_bind, run_blobText]
  cases servedText config transport record with
  | error failure => rfl
  | ok text =>
      rw [Async.Outcome.andThen_ok, Except.bind]
      cases verifyBlob config contractId record text <;> rfl

theorem result_getSpec (unread : liveSpec client contractId record = none)
    (read : ((getRecords contractId).run (responder config storage transport) () client).result =
      .ok records) (latest : records.getLast? = some record) :
    ((getSpec config contractId).run (responder config storage transport) () client).result =
      ((servedText config transport record).bind fun text =>
        verifyBlob config contractId record text).map some := by
  rcases run_getRecords config storage transport client contractId with ⟨recordsCache, run⟩
  rw [run] at read
  dsimp only at read
  rw [read] at run
  rw [getSpec, Async.bind_eq, Async.run_bind, run, Async.Outcome.andThen_ok, latest]
  exact result_resolveRecord config storage transport { client with recordsCache } contractId
    unread

theorem result_getSpec_error {failure : Failure}
    (read : ((getRecords contractId).run (responder config storage transport) () client).result =
      .error failure) :
    ((getSpec config contractId).run (responder config storage transport) () client).result =
      .error failure := by
  rcases run_getRecords config storage transport client contractId with ⟨recordsCache, run⟩
  rw [run] at read
  dsimp only at read
  rw [read] at run
  rw [getSpec, Async.bind_eq, Async.run_bind, run, Async.Outcome.andThen_error]

end Run

/-! ## Reachable registries -/

def Legible (published : List RegistryContract.SpecRecord)
    (record : RegistryContract.SpecRecord) : Prop :=
  truncationMarker.isPrefixOf (nativeText record.version) = false ∧
    ∃ named ∈ published, named.version = utf8 (nativeText record.version) ∧
      SpecRecord.ofNative named = .ofNative record

section Published

variable {config : Config} {chain : Chain} {contractId : Address}

def listed (config : Config) (storage : Storage) (contractId : Address)
    (record : RegistryContract.SpecRecord) : Option SpecRecord :=
  if truncationMarker.isPrefixOf (nativeText record.version) then none
  else (namedRecord config storage contractId (nativeText record.version)).map .ofNative

theorem records_of_published (shows : chain.Shows contractId config.publisher) :
    ((keptVersions (storedVersions config chain.storage contractId)).filterMap fun version =>
        (namedRecord config chain.storage contractId version).map .ofNative) =
      (chain.published contractId config.publisher).filterMap
        (listed config chain.storage contractId) := by
  rw [storedVersions, shows.versions, keptVersions, List.filterMap_filter, List.map_map,
    List.filterMap_map]
  apply List.filterMap_congr
  intro record _
  rw [Function.comp_apply, Function.comp_apply, listed]
  cases truncationMarker.isPrefixOf (nativeText record.version) <;> rfl

variable {record : RegistryContract.SpecRecord}

theorem namedRecord_eq_some_iff (shows : chain.Shows contractId config.publisher)
    {version : JsString} :
    namedRecord config chain.storage contractId version = some record ↔
      record ∈ chain.published contractId config.publisher ∧ record.version = utf8 version :=
  shows.specs (utf8 version) record

theorem listed_eq_some_iff (shows : chain.Shows contractId config.publisher) :
    listed config chain.storage contractId record = some (.ofNative record) ↔
      Legible (chain.published contractId config.publisher) record := by
  rw [listed, Legible]
  cases truncationMarker.isPrefixOf (nativeText record.version) with
  | true => simp
  | false =>
      rw [if_neg Bool.false_ne_true, Option.map_eq_some_iff]
      simp only [namedRecord_eq_some_iff shows, true_and, and_assoc]

/-- A version that the decoder reads back and that does not start with the marker. -/
theorem legible_of_readable {published : List RegistryContract.SpecRecord}
    (member : record ∈ published)
    (unmarked : truncationMarker.isPrefixOf (nativeText record.version) = false)
    (readable : utf8 (nativeText record.version) = record.version) : Legible published record :=
  ⟨unmarked, record, member, readable.symm, rfl⟩

theorem getLast?_records (shows : chain.Shows contractId config.publisher)
    (latest : (chain.published contractId config.publisher).getLast? = some record)
    (legible : Legible (chain.published contractId config.publisher) record) :
    ((keptVersions (storedVersions config chain.storage contractId)).filterMap fun version =>
        (namedRecord config chain.storage contractId version).map SpecRecord.ofNative).getLast? =
      some (.ofNative record) := by
  rw [records_of_published shows]
  rcases List.getLast?_eq_some_iff.mp latest with ⟨front, whole⟩
  rw [whole, List.filterMap_append, List.filterMap_cons,
    (listed_eq_some_iff shows).mpr legible, List.filterMap_nil, List.getLast?_concat]

end Published

/-- In every registry that can be reached the client reads all published records exactly
if they are legible and not more than the contract can page through; while a list is
cached, exactly if that list is up to date. -/
theorem getRecords_eq_published_iff (config : Config) (calls : List Publish)
    (transport : JsString → Except Failure HttpResponse) (client : Client)
    (contractId : Address) :
    ((getRecords contractId).run (responder config (Chain.after calls).storage transport) ()
        client).result =
        .ok (((Chain.after calls).published contractId config.publisher).map .ofNative) ↔
      match liveRecords client contractId with
      | some cached =>
          cached = ((Chain.after calls).published contractId config.publisher).map .ofNative
      | none =>
          ((Chain.after calls).published contractId config.publisher).length ≤ lastStart ∧
            ∀ record ∈ (Chain.after calls).published contractId config.publisher,
              Legible ((Chain.after calls).published contractId config.publisher) record := by
  have shows := RegistryContract.Chain.shows_after calls contractId config.publisher
  have count : (storedVersions config (Chain.after calls).storage contractId).length =
      ((Chain.after calls).published contractId config.publisher).length := by
    rw [storedVersions, shows.versions, List.length_map]
  rw [result_getRecords, records_of_published shows, count]
  cases liveRecords client contractId with
  | some cached =>
      dsimp only
      rw [Except.ok.injEq]
  | none =>
      dsimp only
      by_cases small :
          ((Chain.after calls).published contractId config.publisher).length ≤ lastStart
      · rw [if_pos small, Except.ok.injEq, List.filterMap_eq_map_iff_forall_eq_some]
        simp only [listed_eq_some_iff shows, small, true_and]
      · rw [if_neg small]
        constructor
        · intro same
          cases same
        · intro legible
          exact absurd legible.1 small

def samplePublish (version : JsString) : Publish where
  publisher := samplePublisher
  contractId := sampleContract
  version := utf8 version
  specHash := List.replicate 32 0
  pointer := utf8 (js "https://specs.example/1")
  timestamp := 1700000000
  sequence := 1000

/-- The contract takes a version that starts with the marker; the client drops it. -/
theorem getRecords_drops_marked_version :
    ¬ ∀ (config : Config) (calls : List Publish)
        (transport : JsString → Except Failure HttpResponse) (client : Client)
        (contractId : Address), liveRecords client contractId = none →
      ((getRecords contractId).run (responder config (Chain.after calls).storage transport) ()
          client).result =
          .ok (((Chain.after calls).published contractId config.publisher).map .ofNative) := by
  intro agree
  have result := agree
    { publisher := samplePublisher, offlineBlobs := fun _ => none, sha256 := id }
    [samplePublish (js "__truncated_1.0.0")] (fun _ => .error (.transport (js "fetch failed")))
    { now := 0, recordsCache := .new 300000 512, specCache := .new 300000 512 } sampleContract
    (by decide)
  have listed : (Except.ok [] : Except Failure (List SpecRecord)) = _ := result
  have some : ((Chain.after [samplePublish (js "__truncated_1.0.0")]).published sampleContract
      samplePublisher).length = 1 := by decide
  have length := congrArg List.length (Except.ok.inj listed)
  rw [List.length_map, some] at length
  cases length

end Orbital.AbiRegistry.OnChainAbiRegistryClient
