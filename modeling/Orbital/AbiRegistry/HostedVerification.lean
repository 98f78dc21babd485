import Orbital.AbiRegistry.HostedAbiRegistryClient
import Orbital.AbiRegistry.PublishedVersions
import Orbital.AbiRegistry.SpecIntegrity
import Orbital.AbiRegistry.ValidSpec

/-! # What a sampled answer is checked for

A sampled answer is returned when its entries have the hash that the entries of the latest
spec on the contract have, whatever else the two specs declare.
-/

namespace Orbital.AbiRegistry.HostedAbiRegistryClient

open Foundation
open JsValue (SameData)

/-! ## The content of a spec -/

def entryTexts? (spec : JsValue) : Option (List JsString) :=
  match entries spec with
  | some (.array items) => items.mapM text?
  | _ => none

def EntriesAgree (first second : JsValue) : Prop :=
  match entryTexts? first, entryTexts? second with
  | some texts, some texts' => texts.Perm texts'
  | _, _ => property (js "entries") first = property (js "entries") second

def declared (spec : JsValue) (key : JsString) : JsValue :=
  match spec with
  | .object members => get members key
  | _ => .leaf .undefined

def contentKeys : List JsString :=
  [js "functions", js "events", js "types", js "xdrEntries"]

def SameContent (first second : JsValue) : Prop :=
  EntriesAgree first second ∧
    ∀ key ∈ contentKeys, SameData (declared first key) (declared second key)

theorem text_of_text? {value : JsValue} {text : JsString} (isText : text? value = some text) :
    value = jsText text := by
  cases value with
  | leaf primitive => cases primitive <;> cases isText; rfl
  | array items | object members => cases isText

variable {texts : List JsString} {first second : JsValue}

theorem texts_of_mapM {items : List JsValue} (each : items.mapM text? = some texts) :
    items = texts.map jsText := by
  induction items generalizing texts with
  | nil =>
      cases each
      rfl
  | cons item rest induction =>
      rw [List.mapM_cons] at each
      cases isText : text? item with
      | none =>
          rw [isText] at each
          cases each
      | some text =>
          cases others : rest.mapM text? with
          | none =>
              rw [isText, others] at each
              cases each
          | some texts' =>
              rw [isText, others] at each
              cases each
              rw [List.map_cons, ← induction others, text_of_text? isText]

theorem sortByText_texts (texts : List JsString) :
    sortByText (texts.map jsText) = some ((JsString.sort texts).map jsText) := by
  rw [sortByText]
  split
  · rename_i short
    rcases texts with _ | ⟨text, _ | ⟨other, rest⟩⟩
    · rfl
    · rfl
    · rw [List.length_map, List.length_cons, List.length_cons] at short
      omega
  · have all : ((texts.map jsText).all fun item => (toText item).isSome) = true := by
      rw [List.all_map, List.all_eq_true]
      intro text _
      rfl
    have sorted := @List.map_insertionSort _ _ JsString.Le
      (fun first second => JsString.Le ((toText first).getD []) ((toText second).getD [])) _ _
      jsText texts (fun _ _ _ _ => Iff.rfl)
    rw [if_pos all, JsString.sort, sorted]

theorem entriesText_of_texts {spec : JsValue} (isTexts : entryTexts? spec = some texts) :
    entriesText spec = JsValue.stringify (.array ((JsString.sort texts).map jsText)) := by
  rw [entryTexts?] at isTexts
  split at isTexts
  · rename_i items found
    rw [entriesText, found, texts_of_mapM isTexts]
    show (sortByText (texts.map jsText)).bind _ = _
    rw [sortByText_texts]
    rfl
  · cases isTexts

theorem entries_congr (same : property (js "entries") first = property (js "entries") second) :
    entries first = entries second := by
  rw [entries, entries, same]

theorem entriesText_congr (agree : EntriesAgree first second) :
    entriesText first = entriesText second := by
  rw [EntriesAgree] at agree
  split at agree
  · rename_i texts texts' isFirst isSecond
    rw [entriesText_of_texts isFirst, entriesText_of_texts isSecond, JsString.sort_congr agree]
  · rw [entriesText, entriesText, entries_congr agree]

/-! ## Lookups -/

structure Reader where
  getSpec : JsString → Except OnChainAbiRegistryClient.Failure (Option JsValue)
  getSpecAt : JsString → Nat → Except OnChainAbiRegistryClient.Failure (Option JsValue)

structure Surroundings where
  fetch : JsString → Except Failure OnChainAbiRegistryClient.HttpResponse
  drawn : Bool
  reader : Reader

def Surroundings.answer (surroundings : Surroundings) :
    (request : Request) → Except Failure (Response request)
  | .fetch url => surroundings.fetch url
  | .random => .ok surroundings.drawn
  | .chainSpec contractId =>
      match surroundings.reader.getSpec contractId with
      | .error failure => .error (.onChain failure)
      | .ok spec => .ok (spec.getD null)

def Surroundings.responder (surroundings : Surroundings) : Async.Responder Unit Response Failure :=
  fun world request => (world, surroundings.answer request)

def result (config : Config) (surroundings : Surroundings) (client : Client)
    (contractId : JsString) (lookup : Lookup) : Except Failure JsValue :=
  ((lookUp config contractId lookup).run surroundings.responder () client).result

structure Sampled (config : Config) (surroundings : Surroundings) (client : Client)
    (contractId : JsString) (lookup : Lookup) (hosted : JsValue) : Prop where
  unread : (client.cache.get client.now (lookup.cacheKey contractId)).1 = none
  answered : ∃ target response, url config contractId lookup = some target ∧
    surroundings.fetch target = .ok response ∧ response.status ≠ 404 ∧
      ¬ (500 ≤ response.status ∧ response.status < 600) ∧ response.ok = true ∧
        JsValue.parse response.text = some hosted
  hasOnChainClient : config.hasOnChainClient = true
  positive : notPositive config.sampleRate = false
  drawn : surroundings.drawn = true

def Resolves (reader : Reader) (contractId : JsString) (spec : JsValue) : Lookup → Prop
  | .getSpec => reader.getSpec contractId = .ok (some spec) ∧ isNullish spec = false
  | .getSpecAt ledger =>
      reader.getSpecAt contractId ledger = .ok (some spec) ∧ isNullish spec = false

def HashesAgree (config : Config) (first second : JsValue) : Prop :=
  ∃ hash, specHash config first = some hash ∧ specHash config second = some hash

def Passes (config : Config) (reader : Reader) (contractId : JsString) (hosted : JsValue) : Prop :=
  ∀ latest, reader.getSpec contractId = .ok (some latest) → isNullish latest = false →
    HashesAgree config hosted latest

def checked (config : Config) (reader : Reader) (contractId : JsString) (hosted : JsValue) :
    Except Failure Bool :=
  match reader.getSpec contractId with
  | .error _ => .ok true
  | .ok latest =>
      if isNullish (latest.getD null) then .ok true
      else
        match specHash config hosted, specHash config (latest.getD null) with
        | some hostedHash, some chainHash => .ok (hostedHash = chainHash)
        | _, _ => .error .notListed

section Run

variable {config : Config} {surroundings : Surroundings} {client : Client}
  {contractId : JsString} {hosted : JsValue} {lookup : Lookup}

theorem run_fetch (url : JsString) (client : Client) :
    (fetch url).run surroundings.responder () client =
      { world := (), state := client, result := surroundings.fetch url } := by
  rw [fetch, Async.run_call]
  rfl

theorem run_random (client : Client) :
    random.run surroundings.responder () client =
      { world := (), state := client, result := .ok surroundings.drawn } :=
  rfl

theorem run_verifySampledHash (client : Client) :
    (verifySampledHash config contractId hosted).run surroundings.responder () client =
      { world := ()
        state := client
        result := checked config surroundings.reader contractId hosted } := by
  rw [verifySampledHash, Async.bind_eq, Async.run_bind, Async.run_attempt,
    HostedAbiRegistryClient.chainSpec, Async.run_call, Surroundings.responder,
    Surroundings.answer, checked]
  cases surroundings.reader.getSpec contractId with
  | error failure => rfl
  | ok latest =>
      dsimp only
      rw [Async.Outcome.andThen_ok]
      dsimp only
      split
      · rfl
      · cases specHash config hosted <;> cases specHash config (latest.getD null) <;> rfl

theorem run_fetchSpec {target : JsString} (client : Client)
    {response : OnChainAbiRegistryClient.HttpResponse}
    (fetched : surroundings.fetch target = .ok response) (found : response.status ≠ 404)
    (healthy : ¬ (500 ≤ response.status ∧ response.status < 600)) (ok : response.ok = true)
    (parsed : JsValue.parse response.text = some hosted)
    (hasOnChainClient : config.hasOnChainClient = true)
    (positive : notPositive config.sampleRate = false) (drawn : surroundings.drawn = true) :
    (fetchSpec config contractId target).run surroundings.responder () client =
      { world := ()
        state := client
        result := (checked config surroundings.reader contractId hosted).map fun verified =>
          if verified then hosted else null } := by
  have sampling : shouldSample config = random := by
    rw [shouldSample, positive, hasOnChainClient]
    rfl
  rw [fetchSpec, Async.bind_eq, Async.run_bind, Async.run_attempt, run_fetch, fetched]
  dsimp only
  rw [Async.Outcome.andThen_ok]
  dsimp only
  rw [if_neg found, if_neg healthy, ok, Bool.not_true, if_neg Bool.false_ne_true, parsed]
  dsimp only
  rw [Async.bind_eq, Async.run_bind, sampling, run_random, drawn, Async.Outcome.andThen_ok,
    if_pos rfl, Async.bind_eq, Async.run_bind, run_verifySampledHash]
  cases checked config surroundings.reader contractId hosted with
  | error failure => rfl
  | ok verified => cases verified <;> rfl

theorem result_of_sampled
    (sampled : Sampled config surroundings client contractId lookup hosted) :
    result config surroundings client contractId lookup =
      (checked config surroundings.reader contractId hosted).map fun verified =>
        if verified then hosted else null := by
  rcases sampled with ⟨unread, ⟨target, response, isUrl, fetched, found, healthy, ok, parsed⟩,
    hasOnChainClient, positive, drawn⟩
  rw [result, lookUp, Async.bind_eq, Async.run_bind, cached, Async.bind_eq, Async.run_bind,
    Async.run_get, Async.Outcome.andThen_ok, Async.bind_eq, Async.run_bind, Async.run_modify,
    Async.Outcome.andThen_ok, Async.pure_eq, Async.run_done, Async.Outcome.andThen_ok, unread,
    isUrl]
  dsimp only
  rw [Async.bind_eq, Async.run_bind, run_fetchSpec _ fetched found healthy ok parsed
    hasOnChainClient positive drawn]
  cases checked config surroundings.reader contractId hosted with
  | error failure => rfl
  | ok verified =>
      rw [Except.map, Async.Outcome.andThen_ok]
      cases isNull (if verified = true then hosted else null) <;> rfl

theorem returned_iff_passes
    (sampled : Sampled config surroundings client contractId lookup hosted) :
    result config surroundings client contractId lookup = .ok hosted ↔
      Passes config surroundings.reader contractId hosted := by
  rw [result_of_sampled sampled, checked, Passes]
  cases surroundings.reader.getSpec contractId with
  | error failure =>
      refine ⟨fun _ latest found => ?_, fun _ => rfl⟩
      cases found
  | ok latest =>
      cases latest with
      | none =>
          refine ⟨fun _ latest found => ?_, fun _ => rfl⟩
          cases found
      | some latest =>
          dsimp only [Option.getD_some]
          by_cases nullish : isNullish latest = true
          · rw [if_pos nullish]
            refine ⟨fun _ other found defined => ?_, fun _ => rfl⟩
            cases found
            rw [nullish] at defined
            cases defined
          · rw [if_neg nullish]
            constructor
            · intro returned other found _
              cases found
              cases atHosted : specHash config hosted with
              | none =>
                  rw [atHosted] at returned
                  cases returned
              | some hostedHash =>
                  cases atLatest : specHash config latest with
                  | none =>
                      rw [atHosted, atLatest] at returned
                      cases returned
                  | some chainHash =>
                      rw [atHosted, atLatest] at returned
                      by_cases same : hostedHash = chainHash
                      · exact ⟨hostedHash, atHosted, same ▸ atLatest⟩
                      · -- Only `null` could be taken for what falls through, and it has no hash.
                        dsimp only at returned
                        rw [decide_eq_false same, Except.map, if_neg Bool.false_ne_true,
                          Except.ok.injEq] at returned
                        rw [← returned] at atHosted
                        cases atHosted
            · intro passes
              rcases passes latest rfl (Bool.eq_false_iff.mpr nullish) with
                ⟨hash, atHosted, atLatest⟩
              rw [atHosted, atLatest]
              dsimp only
              rw [decide_eq_true rfl]
              rfl

end Run

/-- A sampled answer is returned exactly for the specs with the content of the one on the
contract, if and only if, for the latest spec, an equal hash of the entries means the same
content and the same content comes with entries that can be listed, and, for the spec as of
a ledger, the check against the latest one says whether the content is that of the spec as
of the ledger. -/
theorem sampled_is_returned_iff (config : Config) (surroundings : Surroundings) (client : Client)
    (contractId : JsString) (lookup : Lookup) (hosted attested : JsValue)
    (sampled : Sampled config surroundings client contractId lookup hosted)
    (resolves : Resolves surroundings.reader contractId attested lookup) :
    (result config surroundings client contractId lookup = .ok hosted ↔
        SameContent hosted attested) ↔
      match lookup with
      | .getSpec =>
          (HashesAgree config hosted attested → SameContent hosted attested) ∧
            (SameContent hosted attested → (entriesText hosted).isSome)
      | .getSpecAt _ =>
          Passes config surroundings.reader contractId hosted ↔ SameContent hosted attested := by
  rw [returned_iff_passes sampled]
  cases lookup with
  | getSpecAt ledger => exact Iff.rfl
  | getSpec =>
      have passes : Passes config surroundings.reader contractId hosted ↔
          HashesAgree config hosted attested := by
        rw [Passes, resolves.1]
        constructor
        · exact fun agree => agree attested rfl resolves.2
        · intro agree latest found _
          cases found
          exact agree
      rw [passes]
      dsimp only
      constructor
      · intro exact'
        refine ⟨exact'.mp, fun same => ?_⟩
        rcases exact'.mpr same with ⟨hash, atHosted, -⟩
        rw [specHash, Option.map_eq_some_iff] at atHosted
        rcases atHosted with ⟨text, isText, -⟩
        rw [isText]
        rfl
      · rintro ⟨sound, listed⟩
        refine ⟨sound, fun same => ?_⟩
        rcases Option.isSome_iff_exists.mp (listed same) with ⟨text, atHosted⟩
        have atAttested := entriesText_congr same.1
        rw [atHosted] at atAttested
        refine ⟨toHex (config.sha256 (utf8 text)), ?_, ?_⟩
        · rw [specHash, atHosted]
          rfl
        · rw [specHash, ← atAttested]
          rfl

/-! ### A sample -/

def onChainReader (config : OnChainAbiRegistryClient.Config) (storage : RegistryContract.Storage)
    (transport : JsString →
      Except OnChainAbiRegistryClient.Failure OnChainAbiRegistryClient.HttpResponse)
    (client : OnChainAbiRegistryClient.Client) : Reader where
  getSpec contractId :=
    match OnChainRegistryPublisher.address? contractId with
    | none => .error (.simulation (js "Unsupported address type: " ++ contractId))
    | some address =>
        ((OnChainAbiRegistryClient.getSpec config address).run
          (OnChainAbiRegistryClient.responder config storage transport) () client).result
  getSpecAt contractId ledger :=
    match OnChainRegistryPublisher.address? contractId with
    | none => .error (.simulation (js "Unsupported address type: " ++ contractId))
    | some address =>
        ((OnChainAbiRegistryClient.getSpecAt config address ledger).run
          (OnChainAbiRegistryClient.responder config storage transport) () client).result

def sampleStorage : RegistryContract.Storage :=
  (RegistryContract.Chain.after [{
    publisher := OnChainAbiRegistryClient.samplePublisher
    contractId := OnChainAbiRegistryClient.sampleContract
    version := utf8 (js "1.0.0")
    specHash := OnChainAbiRegistryClient.sampleDigest
    pointer := utf8 (js "https://specs.example/t.json")
    timestamp := 1700000000
    sequence := 1000 }]).storage

def sampleReader : Reader :=
  onChainReader OnChainAbiRegistryClient.sampleConfig sampleStorage
    (fun _ =>
      .ok { ok := true, status := 200, text := OnChainAbiRegistryClient.sampleCanonical })
    { now := 0, recordsCache := .new 300000 512, specCache := .new 300000 512 }

def one : Magnitude where
  significand := 2 ^ 52
  exponent := 1022
  significand_lt := by decide
  exponent_le := by decide
  normal := .inr (Nat.le_refl _)

def sampleConfig : Config where
  baseUrl := js "https://abi.example"
  sampleRate := .finite false one
  hasOnChainClient := true
  sha256 := OnChainAbiRegistryClient.sampleSha256

def sampleHosted : JsString :=
  js "\x7b\"version\":\"1.0.0\",\"name\":\"t\",\"functions\":[" ++
    js "\x7b\"name\":\"drain\",\"params\":[],\"returns\":\"void\"\x7d" ++
      js "],\"events\":[],\"types\":\x7b\x7d\x7d"

def sampleSurroundings : Surroundings where
  fetch := fun _ => .ok { ok := true, status := 200, text := sampleHosted }
  drawn := true
  reader := sampleReader

def sampleClient : Client where
  now := 0
  cache := .new 300000 512

def functionCount (spec : JsValue) : Option Nat :=
  (array? (declared spec (js "functions"))).map List.length

def declares (count : Nat) (spec : JsValue) : Bool :=
  !isNullish spec && functionCount spec == some count && entriesText spec == some (js "[]")

theorem functionCount_congr (same : SameContent first second) :
    functionCount first = functionCount second := by
  have functions := same.2 (js "functions") List.mem_cons_self
  rw [functionCount, functionCount]
  cases atFirst : array? (declared first (js "functions")) with
  | some items =>
      rcases array?_congr functions atFirst with ⟨items', atSecond, length, -⟩
      rw [atSecond, Option.map_some, Option.map_some, length]
  | none =>
      cases atSecond : array? (declared second (js "functions")) with
      | none => rfl
      | some items' =>
          rcases array?_congr functions.symm atSecond with ⟨items, atFirst', -, -⟩
          rw [atFirst] at atFirst'
          cases atFirst'

theorem sample_attested : ∃ attested, Resolves sampleReader
    OnChainAbiRegistryClient.sampleContract.text attested .getSpec ∧
      declares 0 attested = true := by
  have found : ((sampleReader.getSpec OnChainAbiRegistryClient.sampleContract.text).toOption.join.any
      (declares 0)) = true := by
    decide +kernel
  rcases Option.any_eq_true _ _ |>.mp found with ⟨spec, joined, declared⟩
  have resolved : sampleReader.getSpec OnChainAbiRegistryClient.sampleContract.text =
      .ok (some spec) := by
    cases answer : sampleReader.getSpec OnChainAbiRegistryClient.sampleContract.text with
    | error failure =>
        rw [answer] at joined
        cases joined
    | ok returned =>
        rw [answer] at joined
        exact congrArg _ joined
  have defined : isNullish spec = false := by
    rw [declares, Bool.and_eq_true, Bool.and_eq_true] at declared
    exact Bool.not_eq_true' _ ▸ declared.1.1
  exact ⟨spec, ⟨resolved, defined⟩, declared⟩

theorem sample_hosted : ∃ hosted, Sampled sampleConfig sampleSurroundings sampleClient
    OnChainAbiRegistryClient.sampleContract.text .getSpec hosted ∧ declares 1 hosted = true := by
  have found : (JsValue.parse sampleHosted).any (declares 1) = true := by
    decide +kernel
  rcases Option.any_eq_true _ _ |>.mp found with ⟨spec, parsed, declared⟩
  refine ⟨spec, ⟨by decide, ?_, rfl, by decide, rfl⟩, declared⟩
  exact ⟨_, _, rfl, rfl, by decide, by decide, rfl, parsed⟩

theorem sample_is_returned_iff : ∃ hosted attested,
    Sampled sampleConfig sampleSurroundings sampleClient
        OnChainAbiRegistryClient.sampleContract.text .getSpec hosted ∧
      Resolves sampleReader OnChainAbiRegistryClient.sampleContract.text attested .getSpec ∧
        ((result sampleConfig sampleSurroundings sampleClient
            OnChainAbiRegistryClient.sampleContract.text .getSpec = .ok hosted ↔
            SameContent hosted attested) ↔
          (HashesAgree sampleConfig hosted attested → SameContent hosted attested) ∧
            (SameContent hosted attested → (entriesText hosted).isSome)) := by
  rcases sample_attested with ⟨attested, resolves, -⟩
  rcases sample_hosted with ⟨hosted, sampled, -⟩
  exact ⟨hosted, attested, sampled, resolves, sampled_is_returned_iff sampleConfig
    sampleSurroundings sampleClient _ .getSpec hosted attested sampled resolves⟩

/-- A spec with other functions is returned: neither it nor the one on the contract has a
member `entries`. -/
theorem other_spec_is_returned :
    ¬ ∀ (config : Config) (surroundings : Surroundings) (client : Client)
        (contractId : JsString) (lookup : Lookup) (hosted attested : JsValue),
      Sampled config surroundings client contractId lookup hosted →
        Resolves surroundings.reader contractId attested lookup →
          (result config surroundings client contractId lookup = .ok hosted ↔
            SameContent hosted attested) := by
  intro meaningful
  rcases sample_attested with ⟨attested, resolves, isAttested⟩
  rcases sample_hosted with ⟨hosted, sampled, isHosted⟩
  simp only [declares, Bool.and_eq_true, beq_iff_eq] at isAttested isHosted
  have passes : Passes sampleConfig sampleReader
      OnChainAbiRegistryClient.sampleContract.text hosted := by
    intro latest found _
    rw [resolves.1] at found
    cases found
    refine ⟨toHex (sampleConfig.sha256 (utf8 (js "[]"))), ?_, ?_⟩
    · rw [specHash, isHosted.2]
      rfl
    · rw [specHash, isAttested.2]
      rfl
  have same := (meaningful _ _ _ _ _ _ _ sampled resolves).mp
    ((returned_iff_passes sampled).mpr passes)
  have counts := functionCount_congr same
  rw [isHosted.1.2, isAttested.1.2] at counts
  cases counts

end Orbital.AbiRegistry.HostedAbiRegistryClient
