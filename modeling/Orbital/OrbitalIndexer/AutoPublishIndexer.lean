import Orbital.AbiRegistry.Discovery
import Orbital.AbiRegistry.PublishedVersions
import Orbital.AbiRegistry.SpecIntegrity
import Orbital.AbiRegistry.ValidSpec

/-! # `AutoPublishIndexer.ts`

A discovered spec is written to a blob in its canonical form, before its pointer is known.
The record that is published holds the hash of the spec with the pointer.
-/

namespace Orbital.OrbitalIndexer

open Foundation AbiRegistry
open JsValue (SameData member?)
open OnChainAbiRegistryClient (Client Config Failure HttpResponse SpecRecord getSpec lastStart
  liveRecords liveSpec nativeText responder servedText verifyBlob)
open OnChainRegistryPublisher (canonicalText)
open RegistryContract (Chain Publish)

/-- `{ ...spec, pointer }` -/
def specWithPointer (spec : JsValue) (pointer : JsString) : JsValue :=
  match spec with
  | .object members => .object (Property.assign (js "pointer") (jsText pointer) members)
  | other => other

namespace AutoPublishIndexer

/-- The text that the pointer strategy is given to serve. -/
def canonicalJson (spec : JsValue) : JsString :=
  canonicalText spec

def publish (config : OnChainRegistryPublisher.Config) (spec : JsValue) (pointer : JsString)
    (timestamp sequence : Nat) : Except OnChainRegistryPublisher.Failure Publish :=
  OnChainRegistryPublisher.publish config (specWithPointer spec pointer) timestamp sequence

end AutoPublishIndexer

/-! ## The spec with its pointer -/

theorem plain_specWithPointer {spec : JsValue} (plain : Plain spec) (pointer : JsString) :
    Plain (specWithPointer spec pointer) := by
  cases plain with
  | leaf literal => exact .leaf literal
  | array parts => exact .array parts
  | @object members nodup noProto parts =>
      have named : js "pointer" ≠ protoKey := by decide
      have set : setMember members (js "pointer", jsText pointer) =
          Property.assign (js "pointer") (jsText pointer) members := if_neg named
      rw [specWithPointer, ← set]
      exact plain_setMember (.object nodup noProto parts) (plain_jsText pointer)

theorem canonicalText_ne {spec : JsValue} (plain : Plain spec) {members : List (JsString × JsValue)}
    (isObject : spec = .object members) (absent : js "pointer" ∉ members.map Prod.fst)
    (pointer : JsString) :
    canonicalText spec ≠ canonicalText (specWithPointer spec pointer) := by
  subst isObject
  intro same
  have leaves := hasLiteral_of_isLiteral plain.leaves
  have plain' := plain_specWithPointer plain pointer
  have leaves' := hasLiteral_of_isLiteral plain'.leaves
  rw [canonicalText, canonicalText, canonicalizeSpec_eq leaves, canonicalizeSpec_eq leaves',
    Option.getD_some, Option.getD_some] at same
  have trees := JsonSyntax.print_injective same
  have equal : SameData (.object members) (specWithPointer (.object members) pointer) := by
    have read := sameData_reread plain
    rw [reread, trees] at read
    exact read.symm.trans (sameData_reread plain')
  rw [specWithPointer] at equal plain'
  cases plain' with
  | object nodup noProto parts =>
      cases equal with
      | object keys values =>
          have written := JsValue.member?_eq_some
            ((Property.lookup_eq_some_iff nodup).mpr (Property.mem_assign.mpr (.inl ⟨rfl, rfl⟩)))
            (by intro undefined; cases undefined)
          have present := keys (js "pointer")
          rw [written, Option.isSome_some] at present
          exact absent (JsValue.key_of_member? present)

/-! ## Resolving the record -/

def publisherOf (config : Config) : OnChainRegistryPublisher.Config where
  publisherAddress := config.publisher
  sha256 := config.sha256

/-- A discovered spec whose record is the latest one, and whose pointer serves the text
that the pointer strategy was given. -/
structure PublishedSpec (config : Config) where
  toXdr : ScSpecEntry → JsString
  contractId : Address
  network : Option JsString
  entries : List ScSpecEntry
  valid : validateSpec (discoverContractSpec toXdr contractId network entries) = []
  pointer : JsString
  timestamp : Nat
  sequence : Nat
  call : Publish
  planned : AutoPublishIndexer.publish (publisherOf config)
    (discoverContractSpec toXdr contractId network entries) pointer timestamp sequence = .ok call
  calls : List Publish
  latest : ((Chain.after calls).published contractId config.publisher).getLast? =
    some call.record
  transport : JsString → Except Failure HttpResponse
  response : HttpResponse
  served : transport (nativeText call.pointer) = .ok response
  ok : response.ok = true
  exactly : response.text = AutoPublishIndexer.canonicalJson
    (discoverContractSpec toXdr contractId network entries)

namespace PublishedSpec

variable {config : Config} (run : PublishedSpec config)

def discovered : JsValue :=
  discoverContractSpec run.toXdr run.contractId run.network run.entries

def record : SpecRecord :=
  .ofNative run.call.record

def published : List RegistryContract.SpecRecord :=
  (Chain.after run.calls).published run.contractId config.publisher

def resolved (client : Client) : Except Failure (Option JsValue) :=
  ((getSpec config run.contractId).run
    (responder config (Chain.after run.calls).storage run.transport) () client).result

theorem plain : Plain run.discovered :=
  plain_discoverContractSpec _ _ _ _

theorem call_eq : run.call.version = utf8 (js "0.0.0") ∧
    run.call.specHash = config.sha256 (utf8 (canonicalText
      (specWithPointer run.discovered run.pointer))) := by
  rcases OnChainRegistryPublisher.call_of_publish run.planned with ⟨version, hash⟩
  refine ⟨version.trans (congrArg utf8 ?_), hash⟩
  have nodup := run.plain
  rw [discovered, discoverContractSpec] at nodup
  cases nodup with
  | object nodup noProto parts =>
      have other : js "version" ≠ js "pointer" := by decide
      rw [AbiRegistry.get, Property.lookup_assign _ _ _ nodup, if_neg other]
      rfl

theorem legible : OnChainAbiRegistryClient.Legible run.published run.call.record := by
  have version : run.call.record.version = utf8 (js "0.0.0") := run.call_eq.1
  apply OnChainAbiRegistryClient.legible_of_readable (List.mem_of_getLast? run.latest)
  · rw [version]
    decide
  · rw [version]
    decide

theorem specHash_eq : run.record.specHash = toHex (config.sha256 (utf8 (canonicalText
    (specWithPointer run.discovered run.pointer)))) :=
  congrArg toHex run.call_eq.2

variable {client : Client} {text : JsString} {parsed returned : JsValue}

/-- What the client finds: the records are too many to page through, or the blob of the
latest one is checked. -/
theorem resolved_eq (noRecords : liveRecords client run.contractId = none)
    (noSpec : liveSpec client run.contractId run.record = none) :
    run.resolved client =
      if run.published.length ≤ lastStart then
        ((servedText config run.transport run.record).bind fun text =>
          verifyBlob config run.contractId run.record text).map some
      else .error OnChainAbiRegistryClient.pageFailure := by
  have shows := RegistryContract.Chain.shows_after run.calls run.contractId config.publisher
  have read := OnChainAbiRegistryClient.result_getRecords config (Chain.after run.calls).storage
    run.transport client run.contractId
  have count : (OnChainAbiRegistryClient.storedVersions config (Chain.after run.calls).storage
      run.contractId).length = run.published.length := by
    rw [OnChainAbiRegistryClient.storedVersions, shows.versions, List.length_map]
    rfl
  rw [noRecords, count] at read
  dsimp only at read
  split at read
  · rename_i small
    rw [resolved, OnChainAbiRegistryClient.result_getSpec _ _ _ _ _ noSpec read
      (OnChainAbiRegistryClient.getLast?_records shows run.latest run.legible), if_pos small]
  · rename_i large
    rw [resolved, OnChainAbiRegistryClient.result_getSpec_error _ _ _ _ _ read, if_neg large]

def HashesAgree : Prop :=
  config.sha256 (utf8 (AutoPublishIndexer.canonicalJson run.discovered)) =
    config.sha256 (utf8 (canonicalText (specWithPointer run.discovered run.pointer)))

def OfflineAgrees : Prop :=
  ∀ text, config.offlineBlobs run.record.specHash = some text →
    ∃ parsed, JsValue.parse text = some parsed ∧ SameData parsed run.discovered

theorem canonicalizeSpec_discovered :
    canonicalizeSpec run.discovered = some (AutoPublishIndexer.canonicalJson run.discovered) := by
  rw [AutoPublishIndexer.canonicalJson, canonicalText,
    canonicalizeSpec_eq (hasLiteral_of_isLiteral run.plain.leaves)]
  rfl

theorem parse_canonicalJson :
    ∃ parsed, JsValue.parse (AutoPublishIndexer.canonicalJson run.discovered) = some parsed ∧
      SameData parsed run.discovered :=
  ⟨reread run.discovered,
    parse_canonicalizeSpec (hasLiteral_of_isLiteral run.plain.leaves)
      run.canonicalizeSpec_discovered,
    sameData_reread run.plain⟩

theorem specHash_of_sameData (read : JsValue.parse text = some parsed)
    (same : SameData parsed run.discovered) :
    OnChainAbiRegistryClient.specHash config parsed =
      some (toHex (config.sha256 (utf8 (AutoPublishIndexer.canonicalJson run.discovered)))) := by
  rcases OnChainAbiRegistryClient.parse_eq_ofSyntax read with ⟨tree, isParsed⟩
  have canonical : canonicalizeSpec parsed = canonicalizeSpec run.discovered := by
    apply canonicalizeSpec_congr same
    · exact isParsed ▸ JsValue.ofSyntax_distinctKeys tree
    · exact run.plain.distinctKeys
    · exact isParsed ▸ JsValue.ofSyntax_leaves tree
    · exact hasLiteral_of_isLiteral run.plain.leaves
  rw [OnChainAbiRegistryClient.specHash, canonical, run.canonicalizeSpec_discovered]
  rfl

theorem verifyBlob_of_agrees (agrees : run.HashesAgree) (read : JsValue.parse text = some parsed)
    (same : SameData parsed run.discovered) :
    verifyBlob config run.contractId run.record text = .ok parsed := by
  have hash := run.specHash_of_sameData read same
  rw [agrees, ← run.specHash_eq] at hash
  have valid := validateSpec_congr same.symm run.valid
  rw [verifyBlob, read]
  dsimp only
  rw [hash]
  dsimp only
  rw [if_neg (fun different => different rfl), if_neg (fun invalid => invalid valid)]

theorem hashesAgree_of_verifyBlob
    (verified : verifyBlob config run.contractId run.record text = .ok returned)
    (same : SameData returned run.discovered) : run.HashesAgree := by
  rcases OnChainAbiRegistryClient.verifyBlob_eq_ok verified with ⟨read, hash⟩
  rw [run.specHash_of_sameData read same, run.specHash_eq, Option.some.injEq] at hash
  have bytes := congrArg leadingHex hash
  rw [leadingHex_toHex, leadingHex_toHex] at bytes
  exact bytes

theorem servedText_pointer (noBlob : config.offlineBlobs run.record.specHash = none) :
    servedText config run.transport run.record =
      .ok (AutoPublishIndexer.canonicalJson run.discovered) := by
  have served : run.transport run.record.pointer = .ok run.response := run.served
  rw [servedText, noBlob]
  dsimp only
  rw [served]
  dsimp only
  rw [if_pos run.ok, run.exactly]
  rfl

theorem hashesAgree_of_resolved (noRecords : liveRecords client run.contractId = none)
    (noSpec : liveSpec client run.contractId run.record = none)
    (found : run.resolved client = .ok (some returned)) (same : SameData returned run.discovered) :
    run.published.length ≤ lastStart ∧ run.HashesAgree ∧ run.OfflineAgrees := by
  rw [run.resolved_eq noRecords noSpec] at found
  split at found
  · rename_i small
    cases source : servedText config run.transport run.record with
    | error failure =>
        rw [source] at found
        cases found
    | ok text =>
        rw [source, Except.bind] at found
        cases verified : verifyBlob config run.contractId run.record text with
        | error failure =>
            rw [verified] at found
            cases found
        | ok spec =>
            rw [verified] at found
            cases found
            refine ⟨small, run.hashesAgree_of_verifyBlob verified same, ?_⟩
            intro blob offline
            rw [servedText, offline] at source
            cases source
            exact ⟨returned, (OnChainAbiRegistryClient.verifyBlob_eq_ok verified).1, same⟩
  · cases found

theorem resolved_of_hashesAgree (noRecords : liveRecords client run.contractId = none)
    (noSpec : liveSpec client run.contractId run.record = none)
    (small : run.published.length ≤ lastStart) (agrees : run.HashesAgree)
    (offline : run.OfflineAgrees) :
    ∃ returned, run.resolved client = .ok (some returned) ∧
      SameData returned run.discovered := by
  have source : ∃ text parsed, servedText config run.transport run.record = .ok text ∧
      JsValue.parse text = some parsed ∧ SameData parsed run.discovered := by
    cases blob : config.offlineBlobs run.record.specHash with
    | some text =>
        rcases offline text blob with ⟨parsed, read, same⟩
        exact ⟨text, parsed, by rw [servedText, blob], read, same⟩
    | none =>
        rcases run.parse_canonicalJson with ⟨parsed, read, same⟩
        exact ⟨_, parsed, run.servedText_pointer blob, read, same⟩
  rcases source with ⟨text, parsed, source, read, same⟩
  refine ⟨parsed, ?_, same⟩
  rw [run.resolved_eq noRecords noSpec, if_pos small, source, Except.bind,
    run.verifyBlob_of_agrees agrees read same]
  rfl

theorem canonicalJson_ne :
    AutoPublishIndexer.canonicalJson run.discovered ≠
      canonicalText (specWithPointer run.discovered run.pointer) := by
  refine canonicalText_ne run.plain rfl ?_ run.pointer
  cases run.network with
  | none =>
      show js "pointer" ∉ [js "version", js "name", js "contractId", js "functions", js "events",
        js "types", js "xdrEntries"]
      decide
  | some network =>
      show js "pointer" ∉ [js "version", js "name", js "contractId", js "network",
        js "functions", js "events", js "types", js "xdrEntries"]
      decide

end PublishedSpec

/-- A client that has not read the contract lately returns the discovered spec exactly if
the records can be paged through, an offline blob for the hash holds the discovered spec
and the two different texts that were hashed have the same hash. -/
theorem getSpec_returns_discovered_iff (config : Config) (run : PublishedSpec config)
    (client : Client) (noRecords : liveRecords client run.contractId = none)
    (noSpec : liveSpec client run.contractId run.record = none) :
    AutoPublishIndexer.canonicalJson run.discovered ≠
        canonicalText (specWithPointer run.discovered run.pointer) ∧
      ((∃ returned, run.resolved client = .ok (some returned) ∧
          SameData returned run.discovered) ↔
        run.published.length ≤ lastStart ∧ run.HashesAgree ∧ run.OfflineAgrees) := by
  refine ⟨run.canonicalJson_ne, ?_, ?_⟩
  · rintro ⟨returned, found, same⟩
    exact run.hashesAgree_of_resolved noRecords noSpec found same
  · rintro ⟨small, agrees, offline⟩
    exact run.resolved_of_hashesAgree noRecords noSpec small agrees offline

/-! ### A sample -/

def sampleConfig : Config where
  publisher := OnChainAbiRegistryClient.samplePublisher
  offlineBlobs := fun _ => none
  sha256 := id

def sampleDiscovered : JsValue :=
  discoverContractSpec (fun _ => []) OnChainAbiRegistryClient.sampleContract none []

def samplePointer : JsString :=
  js "https://specs.example/1"

def sampleCall : Publish where
  publisher := OnChainAbiRegistryClient.samplePublisher
  contractId := OnChainAbiRegistryClient.sampleContract
  version := utf8 (js "0.0.0")
  specHash := OnChainRegistryPublisher.specHash (publisherOf sampleConfig)
    (specWithPointer sampleDiscovered samplePointer)
  pointer := utf8 samplePointer
  timestamp := 1700000000
  sequence := 1000

def samplePublished : PublishedSpec sampleConfig where
  toXdr := fun _ => []
  contractId := OnChainAbiRegistryClient.sampleContract
  network := none
  entries := []
  valid := by decide
  pointer := samplePointer
  timestamp := 1700000000
  sequence := 1000
  call := sampleCall
  planned := OnChainRegistryPublisher.publish_eq_ok (by decide) (by decide) (by decide) (by decide)
  calls := [sampleCall]
  latest := rfl
  transport := fun _ =>
    .ok { ok := true, status := 200, text := AutoPublishIndexer.canonicalJson sampleDiscovered }
  response :=
    { ok := true, status := 200, text := AutoPublishIndexer.canonicalJson sampleDiscovered }
  served := rfl
  ok := rfl
  exactly := rfl

def sampleClient : Client where
  now := 0
  recordsCache := .new 300000 512
  specCache := .new 300000 512

theorem getSpec_returns_sample_iff :
    AutoPublishIndexer.canonicalJson samplePublished.discovered ≠
        canonicalText (specWithPointer samplePublished.discovered samplePublished.pointer) ∧
      ((∃ returned, samplePublished.resolved sampleClient = .ok (some returned) ∧
          SameData returned samplePublished.discovered) ↔
        samplePublished.published.length ≤ lastStart ∧ samplePublished.HashesAgree ∧
          samplePublished.OfflineAgrees) :=
  getSpec_returns_discovered_iff sampleConfig samplePublished sampleClient (by decide) (by decide)

theorem sample_hashes_differ : ¬ samplePublished.HashesAgree := by
  have spec := samplePublished.plain
  have spec' := plain_specWithPointer spec samplePublished.pointer
  have text : ∀ {value : JsValue}, Plain value →
      canonicalText value = JsonSyntax.print (canonicalTree value) := by
    intro value plain
    rw [canonicalText, canonicalizeSpec_eq (hasLiteral_of_isLiteral plain.leaves),
      Option.getD_some]
  intro agrees
  apply samplePublished.canonicalJson_ne
  apply WellFormed.utf8_inj
  · rw [AutoPublishIndexer.canonicalJson, text spec]
    exact WellFormed.print _
  · rw [text spec']
    exact WellFormed.print _
  · exact agrees

/-- The spec that is published is not found again, for a hash that has no collisions. -/
theorem published_spec_is_not_returned :
    ¬ ∀ (config : Config) (run : PublishedSpec config) (client : Client),
      Function.Injective config.sha256 → liveRecords client run.contractId = none →
        liveSpec client run.contractId run.record = none →
          ∃ returned, run.resolved client = .ok (some returned) ∧
            SameData returned run.discovered := by
  intro resolves
  rcases resolves sampleConfig samplePublished sampleClient Function.injective_id (by decide)
    (by decide) with ⟨returned, found, same⟩
  exact sample_hashes_differ
    (samplePublished.hashesAgree_of_resolved (by decide) (by decide) found same).2.1

end Orbital.OrbitalIndexer
