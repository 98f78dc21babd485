import Orbital.AbiRegistry.CanonicalSpec
import Orbital.AbiRegistry.OnChainAbiRegistryClient
import Orbital.Foundation.RelyGuarantee
import Orbital.Foundation.WellFormedText

/-! # What the specs of a client are

Publications on the contract, calls of the client and the answers to its requests
interleave. Every spec that is returned or cached was read from a text that was served or
held, and its hash is that of a record on the contract.
-/

namespace Orbital.AbiRegistry.OnChainAbiRegistryClient

open Foundation
open Foundation.Async (Surroundings Ensures)
open RegistryContract (Chain Publish)
open JsValue (SameData IsLiteral)

/-! ## Calls -/

inductive Query
  | getSpec
  | getSpecAt (ledger : Nat)
  | getSpecByVersion (version : JsString)

namespace Query

def call (config : Config) (contractId : Address) : Query → Program (Option JsValue)
  | getSpec => OnChainAbiRegistryClient.getSpec config contractId
  | getSpecAt ledger => OnChainAbiRegistryClient.getSpecAt config contractId ledger
  | getSpecByVersion version =>
      OnChainAbiRegistryClient.getSpecByVersion config contractId version

def record (contractId : Address) : Query → Program (Option SpecRecord)
  | getSpec => (getRecords contractId).bind fun records => .done records.getLast?
  | getSpecAt ledger =>
      (getRecords contractId).bind fun records => .done (records.foldl (laterBy ledger) none)
  | getSpecByVersion version => simulateGetVersion contractId version

def resolve (config : Config) (contractId : Address) :
    Option SpecRecord → Program (Option (SpecRecord × JsValue))
  | none => .done none
  | some record =>
      (resolveRecord config contractId record).bind fun spec => .done (spec.map (record, ·))

def traced (config : Config) (contractId : Address) (query : Query) :
    Program (Option (SpecRecord × JsValue)) :=
  (query.record contractId).bind (resolve config contractId)

end Query

/-! ## The system -/

structure Call where
  contractId : Address
  program : Program (Option (SpecRecord × JsValue))

structure Returned where
  contractId : Address
  record : SpecRecord
  spec : JsValue

structure World where
  chain : Chain
  client : Client
  calls : List Call
  served : List JsString
  returned : List Returned

def World.initial (ttlMs maxSize : Nat) : World where
  chain := .empty
  client := {
    now := 0
    recordsCache := .new ttlMs maxSize
    specCache := .new ttlMs maxSize }
  calls := []
  served := []
  returned := []

inductive Reply
  | failed (failure : Failure)
  | answered (response : HttpResponse)

def Reply.respond (config : Config) (storage : RegistryContract.Storage) :
    Reply → (request : Request) → Except Failure (Response request)
  | .failed failure, _ => .error failure
  | .answered response, request =>
      OnChainAbiRegistryClient.respond config storage (fun _ => .ok response) request

def Reply.text? (reply : Reply) (program : Program (Option (SpecRecord × JsValue))) :
    Option JsString :=
  match reply, program.request? with
  | .answered response, some (.transport _) => some response.text
  | _, _ => none

inductive Event
  | publish (call : Publish)
  | pass (milliseconds : Nat)
  | ask (contractId : Address) (query : Query)
  | answer (index : Nat) (reply : Reply)
  | clearCache

namespace World

def proceed (world : World) (contractId : Address) (others : List Call)
    (next : Client × Program (Option (SpecRecord × JsValue))) : World :=
  match next.2 with
  | .done (some (record, spec)) =>
      { world with
        client := next.1
        calls := others
        returned := world.returned ++ [{ contractId, record, spec }] }
  | .done none => { world with client := next.1, calls := others }
  | .fail _ => { world with client := next.1, calls := others }
  | program => { world with client := next.1, calls := others ++ [{ contractId, program }] }

def step (config : Config) (world : World) : Event → World
  | .publish call => { world with chain := world.chain.step call }
  | .pass milliseconds =>
      { world with client := { world.client with now := world.client.now + milliseconds } }
  | .ask contractId query =>
      world.proceed contractId world.calls ((query.traced config contractId).advance world.client)
  | .answer index reply =>
      match world.calls[index]? with
      | none => world
      | some call =>
          let served := { world with served := world.served ++ (reply.text? call.program).toList }
          served.proceed call.contractId (world.calls.eraseIdx index)
            (call.program.answer (reply.respond config world.chain.storage) world.client)
  | .clearCache => { world with client := OnChainAbiRegistryClient.clearCache world.client }

def after (config : Config) (ttlMs maxSize : Nat) (events : List Event) : World :=
  events.foldl (step config) (initial ttlMs maxSize)

end World

/-! ## What is known -/

structure Known where
  log : List (Address × RegistryContract.SpecRecord)
  served : List JsString

instance : Preorder Known where
  le first second := first.log ⊆ second.log ∧ first.served ⊆ second.served
  le_refl known := ⟨List.Subset.refl known.log, List.Subset.refl known.served⟩
  le_trans first second third front back := 
    ⟨List.Subset.trans front.1 back.1, List.Subset.trans front.2 back.2⟩

def Published (config : Config) (known : Known) (contractId : Address) (record : SpecRecord) :
    Prop :=
  ∃ native version, (contractId, native) ∈ known.log ∧ native.publisher = config.publisher ∧
    native.version = utf8 version ∧ SpecRecord.ofNative native = record

def Verified (config : Config) (known : Known) (contractId : Address) (version : JsString)
    (spec : JsValue) : Prop :=
  ∃ record, Published config known contractId record ∧ record.version = version ∧
    specHash config spec = some record.specHash ∧
      ∃ text, (text ∈ known.served ∨ ∃ hash, config.offlineBlobs hash = some text) ∧
        JsValue.parse text = some spec

structure Sound (config : Config) (known : Known) (client : Client) : Prop where
  records : client.recordsCache.Holds fun key records =>
    ∀ contractId : Address, key = contractId.text →
      ∀ record ∈ records, Published config known contractId record
  specs : client.specCache.Holds fun key spec =>
    ∃ (contractId : Address) (version : JsString), key = contractId.text ++ js "@" ++ version ∧
      Verified config known contractId version spec

def surroundings (config : Config) : Surroundings Known Client Response where
  keeps := Sound config
  answers known
    | .listVersionsPaged _ _ _, _ => True
    | .getVersion contractId version, native =>
        ∀ record ∈ native, (contractId, record) ∈ known.log ∧
          record.publisher = config.publisher ∧ record.version = utf8 version
    | .transport _, response => response.text ∈ known.served

variable {config : Config} {known later : Known} {contractId : Address}

theorem Published.mono {record : SpecRecord} (published : Published config known contractId record)
    (more : known ≤ later) : Published config later contractId record := by
  rcases published with ⟨native, version, inside, publisher, isVersion, same⟩
  exact ⟨native, version, more.1 inside, publisher, isVersion, same⟩

variable {version text : JsString} {spec first second : JsValue} {records : List SpecRecord}

theorem Verified.mono (verified : Verified config known contractId version spec)
    (more : known ≤ later) : Verified config later contractId version spec := by
  rcases verified with ⟨record, published, same, hash, text, source, parsed⟩
  refine ⟨record, published.mono more, same, hash, text, ?_, parsed⟩
  exact source.imp_left (@more.2 text)

theorem Sound.mono {client : Client} (sound : Sound config known client) (more : known ≤ later) :
    Sound config later client := by
  constructor
  · intro key entry found contractId same record member
    exact (sound.records key entry found contractId same record member).mono more
  · intro key entry found
    rcases sound.specs key entry found with ⟨contractId, version, same, verified⟩
    exact ⟨contractId, version, same, verified.mono more⟩

/-! ## Programs -/

theorem ensures_cachedRecords :
    Ensures (surroundings config)
      (fun known found => ∀ records ∈ found, ∀ record ∈ records,
        Published config known contractId record)
      known (cachedRecords contractId) := by
  apply Async.ensures_get_bind
  intro client sound
  apply Async.ensures_modify_bind
  · intro found soundFound
    exact ⟨(soundFound.records.get found.now contractId.text).2, soundFound.specs⟩
  · intro records isCached
    exact (sound.records.get client.now contractId.text).1 records isCached contractId rfl

theorem ensures_storeRecords
    (published : ∀ record ∈ records, Published config known contractId record) :
    Ensures (surroundings config) (fun _ _ => True) known (storeRecords contractId records) := by
  intro client sound
  refine ⟨⟨sound.records.set client.now ?_, sound.specs⟩, trivial⟩
  intro other same record member
  have equal : contractId = other := by
    cases contractId
    cases other
    cases same
    rfl
  exact equal ▸ published record member

theorem ensures_simulateListVersions (fuel cursor : Nat) :
    Ensures (surroundings config) (fun _ _ => True) known
      (simulateListVersions contractId fuel cursor) := by
  induction fuel generalizing known cursor with
  | zero => trivial
  | succ fuel induction =>
      have answer : Ensures (surroundings config) (fun _ _ => True) known
          (listVersionsPaged contractId cursor 25) :=
        Async.ensures_call fun _ _ _ _ => trivial
      apply answer.bind
      intro later page _ _
      rcases page with _ | ⟨page, _ | nextCursor⟩
      · trivial
      · trivial
      · exact (induction nextCursor).bind fun _ _ _ _ => trivial

theorem ensures_simulateGetVersion (version : JsString) :
    Ensures (surroundings config)
      (fun known found => ∀ record ∈ found, Published config known contractId record)
      known (simulateGetVersion contractId version) := by
  have answer : Ensures (surroundings config) (fun known native => ∀ record ∈ native,
      (contractId, record) ∈ known.log ∧ record.publisher = config.publisher ∧
        record.version = utf8 version) known (getVersion contractId version) :=
    Async.ensures_call fun _ _ _ answered => answered
  apply answer.bind
  intro later native _ read record member
  rcases Option.map_eq_some_iff.mp member with ⟨found, isFound, same⟩
  rcases read found isFound with ⟨inside, publisher, isVersion⟩
  exact ⟨found, version, inside, publisher, isVersion, same⟩

theorem ensures_simulateGetVersions (versions : List JsString) :
    Ensures (surroundings config)
      (fun known records => ∀ record ∈ records, Published config known contractId record)
      known (simulateGetVersions contractId versions) := by
  induction versions generalizing known with
  | nil => exact fun record none => absurd none List.not_mem_nil
  | cons version versions induction =>
      apply (ensures_simulateGetVersion version).bind
      intro later found _ first
      apply induction.bind
      intro latest records more rest record member
      rcases List.mem_append.mp member with inFirst | inRest
      · exact (first record (Option.mem_toList.mp inFirst)).mono more
      · exact rest record inRest

theorem ensures_getRecords :
    Ensures (surroundings config)
      (fun known records => ∀ record ∈ records, Published config known contractId record)
      known (getRecords contractId) := by
  apply ensures_cachedRecords.bind
  intro later found _ cached
  cases found with
  | some records => exact cached records rfl
  | none =>
      apply (ensures_simulateListVersions maxPages 0).bind
      intro latest versions _ _
      apply (ensures_simulateGetVersions versions).bind
      intro last records _ published
      apply (ensures_storeRecords published).bind
      intro final _ more _ record member
      exact (published record member).mono more

theorem laterBy_mem {ledger : Nat} {record : SpecRecord}
    (chosen : records.foldl (laterBy ledger) none = some record) : record ∈ records := by
  have run : ∀ (records : List SpecRecord) (candidate : Option SpecRecord),
      records.foldl (laterBy ledger) candidate = some record →
        record ∈ records ∨ candidate = some record := by
    intro records
    induction records with
    | nil => exact fun candidate same => Or.inr same
    | cons first rest induction =>
        intro candidate chosen
        rcases induction _ chosen with inRest | isFirst
        · exact Or.inl (List.mem_cons_of_mem first inRest)
        · rw [laterBy] at isFirst
          split at isFirst
          · exact Or.inl (Option.some.inj isFirst ▸ List.mem_cons_self)
          · exact Or.inr isFirst
  exact (run records none chosen).resolve_right fun none => nomatch none

theorem ensures_record (query : Query) :
    Ensures (surroundings config)
      (fun known found => ∀ record ∈ found, Published config known contractId record)
      known (query.record contractId) := by
  cases query with
  | getSpec =>
      apply ensures_getRecords.bind
      intro later records _ published record isLast
      exact published record (List.mem_of_getLast? isLast)
  | getSpecAt ledger =>
      apply ensures_getRecords.bind
      intro later records _ published record chosen
      exact published record (laterBy_mem chosen)
  | getSpecByVersion version => exact ensures_simulateGetVersion version

theorem cacheKey_inj {first second : Address} {other : JsString}
    (same : first.text ++ js "@" ++ version = second.text ++ js "@" ++ other) :
    first = second ∧ version = other := by
  have before : ∀ (address : Address) (rest : JsString),
      (address.text ++ js "@" ++ rest).takeWhile isBase32 = address.text := by
    intro address rest
    rw [List.append_assoc, List.takeWhile_append_of_pos (List.all_eq_true.mp address.base32)]
    exact List.append_nil _
  have text : first.text = second.text := by
    rw [← before first version, same, before]
  rw [text, List.append_cancel_left_eq] at same
  refine ⟨?_, same⟩
  cases first
  cases second
  cases text
  rfl

theorem ensures_cachedSpec (record : SpecRecord) :
    Ensures (surroundings config)
      (fun known found => ∀ spec ∈ found, Verified config known contractId record.version spec)
      known (cachedSpec (cacheKey contractId record)) := by
  apply Async.ensures_get_bind
  intro client sound
  apply Async.ensures_modify_bind
  · intro found soundFound
    exact ⟨soundFound.records, (soundFound.specs.get found.now (cacheKey contractId record)).2⟩
  · intro spec isCached
    rcases (sound.specs.get client.now (cacheKey contractId record)).1 spec isCached with
      ⟨other, version, same, verified⟩
    rcases cacheKey_inj same with ⟨rfl, rfl⟩
    exact verified

theorem ensures_blobText (record : SpecRecord) :
    Ensures (surroundings config)
      (fun known text => text ∈ known.served ∨ ∃ hash, config.offlineBlobs hash = some text)
      known (blobText config record) := by
  rw [blobText]
  cases held : config.offlineBlobs record.specHash with
  | some text => exact Or.inr ⟨record.specHash, held⟩
  | none =>
      have answer : Ensures (surroundings config) (fun known response => response.text ∈ known.served)
          known (transport record.pointer) :=
        Async.ensures_call fun _ _ _ served => served
      apply answer.bind
      intro later response _ served
      split
      · exact Or.inl served
      · trivial

theorem verifyBlob_eq_ok {record : SpecRecord}
    (verified : verifyBlob config contractId record text = .ok spec) :
    JsValue.parse text = some spec ∧ specHash config spec = some record.specHash := by
  rw [verifyBlob] at verified
  split at verified
  · cases verified
  · rename_i parsed isParsed
    split at verified
    · cases verified
    · rename_i actualHash hash
      split at verified
      · cases verified
      · rename_i same
        split at verified
        · cases verified
        · cases verified
          exact ⟨isParsed, hash.trans (congrArg some (not_not.mp same))⟩

theorem ensures_resolveRecord {record : SpecRecord}
    (published : Published config known contractId record) :
    Ensures (surroundings config)
      (fun known found => ∀ spec ∈ found, Verified config known contractId record.version spec)
      known (resolveRecord config contractId record) := by
  apply (ensures_cachedSpec record).bind
  intro later found more cached
  cases found with
  | some spec => exact cached
  | none =>
      apply (ensures_blobText record).bind
      intro latest text evenMore source
      cases outcome : verifyBlob config contractId record text with
      | error failure => trivial
      | ok spec =>
          rcases verifyBlob_eq_ok outcome with ⟨parsed, hash⟩
          have verified : Verified config latest contractId record.version spec :=
            ⟨record, published.mono (le_trans more evenMore), rfl, hash, text, source, parsed⟩
          apply Async.ensures_modify_bind
          · intro client sound
            exact ⟨sound.records,
              sound.specs.set client.now ⟨contractId, record.version, rfl, verified⟩⟩
          · intro other same
            exact Option.some.inj same ▸ verified

def Resolved (config : Config) (known : Known) (contractId : Address) (record : SpecRecord)
    (spec : JsValue) : Prop :=
  Published config known contractId record ∧
    Verified config known contractId record.version spec

theorem ensures_traced (query : Query) :
    Ensures (surroundings config)
      (fun known outcome => ∀ resolved ∈ outcome,
        Resolved config known contractId resolved.1 resolved.2)
      known (query.traced config contractId) := by
  apply (ensures_record query).bind
  intro later found _ published
  cases found with
  | none => exact fun resolved none => nomatch none
  | some record =>
      apply (ensures_resolveRecord (published record rfl)).bind
      intro latest spec more verified resolved isResolved
      rcases Option.map_eq_some_iff.mp isResolved with ⟨value, isValue, rfl⟩
      exact ⟨(published record rfl).mono more, verified value isValue⟩

/-! ## Runs -/

namespace World

def knowledge (world : World) : Known where
  log := world.chain.log
  served := world.served

structure Consistent (config : Config) (world : World) : Prop where
  shows : ∀ contractId publisher, world.chain.Shows contractId publisher
  sound : Sound config world.knowledge world.client
  calls : ∀ call ∈ world.calls, call.program.awaiting = true ∧
    Ensures (surroundings config)
      (fun known outcome => ∀ resolved ∈ outcome,
        Resolved config known call.contractId resolved.1 resolved.2)
      world.knowledge call.program
  returned : ∀ returned ∈ world.returned,
    Resolved config world.knowledge returned.contractId returned.record returned.spec

theorem knowledge_publish (world : World) (call : Publish) :
    world.knowledge ≤ { world with chain := world.chain.step call }.knowledge := by
  refine ⟨?_, List.Subset.refl world.served⟩
  intro entry inside
  change entry ∈ (world.chain.step call).log
  rw [Chain.step]
  split
  · exact inside
  · exact List.mem_append_left _ inside

variable {world : World}

theorem Consistent.learn {next : World} (consistent : Consistent config world)
    (more : world.knowledge ≤ next.knowledge)
    (shows : ∀ contractId publisher, next.chain.Shows contractId publisher)
    (client : next.client = world.client) (calls : next.calls = world.calls)
    (returned : next.returned = world.returned) : Consistent config next := by
  constructor
  · exact shows
  · exact client ▸ consistent.sound.mono more
  · intro call member
    rcases consistent.calls call (calls ▸ member) with ⟨waits, ensures⟩
    exact ⟨waits, ensures.later waits more⟩
  · intro found member
    rcases consistent.returned found (returned ▸ member) with ⟨published, verified⟩
    exact ⟨published.mono more, verified.mono more⟩

theorem Consistent.proceed (consistent : Consistent config world) {contractId : Address}
    {others : List Call} (same : ∀ call ∈ others, call ∈ world.calls)
    {next : Client × Program (Option (SpecRecord × JsValue))}
    (settled : ∀ update rest, next.2 ≠ .step update rest)
    (sound : Sound config world.knowledge next.1) (ensures : Ensures (surroundings config)
      (fun known outcome => ∀ resolved ∈ outcome,
        Resolved config known contractId resolved.1 resolved.2) world.knowledge next.2) :
    Consistent config (world.proceed contractId others next) := by
  have waiting := fun call member => consistent.calls call (same call member)
  rcases next with ⟨client, program⟩
  cases program with
  | done outcome =>
      rcases outcome with _ | ⟨record, spec⟩
      · exact ⟨consistent.shows, sound, waiting, consistent.returned⟩
      · refine ⟨consistent.shows, sound, waiting, ?_⟩
        intro returned member
        rcases List.mem_append.mp member with earlier | last
        · exact consistent.returned returned earlier
        · rw [List.mem_singleton.mp last]
          exact ensures (record, spec) rfl
  | fail failure => exact ⟨consistent.shows, sound, waiting, consistent.returned⟩
  | step update rest => exact absurd rfl (settled update rest)
  | await request resume =>
      refine ⟨consistent.shows, sound, ?_, consistent.returned⟩
      intro call member
      rcases List.mem_append.mp member with other | last
      · exact waiting call other
      · rw [List.mem_singleton.mp last]
        exact ⟨rfl, ensures⟩

theorem Consistent.answered (consistent : Consistent config world) {reply : Reply}
    {program : Program (Option (SpecRecord × JsValue))} {request : Request}
    (waits : program.request? = some request) {value : Response request}
    (answer : reply.respond config world.chain.storage request = .ok value) :
    (surroundings config).answers
      { world with served := world.served ++ (reply.text? program).toList }.knowledge
      request value := by
  cases reply with
  | failed failure => cases answer
  | answered response =>
      cases request with
      | listVersionsPaged contractId start limit => trivial
      | getVersion contractId version =>
          intro record found
          have stored : world.chain.storage.specs ⟨contractId, config.publisher, utf8 version⟩ =
              some record := (Except.ok.inj answer).trans found
          rcases ((consistent.shows contractId config.publisher).specs _ _).mp stored with
            ⟨published, isVersion⟩
          rcases List.mem_map.mp published with ⟨entry, kept, isRecord⟩
          rcases List.mem_filter.mp kept with ⟨inside, pair⟩
          have both := of_decide_eq_true pair
          rw [← both.1, ← isRecord]
          exact ⟨inside, both.2, isRecord ▸ isVersion⟩
      | transport pointer =>
          cases answer
          have served : Reply.text? (.answered response) program = some response.text := by
            simp only [Reply.text?, waits]
          rw [served]
          exact List.mem_append_right _ List.mem_cons_self

theorem Consistent.step (consistent : Consistent config world) (event : Event) :
    Consistent config (world.step config event) := by
  cases event with
  | publish call =>
      exact consistent.learn (knowledge_publish world call)
        (fun contractId publisher => (consistent.shows contractId publisher).step call) rfl rfl rfl
  | pass milliseconds =>
      exact ⟨consistent.shows, ⟨consistent.sound.records, consistent.sound.specs⟩,
        consistent.calls, consistent.returned⟩
  | ask contractId query =>
      have next := (@ensures_traced config world.knowledge contractId query).advance consistent.sound
      exact consistent.proceed (fun call member => member) (Async.advance_ne_step _ _) next.1 next.2
  | answer index reply =>
      rw [World.step]
      cases found : world.calls[index]? with
      | none => exact consistent
      | some call =>
          have member := List.mem_of_getElem? found
          have learned : Consistent config
              { world with served := world.served ++ (reply.text? call.program).toList } := by
            refine consistent.learn ?_ consistent.shows rfl rfl rfl
            exact ⟨List.Subset.refl _, fun text served => List.mem_append_left _ served⟩
          rcases learned.calls call member with ⟨waits, ensures⟩
          have next := ensures.answer waits
            (fun request value isRequest => consistent.answered isRequest) learned.sound
          exact learned.proceed (fun other => List.mem_of_mem_eraseIdx)
            (Async.answer_ne_step _ _ _) next.1 next.2
  | clearCache =>
      exact ⟨consistent.shows, ⟨TtlLruCache.Holds.clear _, TtlLruCache.Holds.clear _⟩,
        consistent.calls, consistent.returned⟩

theorem consistent_initial (ttlMs maxSize : Nat) : Consistent config (initial ttlMs maxSize) := by
  constructor
  · exact Chain.Shows.empty
  · exact ⟨TtlLruCache.holds_new ttlMs maxSize, TtlLruCache.holds_new ttlMs maxSize⟩
  · exact fun call none => absurd none List.not_mem_nil
  · exact fun returned none => absurd none List.not_mem_nil

theorem consistent_after (config : Config) (ttlMs maxSize : Nat) (events : List Event) :
    Consistent config (after config ttlMs maxSize events) := by
  have run : ∀ (events : List Event) (world : World), Consistent config world →
      Consistent config (events.foldl (World.step config) world) := by
    intro events
    induction events with
    | nil => exact fun world consistent => consistent
    | cons event events induction =>
        exact fun world consistent => induction _ (consistent.step event)
  exact run events _ (consistent_initial ttlMs maxSize)

end World

/-! ## Versions that read the same -/

def VersionsApart (config : Config) (log : List (Address × RegistryContract.SpecRecord)) : Prop :=
  ∀ first ∈ log, ∀ second ∈ log, first.1 = second.1 → first.2.publisher = config.publisher →
    second.2.publisher = config.publisher →
      first.2.version ≠ encode [byteOrderMark] ++ second.2.version

theorem dropByteOrderMark_eq {first second : List Char}
    (same : dropByteOrderMark first = dropByteOrderMark second) :
    first = second ∨ first = byteOrderMark :: second ∨ second = byteOrderMark :: first := by
  by_cases marked : first.head? = some byteOrderMark
  · rcases List.head?_eq_some_iff.mp marked with ⟨rest, rfl⟩
    rw [dropByteOrderMark, if_pos rfl] at same
    by_cases marked' : second.head? = some byteOrderMark
    · rcases List.head?_eq_some_iff.mp marked' with ⟨rest', rfl⟩
      rw [dropByteOrderMark, if_pos rfl] at same
      exact Or.inl (congrArg _ same)
    · rw [dropByteOrderMark_eq_self marked'] at same
      exact Or.inr (Or.inl (congrArg _ same))
  · rw [dropByteOrderMark_eq_self marked] at same
    by_cases marked' : second.head? = some byteOrderMark
    · rcases List.head?_eq_some_iff.mp marked' with ⟨rest', rfl⟩
      rw [dropByteOrderMark, if_pos rfl] at same
      exact Or.inr (Or.inr (congrArg _ same.symm))
    · rw [dropByteOrderMark_eq_self marked'] at same
      exact Or.inl same

theorem utf8_of_nativeText {first second : JsString}
    (same : nativeText (utf8 first) = nativeText (utf8 second)) :
    utf8 first = utf8 second ∨ utf8 first = encode [byteOrderMark] ++ utf8 second ∨
      utf8 second = encode [byteOrderMark] ++ utf8 first := by
  have characters := congrArg scalars same
  rw [nativeText, nativeText, scalars_units, scalars_units, utf8, utf8, decode_encode,
    decode_encode] at characters
  rw [utf8, utf8, ← encode_append, ← encode_append]
  rcases dropByteOrderMark_eq characters with equal | marked | marked
  · exact Or.inl (congrArg encode equal)
  · exact Or.inr (Or.inl (congrArg encode marked))
  · exact Or.inr (Or.inr (congrArg encode marked))

theorem record_of_version {world : World} (shows : ∀ contractId publisher,
      world.chain.Shows contractId publisher) (apart : VersionsApart config world.chain.log)
    {first second : SpecRecord} (published : Published config world.knowledge contractId first)
    (published' : Published config world.knowledge contractId second)
    (same : first.version = second.version) : first = second := by
  rcases published with ⟨native, version, inside, publisher, isVersion, rfl⟩
  rcases published' with ⟨native', version', inside', publisher', isVersion', rfl⟩
  have texts : nativeText (utf8 version) = nativeText (utf8 version') := by
    rw [← isVersion, ← isVersion']
    exact same
  have stored : ∀ record, (contractId, record) ∈ world.chain.log →
      record.publisher = config.publisher →
        world.chain.storage.specs ⟨contractId, config.publisher, record.version⟩ =
          some record := by
    intro record member isPublisher
    apply ((shows contractId config.publisher).specs _ _).mpr ⟨_, rfl⟩
    exact List.mem_map.mpr ⟨(contractId, record),
      List.mem_filter.mpr ⟨member, decide_eq_true ⟨rfl, isPublisher⟩⟩, rfl⟩
  have found := stored native inside publisher
  rcases utf8_of_nativeText texts with equal | marked | marked
  · rw [isVersion, equal, ← isVersion', stored native' inside' publisher'] at found
    rw [Option.some.inj found]
  · rw [← isVersion, ← isVersion'] at marked
    exact absurd marked (apart _ inside _ inside' rfl publisher publisher')
  · rw [← isVersion, ← isVersion'] at marked
    exact absurd marked (apart _ inside' _ inside rfl publisher' publisher)

/-! ## Hashes -/

theorem canonicalizeSpec_of_specHash {hash : JsString}
    (injective : Function.Injective config.sha256) (leaves : first.Leaves JsValue.HasLiteral)
    (leaves' : second.Leaves JsValue.HasLiteral) (hashed : specHash config first = some hash)
    (hashed' : specHash config second = some hash) :
    canonicalizeSpec first = canonicalizeSpec second := by
  rw [specHash, canonicalizeSpec_eq leaves, Option.map_some, Option.some.injEq] at hashed
  rw [specHash, canonicalizeSpec_eq leaves', Option.map_some, Option.some.injEq] at hashed'
  have digests := congrArg leadingHex (hashed.trans hashed'.symm)
  rw [leadingHex_toHex, leadingHex_toHex] at digests
  have texts := WellFormed.utf8_inj (WellFormed.print _) (WellFormed.print _) (injective digests)
  rw [canonicalizeSpec_eq leaves, canonicalizeSpec_eq leaves', texts]

theorem parse_eq_ofSyntax {value : JsValue} (parsed : JsValue.parse text = some value) :
    ∃ tree, value = JsValue.ofSyntax tree := by
  rcases Option.map_eq_some_iff.mp parsed with ⟨tree, -, same⟩
  exact ⟨tree, same.symm⟩

/-! ### A sample -/

def sampleSpec : JsValue :=
  .object [(js "version", .leaf (.string (js "1.0.0"))), (js "name", .leaf (.string (js "t"))),
    (js "functions", .array []), (js "events", .array []), (js "types", .object [])]

def sampleCanonical : JsString :=
  js "\x7b\"events\":[],\"functions\":[],\"name\":\"t\",\"types\":\x7b\x7d,\"version\":\"1.0.0\"\x7d"

def sampleDigest : Bytes :=
  [0x3B, 0xE4, 0xB0, 0xC3, 0xBD, 0x7A, 0x56, 0x14, 0x03, 0xDC, 0x9D, 0xBE, 0x11, 0xB3,
    0xA0, 0xEB, 0xAB, 0xE5, 0x8B, 0xCD, 0xF0, 0x17, 0x10, 0x15, 0x55, 0xC6, 0xFE, 0x9B,
    0x2A, 0x14, 0x8C, 0x86]

def sampleSha256 (bytes : Bytes) : Bytes :=
  if bytes = utf8 sampleCanonical then sampleDigest else 0 :: bytes

def sampleConfig : Config where
  publisher := samplePublisher
  offlineBlobs := fun _ => none
  sha256 := sampleSha256

def sampleEvents (served : JsString) : List Event :=
  [.publish {
      publisher := samplePublisher
      contractId := sampleContract
      version := utf8 (js "1.0.0")
      specHash := sampleDigest
      pointer := utf8 (js "https://specs.example/t.json")
      timestamp := 1700000000
      sequence := 1000 },
    .ask sampleContract .getSpec,
    .answer 0 (.answered { ok := true, status := 200, text := [] }),
    .answer 0 (.answered { ok := true, status := 200, text := [] }),
    .answer 0 (.answered { ok := true, status := 200, text := served })]

def tamperedText : JsString :=
  js "\x7b\"version\":\"1.0.0\",\"name\":\"t\",\"functions\":[],\"events\":[]," ++
    js "\"types\":\x7b\"__proto__\":\x7b\x7d\x7d\x7d"

def typesProto : JsValue → Bool
  | .object members =>
      match JsValue.member? members (js "types") with
      | some (.object types) => (JsValue.member? types protoKey).isSome
      | _ => false
  | _ => false

theorem typesProto_of_sameData (same : SameData first second) (proto : typesProto first = true) :
    typesProto second = true := by
  cases same with
  | leaf same | array length items => cases proto
  | @object first second keys members =>
      rw [typesProto] at proto ⊢
      have present := keys (js "types")
      cases atFirst : JsValue.member? first (js "types") with
      | none =>
          rw [atFirst] at proto
          cases proto
      | some types =>
          rw [atFirst, Option.isSome_some] at present
          rcases Option.isSome_iff_exists.mp present.symm with ⟨types', atSecond⟩
          rw [atFirst] at proto
          rw [atSecond]
          have inner := members (js "types") types types' atFirst atSecond
          cases inner with
          | leaf same | array length items => cases proto
          | object keys members => exact (keys protoKey).symm.trans proto

theorem sampleSha256_injective : Function.Injective sampleSha256 := by
  have digest : ∀ bytes, sampleDigest ≠ 0 :: bytes := by
    intro bytes same
    cases congrArg List.head? same
  intro first second same
  rw [sampleSha256, sampleSha256] at same
  split at same
  · rename_i isFirst
    split at same
    · rename_i isSecond
      rw [isFirst, isSecond]
    · exact absurd same (digest second)
  · split at same
    · exact absurd same.symm (digest first)
    · exact (List.cons.inj same).2

theorem sampleSpec_distinctKeys : sampleSpec.DistinctKeys := by
  refine .object (by decide) ?_
  simp only [List.forall_mem_cons]
  refine ⟨.leaf _, .leaf _, .array ?_, .array ?_, .object List.nodup_nil ?_, ?_⟩
  all_goals exact fun _ none => absurd none List.not_mem_nil

theorem sampleSpec_leaves : sampleSpec.Leaves IsLiteral := by
  have text : ∀ text, IsLiteral (.string text) := fun text => ⟨rfl, fun _ number => nomatch number⟩
  refine .object ?_
  simp only [List.forall_mem_cons]
  refine ⟨.leaf (text _), .leaf (text _), .array ?_, .array ?_, .object ?_, ?_⟩
  all_goals exact fun _ none => absurd none List.not_mem_nil

/-- In every run whose versions are apart: a spec that is returned for a record was read
from a text, and it is, as data, the spec that was hashed for the record exactly if the
value of that text agrees with it on what the canonical form does not show. -/
theorem returned_spec_is_published (config : Config) (ttlMs maxSize : Nat) (events : List Event)
    (injective : Function.Injective config.sha256)
    (apart : VersionsApart config (World.after config ttlMs maxSize events).chain.log) :
    ∀ returned ∈ (World.after config ttlMs maxSize events).returned,
      (∃ native, (returned.contractId, native) ∈
          (World.after config ttlMs maxSize events).chain.log ∧
        native.publisher = config.publisher ∧ SpecRecord.ofNative native = returned.record) ∧
      ∃ text, (text ∈ (World.after config ttlMs maxSize events).served ∨
          ∃ hash, config.offlineBlobs hash = some text) ∧
        JsValue.parse text = some returned.spec ∧
        ∀ published : JsData, published.val.Leaves IsLiteral →
          specHash config published.val = some returned.record.specHash →
            (SameData returned.spec published.val ↔ SameHidden returned.spec published.val) := by
  have consistent := World.consistent_after config ttlMs maxSize events
  intro returned member
  rcases consistent.returned returned member with ⟨onChain, record, published, version, hash,
    text, source, parsed⟩
  have same := record_of_version consistent.shows apart published onChain version
  rw [same] at hash
  constructor
  · rcases onChain with ⟨native, -, inside, publisher, -, isRecord⟩
    exact ⟨native, inside, publisher, isRecord⟩
  · refine ⟨text, source, parsed, ?_⟩
    intro published leaves hashed
    rcases parse_eq_ofSyntax parsed with ⟨tree, isSpec⟩
    have leaves' : returned.spec.Leaves JsValue.HasLiteral :=
      isSpec ▸ JsValue.ofSyntax_leaves tree
    have distinct : returned.spec.DistinctKeys := isSpec ▸ JsValue.ofSyntax_distinctKeys tree
    have canonical := canonicalizeSpec_of_specHash injective leaves'
      (hasLiteral_of_isLiteral leaves) hash hashed
    exact sameData_iff_sameHidden distinct published.property leaves' leaves canonical

theorem returned_sample_is_published :
    (World.after sampleConfig 300000 512 (sampleEvents sampleCanonical)).returned.length = 1 ∧
      ∀ returned ∈ (World.after sampleConfig 300000 512 (sampleEvents sampleCanonical)).returned,
        ∃ text, (text ∈
            (World.after sampleConfig 300000 512 (sampleEvents sampleCanonical)).served ∨
            ∃ hash, sampleConfig.offlineBlobs hash = some text) ∧
          JsValue.parse text = some returned.spec ∧
          ∀ published : JsData, published.val.Leaves IsLiteral →
            specHash sampleConfig published.val = some returned.record.specHash →
              (SameData returned.spec published.val ↔
                SameHidden returned.spec published.val) := by
  have apart : VersionsApart sampleConfig
      (World.after sampleConfig 300000 512 (sampleEvents sampleCanonical)).chain.log := by
    rw [VersionsApart]
    decide +kernel
  refine ⟨by decide +kernel, ?_⟩
  intro returned member
  exact (returned_spec_is_published sampleConfig 300000 512 (sampleEvents sampleCanonical)
    sampleSha256_injective apart returned member).2

/-- A text with a member named `__proto__` is returned for a spec that has none. -/
theorem tampered_spec_is_returned :
    ¬ ∀ (config : Config) (ttlMs maxSize : Nat) (events : List Event),
      Function.Injective config.sha256 →
        ∀ returned ∈ (World.after config ttlMs maxSize events).returned,
          ∀ published : JsData, published.val.Leaves IsLiteral →
            specHash config published.val = some returned.record.specHash →
              SameData returned.spec published.val := by
  intro intact
  have tampered : ((World.after sampleConfig 300000 512 (sampleEvents tamperedText)).returned.any
      fun returned => typesProto returned.spec &&
        decide (specHash sampleConfig sampleSpec = some returned.record.specHash)) = true := by
    decide +kernel
  rcases List.any_eq_true.mp tampered with ⟨returned, member, found⟩
  rw [Bool.and_eq_true, decide_eq_true_eq] at found
  have same := intact sampleConfig 300000 512 (sampleEvents tamperedText) sampleSha256_injective
    returned member ⟨sampleSpec, sampleSpec_distinctKeys⟩ sampleSpec_leaves found.2
  have none : typesProto sampleSpec = false := by decide
  rw [typesProto_of_sameData same found.1] at none
  cases none

end Orbital.AbiRegistry.OnChainAbiRegistryClient
