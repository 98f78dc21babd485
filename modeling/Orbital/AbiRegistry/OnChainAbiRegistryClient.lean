import Orbital.AbiRegistry.RegistryContract
import Orbital.Foundation.Async
import Orbital.Foundation.InsertionMap

/-! # The on-chain client of the registry and its cache -/

/-! ## `TtlLruCache.ts` and `LruCache.ts`

Entries that expire, in the order in which they were last used. What a cache gives back
for a key was stored under it.
-/

namespace Orbital.AbiRegistry

open Foundation

structure CacheEntry (Value : Type u) where
  value : Value
  expiresAt : Nat

structure TtlLruCache (Value : Type u) where
  ttlMs : Nat
  maxSize : Nat
  map : InsertionMap JsString (CacheEntry Value)

namespace TtlLruCache

variable {Value : Type u}

def new (ttlMs maxSize : Nat) : TtlLruCache Value where
  ttlMs
  maxSize
  map := .empty

/-- `LruCache.get`: the entry that is found becomes the youngest. -/
def refresh (cache : TtlLruCache Value) (key : JsString) (entry : CacheEntry Value) :
    TtlLruCache Value :=
  { cache with map := (cache.map.delete key).set key entry }

def get (cache : TtlLruCache Value) (now : Nat) (key : JsString) :
    Option Value × TtlLruCache Value :=
  match cache.map.get? key with
  | none => (none, cache)
  | some entry =>
      if entry.expiresAt < now then
        (none, { cache with map := (cache.refresh key entry).map.delete key })
      else (some entry.value, cache.refresh key entry)

def evict (cache : TtlLruCache Value) : TtlLruCache Value :=
  if cache.maxSize < cache.map.size then
    match cache.map.keys.head? with
    | none => cache
    | some oldest => { cache with map := cache.map.delete oldest }
  else cache

def set (cache : TtlLruCache Value) (now : Nat) (key : JsString) (value : Value) :
    TtlLruCache Value :=
  (cache.refresh key ⟨value, now + cache.ttlMs⟩).evict

def clear (cache : TtlLruCache Value) : TtlLruCache Value :=
  { cache with map := .empty }

/-! ## What is stored -/

def Holds (Condition : JsString → Value → Prop) (cache : TtlLruCache Value) : Prop :=
  ∀ key entry, cache.map.get? key = some entry → Condition key entry.value

variable {Condition : JsString → Value → Prop} {cache : TtlLruCache Value}

theorem holds_new (ttlMs maxSize : Nat) : (new ttlMs maxSize).Holds Condition := by
  intro key entry found
  rw [new, InsertionMap.get?_empty] at found
  cases found

theorem Holds.delete (holds : cache.Holds Condition) (key : JsString) :
    ({ cache with map := cache.map.delete key } : TtlLruCache Value).Holds Condition := by
  intro other entry found
  rw [InsertionMap.get?_delete] at found
  split at found
  · cases found
  · exact holds other entry found

theorem Holds.refresh (holds : cache.Holds Condition) {key : JsString}
    {entry : CacheEntry Value} (stored : Condition key entry.value) :
    (cache.refresh key entry).Holds Condition := by
  intro other found isFound
  rw [TtlLruCache.refresh, InsertionMap.get?_set] at isFound
  split at isFound
  · rename_i same
    cases isFound
    exact same ▸ stored
  · rw [InsertionMap.get?_delete] at isFound
    split at isFound
    · cases isFound
    · exact holds other found isFound

theorem Holds.get (holds : cache.Holds Condition) (now : Nat) (key : JsString) :
    (∀ value, (cache.get now key).1 = some value → Condition key value) ∧
      (cache.get now key).2.Holds Condition := by
  rw [TtlLruCache.get]
  cases found : cache.map.get? key with
  | none => exact ⟨fun value none => (nomatch none), holds⟩
  | some entry =>
      have stored := holds key entry found
      by_cases expired : entry.expiresAt < now
      · simp only [if_pos expired]
        exact ⟨fun value none => (nomatch none), (holds.refresh stored).delete key⟩
      · simp only [if_neg expired]
        refine ⟨?_, holds.refresh stored⟩
        intro value same
        exact Option.some.inj same ▸ stored

theorem Holds.set (holds : cache.Holds Condition) (now : Nat) {key : JsString} {value : Value}
    (stored : Condition key value) : (cache.set now key value).Holds Condition := by
  have fresh : (cache.refresh key ⟨value, now + cache.ttlMs⟩).Holds Condition :=
    holds.refresh stored
  rw [TtlLruCache.set, evict]
  split
  · split
    · exact fresh
    · exact fresh.delete _
  · exact fresh

theorem Holds.clear (cache : TtlLruCache Value) : cache.clear.Holds Condition := by
  intro key entry found
  rw [TtlLruCache.clear, InsertionMap.get?_empty] at found
  cases found

end TtlLruCache

end Orbital.AbiRegistry

/-! ## `OnChainAbiRegistryClient.ts`

The client reads records off the registry contract and resolves them to specs. Its
methods await simulations of the contract and the transport; two caches and the clock
are the state they share.
-/

namespace Orbital.AbiRegistry

open Foundation

namespace OnChainAbiRegistryClient

/-- A string of the contract as `scValToNative` reads it. -/
def nativeText (bytes : Bytes) : JsString :=
  units (decode bytes)

structure SpecRecord where
  version : JsString
  specHash : JsString
  pointer : JsString
  publisher : JsString
  publishedAt : JsString
  publishedAtLedger : Nat
  deriving DecidableEq

def SpecRecord.ofNative (native : RegistryContract.SpecRecord) : SpecRecord where
  version := nativeText native.version
  specHash := toHex native.specHash
  pointer := nativeText native.pointer
  publisher := native.publisher.text
  publishedAt := Digits.text (Digits.ofNat native.publishedAt)
  publishedAtLedger := native.publishedAtLedger

structure Config where
  publisher : Address
  offlineBlobs : JsString → Option JsString
  sha256 : Bytes → Bytes

structure Client where
  now : Nat
  recordsCache : TtlLruCache (List SpecRecord)
  specCache : TtlLruCache JsValue

structure HttpResponse where
  ok : Bool
  status : Nat
  text : JsString

inductive Request
  | listVersionsPaged (contractId : Address) (start limit : Nat)
  | getVersion (contractId : Address) (version : JsString)
  | transport (pointer : JsString)

abbrev Response : Request → Type
  | .listVersionsPaged _ _ _ => Option (List Bytes × Option Nat)
  | .getVersion _ _ => Option RegistryContract.SpecRecord
  | .transport _ => HttpResponse

inductive Failure
  | simulation (error : JsString)
  | transport (error : JsString)
  | fetch (pointer : JsString) (status : Nat)
  | notJson (pointer : JsString)
  | notHashable
  | hashMismatch (contractId version expected actual : JsString)
  | invalid (contractId version : JsString) (errors : List JsString)
  deriving DecidableEq

def Failure.message : Failure → JsString
  | .simulation error => js "OnChainAbiRegistryClient: simulation of " ++ error
  | .transport error => error
  | .fetch pointer status =>
      js "OnChainAbiRegistryClient: failed to fetch spec blob at " ++ pointer ++ js " (" ++
        Digits.text (Digits.ofNat status) ++ js ")"
  | .notJson pointer =>
      js "OnChainAbiRegistryClient: spec blob at " ++ pointer ++ js " is not valid JSON."
  | .notHashable =>
      js "The \"data\" argument must be of type string or an instance of Buffer."
  | .hashMismatch contractId version expected actual =>
      js "OnChainAbiRegistryClient: spec_hash mismatch for " ++ contractId ++ js "@" ++ version ++
        js " - expected " ++ expected ++ js ", got " ++ actual ++
          js ". The fetched blob does not match the on-chain hash and was not returned."
  | .invalid contractId version errors =>
      js "OnChainAbiRegistryClient: fetched spec for " ++ contractId ++ js "@" ++ version ++
        js " failed validation:\n" ++
          List.intercalate (js "\n") (errors.map (js "  - " ++ ·))

abbrev Program (Value : Type) :=
  Async Client Response Failure Value

/-! ## Caches -/

def cachedRecords (contractId : Address) : Program (Option (List SpecRecord)) := do
  let client ← Async.get
  Async.modify fun client =>
    { client with recordsCache := (client.recordsCache.get client.now contractId.text).2 }
  return (client.recordsCache.get client.now contractId.text).1

def storeRecords (contractId : Address) (records : List SpecRecord) : Program Unit :=
  Async.modify fun client =>
    { client with recordsCache := client.recordsCache.set client.now contractId.text records }

def cachedSpec (cacheKey : JsString) : Program (Option JsValue) := do
  let client ← Async.get
  Async.modify fun client =>
    { client with specCache := (client.specCache.get client.now cacheKey).2 }
  return (client.specCache.get client.now cacheKey).1

def storeSpec (cacheKey : JsString) (spec : JsValue) : Program Unit :=
  Async.modify fun client =>
    { client with specCache := client.specCache.set client.now cacheKey spec }

def clearCache (client : Client) : Client :=
  { client with recordsCache := client.recordsCache.clear, specCache := client.specCache.clear }

/-! ## Records -/

def truncationMarker : JsString :=
  js "__truncated_"

def keptVersions (page : List Bytes) : List JsString :=
  (page.map nativeText).filter fun version => !truncationMarker.isPrefixOf version

def listVersionsPaged (contractId : Address) (start limit : Nat) :
    Program (Option (List Bytes × Option Nat)) :=
  Async.call (Request.listVersionsPaged contractId start limit)

def simulateListVersions (contractId : Address) : Nat → Nat → Program (List JsString)
  | 0, _ => .done []
  | fuel + 1, cursor => do
      match ← listVersionsPaged contractId cursor 25 with
      | none => return []
      | some (page, none) => return keptVersions page
      | some (page, some nextCursor) => do
          let rest ← simulateListVersions contractId fuel nextCursor
          return keptVersions page ++ rest

def getVersion (contractId : Address) (version : JsString) :
    Program (Option RegistryContract.SpecRecord) :=
  Async.call (Request.getVersion contractId version)

def simulateGetVersion (contractId : Address) (version : JsString) :
    Program (Option SpecRecord) := do
  let native ← getVersion contractId version
  return native.map .ofNative

def simulateGetVersions (contractId : Address) : List JsString → Program (List SpecRecord)
  | [] => .done []
  | version :: versions => do
      let record ← simulateGetVersion contractId version
      let records ← simulateGetVersions contractId versions
      return record.toList ++ records

def maxPages : Nat :=
  2 ^ 32

def getRecords (contractId : Address) : Program (List SpecRecord) := do
  match ← cachedRecords contractId with
  | some cached => return cached
  | none => do
      let versions ← simulateListVersions contractId maxPages 0
      let resolved ← simulateGetVersions contractId versions
      storeRecords contractId resolved
      return resolved

/-! ## Specs -/

def transport (pointer : JsString) : Program HttpResponse :=
  Async.call (Request.transport pointer)

def blobText (config : Config) (record : SpecRecord) : Program JsString :=
  match config.offlineBlobs record.specHash with
  | some text => return text
  | none => do
      let response ← transport record.pointer
      if response.ok then return response.text
      else .fail (.fetch record.pointer response.status)

def specHash (config : Config) (spec : JsValue) : Option JsString :=
  (canonicalizeSpec spec).map fun text => toHex (config.sha256 (utf8 text))

def verifyBlob (config : Config) (contractId : Address) (record : SpecRecord) (text : JsString) :
    Except Failure JsValue :=
  match JsValue.parse text with
  | none => .error (.notJson record.pointer)
  | some parsed =>
      match specHash config parsed with
      | none => .error .notHashable
      | some actualHash =>
          if actualHash ≠ record.specHash then
            .error (.hashMismatch contractId.text record.version record.specHash actualHash)
          else if validateSpec parsed ≠ [] then
            .error (.invalid contractId.text record.version (validateSpec parsed))
          else .ok parsed

def cacheKey (contractId : Address) (record : SpecRecord) : JsString :=
  contractId.text ++ js "@" ++ record.version

def resolveRecord (config : Config) (contractId : Address) (record : SpecRecord) :
    Program (Option JsValue) := do
  match ← cachedSpec (cacheKey contractId record) with
  | some cached => return some cached
  | none => do
      let text ← blobText config record
      match verifyBlob config contractId record text with
      | .error failure => .fail failure
      | .ok spec => do
          storeSpec (cacheKey contractId record) spec
          return some spec

def getSpec (config : Config) (contractId : Address) : Program (Option JsValue) := do
  let records ← getRecords contractId
  match records.getLast? with
  | none => return none
  | some record => resolveRecord config contractId record

def laterBy (ledger : Nat) (candidate : Option SpecRecord) (record : SpecRecord) :
    Option SpecRecord :=
  if record.publishedAtLedger ≤ ledger ∧
      ∀ earlier ∈ candidate, earlier.publishedAtLedger < record.publishedAtLedger then some record
  else candidate

def getSpecAt (config : Config) (contractId : Address) (ledger : Nat) :
    Program (Option JsValue) := do
  let records ← getRecords contractId
  match records.foldl (laterBy ledger) none with
  | none => return none
  | some candidate => resolveRecord config contractId candidate

def getSpecByVersion (config : Config) (contractId : Address) (version : JsString) :
    Program (Option JsValue) := do
  match ← simulateGetVersion contractId version with
  | none => return none
  | some record => resolveRecord config contractId record

def respond (config : Config) (storage : RegistryContract.Storage)
    (transport : JsString → Except Failure HttpResponse) :
    (request : Request) → Except Failure (Response request)
  | .listVersionsPaged contractId start limit =>
      match RegistryContract.listVersionsPaged storage contractId config.publisher start limit with
      | none => .error (.simulation (js "\"list_versions_paged\" failed"))
      | some page => .ok (some page)
  | .getVersion contractId version =>
      .ok (RegistryContract.getVersion storage contractId config.publisher (utf8 version))
  | .transport pointer => transport pointer

def samplePublisher : Address where
  text := js "GAAZI4TCR3TY5OJHCTJC2A4QSY6CJWJH5IAJTGKIN2ER7LBNVKOCCWN7"
  base32 := by decide

def sampleContract : Address where
  text := js "CA3D5KRYM6CB7OWQ6TWYRR3Z4T7GNZLKERYNZGGA5SOAOPIFY6YQGAXE"
  base32 := by decide

end OnChainAbiRegistryClient

end Orbital.AbiRegistry
