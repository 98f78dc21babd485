import Orbital.AbiRegistry.CanonicalJson
import Orbital.AbiRegistry.OnChainAbiRegistryClient

/-! # `HostedAbiRegistryClient.ts`

The client asks a hosted service for a spec and compares some of the answers with what a
reader of the registry contract resolves. The comparison looks at the member `entries`.
-/

namespace Orbital.AbiRegistry

open Foundation

/-! ## Entries of a spec -/

def codePoints : JsString → List JsString
  | [] => []
  | [unit] => [[unit]]
  | high :: low :: rest =>
      if high.isHighSurrogate && low.isLowSurrogate then [high, low] :: codePoints rest
      else [high] :: codePoints (low :: rest)

def isNullish : JsValue → Bool
  | .leaf .undefined | .leaf .null => true
  | _ => false

/-- `value[key]`, where `key` is a method of arrays and of nothing else. -/
def property (key : JsString) : JsValue → Option JsValue
  | .leaf .undefined | .leaf .null => none
  | .leaf _ => some (.leaf .undefined)
  | .array _ => some (.leaf (.foreign .function))
  | .object members => some (get members key)

def spread : JsValue → Option (List JsValue)
  | .array items => some items
  | .leaf (.string text) => some ((codePoints text).map fun point => .leaf (.string point))
  | _ => none

mutual
/-- `String(value)` of a value that `JSON.parse` gives. A member that hides `toString` is not
a function. -/
def toText : JsValue → Option JsString
  | .leaf .undefined => some (js "undefined")
  | .leaf .null => some (js "null")
  | .leaf (.boolean true) => some (js "true")
  | .leaf (.boolean false) => some (js "false")
  | .leaf (.number value) => some value.text
  | .leaf (.string text) => some text
  | .leaf (.foreign _) => none
  | .array items => (itemTexts items).map (List.intercalate (js ","))
  | .object members =>
      if (members.lookup (js "toString")).isSome then none else some (js "[object Object]")

def itemTexts : List JsValue → Option (List JsString)
  | [] => some []
  | item :: rest => do
      let text ← if isNullish item then some [] else toText item
      let texts ← itemTexts rest
      return text :: texts
end

/-- `items.sort()`. One item is not compared with anything. -/
def sortByText (items : List JsValue) : Option (List JsValue) :=
  if items.length < 2 then some items
  else if items.all fun item => (toText item).isSome then
    some (items.insertionSort fun first second =>
      JsString.Le ((toText first).getD []) ((toText second).getD []))
  else none

namespace HostedAbiRegistryClient

/-- `spec.entries ?? []` -/
def entries (spec : JsValue) : Option JsValue :=
  (property (js "entries") spec).map fun value => if isNullish value then .array [] else value

def entriesText (spec : JsValue) : Option JsString := do
  let value ← entries spec
  let items ← spread value
  let sorted ← sortByText items
  JsValue.stringify (.array sorted)

structure Config where
  baseUrl : JsString
  sampleRate : JsNumber
  hasOnChainClient : Bool
  sha256 : Bytes → Bytes

def specHash (config : Config) (spec : JsValue) : Option JsString :=
  (entriesText spec).map fun text => toHex (config.sha256 (utf8 text))

/-! ## The client -/

structure Client where
  now : Nat
  cache : TtlLruCache JsValue

inductive Request
  | fetch (url : JsString)
  | random
  | chainSpec (contractId : JsString)

/-- A draw says whether `Math.random() * sampleRate < 1`. A spec that the reader does not
find is `null`. -/
abbrev Response : Request → Type
  | .fetch _ => OnChainAbiRegistryClient.HttpResponse
  | .random => Bool
  | .chainSpec _ => JsValue

inductive Failure
  | network
  | malformedUri
  | notListed
  | onChain (failure : OnChainAbiRegistryClient.Failure)
  deriving DecidableEq

abbrev Program (Value : Type) :=
  Async Client Response Failure Value

def null : JsValue :=
  .leaf .null

def isNull : JsValue → Bool
  | .leaf .null => true
  | _ => false

def cached (cacheKey : JsString) : Program (Option JsValue) := do
  let client ← Async.get
  Async.modify fun client => { client with cache := (client.cache.get client.now cacheKey).2 }
  return (client.cache.get client.now cacheKey).1

def store (cacheKey : JsString) (spec : JsValue) : Program Unit :=
  Async.modify fun client => { client with cache := client.cache.set client.now cacheKey spec }

/-- `sampleRate <= 0` -/
def notPositive : JsNumber → Bool
  | .nan => false
  | .infinite negative => negative
  | .finite negative magnitude => negative || magnitude == .zero

def fetch (url : JsString) : Program OnChainAbiRegistryClient.HttpResponse :=
  Async.call (Request.fetch url)

def random : Program Bool :=
  Async.call Request.random

def chainSpec (contractId : JsString) : Program JsValue :=
  Async.call (Request.chainSpec contractId)

def shouldSample (config : Config) : Program Bool :=
  if notPositive config.sampleRate || !config.hasOnChainClient then return false
  else random

def verifySampledHash (config : Config) (contractId : JsString) (hostedSpec : JsValue) :
    Program Bool := do
  match ← (chainSpec contractId).attempt with
  | .error _ => return true
  | .ok chainSpec =>
      if isNullish chainSpec then return true
      else
        match specHash config hostedSpec, specHash config chainSpec with
        | some hostedHash, some chainHash => return hostedHash = chainHash
        | _, _ => .fail .notListed

def fetchSpec (config : Config) (contractId url : JsString) : Program JsValue := do
  match ← (fetch url).attempt with
  | .error _ => return null
  | .ok response =>
      if response.status = 404 then return null
      else if 500 ≤ response.status ∧ response.status < 600 then return null
      else if !response.ok then return null
      else
        match JsValue.parse response.text with
        | none => return null
        | some spec => do
            if ← shouldSample config then
              if ← verifySampledHash config contractId spec then return spec
              else return null
            else return spec

/-- `A-Z a-z 0-9 - _ . ! ~ * ' ( )` -/
def isUnreserved (byte : UInt8) : Bool :=
  (0x41 ≤ byte.toNat && byte.toNat ≤ 0x5A) || (0x61 ≤ byte.toNat && byte.toNat ≤ 0x7A) ||
    (0x30 ≤ byte.toNat && byte.toNat ≤ 0x39) ||
      [0x2D, 0x5F, 0x2E, 0x21, 0x7E, 0x2A, 0x27, 0x28, 0x29].contains byte

/-- `0` to `9` and `A` to `F` -/
def upperHexUnit (digit : Nat) : CodeUnit :=
  if digit < 10 then UInt16.ofNat (0x30 + digit) else UInt16.ofNat (0x37 + digit)

/-- `encodeURIComponent(text)`, which throws for a lone surrogate. -/
def encodeUriComponent (text : JsString) : Option JsString :=
  if hasLoneSurrogate text then none
  else
    some ((utf8 text).flatMap fun byte =>
      if isUnreserved byte then [UInt16.ofNat byte.toNat]
      else [0x25, upperHexUnit (byte.toNat / 16), upperHexUnit (byte.toNat % 16)])

/-- `baseUrl.replace(/\/$/, "")` -/
def withoutSlash (baseUrl : JsString) : JsString :=
  if baseUrl.getLast? = some 0x2F then baseUrl.dropLast else baseUrl

inductive Lookup
  | getSpec
  | getSpecAt (ledger : Nat)
  deriving DecidableEq

namespace Lookup

def cacheKey (contractId : JsString) : Lookup → JsString
  | getSpec => contractId
  | getSpecAt ledger => contractId ++ js "@" ++ Digits.text (Digits.ofNat ledger)

def query : Lookup → JsString
  | getSpec => []
  | getSpecAt ledger => js "?ledger=" ++ Digits.text (Digits.ofNat ledger)

end Lookup

def url (config : Config) (contractId : JsString) (lookup : Lookup) : Option JsString :=
  (encodeUriComponent contractId).map fun encoded =>
    withoutSlash config.baseUrl ++ js "/v1/specs/" ++ encoded ++ lookup.query

/-- `getSpec` and `getSpecAt`, which differ in the key and the query. -/
def lookUp (config : Config) (contractId : JsString) (lookup : Lookup) : Program JsValue := do
  match ← cached (lookup.cacheKey contractId) with
  | some spec => return spec
  | none =>
      match url config contractId lookup with
      | none => .fail .malformedUri
      | some url => do
          let spec ← fetchSpec config contractId url
          if !isNull spec then store (lookup.cacheKey contractId) spec
          return spec

def getSpec (config : Config) (contractId : JsString) : Program JsValue :=
  lookUp config contractId .getSpec

def getSpecAt (config : Config) (contractId : JsString) (ledger : Nat) : Program JsValue :=
  lookUp config contractId (.getSpecAt ledger)

end HostedAbiRegistryClient

end Orbital.AbiRegistry
