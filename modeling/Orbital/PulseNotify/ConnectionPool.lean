import Orbital.AbiRegistry.HostedAbiRegistryClient
import Orbital.Foundation.Machine

/-! # `connectionPool.ts`

One event source for each key, shared by the subscribers of the key. What a caller gets
back holds on to the entry it subscribed to, while the pool finds entries by their keys.
The entries ever made stay in a list; a reference is a position in it.
-/

namespace Orbital.PulseNotify.ConnectionPool

open Foundation
open AbiRegistry.HostedAbiRegistryClient (encodeUriComponent)

/-! ## Keys and URLs -/

structure ConnectionKey where
  serverUrl : JsString
  address : JsString
  token : Option JsString
  withCredentials : Option Bool

structure ContractKey where
  serverUrl : JsString
  contractId : JsString
  topics : Option (List JsString)
  token : Option JsString
  withCredentials : Option Bool

/-- `JSON.stringify` of the texts and of the flag behind them. -/
def keyText (texts : List JsString) (flag : Bool) : JsString :=
  JsonSyntax.print (.array ((texts.map fun text => .leaf (.string text)) ++ [.leaf (.boolean flag)]))

def getConnectionKey (key : ConnectionKey) : JsString :=
  keyText [key.serverUrl, key.address, key.token.getD []] (key.withCredentials.getD false)

def joined (topics : List JsString) : JsString :=
  [0x2C].intercalate topics

def sortedTopics (key : ContractKey) : JsString :=
  match key.topics with
  | none => []
  | some topics => joined (JsString.sort topics)

def getContractKey (key : ContractKey) : JsString :=
  keyText [key.serverUrl, key.contractId, sortedTopics key, key.token.getD []]
    (key.withCredentials.getD false)

/-- `name=${encodeURIComponent(value)}`, which may throw. -/
def parameter (name value : JsString) : Option JsString :=
  (encodeUriComponent value).map fun encoded => name ++ js "=" ++ encoded

/-- The parameter of a token, which is left out when it is empty. -/
def tokenParameters : Option JsString → Option (List JsString)
  | none | some [] => some []
  | some token => (parameter (js "token") token).map ([·])

def topicsParameters : Option (List JsString) → Option (List JsString)
  | none | some [] => some []
  | some topics => (parameter (js "topics") (joined topics)).map ([·])

def withQuery (base : JsString) (query : List JsString) : JsString :=
  if query = [] then base else base ++ js "?" ++ (js "&").intercalate query

def getEventSourceUrl (key : ConnectionKey) : Option JsString := do
  let query ← tokenParameters key.token
  return withQuery (key.serverUrl ++ js "/events/" ++ key.address) query

def getContractEventSourceUrl (key : ContractKey) : Option JsString := do
  let topics ← topicsParameters key.topics
  let token ← tokenParameters key.token
  return withQuery (key.serverUrl ++ js "/contract_events/" ++ key.contractId) (topics ++ token)

/-! ## Entries and handles -/

structure EventSource where
  url : JsString
  withCredentials : Bool
  isOpen : Bool

variable {Subscriber : Type}

structure ConnectionEntry (Subscriber : Type) where
  poolKey : JsString
  source : EventSource
  subscribers : List Subscriber
  connected : Bool

abbrev EntryRef := Nat

structure Connection (Subscriber : Type) where
  entry : EntryRef
  poolKey : JsString
  subscriber : Subscriber

structure Pool (Subscriber : Type) where
  entries : List (ConnectionEntry Subscriber)
  keyed : InsertionMap JsString EntryRef

section Subscribers

variable [DecidableEq Subscriber]

namespace ConnectionEntry

def add (entry : ConnectionEntry Subscriber) (subscriber : Subscriber) :
    ConnectionEntry Subscriber :=
  if subscriber ∈ entry.subscribers then entry
  else { entry with subscribers := entry.subscribers ++ [subscriber] }

def delete (entry : ConnectionEntry Subscriber) (subscriber : Subscriber) :
    ConnectionEntry Subscriber :=
  { entry with subscribers := entry.subscribers.filter (· ≠ subscriber) }

end ConnectionEntry

/-- `source.close()` -/
def ConnectionEntry.close (entry : ConnectionEntry Subscriber) : ConnectionEntry Subscriber :=
  { entry with source := { entry.source with isOpen := false } }

namespace Pool

/-- The part of `acquireSseConnection` that finds or makes the entry. No URL stands for a URL
that could not be built, or that `new EventSource` throws for. -/
def findOrOpen (pool : Pool Subscriber) (poolKey : JsString) (url : Option JsString)
    (withCredentials : Bool) : Option (EntryRef × Pool Subscriber) :=
  match pool.keyed.get? poolKey with
  | some entry => some (entry, pool)
  | none =>
      url.map fun url =>
        (pool.entries.length, {
          entries := pool.entries ++ [{
            poolKey
            source := { url, withCredentials, isOpen := true }
            subscribers := []
            connected := false }]
          keyed := pool.keyed.set poolKey pool.entries.length })

def acquireSseConnection (pool : Pool Subscriber) (poolKey : JsString) (url : Option JsString)
    (withCredentials : Option Bool) (subscriber : Subscriber) :
    Option (Connection Subscriber × Pool Subscriber) :=
  (pool.findOrOpen poolKey url (withCredentials.getD false)).map fun (entry, pool) =>
    (⟨entry, poolKey, subscriber⟩,
      { pool with entries := pool.entries.modify entry (·.add subscriber) })

/-- `unsubscribe()` of a handle. -/
def unsubscribe (pool : Pool Subscriber) (connection : Connection Subscriber) : Pool Subscriber :=
  let entries := pool.entries.modify connection.entry (·.delete connection.subscriber)
  if (entries[connection.entry]?.map ConnectionEntry.subscribers) = some [] then
    { entries := entries.modify connection.entry ConnectionEntry.close
      keyed := pool.keyed.delete connection.poolKey }
  else { pool with entries }

end Pool

end Subscribers

/-! ## Callers -/

inductive SourceEvent
  | opened
  | failed
  | authExpired

/-- A handle is named by its place among the handles that were given out. -/
inductive Call (Subscriber : Type)
  | acquireEventConnection (key : ConnectionKey) (subscriber : Subscriber)
  | acquireContractEventConnection (key : ContractKey) (subscriber : Subscriber)
  | unsubscribe (handle : Nat)
  | source (entry : EntryRef) (event : SourceEvent)

/-- The pool, the handles that were given out, and those that were unsubscribed. -/
structure Callers (Subscriber : Type) where
  pool : Pool Subscriber
  connections : List (Connection Subscriber)
  released : List Nat

namespace Callers

def initial : Callers Subscriber where
  pool := { entries := [], keyed := .empty }
  connections := []
  released := []

def acquired (callers : Callers Subscriber) :
    Option (Connection Subscriber × Pool Subscriber) → Option Nat × Callers Subscriber
  | none => (none, callers)
  | some (connection, pool) =>
      (some callers.connections.length,
        { callers with pool, connections := callers.connections ++ [connection] })

/-- `onopen`, `onerror` and the message of an expired token. -/
def connectedAfter : SourceEvent → Bool
  | .opened => true
  | .failed | .authExpired => false

variable [DecidableEq Subscriber]

/-- `opens` tells for which URLs `new EventSource` does not throw. -/
def step (opens : JsString → Bool) (callers : Callers Subscriber) :
    Call Subscriber → Option Nat × Callers Subscriber
  | .acquireEventConnection key subscriber =>
      callers.acquired (callers.pool.acquireSseConnection (getConnectionKey key)
        ((getEventSourceUrl key).filter opens) key.withCredentials subscriber)
  | .acquireContractEventConnection key subscriber =>
      callers.acquired (callers.pool.acquireSseConnection (getContractKey key)
        ((getContractEventSourceUrl key).filter opens) key.withCredentials subscriber)
  | .unsubscribe handle =>
      match callers.connections[handle]? with
      | none => (none, callers)
      | some connection =>
          (none, { callers with
            pool := callers.pool.unsubscribe connection
            released := handle :: callers.released })
  | .source entry event =>
      (none, { callers with
        pool := { callers.pool with
          entries := callers.pool.entries.modify entry fun state =>
            { state with connected := connectedAfter event } } })

def machine (opens : JsString → Bool) :
    Machine (Callers Subscriber) (Call Subscriber) (Option Nat) where
  step := step opens

end Callers

end Orbital.PulseNotify.ConnectionPool
