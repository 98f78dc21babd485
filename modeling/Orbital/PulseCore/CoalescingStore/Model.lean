import Mathlib.Logic.Function.Basic
import Orbital.Foundation.InsertionMap
import Orbital.Foundation.PromiseChain
import Orbital.Foundation.Trace
import Orbital.Foundation.WriteLog

/-! # The write-coalescing cursor store

`CoalescingStore` of `coalesceCursorStore.ts`. Its methods run to their next
`await` without interruption, so one step of the model is one such piece: a
call, a callback chained on `flushInProgress`, or something the inner store
does. The inner store may take any time over a `setMany`, and may write the
entries of one batch one by one and in any order.

`sets`, `landed` and `reads` are the history of the run; no branch of the code
reads them.
-/

namespace Orbital.PulseCore.CoalescingStore

open Orbital.Foundation

/-- A `get`, or one key of a `getMany`. -/
structure Read (Key Cursor : Type) where
  key : Key
  since : Nat
  /-- `none` until the inner store has answered. -/
  answer : Option (Option Cursor)
  /-- The read was issued while the last cursor set for its key was on its way
  to the inner store, and the inner store has not written it yet. -/
  window : Bool
  deriving DecidableEq

structure State (Key Cursor : Type) where
  buffer : InsertionMap Key Cursor
  timer : Bool
  /-- The chain behind `#flushInProgress`; a running link holds the entries its
  inner `setMany` has still to write. -/
  flushInProgress : PromiseChain (List (Key × Cursor))
  inner : Key → Option Cursor
  sets : List (Key × Cursor)
  landed : List (Key × Cursor)
  reads : List (Read Key Cursor)

namespace State

variable {Key Cursor : Type}

def inFlight (store : State Key Cursor) : List (Key × Cursor) :=
  (PromiseChain.works store.flushInProgress).flatten

def setLink (store : State Key Cursor) (index : Nat)
    (link : Link (List (Key × Cursor))) : State Key Cursor :=
  { store with flushInProgress := store.flushInProgress.set index link }

variable (store : State Key Cursor) (index : Nat) (link : Link (List (Key × Cursor)))

@[simp] theorem setLink_buffer : (store.setLink index link).buffer = store.buffer := rfl

@[simp] theorem setLink_inner : (store.setLink index link).inner = store.inner := rfl

@[simp] theorem setLink_sets : (store.setLink index link).sets = store.sets := rfl

@[simp] theorem setLink_landed : (store.setLink index link).landed = store.landed := rfl

@[simp] theorem setLink_reads : (store.setLink index link).reads = store.reads := rfl

variable [DecidableEq Key]

/-! ## The cursor store interface -/

def set (store : State Key Cursor) (streamKey : Key) (cursor : Cursor) : State Key Cursor :=
  { store with
    buffer := store.buffer.set streamKey cursor
    sets := store.sets ++ [(streamKey, cursor)] }

def setMany (store : State Key Cursor) (entries : List (Key × Cursor)) : State Key Cursor :=
  entries.foldl (fun current entry => current.set entry.1 entry.2) store

def bufferedRead (store : State Key Cursor) (key : Key) (cursor : Cursor) : Read Key Cursor :=
  { key, since := store.sets.length, answer := some (some cursor), window := false }

def innerRead (store : State Key Cursor) (key : Key) : Read Key Cursor :=
  { key
    since := store.sets.length
    answer := none
    window := decide (key ∈ store.inFlight.map Prod.fst) }

def get (store : State Key Cursor) (streamKey : Key) : State Key Cursor :=
  match store.buffer.get? streamKey with
  | some cursor =>
      { store with reads := store.reads ++ [store.bufferedRead streamKey cursor] }
  | none => { store with reads := store.reads ++ [store.innerRead streamKey] }

def getMany (store : State Key Cursor) (keys : List Key) : State Key Cursor :=
  let buffered := keys.filterMap fun key =>
    (store.buffer.get? key).map (store.bufferedRead key)
  let missedKeys := keys.filter fun key => !store.buffer.has key
  { store with reads := store.reads ++ buffered ++ missedKeys.map store.innerRead }

/-! ## Lifecycle methods -/

def flush (store : State Key Cursor) : State Key Cursor :=
  { store with flushInProgress := store.flushInProgress ++ [.waiting] }

def dispose (store : State Key Cursor) : State Key Cursor :=
  { store with timer := false }

/-! ## Private helpers -/

/-- `#doFlush` up to its `await`, as the callback of link `index`. -/
def doFlush (store : State Key Cursor) (index : Nat) : State Key Cursor :=
  if store.buffer.size = 0 then store.setLink index .fulfilled
  else
    let snapshot := store.buffer.entries
    { store.setLink index (.running snapshot) with buffer := .empty }

/-- What `#flushInProgress.then(() => this.#doFlush())` does once the promise
it was chained on is settled. -/
def react (store : State Key Cursor) (index : Nat) : Option (State Key Cursor) :=
  match store.flushInProgress[index]? with
  | some .waiting =>
      match PromiseChain.predecessor store.flushInProgress index with
      | .fulfilled => some (store.doFlush index)
      | .failed | .skipped => some (store.setLink index .skipped)
      | .waiting | .running _ => none
  | _ => none

/-! ## The inner store -/

def landEntry (store : State Key Cursor) (index : Nat) (batch : List (Key × Cursor))
    (key : Key) (cursor : Cursor) : State Key Cursor :=
  { store.setLink index (.running (batch.filter fun entry => entry.1 ≠ key)) with
    inner := Function.update store.inner key (some cursor)
    landed := store.landed ++ [(key, cursor)]
    reads := store.reads.map fun read =>
      if read.key = key then { read with window := false } else read }

/-- The inner store writes one entry of the batch link `index` handed to it. -/
def land (store : State Key Cursor) (index : Nat) (key : Key) : Option (State Key Cursor) :=
  match store.flushInProgress[index]? with
  | some (.running batch) =>
      (InsertionMap.getEntry key batch).map (store.landEntry index batch key)
  | _ => none

/-- The inner `setMany` of link `index` resolves; it has written everything. -/
def resolve (store : State Key Cursor) (index : Nat) : Option (State Key Cursor) :=
  match store.flushInProgress[index]? with
  | some (.running []) => some (store.setLink index .fulfilled)
  | _ => none

/-- The inner `setMany` of link `index` rejects; what it has not written by
then is never written. -/
def reject (store : State Key Cursor) (index : Nat) : Option (State Key Cursor) :=
  match store.flushInProgress[index]? with
  | some (.running _) => some (store.setLink index .failed)
  | _ => none

/-- The inner store answers the read at position `position`. -/
def answer (store : State Key Cursor) (position : Nat) : Option (State Key Cursor) :=
  match store.reads[position]? with
  | some { key, since, answer := none, window } =>
      some { store with
        reads := store.reads.set position
          { key, since, answer := some (store.inner key), window } }
  | _ => none

end State

inductive Event (Key Cursor : Type)
  | set (streamKey : Key) (cursor : Cursor)
  | setMany (entries : List (Key × Cursor))
  | get (streamKey : Key)
  | getMany (keys : List Key)
  | flush
  | tick
  | dispose
  | react (index : Nat)
  | land (index : Nat) (key : Key)
  | resolve (index : Nat)
  | reject (index : Nat)
  | answer (position : Nat)
  deriving DecidableEq

variable {Key Cursor : Type} [DecidableEq Key]

def step (store : State Key Cursor) : Event Key Cursor → Option (State Key Cursor)
  | .set streamKey cursor => some (store.set streamKey cursor)
  | .setMany entries => some (store.setMany entries)
  | .get streamKey => some (store.get streamKey)
  | .getMany keys => some (store.getMany keys)
  | .flush => some store.flush
  | .tick => if store.timer then some store.flush else none
  | .dispose => some store.dispose
  | .react index => store.react index
  | .land index key => store.land index key
  | .resolve index => store.resolve index
  | .reject index => store.reject index
  | .answer position => store.answer position

def initial (origin : Key → Option Cursor) : State Key Cursor where
  buffer := .empty
  timer := true
  flushInProgress := []
  inner := origin
  sets := []
  landed := []
  reads := []

abbrev Run (start : State Key Cursor) (events : List (Event Key Cursor))
    (final : State Key Cursor) : Prop :=
  Trace (Takes step) start events final

end Orbital.PulseCore.CoalescingStore
