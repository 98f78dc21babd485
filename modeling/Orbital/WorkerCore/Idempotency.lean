import Orbital.Foundation.Async
import Orbital.Foundation.InsertionMap
import Orbital.WorkerCore.EventTrigger

/-! # `worker-core/src/idempotency.ts`

Claims of fire keys that expire, and the manager that claims a key before it submits. The
clock counts milliseconds.
-/

namespace Orbital.WorkerCore.Idempotency

open Foundation

structure FireKey where
  workerId : JsString
  windowStartLedger : Int
  deriving DecidableEq

def ledgerText (ledger : Int) : JsString :=
  (EventTrigger.LedgerField.finite ledger).text

def fireKeyToString (key : FireKey) : JsString :=
  key.workerId ++ js ":" ++ ledgerText key.windowStartLedger

structure ClaimRecord where
  owner : JsString
  expiresAt : Int
  deriving DecidableEq

/-! ## Texts of ledgers -/

theorem text_ne_minus (number : Nat) (rest : JsString) :
    Digits.text (Digits.ofNat number) ≠ js "-" ++ rest := by
  rcases Digits.ofNat_eq_cons number with ⟨digit, others, digits, _⟩
  rw [digits]
  intro same
  have isMinus : Digits.unit digit = 0x2D := (List.cons.inj same).1
  have isDigit := Digits.digit?_unit digit
  rw [isMinus] at isDigit
  cases isDigit

theorem natAbs_of_text {first second : Int}
    (same : Digits.text (Digits.ofNat first.natAbs) = Digits.text (Digits.ofNat second.natAbs)) :
    first.natAbs = second.natAbs :=
  Digits.text_ofNat_inj same

theorem ledgerText_injective {first second : Int}
    (same : ledgerText first = ledgerText second) : first = second := by
  rw [ledgerText, ledgerText, EventTrigger.LedgerField.text,
    EventTrigger.LedgerField.text] at same
  by_cases negative : first < 0
  · by_cases negativeToo : second < 0
    · rw [if_pos negative, if_pos negativeToo] at same
      have numbers := natAbs_of_text (List.append_cancel_left same)
      omega
    · rw [if_pos negative, if_neg negativeToo] at same
      exact absurd same.symm (text_ne_minus _ _)
  · by_cases negativeToo : second < 0
    · rw [if_neg negative, if_pos negativeToo] at same
      exact absurd same (text_ne_minus _ _)
    · rw [if_neg negative, if_neg negativeToo] at same
      have numbers := natAbs_of_text (List.append_cancel_left same)
      omega

/-! ## The claim store -/

structure InMemoryClaimStore where
  map : InsertionMap JsString ClaimRecord

namespace InMemoryClaimStore

def empty : InMemoryClaimStore where
  map := .empty

def put (store : InMemoryClaimStore) (key : JsString) (record : ClaimRecord) :
    InMemoryClaimStore where
  map := store.map.set key record

def claim (store : InMemoryClaimStore) (now : Int) (key owner : JsString) (ttlMs : Nat) :
    Bool × InMemoryClaimStore :=
  match store.map.get? key with
  | some existing =>
      if existing.expiresAt ≤ now then (true, store.put key ⟨owner, now + ttlMs⟩)
      else (false, store)
  | none => (true, store.put key ⟨owner, now + ttlMs⟩)

def get (store : InMemoryClaimStore) (now : Int) (key : JsString) : Option ClaimRecord :=
  match store.map.get? key with
  | some record => if record.expiresAt ≤ now then none else some record
  | none => none

def release (store : InMemoryClaimStore) (key : JsString) (owner : Option JsString) :
    InMemoryClaimStore :=
  match store.map.get? key with
  | some existing =>
      if owner = none ∨ owner = some existing.owner then ⟨store.map.delete key⟩ else store
  | none => store

variable {store : InMemoryClaimStore} {now : Int} {key other owner : JsString} {ttlMs : Nat}

@[simp] theorem get?_put (record : ClaimRecord) :
    (store.put key record).map.get? other =
      if other = key then some record else store.map.get? other :=
  InsertionMap.get?_set store.map key other record

theorem claim_eq :
    store.claim now key owner ttlMs =
      if (store.get now key).isSome then (false, store)
      else (true, store.put key ⟨owner, now + ttlMs⟩) := by
  rw [claim, get]
  cases store.map.get? key with
  | none => rfl
  | some existing =>
      by_cases expired : existing.expiresAt ≤ now
      · simp [expired]
      · simp [expired]

theorem get?_release (by' : Option JsString) :
    (store.release key by').map.get? other =
      if other = key ∧ ∀ existing ∈ store.map.get? key, by' = none ∨ by' = some existing.owner then
        none
      else store.map.get? other := by
  rw [release]
  cases found : store.map.get? key with
  | none =>
      by_cases same : other = key
      · rw [if_pos ⟨same, by simp⟩, same, found]
      · rw [if_neg fun both => same both.1]
  | some existing =>
      dsimp only
      by_cases owned : by' = none ∨ by' = some existing.owner
      · rw [if_pos owned, InsertionMap.get?_delete]
        simp [owned]
      · rw [if_neg owned, if_neg]
        rintro ⟨_, all⟩
        exact owned (all existing rfl)

end InMemoryClaimStore

/-! ## The manager -/

variable {State Request : Type} {Response : Request → Type} {Failure : Type}

structure ClaimStore (State : Type) {Request : Type} (Response : Request → Type)
    (Failure : Type) where
  claim : JsString → JsString → Nat → Async State Response Failure Bool
  release : JsString → Option JsString → Async State Response Failure Unit

structure IdempotencyManager (State : Type) {Request : Type} (Response : Request → Type)
    (Failure : Type) where
  store : ClaimStore State Response Failure
  chainCheck : Int → Async State Response Failure Bool
  claimTtlMs : Nat
  /-- The constructor throws for any other duration. -/
  positive : 0 < claimTtlMs

def IdempotencyManager.claimThenSubmit (manager : IdempotencyManager State Response Failure)
    (key : FireKey) (ownerId : JsString) (submitFn : Async State Response Failure Unit) :
    Async State Response Failure Bool := do
  let ks := fireKeyToString key
  let claimed ← manager.store.claim ks ownerId manager.claimTtlMs
  if claimed then
    let executed ← manager.chainCheck key.windowStartLedger
    if executed then
      manager.store.release ks (some ownerId)
      return false
    else
      submitFn
      return true
  else return false

end Orbital.WorkerCore.Idempotency

/-! ## The keys of claims

The planner names a window by the worker and the identity of an event, the manager by the
worker and a ledger. Both join them with a colon, which the ids may hold themselves, and
claim the result in one store.
-/

namespace Orbital.WorkerCore.Fires

open Foundation
open EventTrigger (EventTriggerPlanner)
open Idempotency

variable {Payload : Type}

/-- The window of a fire, among those of its worker. -/
inductive FireWindow
  | event (identity : JsString)
  | ledger (windowStartLedger : Int)
  deriving DecidableEq

def FireWindow.text : FireWindow → JsString
  | .event identity => identity
  | .ledger windowStartLedger => ledgerText windowStartLedger

/-- A decision of a planner, about an entry of a batch, or a scheduled fire. -/
inductive Fire (Payload : Type)
  | planned (planner : EventTriggerPlanner Payload) (entry : JsString × Int)
  | scheduled (key : FireKey)

namespace Fire

def workerId : Fire Payload → JsString
  | .planned planner _ => planner.definition.workerId
  | .scheduled key => key.workerId

def window : Fire Payload → FireWindow
  | .planned _ entry => .event entry.1
  | .scheduled key => .ledger key.windowStartLedger

def claimKey : Fire Payload → JsString
  | .planned planner entry => (planner.decision entry).windowId
  | .scheduled key => fireKeyToString key

def Same (first second : Fire Payload) : Prop :=
  first.workerId = second.workerId ∧ first.window = second.window

/-- A claim of the first fire, as long as it stands, lets a claim of the second one fail that
nobody else stands in the way of. -/
def Blocks (first second : Fire Payload) : Prop :=
  ∃ (store : InMemoryClaimStore) (now later : Int) (owner other : JsString)
    (ttlMs otherTtlMs : Nat),
    store.get later second.claimKey = none ∧
    (store.claim now first.claimKey owner ttlMs).1 = true ∧
    ((store.claim now first.claimKey owner ttlMs).2.claim later second.claimKey other
      otherTtlMs).1 = false

/-- The identity of an event is the number of a ledger at which the worker has a scheduled
fire. -/
def ReadsAsLedger (first second : Fire Payload) : Prop :=
  first.workerId = second.workerId ∧ ∃ windowStartLedger,
    first.window = .event (ledgerText windowStartLedger) ∧
      second.window = .ledger windowStartLedger

/-- The second worker's id continues the first one's behind a colon, and the identity of the
first one's event tells the rest of the id and the second window. -/
def ReadsOn (first second : Fire Payload) : Prop :=
  ∃ rest, second.workerId = first.workerId ++ js ":" ++ rest ∧
    first.window = .event (rest ++ js ":" ++ second.window.text)

def Clash (first second : Fire Payload) : Prop :=
  ReadsAsLedger first second ∨ ReadsAsLedger second first ∨
    ReadsOn first second ∨ ReadsOn second first

theorem claimKey_eq (fire : Fire Payload) :
    fire.claimKey = fire.workerId ++ js ":" ++ fire.window.text := by
  cases fire with
  | planned planner entry | scheduled key => rfl

theorem joined_eq_iff (front frontToo back backToo : JsString) :
    front ++ js ":" ++ back = frontToo ++ js ":" ++ backToo ↔
      (front = frontToo ∧ back = backToo) ∨
      (∃ rest, frontToo = front ++ js ":" ++ rest ∧ back = rest ++ js ":" ++ backToo) ∨
      ∃ rest, front = frontToo ++ js ":" ++ rest ∧ backToo = rest ++ js ":" ++ back := by
  constructor
  · intro same
    rw [List.append_assoc, List.append_assoc, List.append_eq_append_iff] at same
    rcases same with ⟨between, continues, tail⟩ | ⟨between, continues, tail⟩
    · cases between with
      | nil =>
          rw [List.append_nil] at continues
          exact Or.inl ⟨continues.symm, (List.cons.inj tail).2⟩
      | cons unit rest =>
          rcases List.cons.inj tail with ⟨rfl, inBack⟩
          refine Or.inr (Or.inl ⟨rest, ?_, ?_⟩)
          · rw [continues, List.append_assoc]
            rfl
          · rw [List.append_assoc]
            exact inBack
    · cases between with
      | nil =>
          rw [List.append_nil] at continues
          exact Or.inl ⟨continues, (List.cons.inj tail).2.symm⟩
      | cons unit rest =>
          rcases List.cons.inj tail with ⟨rfl, inBack⟩
          refine Or.inr (Or.inr ⟨rest, ?_, ?_⟩)
          · rw [continues, List.append_assoc]
            rfl
          · rw [List.append_assoc]
            exact inBack
  · rintro (⟨rfl, rfl⟩ | ⟨rest, rfl, rfl⟩ | ⟨rest, rfl, rfl⟩)
    · rfl
    · simp only [List.append_assoc]
    · simp only [List.append_assoc]

theorem colon_not_mem_ledgerText (windowStartLedger : Int) :
    (0x3A : CodeUnit) ∉ ledgerText windowStartLedger := by
  have noDigit := Digits.not_mem_text (by decide : Digits.digit? 0x3A = none)
    (Digits.ofNat windowStartLedger.natAbs)
  rw [ledgerText, EventTrigger.LedgerField.text]
  intro member
  rcases List.mem_append.mp member with inSign | inDigits
  · split at inSign
    · revert inSign
      decide
    · cases inSign
  · exact noDigit inDigits

theorem event_of_colon {window : FireWindow} {rest back : JsString}
    (text : window.text = rest ++ js ":" ++ back) : window = .event (rest ++ js ":" ++ back) := by
  cases window with
  | event identity => exact congrArg FireWindow.event text
  | ledger windowStartLedger =>
      have inside : (0x3A : CodeUnit) ∈ rest ++ js ":" ++ back :=
        List.mem_append_left _ (List.mem_append_right _ List.mem_cons_self)
      rw [← text] at inside
      exact absurd inside (colon_not_mem_ledgerText windowStartLedger)

variable {first second : Fire Payload}

theorem claimKey_eq_iff :
    first.claimKey = second.claimKey ↔ Same first second ∨ Clash first second := by
  rw [claimKey_eq, claimKey_eq, joined_eq_iff, Clash, ReadsOn, ReadsOn, Same]
  constructor
  · rintro (⟨worker, texts⟩ | ⟨rest, worker, texts⟩ | ⟨rest, worker, texts⟩)
    · cases window : first.window with
      | event identity =>
          cases windowToo : second.window with
          | event other =>
              rw [window, windowToo] at texts
              exact Or.inl ⟨worker, congrArg FireWindow.event texts⟩
          | ledger windowStartLedger =>
              rw [window, windowToo] at texts
              exact Or.inr (Or.inl ⟨worker, _, window.trans (congrArg FireWindow.event texts),
                windowToo⟩)
      | ledger windowStartLedger =>
          cases windowToo : second.window with
          | event other =>
              rw [window, windowToo] at texts
              exact Or.inr (Or.inr (Or.inl ⟨worker.symm, _,
                windowToo.trans (congrArg FireWindow.event texts.symm), window⟩))
          | ledger other =>
              rw [window, windowToo] at texts
              exact Or.inl ⟨worker, congrArg FireWindow.ledger (ledgerText_injective texts)⟩
    · exact Or.inr (Or.inr (Or.inr (Or.inl ⟨rest, worker, event_of_colon texts⟩)))
    · exact Or.inr (Or.inr (Or.inr (Or.inr ⟨rest, worker, event_of_colon texts⟩)))
  · rintro (⟨worker, window⟩ | ⟨worker, ledger, isEvent, isLedger⟩ |
      ⟨worker, ledger, isEvent, isLedger⟩ | ⟨rest, worker, isEvent⟩ | ⟨rest, worker, isEvent⟩)
    · exact Or.inl ⟨worker, congrArg FireWindow.text window⟩
    · rw [isEvent, isLedger]
      exact Or.inl ⟨worker, rfl⟩
    · rw [isEvent, isLedger]
      exact Or.inl ⟨worker.symm, rfl⟩
    · rw [isEvent]
      exact Or.inr (Or.inl ⟨rest, worker, rfl⟩)
    · rw [isEvent]
      exact Or.inr (Or.inr ⟨rest, worker, rfl⟩)

theorem blocks_iff : Blocks first second ↔ first.claimKey = second.claimKey := by
  constructor
  · rintro ⟨store, now, later, owner, other, ttlMs, otherTtlMs, free, won, lost⟩
    by_contra different
    rw [InMemoryClaimStore.claim_eq] at won lost
    have freeNow : (store.get now first.claimKey).isSome ≠ true := by
      intro held
      rw [if_pos held] at won
      cases won
    rw [InMemoryClaimStore.claim_eq, if_neg freeNow] at lost
    have stillFree : (store.put first.claimKey ⟨owner, now + ttlMs⟩).get later second.claimKey =
        none := by
      rw [InMemoryClaimStore.get, InMemoryClaimStore.get?_put, if_neg (Ne.symm different)]
      exact free
    rw [stillFree] at lost
    cases lost
  · intro same
    refine ⟨.empty, 0, 0, [], [], 1, 1, rfl, rfl, ?_⟩
    rw [same, InMemoryClaimStore.claim_eq]
    have held : ((InMemoryClaimStore.empty.claim 0 second.claimKey [] 1).2.get 0
        second.claimKey).isSome = true := by
      have won : InMemoryClaimStore.empty.claim 0 second.claimKey [] 1 =
        (true, InMemoryClaimStore.empty.put second.claimKey ⟨[], 1⟩) := rfl
      rw [won, InMemoryClaimStore.get, InMemoryClaimStore.get?_put, if_pos rfl]
      rfl
    rw [if_pos held]

theorem ne_append_colon (workerId rest : JsString) : workerId ≠ workerId ++ js ":" ++ rest := by
  intro same
  have lengths := congrArg List.length same
  rw [List.length_append, List.length_append] at lengths
  have colon : (js ":").length = 1 := rfl
  omega

theorem ne_of_readsAsLedger (reads : ReadsAsLedger first second) :
    first.window ≠ second.window := by
  rcases reads with ⟨_, ledger, isEvent, isLedger⟩
  rw [isEvent, isLedger]
  intro never
  cases never

theorem not_same_of_clash (clash : Clash first second) : ¬ Same first second := by
  rintro ⟨worker, window⟩
  rcases clash with reads | reads | ⟨rest, continues, _⟩ | ⟨rest, continues, _⟩
  · exact ne_of_readsAsLedger reads window
  · exact ne_of_readsAsLedger reads window.symm
  · exact ne_append_colon _ _ (worker.trans continues)
  · exact ne_append_colon _ _ (worker.symm.trans continues)

/-- The keys tell the fires apart, and no claim of one stands in the way of the other, exactly
when the fires do not clash. -/
theorem apart_iff (first second : Fire Payload) :
    ((first.claimKey = second.claimKey → Same first second) ∧
      (¬ Same first second → ¬ Blocks first second)) ↔ ¬ Clash first second := by
  rw [blocks_iff, claimKey_eq_iff]
  constructor
  · rintro ⟨same, -⟩ clash
    exact not_same_of_clash clash (same (Or.inr clash))
  · intro noClash
    constructor
    · exact fun equal => equal.resolve_right noClash
    · exact fun different equal => different (equal.resolve_right noClash)

/-- An event `x:5` of the worker `w`, and the worker `w:x` at ledger 5. -/
theorem joined_twice :
    ¬ ∀ first second : Fire Unit, (first.claimKey = second.claimKey → Same first second) ∧
      (¬ Same first second → ¬ Blocks first second) := by
  intro apart
  have same := (apart (.planned EventTriggerPlanner.exampleTrigger (js "x:5", 5))
    (.scheduled ⟨js "w:x", 5⟩)).1 (by decide)
  have workers := same.1
  revert workers
  decide

end Fire

end Orbital.WorkerCore.Fires
