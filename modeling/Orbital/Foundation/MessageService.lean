import Mathlib.Data.List.Basic
import Mathlib.Order.Lattice

/-! # Message services

A service keeps messages under numbers of its own. A message that is received stays, but
cannot be seen for a while; it goes when it is deleted. A message sent with a key that was
used not long ago is accepted and not kept.
-/

namespace Orbital.Foundation

structure Message (Body Time : Type) where
  number : Nat
  body : Body
  visibleAt : Time
  receives : Nat

structure ReceiptHandle where
  number : Nat
  receives : Nat
  deriving DecidableEq

def Message.handle {Body Time : Type} (message : Message Body Time) : ReceiptHandle where
  number := message.number
  receives := message.receives

/-- `keys` are the keys in use, each with the time at which it is free again. -/
structure MessageService (Body Key Time : Type) where
  messages : List (Message Body Time)
  sends : Nat
  keys : List (Key × Time)

namespace MessageService

variable {Body Key Time : Type}

def empty : MessageService Body Key Time where
  messages := []
  sends := 0
  keys := []

variable (service : MessageService Body Key Time)

def append (body : Body) (visibleAt : Time) : MessageService Body Key Time :=
  { service with
    messages := service.messages ++ [{ number := service.sends, body, visibleAt, receives := 0 }]
    sends := service.sends + 1 }

section Send

variable [DecidableEq Key] [LinearOrder Time]

def InUse (key : Key) (now : Time) : Prop :=
  ∃ used ∈ service.keys, used.1 = key ∧ now < used.2

instance (key : Key) (now : Time) : Decidable (service.InUse key now) :=
  inferInstanceAs (Decidable (∃ used ∈ service.keys, used.1 = key ∧ now < used.2))

/-- A key is given together with the time at which it is free again. -/
def send (body : Body) (key : Option (Key × Time)) (now visibleAt : Time) :
    MessageService Body Key Time :=
  match key with
  | none => service.append body visibleAt
  | some (key, freeAt) =>
      if service.InUse key now then service
      else { service.append body visibleAt with keys := (key, freeAt) :: service.keys }

end Send

def find? (number : Nat) : Option (Message Body Time) :=
  service.messages.find? fun message => message.number = number

def hide (visibleAt : Time) (numbers : List Nat) (message : Message Body Time) :
    Message Body Time :=
  if message.number ∈ numbers then
    { message with visibleAt, receives := message.receives + 1 }
  else message

def receive (numbers : List Nat) (visibleAt : Time) :
    List (Message Body Time) × MessageService Body Key Time :=
  let service := { service with messages := service.messages.map (hide visibleAt numbers) }
  (numbers.filterMap service.find?, service)

def delete (handle : ReceiptHandle) : MessageService Body Key Time :=
  { service with messages := service.messages.filter fun message =>
      message.number ≠ handle.number }

/-! ## What it holds -/

def Holds (number : Nat) (body : Body) : Prop :=
  ∃ message ∈ service.messages, message.number = number ∧ message.body = body

structure Numbered : Prop where
  lt : ∀ {number body}, service.Holds number body → number < service.sends
  unique : ∀ {number body other}, service.Holds number body → service.Holds number other →
    body = other

variable {service}

variable {number : Nat} {body : Body} {visibleAt : Time}

theorem not_holds_empty : ¬ (empty : MessageService Body Key Time).Holds number body := by
  rintro ⟨message, member, -⟩
  cases member

theorem holds_append {newBody : Body} :
    (service.append newBody visibleAt).Holds number body ↔
      service.Holds number body ∨ number = service.sends ∧ body = newBody := by
  rw [Holds, append]
  simp only [List.mem_append, List.mem_singleton]
  constructor
  · rintro ⟨message, old | rfl, sameNumber, sameBody⟩
    · exact .inl ⟨message, old, sameNumber, sameBody⟩
    · exact .inr ⟨sameNumber.symm, sameBody.symm⟩
  · rintro (⟨message, old, same⟩ | ⟨rfl, rfl⟩)
    · exact ⟨message, .inl old, same⟩
    · exact ⟨_, .inr rfl, rfl, rfl⟩

theorem send_cases [DecidableEq Key] [LinearOrder Time] (body : Body)
    (key : Option (Key × Time)) (now visibleAt : Time) :
    (service.send body key now visibleAt = service ∧
      ∃ used ∈ key, service.InUse used.1 now) ∨
    ((∀ used ∈ key, ¬ service.InUse used.1 now) ∧
      (service.send body key now visibleAt).messages =
        (service.append body visibleAt).messages ∧
      (service.send body key now visibleAt).sends = service.sends + 1) := by
  cases key with
  | none =>
      refine .inr ⟨?_, rfl, rfl⟩
      intro used none
      cases none
  | some key =>
      rcases key with ⟨key, freeAt⟩
      rw [send]
      by_cases inUse : service.InUse key now
      · rw [if_pos inUse]
        exact .inl ⟨rfl, _, rfl, inUse⟩
      · rw [if_neg inUse]
        refine .inr ⟨?_, rfl, rfl⟩
        intro used same
        cases same
        exact inUse

theorem holds_receive {numbers : List Nat} :
    (service.receive numbers visibleAt).2.Holds number body ↔ service.Holds number body := by
  have same : ∀ message : Message Body Time, (hide visibleAt numbers message).number =
      message.number ∧ (hide visibleAt numbers message).body = message.body := by
    intro message
    rw [hide]
    split <;> exact ⟨rfl, rfl⟩
  constructor
  · rintro ⟨message, member, rfl, rfl⟩
    rcases List.mem_map.mp member with ⟨old, inside, rfl⟩
    exact ⟨old, inside, (same old).1.symm, (same old).2.symm⟩
  · rintro ⟨message, member, rfl, rfl⟩
    exact ⟨_, List.mem_map.mpr ⟨message, member, rfl⟩, (same message).1, (same message).2⟩

theorem holds_delete {handle : ReceiptHandle} :
    (service.delete handle).Holds number body ↔
      service.Holds number body ∧ number ≠ handle.number := by
  rw [Holds, delete]
  simp only [List.mem_filter, decide_eq_true_eq]
  constructor
  · rintro ⟨message, ⟨member, different⟩, rfl, rfl⟩
    exact ⟨⟨message, member, rfl, rfl⟩, different⟩
  · rintro ⟨⟨message, member, rfl, rfl⟩, different⟩
    exact ⟨message, ⟨member, different⟩, rfl, rfl⟩

theorem holds_of_received {numbers : List Nat} {message : Message Body Time}
    (received : message ∈ (service.receive numbers visibleAt).1) :
    service.Holds message.number message.body := by
  rcases List.mem_filterMap.mp received with ⟨number, -, found⟩
  exact holds_receive.mp ⟨message, List.mem_of_find?_eq_some found, rfl, rfl⟩

theorem receive_one (visibleAt : Time) (holds : service.Holds number body) :
    ∃ message, (service.receive [number] visibleAt).1 = [message] ∧
      message.number = number := by
  have kept : (service.receive [number] visibleAt).2.Holds number body := holds_receive.mpr holds
  rcases kept with ⟨message, member, same, -⟩
  have present : ((service.receive [number] visibleAt).2.find? number).isSome :=
    List.find?_isSome.mpr ⟨message, member, decide_eq_true same⟩
  rcases Option.isSome_iff_exists.mp present with ⟨found, isFound⟩
  have handed : (service.receive [number] visibleAt).1 =
      [number].filterMap (service.receive [number] visibleAt).2.find? := rfl
  rw [handed, List.filterMap_cons, isFound, List.filterMap_nil]
  rw [find?] at isFound
  have named := List.find?_some isFound
  exact ⟨found, rfl, of_decide_eq_true named⟩

theorem delete_receive (service : MessageService Body Key Time) (handle : ReceiptHandle)
    (visibleAt : Time) :
    ((service.receive [handle.number] visibleAt).2.delete handle).messages =
      (service.delete handle).messages := by
  have others : ∀ messages : List (Message Body Time),
      (messages.map (hide visibleAt [handle.number])).filter
          (fun message => message.number ≠ handle.number) =
        messages.filter fun message => message.number ≠ handle.number := by
    intro messages
    induction messages with
    | nil => rfl
    | cons message rest induction =>
        rw [List.map_cons, List.filter_cons, List.filter_cons, induction, hide]
        by_cases same : message.number = handle.number
        · simp [same]
        · simp [same]
  exact others service.messages

namespace Numbered

theorem empty : (MessageService.empty : MessageService Body Key Time).Numbered where
  lt := fun holds => absurd holds not_holds_empty
  unique := fun holds => absurd holds not_holds_empty

theorem of_subset {next : MessageService Body Key Time} (numbered : service.Numbered)
    (sends : next.sends = service.sends)
    (subset : ∀ {number body}, next.Holds number body → service.Holds number body) :
    next.Numbered where
  lt := fun holds => sends.symm ▸ numbered.lt (subset holds)
  unique := fun holds other => numbered.unique (subset holds) (subset other)

theorem append (numbered : service.Numbered) (body : Body) (visibleAt : Time) :
    (service.append body visibleAt).Numbered where
  lt := by
    intro number held holds
    rcases holds_append.mp holds with old | ⟨rfl, -⟩
    · exact Nat.lt_succ_of_lt (numbered.lt old)
    · exact Nat.lt_succ_self _
  unique := by
    intro number held other holds otherHolds
    rcases holds_append.mp holds with old | ⟨same, rfl⟩
    · rcases holds_append.mp otherHolds with otherOld | ⟨same, -⟩
      · exact numbered.unique old otherOld
      · exact absurd (numbered.lt old) (same ▸ Nat.lt_irrefl _)
    · rcases holds_append.mp otherHolds with otherOld | ⟨-, rfl⟩
      · exact absurd (numbered.lt otherOld) (same ▸ Nat.lt_irrefl _)
      · rfl

theorem receive (numbered : service.Numbered) (numbers : List Nat) (visibleAt : Time) :
    (service.receive numbers visibleAt).2.Numbered :=
  numbered.of_subset rfl holds_receive.mp

theorem delete (numbered : service.Numbered) (handle : ReceiptHandle) :
    (service.delete handle).Numbered :=
  numbered.of_subset rfl fun holds => (holds_delete.mp holds).1

end Numbered

end MessageService

end Orbital.Foundation
