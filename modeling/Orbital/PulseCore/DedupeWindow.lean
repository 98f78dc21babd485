import Mathlib.Data.List.Dedup
import Mathlib.Data.List.Induction
import Mathlib.Data.List.Perm.Subperm
import Orbital.Foundation.InsertionMap

/-! # The window of recently seen movements

`dedupe.ts`: a movement seen on one transport is suppressed when it comes in on
the other one. The window forgets its oldest keys.
-/

namespace Orbital.PulseCore

open Orbital.Foundation

inductive DedupeTransport
  | horizon
  | unified
  deriving DecidableEq

structure DedupeWindow where
  capacity : Nat
  positive : 1 ≤ capacity
  /-- Each key with the transports that have seen it. -/
  seen : InsertionMap String (List DedupeTransport)

namespace DedupeWindow

def initial : DedupeWindow where
  capacity := 1024
  positive := by decide
  seen := .empty

def evictOldest (window : DedupeWindow) : DedupeWindow :=
  match window.seen.keys.head? with
  | none => window
  | some oldest => { window with seen := window.seen.delete oldest }

def insert (window : DedupeWindow) (key : String) (transports : List DedupeTransport) :
    DedupeWindow :=
  { window with seen := window.seen.set key transports }

def record (window : DedupeWindow) (key : String) (transports : List DedupeTransport) :
    DedupeWindow :=
  if window.capacity < (window.insert key transports).seen.size then
    (window.insert key transports).evictOldest
  else window.insert key transports

def seenFrom (window : DedupeWindow) (key : String) (transport : DedupeTransport) :
    Bool × DedupeWindow :=
  match window.seen.get? key with
  | none => (false, window.record key [transport])
  | some transports =>
      if transports.contains transport then (false, window)
      else (true, window.insert key (transports ++ [transport]))

/-! ## A window that one transport writes -/

def SeenOn (window : DedupeWindow) (transport : DedupeTransport) : Prop :=
  ∀ key transports, window.seen.get? key = some transports → transport ∈ transports

theorem initial_seenOn (transport : DedupeTransport) : initial.SeenOn transport := by
  intro key transports found
  cases found

variable {window : DedupeWindow} {transport : DedupeTransport}

variable {transports : List DedupeTransport}

theorem SeenOn.insert (holds : window.SeenOn transport) (key : String)
    (member : transport ∈ transports) : (window.insert key transports).SeenOn transport := by
  intro other found isFound
  rw [DedupeWindow.insert, InsertionMap.get?_set] at isFound
  split at isFound
  · cases isFound
    exact member
  · exact holds other found isFound

theorem SeenOn.evictOldest (holds : window.SeenOn transport) :
    window.evictOldest.SeenOn transport := by
  rw [DedupeWindow.evictOldest]
  split
  · exact holds
  · intro other found isFound
    rw [InsertionMap.get?_delete] at isFound
    split at isFound
    · cases isFound
    · exact holds other found isFound

theorem SeenOn.record (holds : window.SeenOn transport) (key : String)
    (member : transport ∈ transports) : (window.record key transports).SeenOn transport := by
  rw [DedupeWindow.record]
  split
  · exact (holds.insert key member).evictOldest
  · exact holds.insert key member

theorem SeenOn.seenFrom (holds : window.SeenOn transport) (key : String) :
    (window.seenFrom key transport).1 = false ∧
      (window.seenFrom key transport).2.SeenOn transport := by
  unfold DedupeWindow.seenFrom
  split
  · exact ⟨rfl, holds.record key (List.mem_singleton.mpr rfl)⟩
  · rename_i transports found
    have contained : transports.contains transport = true := by
      simpa using holds key transports found
    rw [if_pos contained]
    exact ⟨rfl, holds⟩

end DedupeWindow

end Orbital.PulseCore

/-! ## What the window suppresses

The calls of `seenFrom` on one window, counted for each key. Of the observations
of a key that was seen on both transports exactly one is suppressed, as long as
the window has room for all keys. A key seen on one transport is never
suppressed, whatever was evicted.
-/

namespace Orbital.PulseCore.DedupeWindow

open Orbital.Foundation

abbrev Observation : Type := String × DedupeTransport

def new (capacity : Nat) (positive : 1 ≤ capacity) : DedupeWindow where
  capacity := capacity
  positive := positive
  seen := .empty

def suppresses (window : DedupeWindow) (call : Observation) : Bool :=
  (window.seenFrom call.1 call.2).1

def after (window : DedupeWindow) (calls : List Observation) : DedupeWindow :=
  calls.foldl (fun window call => (window.seenFrom call.1 call.2).2) window

def delivered (window : DedupeWindow) (key : String) : List Observation → Nat
  | [] => 0
  | call :: rest =>
      (if call.1 = key && !window.suppresses call then 1 else 0) +
        (window.seenFrom call.1 call.2).2.delivered key rest

/-- Of the observations on both transports one is suppressed. -/
def expected (horizon unified : Nat) : Nat :=
  if 0 < horizon ∧ 0 < unified then horizon + unified - 1 else horizon + unified

theorem after_snoc (window : DedupeWindow) (calls : List Observation) (call : Observation) :
    window.after (calls ++ [call]) = ((window.after calls).seenFrom call.1 call.2).2 := by
  rw [after, List.foldl_append]
  rfl

theorem delivered_snoc (window : DedupeWindow) (key : String) (calls : List Observation)
    (call : Observation) :
    window.delivered key (calls ++ [call]) = window.delivered key calls +
      if call.1 = key && !(window.after calls).suppresses call then 1 else 0 := by
  induction calls generalizing window with
  | nil => simp [delivered, after]
  | cons first rest induction =>
      rw [List.cons_append, delivered, delivered, induction, Nat.add_assoc]
      rfl

/-! ## The capacity -/

theorem evictOldest_size (window : DedupeWindow) :
    window.evictOldest.seen.size = window.seen.size - 1 := by
  rw [evictOldest]
  split
  · rename_i noKeys
    have empty : window.seen.entries = [] := by
      simpa [InsertionMap.keys] using noKeys
    simp [InsertionMap.size, empty]
  · rename_i oldest isOldest
    have member : oldest ∈ window.seen.keys := List.mem_of_head? isOldest
    rcases InsertionMap.mem_keys_iff.mp member with ⟨transports, present⟩
    have shrinks := InsertionMap.size_delete_of_present present
    change (window.seen.delete oldest).size = window.seen.size - 1
    omega

theorem seenFrom_capacity (window : DedupeWindow) (key : String) (transport : DedupeTransport) :
    (window.seenFrom key transport).2.capacity = window.capacity := by
  unfold seenFrom
  split
  · rw [record]
    split
    · rw [evictOldest]
      split
      · rfl
      · rfl
    · rfl
  · split
    · rfl
    · rfl

variable {window : DedupeWindow} {calls : List Observation}

theorem seenFrom_size (within : window.seen.size ≤ window.capacity) (key : String)
    (transport : DedupeTransport) :
    (window.seenFrom key transport).2.seen.size ≤ window.capacity := by
  unfold seenFrom
  split
  · rename_i absent
    have grows : (window.insert key [transport]).seen.size = window.seen.size + 1 :=
      InsertionMap.size_set_of_absent absent
    rw [record]
    split
    · rw [evictOldest_size]
      omega
    · rename_i fits
      exact Nat.le_of_not_lt fits
  · rename_i transports present
    split
    · exact within
    · have same : (window.insert key (transports ++ [transport])).seen.size = window.seen.size :=
        InsertionMap.size_set_of_present present
      rw [same]
      exact within

/-! ## What the window knows -/

structure Observed (calls : List Observation) (window : DedupeWindow) : Prop where
  nonempty : ∀ key transports, window.seen.get? key = some transports → transports ≠ []
  observed : ∀ key transports, window.seen.get? key = some transports →
    ∀ transport ∈ transports, (key, transport) ∈ calls
  within : window.seen.size ≤ window.capacity

theorem new_observed (capacity : Nat) (positive : 1 ≤ capacity) :
    Observed [] (new capacity positive) where
  nonempty := fun _ _ present => nomatch present
  observed := fun _ _ present => nomatch present
  within := Nat.zero_le _

variable {key : String} {transport : DedupeTransport} {call : Observation} {capacity : Nat}

theorem seenFrom_entry {other : String} {transports : List DedupeTransport}
    (present : (window.seenFrom key transport).2.seen.get? other = some transports) :
    window.seen.get? other = some transports ∨
      other = key ∧ transports = (window.seen.get? key).getD [] ++ [transport] := by
  have written : ∀ added, (window.insert key added).seen.get? other = some transports →
      window.seen.get? other = some transports ∨ other = key ∧ transports = added := by
    intro added found
    rw [insert, InsertionMap.get?_set] at found
    split at found
    · cases found
      exact .inr ⟨‹_›, rfl⟩
    · exact .inl found
  have survives : ∀ kept : DedupeWindow,
      kept.evictOldest.seen.get? other = some transports →
        kept.seen.get? other = some transports := by
    intro kept found
    rw [evictOldest] at found
    split at found
    · exact found
    · rw [InsertionMap.get?_delete] at found
      split at found
      · cases found
      · exact found
  unfold seenFrom at present
  split at present
  · rename_i absent
    rw [absent, Option.getD_none, List.nil_append]
    rw [record] at present
    split at present
    · exact written _ (survives _ present)
    · exact written _ present
  · rename_i old found
    rw [found, Option.getD_some]
    split at present
    · exact .inl present
    · exact written _ present

theorem Observed.seenFrom (holds : Observed calls window) (call : Observation) :
    Observed (calls ++ [call]) (window.seenFrom call.1 call.2).2 where
  nonempty := by
    intro key transports present
    rcases seenFrom_entry present with before | ⟨_, written⟩
    · exact holds.nonempty key transports before
    · simp [written]
  observed := by
    intro key transports present transport member
    rcases seenFrom_entry present with before | ⟨sameKey, written⟩
    · exact List.mem_append_left _ (holds.observed key transports before transport member)
    · rw [written] at member
      rcases List.mem_append.mp member with earlier | isNew
      · cases found : window.seen.get? call.1 with
        | none => simp [found] at earlier
        | some old =>
            rw [found, Option.getD_some] at earlier
            rw [sameKey]
            exact List.mem_append_left _ (holds.observed _ old found transport earlier)
      · rw [List.mem_singleton.mp isNew, sameKey]
        exact List.mem_append_right _ (List.mem_singleton.mpr rfl)
  within := by
    rw [seenFrom_capacity]
    exact seenFrom_size holds.within call.1 call.2

theorem observed_after (capacity : Nat) (positive : 1 ≤ capacity) (calls : List Observation) :
    Observed calls ((new capacity positive).after calls) := by
  induction calls using List.reverseRecOn with
  | nil => exact new_observed capacity positive
  | append_singleton calls call induction =>
      rw [after_snoc]
      exact induction.seenFrom call

def Complete (calls : List Observation) (window : DedupeWindow) : Prop :=
  ∀ call ∈ calls, ∃ transports, window.seen.get? call.1 = some transports ∧ call.2 ∈ transports

def distinctKeys (calls : List Observation) : Nat :=
  (calls.map Prod.fst).dedup.length

theorem distinctKeys_snoc (calls : List Observation) (call : Observation) :
    distinctKeys calls ≤ distinctKeys (calls ++ [call]) := by
  have contained : (calls.map Prod.fst).dedup ⊆ ((calls ++ [call]).map Prod.fst).dedup := by
    intro key member
    rw [List.mem_dedup] at member ⊢
    rw [List.map_append]
    exact List.mem_append_left _ member
  exact (List.subperm_of_subset (List.nodup_dedup _) contained).length_le

theorem size_of_keys (same : ∀ key, key ∈ window.seen.keys ↔ key ∈ calls.map Prod.fst) :
    window.seen.size = distinctKeys calls := by
  have perm : window.seen.keys.Perm (calls.map Prod.fst).dedup := by
    apply (List.perm_ext_iff_of_nodup window.seen.nodup (List.nodup_dedup _)).mpr
    intro key
    rw [List.mem_dedup]
    exact same key
  simpa [InsertionMap.size, InsertionMap.keys, distinctKeys] using perm.length_eq

theorem mem_keys_insert (window : DedupeWindow) (key other : String)
    (transports : List DedupeTransport) :
    other ∈ (window.insert key transports).seen.keys ↔ other = key ∨ other ∈ window.seen.keys := by
  rw [InsertionMap.mem_keys_iff, InsertionMap.mem_keys_iff, insert]
  simp only [InsertionMap.get?_set]
  by_cases same : other = key
  · simp [same]
  · simp [same]

theorem Observed.mem_keys (holds : Observed calls window) (complete : Complete calls window)
    (key : String) : key ∈ window.seen.keys ↔ key ∈ calls.map Prod.fst := by
  rw [InsertionMap.mem_keys_iff]
  constructor
  · rintro ⟨transports, present⟩
    rcases List.exists_mem_of_ne_nil _ (holds.nonempty key transports present) with ⟨first, member⟩
    exact List.mem_map.mpr ⟨_, holds.observed key transports present first member, rfl⟩
  · intro member
    rcases List.mem_map.mp member with ⟨call, isCall, rfl⟩
    rcases complete call isCall with ⟨transports, present, _⟩
    exact ⟨transports, present⟩

theorem Complete.seenFrom (complete : Complete calls window) (holds : Observed calls window)
    (room : distinctKeys (calls ++ [call]) ≤ window.capacity) :
    Complete (calls ++ [call]) (window.seenFrom call.1 call.2).2 := by
  have inserted : ∀ transports, call.2 ∈ transports →
      (∀ old, window.seen.get? call.1 = some old → old ⊆ transports) →
        Complete (calls ++ [call]) (window.insert call.1 transports) := by
    intro transports isIn keepsOld other member
    rw [insert, InsertionMap.get?_set]
    split
    · rename_i sameKey
      refine ⟨transports, rfl, ?_⟩
      rcases List.mem_append.mp member with before | isNew
      · rcases complete other before with ⟨old, present, contained⟩
        exact keepsOld old (sameKey ▸ present) contained
      · rw [List.mem_singleton.mp isNew]
        exact isIn
    · rename_i otherKey
      rcases List.mem_append.mp member with before | isNew
      · exact complete other before
      · exact absurd (congrArg Prod.fst (List.mem_singleton.mp isNew)) otherKey
  unfold DedupeWindow.seenFrom
  split
  · rename_i absent
    have size : (window.insert call.1 [call.2]).seen.size = distinctKeys (calls ++ [call]) := by
      apply size_of_keys
      intro key
      rw [mem_keys_insert, holds.mem_keys complete, List.map_append, List.mem_append,
        List.map_singleton, List.mem_singleton, or_comm]
    rw [record, if_neg (by omega)]
    refine inserted _ (List.mem_singleton.mpr rfl) ?_
    intro old present
    rw [absent] at present
    cases present
  · rename_i transports present
    split
    · rename_i contained
      intro other member
      rcases List.mem_append.mp member with before | isNew
      · exact complete other before
      · rw [List.mem_singleton.mp isNew]
        exact ⟨transports, present, by simpa using contained⟩
    · apply inserted _ (List.mem_append_right _ (List.mem_singleton.mpr rfl))
      intro old isOld
      rw [present] at isOld
      cases isOld
      exact List.subset_append_left _ _

theorem after_capacity (window : DedupeWindow) (calls : List Observation) :
    (window.after calls).capacity = window.capacity := by
  induction calls using List.reverseRecOn with
  | nil => rfl
  | append_singleton calls call induction => rw [after_snoc, seenFrom_capacity, induction]

theorem complete_after (positive : 1 ≤ capacity) (room : distinctKeys calls ≤ capacity) :
    Complete calls ((new capacity positive).after calls) := by
  induction calls using List.reverseRecOn with
  | nil => exact fun _ member => absurd member List.not_mem_nil
  | append_singleton calls call induction =>
      have roomBefore := Nat.le_trans (distinctKeys_snoc calls call) room
      rw [after_snoc]
      refine (induction roomBefore).seenFrom (observed_after capacity positive calls) ?_
      rw [after_capacity]
      exact room

/-! ## What a call answers -/

theorem Observed.not_suppressed (holds : Observed calls window)
    (onlyHere : ∀ transport, (call.1, transport) ∈ calls → transport = call.2) :
    window.suppresses call = false := by
  unfold suppresses DedupeWindow.seenFrom
  split
  · rfl
  · rename_i transports present
    rcases List.exists_mem_of_ne_nil _ (holds.nonempty _ transports present) with ⟨first, member⟩
    have same := onlyHere first (holds.observed _ transports present first member)
    rw [if_pos (by simpa [← same] using member)]

/-- A window that holds all that was observed suppresses a call exactly when the
other transport alone has seen the key. -/
theorem suppresses_iff (holds : Observed calls window) (complete : Complete calls window)
    (call : Observation) :
    window.suppresses call = true ↔
      call ∉ calls ∧ ∃ transport, (call.1, transport) ∈ calls := by
  unfold suppresses DedupeWindow.seenFrom
  split
  · rename_i absent
    simp only [Bool.false_eq_true, false_iff, not_and, not_exists]
    intro _ transport member
    rcases complete _ member with ⟨transports, present, _⟩
    cases absent ▸ present
  · rename_i transports present
    rcases List.exists_mem_of_ne_nil _ (holds.nonempty _ transports present) with ⟨first, member⟩
    have seenBefore : ∃ transport, (call.1, transport) ∈ calls :=
      ⟨first, holds.observed _ transports present first member⟩
    have contained : call.2 ∈ transports ↔ call ∈ calls := by
      constructor
      · exact holds.observed _ transports present call.2
      · intro isCall
        rcases complete call isCall with ⟨others, alsoPresent, isIn⟩
        cases present ▸ alsoPresent
        exact isIn
    by_cases before : call ∈ calls
    · simp [contained.mpr before, before]
    · simp [contained, before, seenBefore]

/-! ## Deliveries counted -/

def Observation.seenOn (calls : List Observation) (key : String) (transport : DedupeTransport) :
    Nat :=
  calls.count (key, transport)

open Observation in
theorem seenOn_snoc (calls : List Observation) (call : Observation) (key : String)
    (transport : DedupeTransport) :
    seenOn (calls ++ [call]) key transport =
      seenOn calls key transport + if call = (key, transport) then 1 else 0 := by
  simp [seenOn, List.count_append, List.count_singleton]

open Observation in
theorem seenOn_pos : 0 < seenOn calls key transport ↔ (key, transport) ∈ calls :=
  List.count_pos_iff

theorem expected_comm (horizon unified : Nat) :
    expected horizon unified = expected unified horizon := by
  simp only [expected, and_comm, Nat.add_comm]

theorem expected_succ (here there : Nat) :
    expected (here + 1) there = expected here there + if here = 0 ∧ 0 < there then 0 else 1 := by
  rcases Nat.eq_zero_or_pos here with noneHere | someHere
  · rcases Nat.eq_zero_or_pos there with noneThere | someThere
    · simp [expected, noneHere, noneThere]
    · simp [expected, noneHere, someThere]
  · rcases Nat.eq_zero_or_pos there with noneThere | someThere
    · simp [expected, noneThere]
    · simp only [expected, someHere, someThere]
      simp only [Nat.succ_pos, and_self, if_true]
      rw [if_neg (by omega)]
      omega

def across : DedupeTransport → DedupeTransport
  | .horizon => .unified
  | .unified => .horizon

open Observation in
theorem suppresses_iff_first (holds : Observed calls window) (complete : Complete calls window)
    (key : String) (transport : DedupeTransport) :
    window.suppresses (key, transport) = true ↔
      seenOn calls key transport = 0 ∧ 0 < seenOn calls key (across transport) := by
  rw [suppresses_iff holds complete, seenOn_pos, ← Nat.le_zero, ← Nat.not_lt, seenOn_pos]
  constructor
  · rintro ⟨absent, seen, member⟩
    cases transport with
    | horizon =>
        cases seen with
        | horizon => exact absurd member absent
        | unified => exact ⟨absent, member⟩
    | unified =>
        cases seen with
        | horizon => exact ⟨absent, member⟩
        | unified => exact absurd member absent
  · rintro ⟨absent, member⟩
    exact ⟨absent, _, member⟩

open Observation in
theorem delivered_eq_expected (positive : 1 ≤ capacity) (room : distinctKeys calls ≤ capacity)
    (key : String) :
    (new capacity positive).delivered key calls =
      expected (seenOn calls key .horizon) (seenOn calls key .unified) := by
  induction calls using List.reverseRecOn with
  | nil => rfl
  | append_singleton calls call induction =>
      have roomBefore := Nat.le_trans (distinctKeys_snoc calls call) room
      rw [delivered_snoc, induction roomBefore, seenOn_snoc, seenOn_snoc]
      rcases call with ⟨called, transport⟩
      by_cases sameKey : called = key
      · subst called
        have first := suppresses_iff_first (observed_after capacity positive calls)
          (complete_after positive roomBefore) key transport
        have counted :
            (if key = key && !((new capacity positive).after calls).suppresses (key, transport)
              then 1 else 0) =
            if seenOn calls key transport = 0 ∧ 0 < seenOn calls key (across transport)
              then 0 else 1 := by
          simp only [← first, decide_true, Bool.true_and]
          cases ((new capacity positive).after calls).suppresses (key, transport) with
          | true | false => rfl
        rw [counted]
        cases transport with
        | horizon =>
            have other : ((key, .horizon) : Observation) ≠ (key, .unified) := by simp
            rw [if_pos rfl, if_neg other, Nat.add_zero, expected_succ]
            rfl
        | unified =>
            have other : ((key, .unified) : Observation) ≠ (key, .horizon) := by simp
            rw [if_neg other, if_pos rfl, Nat.add_zero, expected_comm _ (_ + 1), expected_succ,
              expected_comm]
            rfl
      · simp [sameKey]

/-- A window of any capacity: with room for all keys one observation of a
movement that came in on both transports is suppressed and no other; a key that
one transport sees is never suppressed; the capacity is never exceeded. -/
theorem exactness (capacity : Nat) (positive : 1 ≤ capacity) (calls : List Observation) :
    (distinctKeys calls ≤ capacity → ∀ key,
      (new capacity positive).delivered key calls =
        expected (calls.count (key, .horizon)) (calls.count (key, .unified))) ∧
    (∀ earlier call later, calls = earlier ++ call :: later →
      (∀ transport, (call.1, transport) ∈ calls → transport = call.2) →
        ((new capacity positive).after earlier).suppresses call = false) ∧
    ((new capacity positive).after calls).seen.size ≤ capacity := by
  refine ⟨fun room key => delivered_eq_expected positive room key, ?_, ?_⟩
  · intro earlier call later isSplit onlyHere
    apply (observed_after capacity positive earlier).not_suppressed
    intro transport member
    apply onlyHere transport
    rw [isSplit]
    exact List.mem_append_left _ member
  · have within := (observed_after capacity positive calls).within
    rw [after_capacity] at within
    exact within

/-- A payment of two hops against one Horizon record, and a movement that only
the unified stream reports. -/
theorem exactness_two_movements :
    (new 2 (by decide)).delivered "op" [("op", .unified), ("op", .horizon), ("op", .unified),
      ("tip", .unified)] = 2 ∧
    ((new 2 (by decide)).after [("op", .unified), ("op", .horizon), ("op", .unified)]).suppresses
      ("tip", .unified) = false :=
  ⟨(exactness 2 (by decide) _).1 (by decide) "op",
    (exactness 2 (by decide) _).2.1 _ _ [] rfl (by simp)⟩

end Orbital.PulseCore.DedupeWindow
