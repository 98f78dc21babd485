import Mathlib.Data.List.Basic
import Mathlib.Data.List.TakeWhile
import Mathlib.Data.Nat.Basic
import Mathlib.Order.Lattice

/-! # Reading an ordered list in pages

Items lie in the order of their tokens. A reader keeps a token, its cursor, and
asks for the items behind it; what it gets is the beginning of those, its next
page.
-/

namespace Orbital.Foundation

variable {Item : Type} {keep : Item → Bool} {items : List Item}

theorem takeWhile_append_of_stop {first second : List Item} {item : Item}
    (member : item ∈ first) (stop : keep item = false) :
    (first ++ second).takeWhile keep = first.takeWhile keep := by
  rw [List.takeWhile_append, if_neg]
  intro whole
  have unstopped := (List.takeWhile_prefix keep).eq_of_length whole
  simp [List.takeWhile_eq_self_iff.mp unstopped item member] at stop

theorem filter_suffix (upward : items.Pairwise fun first second =>
    keep first = true → keep second = true) : items.filter keep <:+ items := by
  induction items with
  | nil => exact List.suffix_refl _
  | cons head tail induction =>
      rcases List.pairwise_cons.mp upward with ⟨fromHead, inTail⟩
      cases kept : keep head with
      | true =>
          have all : ∀ item ∈ head :: tail, keep item = true := by
            intro item member
            rcases List.mem_cons.mp member with atHead | later
            · rw [atHead, kept]
            · exact fromHead item later kept
          exact ⟨[], List.filter_eq_self.mpr all⟩
      | false =>
          rw [List.filter_cons_of_neg (by simp [kept])]
          exact (induction inTail).trans (List.suffix_cons head tail)

theorem takeWhile_eq_filter (downward : items.Pairwise fun first second =>
    keep second = true → keep first = true) : items.takeWhile keep = items.filter keep := by
  induction items with
  | nil => rfl
  | cons head tail induction =>
      rcases List.pairwise_cons.mp downward with ⟨toHead, inTail⟩
      cases kept : keep head with
      | true =>
          rw [List.takeWhile_cons_of_pos kept, List.filter_cons_of_pos kept, induction inTail]
      | false =>
          rw [List.takeWhile_cons_of_neg (by simp [kept]), List.filter_cons_of_neg (by simp [kept])]
          symm
          apply List.filter_eq_nil_iff.mpr
          intro item later stillKept
          simp [toHead item later stillKept] at kept

section Cursor

variable {Token : Type} [LinearOrder Token] {token : Item → Token}

theorem filter_after {before page rest : List Item} {cursor : Token}
    (ordered : (before ++ (page ++ rest)).Pairwise fun first second => token first < token second)
    (some : page ≠ []) (passed : ∀ item ∈ page, token item ≤ cursor)
    (beyond : ∀ item ∈ rest, cursor < token item) :
    (before ++ (page ++ rest)).filter (fun item => decide (cursor < token item)) = rest := by
  rcases List.exists_mem_of_ne_nil page some with ⟨first, inPage⟩
  have beforeFirst : ∀ item ∈ before, token item ≤ cursor := by
    intro item member
    have below := (List.pairwise_append.mp ordered).2.2 item member first
      (List.mem_append_left rest inPage)
    exact le_trans (le_of_lt below) (passed first inPage)
  have dropBefore : before.filter (fun item => decide (cursor < token item)) = [] := by
    apply List.filter_eq_nil_iff.mpr
    intro item member
    simpa using beforeFirst item member
  have dropPage : page.filter (fun item => decide (cursor < token item)) = [] := by
    apply List.filter_eq_nil_iff.mpr
    intro item member
    simpa using passed item member
  have keepRest : rest.filter (fun item => decide (cursor < token item)) = rest := by
    apply List.filter_eq_self.mpr
    intro item member
    simpa using beyond item member
  rw [List.filter_append, List.filter_append, dropBefore, dropPage, keepRest]
  rfl

theorem last_separates {page rest : List Item} {last : Item}
    (ordered : (page ++ rest).Pairwise fun first second => token first < token second)
    (isLast : page.getLast? = some last) :
    (∀ item ∈ page, token item ≤ token last) ∧ ∀ item ∈ rest, token last < token item := by
  rcases List.getLast?_eq_some_iff.mp isLast with ⟨initial, rfl⟩
  constructor
  · intro item member
    rcases List.mem_append.mp member with earlier | atLast
    · have inPage := (List.pairwise_append.mp ordered).1
      exact le_of_lt ((List.pairwise_append.mp inPage).2.2 item earlier last (by simp))
    · rw [List.mem_singleton.mp atLast]
  · intro item member
    exact (List.pairwise_append.mp ordered).2.2 last (by simp) item member

end Cursor

end Orbital.Foundation

/-! ## Following cursors through a list

A reader asks for the page that begins at a cursor and goes on at the cursor it is given,
until it is given none. A page is cut from a list at a position; where the position of its
end is not below a bound, the request fails.
-/

namespace Orbital.Foundation

variable {Item : Type}

inductive Walk (read : Nat → Option (List Item × Option Nat)) : Nat → List (List Item) → Prop
  | last {start page} : read start = some (page, none) → Walk read start [page]
  | more {start cursor page pages} : read start = some (page, some cursor) →
      Walk read cursor pages → Walk read start (page :: pages)

def Complete (read : Nat → Option (List Item × Option Nat)) (items : List Item) : Prop :=
  ∃ pages, Walk read 0 pages ∧ pages.flatten = items

def pageOf (bound : Nat) (items : List Item) (size start : Nat) : Option (List Item × Option Nat) :=
  if items.length ≤ start then some ([], none)
  else if bound ≤ start + size then none
  else
    some ((items.drop start).take size,
      if start + size < items.length then some (start + size) else none)

section Pages

variable {bound size start : Nat} {items : List Item}

theorem pageOf_past (past : items.length ≤ start) :
    pageOf bound items size start = some ([], none) :=
  if_pos past

theorem pageOf_trap (inside : start < items.length) (trap : bound ≤ start + size) :
    pageOf bound items size start = none := by
  rw [pageOf, if_neg (Nat.not_le.mpr inside), if_pos trap]

theorem pageOf_last (inside : start < items.length) (below : start + size < bound)
    (last : items.length ≤ start + size) :
    pageOf bound items size start = some (items.drop start, none) := by
  rw [pageOf, if_neg (Nat.not_le.mpr inside), if_neg (Nat.not_le.mpr below),
    if_neg (Nat.not_lt.mpr last), List.take_of_length_le]
  rw [List.length_drop]
  omega

theorem pageOf_more (below : start + size < bound) (more : start + size < items.length) :
    pageOf bound items size start =
      some ((items.drop start).take size, some (start + size)) := by
  rw [pageOf, if_neg (by omega), if_neg (Nat.not_le.mpr below), if_pos more]

theorem pageOf_of_long (long : size * ((bound - 1) / size) < items.length) {count : Nat}
    (within : count ≤ (bound - 1) / size) :
    pageOf bound items size (size * count) = none ∨ ∃ page later,
      pageOf bound items size (size * count) = some (page, some (size * later)) ∧
        later ≤ (bound - 1) / size := by
  have inside : ∀ position, position ≤ (bound - 1) / size →
      size * position < items.length := by
    intro position reached
    exact Nat.lt_of_le_of_lt (Nat.mul_le_mul_left size reached) long
  by_cases trap : bound ≤ size * count + size
  · exact Or.inl (pageOf_trap (inside count within) trap)
  · apply Or.inr
    rcases Nat.eq_zero_or_pos size with nothing | something
    · subst nothing
      have nonempty := inside count within
      exact ⟨_, count, pageOf_more (by omega) (by omega), within⟩
    · have below : (count + 1) * size ≤ bound - 1 := by
        rw [Nat.succ_mul, Nat.mul_comm]
        omega
      have further : count + 1 ≤ (bound - 1) / size :=
        (Nat.le_div_iff_mul_le something).mpr below
      have more := inside (count + 1) further
      rw [Nat.mul_succ] at more
      exact ⟨_, count + 1, pageOf_more (by omega) more, further⟩

theorem not_walk_of_long (long : size * ((bound - 1) / size) < items.length) {start : Nat}
    {pages : List (List Item)} (walk : Walk (pageOf bound items size) start pages) :
    ∀ count ≤ (bound - 1) / size, start ≠ size * count := by
  induction walk with
  | last read =>
      rintro count within rfl
      rcases pageOf_of_long long within with trap | ⟨page, later, more, -⟩
      · rw [trap] at read
        cases read
      · rw [more] at read
        cases read
  | more read rest induction =>
      rintro count within rfl
      rcases pageOf_of_long long within with trap | ⟨page, later, more, further⟩
      · rw [trap] at read
        cases read
      · rw [more] at read
        cases read
        exact induction later further rfl

theorem walk_of_short (some : 0 < size) (short : items.length ≤ size * ((bound - 1) / size))
    (count : Nat) (inside : size * count < items.length) :
    ∃ pages, Walk (pageOf bound items size) (size * count) pages ∧
      pages.flatten = items.drop (size * count) := by
  have within : count + 1 ≤ (bound - 1) / size := by
    have less : size * count < size * ((bound - 1) / size) := Nat.lt_of_lt_of_le inside short
    exact Nat.lt_of_mul_lt_mul_left less
  have below : size * count + size < bound := by
    have end' := (Nat.le_div_iff_mul_le some).mp within
    rw [Nat.mul_comm, Nat.mul_succ] at end'
    omega
  by_cases more : size * count + size < items.length
  · have next : size * (count + 1) < items.length := by
      rw [Nat.mul_succ]
      exact more
    rcases walk_of_short some short (count + 1) next with ⟨pages, walk, rest⟩
    rw [Nat.mul_succ] at walk rest
    refine ⟨_, .more (pageOf_more below more) walk, ?_⟩
    rw [List.flatten_cons, rest, ← List.drop_drop, List.take_append_drop]
  · exact ⟨_, .last (pageOf_last inside below (Nat.not_lt.mp more)), by simp⟩
termination_by items.length - size * count
decreasing_by
  rw [Nat.mul_succ] at *
  omega

theorem complete_iff :
    Complete (pageOf bound items size) items ↔ items.length ≤ size * ((bound - 1) / size) := by
  constructor
  · rintro ⟨pages, walk, -⟩
    apply Nat.not_lt.mp
    intro long
    exact not_walk_of_long long walk 0 (Nat.zero_le _) rfl
  · intro short
    rcases Nat.eq_zero_or_pos items.length with none | some
    · rw [List.length_eq_zero_iff.mp none]
      exact ⟨[[]], .last (pageOf_past (Nat.le_refl 0)), rfl⟩
    · have room : 0 < size := by
        apply Nat.pos_of_ne_zero
        intro zero
        subst zero
        omega
      rcases walk_of_short room short 0 some with ⟨pages, walk, whole⟩
      exact ⟨pages, walk, whole⟩

end Pages

end Orbital.Foundation
