import Mathlib.Algebra.Order.Ring.Int
import Mathlib.Data.Int.Order.Basic
import Mathlib.Data.List.Basic
import Mathlib.Data.List.Sort
import Mathlib.Order.Basic
import Mathlib.Order.Lattice

/-! # Intervals of times

Segments without gaps, windows that roll on with the time, and times that recur.
-/

/-! ## Tilings

Segments that follow one another without a gap, from a start to an end. Each has a first
position and a last one, which it does not contain.
-/

namespace Orbital.Foundation

variable {Segment Position : Type} [LinearOrder Position]

inductive Tiles (first last : Segment → Position) : Position → List Segment → Position → Prop
  | nil (start : Position) : Tiles first last start [] start
  | cons {segment : Segment} {rest : List Segment} {stop : Position}
      (proper : first segment < last segment) (tiles : Tiles first last (last segment) rest stop) :
      Tiles first last (first segment) (segment :: rest) stop

namespace Tiles

variable {first last : Segment → Position} {start stop : Position} {segments : List Segment}

variable {segment : Segment}

theorem append_singleton (tiles : Tiles first last start segments stop)
    (begins : first segment = stop) (proper : first segment < last segment) :
    Tiles first last start (segments ++ [segment]) (last segment) := by
  induction tiles with
  | nil start =>
      rw [← begins]
      exact .cons proper (.nil _)
  | cons properToo _ induction => exact .cons properToo (induction begins)

theorem start_le (tiles : Tiles first last start segments stop) : start ≤ stop := by
  induction tiles with
  | nil => exact le_refl _
  | cons proper _ induction => exact le_trans (le_of_lt proper) induction

theorem last_le (tiles : Tiles first last start segments stop) (member : segment ∈ segments) :
    last segment ≤ stop := by
  induction tiles with
  | nil => cases member
  | cons _ rest induction =>
      rcases List.mem_cons.mp member with rfl | later
      · exact rest.start_le
      · exact induction later

theorem le_first (tiles : Tiles first last start segments stop) (member : segment ∈ segments) :
    start ≤ first segment := by
  induction tiles with
  | nil => cases member
  | cons proper _ induction =>
      rcases List.mem_cons.mp member with rfl | later
      · exact le_refl _
      · exact le_trans (le_of_lt proper) (induction later)

theorem proper (tiles : Tiles first last start segments stop) (member : segment ∈ segments) :
    first segment < last segment := by
  induction tiles with
  | nil => cases member
  | cons proper _ induction =>
      rcases List.mem_cons.mp member with rfl | later
      · exact proper
      · exact induction later

theorem pairwise (tiles : Tiles first last start segments stop) :
    segments.Pairwise fun segment later => last segment ≤ first later := by
  induction tiles with
  | nil => exact .nil
  | cons _ rest induction => exact .cons (fun later member => rest.le_first member) induction

end Tiles

end Orbital.Foundation

/-! ## Sweeps

Segments in the order of their starts are swept from a position on, up to the first gap.
-/

namespace Orbital.Foundation

variable {Segment Position : Type} [LinearOrder Position]

def sweep (first last : Segment → Position) : Position → List Segment → Option Position
  | cursor, [] => some cursor
  | cursor, segment :: rest =>
      if cursor < first segment then none else sweep first last (max cursor (last segment)) rest

variable {first last : Segment → Position} {cursor stop : Position} {segments : List Segment}

theorem sweep_reaches_iff
    (sorted : segments.Pairwise fun segment later => first segment ≤ first later)
    (inside : ∀ segment ∈ segments, first segment < stop) :
    (∃ reached, sweep first last cursor segments = some reached ∧ stop ≤ reached) ↔
      ∀ position, cursor ≤ position → position < stop →
        ∃ segment ∈ segments, first segment ≤ position ∧ position < last segment := by
  induction segments generalizing cursor with
  | nil =>
      simp only [sweep, Option.some.injEq, exists_eq_left', List.not_mem_nil, false_and,
        exists_false]
      constructor
      · intro reached position behind before
        exact absurd (lt_of_lt_of_le before reached) (not_lt.mpr behind)
      · intro covered
        exact not_lt.mp fun short => covered cursor le_rfl short
  | cons segment rest induction =>
      have later (other : Segment) (member : other ∈ rest) : first segment ≤ first other :=
        List.rel_of_pairwise_cons sorted member
      have started := inside segment List.mem_cons_self
      rw [sweep]
      by_cases gap : cursor < first segment
      · -- The cursor lies in no segment, since all of them start behind it.
        rw [if_pos gap]
        simp only [reduceCtorEq, false_and, exists_false, false_iff]
        intro covered
        rcases covered cursor le_rfl (lt_trans gap started) with ⟨other, member, begun, -⟩
        rcases List.mem_cons.mp member with rfl | member
        · exact absurd gap (not_lt.mpr begun)
        · exact absurd (lt_of_lt_of_le gap (later other member)) (not_lt.mpr begun)
      · rw [if_neg gap, induction sorted.of_cons fun other member =>
          inside other (List.mem_cons_of_mem _ member)]
        constructor
        · intro covered position behind before
          by_cases within : position < last segment
          · exact ⟨segment, List.mem_cons_self, le_trans (not_lt.mp gap) behind, within⟩
          · rcases covered position (max_le behind (not_lt.mp within)) before with
              ⟨other, member, contains⟩
            exact ⟨other, List.mem_cons_of_mem _ member, contains⟩
        · intro covered position behind before
          rcases covered position (le_trans (le_max_left _ _) behind) before with
            ⟨other, member, contains⟩
          rcases List.mem_cons.mp member with rfl | member
          · exact absurd contains.2 (not_lt.mpr (le_trans (le_max_right _ _) behind))
          · exact ⟨other, member, contains⟩

theorem pairwise_last_le (proper : ∀ segment ∈ segments, first segment < last segment)
    (sorted : segments.Pairwise fun segment later => first segment ≤ first later)
    (apart : segments.Pairwise fun segment later =>
      ¬ (first segment < last later ∧ first later < last segment)) :
    segments.Pairwise fun segment later => last segment ≤ first later := by
  apply (sorted.and apart).imp_of_mem
  intro segment later _ member both
  apply not_lt.mp
  intro meets
  exact both.2 ⟨lt_of_le_of_lt both.1 (proper later member), meets⟩

theorem find?_contains_iff
    (order : segments.Pairwise fun segment later => last segment ≤ first later)
    {position : Position} {segment : Segment} :
    segments.find? (fun segment => first segment ≤ position && position < last segment) =
        some segment ↔
      segment ∈ segments ∧ first segment ≤ position ∧ position < last segment := by
  induction segments with
  | nil => simp
  | cons head rest induction =>
      by_cases inside : first head ≤ position ∧ position < last head
      · rw [List.find?_cons_of_pos (by simpa using inside), Option.some.injEq]
        constructor
        · rintro rfl
          exact ⟨List.mem_cons_self, inside⟩
        · intro found
          rcases List.mem_cons.mp found.1 with rfl | later
          · rfl
          · have behind := List.rel_of_pairwise_cons order later
            exact absurd (lt_of_lt_of_le inside.2 behind) (not_lt.mpr found.2.1)
      · rw [List.find?_cons_of_neg (by simpa using inside), induction order.of_cons]
        constructor
        · intro found
          exact ⟨List.mem_cons_of_mem _ found.1, found.2⟩
        · intro found
          rcases List.mem_cons.mp found.1 with rfl | later
          · exact absurd found.2 inside
          · exact ⟨later, found.2⟩

end Orbital.Foundation

/-! ## Rolling windows

Times are admitted one after the other while fewer than a limit of the earlier ones are in
the window that ends at the new one. Then no window of that length has more than the
limit.
-/

namespace Orbital.Foundation.RollingWindow

def since (start : Int) (times : List Int) : List Int :=
  times.filter fun time => start < time

theorem since_append (start : Int) (front back : List Int) :
    since start (front ++ back) = since start front ++ since start back :=
  List.filter_append ..

/-- A later start looks at what an earlier one has left. -/
theorem since_since {first second : Int} (later : first ≤ second) (times : List Int) :
    since second (since first times) = since second times := by
  rw [since, since, since, List.filter_filter]
  apply List.filter_congr
  intro time member
  rw [Bool.and_eq_left_iff_imp, decide_eq_true_iff, decide_eq_true_iff]
  omega

theorem since_map_congr {Label : Type} {start : Int} {entries : List (Int × Label)}
    {first second : Int × Label → Bool}
    (same : ∀ entry ∈ entries, start < entry.1 → first entry = second entry) :
    since start ((entries.filter first).map Prod.fst) =
      since start ((entries.filter second).map Prod.fst) := by
  rw [since, since, List.filter_map, List.filter_map, List.filter_filter, List.filter_filter]
  congr 1
  apply List.filter_congr
  intro entry member
  by_cases recent : start < entry.1
  · rw [same entry member recent]
  · rw [Function.comp_apply, decide_eq_false recent, Bool.false_and, Bool.false_and]

inductive Admitted (length : Int) (limit : Nat) : List Int → Prop
  | nil : Admitted length limit []
  | append_singleton {times : List Int} {now : Int} :
      Admitted length limit times →
      (∀ time ∈ times, time ≤ now) →
      (since (now - length) times).length < limit →
      Admitted length limit (times ++ [now])

def within (start length : Int) (times : List Int) : List Int :=
  times.filter fun time => start < time ∧ time ≤ start + length

theorem Admitted.length_within_le {length : Int} {limit : Nat} {times : List Int}
    (admitted : Admitted length limit times) (start : Int) :
    (within start length times).length ≤ limit := by
  induction admitted with
  | nil => exact Nat.zero_le _
  | @append_singleton times now admitted latest few induction =>
      rw [within, List.filter_append, List.length_append]
      by_cases inside : start < now ∧ now ≤ start + length
      · -- What is in the window is in the one that ends at the new time.
        have shrinks : (within start length times).Sublist (since (now - length) times) := by
          apply List.monotone_filter_right
          intro time counted
          have bounds := of_decide_eq_true counted
          apply decide_eq_true
          omega
        have fewer := shrinks.length_le
        have one : ([now].filter fun time => start < time ∧ time ≤ start + length).length ≤ 1 :=
          List.length_filter_le _ _
        rw [within] at fewer
        omega
      · have none : [now].filter (fun time => start < time ∧ time ≤ start + length) = [] := by
          apply List.filter_eq_nil_iff.mpr
          intro time member counted
          cases List.mem_singleton.mp member
          exact inside (of_decide_eq_true counted)
        rw [none, List.length_nil, Nat.add_zero]
        exact induction

end Orbital.Foundation.RollingWindow

/-! ## Recurring times

A recurrence leads from every time to a later one. The times that are due behind a start are
those it leads to from there, one after the other.
-/

namespace Orbital.Foundation.Recurrence

inductive Due (next : Int → Int) (start : Int) : Int → Prop
  | first : Due next start (next start)
  | again {time : Int} (due : Due next start time) : Due next start (next time)

def Fixed (next : Int → Int) : Prop :=
  ∀ time other, time ≤ other → other < next time → next other = next time

variable {next : Int → Int}

theorem due_iff_next (start time : Int) :
    Due next start time ↔ time = next start ∨ Due next (next start) time := by
  constructor
  · intro due
    induction due with
    | first => exact Or.inl rfl
    | again _ induction =>
        rcases induction with rfl | later
        · exact Or.inr .first
        · exact Or.inr (.again later)
  · rintro (rfl | later)
    · exact .first
    · induction later with
      | first => exact .again .first
      | again _ induction => exact .again induction

variable {start time : Int}

theorem next_le_of_due (later : ∀ time, time < next time) (due : Due next start time) :
    next start ≤ time := by
  induction due with
  | first => exact le_refl _
  | again _ induction => exact le_trans induction (le_of_lt (later _))

theorem lt_of_due (later : ∀ time, time < next time) (due : Due next start time) : start < time :=
  lt_of_lt_of_le (later start) (next_le_of_due later due)

theorem due_middle (later : ∀ time, time < next time) (fixed : Fixed next) {middle : Int}
    (before : start ≤ middle) (time : Int) :
    Due next middle time ↔ Due next start time ∧ middle < time := by
  -- the induction is on the distance between the two starts
  have steps : ∀ distance : Nat, ∀ start, start ≤ middle → (middle - start).toNat ≤ distance →
      (Due next middle time ↔ Due next start time ∧ middle < time) := by
    intro distance
    induction distance with
    | zero =>
        intro start before near
        have same : start = middle := by omega
        rw [same]
        exact ⟨fun due => ⟨due, lt_of_due later due⟩, And.left⟩
    | succ distance induction =>
        intro start before near
        rcases lt_or_ge middle (next start) with between | reached
        · have same := fixed start middle before between
          rw [due_iff_next middle, same, due_iff_next start]
          constructor
          · rintro (rfl | due)
            · exact ⟨Or.inl rfl, between⟩
            · exact ⟨Or.inr due, lt_trans between (lt_of_due later due)⟩
          · exact And.left
        · have ahead := later start
          rw [induction (next start) reached (by omega), due_iff_next start]
          constructor
          · rintro ⟨due, behind⟩
            exact ⟨Or.inr due, behind⟩
          · rintro ⟨rfl | due, behind⟩
            · exact absurd behind (not_lt.mpr reached)
            · exact ⟨due, behind⟩
  exact steps _ start before (le_refl _)

/-! ## Intervals -/

theorem due_interval {every : Int} (positive : 0 < every) :
    Due (· + every) start time ↔ start < time ∧ every ∣ time - start := by
  constructor
  · intro due
    induction due with
    | first => exact ⟨by omega, by rw [add_sub_cancel_left]⟩
    | again _ induction =>
        rcases induction with ⟨after, multiple⟩
        refine ⟨by omega, ?_⟩
        rw [add_sub_right_comm]
        exact Int.dvd_add multiple (Int.dvd_refl every)
  · rintro ⟨after, count, isCount⟩
    have some' : 0 < count := by
      apply pos_of_mul_pos_right _ (le_of_lt positive)
      omega
    have counted : ∀ steps : Nat, Due (· + every) start (start + every * (steps + 1)) := by
      intro steps
      induction steps with
      | zero =>
          have one : start + every * ((0 : Nat) + 1) = start + every := by
            rw [Nat.cast_zero, zero_add, mul_one]
          rw [one]
          exact .first
      | succ steps induction =>
          have onward : start + every * ((steps + 1 : Nat) + 1) =
              start + every * (steps + 1) + every := by
            rw [Nat.cast_add, Nat.cast_one, mul_add every (steps + 1 : Int) 1, mul_one, add_assoc]
          rw [onward]
          exact .again induction
    have isTime : time = start + every * ((count.toNat - 1 : Nat) + 1) := by
      have casts : ((count.toNat - 1 : Nat) : Int) + 1 = count := by omega
      rw [casts]
      omega
    rw [isTime]
    exact counted _

end Orbital.Foundation.Recurrence
