import Mathlib.Data.List.Dedup
import Mathlib.Data.List.Nodup
import Mathlib.Data.List.Sort

/-! # Occurrences with a cooldown

Entries with a key and a time come in the order of their times. A key counts once, at its
first entry; an entry that counts opens a window, which runs until a deadline, unless it
falls into the last window that was opened. Entries of one time may come in any order, and
the windows depend on it only where several new keys come at a time that opens one.
-/

namespace Orbital.Foundation.Cooldown

variable {Key Time : Type}

section Definitions

variable [DecidableEq Key] [LinearOrder Time]

def firsts (seen : List Key) : List (Key × Time) → List (Key × Time)
  | [] => []
  | entry :: rest =>
      if entry.1 ∈ seen then firsts seen rest else entry :: firsts (entry.1 :: seen) rest

def repeats (seen : List Key) : List (Key × Time) → List (Key × Time)
  | [] => []
  | entry :: rest =>
      if entry.1 ∈ seen then entry :: repeats seen rest else repeats (entry.1 :: seen) rest

def Covers (limit : Option Time) (time : Time) : Prop :=
  match limit with
  | none => False
  | some limit => time ≤ limit

instance (limit : Option Time) (time : Time) : Decidable (Covers limit time) :=
  match limit with
  | none => inferInstanceAs (Decidable False)
  | some limit => inferInstanceAs (Decidable (time ≤ limit))

variable (deadline : Time → Time)

def opened (limit : Option Time) : List (Key × Time) → List (Key × Time)
  | [] => []
  | entry :: rest =>
      if Covers limit entry.2 then opened limit rest
      else entry :: opened (some (deadline entry.2)) rest

def passed (limit : Option Time) : List (Key × Time) → List (Key × Time)
  | [] => []
  | entry :: rest =>
      if Covers limit entry.2 then entry :: passed limit rest
      else passed (some (deadline entry.2)) rest

def openings (limit : Option Time) : List Time → List Time
  | [] => []
  | time :: rest =>
      if Covers limit time then openings limit rest
      else time :: openings (some (deadline time)) rest

def FirstAt (entries : List (Key × Time)) (entry : Key × Time) : Prop :=
  entry ∈ entries ∧ ∀ other ∈ entries, other.1 = entry.1 → entry.2 ≤ other.2

instance (entries : List (Key × Time)) (entry : Key × Time) : Decidable (FirstAt entries entry) :=
  inferInstanceAs (Decidable (_ ∧ _))

def firstTimes (entries : List (Key × Time)) : List Time :=
  ((entries.filter (FirstAt entries ·)).map Prod.snd).dedup.insertionSort (· ≤ ·)

/-- At every time that opens a window one new key comes. -/
def Unambiguous (entries : List (Key × Time)) : Prop :=
  ∀ time ∈ openings deadline none (firstTimes entries), ∀ first second,
    FirstAt entries (first, time) → FirstAt entries (second, time) → first = second

end Definitions

section Firsts

variable [DecidableEq Key] {entries : List (Key × Time)}

theorem firsts_append_repeats (seen : List Key) (entries : List (Key × Time)) :
    (firsts seen entries ++ repeats seen entries).Perm entries := by
  induction entries generalizing seen with
  | nil => exact .refl []
  | cons entry rest induction =>
      rw [firsts, repeats]
      split
      · exact List.perm_middle.trans ((induction seen).cons entry)
      · exact (induction _).cons entry

theorem firsts_sublist (seen : List Key) (entries : List (Key × Time)) :
    (firsts seen entries).Sublist entries := by
  induction entries generalizing seen with
  | nil => exact List.Sublist.refl []
  | cons entry rest induction =>
      rw [firsts]
      split
      · exact (induction seen).cons entry
      · exact (induction _).cons_cons entry

theorem key_of_mem_firsts {seen : List Key} {entry : Key × Time}
    (member : entry ∈ firsts seen entries) : entry.1 ∉ seen := by
  induction entries generalizing seen with
  | nil => cases member
  | cons head rest induction =>
      rw [firsts] at member
      split at member
      · exact induction member
      · rename_i isNew
        rcases List.mem_cons.mp member with rfl | later
        · exact isNew
        · intro old
          exact induction later (List.mem_cons_of_mem _ old)

theorem nodup_keys_firsts (seen : List Key) (entries : List (Key × Time)) :
    ((firsts seen entries).map Prod.fst).Nodup := by
  induction entries generalizing seen with
  | nil => exact List.nodup_nil
  | cons entry rest induction =>
      rw [firsts]
      split
      · exact induction seen
      · refine List.nodup_cons.mpr ⟨?_, induction _⟩
        intro again
        rcases List.mem_map.mp again with ⟨other, inside, same⟩
        exact key_of_mem_firsts inside (same ▸ List.mem_cons_self)

theorem nodup_firsts (seen : List Key) (entries : List (Key × Time)) :
    (firsts seen entries).Nodup :=
  (nodup_keys_firsts seen entries).of_map

theorem firsts_append (seen : List Key) (front : List (Key × Time)) :
    ∃ seenToo, (∀ key, key ∈ seenToo ↔ key ∈ seen ∨ key ∈ front.map Prod.fst) ∧
      ∀ back, firsts seen (front ++ back) = firsts seen front ++ firsts seenToo back := by
  induction front generalizing seen with
  | nil => exact ⟨seen, by simp, fun back => rfl⟩
  | cons entry rest induction =>
      by_cases old : entry.1 ∈ seen
      · rcases induction seen with ⟨seenToo, known, splits⟩
        refine ⟨seenToo, ?_, ?_⟩
        · intro key
          rw [known, List.map_cons, List.mem_cons]
          constructor
          · exact Or.imp_right Or.inr
          · rintro (before | rfl | inside)
            · exact Or.inl before
            · exact Or.inl old
            · exact Or.inr inside
        · intro back
          rw [List.cons_append, firsts, if_pos old, firsts, if_pos old]
          exact splits back
      · rcases induction (entry.1 :: seen) with ⟨seenToo, known, splits⟩
        refine ⟨seenToo, ?_, ?_⟩
        · intro key
          rw [known, List.map_cons, List.mem_cons, List.mem_cons]
          constructor
          · rintro ((same | before) | inside)
            · exact Or.inr (Or.inl same)
            · exact Or.inl before
            · exact Or.inr (Or.inr inside)
          · rintro (before | same | inside)
            · exact Or.inl (Or.inr before)
            · exact Or.inl (Or.inl same)
            · exact Or.inr inside
        · intro back
          rw [List.cons_append, firsts, if_neg old, firsts, if_neg old, splits back]
          rfl

variable [LinearOrder Time]

omit [DecidableEq Key] in
theorem firstAt_congr {others : List (Key × Time)} (same : entries.Perm others)
    (entry : Key × Time) : FirstAt entries entry ↔ FirstAt others entry := by
  rw [FirstAt, FirstAt, same.mem_iff]
  apply and_congr_right
  intro _
  exact forall_congr' fun other => by rw [same.mem_iff]

theorem firstTimes_congr {others : List (Key × Time)} (same : entries.Perm others) :
    firstTimes entries = firstTimes others := by
  have filtered : (entries.filter (FirstAt entries ·)).Perm
      (others.filter (FirstAt others ·)) := by
    have tests : (fun entry => decide (FirstAt entries entry)) =
        fun entry => decide (FirstAt others entry) := by
      funext entry
      exact decide_eq_decide.mpr (firstAt_congr same entry)
    rw [tests]
    exact same.filter _
  have sorted := (List.perm_insertionSort (· ≤ ·) _).trans
    ((filtered.map Prod.snd).dedup.trans (List.perm_insertionSort (· ≤ ·) _).symm)
  exact sorted.eq_of_pairwise' (List.pairwise_insertionSort _ _)
    (List.pairwise_insertionSort _ _)

theorem unambiguous_congr {deadline : Time → Time} {others : List (Key × Time)}
    (same : entries.Perm others) :
    Unambiguous deadline entries ↔ Unambiguous deadline others := by
  rw [Unambiguous, Unambiguous, firstTimes_congr same]
  simp only [firstAt_congr same]

theorem mem_firsts {seen : List Key} {entry : Key × Time}
    (ordered : entries.Pairwise fun first second => first.2 ≤ second.2) :
    entry ∈ firsts seen entries ↔ entry.1 ∉ seen ∧ FirstAt entries entry := by
  induction entries generalizing seen with
  | nil =>
      constructor
      · intro member
        cases member
      · rintro ⟨-, member, -⟩
        cases member
  | cons head rest induction =>
      rcases List.pairwise_cons.mp ordered with ⟨fromHead, inRest⟩
      have skip : head.1 ≠ entry.1 → (FirstAt (head :: rest) entry ↔ FirstAt rest entry) := by
        intro different
        constructor
        · rintro ⟨member, least⟩
          constructor
          · rcases List.mem_cons.mp member with rfl | later
            · exact absurd rfl different
            · exact later
          · exact fun other later => least other (List.mem_cons_of_mem _ later)
        · rintro ⟨member, least⟩
          constructor
          · exact List.mem_cons_of_mem _ member
          · intro other inside same
            rcases List.mem_cons.mp inside with rfl | later
            · exact absurd same different
            · exact least other later same
      rw [firsts]
      by_cases old : head.1 ∈ seen
      · rw [if_pos old, induction inRest]
        apply and_congr_right
        intro isNew
        apply (skip _).symm
        intro same
        exact isNew (same ▸ old)
      · rw [if_neg old, List.mem_cons, induction inRest]
        by_cases same : head.1 = entry.1
        · constructor
          · rintro (rfl | ⟨isNew, -⟩)
            · refine ⟨old, List.mem_cons_self, ?_⟩
              intro other inside _
              rcases List.mem_cons.mp inside with rfl | later
              · exact le_refl _
              · exact fromHead other later
            · exact absurd (List.mem_cons.mpr (Or.inl same.symm)) isNew
          · rintro ⟨isNew, member, least⟩
            rcases List.mem_cons.mp member with atHead | later
            · exact Or.inl atHead
            · have noLater := least head List.mem_cons_self same
              have equal : entry = head :=
                Prod.ext same.symm (le_antisymm noLater (fromHead entry later))
              exact Or.inl equal
        · rw [skip same]
          constructor
          · rintro (rfl | ⟨isNew, first⟩)
            · exact absurd rfl same
            · exact ⟨fun old => isNew (List.mem_cons_of_mem _ old), first⟩
          · rintro ⟨isNew, first⟩
            refine Or.inr ⟨?_, first⟩
            intro inside
            rcases List.mem_cons.mp inside with equal | old
            · exact same equal.symm
            · exact isNew old

variable {others : List (Key × Time)}

theorem firsts_perm (same : entries.Perm others)
    (ordered : entries.Pairwise fun first second => first.2 ≤ second.2)
    (orderedToo : others.Pairwise fun first second => first.2 ≤ second.2) :
    (firsts [] entries).Perm (firsts [] others) := by
  apply (List.perm_ext_iff_of_nodup (nodup_firsts [] entries) (nodup_firsts [] others)).mpr
  intro entry
  rw [mem_firsts ordered, mem_firsts orderedToo, firstAt_congr same]

theorem repeats_perm (same : entries.Perm others)
    (ordered : entries.Pairwise fun first second => first.2 ≤ second.2)
    (orderedToo : others.Pairwise fun first second => first.2 ≤ second.2) :
    (repeats [] entries).Perm (repeats [] others) := by
  have whole : (firsts [] entries ++ repeats [] entries).Perm
      (firsts [] entries ++ repeats [] others) :=
    (firsts_append_repeats [] entries).trans (same.trans
      ((firsts_append_repeats [] others).symm.trans
        ((firsts_perm same ordered orderedToo).symm.append_right _)))
  exact (List.perm_append_left_iff _).mp whole

end Firsts

section Openings

variable [LinearOrder Time] {deadline : Time → Time}

theorem opened_append_passed (deadline : Time → Time) (limit : Option Time)
    (entries : List (Key × Time)) :
    (opened deadline limit entries ++ passed deadline limit entries).Perm entries := by
  induction entries generalizing limit with
  | nil => exact .refl []
  | cons entry rest induction =>
      rw [opened, passed]
      split
      · exact List.perm_middle.trans ((induction limit).cons entry)
      · exact (induction _).cons entry

theorem opened_sublist (deadline : Time → Time) (limit : Option Time)
    (entries : List (Key × Time)) : (opened deadline limit entries).Sublist entries := by
  induction entries generalizing limit with
  | nil => exact List.Sublist.refl []
  | cons entry rest induction =>
      rw [opened]
      split
      · exact (induction limit).cons entry
      · exact (induction _).cons_cons entry

theorem map_opened (deadline : Time → Time) (limit : Option Time) (entries : List (Key × Time)) :
    (opened deadline limit entries).map Prod.snd =
      openings deadline limit (entries.map Prod.snd) := by
  induction entries generalizing limit with
  | nil => rfl
  | cons entry rest induction =>
      rw [opened, List.map_cons, openings]
      split
      · exact induction limit
      · rw [List.map_cons, induction]

theorem openings_sublist (deadline : Time → Time) (limit : Option Time) (times : List Time) :
    (openings deadline limit times).Sublist times := by
  induction times generalizing limit with
  | nil => exact List.Sublist.refl []
  | cons time rest induction =>
      rw [openings]
      split
      · exact (induction limit).cons time
      · exact (induction _).cons_cons time

theorem not_covers_of_mem_openings {limit : Option Time}
    {times : List Time} (ordered : times.Pairwise (· ≤ ·)) {time : Time}
    (member : time ∈ openings deadline limit times) : ¬ Covers limit time := by
  induction times generalizing limit with
  | nil => cases member
  | cons head rest induction =>
      rcases List.pairwise_cons.mp ordered with ⟨fromHead, inRest⟩
      rw [openings] at member
      split at member
      · exact induction inRest member
      · rename_i free
        rcases List.mem_cons.mp member with rfl | further
        · exact free
        · intro covered
          have atLeast := fromHead time ((openings_sublist _ _ _).subset further)
          apply free
          cases limit with
          | none => exact covered
          | some limit => exact le_trans atLeast covered

theorem pairwise_openings (later : ∀ time, time ≤ deadline time) (limit : Option Time)
    {times : List Time} (ordered : times.Pairwise (· ≤ ·)) :
    (openings deadline limit times).Pairwise (· < ·) := by
  induction times generalizing limit with
  | nil => exact List.Pairwise.nil
  | cons head rest induction =>
      rcases List.pairwise_cons.mp ordered with ⟨-, inRest⟩
      rw [openings]
      split
      · exact induction limit inRest
      · refine List.pairwise_cons.mpr ⟨?_, induction _ inRest⟩
        intro time further
        have beyond := not_covers_of_mem_openings inRest further
        exact lt_of_le_of_lt (later head) (lt_of_not_ge beyond)

theorem openings_apart (limit : Option Time) {times : List Time}
    (ordered : times.Pairwise (· ≤ ·)) :
    (openings deadline limit times).Pairwise fun first second => deadline first < second := by
  induction times generalizing limit with
  | nil => exact List.Pairwise.nil
  | cons head rest induction =>
      rcases List.pairwise_cons.mp ordered with ⟨-, inRest⟩
      rw [openings]
      split
      · exact induction limit inRest
      · refine List.pairwise_cons.mpr ⟨?_, induction _ inRest⟩
        intro time further
        exact lt_of_not_ge (not_covers_of_mem_openings inRest further)

theorem covers_opened (later : ∀ time, time ≤ deadline time) {limit : Option Time}
    {entries : List (Key × Time)}
    (ordered : entries.Pairwise fun first second => first.2 ≤ second.2)
    {entry : Key × Time} (member : entry ∈ entries) :
    Covers limit entry.2 ∨ ∃ opener ∈ opened deadline limit entries,
      opener.2 ≤ entry.2 ∧ entry.2 ≤ deadline opener.2 := by
  induction entries generalizing limit with
  | nil => cases member
  | cons head rest induction =>
      rcases List.pairwise_cons.mp ordered with ⟨fromHead, inRest⟩
      rw [opened]
      split
      · rename_i covered
        rcases List.mem_cons.mp member with rfl | further
        · exact Or.inl covered
        · exact induction inRest further
      · right
        rcases List.mem_cons.mp member with rfl | further
        · exact ⟨entry, List.mem_cons_self, le_refl _, later _⟩
        · rcases @induction (some (deadline head.2)) inRest further with
            covered | ⟨opener, inside, window⟩
          · exact ⟨head, List.mem_cons_self, fromHead entry further, covered⟩
          · exact ⟨opener, List.mem_cons_of_mem head inside, window⟩

theorem openings_twice (later : ∀ time, time ≤ deadline time) (limit : Option Time) (time : Time)
    (rest : List Time) :
    openings deadline limit (time :: time :: rest) = openings deadline limit (time :: rest) := by
  by_cases covered : Covers limit time
  · rw [openings, if_pos covered]
  · have again : Covers (some (deadline time)) time := later time
    rw [openings, if_neg covered, openings, if_pos again, openings, if_neg covered]

theorem openings_dedup (later : ∀ time, time ≤ deadline time) (limit : Option Time)
    {times : List Time} (ordered : times.Pairwise (· ≤ ·)) :
    openings deadline limit times.dedup = openings deadline limit times := by
  induction times generalizing limit with
  | nil => rfl
  | cons time rest induction =>
      rcases List.pairwise_cons.mp ordered with ⟨fromHead, inRest⟩
      by_cases again : time ∈ rest
      · rw [List.dedup_cons_of_mem again, induction limit inRest]
        cases rest with
        | nil => cases again
        | cons next rest =>
            have noLater : next ≤ time := by
              rcases List.mem_cons.mp again with rfl | further
              · exact le_refl _
              · exact (List.pairwise_cons.mp inRest).1 time further
            have same := le_antisymm noLater (fromHead next List.mem_cons_self)
            rw [same, openings_twice later]
      · rw [List.dedup_cons_of_notMem again, openings, openings]
        split
        · exact induction limit inRest
        · rw [induction _ inRest]

theorem not_covers_of_openings_append {limit : Option Time} {front : List Time} {time : Time}
    {rest : List Time}
    (ordered : (front ++ time :: rest).Pairwise (· ≤ ·)) (before : ∀ other ∈ front, other < time)
    (member : time ∈ openings deadline limit (front ++ time :: rest)) :
    ∃ last, (∀ entries : List (Key × Time), ∀ front', front'.map Prod.snd = front →
      opened deadline limit (front' ++ entries) =
        opened deadline limit front' ++ opened deadline last entries) ∧ ¬ Covers last time := by
  induction front generalizing limit with
  | nil =>
      refine ⟨limit, ?_, not_covers_of_mem_openings ordered member⟩
      intro entries front' none
      rw [List.map_eq_nil_iff.mp none]
      rfl
  | cons head tail induction =>
      rw [List.cons_append] at ordered member
      have inRest := (List.pairwise_cons.mp ordered).2
      have beforeToo : ∀ other ∈ tail, other < time :=
        fun other inside => before other (List.mem_cons_of_mem _ inside)
      rw [openings] at member
      split at member
      · rename_i covered
        rcases induction inRest beforeToo member with ⟨last, splits, free⟩
        refine ⟨last, ?_, free⟩
        intro entries front' times
        rcases List.map_eq_cons_iff.mp times with ⟨entry, front'', rfl, rfl, restTimes⟩
        rw [List.cons_append, opened, if_pos covered, opened, if_pos covered]
        exact splits entries front'' restTimes
      · rename_i uncovered
        rcases List.mem_cons.mp member with same | further
        · exact absurd (before head List.mem_cons_self) (by rw [same]; exact lt_irrefl _)
        · rcases induction inRest beforeToo further with ⟨last, splits, free⟩
          refine ⟨last, ?_, free⟩
          intro entries front' times
          rcases List.map_eq_cons_iff.mp times with ⟨entry, front'', rfl, rfl, restTimes⟩
          rw [List.cons_append, opened, if_neg uncovered, opened, if_neg uncovered,
            splits entries front'' restTimes]
          rfl

end Openings

section Order

variable [DecidableEq Key] [LinearOrder Time] {deadline : Time → Time}
  {entries others : List (Key × Time)}

theorem times_ordered {entries : List (Key × Time)}
    (ordered : entries.Pairwise fun first second => first.2 ≤ second.2) :
    ((firsts [] entries).map Prod.snd).Pairwise (· ≤ ·) :=
  List.pairwise_map.mpr (ordered.sublist (firsts_sublist [] entries))

theorem openings_firstTimes (later : ∀ time, time ≤ deadline time)
    (ordered : entries.Pairwise fun first second => first.2 ≤ second.2) :
    openings deadline none (firstTimes entries) =
      openings deadline none ((firsts [] entries).map Prod.snd) := by
  have sorted := times_ordered ordered
  rw [← openings_dedup later none sorted]
  congr 1
  have same : (firstTimes entries).Perm ((firsts [] entries).map Prod.snd).dedup := by
    refine (List.perm_insertionSort _ _).trans ?_
    apply (List.perm_ext_iff_of_nodup (List.nodup_dedup _) (List.nodup_dedup _)).mpr
    intro time
    rw [List.mem_dedup, List.mem_dedup, List.mem_map, List.mem_map]
    apply exists_congr
    intro entry
    rw [mem_firsts ordered, List.mem_filter, decide_eq_true_iff]
    apply and_congr_left
    intro _
    constructor
    · exact fun inside => ⟨List.not_mem_nil, inside.2⟩
    · exact fun first => ⟨first.2.1, first.2⟩
  exact same.eq_of_pairwise' (List.pairwise_insertionSort _ _)
    (sorted.sublist (List.dedup_sublist _))

omit [DecidableEq Key] [LinearOrder Time] in
theorem eq_of_map_snd_eq {first second : List (Key × Time)}
    (times : first.map Prod.snd = second.map Prod.snd)
    (same : ∀ entry ∈ first, ∀ other ∈ second, entry.2 = other.2 → entry = other) :
    first = second := by
  induction first generalizing second with
  | nil => exact (List.map_eq_nil_iff.mp times.symm).symm
  | cons entry rest induction =>
      rcases List.map_eq_cons_iff.mp times.symm with ⟨other, restToo, rfl, atHead, inRest⟩
      rw [same entry List.mem_cons_self other List.mem_cons_self atHead.symm]
      congr 1
      apply induction inRest.symm
      intro inside member other memberToo
      exact same inside (List.mem_cons_of_mem _ member) other (List.mem_cons_of_mem _ memberToo)

/-- Without an ambiguous time the windows do not depend on the order within a time. -/
theorem opened_eq (later : ∀ time, time ≤ deadline time)
    (unambiguous : Unambiguous deadline entries) (same : entries.Perm others)
    (ordered : entries.Pairwise fun first second => first.2 ≤ second.2)
    (orderedToo : others.Pairwise fun first second => first.2 ≤ second.2) :
    opened deadline none (firsts [] entries) = opened deadline none (firsts [] others) := by
  have times : (firsts [] entries).map Prod.snd = (firsts [] others).map Prod.snd :=
    ((firsts_perm same ordered orderedToo).map Prod.snd).eq_of_pairwise'
      (times_ordered ordered) (times_ordered orderedToo)
  apply eq_of_map_snd_eq
  · rw [map_opened, map_opened, times]
  · rintro ⟨key, time⟩ member ⟨other, timeToo⟩ memberToo rfl
    have opens : time ∈ openings deadline none (firstTimes entries) := by
      rw [openings_firstTimes later ordered, ← map_opened]
      exact List.mem_map_of_mem member
    have first := (mem_firsts ordered).mp ((opened_sublist _ _ _).subset member)
    have second := (mem_firsts orderedToo).mp ((opened_sublist _ _ _).subset memberToo)
    rw [unambiguous time opens key other first.2 ((firstAt_congr same _).mpr second.2)]

theorem passed_perm (later : ∀ time, time ≤ deadline time)
    (unambiguous : Unambiguous deadline entries) (same : entries.Perm others)
    (ordered : entries.Pairwise fun first second => first.2 ≤ second.2)
    (orderedToo : others.Pairwise fun first second => first.2 ≤ second.2) :
    (passed deadline none (firsts [] entries)).Perm (passed deadline none (firsts [] others)) := by
  have whole := (opened_append_passed deadline none (firsts [] entries)).trans
    ((firsts_perm same ordered orderedToo).trans
      (opened_append_passed deadline none (firsts [] others)).symm)
  rw [opened_eq later unambiguous same ordered orderedToo] at whole
  exact (List.perm_append_left_iff _).mp whole

theorem mem_opened {front back : List (Key × Time)} {key : Key} {time : Time}
    (later : ∀ time, time ≤ deadline time)
    (ordered : (front ++ (key, time) :: back).Pairwise fun first second => first.2 ≤ second.2)
    (before : ∀ entry ∈ front, entry.2 < time)
    (first : FirstAt (front ++ (key, time) :: back) (key, time))
    (opens : time ∈ openings deadline none (firstTimes (front ++ (key, time) :: back))) :
    (key, time) ∈ opened deadline none (firsts [] (front ++ (key, time) :: back)) := by
  rcases firsts_append [] front with ⟨seen, known, splits⟩
  have isNew : key ∉ seen := by
    intro old
    rcases ((known key).mp old).resolve_left List.not_mem_nil |> List.mem_map.mp with
      ⟨entry, inside, same⟩
    have noEarlier := first.2 entry (List.mem_append_left _ inside) same
    exact absurd (before entry inside) (not_lt.mpr noEarlier)
  have times := times_ordered ordered
  rw [openings_firstTimes later ordered] at opens
  rw [splits, firsts, if_neg isNew] at opens times ⊢
  rw [List.map_append, List.map_cons] at opens times
  have beforeToo : ∀ other ∈ (firsts [] front).map Prod.snd, other < time := by
    intro other member
    rcases List.mem_map.mp member with ⟨entry, inside, rfl⟩
    exact before entry ((firsts_sublist [] front).subset inside)
  rcases not_covers_of_openings_append times beforeToo opens with ⟨last, cut, free⟩
  rw [cut _ _ rfl, opened, if_neg free]
  exact List.mem_append_right _ List.mem_cons_self

theorem opened_unique (later : ∀ time, time ≤ deadline time)
    (ordered : entries.Pairwise fun first second => first.2 ≤ second.2) {first second : Key}
    {time : Time} (member : (first, time) ∈ opened deadline none (firsts [] entries))
    (memberToo : (second, time) ∈ opened deadline none (firsts [] entries)) : first = second := by
  have increasing := pairwise_openings later none (times_ordered ordered)
  rw [← map_opened] at increasing
  exact congrArg Prod.fst
    (List.inj_on_of_nodup_map (increasing.imp ne_of_lt) member memberToo rfl)

end Order

end Orbital.Foundation.Cooldown

/-! ## A cooldown over batches

The entries come in batches. Who goes on from batch to batch knows the keys and the last
window of the batches before; who starts anew with every batch knows neither. Both open the
same windows if and only if no batch starts in a window or repeats a key that matters.
-/

namespace Orbital.Foundation.Cooldown

variable {Key Time : Type}

section Firsts

variable [DecidableEq Key]

theorem firsts_cons_old {seen : List Key} {entry : Key × Time} (old : entry.1 ∈ seen)
    (rest : List (Key × Time)) : firsts seen (entry :: rest) = firsts seen rest :=
  if_pos old

theorem firsts_cons_new {seen : List Key} {entry : Key × Time} (isNew : entry.1 ∉ seen)
    (rest : List (Key × Time)) :
    firsts seen (entry :: rest) = entry :: firsts (entry.1 :: seen) rest :=
  if_neg isNew

theorem firsts_congr {seen seenToo : List Key} (same : ∀ key, key ∈ seenToo ↔ key ∈ seen)
    (entries : List (Key × Time)) : firsts seenToo entries = firsts seen entries := by
  induction entries generalizing seen seenToo with
  | nil => rfl
  | cons entry rest induction =>
      by_cases old : entry.1 ∈ seen
      · rw [firsts_cons_old old, firsts_cons_old ((same entry.1).mpr old), induction same]
      · have isNew : entry.1 ∉ seenToo := fun inside => old ((same entry.1).mp inside)
        rw [firsts_cons_new old, firsts_cons_new isNew]
        congr 1
        apply induction
        intro key
        rw [List.mem_cons, List.mem_cons, same]

theorem firsts_append_keys (seen : List Key) (front back : List (Key × Time)) :
    firsts seen (front ++ back) =
      firsts seen front ++ firsts (seen ++ front.map Prod.fst) back := by
  rcases firsts_append seen front with ⟨seenToo, known, splits⟩
  rw [splits]
  congr 1
  apply firsts_congr
  intro key
  rw [known, List.mem_append]

end Firsts

variable [LinearOrder Time]

section Limit

variable (deadline : Time → Time)

def limitAfter (limit : Option Time) : List (Key × Time) → Option Time
  | [] => limit
  | entry :: rest =>
      if Covers limit entry.2 then limitAfter limit rest
      else limitAfter (some (deadline entry.2)) rest

theorem opened_append (limit : Option Time) (front back : List (Key × Time)) :
    opened deadline limit (front ++ back) =
      opened deadline limit front ++ opened deadline (limitAfter deadline limit front) back := by
  induction front generalizing limit with
  | nil => rfl
  | cons entry rest induction =>
      rw [List.cons_append, opened, opened, limitAfter]
      by_cases covered : Covers limit entry.2
      · rw [if_pos covered, if_pos covered, if_pos covered]
        exact induction limit
      · rw [if_neg covered, if_neg covered, if_neg covered, induction, List.cons_append]

theorem limitAfter_append (limit : Option Time) (front back : List (Key × Time)) :
    limitAfter deadline limit (front ++ back) =
      limitAfter deadline (limitAfter deadline limit front) back := by
  induction front generalizing limit with
  | nil => rfl
  | cons entry rest induction =>
      rw [List.cons_append, limitAfter, limitAfter]
      split
      · exact induction limit
      · exact induction _

end Limit

section Batches

variable [DecidableEq Key] (deadline : Time → Time)

def windows (entries : List (Key × Time)) : List (Key × Time) :=
  opened deadline none (firsts [] entries)

def lastDeadline (entries : List (Key × Time)) : Option Time :=
  limitAfter deadline none (firsts [] entries)

def windowsAfter (earlier later : List (Key × Time)) : List (Key × Time) :=
  opened deadline (lastDeadline deadline earlier) (firsts (earlier.map Prod.fst) later)

theorem windowsAfter_nil (later : List (Key × Time)) :
    windowsAfter deadline [] later = windows deadline later :=
  rfl

theorem windowsAfter_append (earlier front back : List (Key × Time)) :
    windowsAfter deadline earlier (front ++ back) =
      windowsAfter deadline earlier front ++ windowsAfter deadline (earlier ++ front) back := by
  have limits : lastDeadline deadline (earlier ++ front) =
      limitAfter deadline (lastDeadline deadline earlier)
        (firsts (earlier.map Prod.fst) front) := by
    rw [lastDeadline, firsts_append_keys, limitAfter_append]
    rfl
  rw [windowsAfter, firsts_append_keys, opened_append, windowsAfter, windowsAfter, limits,
    List.map_append]

/-- A batch that does not feel what came earlier: no key that opens a window of it came
before, and its first entry falls into no window. -/
structure Apart (earlier later : List (Key × Time)) : Prop where
  isNew : ∀ entry ∈ windows deadline later, entry.1 ∉ earlier.map Prod.fst
  free : ∀ entry ∈ later.head?, ¬ Covers (lastDeadline deadline earlier) entry.2

instance (earlier later : List (Key × Time)) : Decidable (Apart deadline earlier later) :=
  decidable_of_iff
    ((∀ entry ∈ windows deadline later, entry.1 ∉ earlier.map Prod.fst) ∧
      ∀ entry ∈ later.head?, ¬ Covers (lastDeadline deadline earlier) entry.2)
    ⟨fun both => ⟨both.1, both.2⟩, fun apart => ⟨apart.isNew, apart.free⟩⟩

variable {deadline}

theorem key_of_mem_windowsAfter {earlier later : List (Key × Time)} {entry : Key × Time}
    (member : entry ∈ windowsAfter deadline earlier later) : entry.1 ∉ earlier.map Prod.fst :=
  key_of_mem_firsts ((opened_sublist deadline _ _).subset member)

theorem opened_forget {earlier seen seenToo : List Key} {limit : Option Time}
    {entries : List (Key × Time)} (known : ∀ key, key ∈ seenToo ↔ key ∈ earlier ∨ key ∈ seen)
    (isNew : ∀ entry ∈ opened deadline limit (firsts seen entries), entry.1 ∉ earlier) :
    opened deadline limit (firsts seenToo entries) =
      opened deadline limit (firsts seen entries) := by
  induction entries generalizing seen seenToo limit with
  | nil => rfl
  | cons entry rest induction =>
      have grows : ∀ key, key ∈ entry.1 :: seenToo ↔ key ∈ earlier ∨ key ∈ entry.1 :: seen := by
        intro key
        rw [List.mem_cons, List.mem_cons, known, or_left_comm]
      by_cases old : entry.1 ∈ seen
      · rw [firsts_cons_old old] at isNew ⊢
        rw [firsts_cons_old ((known entry.1).mpr (Or.inr old))]
        exact induction known isNew
      · rw [firsts_cons_new old, opened] at isNew
        rw [firsts_cons_new old, opened.eq_2 _ limit entry (firsts (entry.1 :: seen) rest)]
        by_cases covered : Covers limit entry.2
        · rw [if_pos covered] at isNew ⊢
          by_cases before : entry.1 ∈ earlier
          · rw [firsts_cons_old ((known entry.1).mpr (Or.inl before))]
            apply induction _ isNew
            intro key
            rw [known, List.mem_cons]
            constructor
            · exact Or.imp_right Or.inr
            · rintro (inside | same | inside)
              · exact Or.inl inside
              · exact Or.inl (same ▸ before)
              · exact Or.inr inside
          · have isFirst : entry.1 ∉ seenToo := by
              rw [known]
              exact not_or.mpr ⟨before, old⟩
            rw [firsts_cons_new isFirst, opened, if_pos covered]
            exact induction grows isNew
        · rw [if_neg covered] at isNew ⊢
          have isFirst : entry.1 ∉ seenToo := by
            rw [known]
            exact not_or.mpr ⟨isNew entry List.mem_cons_self, old⟩
          rw [firsts_cons_new isFirst, opened, if_neg covered]
          congr 1
          exact induction grows fun other inside => isNew other (List.mem_cons_of_mem entry inside)

theorem windows_cons (entry : Key × Time) (rest : List (Key × Time)) :
    windows deadline (entry :: rest) =
      entry :: opened deadline (some (deadline entry.2)) (firsts [entry.1] rest) := by
  have free : ¬ Covers none entry.2 := id
  rw [windows, firsts_cons_new List.not_mem_nil, opened, if_neg free]

theorem Apart.windowsAfter_eq {earlier later : List (Key × Time)}
    (apart : Apart deadline earlier later) :
    windowsAfter deadline earlier later = windows deadline later := by
  cases later with
  | nil => rfl
  | cons entry rest =>
      have isNew := apart.isNew
      have free := apart.free entry rfl
      rw [windows_cons] at isNew ⊢
      have isFirst := isNew entry List.mem_cons_self
      rw [windowsAfter, firsts_cons_new isFirst, opened, if_neg free]
      congr 1
      have known : ∀ key, key ∈ entry.1 :: earlier.map Prod.fst ↔
          key ∈ earlier.map Prod.fst ∨ key ∈ [entry.1] := by
        intro key
        rw [List.mem_cons, List.mem_singleton, or_comm]
      apply opened_forget known
      exact fun other inside => isNew other (List.mem_cons_of_mem entry inside)

theorem not_covers_of_mem_windowsAfter {earlier later : List (Key × Time)} {entry : Key × Time}
    (ordered : later.Pairwise fun first second => first.2 ≤ second.2)
    (member : entry ∈ windowsAfter deadline earlier later) :
    ¬ Covers (lastDeadline deadline earlier) entry.2 := by
  have times : ((firsts (earlier.map Prod.fst) later).map Prod.snd).Pairwise (· ≤ ·) :=
    List.pairwise_map.mpr (ordered.sublist (firsts_sublist _ later))
  have opens : entry.2 ∈ openings deadline (lastDeadline deadline earlier)
      ((firsts (earlier.map Prod.fst) later).map Prod.snd) := by
    rw [← map_opened]
    exact List.mem_map_of_mem member
  exact not_covers_of_mem_openings times opens

theorem apart_of_append_eq {earlier later rest fresh : List (Key × Time)}
    (ordered : later.Pairwise fun first second => first.2 ≤ second.2)
    (same : windows deadline later ++ fresh =
      windowsAfter deadline earlier later ++ windowsAfter deadline (earlier ++ later) rest) :
    Apart deadline earlier later where
  isNew entry inside := by
    have member := List.mem_append_left fresh inside
    rw [same] at member
    rcases List.mem_append.mp member with here | behind
    · exact key_of_mem_windowsAfter here
    · have apart := key_of_mem_windowsAfter behind
      rw [List.map_append, List.mem_append, not_or] at apart
      exact apart.1
  free entry isFirst := by
    cases later with
    | nil => cases isFirst
    | cons head tail =>
        cases isFirst
        rw [windows_cons, List.cons_append] at same
        cases here : windowsAfter deadline earlier (entry :: tail) with
        | nil =>
            -- a window that only a later batch opens has a key of a later batch
            rw [here, List.nil_append] at same
            have member : entry ∈ windowsAfter deadline (earlier ++ entry :: tail) rest := by
              rw [← same]
              exact List.mem_cons_self
            have apart := key_of_mem_windowsAfter member
            rw [List.map_append, List.map_cons] at apart
            exact absurd (List.mem_append_right _ List.mem_cons_self) apart
        | cons window windows =>
            rw [here, List.cons_append, List.cons.injEq] at same
            apply not_covers_of_mem_windowsAfter ordered
            rw [here, same.1]
            exact List.mem_cons_self

/-- Batches that go on from earlier entries and batches that start anew open the same
windows if and only if every batch is apart from all that came before. -/
theorem flatMap_windows_iff_after {earlier : List (Key × Time)}
    {batches : List (List (Key × Time))}
    (ordered : batches.flatten.Pairwise fun first second => first.2 ≤ second.2) :
    batches.flatMap (windows deadline) = windowsAfter deadline earlier batches.flatten ↔
      ∀ front batch rest, batches = front ++ batch :: rest →
        Apart deadline (earlier ++ front.flatten) batch := by
  induction batches generalizing earlier with
  | nil =>
      constructor
      · intro _ front batch rest none
        cases front <;> cases none
      · exact fun _ => rfl
  | cons batch rest induction =>
      rw [List.flatten_cons] at ordered ⊢
      have parts := List.pairwise_append.mp ordered
      rw [List.flatMap_cons, windowsAfter_append]
      constructor
      · intro same
        have apart := apart_of_append_eq parts.1 same
        rw [apart.windowsAfter_eq, List.append_cancel_left_eq, induction parts.2.1] at same
        intro front other tail split
        cases front with
        | nil =>
            cases split
            rw [List.flatten_nil, List.append_nil]
            exact apart
        | cons first front =>
            rw [List.cons_append, List.cons.injEq] at split
            rw [List.flatten_cons, ← split.1, ← List.append_assoc]
            exact same front other tail split.2
      · intro apart
        have first := apart [] batch rest rfl
        rw [List.flatten_nil, List.append_nil] at first
        rw [first.windowsAfter_eq, List.append_cancel_left_eq, induction parts.2.1]
        intro front other tail split
        have later := apart (batch :: front) other tail (by rw [split, List.cons_append])
        rw [List.flatten_cons, ← List.append_assoc] at later
        exact later

/-- Batches that start anew open the windows of the whole if and only if every batch is
apart from all that came before. -/
theorem flatMap_windows_iff {batches : List (List (Key × Time))}
    (ordered : batches.flatten.Pairwise fun first second => first.2 ≤ second.2) :
    batches.flatMap (windows deadline) = windows deadline batches.flatten ↔
      ∀ front batch rest, batches = front ++ batch :: rest →
        Apart deadline front.flatten batch := by
  rw [← windowsAfter_nil, flatMap_windows_iff_after ordered]
  rfl

end Batches

end Orbital.Foundation.Cooldown
