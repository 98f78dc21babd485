import Mathlib.Data.List.Basic

/-! # Work that is resumed from a mark

A run writes to a store and saves marks on the way. After a crash, the next run starts from
the mark that was saved last.
-/

namespace Orbital.Foundation

inductive Effect (Write Mark : Type)
  | write (write : Write)
  | save (mark : Mark)

def Effect.isSave {Write Mark : Type} : Effect Write Mark → Bool
  | .write _ => false
  | .save _ => true

structure Progress (Store Mark : Type) where
  store : Store
  mark : Mark

namespace Resumption

variable {Store Write Mark : Type}

def Repeatable (put : Store → Write → Store) : Prop :=
  ∀ store writes, List.foldl put (List.foldl put store writes) writes = List.foldl put store writes

def perform (put : Store → Write → Store) (progress : Progress Store Mark) :
    Effect Write Mark → Progress Store Mark
  | .write write => { progress with store := put progress.store write }
  | .save mark => { progress with mark := mark }

def performAll (put : Store → Write → Store) (progress : Progress Store Mark)
    (effects : List (Effect Write Mark)) : Progress Store Mark :=
  effects.foldl (perform put) progress

variable (put : Store → Write → Store) (effects : Mark → List (Effect Write Mark))

def resumed (progress : Progress Store Mark) : List Nat → Progress Store Mark
  | [] => performAll put progress (effects progress.mark)
  | crash :: crashes =>
      resumed (performAll put progress ((effects progress.mark).take crash)) crashes

/-- Up to the first mark that a run saves there are writes, and from there on it goes on as a
run that starts from that mark. -/
def Restartable : Prop :=
  ∀ mark, ∃ writes : List Write,
    effects mark = writes.map .write ∨
      ∃ next, effects mark = writes.map .write ++ .save next :: effects next

variable {put effects}

theorem performAll_append (progress : Progress Store Mark)
    (front back : List (Effect Write Mark)) :
    performAll put progress (front ++ back) = performAll put (performAll put progress front) back :=
  List.foldl_append

theorem performAll_writes (progress : Progress Store Mark) (writes : List Write) :
    performAll put progress (writes.map .write) =
      { progress with store := writes.foldl put progress.store } := by
  induction writes generalizing progress with
  | nil => rfl
  | cons write writes induction => exact induction { progress with store := put progress.store write }

theorem performAll_again (repeatable : Repeatable put) (progress : Progress Store Mark)
    (writes : List Write) (rest : List (Effect Write Mark)) (crash : Nat) :
    performAll put (performAll put progress ((writes.take crash).map .write))
        (writes.map .write ++ rest) =
      performAll put progress (writes.map .write ++ rest) := by
  have split : writes.map Effect.write ++ rest =
      (writes.take crash).map .write ++ ((writes.drop crash).map .write ++ rest) := by
    rw [← List.append_assoc, ← List.map_append, List.take_append_drop]
  rw [split, performAll_append, performAll_append progress, performAll_writes, performAll_writes,
    repeatable]

theorem mark_writes (progress : Progress Store Mark) (writes : List Write) :
    (performAll put progress (writes.map .write)).mark = progress.mark := by
  rw [performAll_writes]

theorem performAll_take (repeatable : Repeatable put) (restartable : Restartable effects)
    (progress : Progress Store Mark) (crash : Nat) :
    performAll put (performAll put progress ((effects progress.mark).take crash))
        (effects (performAll put progress ((effects progress.mark).take crash)).mark) =
      performAll put progress (effects progress.mark) := by
  induction crash using Nat.strongRecOn generalizing progress with
  | ind crash induction =>
      rcases restartable progress.mark with ⟨writes, all | ⟨next, split⟩⟩
      · have again := performAll_again repeatable progress writes [] crash
        rw [List.append_nil] at again
        rw [all, ← List.map_take, mark_writes, all]
        exact again
      · by_cases early : crash ≤ writes.length
        · have cut : (effects progress.mark).take crash = (writes.take crash).map .write := by
            rw [split, List.take_append_of_le_length (by simpa using early), List.map_take]
          rw [cut, mark_writes, split]
          exact performAll_again repeatable progress writes (.save next :: effects next) crash
        · rcases Nat.exists_eq_add_of_lt (Nat.lt_of_not_le early) with ⟨later, rfl⟩
          let front : List (Effect Write Mark) := writes.map .write ++ [.save next]
          have split : effects progress.mark = front ++ effects next := by
            rw [split, List.append_assoc]
            rfl
          have cut : (effects progress.mark).take (writes.length + later + 1) =
              front ++ (effects next).take later := by
            have long : writes.length + later + 1 = front.length + later := by
              simp [front]
              omega
            rw [split, long, List.take_length_add_append]
          have saved : (performAll put progress front).mark = next := by
            rw [performAll_append]
            rfl
          have ends := induction later (by omega) (performAll put progress front)
          rw [saved] at ends
          rw [cut, performAll_append, ends, split]
          exact (performAll_append progress front _).symm

theorem resumed_eq (repeatable : Repeatable put) (restartable : Restartable effects)
    (progress : Progress Store Mark) (crashes : List Nat) :
    resumed put effects progress crashes = performAll put progress (effects progress.mark) := by
  induction crashes generalizing progress with
  | nil => rfl
  | cons crash crashes induction =>
      rw [resumed, induction, performAll_take repeatable restartable]

end Resumption

end Orbital.Foundation
