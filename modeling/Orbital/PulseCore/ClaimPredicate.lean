import Orbital.Foundation.NumberText

/-! # `claimPredicate.ts`

When a claimable balance may be claimed: formulas over points in time. The source compares
the time of evaluation with the seconds of a relative term as they stand, without the close
time of the ledger that they count from.
-/

namespace Orbital.PulseCore.ClaimPredicate

open Foundation

/-! ## Formulas -/

inductive Predicate (Term : Type)
  | unconditional
  | not (predicate : Predicate Term)
  | and (predicates : List (Predicate Term))
  | or (predicates : List (Predicate Term))
  | before (term : Term)

namespace Predicate

variable {Term : Type}

mutual
def eval (value : Term → Bool) : Predicate Term → Bool
  | unconditional => true
  | not predicate => !eval value predicate
  | and predicates => every value predicates
  | or predicates => some value predicates
  | before term => value term

def every (value : Term → Bool) : List (Predicate Term) → Bool
  | [] => true
  | predicate :: rest => eval value predicate && every value rest

def some (value : Term → Bool) : List (Predicate Term) → Bool
  | [] => false
  | predicate :: rest => eval value predicate || some value rest
end

end Predicate

/-! ## The source -/

inductive TimeTerm
  | absBefore (timestamp : JsString)
  | relBefore (seconds : JsString)

/-- `parseInt(text, 10)` of a text without signs and blanks, none for `NaN`. -/
def parseInt (text : JsString) : Option Int :=
  match (Digits.read text).1 with
  | [] => none
  | digits => some (Digits.value digits)

/-- The seconds a term is compared with. `dateParse` is `Date.parse`, none for `NaN`. -/
def beforeSeconds (dateParse : JsString → Option Int) : TimeTerm → Option Int
  | .absBefore timestamp => (dateParse timestamp).map (· / 1000)
  | .relBefore seconds => parseInt seconds

/-- `now` is in milliseconds. No number is less than `NaN`. -/
def evaluatePredicate (dateParse : JsString → Option Int) (predicate : Predicate TimeTerm)
    (now : Int) : Bool :=
  predicate.eval fun term => (beforeSeconds dateParse term).any (now / 1000 < ·)

/-- A record of the SDK with the members that are read: whether `unconditional` is `true`, what
`not` is unless it is undefined, the arrays and the texts. -/
inductive RawPredicate
  | record (unconditional : Bool) (not : Option RawPredicate)
      (and or : Option (List RawPredicate)) (abs_before rel_before : Option JsString)

mutual
/-- None for the error of an invalid or ambiguous predicate. -/
def normalizeClaimPredicate : RawPredicate → Option (Predicate TimeTerm)
  | .record true _ _ _ _ _ => some .unconditional
  | .record false (some raw) _ _ _ _ => (normalizeClaimPredicate raw).map .not
  | .record false none (some raws) _ _ _ => (normalizeAll raws).map .and
  | .record false none none (some raws) _ _ => (normalizeAll raws).map .or
  | .record false none none none (some timestamp) _ => some (.before (.absBefore timestamp))
  | .record false none none none none (some seconds) => some (.before (.relBefore seconds))
  | .record false none none none none none => none

def normalizeAll : List RawPredicate → Option (List (Predicate TimeTerm))
  | [] => some []
  | raw :: rest => do return (← normalizeClaimPredicate raw) :: (← normalizeAll rest)
end

/-! ## The protocol -/

/-- A point in time as the protocol has it, in seconds, with the text of a date. -/
inductive ProtocolTerm
  | absBefore (instant : Int) (timestamp : JsString)
  | relBefore (seconds : Nat)

namespace ProtocolTerm

def text : ProtocolTerm → TimeTerm
  | absBefore _ timestamp => .absBefore timestamp
  | relBefore seconds => .relBefore (Digits.text (Digits.ofNat seconds))

/-- `closeTime` is that of the ledger that created the balance. -/
def deadline (closeTime : Nat) : ProtocolTerm → Int
  | absBefore instant _ => instant
  | relBefore seconds => closeTime + seconds

def holds (closeTime : Nat) (now : Int) (term : ProtocolTerm) : Bool :=
  now < 1000 * term.deadline closeTime

/-- The time does not lie between what the source compares it with and the deadline. -/
def Agrees (dateParse : JsString → Option Int) (closeTime : Nat) (now : Int) : ProtocolTerm → Prop
  | absBefore instant timestamp =>
      match dateParse timestamp with
      | none => instant ≤ now / 1000
      | some read =>
          now / 1000 < min (read / 1000) instant ∨ max (read / 1000) instant ≤ now / 1000
  | relBefore seconds => now / 1000 < seconds ∨ closeTime + seconds ≤ now / 1000

end ProtocolTerm

mutual
def raw {Term : Type} (text : Term → TimeTerm) : Predicate Term → RawPredicate
  | .unconditional => .record true none none none none none
  | .not predicate => .record false (some (raw text predicate)) none none none none
  | .and predicates => .record false none (some (raws text predicates)) none none none
  | .or predicates => .record false none none (some (raws text predicates)) none none
  | .before term =>
      match text term with
      | .absBefore timestamp => .record false none none none (some timestamp) none
      | .relBefore seconds => .record false none none none none (some seconds)

def raws {Term : Type} (text : Term → TimeTerm) : List (Predicate Term) → List RawPredicate
  | [] => []
  | predicate :: rest => raw text predicate :: raws text rest
end

/-! ## Agreement -/

section Normalize

variable {Term : Type} (text : Term → TimeTerm)

mutual
theorem normalize_raw : ∀ predicate, ∃ normalized,
    normalizeClaimPredicate (raw text predicate) = some normalized ∧
      ∀ value, normalized.eval value = predicate.eval (value ∘ text)
  | .unconditional => ⟨.unconditional, by simp [raw, normalizeClaimPredicate], fun _ => rfl⟩
  | .not predicate => by
      rcases normalize_raw predicate with ⟨normalized, read, same⟩
      refine ⟨.not normalized, by simp [raw, normalizeClaimPredicate, read], fun value => ?_⟩
      rw [Predicate.eval, Predicate.eval, same]
  | .and predicates => by
      rcases normalize_raws predicates with ⟨normalized, read, same⟩
      exact ⟨.and normalized, by simp [raw, normalizeClaimPredicate, read],
        fun value => (same value).1⟩
  | .or predicates => by
      rcases normalize_raws predicates with ⟨normalized, read, same⟩
      exact ⟨.or normalized, by simp [raw, normalizeClaimPredicate, read],
        fun value => (same value).2⟩
  | .before term => by
      refine ⟨.before (text term), ?_, fun value => rfl⟩
      rw [raw]
      cases text term <;> simp [normalizeClaimPredicate]

theorem normalize_raws : ∀ predicates, ∃ normalized,
    normalizeAll (raws text predicates) = some normalized ∧
      ∀ value, Predicate.every value normalized = Predicate.every (value ∘ text) predicates ∧
        Predicate.some value normalized = Predicate.some (value ∘ text) predicates
  | [] => ⟨[], by simp [raws, normalizeAll], fun _ => ⟨rfl, rfl⟩⟩
  | predicate :: rest => by
      rcases normalize_raw predicate with ⟨first, readFirst, sameFirst⟩
      rcases normalize_raws rest with ⟨others, readOthers, sameOthers⟩
      refine ⟨first :: others, by simp [raws, normalizeAll, readFirst, readOthers], fun value => ?_⟩
      simp only [Predicate.every, Predicate.some, sameFirst, sameOthers, and_self]
end

end Normalize

theorem parseInt_text (seconds : Nat) :
    parseInt (Digits.text (Digits.ofNat seconds)) = some (seconds : Int) := by
  have read := @Digits.read_text (Digits.ofNat seconds) [] (by simp)
  rcases Digits.ofNat_eq_cons seconds with ⟨first, rest, digits, -⟩
  have value := Digits.value_ofNat seconds
  rw [List.append_nil] at read
  rw [parseInt, read]
  rw [digits] at value ⊢
  simp only [value]

theorem agrees_iff (dateParse : JsString → Option Int) (closeTime : Nat) (now : Int)
    (term : ProtocolTerm) : term.Agrees dateParse closeTime now ↔
      (beforeSeconds dateParse term.text).any (now / 1000 < ·) = term.holds closeTime now := by
  rw [ProtocolTerm.holds, Bool.eq_iff_iff, decide_eq_true_eq]
  cases term with
  | absBefore instant timestamp =>
      rw [ProtocolTerm.Agrees, ProtocolTerm.text, beforeSeconds, ProtocolTerm.deadline]
      cases dateParse timestamp with
      | none =>
          simp only [Option.map_none, Option.any_none, Bool.false_eq_true, false_iff]
          omega
      | some read =>
          simp only [Option.map_some, Option.any_some, decide_eq_true_eq]
          omega
  | relBefore seconds =>
      rw [ProtocolTerm.Agrees, ProtocolTerm.text, beforeSeconds, parseInt_text,
        ProtocolTerm.deadline, Option.any_some, decide_eq_true_eq]
      omega

/-- Formulas of some terms are all evaluated as the protocol does exactly if the time agrees
with each of the terms. -/
theorem evaluates_iff (dateParse : JsString → Option Int) (closeTime : Nat) (now : Int)
    (terms : Set ProtocolTerm) :
    (∀ predicate : Predicate terms,
      (normalizeClaimPredicate (raw (fun term => term.val.text) predicate)).map
          (evaluatePredicate dateParse · now) =
        some (predicate.eval fun term => term.val.holds closeTime now)) ↔
      ∀ term ∈ terms, term.Agrees dateParse closeTime now := by
  have evaluated : ∀ predicate : Predicate terms,
      (normalizeClaimPredicate (raw (fun term => term.val.text) predicate)).map
          (evaluatePredicate dateParse · now) =
        some (predicate.eval fun term =>
          (beforeSeconds dateParse term.val.text).any (now / 1000 < ·)) := by
    intro predicate
    rcases normalize_raw (fun term : terms => term.val.text) predicate with
      ⟨normalized, read, same⟩
    rw [read, Option.map_some, evaluatePredicate, same]
    rfl
  constructor
  · intro always term inside
    have equal := (evaluated (.before ⟨term, inside⟩)).symm.trans (always (.before ⟨term, inside⟩))
    rw [Predicate.eval, Predicate.eval, Option.some.injEq] at equal
    exact (agrees_iff dateParse closeTime now term).mpr equal
  · intro agrees predicate
    rw [evaluated]
    congr 2
    funext term
    exact (agrees_iff dateParse closeTime now term.val).mp (agrees term.val term.property)

/-- An hour after the close of the ledger has not passed when 1000 seconds of it have. -/
theorem relative_hour_not_evaluated :
    ¬ ∀ (dateParse : JsString → Option Int) (closeTime : Nat) (now : Int)
      (predicate : Predicate ProtocolTerm), 1000 * closeTime ≤ now →
        (normalizeClaimPredicate (raw ProtocolTerm.text predicate)).map
            (evaluatePredicate dateParse · now) =
          some (predicate.eval (ProtocolTerm.holds closeTime now)) := by
  intro always
  have evaluated := always (fun _ => none) 1700000000 1700001000000
    (.before (.relBefore 3600)) (by decide)
  revert evaluated
  decide

end Orbital.PulseCore.ClaimPredicate
