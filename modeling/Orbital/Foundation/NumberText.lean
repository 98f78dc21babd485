import Mathlib.Data.List.DropRight
import Mathlib.Data.Nat.Log
import Orbital.Foundation.Binary64
import Orbital.Foundation.Hex

/-! # The text of a number

Numbers of 64 bits are written as the source language writes them: with the fewest
digits that are read as the same number, and of these the nearest. A literal is read
digit by digit; every finite number is read back from its text, with the sign of a zero
lost.
-/

namespace Orbital.Foundation

abbrev JsString := List CodeUnit

instance : LawfulBEq JsString := inferInstance

def js (text : String) : JsString :=
  units text.toList

/-- A literal by its characters, which need not be decoded from its bytes. -/
theorem js_ofList (chars : List Char) : js (String.ofList chars) = units chars :=
  congrArg units String.toList_ofList

/-! ## Digits -/

abbrev Digit := Fin 10

instance Digit.neZero : NeZero 10 := ⟨by decide⟩

namespace Digits

def value (digits : List Digit) : Nat :=
  digits.foldl (fun sofar digit => sofar * 10 + digit.val) 0

def padded : Nat → Nat → List Digit
  | 0, _ => []
  | count + 1, number => padded count (number / 10) ++ [Fin.ofNat 10 number]

def ofNat (number : Nat) : List Digit :=
  padded (Nat.log 10 number + 1) number

@[simp] theorem value_nil : value [] = 0 :=
  rfl

theorem value_append_singleton (digits : List Digit) (digit : Digit) :
    value (digits ++ [digit]) = value digits * 10 + digit := by
  rw [value, List.foldl_append]
  rfl

variable (count number : Nat)

@[simp] theorem length_padded : (padded count number).length = count := by
  induction count generalizing number with
  | zero => rfl
  | succ count induction => rw [padded, List.length_append, induction, List.length_singleton]

theorem value_padded : value (padded count number) = number % 10 ^ count := by
  induction count generalizing number with
  | zero => rw [padded, value_nil, Nat.pow_zero, Nat.mod_one]
  | succ count induction =>
      have last : (Fin.ofNat 10 number).val = number % 10 := rfl
      rw [padded, value_append_singleton, induction, last, Nat.pow_succ', Nat.mod_mul]
      omega

theorem value_ofNat : value (ofNat number) = number := by
  rw [ofNat, value_padded]
  exact Nat.mod_eq_of_lt (Nat.lt_pow_succ_log_self (by decide) number)

theorem value_append (front back : List Digit) :
    value (front ++ back) = value front * 10 ^ back.length + value back := by
  induction back using List.reverseRecOn with
  | nil => rw [List.append_nil, List.length_nil, Nat.pow_zero, Nat.mul_one, value_nil,
      Nat.add_zero]
  | append_singleton back digit induction =>
      rw [← List.append_assoc, value_append_singleton, induction, value_append_singleton,
        List.length_append, List.length_singleton, Nat.pow_succ, Nat.add_mul, Nat.mul_assoc,
        Nat.add_assoc]

theorem ofNat_zero : ofNat 0 = [0] := by
  rw [ofNat, Nat.log_zero_right]
  rfl

theorem head?_padded_succ :
    (padded (count + 1) number).head? = some (Fin.ofNat 10 (number / 10 ^ count)) := by
  induction count generalizing number with
  | zero => rw [Nat.pow_zero, Nat.div_one]; rfl
  | succ count induction =>
      have some : padded (count + 1) (number / 10) ≠ [] := by
        apply List.ne_nil_of_length_pos
        rw [length_padded]
        omega
      rw [padded, List.head?_append_of_ne_nil _ some, induction, Nat.div_div_eq_div_mul,
        ← Nat.pow_succ']

theorem ofNat_eq_cons :
    ∃ first rest, ofNat number = first :: rest ∧ (first = 0 → rest = [] ∧ number = 0) := by
  have head : (ofNat number).head? = some (Fin.ofNat 10 (number / 10 ^ Nat.log 10 number)) :=
    head?_padded_succ (Nat.log 10 number) number
  cases digits : ofNat number with
  | nil =>
      rw [digits] at head
      cases head
  | cons first rest =>
      refine ⟨first, rest, rfl, ?_⟩
      intro zero
      rw [digits, List.head?_cons, Option.some.injEq] at head
      have vanishes : number / 10 ^ Nat.log 10 number % 10 = 0 := by
        rw [zero] at head
        exact (congrArg Fin.val head).symm
      have empty : number = 0 := by
        by_contra positive
        have above := Nat.pow_log_le_self 10 positive
        have below := Nat.lt_pow_succ_log_self (b := 10) (by decide) number
        have power : 0 < 10 ^ Nat.log 10 number := Nat.pow_pos (by decide)
        have one : 1 ≤ number / 10 ^ Nat.log 10 number := (Nat.one_le_div_iff power).mpr above
        have ten : number / 10 ^ Nat.log 10 number < 10 := by
          rw [Nat.div_lt_iff_lt_mul power, ← Nat.pow_succ']
          exact below
        rw [Nat.mod_eq_of_lt ten] at vanishes
        omega
      refine ⟨?_, empty⟩
      rw [empty, ofNat_zero] at digits
      exact (List.cons.inj digits).2.symm

def unit (digit : Digit) : CodeUnit :=
  UInt16.ofNat (0x30 + digit)

def digit? (unit : CodeUnit) : Option Digit :=
  if within : 0x30 ≤ unit.toNat ∧ unit.toNat < 0x3A then some ⟨unit.toNat - 0x30, by omega⟩
  else none

theorem digit?_unit (digit : Digit) : digit? (unit digit) = some digit := by
  revert digit
  decide

def text (digits : List Digit) : JsString :=
  digits.map unit

def read : JsString → List Digit × JsString
  | [] => ([], [])
  | unit :: rest =>
      match digit? unit with
      | none => ([], unit :: rest)
      | some digit => (digit :: (read rest).1, (read rest).2)

theorem read_text (digits : List Digit) {rest : JsString}
    (ends : ∀ unit, rest.head? = some unit → digit? unit = none) :
    read (text digits ++ rest) = (digits, rest) := by
  induction digits with
  | nil =>
      cases rest with
      | nil => rfl
      | cons unit rest =>
          have none : digit? unit = none := ends unit rfl
          rw [text, List.map_nil, List.nil_append, read, none]
  | cons digit digits induction =>
      rw [text, List.map_cons, List.cons_append, read, digit?_unit]
      simp only [text] at induction
      simp only [induction]

theorem text_injective {first second : List Digit} (same : text first = text second) :
    first = second := by
  have ends : ∀ unit, ([] : JsString).head? = some unit → digit? unit = none :=
    fun _ none => by cases none
  have read := congrArg (fun text => read (text ++ [])) same
  rw [read_text first ends, read_text second ends] at read
  exact congrArg Prod.fst read

theorem text_ofNat_inj {number other : Nat} (same : text (ofNat number) = text (ofNat other)) :
    number = other := by
  have numbers := congrArg value (text_injective same)
  rwa [value_ofNat, value_ofNat] at numbers

theorem not_mem_text {other : CodeUnit} (noDigit : digit? other = none) (digits : List Digit) :
    other ∉ text digits := by
  intro member
  rcases List.mem_map.mp member with ⟨digit, -, rfl⟩
  rw [digit?_unit] at noDigit
  cases noDigit

end Digits

/-! ## Literals -/

inductive ExponentSign
  | absent
  | plus
  | minus
  deriving DecidableEq

structure ExponentPart where
  upper : Bool
  sign : ExponentSign
  digits : List Digit
  digits_ne_nil : digits ≠ []
  deriving DecidableEq

/-- A number as a JSON text has it. No fraction is an empty row of digits. -/
structure NumberLiteral where
  negative : Bool
  integer : Nat
  fraction : List Digit
  exponent : Option ExponentPart
  deriving DecidableEq

namespace ExponentSign

def text : ExponentSign → JsString
  | absent => []
  | plus => [0x2B]
  | minus => [0x2D]

def read : JsString → ExponentSign × JsString
  | 0x2B :: rest => (plus, rest)
  | 0x2D :: rest => (minus, rest)
  | rest => (absent, rest)

theorem read_text (sign : ExponentSign) {rest : JsString} {unit : CodeUnit} {digit : Digit}
    (starts : rest.head? = some unit) (isDigit : Digits.digit? unit = some digit) :
    read (sign.text ++ rest) = (sign, rest) := by
  cases sign with
  | plus | minus => rfl
  | absent =>
      cases rest with
      | nil => cases starts
      | cons first rest =>
          cases starts
          rw [text, List.nil_append, read]
          · intro tail plus
            cases plus
            cases isDigit
          · intro tail minus
            cases minus
            cases isDigit

end ExponentSign

namespace ExponentPart

def text (part : ExponentPart) : JsString :=
  (if part.upper then 0x45 else 0x65) :: (part.sign.text ++ Digits.text part.digits)

def value (part : ExponentPart) : Int :=
  match part.sign with
  | .minus => -(Digits.value part.digits : Int)
  | _ => Digits.value part.digits

def readDigits (upper : Bool) (text : JsString) : Option (ExponentPart × JsString) :=
  let sign := ExponentSign.read text
  let digits := Digits.read sign.2
  if some : digits.1 ≠ [] then
    Option.some ({
      upper
      sign := sign.1
      digits := digits.1
      digits_ne_nil := some }, digits.2)
  else none

def read : JsString → Option (Option ExponentPart × JsString)
  | 0x65 :: rest => (readDigits false rest).map fun part => (some part.1, part.2)
  | 0x45 :: rest => (readDigits true rest).map fun part => (some part.1, part.2)
  | rest => some (none, rest)

theorem readDigits_text (part : ExponentPart) {rest : JsString}
    (ends : ∀ unit, rest.head? = some unit → Digits.digit? unit = none) :
    readDigits part.upper (part.sign.text ++ (Digits.text part.digits ++ rest)) =
      some (part, rest) := by
  have digits := Digits.read_text part.digits ends
  have sign : ExponentSign.read (part.sign.text ++ (Digits.text part.digits ++ rest)) =
      (part.sign, Digits.text part.digits ++ rest) := by
    cases row : part.digits with
    | nil => exact absurd row part.digits_ne_nil
    | cons digit more =>
        exact ExponentSign.read_text part.sign rfl (Digits.digit?_unit digit)
  simp only [readDigits, sign, digits]
  exact dif_pos part.digits_ne_nil

end ExponentPart

namespace NumberLiteral

def fractionText : List Digit → JsString
  | [] => []
  | digit :: digits => 0x2E :: Digits.text (digit :: digits)

def exponentText : Option ExponentPart → JsString
  | none => []
  | some part => part.text

def text (literal : NumberLiteral) : JsString :=
  (if literal.negative then [0x2D] else []) ++
    (Digits.text (Digits.ofNat literal.integer) ++
      (fractionText literal.fraction ++ exponentText literal.exponent))

def readSign : JsString → Bool × JsString
  | 0x2D :: rest => (true, rest)
  | rest => (false, rest)

def readInteger : JsString → Option (Nat × JsString)
  | [] => none
  | unit :: rest =>
      match Digits.digit? unit with
      | none => none
      | some digit =>
          if digit = 0 then some (0, rest)
          else some (Digits.value (digit :: (Digits.read rest).1), (Digits.read rest).2)

def readFraction : JsString → Option (List Digit × JsString)
  | 0x2E :: rest =>
      if (Digits.read rest).1 = [] then none else some (Digits.read rest)
  | rest => some ([], rest)

def read (text : JsString) : Option (NumberLiteral × JsString) := do
  let (negative, text) := readSign text
  let (integer, text) ← readInteger text
  let (fraction, text) ← readFraction text
  let (exponent, text) ← ExponentPart.read text
  return ({ negative, integer, fraction, exponent }, text)

def goesOn (unit : CodeUnit) : Bool :=
  (Digits.digit? unit).isSome || unit == 0x2E || unit == 0x65 || unit == 0x45

def Ends (rest : JsString) : Prop :=
  ∀ unit, rest.head? = some unit → goesOn unit = false

theorem Ends.nil : Ends [] := by
  intro unit starts
  cases starts

theorem Ends.cons {unit : CodeUnit} (ends : goesOn unit = false) (rest : JsString) :
    Ends (unit :: rest) := by
  intro other starts
  cases starts
  exact ends

variable {rest : JsString}

theorem Ends.digit (ends : Ends rest) :
    ∀ unit, rest.head? = some unit → Digits.digit? unit = none := by
  intro unit starts
  have no := ends unit starts
  rw [goesOn, Bool.or_eq_false_iff, Bool.or_eq_false_iff, Bool.or_eq_false_iff] at no
  exact Option.isSome_eq_false_iff.mp no.1.1.1 |> Option.isNone_iff_eq_none.mp

theorem read_exponentText (exponent : Option ExponentPart) (ends : Ends rest) :
    ExponentPart.read (exponentText exponent ++ rest) = some (exponent, rest) := by
  cases exponent with
  | none =>
      rw [exponentText, List.nil_append, ExponentPart.read]
      · intro tail lower
        exact absurd (ends 0x65 (by rw [lower]; rfl)) (by decide)
      · intro tail upper
        exact absurd (ends 0x45 (by rw [upper]; rfl)) (by decide)
  | some part =>
      have digits := part.readDigits_text ends.digit
      cases upper : part.upper with
      | false | true =>
          rw [exponentText, ExponentPart.text, upper, List.cons_append, List.append_assoc]
          rw [upper] at digits
          exact congrArg (Option.map fun part => (some part.1, part.2)) digits

theorem exponentText_digit (exponent : Option ExponentPart) (ends : Ends rest) :
    ∀ unit, (exponentText exponent ++ rest).head? = some unit → Digits.digit? unit = none := by
  cases exponent with
  | none => exact ends.digit
  | some part =>
      intro unit starts
      rw [exponentText, ExponentPart.text] at starts
      cases starts
      split <;> rfl

theorem exponentText_no_point (exponent : Option ExponentPart) (ends : Ends rest) :
    (exponentText exponent ++ rest).head? ≠ some 0x2E := by
  cases exponent with
  | none =>
      intro point
      exact absurd (ends 0x2E point) (by decide)
  | some part =>
      rw [exponentText, ExponentPart.text]
      split <;> exact fun point => absurd (Option.some.inj point) (by decide)

theorem read_fractionText (fraction : List Digit) (exponent : Option ExponentPart)
    (ends : Ends rest) :
    readFraction (fractionText fraction ++ (exponentText exponent ++ rest)) =
      some (fraction, exponentText exponent ++ rest) := by
  cases fraction with
  | nil =>
      rw [fractionText, List.nil_append, readFraction]
      intro tail point
      have ends := exponentText_no_point exponent ends
      rw [point] at ends
      exact ends rfl
  | cons digit digits =>
      have row := Digits.read_text (digit :: digits) (exponentText_digit exponent ends)
      rw [fractionText, List.cons_append, readFraction, row]
      rfl

theorem fractionText_digit (fraction : List Digit) (exponent : Option ExponentPart)
    (ends : Ends rest) :
    ∀ unit, (fractionText fraction ++ (exponentText exponent ++ rest)).head? = some unit →
      Digits.digit? unit = none := by
  cases fraction with
  | nil => exact exponentText_digit exponent ends
  | cons digit digits =>
      intro unit starts
      cases starts
      rfl

theorem read_integer (integer : Nat)
    (ends : ∀ unit, rest.head? = some unit → Digits.digit? unit = none) :
    readInteger (Digits.text (Digits.ofNat integer) ++ rest) = some (integer, rest) := by
  rcases Digits.ofNat_eq_cons integer with ⟨first, more, digits, zero⟩
  have row := Digits.read_text more ends
  have value := Digits.value_ofNat integer
  rw [digits] at value
  rw [digits, Digits.text, List.map_cons, List.cons_append, readInteger, Digits.digit?_unit]
  by_cases isZero : first = 0
  · rw [(zero isZero).1, (zero isZero).2]
    exact if_pos isZero
  · simp only [Digits.text] at row
    simp only [if_neg isZero, row, value]

theorem readSign_integer (integer : Nat) (rest : JsString) :
    readSign (Digits.text (Digits.ofNat integer) ++ rest) =
      (false, Digits.text (Digits.ofNat integer) ++ rest) := by
  rcases Digits.ofNat_eq_cons integer with ⟨first, more, digits, -⟩
  have isDigit := Digits.digit?_unit first
  rw [digits, Digits.text, List.map_cons, List.cons_append, readSign]
  intro tail minus
  rw [(List.cons.inj minus).1] at isDigit
  cases isDigit

theorem read_text (literal : NumberLiteral) (ends : Ends rest) :
    read (literal.text ++ rest) = some (literal, rest) := by
  have exponent := read_exponentText literal.exponent ends
  have fraction := read_fractionText literal.fraction literal.exponent ends
  have integer := read_integer literal.integer
    (fractionText_digit literal.fraction literal.exponent ends)
  have sign : readSign (literal.text ++ rest) =
      (literal.negative, Digits.text (Digits.ofNat literal.integer) ++
        (fractionText literal.fraction ++ (exponentText literal.exponent ++ rest))) := by
    rw [text, List.append_assoc, List.append_assoc, List.append_assoc]
    cases literal.negative with
    | true => rfl
    | false => exact readSign_integer literal.integer _
  simp only [read, sign, integer, fraction, exponent, Option.bind_eq_bind, Option.bind_some]
  rfl

def decimal (literal : NumberLiteral) : Decimal where
  coefficient := Digits.value (Digits.ofNat literal.integer ++ literal.fraction)
  exponent := (literal.exponent.elim 0 ExponentPart.value) - literal.fraction.length

end NumberLiteral

/-! ## Numbers -/

inductive JsNumber
  | nan
  | infinite (negative : Bool)
  | finite (negative : Bool) (magnitude : Magnitude)
  deriving DecidableEq

namespace JsNumber

def unsignedZero : JsNumber → JsNumber
  | finite negative magnitude => finite (negative && magnitude != .zero) magnitude
  | number => number

@[simp] theorem unsignedZero_unsignedZero (number : JsNumber) :
    number.unsignedZero.unsignedZero = number.unsignedZero := by
  cases number with
  | nan | infinite negative => rfl
  | finite negative magnitude =>
      rw [unsignedZero, unsignedZero, Bool.and_assoc, Bool.and_self]

/-- Equality of numbers that does not see the sign of a zero. -/
def SameValueZero (first second : JsNumber) : Prop :=
  first.unsignedZero = second.unsignedZero

instance (first second : JsNumber) : Decidable (SameValueZero first second) :=
  inferInstanceAs (Decidable (_ = _))

def isFinite : JsNumber → Bool
  | finite _ _ => true
  | _ => false

end JsNumber

def JsNumber.ofRounded (negative : Bool) : Option Magnitude → JsNumber
  | none => infinite negative
  | some magnitude => finite negative magnitude

def NumberLiteral.toNumber (literal : NumberLiteral) : JsNumber :=
  .ofRounded literal.negative literal.decimal.toMagnitude

theorem NumberLiteral.toNumber_eq {literal : NumberLiteral} {magnitude : Magnitude}
    (read : literal.decimal.toMagnitude = some magnitude) :
    literal.toNumber = .finite literal.negative magnitude :=
  congrArg (JsNumber.ofRounded literal.negative) read

/-! ## Sums -/

namespace JsNumber

/-- A finite number in units of `2 ^ -places`. -/
def units : JsNumber → Option Int
  | finite negative magnitude => some (if negative then -magnitude.units else magnitude.units)
  | _ => none

def ofUnits (units : Int) : JsNumber :=
  .ofRounded (decide (units < 0)) (nearest units.natAbs 1)

def plus (whole : Int) (number : JsNumber) : JsNumber :=
  match number.units with
  | some units => ofUnits (whole * 2 ^ places + units)
  | none => number

def Exact (units : Int) : Prop :=
  ∃ magnitude : Magnitude, magnitude.units = units.natAbs

variable {number : JsNumber} {lower upper count result : Int}

theorem exact_units (finite : number.units = some count) : Exact count := by
  cases number with
  | nan | infinite negative => cases finite
  | finite negative magnitude =>
      cases finite
      refine ⟨magnitude, ?_⟩
      split <;> simp

theorem exact_whole (whole : Int) (small : whole.natAbs < 2 ^ 53) : Exact (whole * 2 ^ places) := by
  rcases exists_units small with ⟨magnitude, units⟩
  refine ⟨magnitude, ?_⟩
  rw [units, Int.natAbs_mul, Int.natAbs_pow]
  rfl

theorem pow_dvd_of_exact (place : Nat) (exact : Exact count)
    (large : 2 ^ (place + 52) ≤ count ∨ count ≤ -2 ^ (place + 52)) : 2 ^ place ∣ count := by
  rcases exact with ⟨magnitude, units⟩
  have bound : 2 ^ (place + 52) ≤ magnitude.units := by
    rw [units]
    zify
    rcases large with positive | negative
    · exact positive.trans (le_abs_self _)
    · exact (le_neg_of_le_neg negative).trans (neg_le_abs _)
  rw [← Int.natAbs_dvd_natAbs, Int.natAbs_pow, ← units]
  exact magnitude.pow_dvd_units bound

theorem units_ofUnits : (ofUnits count).units = some result ↔
    ∃ magnitude, nearest count.natAbs 1 = some magnitude ∧
      result = if count < 0 then -(magnitude.units : Int) else magnitude.units := by
  rw [ofUnits]
  cases nearest count.natAbs 1 with
  | none => simp [ofRounded, units]
  | some magnitude => simp [ofRounded, units, eq_comm]

theorem le_of_ofUnits (exact : Exact lower) (bound : lower ≤ count)
    (rounds : (ofUnits count).units = some result) : lower ≤ result := by
  rcases exact with ⟨magnitude, units⟩
  rcases units_ofUnits.mp rounds with ⟨rounded, isNearest, rfl⟩
  split
  · rcases exists_nearest_le magnitude count.natAbs Nat.one_pos (by omega) with
      ⟨other, isOther, below⟩
    cases isNearest.symm.trans isOther
    omega
  · by_cases negative : lower < 0
    · omega
    · have above := le_of_nearest magnitude Nat.one_pos (by omega) isNearest
      omega

theorem ofUnits_le (exact : Exact upper) (bound : count ≤ upper)
    (rounds : (ofUnits count).units = some result) : result ≤ upper := by
  rcases exact with ⟨magnitude, units⟩
  rcases units_ofUnits.mp rounds with ⟨rounded, isNearest, rfl⟩
  split
  · by_cases negative : upper < 0
    · have above := le_of_nearest magnitude Nat.one_pos (by omega) isNearest
      omega
    · omega
  · rcases exists_nearest_le magnitude count.natAbs Nat.one_pos (by omega) with
      ⟨other, isOther, below⟩
    cases isNearest.symm.trans isOther
    omega

/-- Between two numbers there is always one to round to. -/
theorem exists_ofUnits (exactLower : Exact lower) (exactUpper : Exact upper)
    (above : lower ≤ count) (below : count ≤ upper) :
    ∃ result, (ofUnits count).units = some result ∧ lower ≤ result ∧ result ≤ upper := by
  have finite : ∃ magnitude : Magnitude, count.natAbs ≤ magnitude.units := by
    rcases le_or_gt 0 count with positive | negative
    · rcases exactUpper with ⟨magnitude, units⟩
      exact ⟨magnitude, by omega⟩
    · rcases exactLower with ⟨magnitude, units⟩
      exact ⟨magnitude, by omega⟩
  rcases finite with ⟨large, bound⟩
  rcases exists_nearest_le large count.natAbs Nat.one_pos (by omega) with
    ⟨magnitude, isNearest, _⟩
  have rounds := units_ofUnits.mpr ⟨magnitude, isNearest, rfl⟩
  exact ⟨_, rounds, le_of_ofUnits exactLower above rounds, ofUnits_le exactUpper below rounds⟩

theorem units_ofUnits_exact (exact : Exact count) : (ofUnits count).units = some count := by
  rcases exists_ofUnits exact exact le_rfl le_rfl with ⟨result, rounds, above, below⟩
  rw [rounds, Int.le_antisymm below above]

end JsNumber

/-! ## Writing a number -/

namespace Decimal

def length (decimal : Decimal) : Nat :=
  Nat.log 10 decimal.coefficient + 1

def candidates (decimal : Decimal) (digits : Nat) : List Decimal :=
  let unit := 10 ^ (decimal.length - digits)
  let exponent := decimal.exponent + (decimal.length - digits : Nat)
  let below : Decimal := ⟨decimal.coefficient / unit, exponent⟩
  let above : Decimal := ⟨decimal.coefficient / unit + 1, exponent⟩
  if decimal.coefficient % unit * 2 ≤ unit then [below, above] else [above, below]

def stripZeros : Nat → Decimal → Decimal
  | 0, decimal => decimal
  | fuel + 1, decimal =>
      if decimal.coefficient % 10 = 0 then
        stripZeros fuel ⟨decimal.coefficient / 10, decimal.exponent + 1⟩
      else decimal

theorem toMagnitude_stripZeros (fuel : Nat) (decimal : Decimal) :
    (stripZeros fuel decimal).toMagnitude = decimal.toMagnitude := by
  induction fuel generalizing decimal with
  | zero => rfl
  | succ fuel induction =>
      rw [stripZeros]
      split
      · rename_i zero
        have tens : decimal.coefficient / 10 * 10 ^ 1 = decimal.coefficient := by omega
        have shifted := toMagnitude_shift (decimal.coefficient / 10) 1 decimal.exponent
        rw [tens] at shifted
        rw [induction]
        exact shifted.symm
      · rfl

end Decimal

namespace Magnitude

def shortest (magnitude : Magnitude) : Decimal :=
  let found := (List.range 17).findSome? fun digits =>
    (magnitude.expansion.candidates (digits + 1)).find? fun candidate =>
      candidate.toMagnitude = some magnitude
  let decimal := found.getD magnitude.expansion
  decimal.stripZeros decimal.length

theorem toMagnitude_shortest (magnitude : Magnitude) :
    magnitude.shortest.toMagnitude = some magnitude := by
  rw [shortest, Decimal.toMagnitude_stripZeros]
  cases search : (List.range 17).findSome? fun digits =>
      (magnitude.expansion.candidates (digits + 1)).find? fun candidate =>
        candidate.toMagnitude = some magnitude with
  | none => exact magnitude.toMagnitude_expansion
  | some decimal =>
      rcases List.exists_of_findSome?_eq_some search with ⟨digits, -, candidate⟩
      have found := List.find?_some candidate
      exact of_decide_eq_true found

end Magnitude

def ExponentPart.ofInt (exponent : Int) : ExponentPart where
  upper := false
  sign := if exponent < 0 then .minus else .plus
  digits := Digits.ofNat exponent.natAbs
  digits_ne_nil := by
    rcases Digits.ofNat_eq_cons exponent.natAbs with ⟨first, rest, digits, -⟩
    rw [digits]
    exact List.cons_ne_nil first rest

theorem ExponentPart.value_ofInt (exponent : Int) : (ofInt exponent).value = exponent := by
  rw [value, ofInt]
  by_cases below : exponent < 0
  · simp only [if_pos below, Digits.value_ofNat]
    omega
  · simp only [if_neg below, Digits.value_ofNat]
    omega

namespace NumberLiteral

def pointed (negative : Bool) (coefficient places : Nat) (exponent : Option ExponentPart) :
    NumberLiteral where
  negative
  integer := coefficient / 10 ^ places
  fraction := Digits.padded places coefficient
  exponent

theorem decimal_pointed (negative : Bool) (coefficient places : Nat)
    (exponent : Option ExponentPart) :
    (pointed negative coefficient places exponent).decimal =
      ⟨coefficient, exponent.elim 0 ExponentPart.value - places⟩ := by
  simp only [decimal, pointed, Digits.value_append, Digits.value_ofNat, Digits.value_padded,
    Digits.length_padded, Nat.div_add_mod']

/-- `Number::toString`. The number lies below `10 ^ point` and not below a tenth of it. -/
def ofDecimal (negative : Bool) (decimal : Decimal) : NumberLiteral :=
  let digits := decimal.length
  let point := digits + decimal.exponent
  if digits ≤ point ∧ point ≤ 21 then
    pointed negative (decimal.coefficient * 10 ^ (point - digits).toNat) 0 none
  else if -6 < point ∧ point ≤ 21 then
    pointed negative decimal.coefficient (digits - point).toNat none
  else
    pointed negative decimal.coefficient (digits - 1) (some (.ofInt (point - 1)))

theorem toMagnitude_ofDecimal (negative : Bool) (decimal : Decimal) :
    (ofDecimal negative decimal).decimal.toMagnitude = decimal.toMagnitude := by
  have digits : decimal.length = Nat.log 10 decimal.coefficient + 1 := rfl
  rw [ofDecimal]
  split
  · rename_i whole
    have zeros : (0 : Int) - (0 : Nat) +
        ((decimal.length + decimal.exponent - decimal.length).toNat : Int) =
          decimal.exponent := by
      omega
    rw [decimal_pointed, Option.elim_none, Decimal.toMagnitude_shift, zeros]
  · split
    · rename_i whole point
      have places : (0 : Int) -
          ((decimal.length - (decimal.length + decimal.exponent)).toNat : Int) =
            decimal.exponent := by
        omega
      rw [decimal_pointed, Option.elim_none, places]
    · have places : decimal.length + decimal.exponent - 1 - ((decimal.length - 1 : Nat) : Int) =
          decimal.exponent := by
        omega
      rw [decimal_pointed, Option.elim_some, ExponentPart.value_ofInt, places]

theorem negative_ofDecimal (negative : Bool) (decimal : Decimal) :
    (ofDecimal negative decimal).negative = negative := by
  rw [ofDecimal]
  split
  · rfl
  · split <;> rfl

def ofFinite (negative : Bool) (magnitude : Magnitude) : NumberLiteral :=
  if magnitude = .zero then ⟨false, 0, [], none⟩
  else ofDecimal negative magnitude.shortest

theorem decimal_zero : (NumberLiteral.mk false 0 [] none).decimal.toMagnitude = some .zero := by
  have value : Digits.value (Digits.ofNat 0 ++ []) = 0 := by
    rw [List.append_nil, Digits.value_ofNat]
  rw [decimal, value]
  exact Decimal.toMagnitude_zero _

theorem toNumber_ofFinite (negative : Bool) (magnitude : Magnitude) :
    (ofFinite negative magnitude).toNumber =
      (JsNumber.finite negative magnitude).unsignedZero := by
  by_cases zero : magnitude = .zero
  · have literal : (NumberLiteral.mk false 0 [] none).toNumber = .finite false .zero :=
      toNumber_eq decimal_zero
    have sign : (magnitude != .zero) = false := by
      rw [zero]
      exact bne_self_eq_false _
    rw [ofFinite, if_pos zero, literal, JsNumber.unsignedZero, sign, Bool.and_false, zero]
  · have literal := toMagnitude_ofDecimal negative magnitude.shortest
    rw [magnitude.toMagnitude_shortest] at literal
    have sign : (magnitude != .zero) = true := bne_iff_ne.mpr zero
    rw [ofFinite, if_neg zero, toNumber_eq literal, negative_ofDecimal, JsNumber.unsignedZero,
      sign, Bool.and_true]

end NumberLiteral

def JsNumber.text : JsNumber → JsString
  | nan => js "NaN"
  | infinite false => js "Infinity"
  | infinite true => js "-Infinity"
  | finite negative magnitude => (NumberLiteral.ofFinite negative magnitude).text

theorem JsNumber.text_unsignedZero (number : JsNumber) :
    number.unsignedZero.text = number.text := by
  cases number with
  | nan | infinite negative => rfl
  | finite negative magnitude =>
      rw [unsignedZero, text, text]
      by_cases zero : magnitude = .zero
      · rw [NumberLiteral.ofFinite, if_pos zero, NumberLiteral.ofFinite, if_pos zero]
      · have sign : (magnitude != .zero) = true := bne_iff_ne.mpr zero
        rw [sign, Bool.and_true]

end Orbital.Foundation

/-! ## Whole numbers in texts

What the source language drops around a text, and the whole number that it reads from one.
-/

namespace Orbital.Foundation

def isWhiteSpace (unit : CodeUnit) : Bool :=
  unit.toNat ∈ [0x09, 0x0A, 0x0B, 0x0C, 0x0D, 0x20, 0xA0, 0x1680, 0x2028, 0x2029, 0x202F, 0x205F,
    0x3000, 0xFEFF] || 0x2000 ≤ unit.toNat && unit.toNat ≤ 0x200A

def trimStart (text : JsString) : JsString :=
  text.dropWhile isWhiteSpace

def trim (text : JsString) : JsString :=
  (trimStart (trimStart text).reverse).reverse

def readRadix (radix : Nat) (text : JsString) : Option Int :=
  text.foldl
    (fun sofar unit =>
      match sofar, hexDigit unit with
      | some number, some digit => if digit < radix then some (number * radix + digit) else none
      | _, _ => none)
    (if text = [] then none else some 0)

def readDecimal (text : JsString) : Option Int :=
  let digits := Digits.read text
  if digits.1 ≠ [] ∧ digits.2 = [] then some (Digits.value digits.1) else none

/-- `BigInt(text)`. A text without digits is zero, and only decimal digits take a sign. -/
def readInteger (text : JsString) : Option Int :=
  match trim text with
  | [] => some 0
  | 0x2D :: rest => (readDecimal rest).map Int.neg
  | 0x2B :: rest => readDecimal rest
  | 0x30 :: second :: rest =>
      match second with
      | 0x78 | 0x58 => readRadix 16 rest
      | 0x6F | 0x4F => readRadix 8 rest
      | 0x62 | 0x42 => readRadix 2 rest
      | _ => readDecimal (0x30 :: second :: rest)
  | clean => readDecimal clean

/-! ## Trimmed texts -/

theorem trim_eq (text : JsString) : trim text = (trimStart text).rdropWhile isWhiteSpace :=
  rfl

theorem trimStart_of_front {front text : JsString} (isPrefix : front <+: text)
    (clean : trimStart text = text) : trimStart front = front := by
  cases front with
  | nil => rfl
  | cons unit front =>
      rcases isPrefix with ⟨rest, rfl⟩
      have first : ¬ isWhiteSpace unit := List.dropWhile_eq_self_iff.mp clean (by simp)
      rw [trimStart, List.dropWhile_cons_of_neg first]

theorem trim_trim (text : JsString) : trim (trim text) = trim text := by
  have clean : trimStart (trimStart text) = trimStart text := List.dropWhile_idempotent _ _
  have front : trim text <+: trimStart text := List.rdropWhile_prefix isWhiteSpace _
  have start : trimStart (trim text) = trim text := trimStart_of_front front clean
  rw [trim_eq (trim text), start, trim_eq, List.rdropWhile_idempotent]

/-- A change of units that keeps white space, and makes no other, can be made before or after. -/
theorem trim_map {change : CodeUnit → CodeUnit}
    (kept : ∀ unit, isWhiteSpace (change unit) = isWhiteSpace unit) (text : JsString) :
    trim (text.map change) = (trim text).map change := by
  have same : isWhiteSpace ∘ change = isWhiteSpace := funext kept
  have start (text : JsString) : trimStart (text.map change) = (trimStart text).map change := by
    rw [trimStart, List.dropWhile_map, same]
    rfl
  rw [trim, trim, start, ← List.map_reverse, start, List.map_reverse]

end Orbital.Foundation
