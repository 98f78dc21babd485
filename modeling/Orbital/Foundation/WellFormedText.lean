import Orbital.Foundation.JsonText

/-! # Strings without a lone surrogate

Such a string is determined by its bytes. Every JSON text that is printed is one.
-/

namespace Orbital.Foundation

inductive WellFormed : List CodeUnit → Prop
  | nil : WellFormed []
  | cons {unit : CodeUnit} {rest : List CodeUnit} (notHigh : unit.isHighSurrogate = false)
      (notLow : unit.isLowSurrogate = false) (tail : WellFormed rest) : WellFormed (unit :: rest)
  | pair {high low : CodeUnit} {rest : List CodeUnit} (isHigh : high.isHighSurrogate = true)
      (isLow : low.isLowSurrogate = true) (tail : WellFormed rest) :
      WellFormed (high :: low :: rest)

namespace WellFormed

variable {first second text : List CodeUnit}

theorem append (front : WellFormed first) (back : WellFormed second) :
    WellFormed (first ++ second) := by
  induction front with
  | nil => exact back
  | cons notHigh notLow _ induction => exact .cons notHigh notLow induction
  | pair isHigh isLow _ induction => exact .pair isHigh isLow induction

theorem of_below (below : ∀ unit ∈ text, unit.toNat < 0xD800) : WellFormed text := by
  induction text with
  | nil => exact .nil
  | cons unit rest induction =>
      have small := below unit List.mem_cons_self
      apply WellFormed.cons
      · rw [CodeUnit.isHighSurrogate, Bool.and_eq_false_iff, decide_eq_false_iff_not]
        omega
      · rw [CodeUnit.isLowSurrogate, Bool.and_eq_false_iff, decide_eq_false_iff_not]
        omega
      · exact induction fun other member => below other (List.mem_cons_of_mem unit member)

theorem of_all (all : text.all (fun unit => decide (unit.toNat < 0xD800)) = true) :
    WellFormed text :=
  of_below fun unit member => of_decide_eq_true (List.all_eq_true.mp all unit member)

theorem unitsOf_alone {unit : CodeUnit} (notHigh : unit.isHighSurrogate = false)
    (notLow : unit.isLowSurrogate = false) : unitsOf unit.alone = [unit] := by
  have small := UInt16.toNat_lt unit
  have valid : unit.toNat < 0xD800 ∨ 0xDFFF < unit.toNat ∧ unit.toNat < 0x110000 := by
    rw [CodeUnit.isHighSurrogate, Bool.and_eq_false_iff, decide_eq_false_iff_not,
      decide_eq_false_iff_not] at notHigh
    rw [CodeUnit.isLowSurrogate, Bool.and_eq_false_iff, decide_eq_false_iff_not,
      decide_eq_false_iff_not] at notLow
    omega
  have code : (Char.ofNat unit.toNat).toNat = unit.toNat := by
    rw [Char.ofNat, dif_pos valid]
    rfl
  rw [CodeUnit.alone, notHigh, notLow, Bool.or_self, if_neg Bool.false_ne_true, unitsOf, code,
    if_pos (by omega), UInt16.ofNat_toNat]

theorem unitsOf_pair {high low : CodeUnit} (isHigh : high.isHighSurrogate = true)
    (isLow : low.isLowSurrogate = true) : unitsOf (CodeUnit.pair high low) = [high, low] := by
  rw [CodeUnit.isHighSurrogate, Bool.and_eq_true, decide_eq_true_eq, decide_eq_true_eq] at isHigh
  rw [CodeUnit.isLowSurrogate, Bool.and_eq_true, decide_eq_true_eq, decide_eq_true_eq] at isLow
  have code : (CodeUnit.pair high low).toNat =
      0x10000 + (high.toNat - 0xD800) * 0x400 + (low.toNat - 0xDC00) := by
    rw [CodeUnit.pair, Char.ofNat, dif_pos (by exact Or.inr ⟨by omega, by omega⟩)]
    rfl
  have first : 0xD800 + ((CodeUnit.pair high low).toNat - 0x10000) / 0x400 = high.toNat := by
    omega
  have second : 0xDC00 + ((CodeUnit.pair high low).toNat - 0x10000) % 0x400 = low.toNat := by
    omega
  rw [unitsOf, if_neg (by omega), first, second, UInt16.ofNat_toNat, UInt16.ofNat_toNat]

theorem units_scalars (wellFormed : WellFormed text) : units (scalars text) = text := by
  induction wellFormed with
  | nil => rfl
  | cons notHigh notLow _ induction =>
      rw [scalars_cons notHigh, units, List.flatMap_cons, unitsOf_alone notHigh notLow]
      exact congrArg (_ :: ·) induction
  | pair isHigh isLow _ induction =>
      rw [scalars, isHigh, isLow, Bool.and_self, if_pos rfl, units, List.flatMap_cons,
        unitsOf_pair isHigh isLow]
      exact congrArg (_ :: _ :: ·) induction

theorem utf8_inj (wellFormed : WellFormed first) (wellFormed' : WellFormed second)
    (same : utf8 first = utf8 second) : first = second := by
  have characters := congrArg Decoder.idle.run same
  rw [utf8, utf8, Decoder.run_encode, Decoder.run_encode] at characters
  rw [← wellFormed.units_scalars, characters, wellFormed'.units_scalars]

/-! ## JSON texts -/

theorem hexText (unit : CodeUnit) : WellFormed (JsonString.hexText unit) := by
  have digit : ∀ value : Fin 16, (hexUnit value).toNat < 0xD800 := by decide
  have bound : ∀ value < 16, (hexUnit value).toNat < 0xD800 := fun value small =>
    digit ⟨value, small⟩
  have small := UInt16.toNat_lt unit
  apply of_below
  simp only [JsonString.hexText, List.forall_mem_cons]
  refine ⟨bound _ (by omega), bound _ (by omega), bound _ (by omega), bound _ (by omega), ?_⟩
  exact fun _ none => absurd none List.not_mem_nil

theorem escaped (unit : CodeUnit) : WellFormed (JsonString.escaped unit) := by
  rw [JsonString.escaped]
  split
  · rename_i letter short
    rcases List.lookup_eq_some_iff.mp short with ⟨front, back, table, -⟩
    have member : (unit, letter) ∈ JsonString.shortEscapes := by
      rw [table]
      exact List.mem_append_right front List.mem_cons_self
    have letters : JsonString.shortEscapes.all (fun escape =>
        decide (escape.2.toNat < 0xD800)) = true := by decide
    apply of_below
    rw [List.forall_mem_cons, List.forall_mem_singleton]
    exact ⟨by decide, of_decide_eq_true (List.all_eq_true.mp letters _ member)⟩
  · split
    · exact .cons (by decide) (by decide) (.cons (by decide) (by decide) (hexText unit))
    · rename_i plain
      rw [Bool.not_eq_true, Bool.or_eq_false_iff, Bool.or_eq_false_iff] at plain
      exact .cons plain.1.2 plain.2 .nil

theorem body (text : JsString) : WellFormed (JsonString.body text) := by
  fun_induction JsonString.body text with
  | case1 => exact .nil
  | case2 unit => exact escaped unit
  | case3 high low more halves induction =>
      rw [Bool.and_eq_true] at halves
      exact .pair halves.1 halves.2 induction
  | case4 high low more halves induction => exact (escaped high).append induction

theorem quote (text : JsString) : WellFormed (JsonString.quote text) :=
  .cons (by decide) (by decide) ((body text).append (.cons (by decide) (by decide) .nil))

theorem digits (digits : List Digit) : WellFormed (Digits.text digits) := by
  have bound : ∀ digit : Digit, (Digits.unit digit).toNat < 0xD800 := by decide
  apply of_below
  intro unit member
  rcases List.mem_map.mp member with ⟨digit, -, rfl⟩
  exact bound digit

theorem number (literal : NumberLiteral) : WellFormed literal.text := by
  have fraction : WellFormed (NumberLiteral.fractionText literal.fraction) := by
    cases literal.fraction with
    | nil => exact .nil
    | cons digit rest => exact .cons (by decide) (by decide) (digits (digit :: rest))
  have exponent : WellFormed (NumberLiteral.exponentText literal.exponent) := by
    cases literal.exponent with
    | none => exact .nil
    | some part =>
        have sign : WellFormed part.sign.text := by
          cases part.sign <;> exact of_all (by decide)
        cases upper : part.upper <;>
          simp only [NumberLiteral.exponentText, ExponentPart.text, upper] <;>
            exact .cons (by decide) (by decide) (sign.append (digits part.digits))
  rw [NumberLiteral.text]
  apply WellFormed.append
  · split
    · exact of_all (by decide)
    · exact .nil
  · exact (digits _).append (fraction.append exponent)

theorem separated {parts : List JsString} (each : ∀ part ∈ parts, WellFormed part) :
    WellFormed (JsonSyntax.separated parts) := by
  induction parts with
  | nil => exact .nil
  | cons part rest induction =>
      have both := List.forall_mem_cons.mp each
      cases rest with
      | nil =>
          rw [JsonSyntax.separated_singleton]
          exact both.1
      | cons next rest =>
          rw [JsonSyntax.separated_cons_cons]
          exact both.1.append (.cons (by decide) (by decide) (induction both.2))

theorem print (tree : JsonSyntax) : WellFormed (JsonSyntax.print tree) := by
  have closing : ∀ unit : CodeUnit, unit.toNat < 0xD800 → WellFormed [unit] := fun unit below =>
    of_below (by simpa using below)
  induction tree using JsonTree.induction with
  | leaf leaf =>
      rw [JsonSyntax.print]
      cases leaf with
      | null => exact of_all (by decide)
      | boolean value => cases value <;> exact of_all (by decide)
      | number literal => exact number literal
      | string text => exact quote text
  | array items induction =>
      rw [JsonSyntax.print, JsonSyntax.printItems_eq]
      refine .cons (by decide) (by decide) ((separated ?_).append (closing _ (by decide)))
      intro part member
      rcases List.mem_map.mp member with ⟨item, inside, rfl⟩
      exact induction item inside
  | object members induction =>
      rw [JsonSyntax.print, JsonSyntax.printMembers_eq]
      refine .cons (by decide) (by decide) ((separated ?_).append (closing _ (by decide)))
      intro part inside
      rcases List.mem_map.mp inside with ⟨member, source, rfl⟩
      exact (quote member.1).append (.cons (by decide) (by decide) (induction member source))

end WellFormed

end Orbital.Foundation
