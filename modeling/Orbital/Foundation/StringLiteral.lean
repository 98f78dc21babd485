import Orbital.Foundation.NumberText

/-! # String literals of the source language

A literal in double quotes is read as a module reads it: with its escapes, and without the
escapes that strict code refuses. A text that was put together from code and from values
between quotes is read as it was meant exactly if no value needs an escape and no code
opens a literal.
-/

namespace Orbital.Foundation

namespace StringLiteral

/-! ## Escapes -/

/-- Escapes of one letter that stand for another unit: `\b`, `\t`, `\n`, `\v`, `\f` and `\r`. -/
def singleEscapes : List (CodeUnit × CodeUnit) :=
  [(0x62, 0x08), (0x74, 0x09), (0x6E, 0x0A), (0x76, 0x0B), (0x66, 0x0C), (0x72, 0x0D)]

def codePoint (point : Nat) : JsString :=
  if point < 0x10000 then [UInt16.ofNat point]
  else
    [UInt16.ofNat (0xD800 + (point - 0x10000) / 0x400),
      UInt16.ofNat (0xDC00 + (point - 0x10000) % 0x400)]

def hexDigits : Nat → Nat → JsString → Option (Nat × JsString)
  | 0, number, text => some (number, text)
  | _ + 1, _, [] => none
  | count + 1, number, unit :: rest =>
      match hexDigit unit with
      | none => none
      | some digit => hexDigits count (number * 16 + digit) rest

/-- The digits of `\u{…}` up to the closing brace. -/
def bracedDigits : Nat → JsString → Option (Nat × JsString)
  | _, [] => none
  | number, unit :: rest =>
      if unit = 0x7D then some (number, rest)
      else
        match hexDigit unit with
        | none => none
        | some digit => bracedDigits (number * 16 + digit) rest

/-- `\u` -/
def unicodeEscape (text : JsString) : Option (JsString × JsString) :=
  match text with
  | [] => none
  | unit :: rest =>
      if unit = 0x7B then
        match rest with
        | [] => none
        | first :: _ =>
            if first = 0x7D then none
            else
              match bracedDigits 0 rest with
              | none => none
              | some (point, after) =>
                  if point ≤ 0x10FFFF then some (codePoint point, after) else none
      else (hexDigits 4 0 text).map fun read => ([UInt16.ofNat read.1], read.2)

/-- What stands behind a backslash: the units it stands for, and what follows. A line
terminator continues the literal on the next line. -/
def escape : JsString → Option (JsString × JsString)
  | [] => none
  | letter :: rest =>
      if letter = 0x78 then
        (hexDigits 2 0 rest).map fun read => ([UInt16.ofNat read.1], read.2)
      else if letter = 0x75 then unicodeEscape rest
      else if letter = 0x30 then
        if (rest.head?.bind Digits.digit?).isSome then none else some ([0], rest)
      else if (Digits.digit? letter).isSome then none
      else if letter = 0x0D then
        match rest with
        | [] => some ([], [])
        | next :: after => if next = 0x0A then some ([], after) else some ([], rest)
      else if letter ∈ [0x0A, 0x2028, 0x2029] then some ([], rest)
      else some ([(singleEscapes.lookup letter).getD letter], rest)

/-- What an escape has read. No quote is in it, unless it is the quote itself. -/
structure Escaped (text value rest : JsString) : Prop where
  intro ::
  read : ∃ consumed, text = consumed ++ rest ∧ value.length ≤ consumed.length ∧
    consumed ≠ [] ∧ (0x22 ∉ consumed ∨ consumed = [0x22] ∧ value = [0x22])

theorem hexDigit_quote : hexDigit 0x22 = none := by
  decide

variable {number : Nat} {unit : CodeUnit} {rest front : JsString} {string : JsString × JsString}

theorem hexDigits_read {count : Nat} {text : JsString} {read : Nat × JsString}
    (found : hexDigits count number text = some read) :
    ∃ consumed, text = consumed ++ read.2 ∧ consumed.length = count ∧ 0x22 ∉ consumed := by
  induction count generalizing number text with
  | zero =>
      rw [hexDigits] at found
      cases found
      exact ⟨[], rfl, rfl, List.not_mem_nil⟩
  | succ count induction =>
      cases text with
      | nil => cases found
      | cons unit rest =>
          rw [hexDigits] at found
          cases digit : hexDigit unit with
          | none =>
              rw [digit] at found
              cases found
          | some value =>
              rw [digit] at found
              rcases induction found with ⟨consumed, same, length, clean⟩
              refine ⟨unit :: consumed, by rw [same, List.cons_append], by
                rw [List.length_cons, length], ?_⟩
              intro inside
              rcases List.mem_cons.mp inside with quote | inside
              · rw [← quote, hexDigit_quote] at digit
                cases digit
              · exact clean inside

theorem bracedDigits_read {text : JsString} {read : Nat × JsString}
    (found : bracedDigits number text = some read) :
    ∃ consumed, text = consumed ++ read.2 ∧ consumed ≠ [] ∧ 0x22 ∉ consumed := by
  induction text generalizing number with
  | nil => cases found
  | cons unit rest induction =>
      rw [bracedDigits] at found
      split at found
      · rename_i brace
        cases found
        refine ⟨[unit], rfl, List.cons_ne_nil _ _, ?_⟩
        rw [brace]
        decide
      · cases digit : hexDigit unit with
        | none =>
            rw [digit] at found
            cases found
        | some value =>
            rw [digit] at found
            rcases induction found with ⟨consumed, same, -, clean⟩
            refine ⟨unit :: consumed, by rw [same, List.cons_append], List.cons_ne_nil _ _, ?_⟩
            intro inside
            rcases List.mem_cons.mp inside with quote | inside
            · rw [← quote, hexDigit_quote] at digit
              cases digit
            · exact clean inside

theorem length_codePoint (point : Nat) : (codePoint point).length ≤ 2 := by
  rw [codePoint]
  split
  · exact Nat.le_succ 1
  · exact Nat.le_refl 2

theorem unicodeEscape_read {text : JsString} {read : JsString × JsString}
    (found : unicodeEscape text = some read) :
    ∃ consumed, text = consumed ++ read.2 ∧ read.1.length ≤ consumed.length ∧
      0x22 ∉ consumed := by
  cases text with
  | nil => cases found
  | cons unit rest =>
      rw [unicodeEscape.eq_def] at found
      dsimp only at found
      split at found
      · rename_i brace
        split at found
        · cases found
        · split at found
          · cases found
          · split at found
            · cases found
            · rename_i point after braced
              split at found
              · cases found
                rcases bracedDigits_read braced with ⟨consumed, same, nonempty, clean⟩
                refine ⟨unit :: consumed, by rw [same, List.cons_append], ?_, ?_⟩
                · have short := length_codePoint point
                  have some := List.length_pos_iff.mpr nonempty
                  show (codePoint point).length ≤ consumed.length + 1
                  omega
                · rw [brace]
                  exact List.not_mem_cons_of_ne_of_not_mem (by decide) clean
              · cases found
      · rcases Option.map_eq_some_iff.mp found with ⟨digits, four, rfl⟩
        rcases hexDigits_read four with ⟨consumed, same, length, clean⟩
        refine ⟨consumed, same, ?_, clean⟩
        rw [length]
        exact Nat.le_add_left 1 3

theorem escape_read {text : JsString} {read : JsString × JsString}
    (found : escape text = some read) : Escaped text read.1 read.2 := by
  constructor
  cases text with
  | nil => cases found
  | cons letter rest =>
      rw [escape.eq_def] at found
      dsimp only at found
      split at found
      · rename_i isX
        rcases Option.map_eq_some_iff.mp found with ⟨digits, two, rfl⟩
        rcases hexDigits_read two with ⟨consumed, same, length, clean⟩
        refine ⟨letter :: consumed, by rw [same, List.cons_append], ?_, List.cons_ne_nil _ _,
          .inl ?_⟩
        · show 1 ≤ consumed.length + 1
          omega
        · rw [isX]
          exact List.not_mem_cons_of_ne_of_not_mem (by decide) clean
      split at found
      · rename_i isU
        rcases unicodeEscape_read found with ⟨consumed, same, length, clean⟩
        refine ⟨letter :: consumed, by rw [same, List.cons_append], Nat.le_succ_of_le length,
          List.cons_ne_nil _ _, .inl ?_⟩
        rw [isU]
        exact List.not_mem_cons_of_ne_of_not_mem (by decide) clean
      split at found
      · rename_i isZero
        split at found
        · cases found
        · cases found
          refine ⟨[letter], rfl, Nat.le_refl 1, List.cons_ne_nil _ _, .inl ?_⟩
          rw [isZero]
          decide
      split at found
      · cases found
      split at found
      · rename_i isReturn
        have alone : 0x22 ∉ [letter] := by
          rw [isReturn]
          decide
        split at found
        · cases found
          exact ⟨[letter], rfl, Nat.zero_le 1, List.cons_ne_nil _ _, .inl alone⟩
        · split at found
          · rename_i next after isNewline
            cases found
            refine ⟨[letter, next], rfl, Nat.zero_le 2, List.cons_ne_nil _ _, .inl ?_⟩
            rw [isReturn, isNewline]
            decide
          · cases found
            exact ⟨[letter], rfl, Nat.zero_le 1, List.cons_ne_nil _ _, .inl alone⟩
      split at found
      · rename_i terminator
        cases found
        refine ⟨[letter], rfl, Nat.zero_le 1, List.cons_ne_nil _ _, .inl ?_⟩
        intro quote
        rw [← List.mem_singleton.mp quote] at terminator
        exact absurd terminator (by decide)
      · cases found
        refine ⟨[letter], rfl, Nat.le_refl 1, List.cons_ne_nil _ _, ?_⟩
        by_cases quote : letter = 0x22
        · right
          rw [quote]
          exact ⟨rfl, rfl⟩
        · left
          intro inside
          exact quote (List.mem_singleton.mp inside).symm

theorem escape_shorter {text : JsString} {read : JsString × JsString}
    (found : escape text = some read) : read.2.length < text.length := by
  rcases (escape_read found).read with ⟨consumed, same, -, nonempty, -⟩
  have some := List.length_pos_iff.mpr nonempty
  rw [same, List.length_append]
  omega

/-! ## Literals -/

/-- Reads a literal behind its opening quote: its value, and what follows the closing one. -/
def read (text : JsString) : Option (JsString × JsString) :=
  match text with
  | [] => none
  | unit :: rest =>
      if unit = 0x22 then some ([], rest)
      else if unit = 0x5C then
        match _found : escape rest with
        | none => none
        | some escaped => (read escaped.2).map fun string => (escaped.1 ++ string.1, string.2)
      else if unit = 0x0A ∨ unit = 0x0D then none
      else (read rest).map fun string => (unit :: string.1, string.2)
termination_by text.length
decreasing_by
  · have shorter := escape_shorter _found
    rw [List.length_cons]
    omega
  · exact Nat.lt_succ_self _

def Clean (unit : CodeUnit) : Prop :=
  unit ≠ 0x22 ∧ unit ≠ 0x5C ∧ unit ≠ 0x0A ∧ unit ≠ 0x0D

instance (unit : CodeUnit) : Decidable (Clean unit) :=
  inferInstanceAs (Decidable (_ ∧ _))

def CleanText (text : JsString) : Prop :=
  ∀ unit ∈ text, Clean unit

instance (text : JsString) : Decidable (CleanText text) :=
  List.decidableBAll Clean text

theorem read_quote (rest : JsString) : read (0x22 :: rest) = some ([], rest) := by
  rw [read]
  exact if_pos rfl

theorem read_clean_cons (clean : Clean unit) (rest : JsString) :
    read (unit :: rest) = (read rest).map fun string => (unit :: string.1, string.2) := by
  rw [read, if_neg clean.1, if_neg clean.2.1, if_neg]
  rintro (newline | linefeed)
  · exact clean.2.2.1 newline
  · exact clean.2.2.2 linefeed

theorem read_escape (found : read (0x5C :: rest) = some string) :
    ∃ escaped string', escape rest = some escaped ∧ read escaped.2 = some string' ∧
      string = (escaped.1 ++ string'.1, string'.2) := by
  rw [read, if_neg (by decide), if_pos rfl] at found
  split at found
  · cases found
  · rename_i escaped isEscape
    rcases Option.map_eq_some_iff.mp found with ⟨string', isString, rfl⟩
    exact ⟨escaped, string', isEscape, isString, rfl⟩

theorem read_terminator (terminator : unit = 0x0A ∨ unit = 0x0D) (rest : JsString) :
    read (unit :: rest) = none := by
  have quote : unit ≠ 0x22 := by
    rcases terminator with rfl | rfl <;> decide
  have backslash : unit ≠ 0x5C := by
    rcases terminator with rfl | rfl <;> decide
  rw [read, if_neg quote, if_neg backslash, if_pos terminator]

theorem read_clean {text : JsString} (clean : CleanText text) (rest : JsString) :
    read (text ++ 0x22 :: rest) = some (text, rest) := by
  induction text with
  | nil => exact read_quote rest
  | cons unit text induction =>
      rcases List.forall_mem_cons.mp clean with ⟨first, others⟩
      rw [List.cons_append, read_clean_cons first, induction others]
      rfl

theorem ne_quote_cons {text value : JsString} (noQuote : 0x22 ∉ front) :
    front ++ 0x5C :: text ≠ 0x22 :: value := by
  cases front with
  | nil =>
      intro same
      exact absurd (List.cons.inj same).1 (by decide)
  | cons unit front =>
      intro same
      rw [List.cons_append] at same
      rw [(List.cons.inj same).1] at noQuote
      exact noQuote List.mem_cons_self

/-- An escape either ends before the text does, or it is the closing quote that is escaped. -/
theorem escape_within {text : JsString} {read : JsString × JsString}
    (found : escape (text ++ 0x22 :: rest) = some read) :
    (∃ consumed others, text = consumed ++ others ∧ read.2 = others ++ 0x22 :: rest ∧
      read.1.length ≤ consumed.length ∧ 0x22 ∉ consumed) ∨ read.1 = [0x22] := by
  rcases (escape_read found).read with ⟨consumed, same, length, -, free | ⟨-, value⟩⟩
  · left
    rcases List.append_eq_append_iff.mp same with ⟨others, longer, after⟩ | ⟨others, within, after⟩
    · cases others with
      | nil =>
          rw [List.append_nil] at longer
          rw [List.nil_append] at after
          subst longer
          exact ⟨consumed, [], (List.append_nil _).symm, after.symm, length, free⟩
      | cons unit others =>
          rw [List.cons_append] at after
          rw [longer, ← (List.cons.inj after).1] at free
          exact absurd (List.mem_append_right _ List.mem_cons_self) free
    · exact ⟨consumed, others, within, after, length, free⟩
  · exact .inr value

/-- A text that needs an escape is not the value of its literal: reading it gives what is
left of the text itself never behind anything that was gained. -/
theorem read_ne {text : JsString} (noQuote : 0x22 ∉ front)
    (bad : front ≠ [] ∨ ∃ unit ∈ text, ¬ Clean unit) (after : JsString) :
    read (text ++ 0x22 :: rest) ≠ some (front ++ text, after) := by
  induction size : text.length using Nat.strong_induction_on generalizing text front with
  | _ size induction =>
      subst size
      intro found
      cases text with
      | nil =>
          rw [List.nil_append, read_quote, List.append_nil] at found
          rcases bad with nonempty | ⟨unit, inside, -⟩
          · cases found
            exact nonempty rfl
          · cases inside
      | cons unit text =>
          rw [List.cons_append] at found
          by_cases quote : unit = 0x22
          · rw [quote, read_quote] at found
            have empty := (Prod.mk.inj (Option.some.inj found)).1
            exact absurd empty.symm (List.append_ne_nil_of_right_ne_nil _ (List.cons_ne_nil _ _))
          by_cases backslash : unit = 0x5C
          · rw [backslash] at found
            rcases read_escape found with ⟨escaped, string, isEscape, isString, same⟩
            have value : front ++ 0x5C :: text = escaped.1 ++ string.1 := (Prod.mk.inj same).1
            rcases escape_within isEscape with
              ⟨consumed, others, within, tail, length, free⟩ | isQuote
            · -- what the escape stands for is shorter than its text, so something is left over
              rw [tail] at isString
              let gained := (front ++ 0x5C :: consumed).drop escaped.1.length
              have left : string.1 = gained ++ others := by
                have whole : front ++ 0x5C :: text = (front ++ 0x5C :: consumed) ++ others := by
                  rw [within, List.append_assoc, List.cons_append]
                have dropped := congrArg (List.drop escaped.1.length) (value.symm.trans whole)
                rw [List.drop_left] at dropped
                rw [dropped, List.drop_append_of_le_length]
                rw [List.length_append, List.length_cons]
                omega
              have nonempty : gained ≠ [] := by
                apply List.ne_nil_of_length_pos
                rw [List.length_drop, List.length_append, List.length_cons]
                omega
              have clean : 0x22 ∉ gained := by
                intro inside
                rcases List.mem_append.mp (List.mem_of_mem_drop inside) with inside | inside
                · exact noQuote inside
                · exact List.not_mem_cons_of_ne_of_not_mem (by decide) free inside
              refine induction others.length ?_ clean (.inl nonempty) rfl ?_
              · rw [within, List.length_cons, List.length_append]
                omega
              · rw [isString, ← left, (Prod.mk.inj same).2]
            · rw [isQuote] at value
              exact ne_quote_cons noQuote value
          by_cases terminator : unit = 0x0A ∨ unit = 0x0D
          · rw [read_terminator terminator] at found
            cases found
          · have clean : Clean unit :=
              ⟨quote, backslash, fun newline => terminator (.inl newline),
                fun linefeed => terminator (.inr linefeed)⟩
            rw [read_clean_cons clean] at found
            rcases Option.map_eq_some_iff.mp found with ⟨string, isString, same⟩
            have value : unit :: string.1 = front ++ unit :: text := (Prod.mk.inj same).1
            have left : string.1 = (front ++ [unit]).tail ++ text := by
              have whole : front ++ unit :: text = (front ++ [unit]) ++ text := by
                rw [List.append_assoc, List.singleton_append]
              rw [whole] at value
              have tails := congrArg List.tail value
              rwa [List.tail_cons, List.tail_append_of_ne_nil] at tails
              exact List.append_ne_nil_of_right_ne_nil _ (List.cons_ne_nil _ _)
            have free : 0x22 ∉ (front ++ [unit]).tail := by
              intro inside
              rcases List.mem_append.mp (List.mem_of_mem_tail inside) with inside | inside
              · exact noQuote inside
              · exact quote (List.mem_singleton.mp inside).symm
            refine induction text.length (Nat.lt_succ_self _) free ?_ rfl ?_
            · cases front with
              | cons first front =>
                  left
                  rw [List.cons_append, List.tail_cons]
                  exact List.append_ne_nil_of_right_ne_nil _ (List.cons_ne_nil _ _)
              | nil =>
                  right
                  rcases bad with nonempty | ⟨other, inside, unclean⟩
                  · exact absurd rfl nonempty
                  · rcases List.mem_cons.mp inside with rfl | inside
                    · exact absurd clean unclean
                    · exact ⟨other, inside, unclean⟩
            · rw [isString, ← left, ← (Prod.mk.inj same).2]

theorem read_self_iff (text rest : JsString) :
    (∃ after, read (text ++ 0x22 :: rest) = some (text, after)) ↔ CleanText text := by
  constructor
  · rintro ⟨after, found⟩
    by_contra unclean
    have bad : ∃ unit ∈ text, ¬ Clean unit := by
      simpa only [CleanText, not_forall, exists_prop] using unclean
    exact read_ne List.not_mem_nil (.inr bad) after found
  · intro clean
    exact ⟨rest, read_clean clean rest⟩

theorem read_shorter {text : JsString} (found : read text = some string) :
    string.2.length < text.length := by
  induction text using read.induct generalizing string with
  | case1 =>
      rw [read] at found
      cases found
  | case2 rest =>
      rw [read_quote] at found
      cases found
      exact Nat.lt_succ_self _
  | case3 rest isEscape quote =>
      rcases read_escape found with ⟨escaped, -, some, -⟩
      rw [isEscape] at some
      cases some
  | case4 rest escaped isEscape quote induction =>
      rcases read_escape found with ⟨escaped', string', some, isString, rfl⟩
      rw [isEscape] at some
      cases some
      have first := escape_shorter isEscape
      have second := induction isString
      show string'.2.length < rest.length + 1
      omega
  | case5 unit rest quote backslash terminator =>
      rw [read_terminator terminator] at found
      cases found
  | case6 unit rest quote backslash terminator induction =>
      rw [read, if_neg quote, if_neg backslash, if_neg terminator] at found
      rcases Option.map_eq_some_iff.mp found with ⟨string', isString, rfl⟩
      have shorter := induction isString
      show string'.2.length < rest.length + 1
      omega

end StringLiteral

/-! ## Code with literals in it -/

/-- A module as a reader sees it: units of code, and the values of its literals. -/
inductive Token
  | unit (unit : CodeUnit)
  | literal (value : JsString)
  deriving DecidableEq

namespace Token

def Plain (unit : CodeUnit) : Prop :=
  unit ≠ 0x22 ∧ unit ∉ ([0x27, 0x60, 0x2F, 0x5C] : JsString)

instance (unit : CodeUnit) : Decidable (Plain unit) :=
  inferInstanceAs (Decidable (_ ∧ _))

def PlainText (text : JsString) : Prop :=
  ∀ unit ∈ text, Plain unit

instance (text : JsString) : Decidable (PlainText text) :=
  List.decidableBAll Plain text

theorem plainText_append {first second : JsString} :
    PlainText (first ++ second) ↔ PlainText first ∧ PlainText second :=
  List.forall_mem_append

/-- Reads a text whose only literals are between double quotes. It is given up at an
apostrophe, a backquote, a slash or a backslash outside of them. -/
def lex (text : JsString) : Option (List Token) :=
  match text with
  | [] => some []
  | first :: rest =>
      if first = 0x22 then
        match _found : StringLiteral.read rest with
        | none => none
        | some string => (lex string.2).map (literal string.1 :: ·)
      else if first ∈ ([0x27, 0x60, 0x2F, 0x5C] : JsString) then none
      else (lex rest).map (unit first :: ·)
termination_by text.length
decreasing_by
  · have shorter := StringLiteral.read_shorter _found
    rw [List.length_cons]
    omega
  · exact Nat.lt_succ_self _

theorem lex_nil : lex [] = some [] := by
  rw [lex]

theorem lex_plain {first : CodeUnit} (plain : Plain first) (rest : JsString) :
    lex (first :: rest) = (lex rest).map (unit first :: ·) := by
  rw [lex, if_neg plain.1, if_neg plain.2]

theorem lex_quote (rest : JsString) :
    lex (0x22 :: rest) = (StringLiteral.read rest).bind fun string =>
      (lex string.2).map (literal string.1 :: ·) := by
  rw [lex, if_pos rfl]
  split
  · rename_i none
    rw [none, Option.bind_none]
  · rename_i string some
    rw [some, Option.bind_some]

theorem lex_unit_iff (first : CodeUnit) (rest : JsString) (tokens : List Token) :
    lex (first :: rest) = some (unit first :: tokens) ↔ Plain first ∧ lex rest = some tokens := by
  constructor
  · intro found
    by_cases quote : first = 0x22
    · rw [quote, lex_quote] at found
      rcases Option.bind_eq_some_iff.mp found with ⟨string, -, tail⟩
      rcases Option.map_eq_some_iff.mp tail with ⟨others, -, same⟩
      cases same
    by_cases opens : first ∈ ([0x27, 0x60, 0x2F, 0x5C] : JsString)
    · rw [lex, if_neg quote, if_pos opens] at found
      cases found
    rw [lex_plain ⟨quote, opens⟩] at found
    rcases Option.map_eq_some_iff.mp found with ⟨others, isRest, same⟩
    cases same
    exact ⟨⟨quote, opens⟩, isRest⟩
  · rintro ⟨plain, found⟩
    rw [lex_plain plain, found, Option.map_some]

theorem lex_units_iff (text rest : JsString) (tokens : List Token) :
    lex (text ++ rest) = some (text.map unit ++ tokens) ↔
      PlainText text ∧ lex rest = some tokens := by
  induction text with
  | nil => simp [PlainText]
  | cons first text induction =>
      rw [List.cons_append, List.map_cons, List.cons_append, lex_unit_iff, induction,
        PlainText, PlainText, List.forall_mem_cons, and_assoc]

theorem lex_literal_iff (value rest : JsString) (tokens : List Token) :
    lex (0x22 :: (value ++ 0x22 :: rest)) = some (literal value :: tokens) ↔
      StringLiteral.CleanText value ∧ lex rest = some tokens := by
  rw [lex_quote]
  constructor
  · intro found
    rcases Option.bind_eq_some_iff.mp found with ⟨string, isString, tail⟩
    rcases Option.map_eq_some_iff.mp tail with ⟨others, isRest, same⟩
    cases same
    have clean := (StringLiteral.read_self_iff string.1 rest).mp ⟨string.2, isString⟩
    rw [StringLiteral.read_clean clean] at isString
    rw [← congrArg Prod.snd (Option.some.inj isString)] at isRest
    exact ⟨clean, isRest⟩
  · rintro ⟨clean, found⟩
    rw [StringLiteral.read_clean clean, Option.bind_some, found, Option.map_some]

end Token

/-- A part of a text that is put together: code, or a value between quotes. -/
inductive Piece
  | code (text : JsString)
  | literal (value : JsString)
  deriving DecidableEq

namespace Piece

/-- A value is put between quotes as it is. -/
def text : Piece → JsString
  | code text => text
  | literal value => 0x22 :: (value ++ [0x22])

def tokens : Piece → List Token
  | code text => text.map Token.unit
  | literal value => [Token.literal value]

def Faithful : Piece → Prop
  | code text => Token.PlainText text
  | literal value => StringLiteral.CleanText value

instance : DecidablePred Faithful
  | code text => inferInstanceAs (Decidable (Token.PlainText text))
  | literal value => inferInstanceAs (Decidable (StringLiteral.CleanText value))

def render (pieces : List Piece) : JsString :=
  pieces.flatMap text

theorem forall_mem_intercalate {Part : Type u} {holds : Part → Prop} {separator : List Part}
    (separates : ∀ part ∈ separator, holds part) (rows : List (List Part)) :
    (∀ part ∈ List.intercalate separator rows, holds part) ↔
      ∀ row ∈ rows, ∀ part ∈ row, holds part := by
  induction rows with
  | nil => simp
  | cons row rows induction =>
      cases rows with
      | nil => rw [List.intercalate_singleton, List.forall_mem_singleton]
      | cons next rows =>
          rw [List.intercalate_cons_cons, List.forall_mem_append, List.forall_mem_append,
            induction]
          constructor
          · intro both
            exact List.forall_mem_cons.mpr ⟨both.1.1, both.2⟩
          · intro whole
            rcases List.forall_mem_cons.mp whole with ⟨first, others⟩
            exact ⟨⟨first, separates⟩, others⟩

theorem lex_render_iff (pieces : List Piece) :
    Token.lex (render pieces) = some (pieces.flatMap tokens) ↔
      ∀ piece ∈ pieces, piece.Faithful := by
  induction pieces with
  | nil => simp [render, Token.lex_nil]
  | cons piece pieces induction =>
      rw [List.forall_mem_cons, ← induction, render, List.flatMap_cons, List.flatMap_cons]
      cases piece with
      | code text => exact Token.lex_units_iff text _ _
      | literal value =>
          rw [text, tokens, List.cons_append, List.append_assoc, List.singleton_append,
            List.singleton_append]
          exact Token.lex_literal_iff value _ _

end Piece

end Orbital.Foundation
