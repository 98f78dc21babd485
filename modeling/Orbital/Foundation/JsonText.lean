import Orbital.Foundation.JsonTree

/-! # JSON texts

A text is a tree of literals. The reader takes every text of the grammar, with white
space between its parts; the writer leaves white space out and escapes what must not
stand in a string. What was written is read back.
-/

namespace Orbital.Foundation

/-! ## Strings -/

namespace JsonString

def shortEscapes : List (CodeUnit × CodeUnit) :=
  [(0x08, 0x62), (0x09, 0x74), (0x0A, 0x6E), (0x0C, 0x66), (0x0D, 0x72), (0x22, 0x22),
    (0x5C, 0x5C)]

def hexText (unit : CodeUnit) : JsString :=
  [hexUnit (unit.toNat / 4096), hexUnit (unit.toNat / 256 % 16),
    hexUnit (unit.toNat / 16 % 16), hexUnit (unit.toNat % 16)]

def escaped (unit : CodeUnit) : JsString :=
  match shortEscapes.lookup unit with
  | some letter => [0x5C, letter]
  | none =>
      if unit.toNat < 0x20 || unit.isHighSurrogate || unit.isLowSurrogate then
        0x5C :: 0x75 :: hexText unit
      else [unit]

def body : JsString → JsString
  | [] => []
  | [unit] => escaped unit
  | high :: low :: rest =>
      if high.isHighSurrogate && low.isLowSurrogate then high :: low :: body rest
      else escaped high ++ body (low :: rest)

/-- `JSON.stringify(text)` -/
def quote (text : JsString) : JsString :=
  0x22 :: (body text ++ [0x22])

def unescape (letter : CodeUnit) : Option CodeUnit :=
  (((0x2F, 0x2F) :: shortEscapes).find? fun escape => escape.2 = letter).map Prod.fst

def hexValue (first second third fourth : CodeUnit) : Option CodeUnit := do
  let first ← hexDigit first
  let second ← hexDigit second
  let third ← hexDigit third
  let fourth ← hexDigit fourth
  return UInt16.ofNat (((first * 16 + second) * 16 + third) * 16 + fourth)

def cons (unit : CodeUnit) (read : Option (JsString × JsString)) : Option (JsString × JsString) :=
  read.map fun string => (unit :: string.1, string.2)

def read : JsString → Option (JsString × JsString)
  | [] => none
  | unit :: rest =>
      if unit = 0x22 then some ([], rest)
      else if unit = 0x5C then
        match rest with
        | [] => none
        | letter :: rest =>
            if letter = 0x75 then
              match rest with
              | first :: second :: third :: fourth :: rest =>
                  match hexValue first second third fourth with
                  | none => none
                  | some unit => cons unit (read rest)
              | _ => none
            else
              match unescape letter with
              | none => none
              | some unit => cons unit (read rest)
      else if unit.toNat < 0x20 then none
      else cons unit (read rest)

theorem hexValue_hexText (unit : CodeUnit) :
    hexValue (hexUnit (unit.toNat / 4096)) (hexUnit (unit.toNat / 256 % 16))
      (hexUnit (unit.toNat / 16 % 16)) (hexUnit (unit.toNat % 16)) = some unit := by
  have small := UInt16.toNat_lt unit
  have whole : ((unit.toNat / 4096 * 16 + unit.toNat / 256 % 16) * 16 +
      unit.toNat / 16 % 16) * 16 + unit.toNat % 16 = unit.toNat := by
    omega
  rw [hexValue, hexDigit_hexUnit (by omega), hexDigit_hexUnit (by omega),
    hexDigit_hexUnit (by omega), hexDigit_hexUnit (by omega)]
  simp only [Option.bind_eq_bind, Option.bind_some, whole, UInt16.ofNat_toNat]
  rfl

theorem read_quote (rest : JsString) : read (0x22 :: rest) = some ([], rest) := by
  rw [read.eq_def]
  exact if_pos rfl

theorem read_plain {unit : CodeUnit} (quote : unit ≠ 0x22) (backslash : unit ≠ 0x5C)
    (printable : ¬ unit.toNat < 0x20) (rest : JsString) :
    read (unit :: rest) = cons unit (read rest) := by
  rw [read.eq_def]
  simp only [if_neg quote, if_neg backslash, if_neg printable]

theorem read_surrogate {unit : CodeUnit}
    (half : unit.isHighSurrogate = true ∨ unit.isLowSurrogate = true) (rest : JsString) :
    read (unit :: rest) = cons unit (read rest) := by
  have large : 0xD800 ≤ unit.toNat := by
    simp only [CodeUnit.isHighSurrogate, CodeUnit.isLowSurrogate, Bool.and_eq_true,
      decide_eq_true_eq] at half
    omega
  apply read_plain
  · intro quote
    rw [quote] at large
    exact absurd large (by decide)
  · intro backslash
    rw [backslash] at large
    exact absurd large (by decide)
  · omega

theorem read_escaped (unit : CodeUnit) (rest : JsString) :
    read (escaped unit ++ rest) = cons unit (read rest) := by
  cases short : shortEscapes.lookup unit with
  | some letter =>
      rcases List.lookup_eq_some_iff.mp short with ⟨front, back, table, -⟩
      have member : (unit, letter) ∈ shortEscapes := by
        rw [table]
        exact List.mem_append_right front List.mem_cons_self
      have known : shortEscapes.all (fun escape =>
          decide (escape.2 ≠ 0x75 ∧ unescape escape.2 = some escape.1)) = true := by
        decide
      have escape := of_decide_eq_true (List.all_eq_true.mp known _ member)
      simp only [escaped, short, List.cons_append, List.nil_append]
      rw [read.eq_def]
      simp only [if_neg escape.1, escape.2]
      rfl
  | none =>
      simp only [escaped, short]
      split
      · simp only [hexText, List.cons_append, List.nil_append]
        rw [read.eq_def]
        simp only [hexValue_hexText]
        rfl
      · rename_i plain
        rw [Bool.not_eq_true, Bool.or_eq_false_iff, Bool.or_eq_false_iff,
          decide_eq_false_iff_not] at plain
        apply read_plain
        · intro quote
          rw [quote] at short
          cases short
        · intro backslash
          rw [backslash] at short
          cases short
        · exact plain.1.1

theorem read_body (text rest : JsString) :
    read (body text ++ 0x22 :: rest) = some (text, rest) := by
  fun_induction body text with
  | case1 => exact read_quote rest
  | case2 unit =>
      rw [read_escaped, read_quote]
      rfl
  | case3 high low more halves induction =>
      rw [Bool.and_eq_true] at halves
      rw [List.cons_append, List.cons_append, read_surrogate (.inl halves.1),
        read_surrogate (.inr halves.2), induction]
      rfl
  | case4 high low more halves induction =>
      rw [List.append_assoc, read_escaped, induction]
      rfl

end JsonString

/-! ## Texts -/

inductive JsonLeaf
  | null
  | boolean (value : Bool)
  | number (literal : NumberLiteral)
  | string (text : JsString)
  deriving DecidableEq

abbrev JsonSyntax := JsonTree JsonLeaf

namespace JsonSyntax

def leafText : JsonLeaf → JsString
  | .null => js "null"
  | .boolean true => js "true"
  | .boolean false => js "false"
  | .number literal => literal.text
  | .string text => JsonString.quote text

def separated (parts : List JsString) : JsString :=
  List.intercalate [0x2C] parts

mutual
def print : JsonSyntax → JsString
  | .leaf leaf => leafText leaf
  | .array items => 0x5B :: (separated (printItems items) ++ [0x5D])
  | .object members => 0x7B :: (separated (printMembers members) ++ [0x7D])

def printItems : List JsonSyntax → List JsString
  | [] => []
  | item :: rest => print item :: printItems rest

def printMembers : List (JsString × JsonSyntax) → List JsString
  | [] => []
  | (key, value) :: rest =>
      (JsonString.quote key ++ 0x3A :: print value) :: printMembers rest
end

theorem printItems_eq (items : List JsonSyntax) : printItems items = items.map print := by
  induction items with
  | nil => rfl
  | cons item rest induction => rw [printItems, induction, List.map_cons]

def memberText (member : JsString × JsonSyntax) : JsString :=
  JsonString.quote member.1 ++ 0x3A :: print member.2

theorem printMembers_eq (members : List (JsString × JsonSyntax)) :
    printMembers members = members.map memberText := by
  induction members with
  | nil => rfl
  | cons member rest induction =>
      rcases member with ⟨key, value⟩
      rw [printMembers, induction, List.map_cons]
      rfl

/-! ## Reading -/

def isWhitespace (unit : CodeUnit) : Bool :=
  unit == 0x20 || unit == 0x09 || unit == 0x0A || unit == 0x0D

def skipWhitespace (text : JsString) : JsString :=
  text.dropWhile isWhitespace

abbrev Reader (Value : Type u) :=
  JsString → Option (Value × JsString)

def readParts (part : Reader Value) (close : CodeUnit) : Nat → Reader (List Value)
  | 0, _ => none
  | fuel + 1, text =>
      match part text with
      | none => none
      | some (value, rest) =>
          match skipWhitespace rest with
          | [] => none
          | unit :: rest =>
              if unit = close then some ([value], rest)
              else if unit = 0x2C then
                match readParts part close fuel rest with
                | none => none
                | some (values, rest) => some (value :: values, rest)
              else none

def readBracketed (part : Reader Value) (close : CodeUnit) : Reader (List Value) := fun text =>
  match skipWhitespace text with
  | [] => none
  | unit :: rest =>
      if unit = close then some ([], rest)
      else readParts part close text.length (unit :: rest)

def readMember (value : Reader Value) : Reader (JsString × Value) := fun text =>
  match skipWhitespace text with
  | [] => none
  | unit :: rest =>
      if unit = 0x22 then
        match JsonString.read rest with
        | none => none
        | some (key, rest) =>
            match skipWhitespace rest with
            | [] => none
            | unit :: rest =>
                if unit = 0x3A then (value rest).map fun read => ((key, read.1), read.2)
                else none
      else none

def readWord (word : JsString) (leaf : JsonLeaf) : Reader JsonSyntax := fun text =>
  if word.isPrefixOf text then some (.leaf leaf, text.drop word.length) else none

def readValue : Nat → Reader JsonSyntax
  | 0, _ => none
  | fuel + 1, text =>
      match skipWhitespace text with
      | [] => none
      | unit :: rest =>
          if unit = 0x22 then
            (JsonString.read rest).map fun read => (.leaf (.string read.1), read.2)
          else if unit = 0x5B then
            (readBracketed (readValue fuel) 0x5D rest).map fun read => (.array read.1, read.2)
          else if unit = 0x7B then
            (readBracketed (readMember (readValue fuel)) 0x7D rest).map fun read =>
              (.object read.1, read.2)
          else if unit = 0x6E then readWord (js "null") .null (unit :: rest)
          else if unit = 0x74 then readWord (js "true") (.boolean true) (unit :: rest)
          else if unit = 0x66 then readWord (js "false") (.boolean false) (unit :: rest)
          else
            (NumberLiteral.read (unit :: rest)).map fun read =>
              (.leaf (.number read.1), read.2)

def parse (text : JsString) : Option JsonSyntax :=
  match readValue (text.length + 1) text with
  | none => none
  | some (tree, rest) => if skipWhitespace rest = [] then some tree else none

/-! ## Reading what was written -/

variable {unit : CodeUnit} {rest : JsString}

theorem skipWhitespace_cons (ink : isWhitespace unit = false) (rest : JsString) :
    skipWhitespace (unit :: rest) = unit :: rest := by
  rw [skipWhitespace, List.dropWhile_cons, ink]
  rfl

theorem separated_cons_cons (first second : JsString) (rest : List JsString) :
    separated (first :: second :: rest) = first ++ 0x2C :: separated (second :: rest) := by
  rw [separated, List.intercalate_cons_cons, List.append_assoc]
  rfl

theorem separated_singleton (part : JsString) : separated [part] = part :=
  List.intercalate_singleton

theorem length_le_separated {parts : List JsString} (some : ∀ part ∈ parts, part ≠ []) :
    parts.length ≤ (separated parts).length := by
  induction parts with
  | nil => exact Nat.zero_le _
  | cons first rest induction =>
      have head := List.length_pos_iff.mpr (some first List.mem_cons_self)
      have tail := induction fun part member => some part (List.mem_cons_of_mem first member)
      cases rest with
      | nil =>
          rw [separated_singleton]
          exact head
      | cons second rest =>
          rw [separated_cons_cons, List.length_append, List.length_cons]
          have more : (separated (second :: rest)).length <
              (0x2C :: separated (second :: rest)).length := by
            rw [List.length_cons]
            exact Nat.lt_succ_self _
          omega

def IsClosing (unit : CodeUnit) : Prop :=
  unit = 0x5D ∨ unit = 0x7D

theorem IsClosing.of_all (closing : IsClosing unit) {motive : CodeUnit → Prop}
    (bracket : motive 0x5D) (brace : motive 0x7D) : motive unit := by
  rcases closing with rfl | rfl
  · exact bracket
  · exact brace

def Starts (text : JsString) : Prop :=
  ∃ first rest, text = first :: rest ∧ isWhitespace first = false ∧ first ≠ 0x5D ∧ first ≠ 0x7D

theorem Starts.ne_nil {text : JsString} (starts : Starts text) : text ≠ [] := by
  rcases starts with ⟨first, rest, text, -⟩
  rw [text]
  exact List.cons_ne_nil first rest

section Parts

variable {Value : Type u} {part : Reader Value} {text : Value → JsString} {close : CodeUnit}

variable {values : List Value}

theorem readParts_separated (closing : IsClosing close)
    (reads : ∀ value ∈ values, ∀ rest, NumberLiteral.Ends rest →
      part (text value ++ rest) = some (value, rest)) (some : values ≠ []) {fuel : Nat}
    (enough : values.length ≤ fuel) (rest : JsString) :
    readParts part close fuel (separated (values.map text) ++ close :: rest) =
      Option.some (values, rest) := by
  have ink : isWhitespace close = false :=
    closing.of_all (motive := fun unit => isWhitespace unit = false) rfl rfl
  have ends : NumberLiteral.goesOn close = false :=
    closing.of_all (motive := fun unit => NumberLiteral.goesOn unit = false) rfl rfl
  have comma : 0x2C ≠ close :=
    closing.of_all (motive := fun unit => 0x2C ≠ unit) (by decide) (by decide)
  induction values generalizing fuel with
  | nil => exact absurd rfl some
  | cons value values induction =>
      cases fuel with
      | zero => exact absurd enough (Nat.not_succ_le_zero _)
      | succ fuel =>
          have readsValue := reads value List.mem_cons_self
          cases values with
          | nil =>
              rw [List.map_singleton, separated_singleton, readParts,
                readsValue _ (.cons ends rest)]
              simp only [skipWhitespace_cons ink, if_true]
          | cons second values =>
              have tail := induction
                (fun value member => reads value (List.mem_cons_of_mem _ member))
                (List.cons_ne_nil _ _) (Nat.le_of_succ_le_succ enough)
              have next : skipWhitespace (0x2C ::
                  (separated ((second :: values).map text) ++ close :: rest)) =
                    0x2C :: (separated ((second :: values).map text) ++ close :: rest) :=
                skipWhitespace_cons rfl _
              rw [List.map_cons, List.map_cons, separated_cons_cons, List.append_assoc,
                List.cons_append, ← List.map_cons, readParts, readsValue _ (.cons rfl _)]
              simp only [next, if_neg comma, if_true, tail]

theorem readBracketed_separated (closing : IsClosing close)
    (reads : ∀ value ∈ values, ∀ rest, NumberLiteral.Ends rest →
      part (text value ++ rest) = some (value, rest))
    (starts : ∀ value ∈ values, Starts (text value)) (rest : JsString) :
    readBracketed part close (separated (values.map text) ++ close :: rest) =
      some (values, rest) := by
  cases values with
  | nil =>
      have ink : isWhitespace close = false :=
        closing.of_all (motive := fun unit => isWhitespace unit = false) rfl rfl
      have empty : separated (List.map text []) ++ close :: rest = close :: rest := rfl
      rw [empty, readBracketed, skipWhitespace_cons ink]
      simp only [if_true]
  | cons value values =>
      have parts : ∀ part ∈ (value :: values).map text, part ≠ [] := by
        intro part member
        rcases List.mem_map.mp member with ⟨value, inside, rfl⟩
        exact (starts value inside).ne_nil
      have enough := length_le_separated parts
      rw [List.length_map] at enough
      have whole := readParts_separated closing reads (List.cons_ne_nil _ _)
        (Nat.le_trans enough (Nat.le_add_right _ (close :: rest).length)) rest
      rw [← List.length_append] at whole
      rcases starts value List.mem_cons_self with ⟨first, more, head, ink, bracket, brace⟩
      have other : first ≠ close :=
        closing.of_all (motive := fun unit => first ≠ unit) bracket brace
      have shape : ∃ tail, separated ((value :: values).map text) ++ close :: rest =
          first :: tail := by
        cases values with
        | nil =>
            rw [List.map_singleton, separated_singleton, head]
            exact ⟨_, rfl⟩
        | cons second values =>
            rw [List.map_cons, List.map_cons, separated_cons_cons, head]
            exact ⟨_, rfl⟩
      rcases shape with ⟨tail, shape⟩
      rw [shape] at whole ⊢
      rw [readBracketed, skipWhitespace_cons ink]
      simp only [if_neg other, whole]

end Parts

theorem readMember_print {value : Reader JsonSyntax} {tree : JsonSyntax}
    (reads : ∀ rest, NumberLiteral.Ends rest → value (print tree ++ rest) = some (tree, rest))
    (key : JsString) (ends : NumberLiteral.Ends rest) :
    readMember value (JsonString.quote key ++ 0x3A :: print tree ++ rest) =
      some ((key, tree), rest) := by
  have string := JsonString.read_body key (0x3A :: (print tree ++ rest))
  have quote : skipWhitespace (0x22 :: (JsonString.body key ++
      0x22 :: 0x3A :: (print tree ++ rest))) =
        0x22 :: (JsonString.body key ++ 0x22 :: 0x3A :: (print tree ++ rest)) :=
    skipWhitespace_cons rfl _
  have colon : skipWhitespace (0x3A :: (print tree ++ rest)) = 0x3A :: (print tree ++ rest) :=
    skipWhitespace_cons rfl _
  have shape : JsonString.quote key ++ 0x3A :: print tree ++ rest =
      0x22 :: (JsonString.body key ++ 0x22 :: 0x3A :: (print tree ++ rest)) := by
    simp only [JsonString.quote, List.cons_append, List.append_assoc, List.nil_append]
  rw [shape, readMember, quote]
  simp only [if_true, string, colon, reads rest ends]
  rfl

theorem number_starts (literal : NumberLiteral) :
    ∃ first rest, literal.text = first :: rest ∧
      (first = 0x2D ∨ ∃ digit, first = Digits.unit digit) := by
  rcases Digits.ofNat_eq_cons literal.integer with ⟨digit, digits, integer, -⟩
  rw [NumberLiteral.text, integer]
  cases literal.negative with
  | true => exact ⟨_, _, rfl, .inl rfl⟩
  | false => exact ⟨_, _, rfl, .inr ⟨digit, rfl⟩⟩

theorem digit_starts (digit : Digit) :
    isWhitespace (Digits.unit digit) = false ∧ Digits.unit digit ≠ 0x5D ∧
      Digits.unit digit ≠ 0x7D := by
  revert digit
  decide

theorem print_starts (tree : JsonSyntax) : Starts (print tree) := by
  cases tree with
  | array items | object members => exact ⟨_, _, rfl, rfl, by decide, by decide⟩
  | leaf leaf =>
      cases leaf with
      | null => exact ⟨_, _, rfl, rfl, by decide, by decide⟩
      | boolean value => cases value <;> exact ⟨_, _, rfl, rfl, by decide, by decide⟩
      | string text => exact ⟨_, _, rfl, rfl, by decide, by decide⟩
      | number literal =>
          rcases number_starts literal with ⟨first, rest, text, rfl | ⟨digit, rfl⟩⟩
          · exact ⟨_, rest, text, rfl, by decide, by decide⟩
          · exact ⟨_, rest, text, digit_starts digit⟩

theorem readValue_number (fuel : Nat) (literal : NumberLiteral) (ends : NumberLiteral.Ends rest) :
    readValue (fuel + 1) (literal.text ++ rest) = some (.leaf (.number literal), rest) := by
  have read := literal.read_text ends
  have starts := number_starts literal
  rcases starts with ⟨first, more, text, start⟩
  have dispatch : isWhitespace first = false ∧ first ≠ 0x22 ∧ first ≠ 0x5B ∧ first ≠ 0x7B ∧
      first ≠ 0x6E ∧ first ≠ 0x74 ∧ first ≠ 0x66 := by
    rcases start with rfl | ⟨digit, rfl⟩
    · decide
    · clear text
      revert digit
      decide
  rcases dispatch with ⟨ink, quote, bracket, brace, null, true, false⟩
  rw [text, List.cons_append] at read ⊢
  rw [readValue, skipWhitespace_cons ink]
  simp only [if_neg quote, if_neg bracket, if_neg brace, if_neg null, if_neg true,
    if_neg false, read]
  rfl

theorem readValue_leaf (fuel : Nat) (leaf : JsonLeaf) (ends : NumberLiteral.Ends rest) :
    readValue (fuel + 1) (leafText leaf ++ rest) = some (.leaf leaf, rest) := by
  cases leaf with
  | null => rfl
  | boolean value => cases value <;> rfl
  | number literal => exact readValue_number fuel literal ends
  | string text =>
      have string := JsonString.read_body text rest
      rw [leafText, JsonString.quote, List.cons_append, List.append_assoc, readValue,
        skipWhitespace_cons rfl]
      simp only [if_true, List.singleton_append, string]
      rfl

theorem length_part_le {Value : Type u} (text : Value → JsString) {values : List Value}
    {value : Value} (inside : value ∈ values) :
    (text value).length ≤ (separated (values.map text)).length := by
  induction values with
  | nil => cases inside
  | cons first rest induction =>
      cases rest with
      | nil =>
          rw [List.map_singleton, separated_singleton, List.mem_singleton.mp inside]
      | cons second rest =>
          rw [List.map_cons, List.map_cons, separated_cons_cons, ← List.map_cons,
            List.length_append, List.length_cons]
          rcases List.mem_cons.mp inside with same | inside
          · rw [same]
            exact Nat.le_add_right _ _
          · have tail := induction inside
            omega

theorem readValue_print (tree : JsonSyntax) {fuel : Nat} (enough : (print tree).length < fuel)
    (ends : NumberLiteral.Ends rest) : readValue fuel (print tree ++ rest) = some (tree, rest) := by
  induction tree using JsonTree.induction generalizing fuel rest with
  | leaf leaf =>
      cases fuel with
      | zero => exact absurd enough (Nat.not_lt_zero _)
      | succ fuel => exact readValue_leaf fuel leaf ends
  | array items induction =>
      cases fuel with
      | zero => exact absurd enough (Nat.not_lt_zero _)
      | succ fuel =>
          rw [print, printItems_eq, List.length_cons, List.length_append,
            List.length_singleton] at enough
          have reads : ∀ item ∈ items, ∀ rest, NumberLiteral.Ends rest →
              readValue fuel (print item ++ rest) = some (item, rest) := by
            intro item member rest ends
            have short := length_part_le print member
            exact induction item member (by omega) ends
          have parts := readBracketed_separated (.inl rfl) reads
            (fun item _ => print_starts item) rest
          rw [print, printItems_eq, List.cons_append, List.append_assoc,
            List.singleton_append, readValue, skipWhitespace_cons rfl]
          simp only [parts]
          rfl
  | object members induction =>
      cases fuel with
      | zero => exact absurd enough (Nat.not_lt_zero _)
      | succ fuel =>
          rw [print, printMembers_eq, List.length_cons, List.length_append,
            List.length_singleton] at enough
          have reads : ∀ member ∈ members, ∀ rest, NumberLiteral.Ends rest →
              readMember (readValue fuel) (memberText member ++ rest) = some (member, rest) := by
            intro member inside rest ends
            have short := length_part_le memberText inside
            rw [memberText, List.length_append, List.length_cons] at short
            exact readMember_print
              (fun rest ends => induction member inside (by omega) ends) member.1 ends
          have starts : ∀ member ∈ members, Starts (memberText member) :=
            fun member _ => ⟨_, _, rfl, rfl, by decide, by decide⟩
          have parts := readBracketed_separated (.inr rfl) reads starts rest
          rw [print, printMembers_eq, List.cons_append, List.append_assoc,
            List.singleton_append, readValue, skipWhitespace_cons rfl]
          simp only [parts]
          rfl

theorem parse_print (tree : JsonSyntax) : parse (print tree) = some tree := by
  have read := readValue_print tree (Nat.lt_succ_self _) NumberLiteral.Ends.nil
  rw [List.append_nil] at read
  rw [parse, read]
  exact if_pos rfl

theorem print_injective : Function.Injective print := by
  intro first second same
  have read := parse_print first
  rw [same, parse_print second] at read
  exact (Option.some.inj read).symm

end JsonSyntax

end Orbital.Foundation
