import Mathlib.Algebra.Ring.Nat
import Mathlib.Data.List.TakeWhile
import Orbital.PulseWebhooks.PrivateIp

/-! # The text of an IPv6 address

An address of 128 bits is written as its eight groups, in lower-case hexadecimal digits without
leading zeros. `::` stands for the longest run of zeros, of several the first, when it has two
groups or more. So does the parser of URLs.
-/

namespace Orbital.PulseWebhooks

abbrev Ipv6Address := BitVec 128

abbrev Ipv4Address := BitVec 32

namespace Ipv6Address

def group (address : Ipv6Address) (index : Nat) : Nat :=
  address.toNat / 2 ^ (16 * (7 - index)) % 2 ^ 16

def groups (address : Ipv6Address) : List Nat :=
  (List.range 8).map address.group

def zeros (groups : List Nat) : Nat :=
  (groups.takeWhile (· == 0)).length

def longestZeros : List Nat → Nat × Nat
  | [] => (0, 0)
  | group :: rest =>
      let later := longestZeros rest
      if zeros (group :: rest) < later.2 then (later.1 + 1, later.2)
      else (0, zeros (group :: rest))

def joined (groups : List Nat) : List Char :=
  [':'].intercalate (groups.map (Nat.toDigits 16))

def textOf (groups : List Nat) : List Char :=
  let run := longestZeros groups
  if 2 ≤ run.2 then
    joined (groups.take run.1) ++ ':' :: ':' :: joined (groups.drop (run.1 + run.2))
  else joined groups

def text (address : Ipv6Address) : String :=
  String.ofList (textOf address.groups)

example : text 0x20010db8000000000000000000000001 = "2001:db8::1" ∧
    text 0xffff7f000001 = "::ffff:7f00:1" ∧
    text 0x00010000000000020000000000000003 = "1:0:0:2::3" := by
  decide

end Ipv6Address

def Ipv4Address.text (address : Ipv4Address) : String :=
  String.ofList (List.intercalate ['.']
    ([24, 16, 8, 0].map fun shift => Nat.toDigits 10 (address.toNat / 2 ^ shift % 2 ^ 8)))

namespace Ipv6Address

/-! ## Runs of zeros -/

theorem zeros_cons_zero (rest : List Nat) : zeros (0 :: rest) = zeros rest + 1 := rfl

theorem zeros_cons {group : Nat} (nonzero : group ≠ 0) (rest : List Nat) :
    zeros (group :: rest) = 0 := by
  rw [zeros, List.takeWhile_cons_of_neg (by simpa using nonzero)]
  rfl

theorem zeros_le_length (groups : List Nat) : zeros groups ≤ groups.length :=
  (List.takeWhile_sublist _).length_le

theorem longestZeros_le (groups : List Nat) :
    (longestZeros groups).2 ≤ max (zeros groups) (groups.length - zeros groups) := by
  induction groups with
  | nil => simp [longestZeros]
  | cons group rest induction =>
      rw [longestZeros]
      split
      · by_cases zero : group = 0
        · subst zero
          rw [zeros_cons_zero, List.length_cons]
          have := zeros_le_length rest
          show (longestZeros rest).2 ≤ _
          omega
        · rw [zeros_cons zero, List.length_cons]
          have := zeros_le_length rest
          show (longestZeros rest).2 ≤ _
          omega
      · exact Nat.le_max_left _ _

theorem longestZeros_of_zeros {groups : List Nat} (many : groups.length ≤ 2 * zeros groups) :
    longestZeros groups = (0, zeros groups) := by
  cases groups with
  | nil => rfl
  | cons group rest =>
      have later := longestZeros_le rest
      have within := zeros_le_length rest
      rw [longestZeros, if_neg]
      by_cases zero : group = 0
      · subst zero
        rw [zeros_cons_zero, List.length_cons] at many
        rw [zeros_cons_zero]
        omega
      · rw [zeros_cons zero, List.length_cons] at many
        omega

theorem longestZeros_within (groups : List Nat) :
    (longestZeros groups).1 + (longestZeros groups).2 ≤ groups.length := by
  induction groups with
  | nil => simp [longestZeros]
  | cons group rest induction =>
      rw [longestZeros, List.length_cons]
      split
      · show (longestZeros rest).1 + 1 + (longestZeros rest).2 ≤ _
        omega
      · show 0 + zeros (group :: rest) ≤ _
        have := zeros_le_length (group :: rest)
        rw [List.length_cons] at this
        omega

theorem longestZeros_front {groups : List Nat} (front : (longestZeros groups).1 = 0) :
    (longestZeros groups).2 = zeros groups := by
  cases groups with
  | nil => rfl
  | cons group rest =>
      rw [longestZeros] at front ⊢
      split at front
      · cases front
      · rename_i longest
        rw [if_neg longest]

/-! ## Digits -/

theorem mem_toDigits {group : Nat} {char : Char} (member : char ∈ Nat.toDigits 16 group) :
    ∃ digit < 16, char = digit.digitChar := by
  induction group using Nat.base_induction 16 (by decide) with
  | single digit small =>
      rw [Nat.toDigits_of_lt_base small, List.mem_singleton] at member
      exact ⟨digit, small, member⟩
  | digit high low small positive induction =>
      rw [← Nat.toDigits_append_toDigits (by decide) positive small,
        Nat.toDigits_of_lt_base small, List.mem_append, List.mem_singleton] at member
      rcases member with inside | isLast
      · exact induction inside
      · exact ⟨low, small, isLast⟩

theorem digit_spec : ∀ digit < 16, isHexDigit digit.digitChar = true ∧
    isTailChar digit.digitChar = true ∧ digit.digitChar ≠ ':' ∧ digit.digitChar ≠ '.' ∧
      digit.digitChar ≠ '%' ∧ hexValue digit.digitChar = digit := by
  decide

theorem isHexGroup_toDigits {group : Nat} (bound : group < 2 ^ 16) :
    isHexGroup (Nat.toDigits 16 group) = true := by
  have nonempty : 1 ≤ (Nat.toDigits 16 group).length := Nat.length_toDigits_pos
  rw [isHexGroup, Bool.and_eq_true, Bool.and_eq_true, decide_eq_true_eq, decide_eq_true_eq,
    List.all_eq_true]
  constructor
  · exact ⟨nonempty, (Nat.length_toDigits_le_iff (by decide) (by decide)).mpr bound⟩
  · intro char member
    rcases mem_toDigits member with ⟨digit, small, rfl⟩
    exact (digit_spec digit small).1

theorem no_colon_in_toDigits (group : Nat) : ':' ∉ Nat.toDigits 16 group := by
  intro member
  rcases mem_toDigits member with ⟨digit, small, isColon⟩
  exact (digit_spec digit small).2.2.1 isColon.symm

/-! ## Joined groups -/

theorem joined_singleton (group : Nat) : joined [group] = Nat.toDigits 16 group := by
  simp [joined]

theorem joined_cons (group next : Nat) (rest : List Nat) :
    joined (group :: next :: rest) = Nat.toDigits 16 group ++ ':' :: joined (next :: rest) := by
  simp [joined, List.intercalate_cons_cons]

theorem mem_joined {groups : List Nat} {char : Char} (member : char ∈ joined groups) :
    char = ':' ∨ ∃ digit < 16, char = digit.digitChar := by
  induction groups with
  | nil => cases member
  | cons group rest induction =>
      cases rest with
      | nil =>
          rw [joined_singleton] at member
          exact Or.inr (mem_toDigits member)
      | cons next rest =>
          rw [joined_cons, List.mem_append, List.mem_cons] at member
          rcases member with inside | isColon | inside
          · exact Or.inr (mem_toDigits inside)
          · exact Or.inl isColon
          · exact induction inside

theorem joined_head (group : Nat) (rest : List Nat) :
    ∃ char tail, joined (group :: rest) = char :: tail ∧ char ≠ ':' := by
  have digits : ∃ char tail, Nat.toDigits 16 group = char :: tail ∧ char ≠ ':' := by
    cases same : Nat.toDigits 16 group with
    | nil => exact absurd same Nat.toDigits_ne_nil
    | cons char tail =>
        have member : char ∈ Nat.toDigits 16 group := by
          rw [same]
          exact List.mem_cons_self
        refine ⟨char, tail, rfl, ?_⟩
        rintro rfl
        exact no_colon_in_toDigits group member
  rcases digits with ⟨char, tail, same, noColon⟩
  cases rest with
  | nil => exact ⟨char, tail, by rw [joined_singleton, same], noColon⟩
  | cons next rest =>
      exact ⟨char, tail ++ ':' :: joined (next :: rest), by rw [joined_cons, same]; rfl, noColon⟩

theorem splitOn_joined {groups : List Nat} (nonempty : groups ≠ []) :
    (joined groups).splitOn ':' = groups.map (Nat.toDigits 16) := by
  apply List.splitOn_intercalate
  · intro digits member
    rcases List.mem_map.mp member with ⟨group, _, rfl⟩
    exact no_colon_in_toDigits group
  · simpa using nonempty

theorem groupsOf_joined (groups : List Nat) :
    groupsOf (joined groups) = groups.map (Nat.toDigits 16) := by
  cases groups with
  | nil => rfl
  | cons group rest =>
      rcases joined_head group rest with ⟨char, tail, same, _⟩
      rw [groupsOf, ← splitOn_joined (List.cons_ne_nil _ _), same]
      rfl

/-! ## A text is an address -/

theorem splitCompressed_append {digits : List Char} (noColon : ':' ∉ digits) (tail : List Char) :
    splitCompressed (digits ++ tail) =
      (splitCompressed tail).map fun parts => (digits ++ parts.1, parts.2) := by
  induction digits with
  | nil => simp
  | cons char rest induction =>
      rw [List.mem_cons, not_or] at noColon
      rw [List.cons_append, splitCompressed, induction noColon.2, Option.map_map]
      · rfl
      · intro other same
        exact absurd same.symm noColon.1

theorem splitCompressed_colon {char : Char} (noColon : char ≠ ':') (tail : List Char) :
    splitCompressed (':' :: char :: tail) =
      (splitCompressed (char :: tail)).map fun parts => (':' :: parts.1, parts.2) := by
  rw [splitCompressed]
  intro other _ same
  exact absurd (List.cons.inj same).1 noColon

theorem splitCompressed_joined_append (groups : List Nat) (tail : List Char) :
    splitCompressed (joined groups ++ tail) =
      (splitCompressed tail).map fun parts => (joined groups ++ parts.1, parts.2) := by
  induction groups with
  | nil => simp [joined]
  | cons group rest induction =>
      cases rest with
      | nil =>
          rw [joined_singleton]
          exact splitCompressed_append (no_colon_in_toDigits group) tail
      | cons next rest =>
          rcases joined_head next rest with ⟨char, digits, same, noColon⟩
          rw [joined_cons, List.append_assoc,
            splitCompressed_append (no_colon_in_toDigits group), List.cons_append, same,
            List.cons_append, splitCompressed_colon noColon, ← List.cons_append, ← same, induction,
            Option.map_map, Option.map_map]
          congr 1
          funext parts
          simp

theorem splitCompressed_joined (groups : List Nat) : splitCompressed (joined groups) = none := by
  have none := splitCompressed_joined_append groups []
  rw [List.append_nil, splitCompressed, Option.map_none] at none
  exact none

theorem splitCompressed_compressed (front back : List Nat) :
    splitCompressed (joined front ++ ':' :: ':' :: joined back) =
      some (joined front, joined back) := by
  rw [splitCompressed_joined_append, splitCompressed, Option.map_some, List.append_nil]

theorem no_dot_in_joined {groups : List Nat} {char : Char} (member : char ∈ joined groups) :
    char ≠ '.' ∧ char ≠ '%' ∧ isTailChar char = true := by
  rcases mem_joined member with rfl | ⟨digit, small, rfl⟩
  · decide
  · have spec := digit_spec digit small
    exact ⟨spec.2.2.2.1, spec.2.2.2.2.1, spec.2.1⟩

theorem not_isIPv4 {text : List Char} (noDot : '.' ∉ text) : isIPv4 text = false := by
  rw [isIPv4, List.splitOn_eq_singleton noDot]
  rfl

theorem countGroups_hex {groups : List Nat} (bounds : ∀ group ∈ groups, group < 2 ^ 16) :
    countGroups (groups.map (Nat.toDigits 16)) = some groups.length := by
  induction groups with
  | nil => rfl
  | cons group rest induction =>
      have isHex := isHexGroup_toDigits (bounds group List.mem_cons_self)
      cases rest with
      | nil =>
          have noDot : '.' ∉ Nat.toDigits 16 group := by
            intro member
            rw [← joined_singleton] at member
            exact (no_dot_in_joined member).1 rfl
          rw [List.map_cons, List.map_nil, countGroups, not_isIPv4 noDot, isHex]
          rfl
      | cons next rest =>
          have later := induction fun group member => bounds group (List.mem_cons_of_mem _ member)
          rw [List.map_cons] at later
          rw [List.map_cons, List.map_cons, countGroups, isHex, later]
          · rfl
          · exact List.cons_ne_nil _ _

variable {groups : List Nat}

theorem isIPv6Body_textOf (eight : groups.length = 8)
    (bounds : ∀ group ∈ groups, group < 2 ^ 16) : isIPv6Body (textOf groups) = true := by
  have within := longestZeros_within groups
  have count : ∀ part : List Nat, part ⊆ groups →
      countGroups (groupsOf (joined part)) = some part.length := by
    intro part inside
    rw [groupsOf_joined, countGroups_hex fun group member => bounds group (inside member)]
  rw [isIPv6Body, textOf]
  by_cases long : 2 ≤ (longestZeros groups).2
  · rw [if_pos long, splitCompressed_compressed]
    show ((groupsOf _).all isHexGroup && _) = true
    rw [count _ (List.drop_subset _ _), groupsOf_joined, Bool.and_eq_true, Option.any_some,
      decide_eq_true_eq, List.length_map, List.length_take, List.length_drop, List.all_eq_true]
    constructor
    · intro digits member
      rcases List.mem_map.mp member with ⟨group, inside, rfl⟩
      exact isHexGroup_toDigits (bounds group (List.take_subset _ _ inside))
    · omega
  · rw [if_neg long, splitCompressed_joined, count _ (List.Subset.refl _), eight]
    rfl

theorem mem_textOf {char : Char} (member : char ∈ textOf groups) : char ≠ '.' ∧ char ≠ '%' := by
  have inJoined : ∀ {part : List Nat}, char ∈ joined part → char ≠ '.' ∧ char ≠ '%' := by
    intro part inside
    have signs := no_dot_in_joined inside
    exact ⟨signs.1, signs.2.1⟩
  rw [textOf] at member
  split at member
  · rw [List.mem_append, List.mem_cons, List.mem_cons] at member
    rcases member with inside | rfl | rfl | inside
    · exact inJoined inside
    · decide
    · decide
    · exact inJoined inside
  · exact inJoined member

theorem isIP_textOf (eight : groups.length = 8) (bounds : ∀ group ∈ groups, group < 2 ^ 16) :
    isIP (String.ofList (textOf groups)) = 6 := by
  have noZone : ∀ char ∈ textOf groups, (char != '%') = true := by
    intro char member
    simpa using (mem_textOf member).2
  have noDot : '.' ∉ textOf groups := fun member => (mem_textOf member).1 rfl
  rw [isIP, String.toList_ofList, not_isIPv4 noDot, isIPv6, List.takeWhile_eq_self_iff.mpr noZone,
    isIPv6Body_textOf eight bounds, List.dropWhile_eq_nil_iff.mpr noZone]
  rfl

theorem length_groups (address : Ipv6Address) : address.groups.length = 8 := rfl

theorem group_lt (address : Ipv6Address) (index : Nat) : address.group index < 2 ^ 16 :=
  Nat.mod_lt _ (by decide)

theorem groups_lt (address : Ipv6Address) : ∀ group ∈ address.groups, group < 2 ^ 16 := by
  intro group member
  rcases List.mem_map.mp member with ⟨index, _, rfl⟩
  exact group_lt address index

theorem isIP_text (address : Ipv6Address) : isIP address.text = 6 :=
  isIP_textOf (length_groups address) (groups_lt address)

end Ipv6Address

end Orbital.PulseWebhooks

/-! ## Which IPv6 addresses are blocked

The tests of the text stand for networks. They miss by the digits a short group lacks, and by
the groups that `::` leaves out.
-/

namespace Orbital.PulseWebhooks

namespace Ipv6Address

def InNetwork (address network : Ipv6Address) (length : Nat) : Prop :=
  address.toNat / 2 ^ (128 - length) = network.toNat / 2 ^ (128 - length)

def embedded (address : Ipv6Address) : Ipv4Address :=
  address.setWidth 32

def Blocked (address : Ipv6Address) : Prop :=
  address = 0 ∨ address = 1 ∨
    address.InNetwork 0xfc000000000000000000000000000000 7 ∨
    address.InNetwork 0xfe800000000000000000000000000000 10 ∨
    ((address.InNetwork 0x0000ffff00000000 96 ∨ address.InNetwork 0 96) ∧
      isPrivateIpLiteral address.embedded.text = true)

/-- The first group is `fc`, `fd`, `fc0` to `fdf` or `fe8` to `feb`; or the address is `::2` to
`::ffff`, or one of `::ffff:0` to `::ffff:ffff`. -/
def Misread (address : Ipv6Address) : Prop :=
  address.group 0 / 2 = 0xfc / 2 ∨ address.group 0 / 32 = 0xfc0 / 32 ∨
    address.group 0 / 4 = 0xfe8 / 4 ∨
    (address.InNetwork 0 96 ∧
      ((address.group 6 = 0 ∧ 2 ≤ address.group 7) ∨ address.group 6 = 0xffff))

/-! ## Reading an embedded address -/

theorem parseHex_toDigits (group : Nat) : parseHex (Nat.toDigits 16 group) = some group := by
  have value : (Nat.toDigits 16 group).foldl (fun value digit => value * 16 + hexValue digit) 0 =
      group := by
    induction group using Nat.base_induction 16 (by decide) with
    | single digit small =>
        rw [Nat.toDigits_of_lt_base small, List.foldl_cons, (digit_spec digit small).2.2.2.2.2]
        simp
    | digit high low small positive induction =>
        rw [← Nat.toDigits_append_toDigits (by decide) positive small,
          Nat.toDigits_of_lt_base small, List.foldl_append, induction, List.foldl_cons,
          (digit_spec low small).2.2.2.2.2, List.foldl_nil, Nat.mul_comm]
  have allHex : ∀ char ∈ Nat.toDigits 16 group, isHexDigit char = true := by
    intro char member
    rcases mem_toDigits member with ⟨digit, small, rfl⟩
    exact (digit_spec digit small).1
  rw [parseHex, List.takeWhile_eq_self_iff.mpr allHex]
  split
  · rename_i never
    exact absurd never Nat.toDigits_ne_nil
  · rw [value]

theorem toDigits_injective {group other : Nat}
    (same : Nat.toDigits 16 group = Nat.toDigits 16 other) : group = other := by
  apply Option.some.inj
  rw [← parseHex_toDigits, ← parseHex_toDigits, same]

theorem isIP_joined (groups : List Nat) : isIP (String.ofList (joined groups)) ≠ 4 := by
  have noDot : '.' ∉ joined groups := fun member => (no_dot_in_joined member).1 rfl
  rw [isIP, String.toList_ofList, not_isIPv4 noDot]
  split
  · contradiction
  · split <;> decide

theorem split_joined (groups : List Nat) :
    ((joined groups).splitOn ':').filter (!·.isEmpty) = groups.map (Nat.toDigits 16) := by
  cases groups with
  | nil => rfl
  | cons group rest =>
      rw [splitOn_joined (List.cons_ne_nil _ _), List.filter_eq_self]
      intro digits member
      rcases List.mem_map.mp member with ⟨group, _, rfl⟩
      simp

theorem embeddedIpv4_pair (high low : Nat) :
    embeddedIpv4 (String.ofList (joined [high, low])) =
      some (String.ofList (dottedQuad high low)) := by
  rw [embeddedIpv4, if_neg (isIP_joined _), String.toList_ofList, split_joined]
  show (do return String.ofList (dottedQuad (← parseHex _) (← parseHex _))) = _
  rw [parseHex_toDigits, parseHex_toDigits]
  rfl

theorem embeddedIpv4_other {groups : List Nat} (other : groups.length ≠ 2) :
    embeddedIpv4 (String.ofList (joined groups)) = none := by
  rw [embeddedIpv4, if_neg (isIP_joined _), String.toList_ofList, split_joined]
  split
  · rename_i same
    have length := congrArg List.length same
    rw [List.length_map] at length
    exact absurd length other
  · rfl

/-! ## Behind `::` -/

theorem joined_of_marked {group : Nat} {rest : List Nat} {tail : List Char}
    (same : joined (group :: rest) = 'f' :: 'f' :: 'f' :: 'f' :: ':' :: tail) :
    group = 0xffff ∧ rest ≠ [] ∧ joined rest = tail := by
  have noColon : ':' ∉ ['f', 'f', 'f', 'f'] := by decide
  have parts := splitOn_joined (List.cons_ne_nil group rest)
  rw [same, show 'f' :: 'f' :: 'f' :: 'f' :: ':' :: tail = ['f', 'f', 'f', 'f'] ++ ':' :: tail
    from rfl, List.splitOn_append_cons_self_of_not_mem noColon, List.map_cons] at parts
  rcases List.cons.inj parts with ⟨first, others⟩
  have isMark : group = 0xffff :=
    toDigits_injective (first.symm.trans (by decide : _ = Nat.toDigits 16 0xffff))
  cases rest with
  | nil => exact absurd others (List.splitOn_ne_nil _ _)
  | cons next rest =>
      subst isMark
      rw [joined_cons] at same
      have digits : Nat.toDigits 16 0xffff = ['f', 'f', 'f', 'f'] := by decide
      rw [digits] at same
      exact ⟨rfl, List.cons_ne_nil _ _, by simpa using same⟩

theorem all_isTailChar {groups : List Nat} : (joined groups).all isTailChar = true := by
  rw [List.all_eq_true]
  exact fun char member => (no_dot_in_joined member).2.2

theorem mappedTail_marked (next : Nat) (rest : List Nat) :
    mappedTail (':' :: ':' :: joined (0xffff :: next :: rest)) =
      some (String.ofList (joined (next :: rest))) := by
  have digits : Nat.toDigits 16 0xffff = ['f', 'f', 'f', 'f'] := by decide
  rcases joined_head next rest with ⟨char, tail, isCons, _⟩
  rw [joined_cons, digits]
  show (if (joined (next :: rest)).isEmpty = true then _ else
    if (joined (next :: rest)).all isTailChar = true then _ else _) = _
  rw [all_isTailChar, if_pos rfl, if_neg]
  rw [isCons, List.isEmpty_cons]
  exact Bool.false_ne_true

theorem mappedTail_unmarked {group : Nat} {rest : List Nat}
    (unmarked : group ≠ 0xffff ∨ rest = []) :
    mappedTail (':' :: ':' :: joined (group :: rest)) =
      some (String.ofList (joined (group :: rest))) := by
  rcases joined_head group rest with ⟨char, tail, isCons, _⟩
  rw [mappedTail, all_isTailChar, Bool.and_true, if_pos]
  · rw [isCons, List.isEmpty_cons]
    rfl
  · intro tail marked
    have isMarked := joined_of_marked marked
    rcases unmarked with other | alone
    · exact other isMarked.1
    · exact isMarked.2.1 alone

theorem isPrivateIpv6_compressed (back : List Nat) :
    isPrivateIpv6 (':' :: ':' :: joined back) = true ↔ back = [] ∨ back = [1] := by
  have one : joined [1] = ['1'] := by decide
  unfold isPrivateIpv6
  split
  · rename_i same
    cases back with
    | nil => simp
    | cons group rest =>
        rcases joined_head group rest with ⟨char, tail, isCons, _⟩
        rw [isCons] at same
        cases same
  · rename_i same
    have isOne : joined back = joined [1] := by
      rw [(List.cons.inj (List.cons.inj same).2).2, one]
    have digits := split_joined back
    rw [isOne, split_joined] at digits
    have injective : Function.Injective (Nat.toDigits 16) := fun _ _ same => toDigits_injective same
    exact iff_of_true rfl (Or.inr (injective.list_map digits).symm)
  · rename_i same
    cases same
  · rename_i same
    cases same
  · rename_i same
    cases same
  · rename_i notEmpty notOne _ _ _
    constructor
    · intro never
      cases never
    · rintro (rfl | rfl)
      · exact absurd rfl notEmpty
      · rw [one] at notOne
        exact absurd rfl notOne

/-- What a text that starts with `::` is taken for. -/
theorem isPrivateIpLiteral_compressed {back : List Nat}
    (version : isIP (String.ofList (':' :: ':' :: joined back)) = 6) :
    isPrivateIpLiteral (String.ofList (':' :: ':' :: joined back)) = true ↔
      back = [] ∨ back = [1] ∨ ∃ high low,
        ((back = [high, low] ∧ high ≠ 0xffff) ∨ back = [0xffff, high, low]) ∧
          isPrivateIpLiteral (String.ofList (dottedQuad high low)) = true := by
  rw [isPrivateIpLiteral_of_six version, String.toList_ofList, Bool.or_eq_true,
    isPrivateIpv6_compressed, or_assoc]
  apply or_congr_right
  apply or_congr_right
  rcases back with - | ⟨first, - | ⟨second, - | ⟨third, - | ⟨fourth, rest⟩⟩⟩⟩
  · rw [show mappedTail (':' :: ':' :: joined []) = none by decide, Option.bind_none,
      Option.any_none]
    simp
  · rw [mappedTail_unmarked (Or.inr rfl), Option.bind_some, embeddedIpv4_other (by simp),
      Option.any_none]
    simp
  · by_cases mark : first = 0xffff
    · subst mark
      rw [mappedTail_marked, Option.bind_some, embeddedIpv4_other (by simp), Option.any_none]
      simp
    · rw [mappedTail_unmarked (Or.inl mark), Option.bind_some, embeddedIpv4_pair, Option.any_some]
      simp [mark]
  · by_cases mark : first = 0xffff
    · subst mark
      rw [mappedTail_marked, Option.bind_some, embeddedIpv4_pair, Option.any_some]
      simp
    · rw [mappedTail_unmarked (Or.inl mark), Option.bind_some, embeddedIpv4_other (by simp),
        Option.any_none]
      simp [mark]
  · by_cases mark : first = 0xffff
    · subst mark
      rw [mappedTail_marked, Option.bind_some, embeddedIpv4_other (by simp), Option.any_none]
      simp
    · rw [mappedTail_unmarked (Or.inl mark), Option.bind_some, embeddedIpv4_other (by simp),
        Option.any_none]
      simp

/-! ## The first group -/

def LooksLocal (group : Nat) : Prop :=
  (group / 2 = 126 ∨ group / 32 = 126 ∨ group / 512 = 126) ∨
    (group / 4 = 1018 ∨ group / 64 = 1018)

theorem isPrivateIpv6_of_digit {first second third : Char} (digit : first ≠ ':')
    (rest : List Char) :
    isPrivateIpv6 (first :: second :: third :: rest) = true ↔
      first = 'f' ∧ (second = 'c' ∨ second = 'd' ∨
        (second = 'e' ∧ (third = '8' ∨ third = '9' ∨ third = 'a' ∨ third = 'b'))) := by
  unfold isPrivateIpv6
  split
  · rename_i same
    exact absurd (List.cons.inj same).1 digit
  · rename_i same
    exact absurd (List.cons.inj same).1 digit
  · rename_i same
    cases same
    simp
  · rename_i same
    cases same
    simp
  · rename_i same
    cases same
    simp [or_assoc]
  · rename_i notC notD notE
    constructor
    · intro never
      cases never
    · rintro ⟨rfl, rfl | rfl | ⟨rfl, _⟩⟩
      · exact absurd rfl (notC _)
      · exact absurd rfl (notD _)
      · exact absurd rfl (notE _ _)

theorem isPrivateIpv6_digits {group : Nat} (bound : group < 2 ^ 16) (next : Char)
    (tail : List Char) :
    isPrivateIpv6 (Nat.toDigits 16 group ++ ':' :: next :: tail) = true ↔ LooksLocal group := by
  have step : ∀ number, 16 ≤ number → Nat.toDigits 16 number =
      Nat.toDigits 16 (number / 16) ++ [(number % 16).digitChar] :=
    fun number large => Nat.toDigits_of_base_le (by decide) large
  have single : ∀ number, number < 16 → Nat.toDigits 16 number = [number.digitChar] :=
    fun number small => Nat.toDigits_of_lt_base small
  have noColon : ∀ number, number < 16 → number.digitChar ≠ ':' :=
    fun number small => (digit_spec number small).2.2.1
  rw [LooksLocal]
  by_cases one : group < 16
  · rw [single group one]
    show isPrivateIpv6 (_ :: _ :: _ :: _) = true ↔ _
    rw [isPrivateIpv6_of_digit (noColon group one)]
    simp
    omega
  · by_cases two : group < 256
    · rw [step group (by omega), single (group / 16) (by omega)]
      show isPrivateIpv6 (_ :: _ :: _ :: _) = true ↔ _
      rw [isPrivateIpv6_of_digit (noColon (group / 16) (by omega))]
      simp
      omega
    · by_cases three : group < 4096
      · rw [step group (by omega), step (group / 16) (by omega),
          single (group / 16 / 16) (by omega)]
        show isPrivateIpv6 (_ :: _ :: _ :: _) = true ↔ _
        rw [isPrivateIpv6_of_digit (noColon (group / 16 / 16) (by omega))]
        simp
        omega
      · rw [step group (by omega), step (group / 16) (by omega),
          step (group / 16 / 16) (by omega), single (group / 16 / 16 / 16) (by omega)]
        show isPrivateIpv6 (_ :: _ :: _ :: _) = true ↔ _
        rw [isPrivateIpv6_of_digit (noColon (group / 16 / 16 / 16) (by omega))]
        simp
        omega

/-! ## The shapes of a text -/

theorem textOf_zeros (fifth high low : Nat) :
    textOf [0, 0, 0, 0, 0, fifth, high, low] =
      ':' :: ':' :: joined ([fifth, high, low].drop (zeros [fifth, high, low])) := by
  have run : longestZeros [0, 0, 0, 0, 0, fifth, high, low] =
      (0, zeros [fifth, high, low] + 5) := by
    rw [longestZeros_of_zeros]
    · rfl
    · show 8 ≤ 2 * (zeros [fifth, high, low] + 5)
      omega
  rw [textOf, run]
  show (if 2 ≤ zeros [fifth, high, low] + 5 then _ else _) = _
  rw [if_pos (by omega), Nat.zero_add]
  rfl

theorem textOf_others {first second : Nat} {rest : List Nat} (length : rest.length = 6)
    (few : zeros (first :: second :: rest) ≤ 4) :
    (first = 0 ∧ ∃ back, 4 ≤ back.length ∧
      textOf (first :: second :: rest) = ':' :: ':' :: joined back) ∨
    ∃ next tail, textOf (first :: second :: rest) =
      Nat.toDigits 16 first ++ ':' :: next :: tail := by
  have apart : ∀ (rest : List Nat) (tail : List Char), ∃ next back,
      joined (first :: second :: rest) ++ tail = Nat.toDigits 16 first ++ ':' :: next :: back := by
    intro rest tail
    rcases joined_head second rest with ⟨next, back, isCons, _⟩
    refine ⟨next, back ++ tail, ?_⟩
    rw [joined_cons, isCons, List.append_assoc, List.cons_append, List.cons_append]
  rw [textOf]
  by_cases long : 2 ≤ (longestZeros (first :: second :: rest)).2
  · rw [if_pos long]
    cases front : (longestZeros (first :: second :: rest)).1 with
    | zero =>
        have run := longestZeros_front front
        refine Or.inl ⟨?_, _, ?_, rfl⟩
        · by_contra nonzero
          rw [run, zeros_cons nonzero] at long
          omega
        · rw [List.length_drop, List.length_cons, List.length_cons]
          omega
    | succ before =>
        rw [List.take_succ_cons]
        cases before with
        | zero =>
            rw [List.take_zero, joined_singleton]
            exact Or.inr ⟨_, _, rfl⟩
        | succ before =>
            rw [List.take_succ_cons]
            exact Or.inr (apart _ _)
  · rw [if_neg long, ← List.append_nil (joined _)]
    exact Or.inr (apart rest [])

/-! ## Embedded addresses -/

theorem octet_spec : ∀ octet < 256, isOctet (Nat.toDigits 10 octet) = true := by
  decide +kernel

theorem octetValue_toDigits (octet : Nat) : octetValue (Nat.toDigits 10 octet) = octet := by
  have value : ∀ (digits : List Char) (start : Nat),
      digits.foldl (fun value digit => value * 10 + (digit.toNat - '0'.toNat)) start =
        Nat.ofDigitChars 10 digits start := by
    intro digits start
    rw [Nat.ofDigitChars_eq_foldl]
    congr 1
    funext sofar char
    rw [Nat.mul_comm]
  rw [octetValue, value, Nat.ofDigitChars_ten_toDigits]

theorem isPrivateIpLiteral_dottedQuad {high low : Nat} (bound : high < 2 ^ 16)
    (boundToo : low < 2 ^ 16) (inRange : high / 256 = 0 ∨ 224 ≤ high / 256) :
    isPrivateIpLiteral (String.ofList (dottedQuad high low)) = true := by
  have parts : (dottedQuad high low).splitOn '.' =
      [high / 256, high % 256, low / 256, low % 256].map (Nat.toDigits 10) := by
    apply List.splitOn_intercalate
    · intro digits member isDot
      rcases List.mem_map.mp member with ⟨octet, _, rfl⟩
      have digit := Nat.isDigit_of_mem_toDigits (by decide) (by decide) isDot
      revert digit
      decide
    · simp
  have isAddress : isIPv4 (dottedQuad high low) = true := by
    rw [isIPv4, parts]
    simp only [List.map_cons, List.map_nil, List.all_cons, List.all_nil]
    rw [octet_spec _ (by omega), octet_spec _ (by omega), octet_spec _ (by omega),
      octet_spec _ (by omega)]
    rfl
  rw [isPrivateIpLiteral, isIP, String.toList_ofList, if_pos isAddress]
  show isPrivateIpv4 _ = true
  rw [isPrivateIpv4, parts]
  simp only [List.map_cons, List.map_nil, octetValue_toDigits]
  rcases inRange with zero | large
  · simp [zero]
  · simp [large]

/-! ## The groups of a network -/

section Networks

variable (address : Ipv6Address)

theorem inNetwork_uniqueLocal :
    address.InNetwork 0xfc000000000000000000000000000000 7 ↔ address.group 0 / 512 = 126 := by
  have bound := address.isLt
  show address.toNat / 2 ^ 121 = 0xfc000000000000000000000000000000 / 2 ^ 121 ↔
    address.toNat / 2 ^ 112 % 2 ^ 16 / 512 = 126
  omega

theorem inNetwork_linkLocal :
    address.InNetwork 0xfe800000000000000000000000000000 10 ↔ address.group 0 / 64 = 1018 := by
  have bound := address.isLt
  show address.toNat / 2 ^ 118 = 0xfe800000000000000000000000000000 / 2 ^ 118 ↔
    address.toNat / 2 ^ 112 % 2 ^ 16 / 64 = 1018
  omega

def Five : Prop :=
  address.group 0 = 0 ∧ address.group 1 = 0 ∧ address.group 2 = 0 ∧ address.group 3 = 0 ∧
    address.group 4 = 0

theorem five_iff : address.Five ↔ address.toNat < 2 ^ 48 := by
  have bound := address.isLt
  show address.toNat / 2 ^ 112 % 2 ^ 16 = 0 ∧ address.toNat / 2 ^ 96 % 2 ^ 16 = 0 ∧
    address.toNat / 2 ^ 80 % 2 ^ 16 = 0 ∧ address.toNat / 2 ^ 64 % 2 ^ 16 = 0 ∧
    address.toNat / 2 ^ 48 % 2 ^ 16 = 0 ↔ _
  omega

theorem inNetwork_mapped :
    address.InNetwork 0x0000ffff00000000 96 ↔ address.Five ∧ address.group 5 = 0xffff := by
  rw [five_iff]
  show address.toNat / 2 ^ 32 = 0x0000ffff00000000 / 2 ^ 32 ↔
    _ ∧ address.toNat / 2 ^ 32 % 2 ^ 16 = 0xffff
  omega

theorem inNetwork_compatible : address.InNetwork 0 96 ↔ address.Five ∧ address.group 5 = 0 := by
  rw [five_iff]
  show address.toNat / 2 ^ 32 = 0 / 2 ^ 32 ↔ _ ∧ address.toNat / 2 ^ 32 % 2 ^ 16 = 0
  omega

theorem eq_of_groups (last : Nat) (small : last < 2 ^ 16) :
    address = BitVec.ofNat 128 last ↔
      address.InNetwork 0 96 ∧ address.group 6 = 0 ∧ address.group 7 = last := by
  rw [← BitVec.toNat_inj, BitVec.toNat_ofNat, Nat.mod_eq_of_lt (by omega)]
  show _ ↔ address.toNat / 2 ^ 32 = 0 / 2 ^ 32 ∧ address.toNat / 2 ^ 16 % 2 ^ 16 = 0 ∧
    address.toNat / 2 ^ 0 % 2 ^ 16 = last
  omega

theorem text_embedded :
    address.embedded.text =
      String.ofList (dottedQuad (address.group 6) (address.group 7)) := by
  have low : address.embedded.toNat = address.toNat % 2 ^ 32 := BitVec.toNat_setWidth _ _
  have octets : [24, 16, 8, 0].map (fun shift => address.embedded.toNat / 2 ^ shift % 2 ^ 8) =
      [address.group 6 / 256, address.group 6 % 256, address.group 7 / 256,
        address.group 7 % 256] := by
    simp only [List.map_cons, List.map_nil, low, group, List.cons.injEq, and_true]
    omega
  rw [Ipv4Address.text, dottedQuad, ← octets]
  rfl

end Networks

/-! ## The list -/

section List

variable {address : Ipv6Address}

theorem isPrivateIpLiteral_of_local {group : Nat} (bound : group < 2 ^ 16) (next : Char)
    (tail : List Char)
    (version : isIP (String.ofList (Nat.toDigits 16 group ++ ':' :: next :: tail)) = 6) :
    isPrivateIpLiteral (String.ofList (Nat.toDigits 16 group ++ ':' :: next :: tail)) = true ↔
      LooksLocal group := by
  have unmapped : mappedTail (Nat.toDigits 16 group ++ ':' :: next :: tail) = none := by
    rcases joined_head group [] with ⟨char, digits, same, noColon⟩
    rw [joined_singleton] at same
    rw [same, List.cons_append, mappedTail]
    · rintro rest never
      exact absurd (List.cons.inj never).1 noColon
    · rintro rest never
      exact absurd (List.cons.inj never).1 noColon
  rw [isPrivateIpLiteral_of_six version, String.toList_ofList, unmapped, Option.bind_none,
    Option.any_none, Bool.or_false, isPrivateIpv6_digits bound]

theorem zeros_succ {count group : Nat} {rest : List Nat}
    (many : count + 1 ≤ zeros (group :: rest)) : group = 0 ∧ count ≤ zeros rest := by
  by_cases zero : group = 0
  · subst zero
    rw [zeros_cons_zero] at many
    exact ⟨rfl, Nat.le_of_succ_le_succ many⟩
  · rw [zeros_cons zero] at many
    omega

theorem few_zeros (notFive : ¬ address.Five) : zeros address.groups ≤ 4 := by
  by_contra many
  apply notFive
  rcases zeros_succ (Nat.lt_of_not_le many) with ⟨first, rest⟩
  rcases zeros_succ rest with ⟨second, rest⟩
  rcases zeros_succ rest with ⟨third, rest⟩
  rcases zeros_succ rest with ⟨fourth, rest⟩
  rcases zeros_succ rest with ⟨fifth, _⟩
  exact ⟨first, second, third, fourth, fifth⟩

theorem blocked_of_five (five : address.Five) :
    address.Blocked ↔ (address.group 5 = 0xffff ∨ address.group 5 = 0) ∧
      isPrivateIpLiteral (String.ofList (dottedQuad (address.group 6) (address.group 7))) =
        true := by
  have low := isPrivateIpLiteral_dottedQuad (group_lt address 6) (group_lt address 7)
  rw [Blocked, show (0 : Ipv6Address) = BitVec.ofNat 128 0 from rfl,
    show (1 : Ipv6Address) = BitVec.ofNat 128 1 from rfl, eq_of_groups address 0 (by decide),
    eq_of_groups address 1 (by decide), inNetwork_uniqueLocal, inNetwork_linkLocal,
    show (BitVec.ofNat 128 0 : Ipv6Address) = 0 from rfl, inNetwork_mapped, inNetwork_compatible,
    text_embedded]
  have first := five.1
  constructor
  · rintro (⟨⟨_, fifth⟩, sixth, _⟩ | ⟨⟨_, fifth⟩, sixth, _⟩ | never | never | ⟨networks, blocked⟩)
    · exact ⟨Or.inr fifth, low (by omega)⟩
    · exact ⟨Or.inr fifth, low (by omega)⟩
    · omega
    · omega
    · exact ⟨networks.imp And.right And.right, blocked⟩
  · rintro ⟨fifth, blocked⟩
    exact Or.inr (Or.inr (Or.inr (Or.inr
      ⟨fifth.imp (fun mapped => ⟨five, mapped⟩) fun compatible => ⟨five, compatible⟩, blocked⟩)))

theorem blocked_of_not_five (notFive : ¬ address.Five) :
    address.Blocked ↔ address.group 0 / 512 = 126 ∨ address.group 0 / 64 = 1018 := by
  rw [Blocked, show (0 : Ipv6Address) = BitVec.ofNat 128 0 from rfl,
    show (1 : Ipv6Address) = BitVec.ofNat 128 1 from rfl, eq_of_groups address 0 (by decide),
    eq_of_groups address 1 (by decide), inNetwork_uniqueLocal, inNetwork_linkLocal,
    show (BitVec.ofNat 128 0 : Ipv6Address) = 0 from rfl, inNetwork_mapped, inNetwork_compatible]
  simp [notFive]

theorem isPrivateIpLiteral_zeros {fifth high low : Nat} (bound : high < 2 ^ 16)
    (boundToo : low < 2 ^ 16)
    (version : isIP (String.ofList (textOf [0, 0, 0, 0, 0, fifth, high, low])) = 6) :
    isPrivateIpLiteral (String.ofList (textOf [0, 0, 0, 0, 0, fifth, high, low])) = true ↔
      ((fifth = 0xffff ∨ fifth = 0) ∧
        isPrivateIpLiteral (String.ofList (dottedQuad high low)) = true) ∧
      ¬ (fifth = 0 ∧ ((high = 0 ∧ 2 ≤ low) ∨ high = 0xffff)) := by
  have inRange := isPrivateIpLiteral_dottedQuad bound boundToo
  rw [textOf_zeros] at version ⊢
  rw [isPrivateIpLiteral_compressed version]
  by_cases isZero : fifth = 0
  · subst isZero
    rw [zeros_cons_zero]
    by_cases noHigh : high = 0
    · subst noHigh
      rw [zeros_cons_zero]
      have blocked := inRange (Or.inl rfl)
      by_cases noLow : low = 0
      · subst noLow
        simp [zeros, blocked]
      · rw [zeros_cons noLow]
        simp [blocked]
        omega
    · rw [zeros_cons noHigh]
      by_cases mark : high = 0xffff
      · subst mark
        simp
      · simp [mark, noHigh]
  · rw [zeros_cons isZero]
    simp [isZero]

/-- The test of the text is exact but for the addresses that are misread. -/
theorem isPrivateIpLiteral_exact_iff (address : Ipv6Address) :
    (isPrivateIpLiteral address.text = true ↔ address.Blocked) ↔ ¬ address.Misread := by
  have version := isIP_text address
  have bound := group_lt address
  by_cases five : address.Five
  · have groups : address.groups =
        [0, 0, 0, 0, 0, address.group 5, address.group 6, address.group 7] := by
      rcases five with ⟨first, second, third, fourth, fifth⟩
      show [address.group 0, address.group 1, address.group 2, address.group 3,
        address.group 4, _, _, _] = _
      rw [first, second, third, fourth, fifth]
    have blocked := isPrivateIpLiteral_dottedQuad (bound 6) (bound 7)
    have notLocal : ¬ (address.group 0 / 2 = 0xfc / 2 ∨ address.group 0 / 32 = 0xfc0 / 32 ∨
        address.group 0 / 4 = 0xfe8 / 4) := by
      have first := five.1
      omega
    have regrouped : address.Misread ↔ (address.group 0 / 2 = 0xfc / 2 ∨
        address.group 0 / 32 = 0xfc0 / 32 ∨ address.group 0 / 4 = 0xfe8 / 4) ∨
        (address.InNetwork 0 96 ∧
          ((address.group 6 = 0 ∧ 2 ≤ address.group 7) ∨ address.group 6 = 0xffff)) := by
      rw [Misread, or_assoc, or_assoc]
    rw [text, groups] at version ⊢
    rw [isPrivateIpLiteral_zeros (bound 6) (bound 7) version, blocked_of_five five,
      and_iff_left_iff_imp, regrouped, not_or, and_iff_right notLocal, inNetwork_compatible]
    constructor
    · rintro apart ⟨⟨_, fifth⟩, misread⟩
      exact apart ⟨Or.inr fifth, blocked (by omega)⟩ ⟨fifth, misread⟩
    · rintro apart _ ⟨fifth, misread⟩
      exact apart ⟨⟨five, fifth⟩, misread⟩
  · have others := @textOf_others (address.group 0) (address.group 1) _ rfl
      (few_zeros five)
    have isLocal : isPrivateIpLiteral address.text = true ↔ LooksLocal (address.group 0) := by
      rcases others with ⟨first, back, long, same⟩ | ⟨next, tail, same⟩
      · have isText : address.text = String.ofList (':' :: ':' :: joined back) :=
          congrArg String.ofList same
        rw [isText] at version ⊢
        rw [isPrivateIpLiteral_compressed version, first]
        apply iff_of_false
        · rintro (rfl | rfl | ⟨high, low, ⟨rfl, _⟩ | rfl, _⟩)
          · simp at long
          · simp at long
          · simp at long
          · simp at long
        · rw [LooksLocal]
          omega
      · have isText : address.text = String.ofList
            (Nat.toDigits 16 (address.group 0) ++ ':' :: next :: tail) :=
          congrArg String.ofList same
        rw [isText] at version ⊢
        exact isPrivateIpLiteral_of_local (bound 0) next tail version
    have small := bound 0
    rw [isLocal, blocked_of_not_five five, LooksLocal, Misread, inNetwork_compatible,
      and_assoc, iff_false_intro five, false_and, or_false]
    omega

/-- `::2` holds `0.0.0.2`, and is let through. -/
theorem let_through :
    ¬ ∀ address : Ipv6Address, isPrivateIpLiteral address.text = true ↔ address.Blocked := by
  intro exact
  have passes : isPrivateIpLiteral (text 2) = false := by decide
  have inRange : isPrivateIpLiteral (embedded 2).text = true := by decide
  have blocked : Blocked 2 := Or.inr (Or.inr (Or.inr (Or.inr ⟨Or.inr rfl, inRange⟩)))
  rw [(exact 2).mpr blocked] at passes
  cases passes

end List

end Ipv6Address

end Orbital.PulseWebhooks
