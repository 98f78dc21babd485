import Mathlib.Data.List.Basic

/-! # `private-ip.ts`

What a server must not connect to. `isIP` follows the two regular expressions of
`node:net`; a host is its text, as `URL.hostname` or the resolver gives it.
-/

namespace Orbital.PulseWebhooks

/-! ## `isIP` -/

/-- `25[0-5]|2[0-4]\d|1\d\d|[1-9]\d|\d` -/
def isOctet (text : List Char) : Bool :=
  text.all Char.isDigit &&
    match text with
    | [_] => true
    | [first, _] => first != '0'
    | ['1', _, _] => true
    | ['2', '5', last] => last ≤ '5'
    | ['2', second, _] => second ≤ '4'
    | _ => false

def isIPv4 (text : List Char) : Bool :=
  (text.splitOn '.').length == 4 && (text.splitOn '.').all isOctet

def isHexDigit (char : Char) : Bool :=
  char.isDigit || ('a' ≤ char && char ≤ 'f') || ('A' ≤ char && char ≤ 'F')

/-- `[0-9a-fA-F]{1,4}` -/
def isHexGroup (text : List Char) : Bool :=
  1 ≤ text.length && text.length ≤ 4 && text.all isHexDigit

def countGroups : List (List Char) → Option Nat
  | [] => some 0
  | [last] => if isIPv4 last then some 2 else if isHexGroup last then some 1 else none
  | group :: rest => if isHexGroup group then (countGroups rest).map (· + 1) else none

def groupsOf (text : List Char) : List (List Char) :=
  if text.isEmpty then [] else text.splitOn ':'

/-- The parts in front of and behind the first `::`. -/
def splitCompressed : List Char → Option (List Char × List Char)
  | ':' :: ':' :: rest => some ([], rest)
  | char :: rest => (splitCompressed rest).map fun parts => (char :: parts.1, parts.2)
  | [] => none

/-- An IPv6 address without a zone. `::` stands for at least one group. -/
def isIPv6Body (text : List Char) : Bool :=
  match splitCompressed text with
  | none => countGroups (groupsOf text) == some 8
  | some (front, back) =>
      (groupsOf front).all isHexGroup &&
        (countGroups (groupsOf back)).any fun count => (groupsOf front).length + count ≤ 7

def isZoneChar (char : Char) : Bool :=
  char.isAlphanum || char == '-' || char == '.' || char == ':'

def isIPv6 (text : List Char) : Bool :=
  isIPv6Body (text.takeWhile (· != '%')) &&
    match text.dropWhile (· != '%') with
    | [] => true
    | _ :: zone => !zone.isEmpty && zone.all isZoneChar

def isIP (text : String) : Nat :=
  if isIPv4 text.toList then 4 else if isIPv6 text.toList then 6 else 0

/-! ## Private ranges -/

/-- `Number` of a text of digits. -/
def octetValue (digits : List Char) : Nat :=
  digits.foldl (fun value digit => value * 10 + (digit.toNat - '0'.toNat)) 0

def isPrivateIpv4 (hostname : List Char) : Bool :=
  match (hostname.splitOn '.').map octetValue with
  | a :: b :: _ =>
      a == 0 || a == 10 || a == 127 || (a == 169 && b == 254) ||
        (a == 172 && 16 ≤ b && b ≤ 31) || (a == 192 && b == 168) || (a == 192 && b == 0) ||
        (a == 100 && 64 ≤ b && b ≤ 127) || 224 ≤ a
  | _ => false

def hexValue (char : Char) : Nat :=
  if char.isDigit then char.toNat - '0'.toNat else char.toLower.toNat - 'a'.toNat + 10

/-- `Number.parseInt(text, 16)` of a text without signs and blanks; the digits it starts
with count. -/
def parseHex (text : List Char) : Option Nat :=
  match text.takeWhile isHexDigit with
  | [] => none
  | digits => some (digits.foldl (fun value digit => value * 16 + hexValue digit) 0)

/-- `[high >> 8, high & 0xff, low >> 8, low & 0xff].join(".")` -/
def dottedQuad (high low : Nat) : List Char :=
  List.intercalate ['.'] ([high / 256, high % 256, low / 256, low % 256].map (Nat.toDigits 10))

def embeddedIpv4 (tail : String) : Option String :=
  if isIP tail = 4 then some tail
  else
    match (tail.toList.splitOn ':').filter (!·.isEmpty) with
    | [high, low] => do return String.ofList (dottedQuad (← parseHex high) (← parseHex low))
    | _ => none

/-- `[0-9a-f.:]` -/
def isTailChar (char : Char) : Bool :=
  char.isDigit || ('a' ≤ char && char ≤ 'f') || char == '.' || char == ':'

/-- What `/^::(?:ffff:)?([0-9a-f.:]+)$/` captures. -/
def mappedTail (hostname : List Char) : Option String :=
  match hostname with
  | ':' :: ':' :: 'f' :: 'f' :: 'f' :: 'f' :: ':' :: tail =>
      if tail.isEmpty then some "ffff:"
      else if tail.all isTailChar then some (String.ofList tail) else none
  | ':' :: ':' :: tail =>
      if !tail.isEmpty && tail.all isTailChar then some (String.ofList tail) else none
  | _ => none

def isPrivateIpv6 (hostname : List Char) : Bool :=
  match hostname with
  | [':', ':'] => true
  | [':', ':', '1'] => true
  | 'f' :: 'c' :: _ | 'f' :: 'd' :: _ => true
  | 'f' :: 'e' :: third :: _ => third == '8' || third == '9' || third == 'a' || third == 'b'
  | _ => false

/-- The call for an embedded address is one for an IPv4 address, and is written out here. -/
def isPrivateIpLiteral (hostname : String) : Bool :=
  match isIP hostname with
  | 4 => isPrivateIpv4 hostname.toList
  | 6 => isPrivateIpv6 hostname.toList ||
      ((mappedTail hostname.toList).bind embeddedIpv4).any fun embedded =>
        isIP embedded == 4 && isPrivateIpv4 embedded.toList
  | _ => false

example : isPrivateIpLiteral "169.254.169.254" = true ∧
    isPrivateIpLiteral "::ffff:a00:1" = true ∧ isPrivateIpLiteral "93.184.216.34" = false ∧
    isPrivateIpLiteral "2606:2800:220:1::1" = false := by
  decide

/-! ### The embedded address -/

theorem splitCompressed_of_no_colon {text : List Char} (noColon : ':' ∉ text) :
    splitCompressed text = none := by
  induction text with
  | nil => rfl
  | cons char rest induction =>
      rw [List.mem_cons, not_or] at noColon
      rw [splitCompressed, induction noColon.2, Option.map_none]
      intro tail same
      exact absurd same.symm noColon.1

theorem countGroups_single (text : List Char) : countGroups [text] ≠ some 8 := by
  rw [countGroups]
  split
  · decide
  · split <;> decide

theorem isIPv6_of_no_colon {text : List Char} (noColon : ':' ∉ text) : isIPv6 text = false := by
  have body : isIPv6Body (text.takeWhile (· != '%')) = false := by
    have noColonInFront : ':' ∉ text.takeWhile (· != '%') :=
      fun member => noColon ((List.takeWhile_sublist _).subset member)
    rw [isIPv6Body, splitCompressed_of_no_colon noColonInFront]
    apply beq_false_of_ne
    rw [groupsOf]
    split
    · decide
    · rw [List.splitOn, List.splitOnP_eq_singleton]
      · exact countGroups_single _
      · intro char member
        apply beq_false_of_ne
        rintro rfl
        exact noColonInFront member
  rw [isIPv6, body, Bool.false_and]

theorem no_colon_in_dottedQuad (high low : Nat) : ':' ∉ dottedQuad high low := by
  intro member
  have digits : ∀ value, ':' ∉ Nat.toDigits 10 value := by
    intro value member
    have digit := Nat.isDigit_of_mem_toDigits (by decide) (by decide) member
    revert digit
    decide
  simp only [dottedQuad, List.intercalate, List.map_cons, List.map_nil, List.intersperse,
    List.flatten_cons, List.flatten_nil, List.mem_append, List.mem_singleton] at member
  simp [digits] at member

theorem isIP_embedded {tail embedded : String} (found : embeddedIpv4 tail = some embedded) :
    isIP embedded ≠ 6 := by
  rw [embeddedIpv4] at found
  split at found
  · rename_i version
    cases found
    rw [version]
    decide
  · split at found
    · rename_i high low _
      cases highIs : parseHex high with
      | none =>
          rw [highIs] at found
          cases found
      | some high =>
          cases lowIs : parseHex low with
          | none =>
              rw [highIs, lowIs] at found
              cases found
          | some low =>
              rw [highIs, lowIs] at found
              cases found
              rw [isIP, String.toList_ofList, isIPv6_of_no_colon (no_colon_in_dottedQuad high low)]
              split <;> decide
    · cases found

theorem isPrivateIpLiteral_of_ne_six {hostname : String} (version : isIP hostname ≠ 6) :
    isPrivateIpLiteral hostname = (isIP hostname == 4 && isPrivateIpv4 hostname.toList) := by
  rw [isPrivateIpLiteral]
  split
  · rename_i four
    rw [four]
    rfl
  · rename_i six
    exact absurd six version
  · rename_i notFour _
    rw [beq_false_of_ne notFour, Bool.false_and]

/-- The recursion of the source, which looks at an embedded address in the same way. -/
theorem isPrivateIpLiteral_of_six {hostname : String} (version : isIP hostname = 6) :
    isPrivateIpLiteral hostname = (isPrivateIpv6 hostname.toList ||
      ((mappedTail hostname.toList).bind embeddedIpv4).any isPrivateIpLiteral) := by
  rw [isPrivateIpLiteral, version]
  cases found : (mappedTail hostname.toList).bind embeddedIpv4 with
  | none => rfl
  | some embedded =>
      rcases Option.bind_eq_some_iff.mp found with ⟨tail, -, isEmbedded⟩
      rw [Option.any_some, Option.any_some, isPrivateIpLiteral_of_ne_six (isIP_embedded isEmbedded)]
      rfl

/-! ## Names -/

def isLoopbackHostname (hostname : String) : Bool :=
  hostname == "localhost" || ".localhost".toList.isSuffixOf hostname.toList

/-- `hostname.replace(/^\[/, "").replace(/\]$/, "").toLowerCase()`; the host of a URL is
ASCII. -/
def normalizeHostname (hostname : String) : String :=
  let opened := match hostname.toList with
    | '[' :: rest => rest
    | chars => chars
  let closed := if opened.getLast? = some ']' then opened.dropLast else opened
  String.ofList (closed.map Char.toLower)

def isIpLiteral (hostname : String) : Bool :=
  isIP hostname != 0

end Orbital.PulseWebhooks
