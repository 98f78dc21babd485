import Orbital.Foundation.Limbs
import Orbital.Foundation.NumberText

/-! # Integers of 128 and 256 bits in `scval.ts` and `decode.ts`

An integer is cut into limbs of 64 bits, of which the highest carries the sign, and joined
again. Only the highest limb can be out of range.
-/

namespace Orbital.AbiRegistry.WideIntegers

open Foundation

/-- A constructor of limbs: a number in its range is kept, any other is rejected. -/
structure LimbType (low high : Int) where
  Limb : Type
  new : Int → Except JsString Limb
  /-- `BigInt(limb.toString())` -/
  toBigInt : Limb → Int
  keeps : ∀ value, low ≤ value → value < high →
    ∃ limb, new value = .ok limb ∧ toBigInt limb = value
  rejects : ∀ value, ¬ (low ≤ value ∧ value < high) → ∃ message, new value = .error message

/-- `xdr.Uint64` and `xdr.Int64` -/
structure Sdk where
  uint64 : LimbType 0 (2 ^ 64)
  int64 : LimbType (-2 ^ 63) (2 ^ 63)

inductive ScVal (sdk : Sdk)
  | scvU128 (hi lo : sdk.uint64.Limb)
  | scvI128 (hi : sdk.int64.Limb) (lo : sdk.uint64.Limb)
  | scvU256 (hiHi hiLo loHi loLo : sdk.uint64.Limb)
  | scvI256 (hiHi : sdk.int64.Limb) (hiLo loHi loLo : sdk.uint64.Limb)

/-- `val & 0xffffffffffffffffn` -/
def lowBits (val : Int) : Int :=
  val.land 0xffffffffffffffff

section Encoding

variable (sdk : Sdk) (val : Int)

def toU128 : Except JsString (ScVal sdk) := do
  if val < 0 then throw (js "Cannot represent negative value as u128")
  let hi ← sdk.uint64.new (val.shiftRight 64)
  let lo ← sdk.uint64.new (lowBits val)
  return .scvU128 hi lo

def toI128 : Except JsString (ScVal sdk) := do
  let hi ← sdk.int64.new (val.shiftRight 64)
  let lo ← sdk.uint64.new (lowBits val)
  return .scvI128 hi lo

def toU256 : Except JsString (ScVal sdk) := do
  if val < 0 then throw (js "Cannot represent negative value as u256")
  let hiHi ← sdk.uint64.new (val.shiftRight 192)
  let hiLo ← sdk.uint64.new (lowBits (val.shiftRight 128))
  let loHi ← sdk.uint64.new (lowBits (val.shiftRight 64))
  let loLo ← sdk.uint64.new (lowBits val)
  return .scvU256 hiHi hiLo loHi loLo

def toI256 : Except JsString (ScVal sdk) := do
  let hiHi ← sdk.int64.new (val.shiftRight 192)
  let hiLo ← sdk.uint64.new (lowBits (val.shiftRight 128))
  let loHi ← sdk.uint64.new (lowBits (val.shiftRight 64))
  let loLo ← sdk.uint64.new (lowBits val)
  return .scvI256 hiHi hiLo loHi loLo

end Encoding

inductive WideType
  | u128
  | i128
  | u256
  | i256

/-- `jsToScval` of a `bigint` for a wide type -/
def jsToScval (sdk : Sdk) (val : Int) : WideType → Except JsString (ScVal sdk)
  | .u128 => toU128 sdk val
  | .i128 => toI128 sdk val
  | .u256 => toU256 sdk val
  | .i256 => toI256 sdk val

/-- `value.toString()` -/
def bigintText (value : Int) : JsString :=
  (if value < 0 then [0x2D] else []) ++ Digits.text (Digits.ofNat value.natAbs)

def join128 (hi lo : Int) : Int :=
  (hi.shiftLeft 64).lor lo

def join256 (hiHi hiLo loHi loLo : Int) : Int :=
  (((hiHi.shiftLeft 192).lor (hiLo.shiftLeft 128)).lor (loHi.shiftLeft 64)).lor loLo

/-- The cases of `decodeXdrScVal` for the wide types. -/
def decodeXdrScVal {sdk : Sdk} : ScVal sdk → JsString
  | .scvU128 hi lo => bigintText (join128 (sdk.uint64.toBigInt hi) (sdk.uint64.toBigInt lo))
  | .scvI128 hi lo => bigintText (join128 (sdk.int64.toBigInt hi) (sdk.uint64.toBigInt lo))
  | .scvU256 hiHi hiLo loHi loLo =>
      bigintText (join256 (sdk.uint64.toBigInt hiHi) (sdk.uint64.toBigInt hiLo)
        (sdk.uint64.toBigInt loHi) (sdk.uint64.toBigInt loLo))
  | .scvI256 hiHi hiLo loHi loLo =>
      bigintText (join256 (sdk.int64.toBigInt hiHi) (sdk.uint64.toBigInt hiLo)
        (sdk.uint64.toBigInt loHi) (sdk.uint64.toBigInt loLo))

def InRange (value : Int) : WideType → Prop
  | .u128 => 0 ≤ value ∧ value < 2 ^ 128
  | .i128 => -2 ^ 127 ≤ value ∧ value < 2 ^ 127
  | .u256 => 0 ≤ value ∧ value < 2 ^ 256
  | .i256 => -2 ^ 255 ≤ value ∧ value < 2 ^ 255

/-! ## Limbs -/

theorem lowBits_eq (value : Int) : lowBits value = value % 2 ^ 64 :=
  land_mask value 64

theorem shiftRight_eq (value : Int) (count : Nat) : value.shiftRight count = value / 2 ^ count := by
  have power := Int.shiftRight_eq_div_pow value count
  rw [Nat.cast_pow] at power
  exact power

theorem shiftLeft_eq (value : Int) (count : Nat) : value.shiftLeft count = value * 2 ^ count := by
  have power := Int.shiftLeft_eq value count
  exact power

theorem new_lowBits (uint64 : LimbType 0 (2 ^ 64)) (value : Int) :
    ∃ limb, uint64.new (lowBits value) = .ok limb ∧ uint64.toBigInt limb = value % 2 ^ 64 := by
  rw [lowBits_eq]
  exact uint64.keeps _ (by omega) (by omega)

theorem join128_split (value : Int) : join128 (value.shiftRight 64) (value % 2 ^ 64) = value := by
  rw [join128, shiftLeft_eq, lor_shift _ (by omega) (by omega), shiftRight_eq]
  omega

theorem join256_split (value : Int) :
    join256 (value.shiftRight 192) (value.shiftRight 128 % 2 ^ 64) (value.shiftRight 64 % 2 ^ 64)
      (value % 2 ^ 64) = value := by
  simp only [join256, shiftLeft_eq, shiftRight_eq]
  rw [lor_shift _ (by omega) (by omega)]
  have upper : value / 2 ^ 192 * 2 ^ 192 + value / 2 ^ 128 % 2 ^ 64 * 2 ^ 128 =
      value / 2 ^ 128 * 2 ^ 128 := by omega
  rw [upper, lor_shift _ (by omega) (by omega)]
  have middle : value / 2 ^ 128 * 2 ^ 128 + value / 2 ^ 64 % 2 ^ 64 * 2 ^ 64 =
      value / 2 ^ 64 * 2 ^ 64 := by omega
  rw [middle, lor_shift _ (by omega) (by omega)]
  omega

section RoundTrip

variable (sdk : Sdk) (value : Int)

theorem joined128 {low high : Int} (top : LimbType low high)
    (wrap : top.Limb → sdk.uint64.Limb → ScVal sdk)
    (decodes : ∀ hi lo, decodeXdrScVal (wrap hi lo) =
      bigintText (join128 (top.toBigInt hi) (sdk.uint64.toBigInt lo))) :
    let encoded := do
      let hi ← top.new (value.shiftRight 64)
      let lo ← sdk.uint64.new (lowBits value)
      return wrap hi lo
    if low ≤ value.shiftRight 64 ∧ value.shiftRight 64 < high then
      ∃ scval, encoded = .ok scval ∧ decodeXdrScVal scval = bigintText value
    else ∃ message, encoded = .error message := by
  split
  · rename_i fits
    rcases top.keeps _ fits.1 fits.2 with ⟨hi, isHi, keepsHi⟩
    rcases new_lowBits sdk.uint64 value with ⟨lo, isLo, keepsLo⟩
    refine ⟨wrap hi lo, by rw [isHi, isLo]; rfl, ?_⟩
    rw [decodes, keepsHi, keepsLo, join128_split]
  · rename_i outside
    rcases top.rejects _ outside with ⟨message, rejected⟩
    exact ⟨message, by rw [rejected]; rfl⟩

theorem joined256 {low high : Int} (top : LimbType low high)
    (wrap : top.Limb → sdk.uint64.Limb → sdk.uint64.Limb → sdk.uint64.Limb → ScVal sdk)
    (decodes : ∀ hiHi hiLo loHi loLo, decodeXdrScVal (wrap hiHi hiLo loHi loLo) =
      bigintText (join256 (top.toBigInt hiHi) (sdk.uint64.toBigInt hiLo)
        (sdk.uint64.toBigInt loHi) (sdk.uint64.toBigInt loLo))) :
    let encoded := do
      let hiHi ← top.new (value.shiftRight 192)
      let hiLo ← sdk.uint64.new (lowBits (value.shiftRight 128))
      let loHi ← sdk.uint64.new (lowBits (value.shiftRight 64))
      let loLo ← sdk.uint64.new (lowBits value)
      return wrap hiHi hiLo loHi loLo
    if low ≤ value.shiftRight 192 ∧ value.shiftRight 192 < high then
      ∃ scval, encoded = .ok scval ∧ decodeXdrScVal scval = bigintText value
    else ∃ message, encoded = .error message := by
  split
  · rename_i fits
    rcases top.keeps _ fits.1 fits.2 with ⟨hiHi, isHiHi, keepsHiHi⟩
    rcases new_lowBits sdk.uint64 (value.shiftRight 128) with ⟨hiLo, isHiLo, keepsHiLo⟩
    rcases new_lowBits sdk.uint64 (value.shiftRight 64) with ⟨loHi, isLoHi, keepsLoHi⟩
    rcases new_lowBits sdk.uint64 value with ⟨loLo, isLoLo, keepsLoLo⟩
    refine ⟨wrap hiHi hiLo loHi loLo, by rw [isHiHi, isHiLo, isLoHi, isLoLo]; rfl, ?_⟩
    rw [decodes, keepsHiHi, keepsHiLo, keepsLoHi, keepsLoLo, join256_split]
  · rename_i outside
    rcases top.rejects _ outside with ⟨message, rejected⟩
    exact ⟨message, by rw [rejected]; rfl⟩

open Classical in
/-- An integer of the type comes back, and any other is rejected. -/
theorem decodeXdrScVal_jsToScval (type : WideType) :
    if InRange value type then
      ∃ scval, jsToScval sdk value type = .ok scval ∧ decodeXdrScVal scval = bigintText value
    else ∃ message, jsToScval sdk value type = .error message := by
  cases type with
  | u128 =>
      have joined := joined128 sdk value sdk.uint64 .scvU128 fun _ _ => rfl
      by_cases negative : value < 0
      · rw [if_neg fun range => not_lt.mpr range.1 negative]
        exact ⟨_, if_pos negative⟩
      · simp only [jsToScval, toU128, if_neg negative]
        convert joined using 1
        rw [InRange, shiftRight_eq]
        omega
  | i128 =>
      have joined := joined128 sdk value sdk.int64 .scvI128 fun _ _ => rfl
      simp only [jsToScval, toI128]
      convert joined using 1
      rw [InRange, shiftRight_eq]
      omega
  | u256 =>
      have joined := joined256 sdk value sdk.uint64 .scvU256 fun _ _ _ _ => rfl
      by_cases negative : value < 0
      · rw [if_neg fun range => not_lt.mpr range.1 negative]
        exact ⟨_, if_pos negative⟩
      · simp only [jsToScval, toU256, if_neg negative]
        convert joined using 1
        rw [InRange, shiftRight_eq]
        omega
  | i256 =>
      have joined := joined256 sdk value sdk.int64 .scvI256 fun _ _ _ _ => rfl
      simp only [jsToScval, toI256]
      convert joined using 1
      rw [InRange, shiftRight_eq]
      omega

def plainLimbs (low high : Int) : LimbType low high where
  Limb := { value : Int // low ≤ value ∧ value < high }
  new value :=
    if fits : low ≤ value ∧ value < high then .ok ⟨value, fits⟩ else .error (js "out of range")
  toBigInt := Subtype.val
  keeps _ atLeast below := ⟨⟨_, atLeast, below⟩, dif_pos ⟨atLeast, below⟩, rfl⟩
  rejects _ outside := ⟨_, dif_neg outside⟩

theorem minus_one_comes_back :
    ∃ scval, jsToScval ⟨plainLimbs _ _, plainLimbs _ _⟩ (-1) .i128 = .ok scval ∧
      decodeXdrScVal scval = js "-1" := by
  have joined := decodeXdrScVal_jsToScval ⟨plainLimbs _ _, plainLimbs _ _⟩ (-1) .i128
  rw [if_pos (by simp [InRange])] at joined
  exact joined

end RoundTrip

end Orbital.AbiRegistry.WideIntegers
