import VibuxOS.Lib.OnesComplement
import Mathlib.Algebra.GroupWithZero.Nat

namespace VibuxOS.Devices.NetChecksum

open VibuxOS.Lib.OnesComplement

/-!
# The Internet checksum

`checksum16` of `net_rtl8139.rs`, with the headers that `ping_ip` puts it into.  The
accumulator is a `u32`; a sum that does not fit into it is a fault.
-/

variable
  {sum : Nat}
  {data : List UInt8}

/-- A sum of 32 bits, where an overflow is a fault. -/
def add32 (left right : Nat) : Option Nat :=
  if left + right < 2 ^ 32 then some (left + right) else none

/-- `u16::from_be_bytes([high, low])` -/
def fromBeBytes (high low : UInt8) : Nat :=
  high.toNat * 256 + low.toNat

/-- The first loop, with the odd byte behind it. -/
def addWords : List UInt8 → Nat → Option Nat
  | [], sum => some sum
  | [last], sum => add32 sum (last.toNat <<< 8)
  | high :: low :: rest, sum => do
      let sum ← add32 sum (fromBeBytes high low)
      addWords rest sum

/-- What a turn of the second loop makes of the sum -/
def foldedOnce (sum : Nat) : Nat :=
  (sum &&& 0xFFFF) + (sum >>> 16)

theorem foldedOnce_eq (sum : Nat) :
    foldedOnce sum = fold (2 ^ 16) sum := by
  rw [foldedOnce, fold, Nat.shiftRight_eq_div_pow]
  exact congrArg (· + _) (Nat.and_two_pow_sub_one_eq_mod sum 16)

theorem foldedOnce_lt
    (carries : sum >>> 16 ≠ 0) :
    foldedOnce sum < sum := by
  rw [foldedOnce_eq]
  apply fold_lt (by decide)
  rw [Nat.shiftRight_eq_div_pow] at carries
  exact Nat.le_of_not_lt fun small => carries (Nat.div_eq_of_lt small)

/-- The second loop; its sum must fit, too. -/
def foldCarries (sum : Nat) : Option Nat :=
  if carries : sum >>> 16 ≠ 0 then
    if foldedOnce sum < 2 ^ 32 then
      foldCarries (foldedOnce sum)
    else
      none
  else
    some sum
termination_by sum
decreasing_by exact foldedOnce_lt carries

def checksum16 (data : List UInt8) : Option UInt16 := do
  let sum ← addWords data 0
  let folded ← foldCarries sum
  return ~~~ UInt16.ofNat folded

/-- `data[offset..offset + 2].copy_from_slice(&value.to_be_bytes())` -/
def storeField
    (data : List UInt8)
    (offset : Nat)
    (value : UInt16) :
    List UInt8 :=
  (data.set offset (value >>> 8).toUInt8).set (offset + 1) value.toUInt8

/-- The IPv4 header that `ping_ip` builds, without its checksum. -/
def ipHeader
    (sequence : UInt16)
    (ip target : Vector UInt8 4) :
    List UInt8 :=
  let start : List UInt8 :=
    [0x45, 0, 0, 28, (sequence >>> 8).toUInt8, sequence.toUInt8, 0x40, 0,
      64, 1, 0, 0]
  start ++ (ip.toList ++ target.toList)

/-- The echo request that `ping_ip` builds, without its checksum. -/
def icmpHeader (sequence : UInt16) : List UInt8 :=
  [8, 0, 0, 0, 0x42, 0x56, (sequence >>> 8).toUInt8, sequence.toUInt8]

/-! ## The sum of the words -/

/-- The big-endian words of a string, the last one filled up with a zero byte. -/
def words : List UInt8 → List Nat
  | [] => []
  | [last] => [fromBeBytes last 0]
  | high :: low :: rest => fromBeBytes high low :: words rest

theorem fromBeBytes_le (high low : UInt8) :
    fromBeBytes high low ≤ 65535 := by
  have highIsByte := high.toNat_lt
  have lowIsByte := low.toNat_lt
  unfold fromBeBytes
  omega

theorem sum_words_le (data : List UInt8) :
    (words data).sum ≤ 65535 * ((data.length + 1) / 2) := by
  induction data using words.induct with
  | case1 =>
      exact Nat.zero_le _
  | case2 last =>
      have word := fromBeBytes_le last 0
      simpa [words] using word
  | case3 high low rest inductionHypothesis =>
      have word := fromBeBytes_le high low
      rw [words, List.sum_cons, List.length_cons, List.length_cons]
      omega

theorem addWords_eq
    (data : List UInt8)
    (fits : sum + (words data).sum < 2 ^ 32) :
    addWords data sum = some (sum + (words data).sum) := by
  induction data using words.induct generalizing sum with
  | case1 =>
      rfl
  | case2 last =>
      have shifted : last.toNat <<< 8 = fromBeBytes last 0 := by
        simp [Nat.shiftLeft_eq, fromBeBytes]
      have whole : (words [last]).sum = fromBeBytes last 0 := by
        simp [words]
      rw [whole] at fits ⊢
      rw [addWords, shifted, add32, if_pos fits]
  | case3 high low rest inductionHypothesis =>
      rw [words, List.sum_cons, ← Nat.add_assoc] at fits ⊢
      have first : sum + fromBeBytes high low < 2 ^ 32 :=
        Nat.lt_of_le_of_lt (Nat.le_add_right _ _) fits
      rw [addWords, add32, if_pos first]
      exact inductionHypothesis fits

theorem foldCarries_spec
    (fits : sum < 2 ^ 32) :
    ∃ digit, foldCarries sum = some digit ∧ Digit (2 ^ 16) sum digit := by
  induction sum using foldCarries.induct with
  | case1 sum carries small inductionHypothesis =>
      obtain ⟨digit, folded, isDigit⟩ := inductionHypothesis small
      rw [foldedOnce_eq] at isDigit
      refine ⟨digit, ?_, isDigit.of_fold (by decide)⟩
      rw [foldCarries, dif_pos carries, if_pos small]
      exact folded
  | case2 sum carries large =>
      have less := foldedOnce_lt carries
      omega
  | case3 sum noCarries =>
      have isZero : sum >>> 16 = 0 := Decidable.not_not.mp noCarries
      rw [Nat.shiftRight_eq_div_pow] at isZero
      have small : sum < 2 ^ 16 := by omega
      refine ⟨sum, ?_, Digit.self small⟩
      rw [foldCarries, dif_neg noCarries]

/-! ## The field -/

theorem fromBeBytes_bytes (value : UInt16) :
    fromBeBytes (value >>> 8).toUInt8 value.toUInt8 = value.toNat := by
  have small := value.toNat_lt
  have high : ((value >>> 8).toUInt8).toNat = value.toNat / 256 := by
    rw [UInt16.toNat_toUInt8, UInt16.toNat_shiftRight]
    show value.toNat >>> 8 % 2 ^ 8 = _
    rw [Nat.shiftRight_eq_div_pow]
    omega
  rw [fromBeBytes, high, UInt16.toNat_toUInt8]
  omega

/-- A string with a zero field at an even offset. -/
structure ZeroField (data : List UInt8) (offset : Nat) : Prop where
  even : offset % 2 = 0
  high : data[offset]? = some 0
  low : data[offset + 1]? = some 0

theorem sum_words_storeField
    {offset : Nat}
    (field : ZeroField data offset)
    (value : UInt16) :
    (words (storeField data offset value)).sum =
      (words data).sum + value.toNat := by
  induction data using words.induct generalizing offset with
  | case1 =>
      cases field.high
  | case2 last =>
      cases field.low
  | case3 high low rest inductionHypothesis =>
      rcases offset with _ | _ | offset
      · have isHigh : high = 0 := Option.some.inj field.high
        have isLow : low = 0 := Option.some.inj field.low
        subst isHigh isLow
        have stored :
            storeField (0 :: 0 :: rest) 0 value =
              (value >>> 8).toUInt8 :: value.toUInt8 :: rest :=
          rfl
        rw [stored, words, words, List.sum_cons, List.sum_cons,
          fromBeBytes_bytes]
        exact (Nat.add_comm _ _).trans
          (congrArg (· + value.toNat) (Nat.zero_add _).symm)
      · cases field.even
      · have inRest : ZeroField rest offset := by
          refine ⟨?_, field.high, field.low⟩
          have isEven := field.even
          omega
        have stored :
            storeField (high :: low :: rest) (offset + 2) value =
              high :: low :: storeField rest offset value :=
          rfl
        rw [stored, words, words, List.sum_cons, List.sum_cons,
          inductionHypothesis inRest, Nat.add_assoc]

@[simp] theorem length_storeField
    (data : List UInt8)
    (offset : Nat)
    (value : UInt16) :
    (storeField data offset value).length = data.length := by
  rw [storeField, List.length_set, List.length_set]

/-! ## The checksum -/

/-- What `checksum16` returns: the complement of the digit of the sum. -/
structure Sums (data : List UInt8) (digit : Nat) : Prop where
  added : addWords data 0 = some (words data).sum
  folded : foldCarries (words data).sum = some digit
  isDigit : Digit (2 ^ 16) (words data).sum digit
  returned : checksum16 data = some (~~~ UInt16.ofNat digit)

theorem exists_sums
    (short : data.length ≤ 131070) :
    ∃ digit, Sums data digit := by
  have atMost := sum_words_le data
  have fits : 0 + (words data).sum < 2 ^ 32 := by omega
  have added := addWords_eq data fits
  rw [Nat.zero_add] at added fits
  obtain ⟨digit, folded, isDigit⟩ := foldCarries_spec fits
  refine ⟨digit, added, folded, isDigit, ?_⟩
  rw [checksum16, added]
  change (foldCarries (words data).sum >>= _) = _
  rw [folded]
  rfl

theorem toNat_complement
    {digit : Nat}
    (small : digit < 2 ^ 16) :
    (~~~ UInt16.ofNat digit).toNat = 2 ^ 16 - 1 - digit := by
  rw [UInt16.toNat_not, UInt16.toNat_ofNat_of_lt' small]
  rfl

theorem checksum16_storeField
    (short : data.length ≤ 131070)
    {offset : Nat}
    (field : ZeroField data offset) :
    ∃ sum,
      checksum16 data = some sum ∧
        checksum16 (storeField data offset sum) = some 0 := by
  obtain ⟨digit, sums⟩ := exists_sums short
  refine ⟨_, sums.returned, ?_⟩
  have storedShort :
      (storeField data offset (~~~ UInt16.ofNat digit)).length ≤ 131070 := by
    rwa [length_storeField]
  obtain ⟨other, stored⟩ := exists_sums storedShort
  have isOther := stored.isDigit
  rw [sum_words_storeField field, toNat_complement sums.isDigit.small]
    at isOther
  have isLargest := sums.isDigit.complete (by decide) isOther
  rw [stored.returned, isLargest]
  rfl

theorem ipHeader_verifies
    (sequence : UInt16)
    (ip target : Vector UInt8 4) :
    ∃ sum,
      checksum16 (ipHeader sequence ip target) = some sum ∧
        checksum16 (storeField (ipHeader sequence ip target) 10 sum) =
          some 0 := by
  refine checksum16_storeField ?_ ⟨rfl, rfl, rfl⟩
  simp [ipHeader]

theorem icmpHeader_verifies (sequence : UInt16) :
    ∃ sum,
      checksum16 (icmpHeader sequence) = some sum ∧
        checksum16 (storeField (icmpHeader sequence) 2 sum) = some 0 :=
  checksum16_storeField (by simp [icmpHeader]) ⟨rfl, rfl, rfl⟩

/--
The sum of at most 131070 bytes fits into the accumulator and folds to a number of 16
bits that is congruent to it, and a zero field completes the string to the checksum
zero.
-/
theorem checksum16_verifies
    {data : List UInt8}
    (short : data.length ≤ 131070) :
    (∃ digit,
        addWords data 0 = some (words data).sum ∧
          foldCarries (words data).sum = some digit ∧
          digit < 2 ^ 16 ∧
          digit % 65535 = (words data).sum % 65535) ∧
      ∀ offset,
        offset % 2 = 0 →
        data[offset]? = some 0 →
        data[offset + 1]? = some 0 →
        ∃ sum,
          checksum16 data = some sum ∧
            checksum16 (storeField data offset sum) = some 0 := by
  constructor
  · obtain ⟨digit, sums⟩ := exists_sums short
    exact
      ⟨digit, sums.added, sums.folded, sums.isDigit.small,
        sums.isDigit.congruent⟩
  · intro offset even high low
    exact checksum16_storeField short ⟨even, high, low⟩

/-- The law at the first echo request -/
theorem checksum16_verifies_request :
    ∃ sum,
      checksum16 (icmpHeader 1) = some sum ∧
        checksum16 (storeField (icmpHeader 1) 2 sum) = some 0 :=
  (checksum16_verifies (by decide)).2 2 rfl rfl rfl

end VibuxOS.Devices.NetChecksum
