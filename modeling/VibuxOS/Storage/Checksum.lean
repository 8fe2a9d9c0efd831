import VibuxOS.Lib.ReflectedCrc

namespace VibuxOS.Storage.Checksum

open VibuxOS.Lib

/-!
# The checksum of a disk block

`make_crc32c_table` and `crc32c` of `storage/checksum.rs`, and the bit-by-bit check
that they compute.
-/

/-- One turn of the inner loop of `make_crc32c_table` -/
def tableStep (crc : UInt32) : UInt32 :=
  let mask := 0 - (crc &&& 1)
  (crc >>> 1) ^^^ (0x82F63B78 &&& mask)

/-- The inner loop, `count` turns of it. -/
def tableSteps : Nat → UInt32 → UInt32
  | 0, crc => crc
  | count + 1, crc => tableSteps count (tableStep crc)

def makeCrc32cTable : Vector UInt32 256 :=
  Vector.ofFn fun n => tableSteps 8 (UInt32.ofNat n)

def crc32cTable : Vector UInt32 256 := makeCrc32cTable

theorem toNat_and_low (crc : UInt32) : (crc &&& 0xFF).toNat < 256 := by
  have masked := @Nat.and_le_right crc.toNat 255
  rw [UInt32.toNat_and]
  exact Nat.lt_succ_of_le masked

/-- Where a byte is looked up. -/
def tableIndex (crc : UInt32) (byte : UInt8) : Fin 256 :=
  ⟨((crc ^^^ byte.toUInt32) &&& 0xFF).toNat, toNat_and_low _⟩

/-- One turn of the loop of `crc32c` -/
def update (crc : UInt32) (byte : UInt8) : UInt32 :=
  (crc >>> 8) ^^^ crc32cTable[tableIndex crc byte]

def crc32c (data : List UInt8) : UInt32 :=
  ~~~ data.foldl update 0xFFFFFFFF

/-! ## The check bit by bit -/

/-- The polynomial, lowest power highest. -/
def polynomial : BitVec 32 := 0x82F63B78#32

/-- The bits of a byte, the lowest one first. -/
def byteBits (byte : UInt8) : List Bool :=
  (List.range 8).map byte.toBitVec.getLsbD

/-- The bits of a message, byte by byte. -/
def messageBits (data : List UInt8) : List Bool :=
  data.flatMap byteBits

/-- The state of the bitwise check after a message. -/
def bitwiseState (state : BitVec 32) (data : List UInt8) : BitVec 32 :=
  (messageBits data).foldl (ReflectedCrc.feed polynomial) state

/-- The bitwise check, with all ones at both ends. -/
def bitwiseCrc (data : List UInt8) : BitVec 32 :=
  ~~~ bitwiseState (BitVec.allOnes 32) data

/-! ## The table -/

theorem and_one_eq (crc : UInt32) :
    crc &&& 1 = if crc.toBitVec.getLsbD 0 then 1 else 0 := by
  apply UInt32.toBitVec_inj.mp
  have lowest :
      (crc &&& 1).toBitVec =
        (BitVec.ofBool (crc.toBitVec.getLsbD 0)).setWidth 32 :=
    BitVec.and_one_eq_setWidth_ofBool_getLsbD
  rw [lowest]
  cases crc.toBitVec.getLsbD 0 with
  | false =>
      rfl
  | true =>
      rfl

theorem toBitVec_tableStep (crc : UInt32) :
    (tableStep crc).toBitVec = ReflectedCrc.shift polynomial crc.toBitVec := by
  unfold tableStep ReflectedCrc.shift
  rw [and_one_eq]
  cases crc.toBitVec.getLsbD 0 with
  | false =>
      show (crc.toBitVec >>> 1) ^^^ 0#32 = crc.toBitVec >>> 1
      exact BitVec.xor_zero
  | true =>
      rfl

theorem toBitVec_tableSteps (count : Nat) (crc : UInt32) :
    (tableSteps count crc).toBitVec =
      ReflectedCrc.shifts polynomial count crc.toBitVec := by
  induction count generalizing crc with
  | zero =>
      rfl
  | succ count inductionHypothesis =>
      rw [tableSteps, inductionHypothesis, toBitVec_tableStep]
      rfl

theorem getElem_crc32cTable (crc : UInt32) (byte : UInt8) :
    crc32cTable[tableIndex crc byte] =
      tableSteps 8 ((crc ^^^ byte.toUInt32) &&& 0xFF) := by
  have entry :
      crc32cTable[tableIndex crc byte] =
        tableSteps 8 (UInt32.ofNat (tableIndex crc byte)) :=
    Vector.getElem_ofFn _
  rw [entry, tableIndex, UInt32.ofNat_toNat]

/-! ## A byte -/

theorem ofBits_byteBits (byte : UInt8) :
    (ReflectedCrc.ofBits (byteBits byte) : BitVec 32) =
      byte.toUInt32.toBitVec := by
  apply BitVec.eq_of_getLsbD_eq
  intro index inWord
  rw [ReflectedCrc.getLsbD_ofBits _ inWord, UInt8.toBitVec_toUInt32,
    BitVec.getLsbD_setWidth, List.getD_eq_getElem?_getD, byteBits,
    List.getElem?_map]
  by_cases inByte : index < 8
  · rw [List.getElem?_range inByte]
    simp [inWord]
  · rw [List.getElem?_eq_none (by simpa using inByte),
      BitVec.getLsbD_of_ge _ _ (Nat.le_of_not_lt inByte)]
    simp

theorem toBitVec_update (crc : UInt32) (byte : UInt8) :
    (update crc byte).toBitVec =
      (byteBits byte).foldl (ReflectedCrc.feed polynomial) crc.toBitVec := by
  have inWord : (byteBits byte).length ≤ 32 := by
    simp [byteBits]
  have isByte : (byteBits byte).length = 8 := by
    simp [byteBits]
  have gone : byte.toUInt32.toBitVec >>> 8 = 0#32 := by
    apply BitVec.eq_of_getLsbD_eq
    intro index _
    rw [BitVec.getLsbD_ushiftRight, UInt8.toBitVec_toUInt32,
      BitVec.getLsbD_setWidth,
      BitVec.getLsbD_of_ge _ _ (Nat.le_add_right _ _)]
    simp
  rw [ReflectedCrc.foldl_feed polynomial inWord, isByte, ofBits_byteBits,
    ReflectedCrc.shifts_eq_lookup, BitVec.ushiftRight_xor_distrib, gone,
    BitVec.xor_zero, update, getElem_crc32cTable, UInt32.toBitVec_xor,
    toBitVec_tableSteps]
  rfl

/-! ## A message -/

theorem toBitVec_foldl_update (crc : UInt32) (data : List UInt8) :
    (data.foldl update crc).toBitVec = bitwiseState crc.toBitVec data := by
  induction data generalizing crc with
  | nil =>
      rfl
  | cons byte rest inductionHypothesis =>
      rw [List.foldl_cons, inductionHypothesis, toBitVec_update, bitwiseState,
        bitwiseState, messageBits, messageBits, List.flatMap_cons,
        List.foldl_append]

/--
`crc32c` is the bitwise check, and the state after two parts is the state after the
second one, started from the state after the first one.
-/
theorem crc32c_eq_bitwiseCrc (data : List UInt8) :
    (crc32c data).toBitVec = bitwiseCrc data ∧
      ∀ (first second : List UInt8) (crc : UInt32),
        (first ++ second).foldl update crc =
          second.foldl update (first.foldl update crc) := by
  constructor
  · rw [crc32c, UInt32.toBitVec_not, toBitVec_foldl_update]
    rfl
  · intro first second crc
    exact List.foldl_append

end VibuxOS.Storage.Checksum
