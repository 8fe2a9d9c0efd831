import Mathlib.Algebra.Group.Nat.Defs
import VibuxOS.Lib.Buffer

namespace VibuxOS.Lib

/-!
# Records of little-endian fields

A record is a byte buffer into which fields are written one after the other: an
offset, a width in bytes and a value.  When no two fields overlap, reading one
back returns its value, in whichever order the fields were written.
-/

/-- The byte of a number at an index, the lowest byte first. -/
def leByte (value : UInt64) (index : Nat) : UInt8 :=
  UInt8.ofNat (value.toNat / 256 ^ index)

/-- The number that the first bytes of a buffer spell. -/
def leValue (bytes : Nat → UInt8) : Nat → Nat
  | 0 => 0
  | width + 1 => leValue bytes width + (bytes width).toNat * 256 ^ width

/-- `u64::from_le_bytes` of the eight bytes at an offset -/
def getU64 (bytes : Nat → UInt8) (offset : Nat) : UInt64 :=
  UInt64.ofNat (leValue (fun index => bytes (offset + index)) 8)

/-- A field of a record. -/
structure Field where
  offset : Nat
  width : Nat
  value : UInt64

namespace Field

/-- Write a field into a buffer. -/
def put (bytes : Nat → UInt8) (field : Field) : Nat → UInt8 :=
  blit bytes field.offset (leByte field.value) field.width

/-- Two fields that share no byte. -/
def Apart (first second : Field) : Prop :=
  first.offset + first.width ≤ second.offset ∨
    second.offset + second.width ≤ first.offset

instance (first second : Field) : Decidable (Apart first second) :=
  inferInstanceAs (Decidable (_ ∨ _))

end Field

/-- Write the fields of a record in order. -/
def record
    (bytes : Nat → UInt8)
    (fields : List Field) :
    Nat → UInt8 :=
  fields.foldl Field.put bytes

theorem leValue_leByte
    (value : UInt64)
    (width : Nat) :
    leValue (leByte value) width = value.toNat % 256 ^ width := by
  induction width with
  | zero =>
      rw [leValue, Nat.pow_zero, Nat.mod_one]
  | succ width inductionHypothesis =>
      have digit :
          (leByte value width).toNat = value.toNat / 256 ^ width % 256 :=
        UInt8.toNat_ofNat'
      rw [leValue, inductionHypothesis, digit, Nat.pow_succ,
        Nat.mod_mul, Nat.mul_comm (256 ^ width)]

theorem leValue_congr
    {left right : Nat → UInt8}
    {width : Nat}
    (same : ∀ index < width, left index = right index) :
    leValue left width = leValue right width := by
  induction width with
  | zero =>
      rfl
  | succ width inductionHypothesis =>
      rw [leValue, leValue,
        inductionHypothesis fun index below =>
          same index (Nat.lt_succ_of_lt below),
        same width (Nat.lt_succ_self width)]

theorem getU64_congr
    {left right : Nat → UInt8}
    {offset : Nat}
    (same :
      ∀ index < 8, left (offset + index) = right (offset + index)) :
    getU64 left offset = getU64 right offset := by
  unfold getU64
  rw [leValue_congr same]

theorem getU64_of_leByte
    {bytes : Nat → UInt8}
    {offset : Nat}
    {value : UInt64}
    (spelled :
      ∀ index < 8, bytes (offset + index) = leByte value index) :
    getU64 bytes offset = value := by
  have bound : value.toNat < 256 ^ 8 := value.toNat_lt
  unfold getU64
  rw [leValue_congr spelled, leValue_leByte, Nat.mod_eq_of_lt bound,
    UInt64.ofNat_toNat]

theorem leValue_lt
    (bytes : Nat → UInt8)
    (width : Nat) :
    leValue bytes width < 256 ^ width := by
  induction width with
  | zero =>
      exact Nat.one_pos
  | succ width inductionHypothesis =>
      have digit := (bytes width).toNat_lt
      have room :
          (bytes width).toNat * 256 ^ width ≤ 255 * 256 ^ width :=
        Nat.mul_le_mul_right _ (by omega)
      rw [leValue, Nat.pow_succ]
      omega

theorem leValue_div_mod
    (bytes : Nat → UInt8)
    {width index : Nat}
    (inside : index < width) :
    leValue bytes width / 256 ^ index % 256 = (bytes index).toNat := by
  induction width with
  | zero =>
      cases inside
  | succ width inductionHypothesis =>
      rw [leValue]
      rcases Nat.lt_succ_iff_lt_or_eq.mp inside with below | rfl
      · have power : 256 ^ width = 256 ^ index * (256 * 256 ^ (width - index - 1)) := by
          rw [← Nat.pow_succ', ← Nat.pow_add]
          congr 1
          omega
        rw [power, Nat.mul_left_comm, Nat.add_mul_div_left _ _ (Nat.pow_pos (by decide)),
          Nat.mul_left_comm, Nat.add_mul_mod_self_left]
        exact inductionHypothesis below
      · have digit := (bytes index).toNat_lt
        rw [Nat.add_mul_div_right _ _ (Nat.pow_pos (by decide)),
          Nat.div_eq_of_lt (leValue_lt bytes index), Nat.zero_add,
          Nat.mod_eq_of_lt digit]

theorem leByte_getU64
    (bytes : Nat → UInt8)
    (offset : Nat)
    {index : Nat}
    (inside : index < 8) :
    leByte (getU64 bytes offset) index = bytes (offset + index) := by
  have below : leValue (fun index => bytes (offset + index)) 8 < 2 ^ 64 :=
    leValue_lt _ 8
  have digit :=
    leValue_div_mod (fun index => bytes (offset + index)) inside
  unfold leByte getU64
  rw [UInt64.toNat_ofNat_of_lt' below]
  apply UInt8.toNat_inj.mp
  rw [UInt8.toNat_ofNat']
  exact digit

theorem record_of_apart
    {bytes : Nat → UInt8}
    {fields : List Field}
    {field : Field}
    (apart : ∀ other ∈ fields, field.Apart other)
    {index : Nat}
    (inside : index < field.width) :
    record bytes fields (field.offset + index) =
      bytes (field.offset + index) := by
  induction fields generalizing bytes with
  | nil =>
      rfl
  | cons first rest inductionHypothesis =>
      have disjoint := apart first List.mem_cons_self
      unfold record at inductionHypothesis ⊢
      rw [List.foldl_cons,
        inductionHypothesis fun other among =>
          apart other (List.mem_cons_of_mem first among)]
      unfold Field.put
      unfold Field.Apart at disjoint
      exact blit_outside (by omega)

theorem record_of_mem
    {bytes : Nat → UInt8}
    {fields : List Field}
    (disjoint : fields.Pairwise Field.Apart)
    {field : Field}
    (among : field ∈ fields)
    {index : Nat}
    (inside : index < field.width) :
    record bytes fields (field.offset + index) =
      leByte field.value index := by
  induction fields generalizing bytes with
  | nil =>
      cases among
  | cons first rest inductionHypothesis =>
      rw [List.pairwise_cons] at disjoint
      rcases List.mem_cons.mp among with rfl | later
      · have kept :=
          @record_of_apart (field.put bytes) rest field disjoint.1 index inside
        unfold record at kept ⊢
        rw [List.foldl_cons, kept]
        unfold Field.put
        rw [blit_inside (Nat.le_add_right _ _) (by omega),
          Nat.add_sub_cancel_left]
      · exact inductionHypothesis disjoint.2 later

theorem getU64_record
    {bytes : Nat → UInt8}
    {fields : List Field}
    (disjoint : fields.Pairwise Field.Apart)
    {offset : Nat}
    {value : UInt64}
    (among : (⟨offset, 8, value⟩ : Field) ∈ fields) :
    getU64 (record bytes fields) offset = value :=
  getU64_of_leByte fun _ inside =>
    record_of_mem disjoint among inside

end VibuxOS.Lib
