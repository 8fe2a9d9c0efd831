import VibuxOS.Lib.Bits
import VibuxOS.UserSpace.PageChanges
import VibuxOS.UserSpace.UserBuffers

namespace VibuxOS.UserSpace

open VibuxOS.Lib VibuxOS.Paging

/-!
# `mincore`

The call keeps one bit for each page of the range in an array of 4096 bytes on
the kernel's stack.  The length of the range bounds the loop, but neither the
index into the array nor the sums of addresses.  An index that is out of bounds
is a panic, and a panic does not return.
-/

variable {κ : Type}

variable
  {vec : List UInt8}
  {page : Nat}
  {address : UInt64}

/-- The length of the array `vec`. -/
def vecLen : Nat := 4096

/-- `pages` -/
def pageCount (length : UInt64) : Nat :=
  ((length + pageSize - 1) / pageSize).toNat

/-- `count` -/
def resultCount (pages : Nat) : Nat :=
  min ((pages + 7) / 8) vecLen

/-- The loop of `mincore` over the pages of the range. -/
def markPages (address : UInt64) (pages : Nat) :
    Nat → Nat → List UInt8 → Kernel κ UInt64 (List UInt8)
  | 0, _, _ => Prog.hang
  | fuel + 1, page, vec =>
      if page < pages then do
        let found ← Prog.gets fun machine =>
          translate machine.memory machine.cr3
            (address + UInt64.ofNat page * pageSize)
        if found.isSome then
          match vec[page / 8]? with
          | none => Prog.hang
          | some byte =>
              markPages address pages fuel (page + 1)
                (vec.set (page / 8) (byte ||| 1 <<< UInt8.ofNat (page % 8)))
        else
          markPages address pages fuel (page + 1) vec
      else
        pure vec

def mincore (address length result : UInt64) : Kernel κ UInt64 UInt64 :=
  if length = 0 then
    Prog.fail (negErrno einval)
  else do
    let vec ←
      markPages address (pageCount length) (pageCount length + 1) 0
        (List.replicate vecLen 0)
    let _ ← copying fun space =>
      copyUserOut space result (vec.take (resultCount (pageCount length)))
    pure 0

/-! ## The loop -/

def entryOf (vec : List UInt8) (page : Nat) : Bool :=
  vec.getD (page / 8) 0 &&& (1 <<< UInt8.ofNat (page % 8)) != 0

theorem entryOf_set
    (inside : page / 8 < vec.length)
    (other : Nat) :
    entryOf
        (vec.set (page / 8)
          (vec[page / 8] ||| 1 <<< UInt8.ofNat (page % 8)))
        other =
      (entryOf vec other || decide (other = page)) := by
  unfold entryOf
  by_cases sameByte : other / 8 = page / 8
  · have here :
        (vec.set (page / 8)
            (vec[page / 8] ||| 1 <<< UInt8.ofNat (page % 8))).getD
              (other / 8) 0 =
          vec.getD (other / 8) 0 ||| 1 <<< UInt8.ofNat (page % 8) := by
      simp [List.getD_eq_getElem?_getD, sameByte, inside]
    rw [here, test_or_mask _ (Nat.mod_lt _ (by decide))
      (Nat.mod_lt _ (by decide))]
    congr 1
    exact decide_eq_decide.mpr (by omega)
  · have different : other ≠ page := by
      rintro rfl
      exact sameByte rfl
    have elsewhere :
        (vec.set (page / 8)
            (vec[page / 8] ||| 1 <<< UInt8.ofNat (page % 8))).getD
              (other / 8) 0 =
          vec.getD (other / 8) 0 := by
      simp [List.getD_eq_getElem?_getD, Ne.symm sameByte]
    rw [elsewhere]
    simp [different]

def pageAddress (address : UInt64) (page : Nat) : UInt64 :=
  address + UInt64.ofNat page * pageSize

/-- A page of a range is mapped. -/
abbrev InCore (machine : Machine κ) (address : UInt64) (page : Nat) : Prop :=
  Mapped machine.memory machine.cr3 (pageAddress address page)

/-- The array has one entry for each page up to some page. -/
structure Marked
    (machine : Machine κ)
    (address : UInt64)
    (page : Nat)
    (vec : List UInt8) : Prop where
  length : vec.length = vecLen
  entries :
    ∀ other,
      entryOf vec other = true ↔
        other < page ∧ InCore machine address other

theorem marked_zero (machine : Machine κ) (address : UInt64) :
    Marked machine address 0 (List.replicate vecLen 0) where
  length := List.length_replicate
  entries other := by
    have isZero : (List.replicate vecLen (0 : UInt8)).getD (other / 8) 0 = 0 := by
      by_cases inside : other / 8 < vecLen <;>
        simp [List.getD_eq_getElem?_getD, inside]
    unfold entryOf
    rw [isZero]
    simp

theorem Marked.skip
    {machine : Machine κ}
    (marked : Marked machine address page vec)
    (missing : ¬ InCore machine address page) :
    Marked machine address (page + 1) vec where
  length := marked.length
  entries other := by
    rw [marked.entries other]
    apply and_congr_left
    intro mapped
    have different : other ≠ page := by
      rintro rfl
      exact missing mapped
    omega

theorem Marked.set
    {machine : Machine κ}
    (marked : Marked machine address page vec)
    (mapped : InCore machine address page)
    (inside : page / 8 < vec.length) :
    Marked machine address (page + 1)
      (vec.set (page / 8)
        (vec[page / 8] ||| 1 <<< UInt8.ofNat (page % 8))) where
  length := by
    rw [List.length_set]
    exact marked.length
  entries other := by
    rw [entryOf_set inside other, Bool.or_eq_true, marked.entries other,
      decide_eq_true_iff]
    constructor
    · rintro (⟨before, isMapped⟩ | rfl)
      · exact ⟨Nat.lt_succ_of_lt before, isMapped⟩
      · exact ⟨Nat.lt_succ_self _, mapped⟩
    · rintro ⟨before, isMapped⟩
      rcases Nat.lt_or_eq_of_le (Nat.le_of_lt_succ before) with below | same
      · exact .inl ⟨below, isMapped⟩
      · exact .inr same

/-- The pages that the array has no entry for are not mapped. -/
def NoneBeyond
    (machine : Machine κ)
    (address : UInt64)
    (pages : Nat) : Prop :=
  ∀ page < pages, 8 * vecLen ≤ page → ¬ InCore machine address page

theorem markPages_of_noneBeyond
    {machine : Machine κ}
    {pages : Nat}
    (noneBeyond : NoneBeyond machine address pages)
    {fuel page : Nat}
    (fuelled : pages < fuel + page)
    (atMost : page ≤ pages)
    (marked : Marked machine address page vec) :
    ∃ entries,
      markPages address pages fuel page vec machine = .ok entries machine ∧
        Marked machine address pages entries := by
  induction fuel generalizing page vec with
  | zero =>
      omega
  | succ fuel inductionHypothesis =>
      rw [markPages]
      by_cases more : page < pages
      · rw [if_pos more, Prog.gets_bind_apply]
        by_cases mapped : InCore machine address page
        · have inside : page / 8 < vec.length := by
            rw [marked.length]
            by_contra outside
            exact noneBeyond page more (by unfold vecLen at *; omega) mapped
          have isSome :
              (translate machine.memory machine.cr3
                (address + UInt64.ofNat page * pageSize)).isSome = true :=
            mapped
          rw [if_pos isSome, List.getElem?_eq_getElem inside]
          exact
            inductionHypothesis (by omega) (Nat.succ_le_of_lt more)
              (marked.set mapped inside)
        · have isNone :
              ¬ (translate machine.memory machine.cr3
                (address + UInt64.ofNat page * pageSize)).isSome = true :=
            mapped
          rw [if_neg isNone]
          exact
            inductionHypothesis (by omega) (Nat.succ_le_of_lt more)
              (marked.skip mapped)
      · have same : page = pages := by
          omega
        subst same
        rw [if_neg more]
        exact ⟨vec, rfl, marked⟩

theorem markPages_neverFails
    (address : UInt64)
    (pages fuel page : Nat)
    (vec : List UInt8) :
    Prog.NeverFails
      (markPages address pages fuel page vec : Kernel κ UInt64 (List UInt8)) := by
  induction fuel generalizing page vec with
  | zero =>
      exact Prog.NeverFails.hang
  | succ fuel inductionHypothesis =>
      rw [markPages]
      refine .ite (.bind (.gets _) fun found => ?_) (.pure _)
      refine .ite ?_ (inductionHypothesis _ _)
      cases vec[page / 8]? with
      | none => exact .hang
      | some byte => exact inductionHypothesis _ _

theorem noneBeyond_of_markPages
    {machine final : Machine κ}
    {pages fuel page : Nat}
    {vec entries : List UInt8}
    (length : vec.length = vecLen)
    (before :
      ∀ other < page, 8 * vecLen ≤ other → ¬ InCore machine address other)
    (returned :
      markPages address pages fuel page vec machine = .ok entries final) :
    NoneBeyond machine address pages := by
  induction fuel generalizing page vec with
  | zero =>
      cases returned
  | succ fuel inductionHypothesis =>
      rw [markPages] at returned
      by_cases more : page < pages
      · rw [if_pos more, Prog.gets_bind_apply] at returned
        by_cases mapped :
            (translate machine.memory machine.cr3
              (address + UInt64.ofNat page * pageSize)).isSome = true
        · rw [if_pos mapped] at returned
          cases isByte : vec[page / 8]? with
          | none =>
              rw [isByte] at returned
              cases returned
          | some byte =>
              rw [isByte] at returned
              obtain ⟨inside, _⟩ := List.getElem?_eq_some_iff.mp isByte
              apply
                inductionHypothesis (by rw [List.length_set]; exact length) _
                  returned
              intro other early beyond
              rw [length] at inside
              exact before other (by omega) beyond
        · rw [if_neg mapped] at returned
          apply inductionHypothesis length _ returned
          intro other early beyond
          rcases Nat.lt_or_eq_of_le (Nat.le_of_lt_succ early) with
            below | rfl
          · exact before other below beyond
          · exact mapped
      · intro other inside beyond
        exact before other (by omega) beyond

/-! ## The call -/

def pagesAsked (length : UInt64) : Nat :=
  (length.toNat + 4095) / 4096

/-- No sum of the page arithmetic overflows. -/
structure ExactPages (address length : UInt64) : Prop where
  rounding : length.toNat + 4096 < 2 ^ 64
  addresses :
    ∀ page < pagesAsked length, address.toNat + page * 4096 < 2 ^ 64

theorem pageCount_of_exact
    {address length : UInt64}
    (exact : ExactPages address length) :
    pageCount length = pagesAsked length := by
  have rounding := exact.rounding
  have size : pageSize.toNat = 4096 := rfl
  have sum : (length + pageSize - 1).toNat = length.toNat + 4095 := by
    have added : (length + pageSize).toNat = length.toNat + 4096 := by
      rw [UInt64.toNat_add, size]
      omega
    have one : (1 : UInt64) ≤ length + pageSize := by
      rw [UInt64.le_iff_toNat_le, added, UInt64.toNat_one]
      omega
    rw [UInt64.toNat_sub_of_le _ _ one, added, UInt64.toNat_one]
    omega
  rw [pageCount, pagesAsked, UInt64.toNat_div, sum, size]

/-- The bytes that the call copies to the result pointer. -/
abbrev resultLength (length : UInt64) : Nat :=
  resultCount (pagesAsked length)

theorem resultLength_pos
    {length : UInt64}
    (some : length ≠ 0) :
    0 < resultLength length := by
  have positive : length.toNat ≠ 0 := fun same =>
    some (UInt64.toNat_inj.mp same)
  unfold resultLength resultCount vecLen pagesAsked
  omega

/-- The stored result has one entry for each page, set for the mapped ones. -/
def DescribesPages
    (address length result : UInt64)
    (start final : Machine κ) : Prop :=
  pagesAsked length ≤ 8 * resultLength length ∧
    ∀ page < pagesAsked length,
      byteBehind start final (result + UInt64.ofNat (page / 8)) &&&
            (1 <<< UInt8.ofNat (page % 8)) ≠ 0 ↔
        InCore start address page

/-- The call is safe, ends, and describes the range if it returns 0. -/
def MincoreFaithful
    (address length result : UInt64)
    (start : Machine κ) : Prop :=
  ExactPages address length ∧
    mincore address length result start ≠ .hang ∧
    ∀ final,
      mincore address length result start = .ok 0 final →
      DescribesPages address length result start final

/--
No sum overflows, no page without an entry is mapped, and the result pointer is
refused or can be stored to, with an entry for each page.
-/
def WithinResult
    (address length result : UInt64)
    (start : Machine κ) : Prop :=
  ExactPages address length ∧
    (length = 0 ∨
      NoneBeyond start address (pagesAsked length) ∧
        (Refused (addressSpace start) (addressSpace start).Stores result
            (resultLength length) ∨
          pagesAsked length ≤ 8 * vecLen ∧
            Covered (addressSpace start).Stores result
              (resultLength length)))

section Call

variable
  {address length result : UInt64}
  {start : Machine κ}

theorem mincore_of_marked
    (exact : ExactPages address length)
    (some : length ≠ 0)
    (noneBeyond : NoneBeyond start address (pagesAsked length)) :
    ∃ vec,
      Marked start address (pagesAsked length) vec ∧
        (vec.take (resultLength length)).length = resultLength length ∧
        mincore address length result start =
          (copying (fun space =>
              copyUserOut space result (vec.take (resultLength length))) >>=
            fun _ => pure 0) start := by
  obtain ⟨vec, looped, marked⟩ :=
    markPages_of_noneBeyond noneBeyond (Nat.lt_succ_self _) (Nat.zero_le _)
      (marked_zero start address)
  refine ⟨vec, marked, ?_, ?_⟩
  · rw [List.length_take, marked.length]
    unfold resultLength resultCount
    omega
  · unfold mincore
    rw [if_neg some, pageCount_of_exact exact, Prog.bind_of_ok looped]

theorem describes_of_stored
    {final : Machine κ}
    (marked : Marked start address (pagesAsked length) vec)
    (fits : pagesAsked length ≤ 8 * vecLen)
    (isLength :
      (vec.take (resultLength length)).length = resultLength length)
    (stored :
      Stored (addressSpace start) result (vec.take (resultLength length))
        (memoryByte start.memory) (memoryByte final.memory)) :
    DescribesPages address length result start final := by
  have enough : pagesAsked length ≤ 8 * resultLength length := by
    unfold resultLength resultCount vecLen at *
    omega
  refine ⟨enough, ?_⟩
  intro page inside
  have short : (vec.take (resultLength length)).length ≤ 4096 := by
    rw [isLength]
    exact Nat.min_le_right _ _
  have place : page / 8 < (vec.take (resultLength length)).length := by
    rw [isLength]
    omega
  obtain ⟨physical, isTarget, isByte⟩ := stored.written short _ place
  have inVec : page / 8 < vec.length :=
    Nat.lt_of_lt_of_le place (List.length_take_le' _ _)
  have entries := marked.entries page
  rw [entryOf, List.getD_eq_getElem _ _ inVec, bne_iff_ne] at entries
  rw [byteBehind, AddressSpace.byteAt_of_target isTarget, isByte,
    List.getElem_take, entries]
  exact and_iff_right inside

end Call

end VibuxOS.UserSpace
