import VibuxOS.Elf.LoadImage

namespace VibuxOS.Elf

open VibuxOS.Lib
open VibuxOS.Paging

/-!
# The range of an image

`image_range` of `velf/runner.rs` finds the bounds of an image before the old
program is cleared away; the first pass of the loader finds them again.  Both
round every segment to whole pages, and where the loader accepts the segments
the two agree.
-/

variable {range : UInt64 × UInt64}

/-- `image_range` at one program header -/
def rangeSegment
    (image : Image)
    (bias : UInt64)
    (index : Nat)
    (bounds : UInt64 × UInt64) :
    Option (UInt64 × UInt64) := do
  let segment ← (image.phdr index).toOption
  if segment.kind ≠ ptLoad then
    pure bounds
  else do
    let start ← checkedAdd segment.vaddr bias
    let size ← checkedAdd segment.vaddr segment.memsz
    let rawEnd ← checkedAdd size bias
    let sum ← checkedAdd rawEnd (pageSize - 1)
    pure (min bounds.1 (down start), max bounds.2 (down sum))

/-- The loop of `image_range` -/
def rangeSegments
    (image : Image)
    (bias : UInt64) :
    List Nat → UInt64 × UInt64 → Option (UInt64 × UInt64)
  | [], bounds => some bounds
  | index :: rest, bounds => do
      let next ← rangeSegment image bias index bounds
      rangeSegments image bias rest next

def imageRange (image : Image) (bias : UInt64) : Option (UInt64 × UInt64) := do
  let bounds ←
    rangeSegments image bias (List.range image.header.phnum.toNat)
      (0xffffffffffffffff, 0)
  if bounds.1 < bounds.2 then
    some bounds
  else
    none

variable
  {κ : Type}
  {allocate : Allocate κ}
  {image : Image}
  {segment : ProgramHeader}
  {bias physicalOffset : UInt64}
  {machine final : Machine κ}

/-- The bounds that a scan has found so far. -/
def Scan.bounds (scan : Scan) : UInt64 × UInt64 :=
  (scan.start, scan.stop)

theorem rangeSegment_of_scanSegment
    {index : Nat}
    {before after : Scan}
    (returned : scanSegment image bias index before = .ok after) :
    rangeSegment image bias index before.bounds = some after.bounds := by
  obtain ⟨segment, isSegment, returned⟩ := bind_eq_ok.mp returned
  rw [rangeSegment, isSegment]
  split at returned
  · rename_i otherKind
    cases returned
    exact if_pos otherKind
  · rename_i isLoad
    split at returned
    · cases returned
    · obtain ⟨_, _, returned⟩ := bind_eq_ok.mp returned
      obtain ⟨range, isRange, returned⟩ := bind_eq_ok.mp returned
      split at returned
      · cases returned
      · cases returned
        obtain ⟨start, isStart, isRange⟩ := bind_eq_ok.mp isRange
        obtain ⟨size, isSize, isRange⟩ := bind_eq_ok.mp isRange
        obtain ⟨rawEnd, isRawEnd, isRange⟩ := bind_eq_ok.mp isRange
        obtain ⟨mappedEnd, isMappedEnd, isRange⟩ := bind_eq_ok.mp isRange
        cases isRange
        obtain ⟨sum, isSum, rfl⟩ :=
          Option.map_eq_some_iff.mp (okOr_eq_ok.mp isMappedEnd)
        have startIs := okOr_eq_ok.mp isStart
        have sizeIs := okOr_eq_ok.mp isSize
        have rawEndIs := okOr_eq_ok.mp isRawEnd
        refine (if_neg isLoad).trans ?_
        simp [startIs, sizeIs, rawEndIs, isSum, Scan.bounds]

theorem rangeSegments_of_scanSegments
    {indexes : List Nat}
    {before after : Scan}
    (returned : scanSegments image bias indexes before = .ok after) :
    rangeSegments image bias indexes before.bounds = some after.bounds := by
  induction indexes generalizing before with
  | nil =>
      cases returned
      rfl
  | cons index rest inductionHypothesis =>
      obtain ⟨middle, isMiddle, returned⟩ := bind_eq_ok.mp returned
      rw [rangeSegments, rangeSegment_of_scanSegment isMiddle]
      exact inductionHypothesis returned

section

variable
  {scan : Scan}
  (isRange : imageRange image bias = some range)
  (returned :
    scanSegments image bias (List.range image.header.phnum.toNat)
        ⟨0, 0xffffffffffffffff, 0⟩ =
      .ok scan)

include isRange returned

theorem imageRange_of_scanSegments :
    scan.bounds = range := by
  have found := rangeSegments_of_scanSegments returned
  unfold imageRange at isRange
  rw [Scan.bounds] at found
  rw [found] at isRange
  dsimp only [Option.bind_eq_bind, Option.bind_some] at isRange
  split at isRange
  · exact Option.some_inj.mp isRange
  · cases isRange

theorem scanned_of_imageRange
    (isLoad : image.IsLoad segment) :
    range.1.toNat ≤ pagesStart segment bias ∧
      pagesEnd segment bias ≤ range.2.toNat ∧
      pagesEnd segment bias ≤ 2 ^ 47 := by
  have accepted := (scanSegments_further returned).accepted segment isLoad
  have same := imageRange_of_scanSegments isRange returned
  rw [← same]
  exact ⟨accepted.start, accepted.stop, accepted.below⟩

end

theorem loadAt_bounds
    {loaded : Loaded}
    (isRange : imageRange image bias = some range)
    (returned :
      loadAt allocate image physicalOffset bias machine = .ok loaded final) :
    (loaded.start, loaded.stop) = range := by
  obtain ⟨scan, isScan, returned⟩ := Prog.ofExcept_bind_eq_ok.mp returned
  split at returned
  · cases returned
  · obtain ⟨pages, middle, _, returned⟩ := Prog.bind_eq_ok.mp returned
    obtain ⟨entry, _, returned⟩ := Prog.ofExcept_bind_eq_ok.mp returned
    cases returned
    exact imageRange_of_scanSegments isRange isScan

end VibuxOS.Elf
