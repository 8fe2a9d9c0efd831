import VibuxOS.Paging.Tables

namespace VibuxOS.Paging

open VibuxOS.Lib

/-!
# Physical frames

The allocator of `memory/frame.rs`: it walks through the memory regions of the
boot loader and hands out the frames of the usable ones in order.  Nothing is
ever given back, so the frames that are still to come determine everything the
allocator will do.
-/

variable {frame : UInt64}

def reservedLowMemory : UInt64 := 1024 * 1024

/-- `MemoryRegion`; `usable` says that its kind is `Usable`. -/
structure MemoryRegion where
  start : UInt64
  stop : UInt64
  usable : Bool
  deriving DecidableEq

structure FrameAllocator where
  regions : List MemoryRegion
  regionIndex : Nat
  nextFrame : UInt64
  deriving DecidableEq

def FrameAllocator.new (regions : List MemoryRegion) : FrameAllocator where
  regions := regions
  regionIndex := 0
  nextFrame := 0

def alignUp (value : UInt64) : Option UInt64 :=
  (checkedAdd value (pageSize - 1)).map fun sum => sum &&& ~~~(pageSize - 1)

/-- Go on with the next region. -/
def FrameAllocator.advance (allocator : FrameAllocator) : FrameAllocator :=
  { allocator with
    regionIndex := allocator.regionIndex + 1
    nextFrame := 0 }

/-- The loop of `FrameAllocator::allocate`. -/
def FrameAllocator.allocateFrom :
    Nat → FrameAllocator → Option UInt64 × FrameAllocator
  | 0, allocator => (none, allocator)
  | fuel + 1, allocator =>
      match allocator.regions[allocator.regionIndex]? with
      | none => (none, allocator)
      | some region =>
          if !region.usable then
            allocateFrom fuel allocator.advance
          else
            match alignUp (max region.start reservedLowMemory) with
            | none => (none, allocator)
            | some start =>
                let frame :=
                  if allocator.nextFrame = 0 ∨ allocator.nextFrame < start then
                    start
                  else
                    allocator.nextFrame
                match checkedAdd frame pageSize with
                | none => (none, { allocator with nextFrame := frame })
                | some next =>
                    if next ≤ region.stop then
                      (some frame, { allocator with nextFrame := next })
                    else
                      allocateFrom fuel allocator.advance

def FrameAllocator.allocate
    (allocator : FrameAllocator) :
    Option UInt64 × FrameAllocator :=
  allocator.allocateFrom
    (allocator.regions.length - allocator.regionIndex + 1)

/-- The frames that an allocator is going to hand out. -/
inductive FrameAllocator.Supplies : FrameAllocator → UInt64 → Prop where
  | now
      {allocator : FrameAllocator}
      {frame : UInt64}
      (allocated : allocator.allocate.1 = some frame) :
      Supplies allocator frame
  | later
      {allocator : FrameAllocator}
      {frame : UInt64}
      (supplied : Supplies allocator.allocate.2 frame) :
      Supplies allocator frame

/-- The frame of a page lies inside a region and above the reserved memory. -/
def MemoryRegion.Holds
    (region : MemoryRegion)
    (frame : UInt64) : Prop :=
  region.usable = true ∧
    region.start ≤ frame ∧
    reservedLowMemory ≤ frame ∧
    frame.toNat + 4096 ≤ region.stop.toNat ∧
    frame.toNat % 4096 = 0

/-- Regions that do not overlap and end within the reach of a page table. -/
structure FrameAllocator.WellFormed
    (allocator : FrameAllocator) : Prop where
  disjoint :
    ∀ (first second : Nat) (region other : MemoryRegion),
      first < second →
      allocator.regions[first]? = some region →
      allocator.regions[second]? = some other →
      region.stop ≤ other.start ∨ other.stop ≤ region.start
  below :
    ∀ region ∈ allocator.regions, region.stop.toNat ≤ 2 ^ 52
  aligned :
    allocator.nextFrame.toNat % 4096 = 0

/-- The second allocator has come further through the regions. -/
structure FrameAllocator.Further
    (before after : FrameAllocator) : Prop where
  regions : after.regions = before.regions
  aligned : after.nextFrame.toNat % 4096 = 0
  index : before.regionIndex ≤ after.regionIndex
  next :
    after.regionIndex = before.regionIndex →
    before.nextFrame ≤ after.nextFrame

/-- A frame of the region in which the second allocator leaves off. -/
structure FrameAllocator.HandsOut
    (before : FrameAllocator)
    (frame : UInt64)
    (after : FrameAllocator) : Prop where
  held :
    ∃ region,
      before.regions[after.regionIndex]? = some region ∧
        region.Holds frame
  next : after.nextFrame.toNat = frame.toNat + 4096
  fromNext :
    after.regionIndex = before.regionIndex →
    before.nextFrame ≤ frame

theorem le_alignUp
    {value aligned : UInt64}
    (isAligned : alignUp value = some aligned) :
    value ≤ aligned ∧ aligned.toNat % 4096 = 0 := by
  unfold alignUp at isAligned
  obtain ⟨sum, added, rfl⟩ := Option.map_eq_some_iff.mp isAligned
  have sumIs := toNat_of_checkedAdd added
  have page : (pageSize - 1).toNat = 4095 := by
    decide
  have high : (~~~(pageSize - 1)).toNat = 2 ^ 64 - 2 ^ 12 := by
    decide
  rw [page] at sumIs
  rw [UInt64.le_iff_toNat_le,
    toNat_and_high sum _ (by decide : 12 ≤ 64) high, sumIs]
  omega

namespace FrameAllocator

variable {allocator : FrameAllocator}

theorem aligned_advance :
    allocator.advance.nextFrame.toNat % 4096 = 0 := by
  have zero : allocator.advance.nextFrame = 0 := rfl
  rw [zero, UInt64.toNat_zero]

theorem Further.refl
    (aligned : allocator.nextFrame.toNat % 4096 = 0) :
    Further allocator allocator :=
  ⟨rfl, aligned, Nat.le_refl _, fun _ => UInt64.le_refl _⟩

theorem Further.advance
    {after : FrameAllocator}
    (further : Further allocator.advance after) :
    Further allocator after where
  regions := further.regions
  aligned := further.aligned
  index := Nat.le_of_succ_le further.index
  next sameIndex := by
    have index := further.index
    rw [sameIndex] at index
    exact absurd index (Nat.not_succ_le_self _)

theorem HandsOut.advance
    {after : FrameAllocator}
    (handsOut : HandsOut allocator.advance frame after)
    (further : Further allocator.advance after) :
    HandsOut allocator frame after where
  held := handsOut.held
  next := handsOut.next
  fromNext sameIndex := by
    have index := further.index
    rw [sameIndex] at index
    exact absurd index (Nat.not_succ_le_self _)

theorem later_frame
    {next start : UInt64}
    (nextAligned : next.toNat % 4096 = 0)
    (startAligned : start.toNat % 4096 = 0) :
    (if next = 0 ∨ next < start then start else next).toNat % 4096 = 0 ∧
      start ≤ (if next = 0 ∨ next < start then start else next) ∧
      next ≤ (if next = 0 ∨ next < start then start else next) := by
  split
  · rename_i behind
    refine ⟨startAligned, UInt64.le_refl _, ?_⟩
    rcases behind with rfl | less
    · exact UInt64.zero_le
    · exact UInt64.le_of_lt less
  · rename_i ahead
    rw [not_or, UInt64.not_lt] at ahead
    exact ⟨nextAligned, ahead.2, UInt64.le_refl _⟩

theorem holds_of_fits
    {region : MemoryRegion}
    {start frame : UInt64}
    (usable : region.usable = true)
    (aboveStart : max region.start reservedLowMemory ≤ start)
    (fromStart : start ≤ frame)
    (fits : frame.toNat + 4096 ≤ region.stop.toNat)
    (frameAligned : frame.toNat % 4096 = 0) :
    region.Holds frame := by
  have above := UInt64.le_trans aboveStart fromStart
  have larger :
      max region.start reservedLowMemory =
        if region.start ≤ reservedLowMemory then
          reservedLowMemory
        else
          region.start :=
    rfl
  rw [larger] at above
  split at above
  · rename_i low
    exact ⟨usable, UInt64.le_trans low above, above, fits, frameAligned⟩
  · rename_i high
    have reserved := UInt64.le_of_lt (UInt64.not_le.mp high)
    exact ⟨usable, above, UInt64.le_trans reserved above, fits,
      frameAligned⟩

theorem allocateFrom_spec
    {fuel : Nat}
    (aligned : allocator.nextFrame.toNat % 4096 = 0) :
    Further allocator (allocator.allocateFrom fuel).2 ∧
      ∀ frame,
        (allocator.allocateFrom fuel).1 = some frame →
        HandsOut allocator frame (allocator.allocateFrom fuel).2 := by
  induction fuel generalizing allocator with
  | zero =>
      rw [allocateFrom]
      exact ⟨Further.refl aligned, fun _ handed => nomatch handed⟩
  | succ fuel inductionHypothesis =>
      have stays := Further.refl aligned
      have onwards := inductionHypothesis (@aligned_advance allocator)
      have skipped :
          Further allocator (allocator.advance.allocateFrom fuel).2 ∧
            ∀ frame,
              (allocator.advance.allocateFrom fuel).1 = some frame →
              HandsOut allocator frame
                (allocator.advance.allocateFrom fuel).2 :=
        ⟨onwards.1.advance,
          fun frame handed => (onwards.2 frame handed).advance onwards.1⟩
      unfold allocateFrom
      cases found : allocator.regions[allocator.regionIndex]? with
      | none =>
          exact ⟨stays, fun _ handed => nomatch handed⟩
      | some region =>
          dsimp only
          by_cases usable : region.usable = true
          · rw [usable, Bool.not_true, if_neg Bool.false_ne_true]
            cases started :
                alignUp (max region.start reservedLowMemory) with
            | none =>
                exact ⟨stays, fun _ handed => nomatch handed⟩
            | some start =>
                have atStart := le_alignUp started
                dsimp only
                generalize frameIs :
                  (if allocator.nextFrame = 0 ∨ allocator.nextFrame < start
                    then start else allocator.nextFrame) = frame
                obtain ⟨frameAligned, fromStart, fromNext⟩ :
                    frame.toNat % 4096 = 0 ∧
                      start ≤ frame ∧ allocator.nextFrame ≤ frame := by
                  rw [← frameIs]
                  exact later_frame aligned atStart.2
                cases added : checkedAdd frame pageSize with
                | none =>
                    exact ⟨⟨rfl, frameAligned, Nat.le_refl _,
                      fun _ => fromNext⟩, fun _ handed => nomatch handed⟩
                | some next =>
                    have nextIs : next.toNat = frame.toNat + 4096 :=
                      toNat_of_checkedAdd added
                    dsimp only
                    by_cases fits : next ≤ region.stop
                    · rw [if_pos fits]
                      rw [UInt64.le_iff_toNat_le, nextIs] at fits
                      have offered := holds_of_fits usable atStart.1
                        fromStart fits frameAligned
                      refine ⟨⟨rfl, ?_, Nat.le_refl _, fun _ => ?_⟩, ?_⟩
                      · dsimp only
                        omega
                      · rw [UInt64.le_iff_toNat_le] at fromNext ⊢
                        dsimp only
                        omega
                      · intro handed isHanded
                        cases isHanded
                        exact ⟨⟨region, found, offered⟩, nextIs,
                          fun _ => fromNext⟩
                    · rw [if_neg fits]
                      exact skipped
          · rw [Bool.not_eq_true] at usable
            rw [usable, Bool.not_false, if_pos rfl]
            exact skipped

theorem allocate_spec
    (aligned : allocator.nextFrame.toNat % 4096 = 0) :
    Further allocator allocator.allocate.2 ∧
      ∀ frame,
        allocator.allocate.1 = some frame →
        HandsOut allocator frame allocator.allocate.2 :=
  allocateFrom_spec aligned

theorem Supplies.held
    (supplied : allocator.Supplies frame)
    (aligned : allocator.nextFrame.toNat % 4096 = 0) :
    ∃ index region,
      allocator.regionIndex ≤ index ∧
        allocator.regions[index]? = some region ∧
        region.Holds frame ∧
        (index = allocator.regionIndex → allocator.nextFrame ≤ frame) := by
  induction supplied with
  | now allocated =>
      obtain ⟨further, handsOut⟩ := allocate_spec aligned
      obtain ⟨⟨region, found, holds⟩, _, fromNext⟩ := handsOut _ allocated
      exact ⟨_, region, further.index, found, holds, fromNext⟩
  | later _ inductionHypothesis =>
      have further := (allocate_spec aligned).1
      obtain ⟨index, region, laterIndex, found, holds, fromNext⟩ :=
        inductionHypothesis further.aligned
      rw [further.regions] at found
      refine ⟨index, region, Nat.le_trans further.index laterIndex, found,
        holds, ?_⟩
      intro sameIndex
      have stayed :=
        Nat.le_antisymm (sameIndex ▸ laterIndex) further.index
      exact UInt64.le_trans (further.next stayed)
        (fromNext (sameIndex.trans stayed.symm))

theorem WellFormed.allocate
    (wellFormed : allocator.WellFormed) :
    allocator.allocate.2.WellFormed := by
  have further := (allocate_spec wellFormed.aligned).1
  constructor
  · rw [further.regions]
    exact wellFormed.disjoint
  · rw [further.regions]
    exact wellFormed.below
  · exact further.aligned

theorem not_supplies_of_allocated
    (wellFormed : allocator.WellFormed)
    (allocated : allocator.allocate.1 = some frame) :
    ¬ allocator.allocate.2.Supplies frame := by
  intro again
  obtain ⟨further, handsOut⟩ := allocate_spec wellFormed.aligned
  obtain ⟨⟨region, found, holds⟩, next, _⟩ := handsOut frame allocated
  obtain ⟨index, other, later, otherFound, otherHolds, fromNext⟩ :=
    again.held further.aligned
  rw [further.regions] at otherFound
  rcases Nat.eq_or_lt_of_le later with same | after
  · have beyond := fromNext same.symm
    rw [UInt64.le_iff_toNat_le, next] at beyond
    omega
  · obtain ⟨_, start, _, stop, _⟩ := holds
    obtain ⟨_, otherStart, _, otherStop, _⟩ := otherHolds
    have apart := wellFormed.disjoint _ _ _ _ after found otherFound
    rw [UInt64.le_iff_toNat_le] at start otherStart
    rw [UInt64.le_iff_toNat_le, UInt64.le_iff_toNat_le] at apart
    omega

theorem Supplies.masked
    (supplied : allocator.Supplies frame)
    (wellFormed : allocator.WellFormed) :
    frame &&& entryAddrMask = frame := by
  obtain ⟨_, region, _, found, ⟨_, _, _, stop, aligned⟩, _⟩ :=
    supplied.held wellFormed.aligned
  have below := wellFormed.below region (List.mem_of_getElem? found)
  exact and_entryAddrMask (by omega) aligned

end FrameAllocator

end VibuxOS.Paging
