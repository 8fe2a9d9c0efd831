import Mathlib.Data.Finset.Card
import Mathlib.Order.Interval.Finset.Nat
import Mathlib.Tactic.IntervalCases
import VibuxOS.Paging.Frames

namespace VibuxOS.Paging

open VibuxOS.Lib

/-!
# How many frames there are

A run of `allocate` calls hands out every whole page of the usable regions
above the reserved memory, each of them once, and only then returns `None`.
What is still to come is counted from the cursor of the allocator: the pages
behind it in its region and those of the regions after it.
-/

def frameCount (start stop : UInt64) : UInt64 :=
  match alignUp start with
  | none => 0
  | some alignedStart =>
      if alignedStart ≥ stop then
        0
      else
        (stop - alignedStart) / pageSize

/-- The number of aligned pages that lie wholly between two addresses. -/
def wholePages (low high : Nat) : Nat :=
  ((Finset.range high).filter fun page =>
    low ≤ 4096 * page ∧ 4096 * page + 4096 ≤ high).card

/-- An address of a region. -/
def MemoryRegion.Contains
    (region : MemoryRegion)
    (address : UInt64) : Prop :=
  region.start ≤ address ∧ address < region.stop

/-- The whole pages that a region has for the allocator. -/
def MemoryRegion.pages (region : MemoryRegion) : Nat :=
  if region.usable then
    wholePages (max region.start.toNat reservedLowMemory.toNat)
      region.stop.toNat
  else
    0

def MemoryRegion.pagesFrom
    (region : MemoryRegion)
    (next : UInt64) : Nat :=
  if region.usable then
    wholePages
      (max (max region.start.toNat reservedLowMemory.toNat) next.toNat)
      region.stop.toNat
  else
    0

/--
A memory map of the boot loader: no address lies in two regions, and the
bounds of the regions are physical addresses.  Nothing is asked of the order
of the regions, of their size or of their kinds.
-/
structure BootMap (regions : List MemoryRegion) : Prop where
  disjoint :
    ∀ (first second : Nat) (region other : MemoryRegion) (address : UInt64),
      first < second →
      regions[first]? = some region →
      regions[second]? = some other →
      ¬ (region.Contains address ∧ other.Contains address)
  physical :
    ∀ region ∈ regions,
      region.start.toNat ≤ 2 ^ 52 ∧ region.stop.toNat ≤ 2 ^ 52

/-- The pages that an allocator still has to hand out. -/
def FrameAllocator.remaining (allocator : FrameAllocator) : Nat :=
  match allocator.regions.drop allocator.regionIndex with
  | [] => 0
  | region :: rest =>
      region.pagesFrom allocator.nextFrame +
        (rest.map MemoryRegion.pages).sum

/-- The results of a run of `allocate` calls. -/
def FrameAllocator.calls :
    Nat → FrameAllocator → List (Option UInt64)
  | 0, _ => []
  | count + 1, allocator =>
      allocator.allocate.1 :: calls count allocator.allocate.2

theorem wholePages_eq
    (low high : Nat) :
    wholePages low high = high / 4096 - (low + 4095) / 4096 := by
  have interval :
      ((Finset.range high).filter fun page =>
        low ≤ 4096 * page ∧ 4096 * page + 4096 ≤ high) =
        Finset.Ico ((low + 4095) / 4096) (high / 4096) := by
    ext page
    simp only [Finset.mem_filter, Finset.mem_range, Finset.mem_Ico]
    omega
  rw [wholePages, interval, Nat.card_Ico]

theorem toNat_alignUp
    {value : UInt64}
    (inRange : value.toNat ≤ 2 ^ 52) :
    ∃ aligned,
      alignUp value = some aligned ∧
        aligned.toNat = (value.toNat + 4095) / 4096 * 4096 := by
  have page : (pageSize - 1).toNat = 4095 := by
    decide
  have high : (~~~(pageSize - 1)).toNat = 2 ^ 64 - 2 ^ 12 := by
    decide
  have fits : value ≤ value + (pageSize - 1) := by
    rw [le_add_iff, page]
    omega
  have added : checkedAdd value (pageSize - 1) =
      some (value + (pageSize - 1)) :=
    if_pos fits
  have sumIs := toNat_of_checkedAdd added
  rw [page] at sumIs
  refine ⟨(value + (pageSize - 1)) &&& ~~~(pageSize - 1), ?_, ?_⟩
  · rw [alignUp, added, Option.map_some]
  · rw [toNat_and_high _ _ (by decide : 12 ≤ 64) high, sumIs]
    omega

theorem toNat_frameCount
    {start stop : UInt64}
    (inRange : start.toNat ≤ 2 ^ 52) :
    (frameCount start stop).toNat =
      wholePages start.toNat stop.toNat := by
  obtain ⟨aligned, isAligned, alignedIs⟩ := toNat_alignUp inRange
  have page : pageSize.toNat = 4096 := by
    decide
  rw [frameCount, isAligned, wholePages_eq]
  dsimp only
  by_cases beyond : aligned ≥ stop
  · rw [if_pos beyond, UInt64.toNat_zero]
    rw [ge_iff_le, UInt64.le_iff_toNat_le] at beyond
    omega
  · rw [if_neg beyond, UInt64.toNat_div, page]
    have below := UInt64.le_of_lt (UInt64.not_le.mp beyond)
    rw [UInt64.toNat_sub_of_le _ _ below]
    omega

theorem MemoryRegion.pages_eq_frameCount
    {region : MemoryRegion}
    (usable : region.usable = true)
    (physical : region.start.toNat ≤ 2 ^ 52) :
    region.pages =
      (frameCount (max region.start reservedLowMemory) region.stop).toNat := by
  have reserved : reservedLowMemory.toNat ≤ 2 ^ 52 := by
    decide
  have inRange :
      (max region.start reservedLowMemory).toNat ≤ 2 ^ 52 := by
    rw [toNat_max]
    exact max_le physical reserved
  rw [toNat_frameCount inRange, toNat_max, pages, if_pos usable]

namespace FrameAllocator

variable {allocator : FrameAllocator}

/-- An allocator whose cursor and regions are physical addresses. -/
structure InReach (allocator : FrameAllocator) : Prop where
  physical :
    ∀ region ∈ allocator.regions,
      region.start.toNat ≤ 2 ^ 52 ∧ region.stop.toNat ≤ 2 ^ 52
  aligned : allocator.nextFrame.toNat % 4096 = 0
  next : allocator.nextFrame.toNat ≤ 2 ^ 52

theorem InReach.advance
    (inReach : allocator.InReach) :
    allocator.advance.InReach where
  physical := inReach.physical
  aligned := aligned_advance
  next := by
    have zero : allocator.advance.nextFrame = 0 := rfl
    rw [zero, UInt64.toNat_zero]
    exact Nat.zero_le _

theorem pagesFrom_zero
    (region : MemoryRegion) :
    region.pagesFrom 0 = region.pages := by
  rw [MemoryRegion.pagesFrom, MemoryRegion.pages, UInt64.toNat_zero,
    Nat.max_zero]

theorem remaining_of_none
    (beyond : allocator.regions[allocator.regionIndex]? = none) :
    allocator.remaining = 0 := by
  have empty : allocator.regions.drop allocator.regionIndex = [] :=
    List.drop_eq_nil_of_le (List.getElem?_eq_none_iff.mp beyond)
  rw [remaining, empty]

theorem remaining_of_some
    {region : MemoryRegion}
    (found : allocator.regions[allocator.regionIndex]? = some region) :
    allocator.remaining =
      region.pagesFrom allocator.nextFrame +
        allocator.advance.remaining := by
  obtain ⟨inside, isRegion⟩ := List.getElem?_eq_some_iff.mp found
  have split := List.drop_eq_getElem_cons inside
  rw [isRegion] at split
  have others :
      allocator.advance.remaining =
        ((allocator.regions.drop (allocator.regionIndex + 1)).map
          MemoryRegion.pages).sum := by
    have behind :
        allocator.advance.regions.drop allocator.advance.regionIndex =
          allocator.regions.drop (allocator.regionIndex + 1) :=
      rfl
    have zero : allocator.advance.nextFrame = 0 := rfl
    rw [remaining, behind, zero]
    cases allocator.regions.drop (allocator.regionIndex + 1) with
    | nil =>
        rfl
    | cons next rest =>
        dsimp only
        rw [pagesFrom_zero, List.map_cons, List.sum_cons]
  rw [remaining, split, others]

theorem remaining_withNext
    {region : MemoryRegion}
    {next : UInt64}
    (found : allocator.regions[allocator.regionIndex]? = some region) :
    remaining { allocator with nextFrame := next } =
      region.pagesFrom next + allocator.advance.remaining := by
  have moved :=
    @remaining_of_some { allocator with nextFrame := next } region found
  rw [moved]
  rfl

theorem roundUp_max
    {low next : Nat}
    (aligned : next % 4096 = 0) :
    (max low next + 4095) / 4096 * 4096 =
      max ((low + 4095) / 4096 * 4096) next := by
  omega

theorem toNat_cursor
    {next start : UInt64}
    {low : Nat}
    (nextAligned : next.toNat % 4096 = 0)
    (startIs : start.toNat = (low + 4095) / 4096 * 4096) :
    (if next = 0 ∨ next < start then start else next).toNat =
      (max low next.toNat + 4095) / 4096 * 4096 := by
  rw [roundUp_max nextAligned, ← startIs]
  split
  · rename_i behind
    rcases behind with rfl | less
    · rw [UInt64.toNat_zero, Nat.max_zero]
    · rw [UInt64.lt_iff_toNat_lt] at less
      rw [Nat.max_eq_left (Nat.le_of_lt less)]
  · rename_i ahead
    rw [not_or, UInt64.not_lt, UInt64.le_iff_toNat_le] at ahead
    rw [Nat.max_eq_right ahead.2]

section

variable
  {region : MemoryRegion}
  {next later frame : UInt64}
  (usable : region.usable = true)
  (frameIs :
    frame.toNat =
      (max (max region.start.toNat reservedLowMemory.toNat) next.toNat +
        4095) / 4096 * 4096)
  (laterIs : later.toNat = frame.toNat + 4096)

include usable frameIs laterIs

theorem pagesFrom_of_fits
    (fits : later ≤ region.stop) :
    region.pagesFrom next = region.pagesFrom later + 1 := by
  rw [UInt64.le_iff_toNat_le] at fits
  rw [MemoryRegion.pagesFrom, MemoryRegion.pagesFrom, if_pos usable,
    if_pos usable, wholePages_eq, wholePages_eq]
  omega

theorem pagesFrom_of_not_fits
    (fits : ¬ later ≤ region.stop) :
    region.pagesFrom next = 0 := by
  rw [UInt64.le_iff_toNat_le] at fits
  rw [MemoryRegion.pagesFrom, if_pos usable, wholePages_eq]
  omega

end

/-- What a run of the loop does to the number of pages to come. -/
structure Counts
    (before : FrameAllocator)
    (result : Option UInt64 × FrameAllocator) : Prop where
  ended : result.1 = none → before.remaining = 0
  handed :
    ∀ frame,
      result.1 = some frame →
      before.remaining = result.2.remaining + 1 ∧ result.2.InReach

theorem Counts.advance
    {result : Option UInt64 × FrameAllocator}
    {region : MemoryRegion}
    (counts : Counts allocator.advance result)
    (found : allocator.regions[allocator.regionIndex]? = some region)
    (empty : region.pagesFrom allocator.nextFrame = 0) :
    Counts allocator result := by
  have same : allocator.remaining = allocator.advance.remaining := by
    rw [remaining_of_some found, empty, Nat.zero_add]
  constructor
  · rw [same]
    exact counts.ended
  · rw [same]
    exact counts.handed

/-- The loop runs until it has a frame or no page is left. -/
theorem allocateFrom_counts
    {fuel : Nat}
    (inReach : allocator.InReach)
    (enough : allocator.regions.length < allocator.regionIndex + fuel) :
    Counts allocator (allocator.allocateFrom fuel) := by
  induction fuel generalizing allocator with
  | zero =>
      have beyond : allocator.regions[allocator.regionIndex]? = none :=
        List.getElem?_eq_none_iff.mpr (Nat.le_of_lt enough)
      exact ⟨fun _ => remaining_of_none beyond,
        fun _ handed => by cases handed⟩
  | succ fuel inductionHypothesis =>
      have onwards :
          Counts allocator.advance (allocator.advance.allocateFrom fuel) := by
        apply inductionHypothesis inReach.advance
        have length :
            allocator.advance.regions.length = allocator.regions.length :=
          rfl
        have index :
            allocator.advance.regionIndex = allocator.regionIndex + 1 :=
          rfl
        omega
      unfold allocateFrom
      cases found : allocator.regions[allocator.regionIndex]? with
      | none =>
          exact ⟨fun _ => remaining_of_none found,
            fun _ handed => by cases handed⟩
      | some region =>
          dsimp only
          obtain ⟨startPhysical, stopPhysical⟩ :=
            inReach.physical region (List.mem_of_getElem? found)
          by_cases usable : region.usable = true
          · rw [usable, Bool.not_true, if_neg Bool.false_ne_true]
            have reserved : reservedLowMemory.toNat ≤ 2 ^ 52 := by
              decide
            have lowPhysical :
                (max region.start reservedLowMemory).toNat ≤ 2 ^ 52 := by
              rw [toNat_max]
              exact max_le startPhysical reserved
            obtain ⟨start, started, startIs⟩ := toNat_alignUp lowPhysical
            have nextPhysical := inReach.next
            rw [toNat_max] at startIs lowPhysical
            rw [started]
            dsimp only
            have cursor := toNat_cursor inReach.aligned startIs
            generalize
              (if allocator.nextFrame = 0 ∨ allocator.nextFrame < start
                then start else allocator.nextFrame) = frame at cursor
            have inRange : frame.toNat + 4096 < 2 ^ 64 := by
              omega
            have page : pageSize.toNat = 4096 := by
              decide
            have added :
                checkedAdd frame pageSize = some (frame + pageSize) := by
              apply if_pos
              rw [le_add_iff, page]
              exact inRange
            have laterIs : (frame + pageSize).toNat = frame.toNat + 4096 :=
              toNat_of_checkedAdd added
            rw [added]
            dsimp only
            by_cases fits : frame + pageSize ≤ region.stop
            · rw [if_pos fits]
              refine ⟨fun ended => (by cases ended), fun _ _ => ?_⟩
              dsimp only
              rw [remaining_of_some found,
                pagesFrom_of_fits usable cursor laterIs fits,
                remaining_withNext found]
              refine ⟨Nat.add_right_comm _ _ _, inReach.physical, ?_, ?_⟩
              · dsimp only
                omega
              · rw [UInt64.le_iff_toNat_le] at fits
                exact Nat.le_trans fits stopPhysical
            · rw [if_neg fits]
              exact onwards.advance found
                (pagesFrom_of_not_fits usable cursor laterIs fits)
          · have empty : region.pagesFrom allocator.nextFrame = 0 :=
              if_neg usable
            rw [Bool.not_eq_true] at usable
            rw [usable, Bool.not_false, if_pos rfl]
            exact onwards.advance found empty

theorem allocate_counts
    (inReach : allocator.InReach) :
    Counts allocator allocator.allocate := by
  apply allocateFrom_counts inReach
  omega

theorem length_takeWhile_calls
    {count : Nat}
    (inReach : allocator.InReach) :
    ((calls count allocator).takeWhile Option.isSome).length =
      min count allocator.remaining := by
  induction count generalizing allocator with
  | zero =>
      rw [calls, List.takeWhile_nil, List.length_nil, Nat.zero_min]
  | succ count inductionHypothesis =>
      have counts := allocate_counts inReach
      rw [calls]
      cases result : allocator.allocate.1 with
      | none =>
          rw [counts.ended result, Nat.min_zero]
          rfl
      | some frame =>
          obtain ⟨one, later⟩ := counts.handed frame result
          rw [List.takeWhile_cons_of_pos rfl, List.length_cons,
            inductionHypothesis later, one, Nat.add_min_add_right]

theorem supplies_of_mem_calls
    {count : Nat}
    {frame : UInt64}
    (handed : some frame ∈ calls count allocator) :
    allocator.Supplies frame := by
  induction count generalizing allocator with
  | zero =>
      cases handed
  | succ count inductionHypothesis =>
      rw [calls, List.mem_cons] at handed
      rcases handed with now | later
      · exact .now now.symm
      · exact .later (inductionHypothesis later)

theorem index_eq_of_holds
    {regions : List MemoryRegion}
    {first second : Nat}
    {region other : MemoryRegion}
    {frame : UInt64}
    (bootMap : BootMap regions)
    (found : regions[first]? = some region)
    (otherFound : regions[second]? = some other)
    (holds : region.Holds frame)
    (otherHolds : other.Holds frame) :
    first = second := by
  have contains
      {region : MemoryRegion}
      (holds : region.Holds frame) :
      region.Contains frame := by
    obtain ⟨_, start, _, stop, _⟩ := holds
    refine ⟨start, ?_⟩
    rw [UInt64.lt_iff_toNat_lt]
    omega
  rcases Nat.lt_trichotomy first second with before | same | after
  · exact absurd ⟨contains holds, contains otherHolds⟩
      (bootMap.disjoint _ _ _ _ _ before found otherFound)
  · exact same
  · exact absurd ⟨contains otherHolds, contains holds⟩
      (bootMap.disjoint _ _ _ _ _ after otherFound found)

theorem not_supplies_of_bootMap
    {frame : UInt64}
    (bootMap : BootMap allocator.regions)
    (aligned : allocator.nextFrame.toNat % 4096 = 0)
    (allocated : allocator.allocate.1 = some frame) :
    ¬ allocator.allocate.2.Supplies frame := by
  intro again
  obtain ⟨further, handsOut⟩ := allocate_spec aligned
  obtain ⟨⟨region, found, holds⟩, next, _⟩ := handsOut frame allocated
  obtain ⟨index, other, _, otherFound, otherHolds, fromNext⟩ :=
    again.held further.aligned
  rw [further.regions] at otherFound
  have same :=
    index_eq_of_holds bootMap found otherFound holds otherHolds
  have beyond := fromNext same.symm
  rw [UInt64.le_iff_toNat_le, next] at beyond
  omega

theorem calls_distinct
    {count first second : Nat}
    {frame : UInt64}
    (bootMap : BootMap allocator.regions)
    (aligned : allocator.nextFrame.toNat % 4096 = 0)
    (before : first < second)
    (handed : (calls count allocator)[first]? = some (some frame)) :
    (calls count allocator)[second]? ≠ some (some frame) := by
  induction count generalizing allocator first second with
  | zero =>
      cases handed
  | succ count inductionHypothesis =>
      obtain ⟨second, rfl⟩ := Nat.exists_eq_add_of_lt before
      rw [calls] at handed ⊢
      rw [List.getElem?_cons_succ]
      have further := (allocate_spec aligned).1
      have laterMap : BootMap allocator.allocate.2.regions := by
        rw [further.regions]
        exact bootMap
      cases first with
      | zero =>
          rw [List.getElem?_cons_zero, Option.some.injEq] at handed
          intro again
          exact not_supplies_of_bootMap bootMap aligned handed
            (supplies_of_mem_calls (List.mem_of_getElem? again))
      | succ first =>
          rw [List.getElem?_cons_succ] at handed
          exact inductionHypothesis laterMap further.aligned (by omega)
            handed

end FrameAllocator

/--
A run of `allocate` calls over the memory map of the boot loader returns no
frame twice, every frame it returns is a whole page of a usable region above
the reserved memory, and before the first `None` it returns as many frames as
there are such pages.
-/
theorem frames_of_boot_map
    {regions : List MemoryRegion}
    (bootMap : BootMap regions)
    (count : Nat) :
    (∀ (first second : Nat) (frame : UInt64),
      first < second →
      ((FrameAllocator.new regions).calls count)[first]? =
        some (some frame) →
      ((FrameAllocator.new regions).calls count)[second]? ≠
        some (some frame)) ∧
    (∀ frame,
      some frame ∈ (FrameAllocator.new regions).calls count →
      frame.toNat % 4096 = 0 ∧
        1024 * 1024 ≤ frame.toNat ∧
        ∃ region ∈ regions,
          region.usable = true ∧
            region.start ≤ frame ∧
            frame.toNat + 4096 ≤ region.stop.toNat) ∧
    (((FrameAllocator.new regions).calls count).takeWhile
        Option.isSome).length =
      min count (regions.map MemoryRegion.pages).sum := by
  have aligned : (FrameAllocator.new regions).nextFrame.toNat % 4096 = 0 :=
    rfl
  refine ⟨?_, ?_, ?_⟩
  · intro first second frame before handed
    exact FrameAllocator.calls_distinct bootMap aligned before handed
  · intro frame handed
    obtain ⟨_, region, _, found, ⟨usable, start, reserved, stop, whole⟩, _⟩ :=
      (FrameAllocator.supplies_of_mem_calls handed).held aligned
    exact ⟨whole, UInt64.le_iff_toNat_le.mp reserved, region,
      List.mem_of_getElem? found, usable, start, stop⟩
  · have total :
        (FrameAllocator.new regions).remaining =
          (regions.map MemoryRegion.pages).sum := by
      cases regions with
      | nil =>
          rfl
      | cons region rest =>
          have first := FrameAllocator.pagesFrom_zero region
          rw [List.map_cons, List.sum_cons, ← first]
          rfl
    rw [← total]
    exact FrameAllocator.length_takeWhile_calls
      ⟨bootMap.physical, aligned, Nat.zero_le _⟩

/-- A usable region that the reserved memory cuts and one that is not. -/
def sampleRegions : List MemoryRegion :=
  [⟨0xff000, 0x101800, true⟩, ⟨0x101800, 0x200000, false⟩,
    ⟨0x200800, 0x203000, true⟩]

theorem bootMap_sampleRegions : BootMap sampleRegions := by
  constructor
  · intro first second region other address before found otherFound both
    have bound := (List.getElem?_eq_some_iff.mp otherFound).1
    have length : sampleRegions.length = 3 := rfl
    rw [length] at bound
    obtain ⟨⟨_, below⟩, ⟨above, _⟩⟩ := both
    have apart : region.stop ≤ other.start := by
      interval_cases second <;> interval_cases first <;>
        cases found <;> cases otherFound <;> decide
    exact absurd (UInt64.lt_of_lt_of_le below (UInt64.le_trans apart above))
      (UInt64.lt_irrefl _)
  · decide

/-- Three frames are in the sample map, and a fourth call has none. -/
theorem frames_of_sampleRegions :
    ((FrameAllocator.new sampleRegions).calls 4).map
        (fun result => result.map UInt64.toNat) =
      [some 0x100000, some 0x201000, some 0x202000, none] ∧
    (((FrameAllocator.new sampleRegions).calls 4).takeWhile
        Option.isSome).length =
      min 4 (sampleRegions.map MemoryRegion.pages).sum :=
  ⟨by decide +kernel,
    (frames_of_boot_map bootMap_sampleRegions 4).2.2⟩

end VibuxOS.Paging
