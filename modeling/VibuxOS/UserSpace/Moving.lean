import VibuxOS.Paging.HardwareWalk
import VibuxOS.UserSpace.ByteMoves
import VibuxOS.UserSpace.FirstFree
import VibuxOS.UserSpace.Unmapping

namespace VibuxOS.UserSpace

open VibuxOS.Lib VibuxOS.Paging

/-!
# What `mremap` keeps

A move maps new pages, copies and clears the old pages.  It keeps the contents
when the new pages lie apart from the old ones, which `MREMAP_FIXED` does not ask
for; and a range that is not to grow is returned without a look at its pages.
-/

variable {κ : Type} {allocate : Allocate κ} {start machine final : Machine κ}

/-! ## What a change keeps -/

theorem target_of_translate
    {address : UInt64}
    {mapping : Mapping}
    (found : translate machine.memory machine.cr3 address = some mapping)
    (notHuge : mapping.pageSize ≠ hugePageSize) :
    (addressSpace machine).target address = some mapping.physicalAddress := by
  have mapped : Mapped machine.memory machine.cr3 address :=
    Option.isSome_iff_exists.mpr ⟨mapping, found⟩
  obtain ⟨physical, isAccess⟩ := lookup_of_mapped mapped
  have isTarget : (addressSpace machine).target address = some physical := by
    unfold AddressSpace.target AddressSpace.lookup
    rw [isAccess, Option.map_some]
  obtain ⟨visit, ends, _⟩ := exists_last machine.memory machine.cr3 address
  rw [translate_of_last mapped.canonical ends] at found
  rw [lookup, if_pos mapped.canonical, ends, Option.bind_some] at isAccess
  obtain ⟨place, isLeaf, same⟩ := Option.map_eq_some_iff.mp isAccess
  cases same
  rw [isTarget]
  congr 1
  refine ((physicalAddress_eq_iff found isLeaf).mpr fun isThree => ?_).symm
  exfalso
  apply notHuge
  rw [isThree] at found
  unfold mappingAt at found
  split at found
  · cases found
  · cases found
    rfl

/-- Behind the pages of a range are neither tables nor frames to be handed out. -/
def ProgramPages
    (allocate : Allocate κ)
    (machine : Machine κ)
    (address size : UInt64) : Prop :=
  ∀ index < size.toNat,
    ∀ mapping,
      translate machine.memory machine.cr3 (address + UInt64.ofNat index) =
        some mapping →
      mapping.pageSize ≠ hugePageSize ∧
        ¬ TableFrame machine.memory machine.cr3
          (pageOf mapping.physicalAddress) ∧
        ¬ Pending allocate machine.supply (pageOf mapping.physicalAddress)

theorem kept_of_changes
    {touched : UInt64 → Prop}
    (changes : Changes allocate touched start machine)
    {address : UInt64}
    {mapping : Mapping}
    (found : translate start.memory start.cr3 address = some mapping)
    (notHuge : mapping.pageSize ≠ hugePageSize)
    (noTable :
      ¬ TableFrame start.memory start.cr3 (pageOf mapping.physicalAddress))
    (taken : ¬ Pending allocate start.supply (pageOf mapping.physicalAddress))
    (untouched : ¬ touched address) :
    translate machine.memory machine.cr3 address =
        translate start.memory start.cr3 address ∧
      loadedByte machine address = loadedByte start address := by
  have same := changes.elsewhere address untouched
  refine ⟨same, ?_⟩
  rw [loadedByte_of_target (target_of_translate found notHuge),
    loadedByte_of_target (target_of_translate (same.trans found) notHuge),
    memoryByte, memoryByte, frameByte, frameByte,
    (changes.words _ noTable taken).2]

/-! ## Pages of a range -/

/-- An address is in a page of a range. -/
def InPages (address size other : UInt64) : Prop :=
  ∃ index < size.toNat, SamePage other (address + UInt64.ofNat index)

theorem inPages_of_inRange
    {first size rounded other : UInt64}
    (isPage : IsPage first)
    (isRounded : rounded.toNat = (size.toNat + 4095) / 4096 * 4096)
    (noWrap : first.toNat + rounded.toNat < 2 ^ 64)
    (inside : InRange first (first + rounded) other) :
    InPages first size other := by
  obtain ⟨above, below⟩ := inside
  rw [UInt64.le_iff_toNat_le] at above
  rw [UInt64.lt_iff_toNat_lt, UInt64.toNat_add] at below
  unfold IsPage at isPage
  have sizeBound := size.toNat_lt
  refine ⟨(other.toNat - first.toNat) / 4096 * 4096, by omega, ?_⟩
  unfold SamePage
  rw [UInt64.toNat_add, UInt64.toNat_ofNat']
  omega

theorem toNat_add_ofNat
    {address : UInt64}
    {index : Nat}
    (noWrap : address.toNat + index < 2 ^ 64) :
    (address + UInt64.ofNat index).toNat = address.toNat + index := by
  rw [UInt64.toNat_add, UInt64.toNat_ofNat']
  omega

theorem keeps_changes_unmapPage
    {touched : UInt64 → Prop}
    {page : UInt64}
    (among : ∀ other, SamePage other page → touched other) :
    Prog.Keeps (Changes allocate touched start)
      (unmapPage page : Kernel κ UInt64 Unit) := by
  intro machine changes
  rcases unmap4k_spec changes.ready page with
    ⟨frame, after, unmapped, cleared⟩ | ⟨⟨error, refused⟩, _⟩
  · rw [unmapPage, Prog.bind_of_ok (Prog.mapError_eq_ok.mpr unmapped)]
    constructor
    · intro value last returned
      cases returned
      exact changes.trans (cleared.changes.mono among)
    · intro code last failed
      cases failed
  · rw [unmapPage,
      Prog.bind_of_err (Prog.mapError_eq_err.mpr ⟨error, refused, rfl⟩)]
    constructor
    · intro value last returned
      cases returned
    · intro code last failed
      cases failed
      exact changes

theorem changes_of_unmapMemory
    {space last : Space κ}
    {address length : UInt64}
    (ready : Ready allocate space.machine)
    (ended : (unmapMemory address length space).final? = some last) :
    Changes allocate (InPages address length) space.machine last.machine := by
  have unchanged :
      ∀ code : UInt64,
        (Prog.fail code : Call κ UInt64) space =
          unmapMemory address length space →
        Changes allocate (InPages address length) space.machine
          last.machine := by
    intro code failed
    rw [← failed] at ended
    cases ended
    exact Changes.refl ready _
  by_cases isPage : (address &&& (pageSize - 1) != 0) = true
  · apply unchanged (negErrno einval)
    unfold unmapMemory overPages
    rw [if_pos isPage]
  · rw [Bool.not_eq_true] at isPage
    cases isRounded : (checkedAdd length (pageSize - 1)).map pageOf with
    | none =>
        apply unchanged (negErrno einval)
        unfold unmapMemory overPages
        rw [isPage, if_neg Bool.false_ne_true, isRounded]
    | some rounded =>
        rw [isPage_iff] at isPage
        have rounds := toNat_rounded isRounded
        have roundedIsPage : IsPage rounded := by
          unfold IsPage
          omega
        obtain ⟨stopIsPage, _⟩ := isPage_stop isPage roundedIsPage
        unfold unmapMemory at ended
        rw [final_overPages isPage isRounded] at ended
        obtain ⟨swept, isSwept, rfl⟩ := Option.map_eq_some_iff.mp ended
        by_cases inOrder : address ≤ address + rounded
        · have noWrap : address.toNat + rounded.toNat < 2 ^ 64 := by
            have addressBound := address.toNat_lt
            have roundedBound := rounded.toNat_lt
            rw [UInt64.le_iff_toNat_le, UInt64.toNat_add] at inOrder
            omega
          have sweeps :=
            @ensures_forPages κ UInt64 unmapPage (address + rounded)
              (fun _ =>
                Changes allocate (InPages address length) space.machine)
              (Changes allocate (InPages address length) space.machine) address
              stopIsPage
              (fun page _ inside =>
                keeps_changes_unmapPage fun other same =>
                  inPages_of_inRange isPage rounds noWrap
                    (inRange_of_samePage isPage stopIsPage same inside))
              (turns rounded) isPage inOrder
          exact sweeps.final (Changes.refl ready _) isSwept
        · rw [UInt64.not_le] at inOrder
          rw [turns, forPages_of_le (UInt64.le_of_lt inOrder)] at isSwept
          cases isSwept
          exact Changes.refl ready _

/-! ## The new pages -/

section NewPages

variable
  {flags : PageFlags}
  {bytes : UInt64 → Nat → UInt8}
  {length first : UInt64}

theorem placed_of_pagesGiven
    (isLength : IsLength length)
    (isPage : IsPage first)
    (below : first < userLimit)
    (given :
      PagesGiven allocate flags bytes first start (first + length) machine)
    {index : Nat}
    (inside : index < length.toNat) :
    ∃ page frame offset,
      first + UInt64.ofNat index = page + offset ∧
        offset.toNat < 4096 ∧
        IsPage page ∧
        Drawn allocate frame start machine ∧
        PageAt allocate page frame flags (bytes page) machine := by
  obtain ⟨stop, stopIsPage, _⟩ := toNat_rangeStop isLength isPage below
  have limit : userLimit.toNat = 2 ^ 47 := rfl
  have lengthBelow := isLength.below
  have firstBelow := UInt64.lt_iff_toNat_lt.mp below
  have address :=
    @toNat_add_ofNat first index (by omega)
  have inRange :
      InRange first (first + length) (first + UInt64.ofNat index) := by
    unfold InRange
    rw [UInt64.le_iff_toNat_le, UInt64.lt_iff_toNat_lt]
    omega
  have pageIsPage := isPage_pageOf (first + UInt64.ofNat index)
  obtain ⟨_, frame, isDrawn, isAt⟩ :=
    given.pages _ pageIsPage (inRange_pageOf isPage stopIsPage inRange)
  have samePage :
      SamePage (first + UInt64.ofNat index)
        (pageOf (first + UInt64.ofNat index)) :=
    (samePage_pageOf _).symm
  obtain ⟨offset, within, isAddress⟩ := samePage.exists_offset pageIsPage
  exact ⟨_, frame, offset, isAddress, within, pageIsPage, isDrawn, isAt⟩

theorem target_of_pageAt
    {page frame offset : UInt64}
    {shown : Nat → UInt8}
    (isAt : PageAt allocate page frame flags shown machine)
    (within : offset.toNat < 4096) :
    (addressSpace machine).target (page + offset) = some (frame + offset) :=
  target_of_translate (isAt.found offset within) fun isHuge => by
    have same : pageSize = hugePageSize := isHuge
    exact absurd same (by decide)

section

variable
  (isLength : IsLength length)
  (isPage : IsPage first)
  (below : first < userLimit)
  (given :
    PagesGiven allocate flags bytes first start (first + length) machine)

include isLength isPage below given

theorem injective_of_pagesGiven
    {index other : Nat}
    (inside : index < length.toNat)
    (otherInside : other < length.toNat)
    (same :
      (addressSpace machine).target (first + UInt64.ofNat index) =
        (addressSpace machine).target (first + UInt64.ofNat other)) :
    index = other := by
  have limit : userLimit.toNat = 2 ^ 47 := rfl
  have lengthBelow := isLength.below
  have firstBelow := UInt64.lt_iff_toNat_lt.mp below
  have address := @toNat_add_ofNat first index (by omega)
  have otherAddress := @toNat_add_ofNat first other (by omega)
  obtain ⟨page, frame, offset, isAddress, within, pageIsPage, _, isAt⟩ :=
    placed_of_pagesGiven isLength isPage below given inside
  obtain ⟨otherPage, otherFrame, otherOffset, isOther, otherWithin,
      otherIsPage, _, otherAt⟩ :=
    placed_of_pagesGiven isLength isPage below given otherInside
  rw [isAddress, isOther, target_of_pageAt isAt within,
    target_of_pageAt otherAt otherWithin, Option.some_inj] at same
  have sameFrame : frame = otherFrame := by
    rw [← pageOf_frame_add isAt.isFrame within, same,
      pageOf_frame_add otherAt.isFrame otherWithin]
  subst sameFrame
  have sameOffset : offset = otherOffset := UInt64.add_right_inj frame |>.mp same
  subst sameOffset
  by_cases samePage : SamePage otherPage page
  · have here : otherPage = page := by
      unfold SamePage at samePage
      unfold IsPage at pageIsPage otherIsPage
      apply UInt64.toNat_inj.mp
      omega
    rw [here, ← isAddress] at isOther
    rw [isOther] at otherAddress
    omega
  · exfalso
    apply isAt.own otherPage _ otherAt.found_first otherAt.permitted samePage
    have first := pageOf_frame_add otherAt.isFrame (by decide : (0 : UInt64).toNat < 4096)
    rwa [UInt64.add_zero] at first

theorem apart_of_pagesGiven
    {oldAddr oldSize : UInt64}
    (program : ProgramPages allocate start oldAddr oldSize)
    (apart :
      ∀ other,
        InRange first (first + length) other →
        ¬ InPages oldAddr oldSize other)
    {index other : Nat}
    (inside : index < length.toNat)
    (oldInside : other < oldSize.toNat)
    {physical : UInt64}
    (isTarget :
      (addressSpace machine).target (first + UInt64.ofNat index) =
        some physical) :
    (addressSpace machine).target (oldAddr + UInt64.ofNat other) ≠
      some physical := by
  intro isOld
  obtain ⟨page, frame, offset, isAddress, within, _, isDrawn, isAt⟩ :=
    placed_of_pagesGiven isLength isPage below given inside
  have untouched :
      ¬ InRange first (first + length) (oldAddr + UInt64.ofNat other) :=
    fun isInside => apart _ isInside ⟨other, oldInside, rfl⟩
  have same := given.changes.elsewhere _ untouched
  -- an old address that is mapped now was mapped before, to the same byte
  cases found :
      translate start.memory start.cr3 (oldAddr + UInt64.ofNat other) with
  | none =>
      rw [found] at same
      have missing :
          ¬ Mapped machine.memory machine.cr3
            (oldAddr + UInt64.ofNat other) := by
        rw [Mapped, same]
        exact Bool.false_ne_true
      have nothing := lookup_of_not_mapped missing
      unfold AddressSpace.target AddressSpace.lookup at isOld
      rw [nothing] at isOld
      cases isOld
  | some mapping =>
      obtain ⟨notHuge, _, taken⟩ := program other oldInside mapping found
      rw [found] at same
      rw [target_of_translate same notHuge] at isOld
      rw [isAddress, target_of_pageAt isAt within, ← isOld,
        Option.some_inj] at isTarget
      apply taken
      rw [← isTarget, pageOf_frame_add isAt.isFrame within]
      exact isDrawn.pending

theorem movesApart_of_pagesGiven
    {oldAddr oldSize : UInt64}
    (program : ProgramPages allocate start oldAddr oldSize)
    (apart :
      ∀ other,
        InRange first (first + length) other →
        ¬ InPages oldAddr oldSize other)
    {len : Nat}
    (fitsNew : len ≤ length.toNat)
    (fitsOld : len ≤ oldSize.toNat) :
    MovesApart machine oldAddr first len := by
  constructor
  · have stop := stop_le_of_pagesGiven isLength isPage below given
    omega
  · intro index inside
    obtain ⟨page, frame, offset, isAddress, within, _, _, isAt⟩ :=
      placed_of_pagesGiven isLength isPage below given
        (Nat.lt_of_lt_of_le inside fitsNew)
    rw [isAddress]
    exact Option.isSome_iff_exists.mpr ⟨_, isAt.found offset within⟩
  · intro index inside physical isTarget
    obtain ⟨page, frame, offset, isAddress, within, _, _, isAt⟩ :=
      placed_of_pagesGiven isLength isPage below given
        (Nat.lt_of_lt_of_le inside fitsNew)
    rw [isAddress, target_of_pageAt isAt within] at isTarget
    cases isTarget
    rw [pageOf_frame_add isAt.isFrame within]
    exact isAt.noTable
  · intro index inside other otherInside same
    exact
      injective_of_pagesGiven isLength isPage below given
        (Nat.lt_of_lt_of_le inside fitsNew)
        (Nat.lt_of_lt_of_le otherInside fitsNew) same
  · intro index inside other otherInside physical isTarget isOld
    exact
      apart_of_pagesGiven isLength isPage below given program apart
        (Nat.lt_of_lt_of_le inside fitsNew)
        (Nat.lt_of_lt_of_le otherInside fitsOld) isTarget isOld

end

end NewPages

/-! ## The call -/

/-- What is mapped of a range is still there. -/
def StillThere
    (start final : Machine κ)
    (oldAddr oldSize : UInt64) : Prop :=
  ∀ index < oldSize.toNat,
    Mapped start.memory start.cr3 (oldAddr + UInt64.ofNat index) →
    translate final.memory final.cr3 (oldAddr + UInt64.ofNat index) =
        translate start.memory start.cr3 (oldAddr + UInt64.ofNat index) ∧
      loadedByte final (oldAddr + UInt64.ofNat index) =
        loadedByte start (oldAddr + UInt64.ofNat index)

/-- A range lies at an address with the contents of the old one. -/
structure Moved
    (start final : Machine κ)
    (oldAddr oldSize newSize address : UInt64) : Prop where
  mapped :
    ∀ index < newSize.toNat,
      Mapped final.memory final.cr3 (address + UInt64.ofNat index)
  contents :
    ∀ index < min oldSize.toNat newSize.toNat,
      loadedByte final (address + UInt64.ofNat index) =
        loadedByte start (oldAddr + UInt64.ofNat index)
  elsewhere :
    ∀ other,
      ¬ InPages oldAddr oldSize other →
      ¬ InPages address newSize other →
      translate final.memory final.cr3 other =
        translate start.memory start.cr3 other

/-- A call answers with a value, on either exit. -/
def Answers
    (outcome : Outcome (Space κ) UInt64 UInt64)
    (answer : UInt64)
    (final : Space κ) : Prop :=
  outcome = .ok answer final ∨ outcome = .err answer final

/-- `mremap` moves the contents or fails with an errno and keeps them. -/
def PreservesContents
    (allocate : Allocate κ)
    (backings : Backings)
    (oldAddr oldSize newSize flags newAddress : UInt64)
    (space : Space κ) : Prop :=
  ∀ answer final,
    Answers
      (mremap allocate backings oldAddr oldSize newSize flags newAddress space)
      answer final →
    (IsErrno answer →
        StillThere space.machine final.machine oldAddr oldSize) ∧
      (¬ IsErrno answer →
        Moved space.machine final.machine oldAddr oldSize newSize answer)

/-- The address that `mremap` asks for. -/
def askedAddress (flags newAddress : UInt64) : UInt64 :=
  if flags &&& mremapFixed ≠ 0 then newAddress else 0

/-- Wherever a new range can come to lie, it shares no page with the old one. -/
def LandsApart
    (space : Space κ)
    (oldAddr oldSize newSize address : UInt64) : Prop :=
  ∀ first,
    Lands space address (roundUp newSize) first →
    ∀ other,
      InRange first (first + roundUp newSize) other →
      ¬ InPages oldAddr oldSize other

/-- A range that is returned as it is must be mapped. -/
def StaysMapped
    (machine : Machine κ)
    (oldAddr newSize : UInt64) : Prop :=
  IsErrno oldAddr ∨
    ∀ index < newSize.toNat,
      Mapped machine.memory machine.cr3 (oldAddr + UInt64.ofNat index)

/-- `mremap` returns the old range without a move. -/
abbrev ReturnsOld (oldSize newSize flags : UInt64) : Prop :=
  newSize ≤ oldSize ∧ ¬ flags &&& mremapFixed ≠ 0

theorem toNat_roundUp_of_isLength
    {size : UInt64}
    (isLength : IsLength (roundUp size)) :
    (roundUp size).toNat = (size.toNat + 4095) / 4096 * 4096 := by
  have positive := isLength.positive
  have bound := size.toNat_lt
  have low : (pageSize - 1).toNat = 4095 := rfl
  have rounded : (roundUp size).toNat = _ := toNat_pageOf (size + (pageSize - 1))
  rw [UInt64.toNat_add, low] at rounded
  omega

section Runs

variable
  {flags : PageFlags}
  {bytes : UInt64 → Nat → UInt8}
  {oldAddr oldSize newSize first : UInt64}

theorem stillThere_of_changes
    (program : ProgramPages allocate start oldAddr oldSize)
    (apart :
      ∀ other,
        InRange first (first + roundUp newSize) other →
        ¬ InPages oldAddr oldSize other)
    (changes :
      Changes allocate (InRange first (first + roundUp newSize)) start
        machine) :
    StillThere start machine oldAddr oldSize := by
  intro index inside mapped
  obtain ⟨mapping, found⟩ := Option.isSome_iff_exists.mp mapped
  obtain ⟨notHuge, noTable, taken⟩ := program index inside mapping found
  exact
    kept_of_changes changes found notHuge noTable taken fun isInside =>
      apart _ isInside ⟨index, inside, rfl⟩

theorem stillThere_of_movedTo
    {len copied : Nat}
    (apart :
      ∀ index < len,
        ∀ other < oldSize.toNat,
          ∀ physical,
            (addressSpace machine).target (first + UInt64.ofNat index) =
              some physical →
            (addressSpace machine).target (oldAddr + UInt64.ofNat other) ≠
              some physical)
    (still : StillThere start machine oldAddr oldSize)
    (moved : MovedTo machine oldAddr first len copied final) :
    StillThere start final oldAddr oldSize := by
  intro index inside mapped
  obtain ⟨same, sameByte⟩ := still index inside mapped
  constructor
  · rw [moved.cr3, moved.tables.translate, same]
  · rw [moved.loadedByte_of_apart, sameByte]
    exact fun other below physical => apart other below index inside physical

theorem moved_of_cleared
    {len : Nat}
    {last : Machine κ}
    (isLen : len = min oldSize.toNat newSize.toNat)
    (isLength : IsLength (roundUp newSize))
    (isPage : IsPage first)
    (below : first < userLimit)
    (given :
      PagesGiven allocate flags bytes first start (first + roundUp newSize)
        machine)
    (program : ProgramPages allocate start oldAddr oldSize)
    (apart :
      ∀ other,
        InRange first (first + roundUp newSize) other →
        ¬ InPages oldAddr oldSize other)
    (moved : MovedTo machine oldAddr first len len final)
    (loads :
      ∀ index < len,
        (addressSpace machine).Loads (oldAddr + UInt64.ofNat index))
    (cleared : Changes allocate (InPages oldAddr oldSize) final last) :
    Moved start last oldAddr oldSize newSize first := by
  have limit : userLimit.toNat = 2 ^ 47 := rfl
  have lengthBelow := isLength.below
  have firstBelow := UInt64.lt_iff_toNat_lt.mp below
  have rounded := toNat_roundUp_of_isLength isLength
  obtain ⟨stop, _, _⟩ := toNat_rangeStop isLength isPage below
  have untouched :
      ∀ index < newSize.toNat,
        ¬ InPages oldAddr oldSize (first + UInt64.ofNat index) := by
    intro index inside
    apply apart
    have address := @toNat_add_ofNat first index (by omega)
    unfold InRange
    rw [UInt64.le_iff_toNat_le, UInt64.lt_iff_toNat_lt]
    omega
  have sameSupply : final.supply = machine.supply := by
    rw [moved.same]
  have placed :
      ∀ index < newSize.toNat,
        ∃ mapping,
          translate final.memory final.cr3 (first + UInt64.ofNat index) =
              some mapping ∧
            mapping.pageSize ≠ hugePageSize ∧
            ¬ TableFrame final.memory final.cr3
              (pageOf mapping.physicalAddress) ∧
            ¬ Pending allocate final.supply
              (pageOf mapping.physicalAddress) := by
    intro index inside
    obtain ⟨page, frame, offset, isAddress, within, _, _, isAt⟩ :=
      @placed_of_pagesGiven κ allocate start machine flags bytes
        (roundUp newSize) first isLength isPage below given index (by omega)
    have found := isAt.found offset within
    rw [← isAddress, ← moved.tables.translate, ← moved.cr3] at found
    refine ⟨_, found, ?_, ?_, ?_⟩
    · intro isHuge
      have same : pageSize = hugePageSize := isHuge
      exact absurd same (by decide)
    · rw [moved.cr3, moved.tables.tableFrame,
        pageOf_frame_add isAt.isFrame within]
      exact isAt.noTable
    · rw [sameSupply, pageOf_frame_add isAt.isFrame within]
      exact isAt.taken
  constructor
  · intro index inside
    obtain ⟨mapping, found, _⟩ := placed index inside
    rw [Mapped, cleared.elsewhere _ (untouched index inside), found]
    rfl
  · intro index inside
    obtain ⟨mapping, found, notHuge, noTable, taken⟩ := placed index (by omega)
    have kept :=
      (kept_of_changes cleared found notHuge noTable taken
        (untouched index (by omega))).2
    rw [kept, moved.moved index (by omega)]
    have oldInside : index < oldSize.toNat := by omega
    have oldUntouched :
        ¬ InRange first (first + roundUp newSize)
          (oldAddr + UInt64.ofNat index) :=
      fun isInside => apart _ isInside ⟨index, oldInside, rfl⟩
    have mapped := loads index (by omega)
    unfold AddressSpace.Loads Mapped at mapped
    rw [given.changes.elsewhere _ oldUntouched] at mapped
    exact
      (stillThere_of_changes program apart given.changes index oldInside
        mapped).2
  · intro other notOld notNew
    rw [cleared.elsewhere _ notOld, moved.cr3, moved.tables.translate]
    apply given.changes.elsewhere
    intro isInside
    exact notNew (inPages_of_inRange isPage rounded (by omega) isInside)

theorem preserves_of_landsApart
    {backings : Backings}
    {mremapFlags newAddress : UInt64}
    {space : Space κ}
    (ready : Ready allocate space.machine)
    (someOld : oldSize ≠ 0)
    (someNew : newSize ≠ 0)
    (moves : ¬ ReturnsOld oldSize newSize mremapFlags)
    (program : ProgramPages allocate space.machine oldAddr oldSize)
    (landsApart :
      LandsApart space oldAddr oldSize newSize
        (askedAddress mremapFlags newAddress)) :
    PreservesContents allocate backings oldAddr oldSize newSize mremapFlags
      newAddress space := by
  have isEnomem : IsErrno (negErrno enomem) := by decide
  have isFault : IsErrno (negErrno efault) := by decide
  have limit : userLimit.toNat = 2 ^ 47 := rfl
  intro answer last answers
  have sizes : ¬ (oldSize = 0 ∨ newSize = 0) := by
    rintro (isZero | isZero)
    · exact someOld isZero
    · exact someNew isZero
  have still :
      ∀ code : UInt64,
        IsErrno code →
        StillThere space.machine last.machine oldAddr oldSize →
        (IsErrno code →
            StillThere space.machine last.machine oldAddr oldSize) ∧
          (¬ IsErrno code →
            Moved space.machine last.machine oldAddr oldSize newSize code) :=
    fun code isErrno same =>
      ⟨fun _ => same, fun notErrno => absurd isErrno notErrno⟩
  unfold mremap at answers
  rw [if_neg sizes, if_neg moves] at answers
  by_cases mayMove : mremapFlags &&& mremapMaymove = 0
  · rw [if_pos mayMove] at answers
    rcases answers with returned | failed
    · cases returned
    · cases failed
      exact still _ isEnomem fun _ _ _ => ⟨rfl, rfl⟩
  rw [if_neg mayMove] at answers
  rcases mapMemory_lands ready backings (askedAddress mremapFlags newAddress)
      newSize (protRead ||| protWrite) (-1) 0 with
    ⟨code, middle, failed, isErrno, unchanged⟩ |
      ⟨first, middle, bytes, mapped, isLength, isPage, below, lands, given⟩
  · have attempted := @Prog.attempt_of_err _ _ _ UInt64 _ _ _ _ failed
    have high : userLimit ≤ code := by
      rw [UInt64.le_iff_toNat_le]
      have isHigh : 2 ^ 64 - 4095 ≤ code.toNat := isErrno
      omega
    have run :
        answer = code ∧ last = middle := by
      unfold askedAddress anonymousFlags at attempted
      rw [Prog.bind_of_ok attempted, returnValue, if_pos high] at answers
      rcases answers with returned | failed
      · cases returned
        exact ⟨rfl, rfl⟩
      · cases failed
    obtain ⟨rfl, rfl⟩ := run
    apply still _ isErrno
    rcases unchanged with same | ⟨first, lands, changes⟩
    · rw [same]
      exact fun _ _ _ => ⟨rfl, rfl⟩
    · exact stillThere_of_changes program (landsApart first lands) changes
  · have apart := landsApart first lands
    have attempted := @Prog.attempt_of_ok _ _ _ UInt64 _ _ _ _ mapped
    have firstBelow := UInt64.lt_iff_toNat_lt.mp below
    have rounded := toNat_roundUp_of_isLength isLength
    have isLen :
        (min oldSize newSize).toNat = min oldSize.toNat newSize.toNat := by
      by_cases ordered : oldSize ≤ newSize
      · have isOld : min oldSize newSize = oldSize := if_pos ordered
        rw [isOld, Nat.min_eq_left (UInt64.le_iff_toNat_le.mp ordered)]
      · have isNew : min oldSize newSize = newSize := if_neg ordered
        rw [UInt64.not_le, UInt64.lt_iff_toNat_lt] at ordered
        rw [isNew, Nat.min_eq_right (Nat.le_of_lt ordered)]
    unfold askedAddress anonymousFlags at attempted
    rw [Prog.bind_of_ok attempted, returnValue,
      if_neg (UInt64.not_le.mpr below)] at answers
    generalize (min oldSize newSize).toNat = len at isLen answers
    have movesApart :=
      movesApart_of_pagesGiven isLength isPage below given program apart
        (by omega : len ≤ (roundUp newSize).toNat)
        (by omega : len ≤ oldSize.toNat)
    have stillMapped :=
      stillThere_of_changes program apart given.changes
    have behind :
        ∀ index < len,
          ∀ other < oldSize.toNat,
            ∀ physical,
              (addressSpace middle.machine).target
                    (first + UInt64.ofNat index) =
                  some physical →
              (addressSpace middle.machine).target
                  (oldAddr + UInt64.ofNat other) ≠
                some physical :=
      fun index inside other oldInside physical =>
        apart_of_pagesGiven isLength isPage below given program apart
          (by omega) oldInside
    obtain ⟨onReturn, onError⟩ :=
      @moveBytes_spec κ middle.machine middle.machine oldAddr first len 0
        (len + 1) movesApart (Nat.zero_le _) (MovedTo.refl _ _ _ _)
    cases result :
        moveBytes oldAddr first len (len + 1) 0 middle.machine with
    | ok value copied =>
        obtain ⟨moved, loads⟩ := onReturn copied result
        have copiedReady : Ready allocate copied := by
          rw [moved.same]
          exact given.changes.ready.beside moved.tables
        have arrives :
            ∀ cleared,
              (unmapMemory oldAddr oldSize
                  { middle with machine := copied }).final? =
                some cleared →
              (IsErrno first →
                  StillThere space.machine cleared.machine oldAddr oldSize) ∧
                (¬ IsErrno first →
                  Moved space.machine cleared.machine oldAddr oldSize newSize
                    first) := by
          intro cleared ended
          have isMoved :=
            moved_of_cleared isLen isLength isPage below given program apart
              moved (fun index inside => loads index inside (Nat.zero_le _))
              (changes_of_unmapMemory copiedReady ended)
          refine ⟨fun isErrno => ?_, fun _ => isMoved⟩
          have isHigh : 2 ^ 64 - 4095 ≤ first.toNat := isErrno
          omega
        rw [Prog.bind_of_ok (onMachine_of_ok result)] at answers
        cases unmapped :
            unmapMemory oldAddr oldSize { middle with machine := copied } with
        | ok freed cleared =>
            rw [Prog.bind_of_ok (Prog.attempt_of_ok unmapped)] at answers
            rcases answers with returned | failed
            · cases returned
              apply arrives
              rw [unmapped]
              rfl
            · cases failed
        | err code cleared =>
            rw [Prog.bind_of_ok (Prog.attempt_of_err unmapped)] at answers
            rcases answers with returned | failed
            · cases returned
              apply arrives
              rw [unmapped]
              rfl
            · cases failed
        | hang =>
            rw [Prog.bind_of_hang (Prog.attempt_of_hang unmapped)] at answers
            rcases answers with returned | failed
            · cases returned
            · cases failed
    | err code copied =>
        obtain ⟨rfl, reached, moved⟩ := onError code copied result
        rw [Prog.bind_of_err (onMachine_of_err result)] at answers
        rcases answers with returned | failed
        · cases returned
        · cases failed
          exact still _ isFault (stillThere_of_movedTo behind stillMapped moved)
    | hang =>
        have stuck :
            onMachine (moveBytes oldAddr first len (len + 1) 0) middle =
              .hang := by
          unfold onMachine Prog.onPart
          rw [result]
        rw [Prog.bind_of_hang stuck] at answers
        rcases answers with returned | failed
        · cases returned
        · cases failed

end Runs

/-- The calls that keep the contents of their range. -/
def Keepable
    (allocate : Allocate κ)
    (space : Space κ)
    (oldAddr oldSize newSize flags newAddress : UInt64) : Prop :=
  oldSize = 0 ∨ newSize = 0 ∨
    (ReturnsOld oldSize newSize flags ∧
        StaysMapped space.machine oldAddr newSize) ∨
    ¬ ReturnsOld oldSize newSize flags ∧
      (flags &&& mremapMaymove = 0 ∨
        ProgramPages allocate space.machine oldAddr oldSize ∧
          LandsApart space oldAddr oldSize newSize
            (askedAddress flags newAddress))

theorem preserves_returned_iff
    {backings : Backings}
    {oldAddr oldSize newSize flags newAddress : UInt64}
    {space : Space κ}
    (someOld : oldSize ≠ 0)
    (someNew : newSize ≠ 0)
    (returnsOld : ReturnsOld oldSize newSize flags) :
    PreservesContents allocate backings oldAddr oldSize newSize flags newAddress
        space ↔
      StaysMapped space.machine oldAddr newSize := by
  have sizes : ¬ (oldSize = 0 ∨ newSize = 0) := by
    rintro (isZero | isZero)
    · exact someOld isZero
    · exact someNew isZero
  have run :
      mremap allocate backings oldAddr oldSize newSize flags newAddress space =
        .ok oldAddr space := by
    unfold mremap
    rw [if_neg sizes, if_pos returnsOld]
    rfl
  constructor
  · intro preserves
    by_cases isErrno : IsErrno oldAddr
    · exact .inl isErrno
    · exact .inr ((preserves oldAddr space (.inl run)).2 isErrno).mapped
  · intro stays answer last answers
    rw [Answers, run] at answers
    rcases answers with returned | failed
    · cases returned
      refine ⟨fun _ _ _ _ => ⟨rfl, rfl⟩, fun notErrno => ?_⟩
      exact
        ⟨stays.resolve_left notErrno, fun _ _ => rfl, fun _ _ _ => rfl⟩
    · cases failed

end VibuxOS.UserSpace
