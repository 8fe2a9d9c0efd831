import VibuxOS.UserSpace.PageLoops

namespace VibuxOS.UserSpace

open VibuxOS.Lib VibuxOS.Paging

/-!
# What `munmap` unmaps

`unmap_memory` clears the pages of a range from the first one on, and leaves at
the first page that is not mapped.  So it clears the mapped pages of the range
if no hole comes before them.
-/

variable {κ : Type} {start machine : Machine κ}

/-- The pages of a range are cleared up to some page, and all else is as it was. -/
structure ClearedTo
    (start : Machine κ)
    (first reached : UInt64)
    (machine : Machine κ) : Prop where
  tree : Tree machine.memory machine.cr3
  were :
    ∀ address,
      InRange first reached address →
      Mapped start.memory start.cr3 address
  gone :
    ∀ address,
      InRange first reached address →
      translate machine.memory machine.cr3 address = none
  elsewhere :
    ∀ address,
      ¬ InRange first reached address →
      translate machine.memory machine.cr3 address =
        translate start.memory start.cr3 address

namespace ClearedTo

variable {first page : UInt64}

theorem refl (tree : Tree start.memory start.cr3) (first : UInt64) :
    ClearedTo start first first start where
  tree := tree
  were _ inside := absurd inside (not_inRange_self _ _)
  gone _ inside := absurd inside (not_inRange_self _ _)
  elsewhere _ _ := rfl

theorem next
    {stop : UInt64}
    (cleared : ClearedTo start first page machine)
    (firstBefore : first ≤ page)
    (isPage : IsPage page)
    (stopIsPage : IsPage stop)
    (inside : page < stop)
    (inRange : canonical page = true)
    (isSmall : MappedSmall machine.memory machine.cr3 page) :
    ClearedTo start first (page + pageSize)
      (machine.setEntry (leafSlot machine.memory machine.cr3 page) 0) := by
  have tree := cleared.tree
  have visited := mem_path_of_small inRange isSmall
  have notYet : ¬ InRange first page page :=
    fun isBefore => UInt64.lt_irrefl _ isBefore.2
  have steps :=
    fun address =>
      @inRange_nextPage first stop page address firstBefore isPage stopIsPage
        inside
  constructor
  · exact tree.of_same_paths (path_leaf tree visited 0)
  · intro address isInside
    rcases (steps address).mp isInside with isBefore | same
    · exact cleared.were address isBefore
    · rw [same.mapped, Mapped, ← cleared.elsewhere page notYet]
      obtain ⟨mapping, found, _⟩ := isSmall
      rw [found]
      rfl
  · intro address isInside
    by_cases same : SamePage address page
    · exact translate_of_cleared tree inRange visited same
    · have isBefore := ((steps address).mp isInside).resolve_right same
      rw [Machine.memory_setEntry, Machine.cr3_setEntry,
        (translate_leaf_of_other tree visited inRange 0 same).1]
      exact cleared.gone address isBefore
  · intro address isOutside
    rw [steps address, not_or] at isOutside
    rw [Machine.memory_setEntry, Machine.cr3_setEntry,
      (translate_leaf_of_other tree visited inRange 0 isOutside.2).1]
    exact cleared.elsewhere address isOutside.1

end ClearedTo

/-- The mapped pages of a range are mapped by user pages of 4 KiB or not at all. -/
def SmallPages (machine : Machine κ) (first stop : UInt64) : Prop :=
  ∀ address,
    InRange first stop address →
    Mapped machine.memory machine.cr3 address →
    MappedSmall machine.memory machine.cr3 address

/-- The loop left at a page that was not mapped. -/
def StoppedAtHole
    (start : Machine κ)
    (first stop : UInt64)
    (machine : Machine κ) : Prop :=
  ∃ hole,
    InRange first stop hole ∧
      ¬ Mapped start.memory start.cr3 hole ∧
      ClearedTo start first hole machine

theorem ensures_unmapPage
    {first page stop : UInt64}
    (small : SmallPages start first stop)
    (below : stop ≤ userLimit)
    (stopIsPage : IsPage stop)
    (isPage : IsPage page)
    (isInside : InRange first stop page) :
    Prog.Ensures (ClearedTo start first page) (unmapPage page)
      (fun _ => ClearedTo start first (page + pageSize))
      (StoppedAtHole start first stop) := by
  intro machine cleared
  obtain ⟨firstBefore, inside⟩ := isInside
  have canonicalPage : canonical page = true := by
    rw [canonical_iff]
    have limit : userLimit.toNat = 2 ^ 47 := rfl
    rw [UInt64.le_iff_toNat_le, limit] at below
    rw [UInt64.lt_iff_toNat_lt] at inside
    omega
  have notYet : ¬ InRange first page page :=
    fun isBefore => UInt64.lt_irrefl _ isBefore.2
  unfold unmapPage
  rcases unmap4k_cases machine page with
    ⟨inRange, isSmall, frame, unmapped⟩ | ⟨⟨error, refused⟩, notSmall⟩
  · rw [Prog.bind_of_ok (Prog.mapError_eq_ok.mpr unmapped)]
    constructor
    · intro value final returned
      cases returned
      exact
        cleared.next firstBefore isPage stopIsPage inside inRange isSmall
    · intro code final failed
      cases failed
  · rw [Prog.bind_of_err (Prog.mapError_eq_err.mpr ⟨error, refused, rfl⟩)]
    constructor
    · intro value final returned
      cases returned
    · intro code final failed
      cases failed
      refine ⟨page, ⟨firstBefore, inside⟩, ?_, cleared⟩
      intro mapped
      obtain ⟨mapping, found, isSmall⟩ :=
        small page ⟨firstBefore, inside⟩ mapped
      rw [← cleared.elsewhere page notYet] at found
      exact notSmall canonicalPage isPage ⟨mapping, found, isSmall⟩

/-! ## The call -/

def rangeEnd (address length : UInt64) : UInt64 :=
  address + roundUp length

theorem rangeEnd_spec
    {address length : UInt64}
    (isPage : IsPage address)
    (below : address.toNat + length.toNat ≤ userLimit.toNat) :
    (checkedAdd length (pageSize - 1)).map pageOf = some (roundUp length) ∧
      IsPage (roundUp length) ∧
      address ≤ rangeEnd address length ∧
      rangeEnd address length ≤ userLimit := by
  have limit : userLimit.toNat = 2 ^ 47 := rfl
  have size : (pageSize - 1).toNat = 4095 := rfl
  have sum : (length + (pageSize - 1)).toNat = length.toNat + 4095 := by
    rw [UInt64.toNat_add, size]
    omega
  have isRounded :
      (checkedAdd length (pageSize - 1)).map pageOf = some (roundUp length) := by
    unfold checkedAdd
    rw [if_pos ((le_add_iff _ _).mpr (by rw [size]; omega))]
    rfl
  have rounded := toNat_rounded isRounded
  have stop :
      (rangeEnd address length).toNat =
        address.toNat + (roundUp length).toNat := by
    rw [rangeEnd, UInt64.toNat_add]
    omega
  unfold IsPage at isPage ⊢
  rw [UInt64.le_iff_toNat_le, UInt64.le_iff_toNat_le]
  refine ⟨isRounded, ?_, ?_, ?_⟩ <;> omega

theorem ends_unmapPage (page : UInt64) :
    Prog.Ends (unmapPage page : Kernel κ UInt64 Unit) :=
  .bind (.mapError _ (ends_unmap4k page)) fun _ => .pure _

theorem unmapMemory_spec
    {space : Space κ}
    {address length : UInt64}
    (tree : Tree space.machine.memory space.machine.cr3)
    (isPage : IsPage address)
    (below : address.toNat + length.toNat ≤ userLimit.toNat)
    (small :
      SmallPages space.machine address (rangeEnd address length)) :
    ∃ machine,
      (unmapMemory address length space).final? =
          some { space with machine := machine } ∧
        (ClearedTo space.machine address (rangeEnd address length) machine ∨
          StoppedAtHole space.machine address (rangeEnd address length)
            machine) := by
  obtain ⟨isRounded, roundedIsPage, notEmpty, belowLimit⟩ :=
    rangeEnd_spec isPage below
  have stopIsPage := (isPage_stop isPage roundedIsPage).1
  have ends :=
    @ends_range κ UInt64 unmapPage address (roundUp length) ends_unmapPage
      isPage roundedIsPage space.machine
  have ensures :=
    @ensures_forPages κ UInt64 unmapPage (address + roundUp length)
      (ClearedTo space.machine address)
      (StoppedAtHole space.machine address (address + roundUp length))
      address stopIsPage
      (fun _ isPage inside =>
        ensures_unmapPage small belowLimit stopIsPage isPage inside)
      (turns (roundUp length)) isPage notEmpty
  unfold unmapMemory
  rw [final_overPages isPage isRounded]
  obtain ⟨onReturn, onError⟩ :=
    ensures space.machine (ClearedTo.refl tree address)
  cases result :
      forPages unmapPage (address + roundUp length) (turns (roundUp length))
        address space.machine with
  | ok value final =>
      exact ⟨final, rfl, .inl (onReturn _ _ result)⟩
  | err error final =>
      exact ⟨final, rfl, .inr (onError _ _ result)⟩
  | hang =>
      exact (ends result).elim

theorem first_not_small
    {first stop : UInt64}
    (inside : first < stop)
    (cleared :
      ClearedTo start first stop machine ∨
        StoppedAtHole start first stop machine) :
    ¬ MappedSmall machine.memory machine.cr3 first := by
  rintro ⟨mapping, found, _⟩
  rcases cleared with cleared | ⟨hole, isInside, notMapped, cleared⟩
  · rw [cleared.gone first ⟨UInt64.le_refl _, inside⟩] at found
    cases found
  · by_cases isHole : first < hole
    · rw [cleared.gone first ⟨UInt64.le_refl _, isHole⟩] at found
      cases found
    · have same : first = hole :=
        UInt64.le_antisymm isInside.1 (UInt64.not_lt.mp isHole)
      subst same
      rw [cleared.elsewhere first fun isBefore => isHole isBefore.2] at found
      exact notMapped (Option.isSome_iff_exists.mpr ⟨mapping, found⟩)

theorem unmapMemory_of_hole
    {space : Space κ}
    {address length : UInt64}
    (isPage : IsPage address)
    (below : address.toNat + length.toNat ≤ userLimit.toNat)
    (hole :
      address < rangeEnd address length →
      ¬ MappedSmall space.machine.memory space.machine.cr3 address) :
    (unmapMemory address length space).final? = some space := by
  obtain ⟨isRounded, _, notEmpty, _⟩ := rangeEnd_spec isPage below
  unfold unmapMemory
  rw [final_overPages isPage isRounded, turns, forPages]
  by_cases inside : address < address + roundUp length
  · rw [if_pos inside]
    rcases unmap4k_cases space.machine address with
      ⟨_, isSmall, _⟩ | ⟨⟨error, refused⟩, _⟩
    · exact absurd isSmall (hole inside)
    · have failed :
          (unmapPage address : Kernel κ UInt64 Unit) space.machine =
            .err (negErrno einval) space.machine :=
        Prog.bind_of_err (Prog.mapError_eq_err.mpr ⟨error, refused, rfl⟩)
      rw [Prog.bind_of_err failed]
      rfl
  · rw [if_neg inside]
    rfl

/-- No mapped page of a range comes after one that is not mapped. -/
def NoHole (machine : Machine κ) (first stop : UInt64) : Prop :=
  ∀ early late,
    InRange first stop early →
    InRange first stop late →
    early ≤ late →
    Mapped machine.memory machine.cr3 late →
    Mapped machine.memory machine.cr3 early

/--
The call clears the pages of its range and no other one, and the same call after
it changes nothing.
-/
def UnmapsRange (address length : UInt64) (space : Space κ) : Prop :=
  ∃ final,
    (unmapMemory address length space).final? = some final ∧
      (∀ other,
        InRange address (rangeEnd address length) other →
        ¬ Mapped final.machine.memory final.machine.cr3 other) ∧
      (∀ other,
        ¬ InRange address (rangeEnd address length) other →
        translate final.machine.memory final.machine.cr3 other =
          translate space.machine.memory space.machine.cr3 other) ∧
      (unmapMemory address length final).final? = some final

/-- `munmap` is complete exactly if there is no hole before a mapped page. -/
theorem unmaps_range_iff
    {space : Space κ}
    {address length : UInt64}
    (tree : Tree space.machine.memory space.machine.cr3)
    (isPage : IsPage address)
    (below : address.toNat + length.toNat ≤ userLimit.toNat)
    (small :
      SmallPages space.machine address (rangeEnd address length)) :
    UnmapsRange address length space ↔
      NoHole space.machine address (rangeEnd address length) := by
  obtain ⟨machine, ended, cleared⟩ :=
    unmapMemory_spec tree isPage below small
  constructor
  · rintro ⟨final, endedThere, complete, _, _⟩
    rw [ended] at endedThere
    cases endedThere
    intro early late earlyInside lateInside inOrder mapped
    rcases cleared with cleared | ⟨hole, _, _, cleared⟩
    · exact cleared.were early earlyInside
    · by_cases isBefore : late < hole
      · exact
          cleared.were early
            ⟨earlyInside.1, UInt64.lt_of_le_of_lt inOrder isBefore⟩
      · have unmapped := complete late lateInside
        dsimp only at unmapped
        rw [Mapped, cleared.elsewhere late fun inside => isBefore inside.2]
          at unmapped
        exact absurd mapped unmapped
  · intro noHole
    refine ⟨_, ended, ?_, ?_, ?_⟩
    · intro other inside mapped
      rcases cleared with cleared | ⟨hole, isInside, notMapped, cleared⟩
      · dsimp only at mapped
        rw [Mapped, cleared.gone other inside] at mapped
        cases mapped
      · dsimp only at mapped
        by_cases isBefore : other < hole
        · rw [Mapped, cleared.gone other ⟨inside.1, isBefore⟩] at mapped
          cases mapped
        · rw [Mapped, cleared.elsewhere other fun early => isBefore early.2]
            at mapped
          exact
            notMapped
              (noHole hole other isInside inside (UInt64.not_lt.mp isBefore)
                mapped)
    · intro other outside
      rcases cleared with cleared | ⟨hole, isInside, _, cleared⟩
      · exact cleared.elsewhere other outside
      · apply cleared.elsewhere other
        rintro ⟨after, isBefore⟩
        exact outside ⟨after, UInt64.lt_trans isBefore isInside.2⟩
    · exact
        unmapMemory_of_hole isPage below
          fun inside => first_not_small inside cleared

theorem mapped_onlyPage
    {allocate : Allocate FrameAllocator}
    {flags : PageFlags}
    {page : UInt64}
    {bytes : Nat → UInt8}
    {machine : Machine FrameAllocator}
    (isPage : IsPage page)
    (made : NewPage allocate page flags bytes emptyTables machine)
    (address : UInt64) :
    (Mapped machine.memory machine.cr3 address ↔ SamePage address page) ∧
      (Mapped machine.memory machine.cr3 address →
        MappedSmall machine.memory machine.cr3 address) := by
  by_cases same : SamePage address page
  · obtain ⟨frame, _, isAt⟩ := made.here
    obtain ⟨mapping, found, isSmall, _⟩ := finds_of_pageAt isPage isAt same
    have mapped : Mapped machine.memory machine.cr3 address :=
      Option.isSome_iff_exists.mpr ⟨mapping, found⟩
    exact ⟨iff_of_true mapped same, fun _ => ⟨mapping, found, isSmall⟩⟩
  · have unmapped : ¬ Mapped machine.memory machine.cr3 address := by
      rw [Mapped, made.changes.elsewhere address same, translate_emptyTables]
      exact Bool.false_ne_true
    exact ⟨iff_of_false unmapped same, fun mapped => absurd mapped unmapped⟩

/-- The only page of a program is unmapped. -/
theorem unmaps_only_page :
    ∃ machine,
      Mapped machine.memory machine.cr3 0x11000 ∧
        UnmapsRange 0x11000 0x1000
          (⟨machine, mmapBase, heapBase⟩ : Space FrameAllocator) := by
  obtain ⟨machine, made⟩ := exists_onlyPage
  have mapped := fun address => mapped_onlyPage (by decide) made address
  refine ⟨machine, (mapped 0x11000).1.mpr rfl, ?_⟩
  apply
    (@unmaps_range_iff _ ⟨machine, mmapBase, heapBase⟩ 0x11000 0x1000
      made.changes.ready.tables.tree (by decide) (by decide)
      fun address _ => (mapped address).2).mpr
  intro early late earlyInside lateInside _ lateMapped
  rw [(mapped _).1] at lateMapped ⊢
  have stop : rangeEnd 0x11000 0x1000 = 0x12000 := by decide
  obtain ⟨after, before⟩ := earlyInside
  rw [stop] at before
  have first : (0x11000 : UInt64).toNat = 69632 := rfl
  have last : (0x12000 : UInt64).toNat = 73728 := rfl
  rw [UInt64.le_iff_toNat_le, first] at after
  rw [UInt64.lt_iff_toNat_lt, last] at before
  unfold SamePage
  rw [first]
  omega

/-- A hole in front of it keeps a page from being unmapped. -/
theorem page_after_hole_stays :
    ∃ machine : Machine FrameAllocator,
      TableWellFormed machine.memory machine.cr3 ∧
        SmallPages machine 0x10000 (rangeEnd 0x10000 0x2000) ∧
        ¬ UnmapsRange 0x10000 0x2000 ⟨machine, mmapBase, heapBase⟩ := by
  obtain ⟨machine, made⟩ := exists_onlyPage
  have mapped := fun address => mapped_onlyPage (by decide) made address
  have small : SmallPages machine 0x10000 (rangeEnd 0x10000 0x2000) :=
    fun address _ => (mapped address).2
  refine ⟨machine, made.changes.ready.tables, small, ?_⟩
  rintro ⟨final, ended, complete, _, _⟩
  have unchanged :=
    @unmapMemory_of_hole _ ⟨machine, mmapBase, heapBase⟩ 0x10000 0x2000
      (by decide) (by decide) fun _ isSmall => by
        obtain ⟨mapping, found, _⟩ := isSmall
        have isMapped : Mapped machine.memory machine.cr3 0x10000 :=
          Option.isSome_iff_exists.mpr ⟨mapping, found⟩
        have same : (16 : Nat) = 17 := (mapped _).1.mp isMapped
        cases same
  rw [unchanged] at ended
  cases ended
  have inside : InRange 0x10000 (rangeEnd 0x10000 0x2000) 0x11000 :=
    And.intro (by decide) (by decide)
  exact complete 0x11000 inside ((mapped 0x11000).1.mpr rfl)

end VibuxOS.UserSpace
