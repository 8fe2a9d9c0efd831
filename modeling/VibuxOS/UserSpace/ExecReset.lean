import VibuxOS.UserSpace.PageLoops

namespace VibuxOS.UserSpace

open VibuxOS.Lib VibuxOS.Paging

/-!
# Clearing the address space for `execve`

`reset_process_for_exec` of `arch/x86_64/syscall.rs`, over the tables that are
in force, `next_mmap` and `brk`.  It unmaps ranges page by page and goes on when
`unmap_4k` refuses a page, so what it leaves of a range are large pages.
-/

def saturatingAdd (left right : UInt64) : UInt64 :=
  (checkedAdd left right).getD 0xffffffffffffffff

variable {κ ε : Type}

/-- The loop of `unmap_range` -/
def unmapPages (stop : UInt64) : Nat → UInt64 → Kernel κ ε Unit
  | 0, _ => Prog.hang
  | fuel + 1, page =>
      if page < stop then do
        let _ ← Prog.attempt (unmap4k page)
        match checkedAdd page pageSize with
        | some next => unmapPages stop fuel next
        | none => pure ()
      else
        pure ()

/-- The end of the pages that `unmap_range` visits. -/
def unmapStop (last : UInt64) : UInt64 :=
  pageOf (saturatingAdd last (pageSize - 1))

def unmapRange (first last : UInt64) : Kernel κ ε Unit :=
  -- more turns than the range has pages
  unmapPages (unmapStop last) ((unmapStop last).toNat / 4096 + 1)
    (pageOf first)

/-- A range that is unmapped if it is not empty. -/
def unmapUpTo (base stop : UInt64) : Prog (Space κ) ε Unit :=
  if base < stop then
    onMachine (unmapRange base stop)
  else
    pure ()

def resetProcessForExec
    (mainStart mainEnd rtldStart rtldEnd stackBottom stackTop tlsPage : UInt64) :
    Prog (Space κ) ε Unit := do
  let space ← Prog.gets id
  Prog.modify fun space =>
    { space with nextMmap := mmapBase, brk := heapBase }
  onMachine (unmapRange mainStart mainEnd)
  onMachine (unmapRange rtldStart rtldEnd)
  onMachine (unmapRange stackBottom stackTop)
  onMachine (unmapRange tlsPage (tlsPage + pageSize))
  unmapUpTo mmapBase (min space.nextMmap heapBase)
  unmapUpTo heapBase
    (min (pageOf (saturatingAdd space.brk (pageSize - 1))) stackBottom)

/-! ## What a range loses -/

section Ranges

variable {allocate : Allocate κ} {start machine before after : Machine κ}

/-- No page below the user's limit is larger than 4 KiB. -/
def NoLargePages (machine : Machine κ) : Prop :=
  ∀ address,
    address < userLimit →
    Mapped machine.memory machine.cr3 address →
    MappedSmall machine.memory machine.cr3 address

/-- Addresses find what they found, or nothing. -/
structure Removes
    (allocate : Allocate κ)
    (before after : Machine κ) : Prop where
  ready : Ready allocate after
  found :
    ∀ address,
      translate after.memory after.cr3 address = none ∨
        translate after.memory after.cr3 address =
          translate before.memory before.cr3 address

namespace Removes

theorem refl (ready : Ready allocate machine) :
    Removes allocate machine machine :=
  ⟨ready, fun _ => .inr rfl⟩

theorem trans
    (first : Removes allocate before machine)
    (second : Removes allocate machine after) :
    Removes allocate before after where
  ready := second.ready
  found address := by
    rcases second.found address with gone | same
    · exact .inl gone
    · rw [same]
      exact first.found address

theorem gone
    (removes : Removes allocate before after)
    {address : UInt64}
    (wasGone : translate before.memory before.cr3 address = none) :
    translate after.memory after.cr3 address = none := by
  rcases removes.found address with gone | same
  · exact gone
  · exact same.trans wasGone

theorem noLargePages
    (removes : Removes allocate before after)
    (small : NoLargePages before) :
    NoLargePages after := by
  intro address below mapped
  rcases removes.found address with gone | same
  · rw [Mapped, gone] at mapped
    cases mapped
  · unfold MappedSmall
    rw [same]
    exact small address below (by rwa [Mapped, ← same])

end Removes

/-- The pages of a range find nothing up to some page, if none is large. -/
structure RemovesTo
    (allocate : Allocate κ)
    (start : Machine κ)
    (first reached : UInt64)
    (machine : Machine κ) : Prop where
  removes : Removes allocate start machine
  gone :
    NoLargePages start →
    ∀ address,
      InRange first reached address →
      address < userLimit →
      translate machine.memory machine.cr3 address = none

theorem attempt_unmap4k_spec
    {first page stop : UInt64}
    (stopIsPage : IsPage stop)
    (isPage : IsPage page)
    (inside : InRange first stop page)
    (reached : RemovesTo allocate start first page machine) :
    ∃ value final,
      (Prog.attempt (unmap4k page) : Kernel κ ε _) machine =
          .ok value final ∧
        RemovesTo allocate start first (page + pageSize) final := by
  have removed := reached.removes
  have steps :=
    fun address =>
      @inRange_nextPage first stop page address inside.1 isPage stopIsPage
        inside.2
  rcases unmap4k_spec removed.ready page with
    ⟨frame, final, unmapped, cleared⟩ | ⟨⟨error, refused⟩, notSmall⟩
  · refine ⟨_, final, Prog.attempt_of_ok unmapped, ?_⟩
    have removes : Removes allocate machine final := by
      refine ⟨cleared.changes.ready, fun address => ?_⟩
      by_cases same : SamePage address page
      · exact .inl (cleared.gone address same)
      · exact .inr (cleared.changes.elsewhere address same)
    refine ⟨removed.trans removes, ?_⟩
    intro small address isInside below
    rcases (steps address).mp isInside with isBefore | same
    · exact removes.gone (reached.gone small address isBefore below)
    · exact cleared.gone address same
  · refine ⟨_, machine, Prog.attempt_of_err refused, removed, ?_⟩
    intro small address isInside below
    rcases (steps address).mp isInside with isBefore | same
    · exact reached.gone small address isBefore below
    · have limit : userLimit.toNat = 2 ^ 47 := rfl
      have pageBelow : page < userLimit := by
        rw [UInt64.lt_iff_toNat_lt, limit] at below ⊢
        unfold SamePage at same
        unfold IsPage at isPage
        omega
      have inCanonical : canonical page = true := by
        rw [UInt64.lt_iff_toNat_lt, limit] at pageBelow
        exact (canonical_iff page).mpr (.inl pageBelow)
      have notMapped : ¬ Mapped machine.memory machine.cr3 address := by
        rw [same.mapped]
        intro mapped
        exact
          notSmall inCanonical isPage
            (removed.noLargePages small page pageBelow mapped)
      exact Option.not_isSome_iff_eq_none.mp notMapped

theorem checkedAdd_pageSize
    {page stop : UInt64}
    (isPage : IsPage page)
    (stopIsPage : IsPage stop)
    (inside : page < stop) :
    checkedAdd page pageSize = some (page + pageSize) := by
  obtain ⟨next, _⟩ := toNat_nextPage isPage stopIsPage inside
  have noOverflow : page ≤ page + pageSize := by
    rw [UInt64.le_iff_toNat_le]
    omega
  rw [checkedAdd, if_pos noOverflow]

theorem unmapPages_spec
    {first page stop : UInt64}
    {fuel : Nat}
    (stopIsPage : IsPage stop)
    (isPage : IsPage page)
    (after : first ≤ page)
    (enough : stop.toNat - page.toNat < 4096 * fuel)
    (reached : RemovesTo allocate start first page machine) :
    ∃ final,
      (unmapPages stop fuel page : Kernel κ ε Unit) machine = .ok () final ∧
        RemovesTo allocate start first stop final := by
  induction fuel generalizing page machine with
  | zero =>
      omega
  | succ fuel inductionHypothesis =>
      rw [unmapPages]
      by_cases inside : page < stop
      · obtain ⟨next, within⟩ := toNat_nextPage isPage stopIsPage inside
        obtain ⟨value, middle, attempted, further⟩ :=
          @attempt_unmap4k_spec κ ε allocate start machine first page stop
            stopIsPage isPage ⟨after, inside⟩ reached
        have nextIsPage : IsPage (page + pageSize) := by
          unfold IsPage at isPage ⊢
          omega
        have nextAfter : first ≤ page + pageSize := by
          rw [UInt64.le_iff_toNat_le] at after ⊢
          omega
        rw [if_pos inside, Prog.bind_of_ok attempted,
          checkedAdd_pageSize isPage stopIsPage inside]
        exact inductionHypothesis nextIsPage nextAfter (by omega) further
      · rw [if_neg inside]
        refine ⟨machine, rfl, reached.removes, ?_⟩
        intro small address isInside below
        have atEnd : stop ≤ page := UInt64.not_lt.mp inside
        exact
          reached.gone small address
            ⟨isInside.1, UInt64.lt_of_lt_of_le isInside.2 atEnd⟩ below

theorem unmapRange_spec
    (ready : Ready allocate machine)
    (first last : UInt64) :
    ∃ final,
      (unmapRange first last : Kernel κ ε Unit) machine = .ok () final ∧
        RemovesTo allocate machine (pageOf first) (unmapStop last) final := by
  have started :
      RemovesTo allocate machine (pageOf first) (pageOf first) machine := by
    refine ⟨.refl ready, ?_⟩
    intro _ address inside
    exact absurd inside (not_inRange_self _ _)
  exact
    unmapPages_spec (isPage_pageOf _) (isPage_pageOf _)
      (UInt64.le_refl _) (by omega) started

theorem unmapUpTo_spec
    {space : Space κ}
    (ready : Ready allocate space.machine)
    (base stop : UInt64) :
    ∃ final,
      (unmapUpTo base stop : Prog (Space κ) ε Unit) space =
          .ok () { space with machine := final } ∧
        Removes allocate space.machine final := by
  unfold unmapUpTo
  split
  · obtain ⟨final, unmapped, removes⟩ :=
      @unmapRange_spec κ ε allocate space.machine ready base stop
    exact ⟨final, onMachine_of_ok unmapped, removes.removes⟩
  · exact ⟨space.machine, rfl, .refl ready⟩

/-- The pages that hold a range of addresses find nothing. -/
def RangeGone (first last : UInt64) (machine : Machine κ) : Prop :=
  ∀ address,
    InRange (pageOf first) (unmapStop last) address →
    address < userLimit →
    translate machine.memory machine.cr3 address = none

theorem lt_unmapStop
    {address last : UInt64}
    (below : address < userLimit)
    (inside : address < last) :
    address < unmapStop last := by
  have limit : userLimit.toNat = 2 ^ 47 := rfl
  have rest : (pageSize - 1).toNat = 4095 := rfl
  have stopIs := toNat_pageOf (saturatingAdd last (pageSize - 1))
  rw [UInt64.lt_iff_toNat_lt] at below inside ⊢
  unfold unmapStop
  rw [stopIs]
  unfold saturatingAdd
  cases added : checkedAdd last (pageSize - 1) with
  | some sum =>
      have sumIs := toNat_of_checkedAdd added
      dsimp only [Option.getD_some]
      omega
  | none =>
      have top : (0xffffffffffffffff : UInt64).toNat = 2 ^ 64 - 1 := rfl
      dsimp only [Option.getD_none]
      omega

theorem RangeGone.removes
    {first last : UInt64}
    (gone : RangeGone first last before)
    (removes : Removes allocate before after) :
    RangeGone first last after :=
  fun address inside below => removes.gone (gone address inside below)

theorem resetProcessForExec_spec
    {space : Space κ}
    (ready : Ready allocate space.machine)
    (mainStart mainEnd rtldStart rtldEnd stackBottom stackTop tlsPage :
      UInt64) :
    ∃ final,
      (resetProcessForExec mainStart mainEnd rtldStart rtldEnd stackBottom
              stackTop tlsPage :
            Prog (Space κ) ε Unit)
          space =
          .ok ()
            { space with
              machine := final
              nextMmap := mmapBase
              brk := heapBase } ∧
        Removes allocate space.machine final ∧
        (NoLargePages space.machine →
          RangeGone mainStart mainEnd final ∧
            RangeGone rtldStart rtldEnd final) := by
  have range :=
    fun (machine : Machine κ)
        (removes : Removes allocate space.machine machine) =>
      @unmapRange_spec κ ε allocate machine removes.ready
  obtain ⟨one, mainUnmapped, mainGone⟩ :=
    range space.machine (.refl ready) mainStart mainEnd
  have ofOne := mainGone.removes
  obtain ⟨two, rtldUnmapped, rtldGone⟩ := range one ofOne rtldStart rtldEnd
  have ofTwo := ofOne.trans rtldGone.removes
  obtain ⟨three, stackUnmapped, stackGone⟩ :=
    range two ofTwo stackBottom stackTop
  have ofThree := ofTwo.trans stackGone.removes
  obtain ⟨four, tlsUnmapped, tlsGone⟩ :=
    range three ofThree tlsPage (tlsPage + pageSize)
  have ofFour := ofThree.trans tlsGone.removes
  let cleared (machine : Machine κ) : Space κ :=
    { space with machine, nextMmap := mmapBase, brk := heapBase }
  have onCleared :
      ∀ {program : Kernel κ ε Unit} {machine final : Machine κ},
        program machine = .ok () final →
        onMachine program (cleared machine) = .ok () (cleared final) :=
    fun returned => onMachine_of_ok returned
  obtain ⟨five, mmapUnmapped, mmapGone⟩ :=
    @unmapUpTo_spec κ ε allocate (cleared four) ofFour.ready mmapBase
      (min space.nextMmap heapBase)
  have ofFive := ofFour.trans mmapGone
  obtain ⟨six, heapUnmapped, heapGone⟩ :=
    @unmapUpTo_spec κ ε allocate (cleared five) ofFive.ready heapBase
      (min (pageOf (saturatingAdd space.brk (pageSize - 1))) stackBottom)
  have afterRtld : Removes allocate two six :=
    (stackGone.removes.trans tlsGone.removes).trans (mmapGone.trans heapGone)
  refine ⟨six, ?_, ofFive.trans heapGone, fun small => ⟨?_, ?_⟩⟩
  · rw [resetProcessForExec, Prog.gets_bind_apply, Prog.modify_bind_apply]
    refine (Prog.bind_of_ok (onCleared mainUnmapped)).trans ?_
    refine (Prog.bind_of_ok (onCleared rtldUnmapped)).trans ?_
    refine (Prog.bind_of_ok (onCleared stackUnmapped)).trans ?_
    refine (Prog.bind_of_ok (onCleared tlsUnmapped)).trans ?_
    refine (Prog.bind_of_ok mmapUnmapped).trans ?_
    exact heapUnmapped
  · exact
      RangeGone.removes (mainGone.gone small)
        (rtldGone.removes.trans afterRtld)
  · exact
      RangeGone.removes (rtldGone.gone (ofOne.noLargePages small)) afterRtld

end Ranges

end VibuxOS.UserSpace
