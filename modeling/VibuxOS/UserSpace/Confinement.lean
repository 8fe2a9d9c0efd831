import VibuxOS.UserSpace.Heap
import VibuxOS.UserSpace.Moving

namespace VibuxOS.UserSpace

open VibuxOS.Lib VibuxOS.Paging

/-!
# Programs stay among their pages

A program calls `mmap`, `munmap`, `mprotect` and `brk` in any order and stores what
it likes behind its pages.  As long as `munmap` and `mprotect`, which have no check of
their own, are called for pages below the limit, the upper half stays as it is, the
frames of the kernel keep their words and no table comes to lie behind a page of the
program.
-/

variable
  {κ ε α : Type}
  {allocate : Allocate κ}
  {backings : Backings}
  {start machine after : Machine κ}
  {page stop : UInt64}
  {flags : PageFlags}

/-- A frame that is not a table, not free and not the program's. -/
structure KernelFrame
    (allocate : Allocate κ)
    (machine : Machine κ)
    (frame : UInt64) : Prop where
  noTable : ¬ TableFrame machine.memory machine.cr3 frame
  taken : ¬ Pending allocate machine.supply frame
  notUser : ¬ UserFrame machine.memory machine.cr3 frame

/-- The kernel has what it had at the start. -/
structure Confined
    (allocate : Allocate κ)
    (start machine : Machine κ) : Prop where
  ready : Ready allocate machine
  apart : TablesApart machine
  upperHalf :
    ∀ address,
      userLimit ≤ address →
      translate machine.memory machine.cr3 address =
        translate start.memory start.cr3 address
  frames :
    ∀ frame,
      KernelFrame allocate start frame →
      KernelFrame allocate machine frame ∧
        ∀ index, machine.memory ⟨frame, index⟩ = start.memory ⟨frame, index⟩

abbrev ChangesBelow (allocate : Allocate κ) (before after : Machine κ) : Prop :=
  Changes allocate (· < userLimit) before after

namespace Confined

theorem changed
    (confined : Confined allocate start machine)
    (changes : ChangesBelow allocate machine after) :
    Confined allocate start after where
  ready := changes.ready
  apart := changes.apart confined.ready confined.apart
  upperHalf address above :=
    (changes.elsewhere address (UInt64.not_lt.mpr above)).trans
      (confined.upperHalf address above)
  frames frame isKernels := by
    obtain ⟨⟨noTable, taken, notUser⟩, words⟩ := confined.frames frame isKernels
    obtain ⟨stillNoTable, sameWords⟩ := changes.words frame noTable taken
    refine
      ⟨⟨stillNoTable, fun isPending => taken (changes.pending frame isPending),
          fun isUser => ?_⟩,
        fun index => (sameWords index).trans (words index)⟩
    exact
      (changes.userFrame confined.ready isUser).elim notUser fun isDrawn =>
        taken isDrawn.pending

theorem stored
    {frame : UInt64}
    (confined : Confined allocate start machine)
    (isUser : UserFrame machine.memory machine.cr3 frame)
    (words : Nat → UInt64) :
    Confined allocate start (machine.fillFrame frame words) := by
  have beside :=
    besideTables_fillFrame (confined.apart frame isUser) words
  constructor
  · exact confined.ready.beside beside
  · intro other otherUser table
    exact
      confined.apart other ((beside.userFrame other).mp otherUser)
        ((beside.tableFrame other).mp table)
  · intro address above
    rw [Machine.cr3_fillFrame, beside.translate]
    exact confined.upperHalf address above
  · intro other isKernels
    obtain ⟨⟨noTable, taken, notUser⟩, same⟩ := confined.frames other isKernels
    have different : other ≠ frame := by
      rintro rfl
      exact notUser isUser
    refine
      ⟨⟨fun table => noTable ((beside.tableFrame other).mp table), taken,
          fun otherUser => notUser ((beside.userFrame other).mp otherUser)⟩,
        fun index => ?_⟩
    rw [Machine.fillFrame_of_ne words machine different]
    exact same index

end Confined

/-! ## The loops -/

theorem keeps_forPages
    {invariant : Machine κ → Prop}
    {body : UInt64 → Kernel κ ε Unit}
    {allowed : UInt64 → Prop}
    (next : ∀ page, allowed page → page < stop → allowed (page + pageSize))
    (turn :
      ∀ page,
        allowed page → page < stop → Prog.Keeps invariant (body page))
    (fuel : Nat)
    (isAllowed : allowed page) :
    Prog.Keeps invariant (forPages body stop fuel page) := by
  induction fuel generalizing page with
  | zero =>
      exact Prog.Ensures.hang
  | succ fuel inductionHypothesis =>
      refine
        Prog.Ensures.ite (fun below => ?_) fun _ =>
          Prog.Keeps.of_readOnly (.pure _)
      exact
        Prog.Keeps.bind (turn page isAllowed below) fun _ =>
          inductionHypothesis (next page isAllowed below)

theorem lt_userLimit_of_samePage
    {other : UInt64}
    (below : page < userLimit)
    (same : SamePage other page) :
    other < userLimit := by
  have limit : userLimit.toNat = 2 ^ 47 := rfl
  unfold SamePage at same
  rw [UInt64.lt_iff_toNat_lt] at below ⊢
  omega

theorem keeps_newPage
    {fill : UInt64 → Kernel κ UInt64 Unit}
    {bytes : Nat → UInt8}
    (isUser : flags.contains .user = true)
    (combined : flags.Combined)
    (fills : Fills fill bytes)
    (page : UInt64) :
    Prog.Keeps (ChangesBelow allocate start)
      (newPage allocate page flags fill) := by
  intro machine changes
  obtain ⟨onReturn, onError⟩ :=
    @newPage_spec _ _ _ page _ _ _ changes.ready isUser combined fills
  constructor
  · intro value final returned
    have made := onReturn _ _ returned
    exact
      changes.trans
        (made.changes.mono fun _ same => lt_userLimit_of_samePage made.below same)
  · intro code final failed
    exact changes.trans (.ofQuiet (onError _ _ failed) _)

theorem keeps_unmap4k
    (below : page < userLimit)
    (code : UInt64) :
    Prog.Keeps (ChangesBelow allocate start)
      (Prog.mapError (fun _ => code) (unmap4k page)) := by
  intro machine changes
  rcases unmap4k_spec changes.ready page with
    ⟨frame, final, unmapped, cleared⟩ | ⟨⟨error, refused⟩, _⟩
  · apply Prog.ends_ok (Prog.mapError_eq_ok.mpr unmapped)
    exact
      changes.trans
        (cleared.changes.mono fun _ => lt_userLimit_of_samePage below)
  · exact Prog.ends_err (Prog.mapError_eq_err.mpr ⟨error, refused, rfl⟩) changes

theorem keeps_placePage
    {fixed : Bool}
    (isUser : flags.contains .user = true)
    (combined : flags.Combined)
    (fileData : Option (List UInt8))
    (fileOffset : UInt64)
    (below : fixed = true → page < userLimit) :
    Prog.Keeps (ChangesBelow allocate start)
      (placePage allocate fixed flags fileData fileOffset page) := by
  have makes :
      Prog.Keeps (ChangesBelow allocate start)
        (newPage allocate page flags (copyFile fileData fileOffset)) :=
    keeps_newPage isUser combined (fills_copyFile fileData fileOffset) page
  refine .bind (.of_readOnly (.gets _)) fun found => .ite ?_ makes
  refine
    Prog.Ensures.ite (fun isFixed => ?_) fun _ =>
      Prog.Keeps.of_readOnly (.fail _)
  exact Prog.Keeps.bind (keeps_unmap4k (below isFixed) _) fun _ => makes

/-- What the addresses of a range find is the program's. -/
def OwnsRange (machine : Machine κ) (first stop : UInt64) : Prop :=
  ∀ address mapping,
    InRange first stop address →
    translate machine.memory machine.cr3 address = some mapping →
    mapping.flags.contains .user = true

theorem keeps_protect4k
    {first : UInt64}
    (isUser : flags.contains .user = true)
    (combined : flags.Combined)
    (firstIsPage : IsPage first)
    (stopIsPage : IsPage stop)
    (low : stop ≤ userLimit)
    (isPage : IsPage page)
    (inside : InRange first stop page)
    (code : UInt64) :
    Prog.Keeps
      (fun machine =>
        ChangesBelow allocate start machine ∧ OwnsRange machine first stop)
      (Prog.mapError (fun _ => code) (protect4k page flags)) := by
  rintro machine ⟨changes, owns⟩
  by_cases inRange : canonical page = true
  · obtain ⟨onLeaf, onOther⟩ :=
      @protect4k_eq flags κ machine page inRange isPage
    by_cases isSmall : MappedSmall machine.memory machine.cr3 page
    · apply Prog.ends_ok (Prog.mapError_eq_ok.mpr (onLeaf isSmall))
      have visited := mem_path_of_small inRange isSmall
      have isPresent := ((mappedSmall_iff inRange).mp isSmall).2
      obtain ⟨mapping, found, _⟩ := isSmall
      have tables := changes.ready.tables
      have permitted :=
        tables.userMonotone page mapping found (owns page mapping inside found)
      have protects :=
        protects_of_leaf tables.tree inRange visited isPresent combined.apart
      constructor
      · refine changes.trans
          ((changes_of_leaf changes.ready inRange visited ?_ ?_).mono ?_)
        · intro _ visit isVisited _
          rw [permits, List.all_eq_true] at permitted
          exact bne_iff_ne.mp (permitted visit isVisited)
        · intro other reported same isReported _
          have here := protects.here other same
          rw [Machine.memory_setEntry, Machine.cr3_setEntry,
            translate_leaf tables.tree visited inRange _ same] at here
          obtain ⟨old, wasFound, rfl⟩ :=
            Option.map_eq_some_iff.mp (here.symm.trans isReported)
          have isInside :=
            inRange_of_samePage firstIsPage stopIsPage same inside
          exact ⟨old, wasFound, owns other old isInside wasFound, rfl⟩
        · intro other same
          exact
            lt_userLimit_of_samePage (UInt64.lt_of_lt_of_le inside.2 low) same
      · intro address mapping isInside found
        by_cases same : SamePage address page
        · have here := protects.here address same
          obtain ⟨old, _, rfl⟩ :=
            Option.map_eq_some_iff.mp (here.symm.trans found)
          rw [PageFlags.contains_union _ (by decide)]
          exact isUser
        · exact
            owns address mapping isInside
              ((protects.elsewhere address same).symm.trans found)
    · obtain ⟨error, refused⟩ := onOther isSmall
      exact
        Prog.ends_err (Prog.mapError_eq_err.mpr ⟨error, refused, rfl⟩)
          ⟨changes, owns⟩
  · have refused :
        protect4k page flags machine = .err .nonCanonicalAddress machine := by
      unfold protect4k
      rw [if_pos (by simpa using inRange)]
      rfl
    exact
      Prog.ends_err (Prog.mapError_eq_err.mpr ⟨_, refused, rfl⟩) ⟨changes, owns⟩

/-! ## The calls -/

/-- A call about its memory that a program makes. -/
inductive MemoryCall where
  | mmap (address length prot flags : UInt64) (fd : Int) (offset : UInt64)
  | munmap (address length : UInt64)
  | mprotect (address length prot : UInt64)
  | brk (requested : UInt64)

namespace MemoryCall

/-- What the kernel does in a call. -/
def run
    (allocate : Allocate κ)
    (backings : Backings) :
    MemoryCall → Call κ UInt64
  | mmap address length prot flags fd offset =>
      mapMemory allocate backings address length prot flags fd offset
  | munmap address length => unmapMemory address length
  | mprotect address length prot => changeProtection address length prot
  | brk requested => brkCall allocate requested

/-- `munmap` and `mprotect` are for pages below the limit, and the latter's are the
program's. -/
def Spares (machine : Machine κ) : MemoryCall → Prop
  | munmap address length => address + roundUp length ≤ userLimit
  | mprotect address length _ =>
      address + roundUp length ≤ userLimit ∧
        OwnsRange machine address (address + roundUp length)
  | _ => True

end MemoryCall

variable {invariant : Machine κ → Prop}

theorem keeps_onMachine
    {program : Kernel κ ε α}
    (kept : Prog.Keeps invariant program) :
    Prog.Keeps (fun space : Space κ => invariant space.machine)
      (onMachine program) :=
  Prog.Ensures.onPart
    (fun space value final holds returned =>
      (kept space.machine holds).1 value final returned)
    fun space error final holds failed =>
      (kept space.machine holds).2 error final failed

theorem keeps_overPages
    {body : UInt64 → Kernel κ UInt64 Unit}
    {address length : UInt64}
    (loop :
      IsPage address →
      IsPage (address + roundUp length) →
      ∀ fuel,
        Prog.Keeps invariant
          (forPages body (address + roundUp length) fuel address)) :
    Prog.Keeps (fun space : Space κ => invariant space.machine)
      (overPages body address length) := by
  refine
    Prog.Ensures.ite (fun _ => Prog.Keeps.of_readOnly (.fail _))
      fun isPage => ?_
  rw [Bool.not_eq_true, isPage_iff] at isPage
  cases isSum : checkedAdd length (pageSize - 1) with
  | none =>
      exact Prog.Keeps.of_readOnly (.fail _)
  | some sum =>
      have isRoundUp : pageOf sum = roundUp length := by
        unfold checkedAdd at isSum
        split at isSum
        · rw [← Option.some.inj isSum]
          rfl
        · cases isSum
      have stopIsPage := (isPage_stop isPage (isPage_pageOf sum)).1
      rw [isRoundUp] at stopIsPage
      rw [Option.map_some, isRoundUp]
      exact
        Prog.Keeps.bind (keeps_onMachine (loop isPage stopIsPage _)) fun _ =>
          .of_readOnly (.pure _)

theorem keeps_findRange
    (length : UInt64)
    (rounds : Nat)
    (candidate : UInt64) :
    Prog.Keeps (fun space : Space κ => invariant space.machine)
      (findRange length rounds candidate) := by
  induction rounds generalizing candidate with
  | zero =>
      exact Prog.Ensures.hang
  | succ rounds inductionHypothesis =>
      exact
        .bind (.of_readOnly (.gets _)) fun _ =>
          .ite (.of_readOnly (.pure _))
            (.bind (.of_readOnly (.gets _)) fun next =>
              .ite (.of_readOnly (.fail _))
                (.bind (.modify fun _ holds => holds) fun _ =>
                  inductionHypothesis (pageOf next)))

theorem keeps_mapWithRuntimeAllocator
    {address length flags offset target : UInt64}
    {fd : Int}
    {fileData : Option (List UInt8)}
    (requested :
      Requested backings address length flags fd offset target fileData)
    (prot : UInt64) :
    Prog.Keeps (fun space => ChangesBelow allocate start space.machine)
      (mapWithRuntimeAllocator allocate target (roundUp length) prot flags offset
        fileData) := by
  obtain ⟨combined, isUser, _, _⟩ := pageFlags_spec prot
  apply
    @Prog.Ensures.bind _ _ _ _ _
      fun first space =>
        ChangesBelow allocate start space.machine ∧
          ((flags &&& mapFixed != 0) = true → first = target)
  · refine Prog.Ensures.ite (fun isFixed => ?_) fun notFixed => ?_
    · exact Prog.Ensures.pure fun _ changes => ⟨changes, fun _ => rfl⟩
    · exact
        Prog.Ensures.consequence (keeps_findRange _ _ _) fun _ _ changes =>
          ⟨changes, fun isFixed => absurd isFixed notFixed⟩
  · rintro first space ⟨changes, isTarget⟩
    refine
      Prog.Keeps.bind (keeps_onMachine ?_) (fun _ => .of_readOnly (.pure _)) space
        changes
    refine
      @keeps_forPages _ _ _ _ _ _ (fun _ => True) (fun _ _ _ => trivial)
        (fun page _ below => ?_) _ trivial
    apply keeps_placePage isUser combined
    intro isFixed
    have fits := requested.fits
    rw [isTarget isFixed] at below
    rw [UInt64.lt_iff_toNat_lt, UInt64.toNat_add] at below
    rw [UInt64.lt_iff_toNat_lt]
    exact (below.trans_le (Nat.mod_le _ _)).trans_le fits

theorem keeps_munmap
    {address length : UInt64}
    (low : address + roundUp length ≤ userLimit) :
    Prog.Keeps (fun space => ChangesBelow allocate start space.machine)
      (unmapMemory address length) := by
  refine keeps_overPages fun _ _ fuel => ?_
  refine
    @keeps_forPages _ _ _ _ _ _ (fun _ => True) (fun _ _ _ => trivial)
      (fun page _ below => ?_) fuel trivial
  exact
    .bind (keeps_unmap4k (UInt64.lt_of_lt_of_le below low) _) fun _ =>
      .of_readOnly (.pure _)

theorem keeps_mprotect
    {address length : UInt64}
    (low : address + roundUp length ≤ userLimit)
    (prot : UInt64) :
    Prog.Keeps
      (fun space =>
        ChangesBelow allocate start space.machine ∧
          OwnsRange space.machine address (address + roundUp length))
      (changeProtection address length prot) := by
  obtain ⟨combined, isUser, _, _⟩ := pageFlags_spec prot
  refine
    @keeps_overPages _
      (fun machine =>
        ChangesBelow allocate start machine ∧
          OwnsRange machine address (address + roundUp length))
      _ _ _ fun isPage stopIsPage fuel => ?_
  refine
    @keeps_forPages _ _ _ _ _ _ (fun page => IsPage page ∧ address ≤ page)
      (fun page reached below => ?_) (fun page reached below => ?_) fuel
      ⟨isPage, UInt64.le_refl _⟩
  · obtain ⟨next, _⟩ := toNat_nextPage reached.1 stopIsPage below
    have above := UInt64.le_iff_toNat_le.mp reached.2
    have pageIsPage := reached.1
    unfold IsPage at pageIsPage ⊢
    rw [UInt64.le_iff_toNat_le]
    omega
  · exact
      keeps_protect4k isUser combined isPage stopIsPage low reached.1
        ⟨reached.2, below⟩ _

theorem keeps_brk (requested : UInt64) :
    Prog.Keeps (fun space => ChangesBelow allocate start space.machine)
      (brkCall allocate requested) := by
  have grows :
      ∀ brk,
        Prog.Keeps (ChangesBelow allocate start)
          (growHeap allocate brk requested) :=
    fun _ => @keeps_forPages _ _ _ _ _ _ (fun _ => True) (fun _ _ _ => trivial)
      (fun page _ _ =>
        keeps_newPage isUser_dataFlags combined_dataFlags fills_nothing page)
      _ trivial
  exact
    .bind (.of_readOnly (.gets _)) fun brk =>
      .ite (.of_readOnly (.pure _))
        (.ite
          (.bind (keeps_onMachine (grows brk)) fun _ =>
            .bind (.modify fun _ changes => changes) fun _ =>
              .of_readOnly (.pure _))
          (.bind (.modify fun _ changes => changes) fun _ =>
            .of_readOnly (.pure _)))

theorem MemoryCall.changes
    {call : MemoryCall}
    {space last : Space κ}
    (ready : Ready allocate space.machine)
    (spares : call.Spares space.machine)
    (ended : (call.run allocate backings space).final? = some last) :
    ChangesBelow allocate space.machine last.machine := by
  have already := Changes.refl ready (· < userLimit)
  cases call with
  | mmap address length prot flags fd offset =>
      rw [MemoryCall.run] at ended
      rcases @mapMemory_cases κ allocate backings address length prot flags fd
          offset space with
        ⟨code, final, refused, same, _⟩ |
          ⟨target, fileData, middle, _, same, requested, goesOn⟩
      · rw [refused] at ended
        cases ended
        rwa [same]
      · rw [goesOn] at ended
        have kept :=
          @keeps_mapWithRuntimeAllocator _ allocate _ middle.machine _ _ _ _ _ _ _
            requested prot
        rw [← same] at ready ⊢
        exact Prog.Ensures.final kept (Changes.refl ready _) ended
  | munmap address length =>
      exact Prog.Ensures.final (keeps_munmap spares) already ended
  | mprotect address length prot =>
      exact
        (Prog.Ensures.final (keeps_mprotect spares.1 prot)
          ⟨already, spares.2⟩ ended).1
  | brk requested =>
      exact Prog.Ensures.final (keeps_brk requested) already ended

/-! ## Runs -/

/-- What a program has come to: it makes calls, and stores behind its pages. -/
inductive Run
    (allocate : Allocate κ)
    (backings : Backings)
    (start : Space κ) :
    Space κ → Prop where
  | start : Run allocate backings start start
  | call
      {space last : Space κ}
      (run : Run allocate backings start space)
      (call : MemoryCall)
      (spares : call.Spares space.machine)
      (ended : (call.run allocate backings space).final? = some last) :
      Run allocate backings start last
  | store
      {space : Space κ}
      {frame : UInt64}
      (run : Run allocate backings start space)
      (isUser : UserFrame space.machine.memory space.machine.cr3 frame)
      (words : Nat → UInt64) :
      Run allocate backings start
        { space with machine := space.machine.fillFrame frame words }

/-- Whatever a program does to its memory, the kernel has what it had. -/
theorem confined_of_run
    {start space : Space κ}
    (ready : Ready allocate start.machine)
    (apart : TablesApart start.machine)
    (run : Run allocate backings start space) :
    Confined allocate start.machine space.machine := by
  induction run with
  | start =>
      exact
        ⟨ready, apart, fun _ _ => rfl, fun _ isKernels =>
          ⟨isKernels, fun _ => rfl⟩⟩
  | call _ call spares ended inductionHypothesis =>
      exact
        inductionHypothesis.changed
          (call.changes inductionHypothesis.ready spares ended)
  | store _ isUser words inductionHypothesis =>
      exact inductionHypothesis.stored isUser words

/-- A program that grows its heap by a page and fills it. -/
theorem confined_of_first_page :
    ∃ space : Space FrameAllocator,
      (brkCall FrameAllocator.allocate (heapBase + 1)
          ⟨emptyTables, mmapBase, heapBase⟩).final? =
        some space ∧
        Confined FrameAllocator.allocate emptyTables space.machine := by
  obtain ⟨space, ended⟩ :=
    Option.isSome_iff_exists.mp
      (by decide +kernel :
        (brkCall FrameAllocator.allocate (heapBase + 1)
          ⟨emptyTables, mmapBase, heapBase⟩).final?.isSome = true)
  refine
    ⟨space, ended,
      @confined_of_run FrameAllocator _ (fun _ => none)
        ⟨emptyTables, mmapBase, heapBase⟩ space ready_emptyTables ?_
        (.call .start (.brk (heapBase + 1)) trivial ended)⟩
  rintro frame ⟨address, mapping, found, _⟩
  rw [translate_emptyTables] at found
  cases found

end VibuxOS.UserSpace
