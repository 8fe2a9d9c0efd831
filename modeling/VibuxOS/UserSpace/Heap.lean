import VibuxOS.UserSpace.NewPages

namespace VibuxOS.UserSpace

open VibuxOS.Lib VibuxOS.Paging

/-!
# The program break

`brk` maps the pages from the old break to the new one, and unmaps none when the
break goes down.  So the pages that a lowered break leaves behind are in the way
of the next raise, and a break that is not checked against the ends of the heap
follows every request.

A run has the requests of the program and its stores.  Beside the space it has
the bytes that were stored below every break since.
-/

variable {κ : Type} {allocate : Allocate κ} {start machine : Machine κ}

/-- What a program does with its heap. -/
inductive HeapEvent where
  | request (requested : UInt64)
  | store (address : UInt64) (byte : UInt8)

/-- A store of the program.  One that faults stores nothing. -/
def storeByte
    (address : UInt64)
    (byte : UInt8)
    (machine : Machine κ) :
    Machine κ :=
  match translate machine.memory machine.cr3 address with
  | none => machine
  | some mapping =>
      if mapping.flags.contains .user && mapping.flags.contains .writable then
        machine.fillFrame (pageOf mapping.physicalAddress)
          (copiedWords machine.memory (pageOf mapping.physicalAddress)
            (mapping.physicalAddress.toNat % 4096) [byte])
      else
        machine

/-- A step of a run. -/
def heapStep
    (allocate : Allocate κ) :
    HeapEvent → Space κ → Option (Space κ)
  | .request requested, space => (brkCall allocate requested space).final?
  | .store address byte, space =>
      some { space with machine := storeByte address byte space.machine }

/-- The bytes that were stored in the heap below every break since. -/
abbrev Written := UInt64 → Option UInt8

/-- These bytes after a step that leads to a space. -/
def Written.after (written : Written) (space : Space κ) : HeapEvent → Written
  | .request _ => fun address =>
      if address < space.brk then written address else none
  | .store address byte =>
      if heapBase ≤ address ∧ address < space.brk then
        Function.update written address (some byte)
      else
        written

/-- The break is in the heap, its pages are the program's, and its bytes are kept. -/
structure HeapHolds (space : Space κ) (written : Written) : Prop where
  above : heapBase ≤ space.brk
  below : space.brk < userLimit
  mapped :
    ∀ address,
      heapBase ≤ address →
      pageOf address < space.brk →
      ∃ mapping,
        translate space.machine.memory space.machine.cr3 address =
            some mapping ∧
          mapping.flags.contains .user = true ∧
          mapping.flags.contains .writable = true
  kept :
    ∀ address byte,
      written address = some byte →
      seenByte space.machine.memory space.machine.cr3 address = some byte

/-- A request up to the stack sets the break and returns it. -/
def Answered
    (allocate : Allocate κ)
    (stack : UInt64)
    (space : Space κ) :
    HeapEvent → Prop
  | .request requested =>
      (requested = 0 → brkCall allocate requested space = .ok space.brk space) ∧
        (heapBase ≤ requested →
          requested < stack →
          ∃ final,
            brkCall allocate requested space = .ok requested final ∧
              final.brk = requested)
  | .store _ _ => True

/-- Every step of a run is answered, and the heap holds in every state. -/
def RunsWell
    (allocate : Allocate κ)
    (stack : UInt64) :
    Space κ → Written → List HeapEvent → Prop
  | space, written, [] => HeapHolds space written
  | space, written, event :: rest =>
      HeapHolds space written ∧
        Answered allocate stack space event ∧
        ∃ next,
          heapStep allocate event space = some next ∧
            RunsWell allocate stack next (written.after next event) rest

/-- Every step of a run meets a condition on the state before it. -/
def Along
    (allocate : Allocate κ)
    (condition : Space κ → HeapEvent → Prop) :
    Space κ → List HeapEvent → Prop
  | _, [] => True
  | space, event :: rest =>
      condition space event ∧
        ∀ next,
          heapStep allocate event space = some next →
          Along allocate condition next rest

/-- There are frames for a request up to the stack. -/
def Supplied
    (allocate : Allocate κ)
    (stack : UInt64)
    (space : Space κ) :
    HeapEvent → Prop
  | .request requested =>
      heapBase ≤ requested →
      requested < stack →
      Enough allocate space.machine.supply
        (4 * (((roundUp requested).toNat - (roundUp space.brk).toNat) / 4096))
  | .store _ _ => True

/-- The highest request that can be rounded up. -/
def lastPage : UInt64 := 0xFFFFFFFFFFFFF000

/--
A request is not below the heap, can be rounded up, and below the stack meets no
page when it goes up.
-/
def Orderly (stack : UInt64) (space : Space κ) : HeapEvent → Prop
  | .request requested =>
      requested = 0 ∨
        heapBase ≤ requested ∧
          requested ≤ lastPage ∧
          (requested < stack →
            space.brk < requested →
            ∀ address,
              InRange (roundUp space.brk) (roundUp requested) address →
              ¬ Mapped space.machine.memory space.machine.cr3 address)
  | .store _ _ => True

/-- How a program begins: no heap, and room for one up to the stack. -/
structure HeapStart
    (allocate : Allocate κ)
    (stack : UInt64)
    (space : Space κ) : Prop where
  ready : Ready allocate space.machine
  apart : TablesApart space.machine
  brk : space.brk = heapBase
  stackIsPage : IsPage stack
  stackAbove : heapBase ≤ stack
  stackBelow : stack < userLimit
  stackMapped : Mapped space.machine.memory space.machine.cr3 stack
  isOpen :
    ∀ address,
      heapBase ≤ address →
      address < stack →
      TopOpen space.machine address

/-! ## Rounding -/

theorem toNat_roundUp
    {value : UInt64}
    (fits : value ≤ lastPage) :
    (roundUp value).toNat = (value.toNat + 4095) / 4096 * 4096 ∧
      IsPage (roundUp value) := by
  have last : lastPage.toNat = 2 ^ 64 - 4096 := rfl
  have size : (pageSize - 1).toNat = 4095 := rfl
  rw [UInt64.le_iff_toNat_le, last] at fits
  have rounded := toNat_pageOf (value + (pageSize - 1))
  rw [UInt64.toNat_add, size] at rounded
  have isPage := isPage_pageOf (value + (pageSize - 1))
  refine ⟨?_, isPage⟩
  change (pageOf (value + (pageSize - 1))).toNat = _
  omega

theorem roundUp_of_large
    {value : UInt64}
    (large : lastPage < value) :
    roundUp value = 0 := by
  have last : lastPage.toNat = 2 ^ 64 - 4096 := rfl
  have size : (pageSize - 1).toNat = 4095 := rfl
  have bound := value.toNat_lt
  rw [UInt64.lt_iff_toNat_lt, last] at large
  have rounded := toNat_pageOf (value + (pageSize - 1))
  rw [UInt64.toNat_add, size] at rounded
  apply UInt64.toNat_inj.mp
  change (pageOf (value + (pageSize - 1))).toNat = _
  rw [UInt64.toNat_zero]
  omega

/-! ## Growing -/

/-- The heap has new pages up to some page, where there were none. -/
structure GrownTo
    (allocate : Allocate κ)
    (first : UInt64)
    (start : Machine κ)
    (reached : UInt64)
    (machine : Machine κ) : Prop where
  given :
    PagesGiven allocate dataFlags (fun _ _ => 0) first start reached machine
  wereFree :
    ∀ address,
      InRange first reached address →
      ¬ Mapped start.memory start.cr3 address
  isOpen : ∀ address, TopOpen start address → TopOpen machine address

/-- What a heap that did not grow leaves. -/
structure GrowthFailed
    (allocate : Allocate κ)
    (first : UInt64)
    (start : Machine κ)
    (reached : UInt64)
    (machine : Machine κ) : Prop where
  changes : Changes allocate (InRange first reached) start machine
  wereFree :
    ∀ address,
      InRange first reached address →
      ¬ Mapped start.memory start.cr3 address
  isOpen : ∀ address, TopOpen start address → TopOpen machine address

section Growing

variable {first stop page : UInt64}

theorem GrownTo.refl
    (ready : Ready allocate start)
    (first : UInt64) :
    GrownTo allocate first start first start where
  given := PagesGiven.refl ready first
  wereFree _ inside := absurd inside (not_inRange_self _ _)
  isOpen _ isOpen := isOpen

theorem isUser_dataFlags : dataFlags.contains .user = true := by
  decide

theorem ensures_growPage
    (stopIsPage : IsPage stop)
    (isPage : IsPage page)
    (inside : InRange first stop page) :
    Prog.Ensures (GrownTo allocate first start page)
      (newPage allocate page dataFlags fun _ => pure ())
      (fun _ => GrownTo allocate first start (page + pageSize))
      (fun machine =>
        ∃ reached, GrowthFailed allocate first start reached machine) := by
  intro machine grown
  have ready := grown.given.changes.ready
  obtain ⟨onReturn, onError⟩ :=
    @newPage_spec κ allocate machine page dataFlags _ _ ready isUser_dataFlags
      combined_dataFlags fills_nothing
  have opens :=
    fun address isOpen =>
      @topOpen_newPage κ allocate dataFlags machine page address _ _ ready
        isUser_dataFlags combined_dataFlags fills_nothing
        (grown.isOpen address isOpen)
  have steps :=
    fun address =>
      @inRange_nextPage first stop page address inside.1 isPage stopIsPage
        inside.2
  constructor
  · intro value final returned
    have made := onReturn _ _ returned
    constructor
    · exact
        grown.given.next isUser_dataFlags stopIsPage isPage inside made.given
    · intro address isInside
      by_cases isBefore : InRange first page address
      · exact grown.wereFree address isBefore
      · have same := ((steps address).mp isInside).resolve_left isBefore
        rw [Mapped, ← grown.given.changes.elsewhere address isBefore,
          made.unmapped address same]
        exact Bool.false_ne_true
    · exact fun address isOpen => (opens address isOpen).1 _ _ returned
  · intro code final failed
    exact
      ⟨page,
        grown.given.changes.trans (Changes.ofQuiet (onError _ _ failed) _),
        grown.wereFree, fun address isOpen => (opens address isOpen).2 _ _ failed⟩

theorem ensures_growHeap
    (firstIsPage : IsPage first)
    (stopIsPage : IsPage stop)
    (inOrder : first ≤ stop)
    (fuel : Nat) :
    Prog.Ensures (GrownTo allocate first start first)
      (forPages (fun page => newPage allocate page dataFlags fun _ => pure ())
        stop fuel first)
      (fun _ => GrownTo allocate first start stop)
      (fun machine =>
        ∃ reached, GrowthFailed allocate first start reached machine) :=
  @ensures_forPages κ UInt64 _ stop (GrownTo allocate first start) _ first
    stopIsPage
    (fun _ isPage inside => ensures_growPage stopIsPage isPage inside)
    fuel firstIsPage inOrder

/--
With frames and no page in the way, the loop of `brk` does not fail, and leaves the
frames that it has no use for.
-/
theorem growHeap_returns
    {count : Nat}
    (firstIsPage : IsPage first)
    (stopIsPage : IsPage stop)
    (inOrder : first ≤ stop)
    (below : stop ≤ userLimit)
    (ready : Ready allocate start)
    (free :
      ∀ address,
        InRange first stop address → ¬ Mapped start.memory start.cr3 address)
    (isOpen : ∀ address, InRange first stop address → TopOpen start address)
    (enough :
      Enough allocate start.supply
        (count + 4 * ((stop.toNat - first.toNat) / 4096)))
    (fuel : Nat) :
    (∀ value final,
        forPages (fun page => newPage allocate page dataFlags fun _ => pure ())
            stop fuel first start =
          .ok value final →
        Enough allocate final.supply count) ∧
      ∀ code final,
        forPages (fun page => newPage allocate page dataFlags fun _ => pure ())
            stop fuel first start ≠
          .err code final := by
  have returns :
      Prog.Ensures
        (fun machine =>
          GrownTo allocate first start first machine ∧
            Enough allocate machine.supply
              (count + 4 * ((stop.toNat - first.toNat) / 4096)))
        (forPages (fun page => newPage allocate page dataFlags fun _ => pure ())
          stop fuel first)
        (fun _ machine =>
          GrownTo allocate first start stop machine ∧
            Enough allocate machine.supply
              (count + 4 * ((stop.toNat - stop.toNat) / 4096)))
        (fun _ => False) := by
    apply
      @ensures_forPages κ UInt64 _ stop
        (fun page machine =>
          GrownTo allocate first start page machine ∧
            Enough allocate machine.supply
              (count + 4 * ((stop.toNat - page.toNat) / 4096)))
        _ first stopIsPage (fun page isPage inside => ?_) fuel firstIsPage
        inOrder
    rintro machine ⟨grown, left⟩
    obtain ⟨next, within⟩ := toNat_nextPage isPage stopIsPage inside.2
    have notYet : ¬ InRange first page page :=
      fun isBefore => UInt64.lt_irrefl _ isBefore.2
    have unmapped : ¬ Mapped machine.memory machine.cr3 page := by
      rw [Mapped, grown.given.changes.elsewhere page notYet]
      exact free page inside
    have turns :
        count + 4 * ((stop.toNat - page.toNat) / 4096) =
          count + 4 * ((stop.toNat - (page + pageSize).toNat) / 4096) + 4 := by
      omega
    rw [turns] at left
    obtain ⟨made, isMade, isLeft⟩ :=
      @newPage_returns κ allocate dataFlags machine page _ _ _
        grown.given.changes.ready isUser_dataFlags fills_nothing isPage
        (UInt64.lt_of_lt_of_le inside.2 below) unmapped
        (grown.isOpen page (isOpen page inside)) left
    rw [isMade]
    constructor
    · intro value final returned
      cases returned
      exact
        ⟨(ensures_growPage stopIsPage isPage inside machine grown).1 _ _ isMade,
          isLeft⟩
    · intro code final failed
      cases failed
  obtain ⟨onReturn, onError⟩ :=
    returns start ⟨GrownTo.refl ready first, enough⟩
  refine ⟨fun value final returned => ?_, onError⟩
  have left := (onReturn value final returned).2
  rwa [Nat.sub_self, Nat.zero_div, Nat.mul_zero, Nat.add_zero] at left

end Growing

/-! ## Storing -/

theorem storeByte_cases
    (ready : Ready allocate machine)
    (isApart : TablesApart machine)
    (address : UInt64)
    (byte : UInt8) :
    (storeByte address byte machine = machine ∧
        ∀ mapping,
          translate machine.memory machine.cr3 address = some mapping →
          (mapping.flags.contains .user && mapping.flags.contains .writable) =
            false) ∨
      ∃ mapping words,
        translate machine.memory machine.cr3 address = some mapping ∧
          mapping.flags.contains .user = true ∧
          ¬ TableFrame machine.memory machine.cr3
            (pageOf mapping.physicalAddress) ∧
          storeByte address byte machine =
            machine.fillFrame (pageOf mapping.physicalAddress) words ∧
          ∀ offset,
            offset < 4096 →
            frameByte
                (machine.fillFrame (pageOf mapping.physicalAddress) words).memory
                (pageOf mapping.physicalAddress) offset =
              if offset = mapping.physicalAddress.toNat % 4096 then byte
              else
                frameByte machine.memory (pageOf mapping.physicalAddress)
                  offset := by
  unfold storeByte
  cases found : translate machine.memory machine.cr3 address with
  | none =>
      refine .inl ⟨rfl, ?_⟩
      intro mapping isFound
      cases isFound
  | some mapping =>
      dsimp only
      by_cases allowed :
          (mapping.flags.contains .user && mapping.flags.contains .writable) =
            true
      · rw [if_pos allowed]
        rw [Bool.and_eq_true] at allowed
        have userFrame :=
          userFrame_of_findsUser ready.tables found allowed.1
        refine
          .inr ⟨mapping, _, rfl, allowed.1, isApart _ userFrame, rfl, ?_⟩
        intro offset inside
        rw [frameByte_copied, List.length_singleton]
        by_cases here : offset = mapping.physicalAddress.toNat % 4096
        · rw [if_pos here, here, blit_inside (Nat.le_refl _) (Nat.lt_succ_self _),
            Nat.sub_self]
          rfl
        · rw [if_neg here, blit_outside (by omega)]
      · rw [if_neg allowed]
        rw [Bool.not_eq_true] at allowed
        refine .inl ⟨rfl, ?_⟩
        intro other isFound
        cases isFound
        exact allowed

theorem seenByte_storeByte
    {page frame other : UInt64}
    {bytes : Nat → UInt8}
    (ready : Ready allocate machine)
    (isApart : TablesApart machine)
    (isPage : IsPage page)
    (isAt : PageAt allocate page frame dataFlags bytes machine)
    (same : SamePage other page)
    (address : UInt64)
    (byte : UInt8) :
    seenByte (storeByte address byte machine).memory
        (storeByte address byte machine).cr3 other =
      if other = address then some byte
      else seenByte machine.memory machine.cr3 other := by
  obtain ⟨offset, inside, rfl⟩ := same.exists_offset isPage
  have found := isAt.found offset inside
  rcases storeByte_cases ready isApart address byte with
    ⟨unchanged, refused⟩ |
      ⟨mapping, words, there, isUser, noTable, stored, shown⟩
  · rw [unchanged, if_neg]
    rintro rfl
    have isRefused :
        ((dataFlags.union .present).contains .user &&
            (dataFlags.union .present).contains .writable) =
          false :=
      refused _ found
    exact absurd isRefused (by decide)
  · have tables := besideTables_fillFrame noTable words
    rw [stored, Machine.cr3_fillFrame, seenByte, seenByte, tables.translate,
      found, Option.map_some, Option.map_some, memoryByte, memoryByte,
      pageOf_frame_add isAt.isFrame inside]
    have aligned := aligned_of_isFrame isAt.isFrame
    have within : (frame + offset).toNat % 4096 = offset.toNat := by
      rw [UInt64.toNat_add]
      omega
    rw [within]
    by_cases samePage : SamePage address page
    · obtain ⟨place, placeInside, rfl⟩ := samePage.exists_offset isPage
      rw [isAt.found place placeInside] at there
      cases there
      dsimp only at shown
      have placeWithin : (frame + place).toNat % 4096 = place.toNat := by
        rw [UInt64.toNat_add]
        omega
      rw [pageOf_frame_add isAt.isFrame placeInside, placeWithin] at shown
      dsimp only
      rw [pageOf_frame_add isAt.isFrame placeInside, shown _ inside]
      by_cases here : offset = place
      · rw [here, if_pos rfl, if_pos rfl]
      · have apartHere : page + offset ≠ page + place := by
          intro isSame
          exact here (UInt64.add_left_inj page |>.mp (by
            rw [UInt64.add_comm offset, UInt64.add_comm place, isSame]))
        rw [if_neg (mt UInt64.toNat_inj.mp here), if_neg apartHere]
    · have different :=
        isAt.own address mapping there
          (ready.tables.userMonotone address mapping there isUser) samePage
      rw [frameByte_fillFrame_of_ne words different.symm, if_neg]
      rintro rfl
      exact samePage same

/-! ## The invariant -/

/-- What holds of the heap in every state of a run. -/
structure HeapInv
    (allocate : Allocate κ)
    (stack : UInt64)
    (space : Space κ)
    (written : Written) : Prop where
  ready : Ready allocate space.machine
  apart : TablesApart space.machine
  above : heapBase ≤ space.brk
  below : space.brk ≤ stack
  stackMapped : Mapped space.machine.memory space.machine.cr3 stack
  isOpen :
    ∀ address,
      heapBase ≤ address →
      address < stack →
      TopOpen space.machine address
  pages :
    ∀ page,
      IsPage page →
      InRange heapBase (roundUp space.brk) page →
      ∃ frame bytes, PageAt allocate page frame dataFlags bytes space.machine
  kept :
    ∀ address byte,
      written address = some byte →
      InRange heapBase space.brk address ∧
        seenByte space.machine.memory space.machine.cr3 address = some byte

/-- Where the stack of a program is. -/
structure StackAt (stack : UInt64) : Prop where
  isPage : IsPage stack
  above : heapBase ≤ stack
  below : stack < userLimit

namespace HeapInv

variable {stack : UInt64} {space : Space κ} {written : Written}

theorem rounds
    (stackAt : StackAt stack)
    {value : UInt64}
    (below : value ≤ stack) :
    value ≤ lastPage ∧ roundUp value ≤ stack := by
  have limit : userLimit.toNat = 2 ^ 47 := rfl
  have last : lastPage.toNat = 2 ^ 64 - 4096 := rfl
  have stackBelow := stackAt.below
  have stackIsPage := stackAt.isPage
  unfold IsPage at stackIsPage
  rw [UInt64.lt_iff_toNat_lt, limit] at stackBelow
  rw [UInt64.le_iff_toNat_le] at below
  have fits : value ≤ lastPage := by
    rw [UInt64.le_iff_toNat_le]
    omega
  have rounded := (toNat_roundUp fits).1
  refine ⟨fits, ?_⟩
  rw [UInt64.le_iff_toNat_le]
  omega

section

variable
  (inv : HeapInv allocate stack space written)
  (stackAt : StackAt stack)

include inv stackAt

theorem inRange_page
    {address : UInt64}
    (above : heapBase ≤ address)
    (before : pageOf address < space.brk) :
    InRange heapBase (roundUp space.brk) (pageOf address) := by
  obtain ⟨fits, _⟩ := rounds stackAt inv.below
  have rounded := (toNat_roundUp fits).1
  have start := toNat_pageOf address
  have base : heapBase.toNat = 0x700000000000 := rfl
  unfold InRange
  rw [UInt64.le_iff_toNat_le] at above ⊢
  rw [UInt64.lt_iff_toNat_lt] at before ⊢
  omega

theorem holds :
    HeapHolds space written where
  above := inv.above
  below := UInt64.lt_of_le_of_lt inv.below stackAt.below
  mapped address above before := by
    obtain ⟨frame, bytes, isAt⟩ :=
      inv.pages _ (isPage_pageOf address)
        (inv.inRange_page stackAt above before)
    obtain ⟨mapping, found, _, flags⟩ :=
      finds_of_pageAt (isPage_pageOf address) isAt (samePage_pageOf address).symm
    refine ⟨mapping, found, ?_⟩
    rw [flags]
    decide
  kept address byte isWritten := (inv.kept address byte isWritten).2

omit inv stackAt in
theorem ofStart (start : HeapStart allocate stack space) :
    HeapInv allocate stack space fun _ => none where
  ready := start.ready
  apart := start.apart
  above := by
    rw [start.brk]
    exact UInt64.le_refl _
  below := by
    rw [start.brk]
    exact start.stackAbove
  stackMapped := start.stackMapped
  isOpen := start.isOpen
  pages page _ inside := by
    rw [start.brk] at inside
    exact absurd inside (not_inRange_self heapBase page)
  kept address byte isWritten := by
    cases isWritten

/-- A store keeps the invariant. -/
theorem store
    (address : UInt64)
    (byte : UInt8) :
    HeapInv allocate stack
      { space with machine := storeByte address byte space.machine }
      (written.after
        { space with machine := storeByte address byte space.machine }
        (.store address byte)) := by
  have pageOfHeap :
      ∀ other,
        InRange heapBase space.brk other →
        ∃ frame bytes,
          PageAt allocate (pageOf other) frame dataFlags bytes space.machine := by
    intro other inside
    have start := toNat_pageOf other
    have before : pageOf other < space.brk := by
      have isBefore := UInt64.lt_iff_toNat_lt.mp inside.2
      rw [UInt64.lt_iff_toNat_lt]
      omega
    exact
      inv.pages _ (isPage_pageOf other)
        (inv.inRange_page stackAt inside.1 before)
  have seen :
      ∀ other,
        InRange heapBase space.brk other →
        seenByte (storeByte address byte space.machine).memory
            (storeByte address byte space.machine).cr3 other =
          if other = address then some byte
          else seenByte space.machine.memory space.machine.cr3 other := by
    intro other inside
    obtain ⟨frame, bytes, isAt⟩ := pageOfHeap other inside
    exact
      seenByte_storeByte inv.ready inv.apart (isPage_pageOf other) isAt
        (samePage_pageOf other).symm address byte
  have kept :
      ∀ other value,
        written.after
            { space with machine := storeByte address byte space.machine }
            (.store address byte) other =
          some value →
        InRange heapBase space.brk other ∧
          seenByte (storeByte address byte space.machine).memory
              (storeByte address byte space.machine).cr3 other =
            some value := by
    intro other value isWritten
    unfold Written.after at isWritten
    dsimp only at isWritten
    split at isWritten
    · rename_i inHeap
      by_cases here : other = address
      · subst here
        rw [Function.update_self] at isWritten
        refine ⟨inHeap, ?_⟩
        rw [seen other inHeap, if_pos rfl]
        exact isWritten
      · rw [Function.update_of_ne here] at isWritten
        obtain ⟨inside, was⟩ := inv.kept other value isWritten
        refine ⟨inside, ?_⟩
        rw [seen other inside, if_neg here]
        exact was
    · rename_i outside
      obtain ⟨inside, was⟩ := inv.kept other value isWritten
      refine ⟨inside, ?_⟩
      rw [seen other inside, if_neg]
      · exact was
      · rintro rfl
        exact outside inside
  rcases storeByte_cases inv.ready inv.apart address byte with
    ⟨unchanged, _⟩ | ⟨mapping, words, there, isUser, noTable, stored, _⟩
  · rw [unchanged] at kept ⊢
    exact { inv with kept := kept }
  · have tables := besideTables_fillFrame noTable words
    rw [stored] at kept ⊢
    constructor
    · exact inv.ready.beside tables
    · intro frame userFrame table
      rw [Machine.cr3_fillFrame, tables.userFrame] at userFrame
      rw [Machine.cr3_fillFrame, tables.tableFrame] at table
      exact inv.apart frame userFrame table
    · exact inv.above
    · exact inv.below
    · dsimp only
      rw [Mapped, Machine.cr3_fillFrame, tables.translate]
      exact inv.stackMapped
    · exact fun other above below =>
        topOpen_fillFrame noTable words (inv.isOpen other above below)
    · intro page isPage inside
      obtain ⟨frame, bytes, isAt⟩ := inv.pages page isPage inside
      exact ⟨frame, _, isAt.beside tables fun _ _ => rfl⟩
    · exact kept

end

end HeapInv

/-! ## Requests -/

section Request

variable {stack requested : UInt64} {space : Space κ} {written : Written}

theorem brkCall_lower
    (notZero : requested ≠ 0)
    (notAbove : ¬ space.brk < requested) :
    brkCall allocate requested space =
      .ok requested { space with brk := requested } := by
  unfold brkCall
  rw [Prog.gets_bind_apply, if_neg notZero, if_neg notAbove]
  rfl

section

variable
  (notZero : requested ≠ 0)
  (isAbove : space.brk < requested)

include notZero isAbove

theorem brkCall_raise :
    brkCall allocate requested space =
      (onMachine (growHeap allocate space.brk requested) >>= fun _ => do
        Prog.modify fun space => { space with brk := requested }
        pure requested) space := by
  unfold brkCall
  rw [Prog.gets_bind_apply, if_neg notZero, if_pos isAbove]

theorem brkCall_grown
    {machine : Machine κ}
    (grown :
      growHeap allocate space.brk requested space.machine = .ok () machine) :
    brkCall allocate requested space =
      .ok requested { space with machine := machine, brk := requested } := by
  rw [brkCall_raise notZero isAbove, Prog.bind_of_ok (onMachine_of_ok grown)]
  rfl

theorem brkCall_not_grown
    {machine : Machine κ}
    {code : UInt64}
    (failed :
      growHeap allocate space.brk requested space.machine =
        .err code machine) :
    brkCall allocate requested space =
      .err code { space with machine := machine } := by
  rw [brkCall_raise notZero isAbove, Prog.bind_of_err (onMachine_of_err failed)]

end

theorem growth_range
    (isAbove : space.brk < requested)
    (fits : requested ≤ lastPage) :
    IsPage (roundUp space.brk) ∧
      IsPage (roundUp requested) ∧
      roundUp space.brk ≤ roundUp requested := by
  have brkFits : space.brk ≤ lastPage :=
    UInt64.le_of_lt (UInt64.lt_of_lt_of_le isAbove fits)
  obtain ⟨first, firstIsPage⟩ := toNat_roundUp brkFits
  obtain ⟨stop, stopIsPage⟩ := toNat_roundUp fits
  refine ⟨firstIsPage, stopIsPage, ?_⟩
  rw [UInt64.lt_iff_toNat_lt] at isAbove
  rw [UInt64.le_iff_toNat_le]
  omega

theorem growHeap_cases
    (ready : Ready allocate space.machine)
    (isAbove : space.brk < requested)
    (fits : requested ≤ lastPage) :
    (∃ machine,
        growHeap allocate space.brk requested space.machine =
            .ok () machine ∧
          GrownTo allocate (roundUp space.brk) space.machine
            (roundUp requested) machine) ∨
      ∃ code reached machine,
        growHeap allocate space.brk requested space.machine =
            .err code machine ∧
          GrowthFailed allocate (roundUp space.brk) space.machine reached
            machine := by
  obtain ⟨firstIsPage, stopIsPage, inOrder⟩ := growth_range isAbove fits
  have ensures :
      Prog.Ensures _ (growHeap allocate space.brk requested) _ _ :=
    @ensures_growHeap κ allocate space.machine _ _ firstIsPage stopIsPage
      inOrder (turns (roundUp requested - roundUp space.brk))
  have enough :
      (roundUp requested).toNat - (roundUp space.brk).toNat <
        4096 * turns (roundUp requested - roundUp space.brk) := by
    rw [turns, UInt64.toNat_sub_of_le _ _ inOrder]
    omega
  have ends : Prog.Ends (growHeap allocate space.brk requested) :=
    ends_forPages stopIsPage
      (fun page => ends_newPage fun _ => .pure _) firstIsPage enough
  obtain ⟨onReturn, onError⟩ :=
    ensures space.machine (GrownTo.refl ready _)
  cases result : growHeap allocate space.brk requested space.machine with
  | ok value machine =>
      exact .inl ⟨machine, rfl, onReturn _ _ result⟩
  | err code machine =>
      obtain ⟨reached, failed⟩ := onError _ _ result
      exact .inr ⟨code, reached, machine, rfl, failed⟩
  | hang =>
      exact absurd result (ends _)

namespace HeapInv

section

variable
  (inv : HeapInv allocate stack space written)
  (stackAt : StackAt stack)

include inv stackAt

theorem grown
    {reached : UInt64}
    (changes :
      Changes allocate (InRange (roundUp space.brk) reached) space.machine
        machine) :
    (∀ page,
        IsPage page →
        InRange heapBase (roundUp space.brk) page →
        ∃ frame bytes, PageAt allocate page frame dataFlags bytes machine) ∧
      ∀ address,
        InRange heapBase space.brk address →
        seenByte machine.memory machine.cr3 address =
          seenByte space.machine.memory space.machine.cr3 address := by
  obtain ⟨fits, _⟩ := rounds stackAt inv.below
  have stopIsPage := (toNat_roundUp fits).2
  have kept :
      ∀ page frame bytes,
        IsPage page →
        InRange heapBase (roundUp space.brk) page →
        PageAt allocate page frame dataFlags bytes space.machine →
        PageAt allocate page frame dataFlags bytes machine := by
    intro page frame bytes isPage inside isAt
    apply changes.pageAt inv.ready isUser_dataFlags _ isAt
    intro offset within touched
    have same := (page_offset isPage within).1
    have isInside :=
      inRange_of_samePage (by decide : IsPage heapBase) stopIsPage same inside
    exact
      UInt64.lt_irrefl _ (UInt64.lt_of_lt_of_le isInside.2 touched.1)
  constructor
  · intro page isPage inside
    obtain ⟨frame, bytes, isAt⟩ := inv.pages page isPage inside
    exact ⟨frame, bytes, kept page frame bytes isPage inside isAt⟩
  · intro address inside
    have start := toNat_pageOf address
    have before : pageOf address < space.brk := by
      have isBefore := UInt64.lt_iff_toNat_lt.mp inside.2
      rw [UInt64.lt_iff_toNat_lt]
      omega
    have isPage := isPage_pageOf address
    have pageInside := inv.inRange_page stackAt inside.1 before
    obtain ⟨frame, bytes, isAt⟩ := inv.pages _ isPage pageInside
    have isAtAfter := kept _ _ _ isPage pageInside isAt
    have same : SamePage address (pageOf address) :=
      (samePage_pageOf address).symm
    obtain ⟨offset, within, isAddress⟩ := same.exists_offset isPage
    rw [isAddress, seenByte_of_pageAt isAt within,
      seenByte_of_pageAt isAtAfter within]

theorem lower
    (above : heapBase ≤ requested)
    (notAbove : ¬ space.brk < requested) :
    HeapInv allocate stack { space with brk := requested }
      (written.after { space with brk := requested }
        (.request requested)) := by
  rw [UInt64.not_lt] at notAbove
  have below := UInt64.le_trans notAbove inv.below
  have rounded := (toNat_roundUp (rounds stackAt below).1).1
  have wasRounded := (toNat_roundUp (rounds stackAt inv.below).1).1
  have smaller : roundUp requested ≤ roundUp space.brk := by
    rw [UInt64.le_iff_toNat_le] at notAbove ⊢
    omega
  refine
    { inv with
      above := above
      below := below
      pages := fun page isPage inside =>
        inv.pages page isPage
          ⟨inside.1, UInt64.lt_of_lt_of_le inside.2 smaller⟩
      kept := ?_ }
  intro address byte isWritten
  unfold Written.after at isWritten
  dsimp only at isWritten
  split at isWritten
  · rename_i before
    obtain ⟨inside, was⟩ := inv.kept address byte isWritten
    exact ⟨⟨inside.1, before⟩, was⟩
  · cases isWritten

theorem raise
    (isAbove : space.brk < requested)
    (fits : requested ≤ lastPage)
    (isGrown :
      GrownTo allocate (roundUp space.brk) space.machine (roundUp requested)
        machine) :
    HeapInv allocate stack { space with machine := machine, brk := requested }
      (written.after { space with machine := machine, brk := requested }
        (.request requested)) := by
  have changes := isGrown.given.changes
  obtain ⟨pages, seen⟩ := inv.grown stackAt changes
  have firstBelow := (rounds stackAt inv.below).2
  have belowStack : roundUp requested ≤ stack := by
    rw [← UInt64.not_lt]
    intro beyond
    exact isGrown.wereFree stack ⟨firstBelow, beyond⟩ inv.stackMapped
  have rounded := (toNat_roundUp fits).1
  have requestedBelow : requested ≤ stack := by
    rw [UInt64.le_iff_toNat_le] at belowStack ⊢
    omega
  constructor
  · exact changes.ready
  · exact changes.apart inv.ready inv.apart
  · exact UInt64.le_of_lt (UInt64.lt_of_le_of_lt inv.above isAbove)
  · exact requestedBelow
  · dsimp only
    rw [Mapped, changes.elsewhere stack]
    · exact inv.stackMapped
    · exact fun inside =>
        UInt64.lt_irrefl _ (UInt64.lt_of_lt_of_le inside.2 belowStack)
  · exact fun address above below =>
      isGrown.isOpen address (inv.isOpen address above below)
  · intro page isPage inside
    by_cases isOld : page < roundUp space.brk
    · exact pages page isPage ⟨inside.1, isOld⟩
    · obtain ⟨_, frame, _, isAt⟩ :=
        isGrown.given.pages page isPage ⟨UInt64.not_lt.mp isOld, inside.2⟩
      exact ⟨frame, _, isAt⟩
  · intro address byte isWritten
    unfold Written.after at isWritten
    dsimp only at isWritten
    split at isWritten
    · rename_i before
      obtain ⟨inside, was⟩ := inv.kept address byte isWritten
      exact ⟨⟨inside.1, before⟩, (seen address inside).trans was⟩
    · cases isWritten

theorem not_raised
    {reached : UInt64}
    (failed :
      GrowthFailed allocate (roundUp space.brk) space.machine reached
        machine)
    (requested : UInt64) :
    HeapInv allocate stack { space with machine := machine }
      (written.after { space with machine := machine }
        (.request requested)) := by
  obtain ⟨pages, seen⟩ := inv.grown stackAt failed.changes
  constructor
  · exact failed.changes.ready
  · exact failed.changes.apart inv.ready inv.apart
  · exact inv.above
  · exact inv.below
  · dsimp only
    rw [Mapped, failed.changes.elsewhere stack]
    · exact inv.stackMapped
    · exact fun inside => failed.wereFree stack inside inv.stackMapped
  · exact fun address above below =>
      failed.isOpen address (inv.isOpen address above below)
  · exact pages
  · intro address byte isWritten
    unfold Written.after at isWritten
    dsimp only at isWritten
    split at isWritten
    · obtain ⟨inside, was⟩ := inv.kept address byte isWritten
      exact ⟨inside, (seen address inside).trans was⟩
    · cases isWritten

end

end HeapInv

end Request

/-! ## Runs -/

section Runs

variable {stack : UInt64} {space : Space κ} {written : Written}

theorem heapStep_of_ok
    {requested value : UInt64}
    {next : Space κ}
    (returned : brkCall allocate requested space = .ok value next) :
    heapStep allocate (.request requested) space = some next := by
  unfold heapStep
  dsimp only
  rw [returned]
  rfl

theorem heapStep_of_err
    {requested code : UInt64}
    {next : Space κ}
    (failed : brkCall allocate requested space = .err code next) :
    heapStep allocate (.request requested) space = some next := by
  unfold heapStep
  dsimp only
  rw [failed]
  rfl

section

variable
  (inv : HeapInv allocate stack space written)
  (stackAt : StackAt stack)

include inv stackAt

/-- An orderly step keeps the invariant and is answered if there are frames. -/
theorem HeapInv.step
    {event : HeapEvent}
    (supplied : Supplied allocate stack space event)
    (orderly : Orderly stack space event) :
    Answered allocate stack space event ∧
      ∃ next,
        heapStep allocate event space = some next ∧
          HeapInv allocate stack next (written.after next event) := by
  cases event with
  | store address byte =>
      exact ⟨trivial, _, rfl, inv.store stackAt address byte⟩
  | request requested =>
      by_cases isZero : requested = 0
      · subst isZero
        refine ⟨⟨fun _ => rfl, fun above => absurd above (by decide)⟩, ?_⟩
        exact
          ⟨space, rfl,
            { inv with
              kept := fun address byte isWritten => by
                unfold Written.after at isWritten
                dsimp only at isWritten
                split at isWritten
                · exact inv.kept address byte isWritten
                · cases isWritten }⟩
      · obtain ⟨above, fits, free⟩ := orderly.resolve_left isZero
        have notAsked : requested = 0 → brkCall allocate requested space =
            .ok space.brk space :=
          fun zero => absurd zero isZero
        by_cases isAbove : space.brk < requested
        · rcases growHeap_cases inv.ready isAbove fits with
            ⟨machine, grew, isGrown⟩ | ⟨code, reached, machine, grew, failed⟩
          · have call := brkCall_grown isZero isAbove grew
            exact
              ⟨⟨notAsked, fun _ _ => ⟨_, call, rfl⟩⟩, _,
                heapStep_of_ok call, inv.raise stackAt isAbove fits isGrown⟩
          · have call := brkCall_not_grown isZero isAbove grew
            refine
              ⟨⟨notAsked, fun _ below => ?_⟩, _, heapStep_of_err call,
                inv.not_raised stackAt failed requested⟩
            obtain ⟨firstIsPage, stopIsPage, inOrder⟩ :=
              growth_range isAbove fits
            have belowStack :=
              (HeapInv.rounds stackAt (UInt64.le_of_lt below)).2
            have first := (HeapInv.rounds stackAt inv.below).1
            have brkRounded := (toNat_roundUp first).1
            have opened :
                ∀ address,
                  InRange (roundUp space.brk) (roundUp requested) address →
                  TopOpen space.machine address := by
              intro address inside
              apply inv.isOpen address
              · have brkAbove := inv.above
                have after := inside.1
                rw [UInt64.le_iff_toNat_le] at brkAbove after ⊢
                omega
              · exact UInt64.lt_of_lt_of_le inside.2 belowStack
            have enough :
                Enough allocate space.machine.supply
                  (0 +
                    4 *
                      (((roundUp requested).toNat -
                          (roundUp space.brk).toNat) /
                        4096)) := by
              rw [Nat.zero_add]
              exact supplied above below
            exact
              ((growHeap_returns firstIsPage stopIsPage inOrder
                (UInt64.le_of_lt
                  (UInt64.lt_of_le_of_lt belowStack stackAt.below))
                inv.ready (free below isAbove) opened enough _).2 _ _ grew).elim
        · have call :=
            @brkCall_lower κ allocate requested space isZero isAbove
          exact
            ⟨⟨notAsked, fun _ _ => ⟨_, call, rfl⟩⟩, _, heapStep_of_ok call,
              inv.lower stackAt above isAbove⟩

theorem HeapInv.orderly_of_answered
    {event : HeapEvent}
    (answered : Answered allocate stack space event)
    {next : Space κ}
    {later : Written}
    (stepped : heapStep allocate event space = some next)
    (holds : HeapHolds next later) :
    Orderly stack space event := by
  cases event with
  | store address byte =>
      exact trivial
  | request requested =>
      by_cases isZero : requested = 0
      · exact .inl isZero
      · right
        unfold heapStep at stepped
        dsimp only at stepped
        have limit : userLimit.toNat = 2 ^ 47 := rfl
        have last : lastPage.toNat = 2 ^ 64 - 4096 := rfl
        have brkBelow :=
          UInt64.lt_iff_toNat_lt.mp
            (UInt64.lt_of_le_of_lt inv.below stackAt.below)
        have above : heapBase ≤ requested := by
          rw [← UInt64.not_lt]
          intro low
          have notAbove : ¬ space.brk < requested := by
            rw [UInt64.not_lt]
            exact
              UInt64.le_of_lt (UInt64.lt_of_lt_of_le low inv.above)
          rw [brkCall_lower isZero notAbove] at stepped
          cases stepped
          exact
            UInt64.lt_irrefl _ (UInt64.lt_of_lt_of_le low holds.above)
        have fits : requested ≤ lastPage := by
          rw [← UInt64.not_lt]
          intro large
          have isLarge := UInt64.lt_iff_toNat_lt.mp large
          have isAbove : space.brk < requested := by
            rw [UInt64.lt_iff_toNat_lt]
            omega
          have grew :
              growHeap allocate space.brk requested space.machine =
                .ok () space.machine := by
            rw [growHeap, roundUp_of_large large, turns,
              forPages_of_le UInt64.zero_le]
            rfl
          rw [brkCall_grown isZero isAbove grew] at stepped
          cases stepped
          have below := UInt64.lt_iff_toNat_lt.mp holds.below
          dsimp only at below
          omega
        refine ⟨above, fits, fun below isAbove => ?_⟩
        obtain ⟨final, returned, _⟩ := answered.2 above below
        rcases growHeap_cases inv.ready isAbove fits with
          ⟨machine, grew, isGrown⟩ | ⟨code, reached, machine, grew, failed⟩
        · exact isGrown.wereFree
        · rw [brkCall_not_grown isZero isAbove grew] at returned
          cases returned

theorem HeapInv.runsWell_iff
    {events : List HeapEvent}
    (supplied : Along allocate (Supplied allocate stack) space events) :
    RunsWell allocate stack space written events ↔
      Along allocate (Orderly stack) space events := by
  induction events generalizing space written with
  | nil =>
      exact iff_of_true (inv.holds stackAt) trivial
  | cons event rest inductionHypothesis =>
      obtain ⟨suppliedHere, suppliedLater⟩ := supplied
      constructor
      · rintro ⟨_, answered, next, stepped, runsWell⟩
        have holds : HeapHolds next (written.after next event) := by
          cases rest with
          | nil => exact runsWell
          | cons _ _ => exact runsWell.1
        have orderly :=
          inv.orderly_of_answered stackAt answered stepped holds
        obtain ⟨_, reached, isReached, invReached⟩ :=
          inv.step stackAt suppliedHere orderly
        rw [stepped] at isReached
        cases isReached
        refine ⟨orderly, fun other isOther => ?_⟩
        rw [stepped] at isOther
        cases isOther
        exact
          (inductionHypothesis invReached (suppliedLater _ stepped)).mp runsWell
      · rintro ⟨orderly, orderlyLater⟩
        obtain ⟨answered, next, stepped, invNext⟩ :=
          inv.step stackAt suppliedHere orderly
        exact
          ⟨inv.holds stackAt, answered, next, stepped,
            (inductionHypothesis invNext (suppliedLater _ stepped)).mpr
              (orderlyLater _ stepped)⟩

end

end Runs

/--
A run of `brk` calls and stores goes well exactly if no request is below the heap
or cannot be rounded up, and no raise meets a page.
-/
theorem brk_runs_well_iff
    {stack : UInt64}
    {space : Space κ}
    (start : HeapStart allocate stack space)
    {events : List HeapEvent}
    (supplied : Along allocate (Supplied allocate stack) space events) :
    RunsWell allocate stack space (fun _ => none) events ↔
      Along allocate (Orderly stack) space events :=
  (HeapInv.ofStart start).runsWell_iff
    ⟨start.stackIsPage, start.stackAbove, start.stackBelow⟩ supplied

/-! ## A program with a stack -/

def firstStackPage : UInt64 := 0x7EFFFFFC0000

theorem exists_heapStart :
    ∃ machine : Machine FrameAllocator,
      HeapStart FrameAllocator.allocate firstStackPage
          ⟨machine, mmapBase, heapBase⟩ ∧
        Enough FrameAllocator.allocate machine.supply 8 ∧
        ∀ address,
          ¬ SamePage address firstStackPage →
          ¬ Mapped machine.memory machine.cr3 address := by
  have nothing :
      ∀ address,
        ¬ Mapped emptyTables.memory emptyTables.cr3 address := by
    intro address
    rw [Mapped, translate_emptyTables]
    exact Bool.false_ne_true
  have isOpen : ∀ address, TopOpen emptyTables address :=
    fun _ isPresent => absurd (emptyTables_absent _) isPresent
  obtain ⟨machine, isMade, left⟩ :=
    @newPage_returns FrameAllocator FrameAllocator.allocate dataFlags
      emptyTables firstStackPage _ _ 8 ready_emptyTables isUser_dataFlags
      fills_nothing (by decide) (by decide) (nothing _) (isOpen _)
      (by unfold Enough; decide +kernel)
  have made :=
    (@newPage_spec FrameAllocator FrameAllocator.allocate emptyTables
      firstStackPage dataFlags _ _ ready_emptyTables isUser_dataFlags
      combined_dataFlags fills_nothing).1 _ _ isMade
  have noFrames : TablesApart emptyTables := by
    rintro frame ⟨address, mapping, found, _⟩
    rw [translate_emptyTables] at found
    cases found
  refine ⟨machine, ?_, left, ?_⟩
  · constructor
    · exact made.changes.ready
    · exact made.changes.apart ready_emptyTables noFrames
    · rfl
    · decide
    · decide
    · decide
    · obtain ⟨frame, _, isAt⟩ := made.here
      obtain ⟨mapping, found, _⟩ :=
        finds_of_pageAt (by decide) isAt (rfl : SamePage firstStackPage _)
      exact Option.isSome_iff_exists.mpr ⟨mapping, found⟩
    · intro address _ _
      exact
        (@topOpen_newPage FrameAllocator FrameAllocator.allocate dataFlags
          emptyTables firstStackPage address _ _ ready_emptyTables
          isUser_dataFlags combined_dataFlags fills_nothing
          (isOpen address)).1 _ _ isMade
  · intro address different
    rw [Mapped, made.changes.elsewhere address different]
    exact nothing address

theorem frames_of_page :
    4 * (((roundUp (heapBase + 0x1000)).toNat - (roundUp heapBase).toNat) / 4096) =
      4 := by
  decide

/-- A page of heap, and a byte in it. -/
theorem brk_runs_well_once :
    ∃ machine : Machine FrameAllocator,
      HeapStart FrameAllocator.allocate firstStackPage
          ⟨machine, mmapBase, heapBase⟩ ∧
        RunsWell FrameAllocator.allocate firstStackPage
          ⟨machine, mmapBase, heapBase⟩ (fun _ => none)
          [.request (heapBase + 0x1000), .store heapBase 7] := by
  obtain ⟨machine, start, left, nothing⟩ := exists_heapStart
  refine ⟨machine, start, (brk_runs_well_iff start ?_).mpr ?_⟩
  · refine ⟨fun _ _ => ?_, fun _ _ => ⟨trivial, fun _ _ => trivial⟩⟩
    dsimp only
    rw [frames_of_page]
    exact left.mono (by decide)
  · refine
      ⟨.inr ⟨by decide, by decide, fun _ _ address inside => ?_⟩,
        fun _ _ => ⟨trivial, fun _ _ => trivial⟩⟩
    apply nothing
    have stop : (roundUp (heapBase + 0x1000)).toNat = 0x700000001000 := rfl
    have page : firstStackPage.toNat = 0x7EFFFFFC0000 := rfl
    have before := UInt64.lt_iff_toNat_lt.mp inside.2
    unfold SamePage
    omega

/-- A break that was lowered cannot be raised again. -/
theorem brk_not_raised_again :
    ∃ machine : Machine FrameAllocator,
      HeapStart FrameAllocator.allocate firstStackPage
          ⟨machine, mmapBase, heapBase⟩ ∧
        Along FrameAllocator.allocate
          (Supplied FrameAllocator.allocate firstStackPage)
          ⟨machine, mmapBase, heapBase⟩
          [.request (heapBase + 0x1000), .request heapBase,
            .request (heapBase + 0x1000)] ∧
        ¬ RunsWell FrameAllocator.allocate firstStackPage
          ⟨machine, mmapBase, heapBase⟩ (fun _ => none)
          [.request (heapBase + 0x1000), .request heapBase,
            .request (heapBase + 0x1000)] := by
  obtain ⟨machine, start, left, nothing⟩ := exists_heapStart
  refine ⟨machine, start, ?_⟩
  have isAbove : heapBase < heapBase + 0x1000 := by decide
  have noFrames :
      4 *
          (((roundUp heapBase).toNat - (roundUp (heapBase + 0x1000)).toNat) /
            4096) =
        0 := by
    decide
  have free :
      ∀ address,
        InRange (roundUp heapBase) (roundUp (heapBase + 0x1000)) address →
        ¬ Mapped machine.memory machine.cr3 address := by
    intro address inside
    apply nothing
    have stop : (roundUp (heapBase + 0x1000)).toNat = 0x700000001000 := rfl
    have page : firstStackPage.toNat = 0x7EFFFFFC0000 := rfl
    have before := UInt64.lt_iff_toNat_lt.mp inside.2
    unfold SamePage
    omega
  have opened :
      ∀ address,
        InRange (roundUp heapBase) (roundUp (heapBase + 0x1000)) address →
        TopOpen machine address := by
    intro address inside
    apply start.isOpen address
    · exact inside.1
    · exact UInt64.lt_trans inside.2 (by decide)
  obtain ⟨leaves, neverFails⟩ :=
    @growHeap_returns FrameAllocator FrameAllocator.allocate machine
      (roundUp heapBase) (roundUp (heapBase + 0x1000)) 4 (by decide)
      (by decide) (by decide) (by decide) start.ready free opened left
      (turns (roundUp (heapBase + 0x1000) - roundUp heapBase))
  rcases @growHeap_cases _ FrameAllocator.allocate (heapBase + 0x1000)
      ⟨machine, mmapBase, heapBase⟩ start.ready isAbove (by decide) with
    ⟨larger, grew, isGrown⟩ | ⟨code, reached, larger, grew, _⟩
  · have raised :=
      heapStep_of_ok
        (@brkCall_grown _ FrameAllocator.allocate (heapBase + 0x1000)
          ⟨machine, mmapBase, heapBase⟩ (by decide) isAbove larger grew)
    have lowered :=
      heapStep_of_ok
        (@brkCall_lower _ FrameAllocator.allocate heapBase
          ⟨larger, mmapBase, heapBase + 0x1000⟩ (by decide)
          (by decide : ¬ heapBase + 0x1000 < heapBase))
    have enough := leaves _ _ grew
    constructor
    · refine ⟨fun _ _ => ?_, fun next isNext => ?_⟩
      · dsimp only
        rw [frames_of_page]
        exact left.mono (by decide)
      rw [raised] at isNext
      cases isNext
      refine ⟨fun _ _ => ?_, fun next isNext => ?_⟩
      · dsimp only
        rw [noFrames]
        exact enough.mono (by decide)
      rw [lowered] at isNext
      cases isNext
      refine ⟨fun _ _ => ?_, fun _ _ => trivial⟩
      dsimp only
      rw [frames_of_page]
      exact enough
    · rintro ⟨_, _, second, isSecond, _, _, third, isThird, _, answered, _⟩
      rw [raised] at isSecond
      cases isSecond
      rw [lowered] at isThird
      cases isThird
      obtain ⟨_, returned, _⟩ := answered.2 (by decide) (by decide)
      rcases @growHeap_cases _ FrameAllocator.allocate (heapBase + 0x1000)
          ⟨larger, mmapBase, heapBase⟩ isGrown.given.changes.ready isAbove
          (by decide) with
        ⟨_, _, again⟩ | ⟨code, reached, same, failed, _⟩
      · have inside :
            InRange (roundUp heapBase) (roundUp (heapBase + 0x1000))
              heapBase :=
          ⟨by decide, by decide⟩
        obtain ⟨_, frame, _, isAt⟩ :=
          isGrown.given.pages heapBase (by decide) inside
        obtain ⟨mapping, found, _⟩ :=
          finds_of_pageAt (by decide) isAt (rfl : SamePage heapBase _)
        exact
          again.wereFree heapBase inside
            (Option.isSome_iff_exists.mpr ⟨mapping, found⟩)
      · have notRaised :=
          @brkCall_not_grown _ FrameAllocator.allocate (heapBase + 0x1000)
            ⟨larger, mmapBase, heapBase⟩ (by decide) isAbove same code failed
        rw [notRaised] at returned
        cases returned
  · exact (neverFails _ _ grew).elim

end VibuxOS.UserSpace
