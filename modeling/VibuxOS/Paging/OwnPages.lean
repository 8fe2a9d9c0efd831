import VibuxOS.Paging.FrameBytes

namespace VibuxOS.Paging

open VibuxOS.Lib

/-!
# Pages on frames of their own

A page is given a frame from the callback, mapped and filled.  The callback
returns only frames that are not in use, so no other page of the user has that
frame and no later frame from the callback is that one.  So a page that has been
filled stays as it is while other pages are.
-/

variable {κ : Type} {allocate : Allocate κ} {before machine after : Machine κ}

variable {frame : UInt64}

/-- The tables are well formed, and the callback is good for more pages. -/
structure Ready
    (allocate : Allocate κ)
    (machine : Machine κ) : Prop where
  tables : TableWellFormed machine.memory machine.cr3
  unused : Unused allocate machine

/-- A page is mapped on a frame of its own, which has some bytes. -/
structure PageAt
    (allocate : Allocate κ)
    (page frame : UInt64)
    (flags : PageFlags)
    (bytes : Nat → UInt8)
    (machine : Machine κ) : Prop where
  isFrame : frame &&& entryAddrMask = frame
  found :
    ∀ offset : UInt64,
      offset.toNat < 4096 →
      translate machine.memory machine.cr3 (page + offset) =
        some
          { virtualAddress := page
            physicalAddress := frame + offset
            flags := flags.union .present
            pageSize := pageSize }
  permitted : permits user machine.memory machine.cr3 page = true
  bytes :
    ∀ offset,
      offset < 4096 →
      frameByte machine.memory frame offset = bytes offset
  own :
    ∀ other mapping,
      translate machine.memory machine.cr3 other = some mapping →
      permits user machine.memory machine.cr3 other = true →
      ¬ SamePage other page →
      pageOf mapping.physicalAddress ≠ frame
  noTable : ¬ TableFrame machine.memory machine.cr3 frame
  taken : ¬ Pending allocate machine.supply frame

/-- The second machine has all pages of the first and some new ones. -/
structure Adds
    (allocate : Allocate κ)
    (new : UInt64 → Prop)
    (before after : Machine κ) : Prop where
  ready : Ready allocate after
  pages :
    ∀ page frame flags bytes,
      PageAt allocate page frame flags bytes before →
      PageAt allocate page frame flags bytes after
  elsewhere :
    ∀ other,
      (∀ page, new page → ¬ SamePage other page) →
      translate after.memory after.cr3 other =
        translate before.memory before.cr3 other

namespace Adds

theorem refl
    (ready : Ready allocate machine)
    (new : UInt64 → Prop) :
    Adds allocate new machine machine :=
  ⟨ready, fun _ _ _ _ page => page, fun _ _ => rfl⟩

theorem trans
    {new : UInt64 → Prop}
    (first : Adds allocate new before machine)
    (second : Adds allocate new machine after) :
    Adds allocate new before after where
  ready := second.ready
  pages page frame flags bytes at_ :=
    second.pages page frame flags bytes
      (first.pages page frame flags bytes at_)
  elsewhere other apart :=
    (second.elsewhere other apart).trans (first.elsewhere other apart)

theorem mono
    {new more : UInt64 → Prop}
    (adds : Adds allocate new before after)
    (among : ∀ page, new page → more page) :
    Adds allocate more before after where
  ready := adds.ready
  pages := adds.pages
  elsewhere other apart :=
    adds.elsewhere other fun page isNew => apart page (among page isNew)

end Adds

/-! ## What the callback was called for -/

section

variable
  {holds : κ → Prop}
  (closed : ∀ supply, holds supply → holds (allocate supply).2)

include closed

theorem newTable_keepsSupply
    (slot : TableSlot)
    (userBit : UInt64) :
    Prog.Keeps (fun machine => holds machine.supply)
      (newTable allocate slot userBit) := by
  intro machine held
  rw [newTable_eq]
  cases (allocate machine.supply).1 with
  | none =>
      constructor
      · intro _ _ returned
        cases returned
      · intro _ _ failed
        cases failed
        exact closed _ held
  | some allocated =>
      constructor
      · intro _ _ returned
        cases returned
        exact closed _ held
      · intro _ _ failed
        cases failed

theorem enterTop_keepsSupply
    (slot : TableSlot)
    (isUser : Bool)
    (userBit : UInt64) :
    Prog.Keeps (fun machine => holds machine.supply)
      (enterTop allocate slot isUser userBit) :=
  .bind (.of_readOnly (.gets _)) fun _ =>
    .ite (newTable_keepsSupply closed slot userBit)
      (.ite (.of_readOnly (.fail _)) (.of_readOnly (.pure _)))

theorem enterTable_keepsSupply
    (slot : TableSlot)
    (isUser : Bool)
    (userBit : UInt64) :
    Prog.Keeps (fun machine => holds machine.supply)
      (enterTable allocate slot isUser userBit) :=
  .bind (.of_readOnly (.gets _)) fun _ =>
    .ite (.of_readOnly (.fail _))
      (.ite (newTable_keepsSupply closed slot userBit)
        (.ite
          (.bind (.modify fun _ held => held)
            fun _ => .of_readOnly (.pure _))
          (.of_readOnly (.pure _))))

theorem map4k_keepsSupply
    (virtualAddress physicalAddress : UInt64)
    (flags : PageFlags) :
    Prog.Keeps (fun machine => holds machine.supply)
      (map4k allocate virtualAddress physicalAddress flags) :=
  .ite (.of_readOnly (.fail _)) (.ite (.of_readOnly (.fail _))
    (.ite (.of_readOnly (.fail _))
      (.bind (.of_readOnly (.gets _)) fun _ =>
        .bind (enterTop_keepsSupply closed _ _ _) fun _ =>
        .bind (enterTable_keepsSupply closed _ _ _) fun _ =>
        .bind (enterTable_keepsSupply closed _ _ _) fun _ =>
        .bind (.of_readOnly (.gets _)) fun _ =>
          .ite (.of_readOnly (.fail _)) (.modify fun _ held => held))))

end

/-- What the callback returns from a supply on are frame addresses. -/
def Addresses (allocate : Allocate κ) (supply : κ) : Prop :=
  ∀ call frame,
    (allocate ((fun supply => (allocate supply).2)^[call] supply)).1 =
      some frame →
    frame &&& entryAddrMask = frame

theorem Addresses.next
    {supply : κ}
    (addresses : Addresses allocate supply) :
    Addresses allocate (allocate supply).2 := by
  intro call frame isHanded
  apply addresses (call + 1)
  rwa [Function.iterate_succ_apply]

theorem Addresses.now
    {supply : κ}
    (addresses : Addresses allocate supply)
    (isHanded : (allocate supply).1 = some frame) :
    frame &&& entryAddrMask = frame :=
  addresses 0 frame isHanded

theorem FrameAllocator.addresses
    {allocator : FrameAllocator}
    (wellFormed : allocator.WellFormed) :
    Addresses FrameAllocator.allocate allocator := by
  intro call
  induction call generalizing allocator with
  | zero =>
      intro frame isHanded
      exact (Supplies.now isHanded).masked wellFormed
  | succ call inductionHypothesis =>
      exact inductionHypothesis wellFormed.allocate

theorem unused_emptyTables :
    Unused FrameAllocator.allocate emptyTables where
  fresh := fresh_emptyTables
  userFree frame _ := by
    rintro ⟨virtualAddress, mapping, found, _⟩
    rw [translate_eq, path_emptyTables, List.getLast?_singleton,
      Option.bind_some, mappingAt_of_absent (emptyTables_absent _),
      ite_self] at found
    cases found
  addresses := FrameAllocator.addresses wellFormed_supply_emptyTables

abbrev Machine.called
    (allocate : Allocate κ)
    (machine : Machine κ) :
    Machine κ :=
  { machine with supply := (allocate machine.supply).2 }

/-- The frame of a call is not in use, neither now nor later. -/
structure Taken
    (allocate : Allocate κ)
    (frame : UInt64)
    (machine : Machine κ) : Prop where
  isFrame : frame &&& entryAddrMask = frame
  noTable : ¬ TableFrame machine.memory machine.cr3 frame
  noPage : ¬ UserFrame machine.memory machine.cr3 frame
  notPending : ¬ Pending allocate machine.supply frame

theorem Ready.call
    (ready : Ready allocate machine)
    (isHanded : (allocate machine.supply).1 = some frame) :
    Ready allocate (machine.called allocate) ∧
      Taken allocate frame (machine.called allocate) := by
  have fresh := ready.unused.fresh
  have isFrame := Addresses.now ready.unused.addresses isHanded
  have pending := Pending.now isHanded
  rw [isFrame] at pending
  have notAgain := fresh.not_again isHanded
  rw [isFrame] at notAgain
  have laterFresh := (kept_of_call ⟨ready.tables, fresh⟩).sound.fresh
  exact
    ⟨⟨ready.tables, laterFresh,
        fun frame pending => ready.unused.userFree frame pending.of_next,
        Addresses.next ready.unused.addresses⟩,
      isFrame, fresh.unused frame pending,
      ready.unused.userFree frame pending, notAgain⟩

theorem Ready.adds_call
    (ready : Ready allocate machine)
    (isHanded : (allocate machine.supply).1 = some frame)
    (new : UInt64 → Prop) :
    Adds allocate new machine (machine.called allocate) where
  ready := (ready.call isHanded).1
  pages _ _ _ _ pageAt :=
    { pageAt with taken := fun pending => pageAt.taken pending.of_next }
  elsewhere _ _ := rfl

/-! ## Mapping a page on the frame of a call -/

theorem aligned_of_isFrame
    (isFrame : frame &&& entryAddrMask = frame) :
    frame.toNat % 4096 = 0 := by
  have multiple := toNat_and_mod_page frame entryAddrMask (by decide)
  rwa [isFrame] at multiple

theorem pageOf_frame_add
    {frame offset : UInt64}
    (isFrame : frame &&& entryAddrMask = frame)
    (inside : offset.toNat < 4096) :
    pageOf (frame + offset) = frame :=
  (page_offset (aligned_of_isFrame isFrame) inside).2.1

theorem SamePage.exists_offset
    {page other : UInt64}
    (same : SamePage other page)
    (aligned : page.toNat % 4096 = 0) :
    ∃ offset : UInt64, offset.toNat < 4096 ∧ other = page + offset := by
  unfold SamePage at same
  have notBelow : page ≤ other := by
    rw [UInt64.le_iff_toNat_le]
    omega
  refine ⟨other - page, ?_, ?_⟩
  · rw [UInt64.toNat_sub_of_le _ _ notBelow]
    omega
  · rw [UInt64.add_comm, UInt64.sub_add_cancel]

theorem PageFlags.contains_union
    {flags wanted : PageFlags}
    (more : PageFlags)
    (apart : more.bits &&& wanted.bits = 0) :
    (flags.union more).contains wanted = flags.contains wanted := by
  rw [PageFlags.contains, PageFlags.contains, PageFlags.union,
    or_and_of_disjoint _ apart]

variable {page frame : UInt64} {flags : PageFlags}

theorem Maps.frame_of_found
    (maps : Maps before after page frame flags)
    (isFrame : frame &&& entryAddrMask = frame)
    (aligned : page.toNat % 4096 = 0)
    {other : UInt64}
    {mapping : Mapping}
    (found : translate after.memory after.cr3 other = some mapping)
    (permitted : permits user after.memory after.cr3 other = true) :
    SamePage other page ∧ pageOf mapping.physicalAddress = frame ∨
      ¬ SamePage other page ∧
        UserFrame before.memory before.cr3 (pageOf mapping.physicalAddress) := by
  by_cases same : SamePage other page
  · obtain ⟨offset, inside, rfl⟩ := same.exists_offset aligned
    rw [maps.here offset inside, Option.some_inj] at found
    rw [← found]
    exact Or.inl ⟨same, pageOf_frame_add isFrame inside⟩
  · obtain ⟨translation, access⟩ := maps.elsewhere other same
    have mapped : Mapped after.memory after.cr3 other :=
      Option.isSome_iff_exists.mpr ⟨_, found⟩
    rw [translation] at found
    exact Or.inr ⟨same, other, mapping, found,
      (access.mp ⟨mapped, permitted⟩).2, rfl⟩

/-- `map_4k` has mapped a page for the user on a frame that was not in use. -/
structure MapsOn
    (allocate : Allocate κ)
    (before after : Machine κ)
    (page frame : UInt64)
    (flags : PageFlags) : Prop where
  ready : Ready allocate before
  taken : Taken allocate frame before
  aligned : page.toNat % 4096 = 0
  isUser : flags.contains .user = true
  maps : Maps before after page frame flags
  sound : Sound allocate after
  grows : Grows allocate before after
  addresses : Addresses allocate after.supply

namespace MapsOn

section

variable (mapsOn : MapsOn allocate before after page frame flags)

include mapsOn

theorem noTable :
    ¬ TableFrame after.memory after.cr3 frame := by
  intro table
  rcases mapsOn.grows.tables frame table with old | pending
  · exact mapsOn.taken.noTable old
  · exact mapsOn.taken.notPending pending

theorem notPending :
    ¬ Pending allocate after.supply frame :=
  fun pending => mapsOn.taken.notPending (mapsOn.grows.pending frame pending)

theorem notSamePage
    {other : UInt64}
    {mapping : Mapping}
    (found : translate before.memory before.cr3 other = some mapping) :
    ¬ SamePage other page := by
  intro same
  have mapped : Mapped before.memory before.cr3 other :=
    Option.isSome_iff_exists.mpr ⟨_, found⟩
  rw [same.mapped, Mapped, mapsOn.maps.unmapped] at mapped
  cases mapped

theorem readyAfter :
    Ready allocate after := by
  refine ⟨mapsOn.sound.tables, mapsOn.sound.fresh, ?_, mapsOn.addresses⟩
  rintro other pending ⟨virtualAddress, mapping, found, permitted, rfl⟩
  rcases mapsOn.maps.frame_of_found mapsOn.taken.isFrame mapsOn.aligned found
      permitted with ⟨_, isFrame⟩ | ⟨_, userFrame⟩
  · rw [isFrame] at pending
    exact mapsOn.notPending pending
  · exact mapsOn.ready.unused.userFree _
      (mapsOn.grows.pending _ pending) userFrame

theorem pageAt :
    PageAt allocate page frame flags (frameByte after.memory frame) after where
  isFrame := mapsOn.taken.isFrame
  found := mapsOn.maps.here
  permitted := by
    have found := mapsOn.maps.here 0 (by decide)
    rw [UInt64.add_zero] at found
    apply mapsOn.sound.tables.userMonotone page _ found
    rw [PageFlags.contains_union _ (by decide)]
    exact mapsOn.isUser
  bytes _ _ := rfl
  own other mapping found permitted different := by
    rcases mapsOn.maps.frame_of_found mapsOn.taken.isFrame mapsOn.aligned
        found permitted with ⟨same, _⟩ | ⟨_, userFrame⟩
    · exact absurd same different
    · rintro rfl
      exact mapsOn.taken.noPage userFrame
  noTable := mapsOn.noTable
  taken := mapsOn.notPending

end

end MapsOn

namespace PageAt

variable {other own : UInt64} {otherFlags : PageFlags} {bytes : Nat → UInt8}

theorem found_first
    (pageAt : PageAt allocate page frame flags bytes machine) :
    translate machine.memory machine.cr3 page =
      some
        { virtualAddress := page
          physicalAddress := frame
          flags := flags.union .present
          pageSize := pageSize } := by
  have found := pageAt.found 0 (by decide)
  rwa [UInt64.add_zero, UInt64.add_zero] at found

theorem userFrame
    (pageAt : PageAt allocate page frame flags bytes machine) :
    UserFrame machine.memory machine.cr3 frame := by
  refine ⟨page, _, pageAt.found_first, pageAt.permitted, ?_⟩
  have first := pageOf_frame_add pageAt.isFrame (by decide : (0 : UInt64).toNat < 4096)
  rwa [UInt64.add_zero] at first

theorem mapsOn
    (pageAt : PageAt allocate other own otherFlags bytes before)
    (mapsOn : MapsOn allocate before after page frame flags) :
    PageAt allocate other own otherFlags bytes after where
  isFrame := pageAt.isFrame
  found offset inside := by
    have found := pageAt.found offset inside
    rw [(mapsOn.maps.elsewhere _ (mapsOn.notSamePage found)).1, found]
  permitted := by
    have different := mapsOn.notSamePage pageAt.found_first
    have mapped : Mapped before.memory before.cr3 other :=
      Option.isSome_iff_exists.mpr ⟨_, pageAt.found_first⟩
    exact ((mapsOn.maps.elsewhere other different).2.mpr
      ⟨mapped, pageAt.permitted⟩).2
  bytes offset inside := by
    rw [← pageAt.bytes offset inside, frameByte, frameByte,
      mapsOn.grows.words _ pageAt.noTable pageAt.taken]
  own third mapping found permitted different := by
    rcases mapsOn.maps.frame_of_found mapsOn.taken.isFrame mapsOn.aligned
        found permitted with ⟨_, isFrame⟩ | ⟨elsewhere, _⟩
    · rw [isFrame]
      rintro rfl
      exact mapsOn.taken.noPage pageAt.userFrame
    · obtain ⟨translation, access⟩ := mapsOn.maps.elsewhere third elsewhere
      have mapped : Mapped after.memory after.cr3 third :=
        Option.isSome_iff_exists.mpr ⟨_, found⟩
      rw [translation] at found
      exact pageAt.own third mapping found (access.mp ⟨mapped, permitted⟩).2
        different
  noTable table := by
    rcases mapsOn.grows.tables own table with old | pending
    · exact pageAt.noTable old
    · exact pageAt.taken pending
  taken pending := pageAt.taken (mapsOn.grows.pending own pending)

theorem beside
    (pageAt : PageAt allocate page frame flags bytes machine)
    {changed : Memory}
    {more : Nat → UInt8}
    (tables : BesideTables machine.memory changed machine.cr3)
    (shown :
      ∀ offset, offset < 4096 → frameByte changed frame offset = more offset) :
    PageAt allocate page frame flags more
      { machine with memory := changed } where
  isFrame := pageAt.isFrame
  found offset inside := by
    rw [← pageAt.found offset inside]
    exact tables.translate _
  permitted := by
    rw [← pageAt.permitted]
    exact tables.permits _ _
  bytes := shown
  own third mapping found permitted different := by
    rw [tables.translate] at found
    rw [tables.permits] at permitted
    exact pageAt.own third mapping found permitted different
  noTable table := pageAt.noTable ((tables.tableFrame frame).mp table)
  taken := pageAt.taken

end PageAt

theorem seenByte_of_pageAt
    {bytes : Nat → UInt8}
    (pageAt : PageAt allocate page frame flags bytes machine)
    {offset : UInt64}
    (inside : offset.toNat < 4096) :
    seenByte machine.memory machine.cr3 (page + offset) =
      some (bytes offset.toNat) := by
  have aligned := aligned_of_isFrame pageAt.isFrame
  have behind :
      (frame + offset).toNat % 4096 = offset.toNat := by
    rw [UInt64.toNat_add]
    omega
  rw [seenByte, pageAt.found offset inside, Option.map_some, memoryByte,
    pageOf_frame_add pageAt.isFrame inside, behind,
    pageAt.bytes _ inside]

theorem toNat_page_add
    {offset : UInt64}
    (aligned : page.toNat % 4096 = 0)
    (inside : offset.toNat < 4096) :
    (page + offset).toNat = page.toNat + offset.toNat := by
  have bound := page.toNat_lt
  rw [UInt64.toNat_add]
  omega

theorem Ready.beside
    (ready : Ready allocate machine)
    {changed : Memory}
    (tables : BesideTables machine.memory changed machine.cr3) :
    Ready allocate { machine with memory := changed } where
  tables := tables.wellFormed ready.tables
  unused :=
    ⟨ready.unused.fresh.of_same_paths tables.path,
      fun frame pending userFrame =>
        ready.unused.userFree frame pending ((tables.userFrame frame).mp userFrame),
      ready.unused.addresses⟩

namespace MapsOn

theorem filled
    (mapsOn : MapsOn allocate before after page frame flags)
    (words : Nat → UInt64) :
    Adds allocate (· = page) before (after.fillFrame frame words) ∧
      PageAt allocate page frame flags
        (frameByte (after.fillFrame frame words).memory frame)
        (after.fillFrame frame words) := by
  have tables := besideTables_fillFrame mapsOn.noTable words
  refine ⟨⟨mapsOn.readyAfter.beside tables, ?_, ?_⟩, ?_⟩
  · intro other own otherFlags bytes pageAt
    have different : own ≠ frame := by
      rintro rfl
      exact mapsOn.taken.noPage pageAt.userFrame
    apply (pageAt.mapsOn mapsOn).beside tables
    intro offset inside
    rw [frameByte_fillFrame_of_ne words different]
    exact (pageAt.mapsOn mapsOn).bytes offset inside
  · intro other apart
    rw [Machine.cr3_fillFrame, tables.translate]
    exact (mapsOn.maps.elsewhere other (apart page rfl)).1
  · exact mapsOn.pageAt.beside tables fun _ _ => rfl

end MapsOn

theorem mapsOn_of_map4k
    (ready : Ready allocate machine)
    (taken : Taken allocate frame machine)
    (inRange : canonical page = true)
    (aligned : page.toNat % 4096 = 0)
    (isUser : flags.contains .user = true)
    (combined : flags.Combined)
    (returned : map4k allocate page frame flags machine = .ok () after) :
    MapsOn allocate machine after page frame flags := by
  have sound : Sound allocate machine := ⟨ready.tables, ready.unused.fresh⟩
  have placed :=
    (ensures_map4k page frame flags machine ⟨rfl, sound⟩).1 _ _ returned
  exact
    { ready
      taken
      aligned
      isUser
      maps := placed.maps inRange aligned taken.isFrame combined.apart
      sound := placed.sound inRange
      grows := placed.grows
      addresses :=
        (map4k_keepsSupply (fun _ => Addresses.next) page frame flags machine
          ready.unused.addresses).1 _ _ returned }

end VibuxOS.Paging
