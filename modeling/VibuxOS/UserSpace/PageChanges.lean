import VibuxOS.UserSpace.MemoryCalls

namespace VibuxOS.UserSpace

open VibuxOS.Lib VibuxOS.Paging

/-!
# What changes when a page does

Every step of the memory calls changes what one page finds, or nothing.  While
the tables are well formed, what an address finds also tells whether it is the
user's, so the translations say all.
-/

variable
  {κ : Type}
  {allocate : Allocate κ}
  {machine before after : Machine κ}
  {page : UInt64}
  {flags : PageFlags}
  {bytes : Nat → UInt8}
  {frame : UInt64}
  {mapping : Mapping}

def FindsUser (machine : Machine κ) (address : UInt64) : Prop :=
  ∃ mapping,
    translate machine.memory machine.cr3 address = some mapping ∧
      mapping.flags.contains .user = true

theorem contains_user_of_permits
    {address : UInt64}
    (found : translate machine.memory machine.cr3 address = some mapping)
    (permitted : permits user machine.memory machine.cr3 address = true) :
    mapping.flags.contains .user = true := by
  have mapped : Mapped machine.memory machine.cr3 address :=
    Option.isSome_iff_exists.mpr ⟨mapping, found⟩
  obtain ⟨visit, ends, visited⟩ :=
    exists_last machine.memory machine.cr3 address
  rw [translate_of_last mapped.canonical ends] at found
  rw [contains_user_iff found]
  rw [permits, List.all_eq_true] at permitted
  exact bne_iff_ne.mp (permitted visit visited)

theorem userFrame_of_findsUser
    (tables : TableWellFormed machine.memory machine.cr3)
    {address : UInt64}
    (found : translate machine.memory machine.cr3 address = some mapping)
    (isUser : mapping.flags.contains .user = true) :
    UserFrame machine.memory machine.cr3 (pageOf mapping.physicalAddress) :=
  ⟨address, mapping, found,
    tables.userMonotone address mapping found isUser, rfl⟩

/-- No table lies behind a page of the user. -/
def TablesApart (machine : Machine κ) : Prop :=
  ∀ frame,
    UserFrame machine.memory machine.cr3 frame →
    ¬ TableFrame machine.memory machine.cr3 frame

/-- A frame came from the allocator and lies behind a page now. -/
structure Drawn
    (allocate : Allocate κ)
    (frame : UInt64)
    (before after : Machine κ) : Prop where
  pending : Pending allocate before.supply frame
  noTable : ¬ TableFrame after.memory after.cr3 frame
  taken : ¬ Pending allocate after.supply frame

/-- Behind a page of the user is the frame that was there, or a drawn one. -/
def Sourced
    (allocate : Allocate κ)
    (other : UInt64)
    (mapping : Mapping)
    (before after : Machine κ) : Prop :=
  Drawn allocate (pageOf mapping.physicalAddress) before after ∨
    ∃ old,
      translate before.memory before.cr3 other = some old ∧
        old.flags.contains .user = true ∧
        pageOf old.physicalAddress = pageOf mapping.physicalAddress

/-- Only some addresses may find something else than before. -/
structure Changes
    (allocate : Allocate κ)
    (touched : UInt64 → Prop)
    (before after : Machine κ) : Prop where
  ready : Ready allocate after
  elsewhere :
    ∀ other,
      ¬ touched other →
      translate after.memory after.cr3 other =
        translate before.memory before.cr3 other
  sources :
    ∀ other mapping,
      touched other →
      translate after.memory after.cr3 other = some mapping →
      mapping.flags.contains .user = true →
      Sourced allocate other mapping before after
  pending :
    ∀ frame,
      Pending allocate after.supply frame →
      Pending allocate before.supply frame
  words :
    ∀ frame,
      ¬ TableFrame before.memory before.cr3 frame →
      ¬ Pending allocate before.supply frame →
      ¬ TableFrame after.memory after.cr3 frame ∧
        ∀ index, after.memory ⟨frame, index⟩ = before.memory ⟨frame, index⟩

/-- Nothing changes. -/
abbrev Quiet (allocate : Allocate κ) (before after : Machine κ) : Prop :=
  Changes allocate (fun _ => False) before after

namespace Changes

variable {touched more : UInt64 → Prop} {middle : Machine κ}

theorem refl
    (ready : Ready allocate machine)
    (touched : UInt64 → Prop) :
    Changes allocate touched machine machine where
  ready := ready
  elsewhere _ _ := rfl
  sources _ mapping _ found isUser := .inr ⟨mapping, found, isUser, rfl⟩
  pending _ isPending := isPending
  words _ noTable _ := ⟨noTable, fun _ => rfl⟩

theorem sourced
    (changes : Changes allocate touched before after)
    {other : UInt64}
    (found : translate after.memory after.cr3 other = some mapping)
    (isUser : mapping.flags.contains .user = true) :
    Sourced allocate other mapping before after := by
  by_cases isTouched : touched other
  · exact changes.sources other mapping isTouched found isUser
  · rw [changes.elsewhere other isTouched] at found
    exact .inr ⟨mapping, found, isUser, rfl⟩

theorem drawn
    (changes : Changes allocate touched middle after)
    (isDrawn : Drawn allocate frame before middle) :
    Drawn allocate frame before after where
  pending := isDrawn.pending
  noTable := (changes.words frame isDrawn.noTable isDrawn.taken).1
  taken isPending := isDrawn.taken (changes.pending frame isPending)

theorem trans
    (first : Changes allocate touched before middle)
    (second : Changes allocate touched middle after) :
    Changes allocate touched before after where
  ready := second.ready
  elsewhere other untouched :=
    (second.elsewhere other untouched).trans (first.elsewhere other untouched)
  sources other mapping isTouched found isUser := by
    rcases second.sources other mapping isTouched found isUser with
      isDrawn | ⟨old, wasFound, wasUser, sameFrame⟩
    · exact
        .inl ⟨first.pending _ isDrawn.pending, isDrawn.noTable, isDrawn.taken⟩
    · rcases first.sourced wasFound wasUser with
        isDrawn | ⟨oldest, firstFound, firstUser, firstFrame⟩
      · rw [sameFrame] at isDrawn
        exact .inl (second.drawn isDrawn)
      · exact
          .inr ⟨oldest, firstFound, firstUser, firstFrame.trans sameFrame⟩
  pending frame isPending :=
    first.pending frame (second.pending frame isPending)
  words frame noTable taken := by
    obtain ⟨stillNoTable, firstWords⟩ := first.words frame noTable taken
    obtain ⟨lastNoTable, secondWords⟩ :=
      second.words frame stillNoTable
        fun isPending => taken (first.pending frame isPending)
    exact
      ⟨lastNoTable, fun index => (secondWords index).trans (firstWords index)⟩

theorem mono
    (changes : Changes allocate touched before after)
    (among : ∀ other, touched other → more other) :
    Changes allocate more before after where
  ready := changes.ready
  elsewhere other untouched :=
    changes.elsewhere other fun isTouched => untouched (among other isTouched)
  sources _ _ _ found isUser := changes.sourced found isUser
  pending := changes.pending
  words := changes.words

theorem ofQuiet
    (quiet : Quiet allocate before after)
    (touched : UInt64 → Prop) :
    Changes allocate touched before after :=
  quiet.mono fun _ => False.elim

section

variable (changes : Changes allocate touched before after)

include changes

theorem findsUser
    {other : UInt64}
    (untouched : ¬ touched other) :
    FindsUser after other ↔ FindsUser before other := by
  unfold FindsUser
  rw [changes.elsewhere other untouched]

theorem userFrame
    (ready : Ready allocate before)
    (isUserFrame : UserFrame after.memory after.cr3 frame) :
    UserFrame before.memory before.cr3 frame ∨
      Drawn allocate frame before after := by
  obtain ⟨address, mapping, found, permitted, rfl⟩ := isUserFrame
  have isUser := contains_user_of_permits found permitted
  rcases changes.sourced found isUser with
    isDrawn | ⟨old, wasFound, wasUser, sameFrame⟩
  · exact .inr isDrawn
  · rw [← sameFrame]
    exact .inl (userFrame_of_findsUser ready.tables wasFound wasUser)

theorem apart
    (ready : Ready allocate before)
    (isApart : TablesApart before) :
    TablesApart after := by
  intro frame isUserFrame
  rcases changes.userFrame ready isUserFrame with old | isDrawn
  · exact
      (changes.words frame (isApart frame old)
        fun isPending => ready.unused.userFree frame isPending old).1
  · exact isDrawn.noTable

theorem pageAt
    (ready : Ready allocate before)
    {page frame : UInt64}
    (isUser : flags.contains .user = true)
    (untouched :
      ∀ offset : UInt64, offset.toNat < 4096 → ¬ touched (page + offset))
    (isAt : PageAt allocate page frame flags bytes before) :
    PageAt allocate page frame flags bytes after := by
  obtain ⟨noTable, words⟩ := changes.words frame isAt.noTable isAt.taken
  have found :
      ∀ offset : UInt64,
        offset.toNat < 4096 →
        translate after.memory after.cr3 (page + offset) =
          some
            { virtualAddress := page
              physicalAddress := frame + offset
              flags := flags.union .present
              pageSize := pageSize } := by
    intro offset inside
    rw [changes.elsewhere _ (untouched offset inside)]
    exact isAt.found offset inside
  refine
    ⟨isAt.isFrame, found, ?_, ?_, ?_, noTable,
      fun isPending => isAt.taken (changes.pending frame isPending)⟩
  · have first := found 0 (by decide)
    rw [UInt64.add_zero] at first
    apply changes.ready.tables.userMonotone page _ first
    rw [PageFlags.contains_union _ (by decide)]
    exact isUser
  · intro offset inside
    rw [← isAt.bytes offset inside, frameByte, frameByte, words]
  · intro other mapping reached permitted different sameFrame
    have isUserThere := contains_user_of_permits reached permitted
    rcases changes.sourced reached isUserThere with
      isDrawn | ⟨old, wasFound, wasUser, oldFrame⟩
    · rw [sameFrame] at isDrawn
      exact isAt.taken isDrawn.pending
    · have wasPermitted :=
        ready.tables.userMonotone other old wasFound wasUser
      exact
        isAt.own other old wasFound wasPermitted different
          (oldFrame.trans sameFrame)

end

end Changes

/-! ## The allocator -/

theorem quiet_call (ready : Ready allocate machine) :
    Quiet allocate machine (machine.called allocate) where
  ready :=
    ⟨ready.tables,
      (kept_of_call ⟨ready.tables, ready.unused.fresh⟩).sound.fresh,
      fun frame pending => ready.unused.userFree frame pending.of_next,
      Addresses.next ready.unused.addresses⟩
  elsewhere _ _ := rfl
  sources _ _ isTouched := isTouched.elim
  pending _ isPending := isPending.of_next
  words _ noTable _ := ⟨noTable, fun _ => rfl⟩

theorem userFrame_of_sameView
    {memory changed : Memory}
    {cr3 frame : UInt64}
    (view : SameView memory changed cr3)
    (userFrame : UserFrame changed cr3 frame) :
    UserFrame memory cr3 frame := by
  obtain ⟨address, mapping, found, permitted, isFrame⟩ := userFrame
  rw [view.translation] at found
  have mapped : Mapped memory cr3 address :=
    Option.isSome_iff_exists.mpr ⟨mapping, found⟩
  rw [view.access address mapped] at permitted
  exact ⟨address, mapping, found, permitted, isFrame⟩

theorem Grows.keeps
    (grows : Grows allocate before after)
    (noTable : ¬ TableFrame before.memory before.cr3 frame)
    (taken : ¬ Pending allocate before.supply frame) :
    ¬ TableFrame after.memory after.cr3 frame ∧
      ∀ index, after.memory ⟨frame, index⟩ = before.memory ⟨frame, index⟩ := by
  constructor
  · intro table
    exact (grows.tables frame table).elim noTable taken
  · exact fun index => grows.words ⟨frame, index⟩ noTable taken

theorem quiet_of_kept
    (ready : Ready allocate before)
    (kept : Kept allocate before after)
    (addresses : Addresses allocate after.supply) :
    Quiet allocate before after := by
  have view := kept.view
  have sameRoot := kept.grows.cr3
  constructor
  · refine ⟨kept.sound.tables, kept.sound.fresh, ?_, addresses⟩
    intro frame pending userFrame
    rw [sameRoot] at userFrame
    exact
      ready.unused.userFree frame (kept.grows.pending frame pending)
        (userFrame_of_sameView view userFrame)
  · intro other _
    rw [sameRoot]
    exact view.translation other
  · exact fun _ _ isTouched => isTouched.elim
  · exact kept.grows.pending
  · exact fun _ noTable taken => Grows.keeps kept.grows noTable taken

/-! ## A new page -/

/-- A program that gives a zeroed frame some bytes. -/
def Fills
    (fill : UInt64 → Kernel κ UInt64 Unit)
    (bytes : Nat → UInt8) : Prop :=
  ∀ frame (machine : Machine κ),
    (∀ offset, frameByte machine.memory frame offset = 0) →
    ∃ words,
      fill frame machine = .ok () (machine.fillFrame frame words) ∧
        ∀ offset,
          offset < 4096 →
          frameByte (machine.fillFrame frame words).memory frame offset =
            bytes offset

theorem fillFrame_self (frame : UInt64) (machine : Machine κ) :
    machine.fillFrame frame (fun index => machine.memory ⟨frame, index⟩) =
      machine := by
  have same :
      (fun slot : TableSlot =>
          if slot.frame = frame then machine.memory ⟨frame, slot.index⟩
          else machine.memory slot) =
        machine.memory := by
    funext slot
    split
    · rename_i here
      rw [← here]
    · rfl
  unfold Machine.fillFrame
  rw [same]

theorem fills_nothing :
    Fills (fun _ => pure () : UInt64 → Kernel κ UInt64 Unit) fun _ => 0 := by
  intro frame machine zeroed
  refine ⟨_, by rw [fillFrame_self]; rfl, ?_⟩
  intro offset _
  rw [fillFrame_self]
  exact zeroed offset

/-- What a mapping shows of its file at a position. -/
def backingByte
    (fileData : Option (List UInt8))
    (position : Nat) :
    UInt8 :=
  match fileData with
  | none => 0
  | some data => data.getD position 0

theorem fills_copyFile
    (fileData : Option (List UInt8))
    (fileOffset : UInt64) :
    Fills (copyFile fileData fileOffset : UInt64 → Kernel κ UInt64 Unit)
      fun offset => backingByte fileData (fileOffset.toNat + offset) := by
  intro frame machine zeroed
  unfold copyFile
  cases fileData with
  | none =>
      exact fills_nothing frame machine zeroed
  | some data =>
      dsimp only [backingByte]
      split
      · refine ⟨_, rfl, ?_⟩
        intro offset inside
        rw [frameByte_copied, List.length_take, List.length_drop]
        by_cases inFile : fileOffset.toNat + offset < data.length
        · rw [blit_inside (Nat.zero_le _) (by omega)]
          simp [List.getD_eq_getElem?_getD, inside]
        · rw [blit_outside (by omega), zeroed,
            List.getD_eq_default _ _ (Nat.le_of_not_lt inFile)]
      · rename_i beyond
        obtain ⟨words, filled, shown⟩ := fills_nothing frame machine zeroed
        refine ⟨words, filled, ?_⟩
        intro offset inside
        rw [shown offset inside,
          List.getD_eq_default _ _ (by omega)]

/-- What a page has become when it was made. -/
structure NewPage
    (allocate : Allocate κ)
    (page : UInt64)
    (flags : PageFlags)
    (bytes : Nat → UInt8)
    (before after : Machine κ) : Prop where
  changes : Changes allocate (SamePage · page) before after
  unmapped :
    ∀ other,
      SamePage other page →
      translate before.memory before.cr3 other = none
  below : page < userLimit
  here :
    ∃ frame,
      Drawn allocate frame before after ∧
        PageAt allocate page frame flags bytes after

theorem finds_of_pageAt
    {page frame other : UInt64}
    (isPage : page.toNat % 4096 = 0)
    (isAt : PageAt allocate page frame flags bytes machine)
    (same : SamePage other page) :
    ∃ mapping,
      translate machine.memory machine.cr3 other = some mapping ∧
        mapping.pageSize = pageSize ∧
        mapping.flags = flags.union .present := by
  obtain ⟨offset, inside, rfl⟩ := same.exists_offset isPage
  exact ⟨_, isAt.found offset inside, rfl, rfl⟩

theorem checks_of_map4k
    {page frame : UInt64}
    (isUser : flags.contains .user = true)
    (returned : map4k allocate page frame flags machine = .ok () after) :
    canonical page = true ∧ page.toNat % 4096 = 0 ∧ page < userLimit := by
  unfold map4k at returned
  split at returned
  · cases returned
  · rename_i inRange
    split at returned
    · cases returned
    · rename_i aligned
      dsimp only at returned
      split at returned
      · cases returned
      · rename_i below
        simp only [Bool.or_eq_true, bne_iff_ne, ne_eq, not_or, not_not]
          at aligned
        have offset := toNat_pageOffset page
        rw [aligned.1, UInt64.toNat_zero] at offset
        refine ⟨by simpa using inRange, offset.symm, ?_⟩
        simpa [isUser] using below

theorem newPage_of_mapsOn
    {page frame : UInt64}
    {words : Nat → UInt64}
    (isHanded : (allocate machine.supply).1 = some frame)
    (mapsOn : MapsOn allocate (machine.called allocate) after page frame flags)
    (below : page < userLimit)
    (shown :
      ∀ offset,
        offset < 4096 →
        frameByte (after.fillFrame frame words).memory frame offset =
          bytes offset) :
    NewPage allocate page flags bytes machine (after.fillFrame frame words) := by
  have tables := besideTables_fillFrame mapsOn.noTable words
  have pending : Pending allocate machine.supply frame := by
    have isPending := Pending.now isHanded
    rwa [mapsOn.taken.isFrame] at isPending
  have isDrawn :
      Drawn allocate frame machine (after.fillFrame frame words) :=
    ⟨pending, fun table => mapsOn.noTable ((tables.tableFrame frame).mp table),
      mapsOn.notPending⟩
  constructor
  · constructor
    · exact mapsOn.readyAfter.beside tables
    · intro other different
      rw [Machine.cr3_fillFrame, tables.translate]
      exact (mapsOn.maps.elsewhere other different).1
    · intro other mapping same found _
      obtain ⟨offset, inside, rfl⟩ := same.exists_offset mapsOn.aligned
      rw [Machine.cr3_fillFrame, tables.translate,
        mapsOn.maps.here offset inside, Option.some_inj] at found
      rw [← found]
      left
      rw [pageOf_frame_add mapsOn.taken.isFrame inside]
      exact isDrawn
    · exact fun other isPending =>
        (mapsOn.grows.pending other isPending).of_next
    · intro other noTable taken
      obtain ⟨stillNoTable, sameWords⟩ :=
        Grows.keeps mapsOn.grows noTable
          fun isPending => taken isPending.of_next
      have different : other ≠ frame := by
        rintro rfl
        exact taken pending
      refine ⟨fun table => ?_, fun index => ?_⟩
      · exact stillNoTable ((tables.tableFrame other).mp table)
      · rw [Machine.fillFrame_of_ne words after different]
        exact sameWords index
  · intro other same
    have unmapped : ¬ Mapped machine.memory machine.cr3 other := by
      rw [same.mapped, Mapped, mapsOn.maps.unmapped]
      exact Bool.false_ne_true
    exact Option.not_isSome_iff_eq_none.mp unmapped
  · exact below
  · exact ⟨frame, isDrawn, mapsOn.pageAt.beside tables shown⟩

theorem quiet_of_map4k_err
    (ready : Ready allocate machine)
    {page frame : UInt64}
    {error : MapError}
    (failed : map4k allocate page frame flags machine = .err error after) :
    Quiet allocate machine after :=
  quiet_of_kept ready
    ((ensures_map4k page frame flags machine
      ⟨rfl, ready.tables, ready.unused.fresh⟩).2 _ _ failed)
    ((map4k_keepsSupply (fun _ => Addresses.next) page frame flags machine
      ready.unused.addresses).2 _ _ failed)

theorem newPage_eq_ok
    {fill : UInt64 → Kernel κ UInt64 Unit}
    (fills : Fills fill bytes)
    {value : Unit}
    (returned : newPage allocate page flags fill machine = .ok value after) :
    ∃ frame mapped words,
      (allocate machine.supply).1 = some frame ∧
        map4k allocate page frame flags (machine.called allocate) =
          .ok () mapped ∧
        after = mapped.fillFrame frame words ∧
        ∀ offset,
          offset < 4096 →
          frameByte after.memory frame offset = bytes offset := by
  have called :
      (allocateFrame allocate : Kernel κ UInt64 _) machine =
        .ok (allocate machine.supply).1 (machine.called allocate) :=
    rfl
  rw [newPage, Prog.bind_of_ok called] at returned
  cases isHanded : (allocate machine.supply).1 with
  | none =>
      rw [isHanded] at returned
      cases returned
  | some frame =>
      rw [isHanded] at returned
      obtain ⟨_, mapped, isMapped, returned⟩ := Prog.bind_eq_ok.mp returned
      obtain ⟨words, isFilled, shown⟩ :=
        fills frame (mapped.fillFrame frame fun _ => 0)
          (frameByte_zeroed mapped frame)
      have zeroed :
          (zeroFrame frame : Kernel κ UInt64 Unit) mapped =
            .ok () (mapped.fillFrame frame fun _ => 0) :=
        rfl
      rw [Machine.fillFrame_fillFrame] at isFilled shown
      rw [Prog.bind_of_ok zeroed, isFilled] at returned
      cases returned
      exact
        ⟨frame, mapped, words, rfl, Prog.mapError_eq_ok.mp isMapped, rfl, shown⟩

theorem newPage_eq_err
    {fill : UInt64 → Kernel κ UInt64 Unit}
    (fills : Fills fill bytes)
    {code : UInt64}
    (failed : newPage allocate page flags fill machine = .err code after) :
    after = machine.called allocate ∨
      ∃ frame error,
        (allocate machine.supply).1 = some frame ∧
          map4k allocate page frame flags (machine.called allocate) =
            .err error after := by
  have called :
      (allocateFrame allocate : Kernel κ UInt64 _) machine =
        .ok (allocate machine.supply).1 (machine.called allocate) :=
    rfl
  rw [newPage, Prog.bind_of_ok called] at failed
  cases isHanded : (allocate machine.supply).1 with
  | none =>
      rw [isHanded] at failed
      cases failed
      exact .inl rfl
  | some frame =>
      rw [isHanded] at failed
      rcases Prog.bind_eq_err.mp failed with
        notMapped | ⟨_, mapped, _, notFilled⟩
      · obtain ⟨error, notMapped, _⟩ := Prog.mapError_eq_err.mp notMapped
        exact .inr ⟨frame, error, rfl, notMapped⟩
      · obtain ⟨words, isFilled, _⟩ :=
          fills frame (mapped.fillFrame frame fun _ => 0)
            (frameByte_zeroed mapped frame)
        have zeroed :
            (zeroFrame frame : Kernel κ UInt64 Unit) mapped =
              .ok () (mapped.fillFrame frame fun _ => 0) :=
          rfl
        rw [Prog.bind_of_ok zeroed, isFilled] at notFilled
        cases notFilled

theorem newPage_spec
    {fill : UInt64 → Kernel κ UInt64 Unit}
    (ready : Ready allocate machine)
    (isUser : flags.contains .user = true)
    (combined : flags.Combined)
    (fills : Fills fill bytes) :
    (∀ value final,
        newPage allocate page flags fill machine = .ok value final →
        NewPage allocate page flags bytes machine final) ∧
      ∀ error final,
        newPage allocate page flags fill machine = .err error final →
        Quiet allocate machine final := by
  constructor
  · intro value final returned
    obtain ⟨frame, mapped, words, isHanded, mapsPage, rfl, shown⟩ :=
      newPage_eq_ok fills returned
    obtain ⟨readyCalled, taken⟩ := ready.call isHanded
    obtain ⟨inRange, aligned, below⟩ := checks_of_map4k isUser mapsPage
    have mapsOn :=
      mapsOn_of_map4k readyCalled taken inRange aligned isUser combined
        mapsPage
    exact newPage_of_mapsOn isHanded mapsOn below shown
  · intro error final failed
    have first := quiet_call ready
    rcases newPage_eq_err fills failed with
      rfl | ⟨frame, error, _, notMapped⟩
    · exact first
    · exact first.trans (quiet_of_map4k_err first.ready notMapped)

theorem combined_user : PageFlags.user.Combined := by
  have isUnion : (PageFlags.empty.union .user).Combined :=
    .union .empty (by decide)
  have isUser : PageFlags.empty.union .user = .user := by
    decide
  rwa [isUser] at isUnion

theorem pageFlags_spec (prot : UInt64) :
    (pageFlags prot).Combined ∧
      (pageFlags prot).contains .user = true ∧
      (((pageFlags prot).union .present).contains .writable = true ↔
        prot &&& protWrite ≠ 0) ∧
      (((pageFlags prot).union .present).contains .noExecute = true ↔
        prot &&& protExec = 0) := by
  unfold pageFlags
  by_cases writable : prot &&& protWrite = 0
  · by_cases data : prot &&& protExec = 0
    · simp only [writable, data, bne_self_eq_false, Bool.false_eq_true,
        beq_self_eq_true, if_true, if_false]
      exact
        ⟨.union combined_user (by decide), by decide, by decide, by decide⟩
    · simp only [writable, beq_eq_false_iff_ne.mpr data,
        bne_self_eq_false, Bool.false_eq_true, if_false]
      exact
        ⟨combined_user, by decide, by decide, iff_of_false (by decide) data⟩
  · by_cases data : prot &&& protExec = 0
    · simp only [bne_iff_ne.mpr writable, data, beq_self_eq_true, if_true]
      exact
        ⟨.union (.union combined_user (by decide)) (by decide), by decide,
          iff_of_true (by decide) writable, by decide⟩
    · simp only [bne_iff_ne.mpr writable, beq_eq_false_iff_ne.mpr data,
        Bool.false_eq_true, if_true, if_false]
      exact
        ⟨.union combined_user (by decide), by decide,
          iff_of_true (by decide) writable, iff_of_false (by decide) data⟩

theorem combined_dataFlags : dataFlags.Combined :=
  .union (.union combined_user (by decide)) (by decide)

theorem ready_emptyTables :
    Ready FrameAllocator.allocate emptyTables :=
  ⟨tableWellFormed_emptyTables, unused_emptyTables⟩

theorem exists_onlyPage :
    ∃ machine,
      NewPage FrameAllocator.allocate 0x11000 dataFlags (fun _ => 0)
        emptyTables machine := by
  obtain ⟨machine, made⟩ :
      ∃ machine,
        newPage FrameAllocator.allocate 0x11000 dataFlags
            (fun _ => pure ()) emptyTables =
          .ok () machine :=
    Prog.eq_ok_of_value? (by decide +kernel)
  exact
    ⟨machine,
      (newPage_spec ready_emptyTables (by decide) combined_dataFlags
        fills_nothing).1 _ _ made⟩

theorem translate_emptyTables (address : UInt64) :
    translate emptyTables.memory emptyTables.cr3 address = none := by
  rw [translate_eq, path_emptyTables, List.getLast?_singleton,
    Option.bind_some, mappingAt_of_absent (emptyTables_absent _), ite_self]

/-! ## An entry of level 1 -/

section Leaf

variable {page entry : UInt64} {slot : TableSlot}

/-- An entry shows frames of the user only where they were. -/
def ShowsOld (machine : Machine κ) (page entry : UInt64) : Prop :=
  ∀ other mapping,
    SamePage other page →
    mappingAt other 1 entry = some mapping →
    mapping.flags.contains .user = true →
    ∃ old,
      translate machine.memory machine.cr3 other = some old ∧
        old.flags.contains .user = true ∧
        pageOf old.physicalAddress = pageOf mapping.physicalAddress

theorem userFrame_of_leaf
    (tables : TableWellFormed machine.memory machine.cr3)
    (inRange : canonical page = true)
    (visited : (1, slot) ∈ path machine.memory machine.cr3 page)
    (known : ShowsOld machine page entry)
    (userFrame :
      UserFrame (machine.setEntry slot entry).memory machine.cr3 frame) :
    UserFrame machine.memory machine.cr3 frame := by
  obtain ⟨address, mapping, found, permitted, rfl⟩ := userFrame
  have isUser :=
    @contains_user_of_permits κ (machine.setEntry slot entry) mapping address
      found permitted
  rw [Machine.memory_setEntry] at found permitted
  by_cases same : SamePage address page
  · rw [translate_leaf tables.tree visited inRange entry same] at found
    obtain ⟨old, wasFound, wasUser, sameFrame⟩ :=
      known address mapping same found isUser
    rw [← sameFrame]
    exact userFrame_of_findsUser tables wasFound wasUser
  · obtain ⟨sameFind, samePermits⟩ :=
      translate_leaf_of_other tables.tree visited inRange entry same
    have inRangeThere : canonical address = true :=
      Mapped.canonical (Option.isSome_iff_exists.mpr ⟨mapping, found⟩)
    rw [sameFind] at found
    rw [samePermits inRangeThere] at permitted
    exact ⟨address, mapping, found, permitted, rfl⟩

theorem changes_of_leaf
    (ready : Ready allocate machine)
    (inRange : canonical page = true)
    (visited : (1, slot) ∈ path machine.memory machine.cr3 page)
    (forUser :
      entry &&& user ≠ 0 →
      ∀ visit ∈ path machine.memory machine.cr3 page,
        1 < visit.1 →
        machine.memory visit.2 &&& user ≠ 0)
    (known : ShowsOld machine page entry) :
    Changes allocate (SamePage · page) machine
      (machine.setEntry slot entry) := by
  have tree := ready.tables.tree
  have sound :=
    sound_of_leaf ⟨ready.tables, ready.unused.fresh⟩ inRange visited forUser
  constructor
  · exact
      ⟨sound.tables, sound.fresh,
        fun frame pending isUserFrame =>
          ready.unused.userFree frame pending
            (userFrame_of_leaf ready.tables inRange visited known isUserFrame),
        ready.unused.addresses⟩
  · intro other different
    exact (translate_leaf_of_other tree visited inRange entry different).1
  · intro other mapping same found isUser
    rw [Machine.memory_setEntry, Machine.cr3_setEntry,
      translate_leaf tree visited inRange entry same] at found
    exact .inr (known other mapping same found isUser)
  · exact fun _ isPending => isPending
  · intro frame noTable _
    rw [Machine.memory_setEntry, Machine.cr3_setEntry,
      tableFrame_of_same_paths (path_leaf tree visited entry)]
    refine ⟨noTable, fun index => ?_⟩
    rw [Function.update_of_ne]
    rintro rfl
    exact noTable ⟨page, _, visited, rfl⟩

end Leaf

theorem unmap4k_eq_err
    (notSmall :
      canonical page = true →
      page.toNat % 4096 = 0 →
      ¬ MappedSmall machine.memory machine.cr3 page) :
    ∃ error, unmap4k page machine = .err error machine := by
  unfold unmap4k
  by_cases inRange : canonical page = true
  · rw [inRange, Bool.not_true, if_neg Bool.false_ne_true]
    by_cases aligned : page &&& (pageSize - 1) = 0
    · have offset := toNat_pageOffset page
      rw [aligned, UInt64.toNat_zero] at offset
      have noLeaf := notSmall inRange offset.symm
      rw [mappedSmall_iff inRange] at noLeaf
      rw [if_neg (by simpa using aligned)]
      simp only [Machine.root, readEntry, Prog.gets_bind_apply]
      split
      · exact ⟨_, rfl⟩
      · rename_i four
        rw [Prog.gets_bind_apply]
        split
        · exact ⟨_, rfl⟩
        · rename_i three
          rw [Prog.gets_bind_apply]
          split
          · exact ⟨_, rfl⟩
          · rename_i two
            rw [Prog.gets_bind_apply]
            split
            · exact ⟨_, rfl⟩
            · rename_i one
              simp only [Bool.or_eq_true, beq_iff_eq, bne_iff_ne, ne_eq,
                not_or, not_not] at four three two one
              exact
                absurd ⟨⟨four, three.1, three.2, two.1, two.2⟩, one⟩ noLeaf
    · rw [if_pos (by simpa using aligned)]
      exact ⟨_, rfl⟩
  · rw [Bool.not_eq_true] at inRange
    rw [inRange, Bool.not_false, if_pos rfl]
    exact ⟨_, rfl⟩

theorem unmap4k_cases (machine : Machine κ) (page : UInt64) :
    (canonical page = true ∧
        MappedSmall machine.memory machine.cr3 page ∧
        ∃ frame,
          unmap4k page machine =
            .ok frame
              (machine.setEntry
                (leafSlot machine.memory machine.cr3 page) 0)) ∨
      (∃ error, unmap4k page machine = .err error machine) ∧
        (canonical page = true →
          page.toNat % 4096 = 0 →
          ¬ MappedSmall machine.memory machine.cr3 page) := by
  by_cases small :
      canonical page = true ∧
        page.toNat % 4096 = 0 ∧
        MappedSmall machine.memory machine.cr3 page
  · obtain ⟨inRange, aligned, isSmall⟩ := small
    obtain ⟨leads, isPresent⟩ := (mappedSmall_iff inRange).mp isSmall
    exact
      .inl
        ⟨inRange, isSmall, _,
          unmap4k_of_leaf inRange aligned (mem_path_one.mpr ⟨leads, rfl⟩)
            isPresent⟩
  · have notSmall :
        canonical page = true →
          page.toNat % 4096 = 0 →
          ¬ MappedSmall machine.memory machine.cr3 page :=
      fun inRange aligned isSmall => small ⟨inRange, aligned, isSmall⟩
    exact .inr ⟨unmap4k_eq_err notSmall, notSmall⟩

theorem ends_unmap4k (page : UInt64) :
    Prog.Ends (unmap4k page : Kernel κ UnmapError UInt64) := by
  intro machine stuck
  rcases unmap4k_cases machine page with
    ⟨_, _, frame, unmapped⟩ | ⟨⟨error, refused⟩, _⟩
  · rw [unmapped] at stuck
    cases stuck
  · rw [refused] at stuck
    cases stuck

theorem mem_path_of_small
    (inRange : canonical page = true)
    (isSmall : MappedSmall machine.memory machine.cr3 page) :
    (1, leafSlot machine.memory machine.cr3 page) ∈
      path machine.memory machine.cr3 page :=
  mem_path_one.mpr ⟨((mappedSmall_iff inRange).mp isSmall).1, rfl⟩

theorem translate_of_cleared
    {page other : UInt64}
    {slot : TableSlot}
    (tree : Tree machine.memory machine.cr3)
    (inRange : canonical page = true)
    (visited : (1, slot) ∈ path machine.memory machine.cr3 page)
    (same : SamePage other page) :
    translate (machine.setEntry slot 0).memory (machine.setEntry slot 0).cr3
        other =
      none := by
  rw [Machine.memory_setEntry, Machine.cr3_setEntry,
    translate_leaf tree visited inRange 0 same,
    mappingAt_of_absent (UInt64.zero_and ..)]

/-- What `unmap_4k` leaves of a page. -/
structure Cleared
    (allocate : Allocate κ)
    (page : UInt64)
    (before after : Machine κ) : Prop where
  changes : Changes allocate (SamePage · page) before after
  wasSmall : MappedSmall before.memory before.cr3 page
  gone :
    ∀ other,
      SamePage other page →
      translate after.memory after.cr3 other = none

theorem unmap4k_spec
    (ready : Ready allocate machine)
    (page : UInt64) :
    (∃ frame final,
        unmap4k page machine = .ok frame final ∧
          Cleared allocate page machine final) ∨
      (∃ error, unmap4k page machine = .err error machine) ∧
        (canonical page = true →
          page.toNat % 4096 = 0 →
          ¬ MappedSmall machine.memory machine.cr3 page) := by
  rcases unmap4k_cases machine page with
    ⟨inRange, isSmall, frame, cleared⟩ | refused
  · have visited := mem_path_of_small inRange isSmall
    refine .inl ⟨frame, _, cleared, ?_, isSmall, ?_⟩
    · apply changes_of_leaf ready inRange visited
      · intro isUser
        exact absurd (UInt64.zero_and ..) isUser
      · intro other mapping _ reported _
        rw [mappingAt_of_absent (UInt64.zero_and ..)] at reported
        cases reported
    · exact fun _ =>
        translate_of_cleared ready.tables.tree inRange visited
  · exact .inr refused

end VibuxOS.UserSpace
