import VibuxOS.Files.RamContents

namespace VibuxOS.Files

open VibuxOS.Lib

/-!
# RAM file transfers that are cut short

`ram_file_read` and `ram_file_write` copy chunk by chunk and commit the position
and the length after the last one.  When a chunk after the first is not mapped
they return what they have copied and commit neither.
-/

/-- Where a read of a RAM file starts. -/
def readStart (state : State) (fd : Fd) (index : Nat) : Nat :=
  min fd.position.toNat (state.ramFiles index).len

/-- What a read of a RAM file is to move. -/
def readAmount
    (state : State)
    (fd : Fd)
    (index count : Nat) :
    Nat :=
  min count ((state.ramFiles index).len - readStart state fd index)

/-- Where a write to a RAM file starts. -/
def ramWriteStart (state : State) (fd : Fd) (index : Nat) : Nat :=
  if fd.flags &&& oAppend ≠ 0 then
    (state.ramFiles index).len
  else
    fd.position.toNat

/-- What a write to a RAM file is to move. -/
def writeAmount
    (state : State)
    (fd : Fd)
    (index count : Nat) :
    Nat :=
  min count (ramFileCapacity - ramWriteStart state fd index)

/-- The position of a descriptor and what all RAM files show are as before. -/
structure Unmoved
    (fdNumber : Int)
    (state final : State) : Prop where
  position :
    (final.fds fdNumber.toNat).position = (state.fds fdNumber.toNat).position
  contents : contentsAt final = contentsAt state

theorem Unmoved.refl
    (fdNumber : Int)
    (state : State) :
    Unmoved fdNumber state state :=
  ⟨rfl, rfl⟩

/-- A read that returns bytes has moved the position behind them. -/
structure ReadAccounted
    (world : World)
    (state : State)
    (fdNumber : Int)
    (count : Nat) : Prop where
  moved :
    ∀ bytes final,
      ramFileRead world fdNumber count state = .ok bytes final →
      bytes ≠ [] →
      ∃ index,
        ramFileIndex state (state.fds fdNumber.toNat).path = some index ∧
          (final.fds fdNumber.toNat).position.toNat =
            readStart state (state.fds fdNumber.toNat) index + bytes.length
  failed :
    ∀ error final,
      ramFileRead world fdNumber count state = .err error final →
      Unmoved fdNumber state final

/--
A write that returns a number of bytes has moved the position behind them, and
the file has them there.
-/
structure WriteAccounted
    (world : World)
    (state : State)
    (fdNumber : Int)
    (count : Nat) : Prop where
  moved :
    ∀ amount final,
      ramFileWrite world fdNumber count state = .ok amount final →
      0 < amount →
      ∃ index,
        ramFileIndex state (state.fds fdNumber.toNat).path = some index ∧
          (final.fds fdNumber.toNat).position.toNat =
            ramWriteStart state (state.fds fdNumber.toNat) index + amount ∧
          ramWriteStart state (state.fds fdNumber.toNat) index + amount ≤
            (final.ramFiles index).len ∧
          ∀ offset < amount,
            (final.ramFiles index).data
                (ramWriteStart state (state.fds fdNumber.toNat) index +
                  offset) =
              world.source offset
  failed :
    ∀ error final,
      ramFileWrite world fdNumber count state = .err error final →
      Unmoved fdNumber state final

/-- The first chunk of an amount is not mapped, or every chunk is. -/
def World.Uncut (world : World) (amount : Nat) : Prop :=
  world.copied 0 (min amount 4096) = false ∨ world.CopiesAll 4096 amount

/-- A transfer of an open RAM file has one of the two outcomes. -/
def TransferUncut
    (world : World)
    (state : State)
    (fdNumber : Int)
    (amount : Fd → Nat → Nat) : Prop :=
  OpenFd state.fds fdNumber →
  ∀ index,
    ramFileIndex state (state.fds fdNumber.toNat).path = some index →
    world.Uncut (amount (state.fds fdNumber.toNat) index)

/-! ## What the copy leaves -/

theorem uncut_zero
    (world : World) :
    world.Uncut 0 :=
  .inr fun _ inside => absurd inside (Nat.not_lt_zero _)

theorem uncut_iff
    {world : World}
    {amount : Nat}
    (something : 0 < amount) :
    world.Uncut amount ↔
      ¬ (chunksCopied world 4096 amount amount 0 ≠ 0 ∧
        chunksCopied world 4096 amount amount 0 < amount) := by
  have within :=
    @chunksCopied_le world 4096 amount amount 0 (Nat.zero_le _)
  unfold World.Uncut
  rw [← chunksCopied_eq_zero_iff (by decide) something,
    ← chunksCopied_eq_amount_iff (by decide)]
  omega

section Transfers

variable
  {world : World}
  {state : State}
  {fdNumber : Int}
  {index count : Nat}

section

variable
  (isOpen : OpenFd state.fds fdNumber)
  (found :
    ramFileIndex state (state.fds fdNumber.toNat).path = some index)

include isOpen found

theorem ramFileRead_of_found :
    ramFileRead world fdNumber count state =
      (let fd := state.fds fdNumber.toNat
        let amount := readAmount state fd index count
        let done := chunksCopied world 4096 amount amount 0
        let bytes :=
          window (state.ramFiles index).data (readStart state fd index) done
        if amount = 0 then
          .ok [] state
        else if done < amount then
          if done = 0 then
            .err .efault state
          else
            .ok bytes state
        else
          .ok bytes
            (state.setPosition fdNumber.toNat
              (readStart state fd index + done))) := by
  unfold ramFileRead
  rw [Prog.bind_of_ok (fdSnapshot_of_open isOpen), Prog.gets_bind_apply, id,
    found]
  dsimp only
  unfold readAmount readStart
  split
  · rfl
  · split
    · split <;> rfl
    · rfl

theorem ramFileWrite_of_found :
    ramFileWrite world fdNumber count state =
      (let fd := state.fds fdNumber.toNat
        let start := ramWriteStart state fd index
        let amount := writeAmount state fd index count
        let done := chunksCopied world 4096 amount amount 0
        let file := state.ramFiles index
        let data := blit file.data start world.source done
        if start ≥ ramFileCapacity ∧ count ≠ 0 then
          .err .enospc state
        else if amount = 0 then
          .ok 0 state
        else if done < amount then
          if done = 0 then
            .err .efault (state.setRamFile index { file with data := data })
          else
            .ok done (state.setRamFile index { file with data := data })
        else
          .ok done
            ((state.setRamFile index
                { file with
                  data := data
                  len := max file.len (start + done) }).setPosition
              fdNumber.toNat (start + done))) := by
  unfold ramFileWrite
  rw [Prog.bind_of_ok (fdSnapshot_of_open isOpen), Prog.gets_bind_apply, id,
    found]
  dsimp only
  unfold writeAmount ramWriteStart
  generalize
    (if (state.fds fdNumber.toNat).flags &&& oAppend ≠ 0 then
        (state.ramFiles index).len
      else
        (state.fds fdNumber.toNat).position.toNat) =
      start
  split
  · rfl
  · split
    · rfl
    · split
      · split <;> rfl
      · rfl

end

theorem position_setPosition
    {position : Nat}
    (isPosition : position < 2 ^ 64) :
    ((state.setPosition fdNumber.toNat position).fds
        fdNumber.toNat).position.toNat =
      position := by
  unfold State.setPosition State.setFd
  dsimp only
  rw [Function.update_self]
  exact Nat.mod_eq_of_lt isPosition

theorem setRamFile_self :
    state.setRamFile index (state.ramFiles index) = state := by
  unfold State.setRamFile
  rw [Function.update_eq_self]

section

variable
  (isOpen : OpenFd state.fds fdNumber)
  (found :
    ramFileIndex state (state.fds fdNumber.toNat).path = some index)

include isOpen found

theorem readAccounted_of_found_iff
    (isSize : (state.ramFiles index).len < 2 ^ 64) :
    ReadAccounted world state fdNumber count ↔
      world.Uncut
        (readAmount state (state.fds fdNumber.toNat) index count) := by
  have outcome :=
    @ramFileRead_of_found world state fdNumber index count isOpen found
  have amountIs :
      readAmount state (state.fds fdNumber.toNat) index count =
        min count
          ((state.ramFiles index).len -
            readStart state (state.fds fdNumber.toNat) index) :=
    rfl
  have startIs :
      readStart state (state.fds fdNumber.toNat) index =
        min (state.fds fdNumber.toNat).position.toNat
          (state.ramFiles index).len :=
    rfl
  dsimp only at outcome
  generalize readAmount state (state.fds fdNumber.toNat) index count = amount
    at *
  have within := @chunksCopied_le world 4096 amount amount 0 (Nat.zero_le _)
  rcases Nat.eq_zero_or_pos amount with nothing | something
  · rw [if_pos nothing] at outcome
    rw [nothing]
    simp only [uncut_zero, iff_true]
    constructor
    · intro bytes final returned notEmpty
      rw [outcome] at returned
      cases returned
      exact (notEmpty rfl).elim
    · intro error final failed
      rw [outcome] at failed
      cases failed
  rw [if_neg (by omega)] at outcome
  rw [uncut_iff something]
  generalize chunksCopied world 4096 amount amount 0 = done at *
  by_cases short : done < amount
  · rw [if_pos short] at outcome
    by_cases none : done = 0
    · rw [if_pos none] at outcome
      refine iff_of_true ⟨?_, ?_⟩ fun cut => cut.1 none
      · intro bytes final returned
        rw [outcome] at returned
        cases returned
      · intro error final failed
        rw [outcome] at failed
        cases failed
        exact .refl _ _
    · rw [if_neg none] at outcome
      refine iff_of_false ?_ (not_not.mpr ⟨none, short⟩)
      -- the position is where it was, and that is where the read has started
      intro accounted
      obtain ⟨other, sameFile, position⟩ :=
        accounted.moved _ _ outcome
          (List.ne_nil_of_length_pos (by rw [length_window]; omega))
      rw [found] at sameFile
      cases sameFile
      rw [length_window] at position
      omega
  · rw [if_neg short] at outcome
    refine iff_of_true ⟨?_, ?_⟩ fun cut => short cut.2
    · intro bytes final returned _
      rw [outcome] at returned
      cases returned
      refine ⟨index, found, ?_⟩
      rw [position_setPosition (by omega), length_window]
    · intro error final failed
      rw [outcome] at failed
      cases failed

theorem writeAccounted_of_found_iff :
    WriteAccounted world state fdNumber count ↔
      world.Uncut
        (writeAmount state (state.fds fdNumber.toNat) index count) := by
  have outcome :=
    @ramFileWrite_of_found world state fdNumber index count isOpen found
  have amountIs :
      writeAmount state (state.fds fdNumber.toNat) index count =
        min count
          (ramFileCapacity -
            ramWriteStart state (state.fds fdNumber.toNat) index) :=
    rfl
  -- a position that stays is not behind the bytes, a length that stays neither
  have startIs :
      ramWriteStart state (state.fds fdNumber.toNat) index =
          (state.ramFiles index).len ∨
        ramWriteStart state (state.fds fdNumber.toNat) index =
          (state.fds fdNumber.toNat).position.toNat := by
    unfold ramWriteStart
    split
    · exact .inl rfl
    · exact .inr rfl
  have isPosition : ramFileCapacity < 2 ^ 64 := by decide
  obtain ⟨start, isStart⟩ :
      ∃ start, ramWriteStart state (state.fds fdNumber.toNat) index = start :=
    ⟨_, rfl⟩
  dsimp only at outcome
  rw [isStart] at outcome amountIs startIs
  generalize writeAmount state (state.fds fdNumber.toNat) index count = amount
    at *
  have within := @chunksCopied_le world 4096 amount amount 0 (Nat.zero_le _)
  by_cases full : start ≥ ramFileCapacity ∧ count ≠ 0
  · rw [if_pos full] at outcome
    have nothing : amount = 0 := by omega
    rw [nothing]
    refine iff_of_true ⟨?_, ?_⟩ (uncut_zero _)
    · intro amount final returned
      rw [outcome] at returned
      cases returned
    · intro error final failed
      rw [outcome] at failed
      cases failed
      exact .refl _ _
  rw [if_neg full] at outcome
  rcases Nat.eq_zero_or_pos amount with nothing | something
  · rw [if_pos nothing] at outcome
    rw [nothing]
    refine iff_of_true ⟨?_, ?_⟩ (uncut_zero _)
    · intro amount final returned positive
      rw [outcome] at returned
      cases returned
      exact (Nat.lt_irrefl _ positive).elim
    · intro error final failed
      rw [outcome] at failed
      cases failed
  rw [if_neg (by omega)] at outcome
  rw [uncut_iff something]
  generalize chunksCopied world 4096 amount amount 0 = done at *
  by_cases short : done < amount
  · rw [if_pos short] at outcome
    by_cases none : done = 0
    · rw [if_pos none, none, blit_zero] at outcome
      refine iff_of_true ⟨?_, ?_⟩ fun cut => cut.1 none
      · intro amount final returned
        rw [outcome] at returned
        cases returned
      · intro error final failed
        rw [outcome] at failed
        cases failed
        rw [setRamFile_self]
        exact .refl _ _
    · rw [if_neg none] at outcome
      refine iff_of_false ?_ (not_not.mpr ⟨none, short⟩)
      intro accounted
      obtain ⟨other, sameFile, position, length, _⟩ :=
        accounted.moved _ _ outcome (by omega)
      rw [found] at sameFile
      cases sameFile
      rw [isStart] at position length
      rw [ramFiles_setRamFile_self] at length
      change (state.fds fdNumber.toNat).position.toNat = start + done
        at position
      dsimp only at length
      omega
  · rw [if_neg short] at outcome
    refine iff_of_true ⟨?_, ?_⟩ fun cut => short cut.2
    · intro moved final returned _
      rw [outcome] at returned
      cases returned
      refine ⟨index, found, ?_⟩
      rw [isStart]
      refine ⟨position_setPosition (by omega), ?_, ?_⟩
      · change start + done ≤
          ((state.setRamFile index _).ramFiles index).len
        rw [ramFiles_setRamFile_self]
        exact Nat.le_max_right _ _
      · intro offset inside
        change ((state.setRamFile index _).ramFiles index).data _ = _
        rw [ramFiles_setRamFile_self]
        dsimp only
        rw [blit_inside (Nat.le_add_right _ _) (by omega),
          Nat.add_sub_cancel_left]
    · intro error final failed
      rw [outcome] at failed
      cases failed

end

theorem transferUncut_iff
    {accounted : Prop}
    {amount : Fd → Nat → Nat}
    (ofFound :
      OpenFd state.fds fdNumber →
      ∀ index,
        ramFileIndex state (state.fds fdNumber.toNat).path = some index →
        (accounted ↔ world.Uncut (amount (state.fds fdNumber.toNat) index)))
    (ofNotOpen : ¬ OpenFd state.fds fdNumber → accounted)
    (ofMissing :
      OpenFd state.fds fdNumber →
      ramFileIndex state (state.fds fdNumber.toNat).path = none →
      accounted) :
    accounted ↔ TransferUncut world state fdNumber amount := by
  unfold TransferUncut
  by_cases isOpen : OpenFd state.fds fdNumber
  · cases found : ramFileIndex state (state.fds fdNumber.toNat).path with
    | none =>
        refine iff_of_true (ofMissing isOpen found) ?_
        intro _ index isFound
        cases isFound
    | some index =>
        rw [ofFound isOpen index found]
        constructor
        · intro uncut _ other same
          cases same
          exact uncut
        · intro uncut
          exact uncut isOpen index rfl
  · exact iff_of_true (ofNotOpen isOpen) fun open' => (isOpen open').elim

theorem readAccounted_iff
    (sizes : ∀ index, (state.ramFiles index).len < 2 ^ 64) :
    ReadAccounted world state fdNumber count ↔
      TransferUncut world state fdNumber fun fd index =>
        readAmount state fd index count := by
  have ofFailed
      (error : Errno)
      (outcome :
        ramFileRead world fdNumber count state = .err error state) :
      ReadAccounted world state fdNumber count := by
    constructor
    · intro bytes final returned
      rw [outcome] at returned
      cases returned
    · intro other final failed
      rw [outcome] at failed
      cases failed
      exact .refl _ _
  apply transferUncut_iff
  · intro isOpen index found
    exact readAccounted_of_found_iff isOpen found (sizes index)
  · intro notOpen
    apply ofFailed .ebadf
    unfold ramFileRead
    rw [Prog.bind_of_err (fdSnapshot_of_not_open notOpen)]
  · intro isOpen missing
    apply ofFailed .enoent
    unfold ramFileRead
    rw [Prog.bind_of_ok (fdSnapshot_of_open isOpen), Prog.gets_bind_apply, id,
      missing]
    rfl

theorem writeAccounted_iff :
    WriteAccounted world state fdNumber count ↔
      TransferUncut world state fdNumber fun fd index =>
        writeAmount state fd index count := by
  have ofFailed
      (error : Errno)
      (outcome :
        ramFileWrite world fdNumber count state = .err error state) :
      WriteAccounted world state fdNumber count := by
    constructor
    · intro amount final returned
      rw [outcome] at returned
      cases returned
    · intro other final failed
      rw [outcome] at failed
      cases failed
      exact .refl _ _
  apply transferUncut_iff
  · intro isOpen index found
    exact writeAccounted_of_found_iff isOpen found
  · intro notOpen
    apply ofFailed .ebadf
    unfold ramFileWrite
    rw [Prog.bind_of_err (fdSnapshot_of_not_open notOpen)]
  · intro isOpen missing
    apply ofFailed .enoent
    unfold ramFileWrite
    rw [Prog.bind_of_ok (fdSnapshot_of_open isOpen), Prog.gets_bind_apply, id,
      missing]
    rfl

end Transfers

/--
A read or write of a RAM file accounts for what it returns exactly when the
copy is not cut after its first chunk.
-/
theorem transfers_accounted_iff
    (world : World)
    (state : State)
    (fdNumber : Int)
    (count : Nat)
    (sizes : ∀ index, (state.ramFiles index).len < 2 ^ 64) :
    (ReadAccounted world state fdNumber count ↔
        TransferUncut world state fdNumber fun fd index =>
          readAmount state fd index count) ∧
      (WriteAccounted world state fdNumber count ↔
        TransferUncut world state fdNumber fun fd index =>
          writeAmount state fd index count) :=
  ⟨readAccounted_iff sizes, writeAccounted_iff⟩

/-- The first page at the address of the call is mapped, and no other one. -/
def onePage : World :=
  { World.idle with copied := fun offset len => offset + len ≤ 4096 }

/-- Descriptor 3 is a RAM file of two pages, open for both directions. -/
def twoPagesState : State :=
  ((do
      let _ ← openPath World.idle (ascii ['/', 'x']) 0x42
      ftruncate 3 8192 : Sys Unit) State.new).final?.getD State.new

theorem twoPages_sizes
    (index : Nat) :
    (twoPagesState.ramFiles index).len < 2 ^ 64 := by
  by_cases first : index = 0
  · rw [first]
    decide +kernel
  · have others : twoPagesState.ramFiles index = RamFile.empty := by
      change
        Function.update (Function.update State.new.ramFiles 0 _) 0 _ index = _
      rw [Function.update_of_ne first, Function.update_of_ne first]
      rfl
    rw [others]
    decide

/-- Within the mapped page all is accounted for. -/
theorem transfers_accounted_page :
    ReadAccounted onePage twoPagesState 3 4096 ∧
      WriteAccounted onePage twoPagesState 3 4096 := by
  have accounted :=
    transfers_accounted_iff onePage twoPagesState 3 4096 twoPages_sizes
  have uncut : onePage.Uncut 4096 := by
    right
    intro index inside
    have first : index = 0 := by omega
    rw [first]
    rfl
  constructor
  · apply accounted.1.mpr
    intro _ index found
    obtain rfl := Option.some.inj (show some 0 = some index from found)
    exact uncut
  · apply accounted.2.mpr
    intro _ index found
    obtain rfl := Option.some.inj (show some 0 = some index from found)
    exact uncut

/-- Behind it one page is returned, and the position stays where it was. -/
theorem transfers_unaccounted :
    ¬ ReadAccounted onePage twoPagesState 3 8192 ∧
      ¬ WriteAccounted onePage twoPagesState 3 8192 := by
  have isOpen : OpenFd twoPagesState.fds 3 := ⟨by decide, by decide, rfl⟩
  have found :
      ramFileIndex twoPagesState (twoPagesState.fds (3 : Int).toNat).path =
        some 0 :=
    rfl
  have cut : ¬ onePage.Uncut 8192 := by
    rintro (unmapped | mapped)
    · cases unmapped
    · cases mapped 1 (by decide)
  constructor
  · rw [readAccounted_of_found_iff isOpen found (twoPages_sizes 0)]
    exact cut
  · rw [writeAccounted_of_found_iff isOpen found]
    exact cut

end VibuxOS.Files
