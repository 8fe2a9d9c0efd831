import VibuxOS.Files.PositionalWrites

namespace VibuxOS.Files

open VibuxOS.Lib

/-!
# Calls with an offset and calls after a seek

When `pread64`, `preadv` and `pwritev` do what `lseek` and the call without an
offset do, and leave the position of the descriptor alone.
-/

/--
Buffers that are written from one place and not from another: the position stays
only if none is written whole, or if it is already where the last one ends; and
different places do not show only if no byte is written at either.
-/
structure LevelRamWrites
    (world : World)
    (buffers : List UserBuffer)
    (position place sought : Nat) : Prop where
  position :
    NoneWhole world place buffers ∨ position = placeEnd world place buffers
  places :
    sought = place ∨
      NoneTaken world place buffers ∧
        NoneTaken world sought buffers ∧
        (buffers.length = 1 →
          (ramFileCapacity ≤ place ↔ ramFileCapacity ≤ sought))

/-- `pwritev` with at most 1024 buffers agrees with a seek and `writev`. -/
def LevelPwritev
    (world : World)
    (state : State)
    (fd : Fd)
    (iov : Nat → Option UserBuffer)
    (iovCount : Nat)
    (offset : UInt64) :
    Prop :=
  if fd.kind = .ramFile then
    fdWritable fd = false ∨
      match ramFileIndex state fd.path with
      | none => True
      | some index =>
          LevelRamWrites world (asked iov iovCount 0) fd.position.toNat
            (ramWriteStart state fd index)
            (ramWriteStart state { fd with position := offset } index)
  else
    fdWritable fd = true ∧ (asked iov iovCount 0).length = 1

/-- The calls that do what they are to do with a descriptor. -/
def OffsetCall.Level
    (world : World)
    (state : State)
    (fd : Fd)
    (offset : UInt64) :
    OffsetCall →
    Prop
  | .pread64 buffer => offset.toNat < 2 ^ 63 ∧ LevelPread world fd buffer
  | .preadv iov iovCount =>
      1024 < iovCount ∨
        offset.toNat < 2 ^ 63 ∧ LevelPreadv world fd iov iovCount offset
  | .pwritev iov iovCount =>
      1024 < iovCount ∨
        offset.toNat < 2 ^ 63 ∧
          LevelPwritev world state fd iov iovCount offset

section Pwritev

variable
  {world : World}
  {state : State}
  {fdNumber : Int}
  {offset : UInt64}
  {iov : Nat → Option UserBuffer}
  {iovCount : Nat}

theorem writevLoop_eq_writevFrom :
    writevLoop fdNumber (entries world iov) iovCount 0 0 state =
      (writevFrom world fdNumber iov iovCount 0 0 state).outcome := by
  rw [writevLoop_eq]
  exact
    vectorLoop_eq_transferRun (fun _ _ => writeTransfer_eq _ _ _) _ _ _ _

theorem pwritev_plain_of_few
    (few : iovCount ≤ 1024) :
    (OffsetCall.pwritev iov iovCount).plain world fdNumber state =
      writevFrom world fdNumber iov iovCount 0 0 state := by
  unfold OffsetCall.plain writevMoved writev
  dsimp only
  rw [if_neg (Nat.not_lt.mpr few), if_neg (Nat.not_lt.mpr few),
    writevLoop_eq_writevFrom]
  rfl

theorem pwritev_run_of_ramFile
    (few : iovCount ≤ 1024)
    (isOpen : OpenFd state.fds fdNumber)
    (isRam : (state.fds fdNumber.toNat).kind = .ramFile) :
    (OffsetCall.pwritev iov iovCount).run world fdNumber offset state =
      writevFrom world fdNumber iov iovCount 0 0 state := by
  have notFixed :
      ¬ ((state.fds fdNumber.toNat).kind = .binary ∨
        (state.fds fdNumber.toNat).kind = .text) := by
    rw [isRam]
    decide
  unfold OffsetCall.run pwritevMoved writevMoved pwritev
  dsimp only
  rw [if_neg notFixed, if_neg (Nat.not_lt.mpr few),
    if_neg (Nat.not_lt.mpr few), Prog.bind_of_ok (fdSnapshot_of_open isOpen),
    if_neg notFixed, writevLoop_eq_writevFrom]
  rfl

theorem pwritev_run_of_fixed
    (few : iovCount ≤ 1024)
    (isOpen : OpenFd state.fds fdNumber)
    (fixed :
      (state.fds fdNumber.toNat).kind = .binary ∨
        (state.fds fdNumber.toNat).kind = .text) :
    (OffsetCall.pwritev iov iovCount).run world fdNumber offset state =
      .ends (.err .erofs state) := by
  unfold OffsetCall.run pwritevMoved pwritev
  dsimp only
  rw [if_pos fixed, if_neg (Nat.not_lt.mpr few),
    Prog.bind_of_ok (fdSnapshot_of_open isOpen), if_pos fixed]
  rfl

theorem pwritev_run_of_many
    (many : 1024 < iovCount) :
    (OffsetCall.pwritev iov iovCount).run world fdNumber offset state =
      .ends (.err .einval state) := by
  unfold OffsetCall.run pwritevMoved writevMoved pwritev
  dsimp only
  rw [if_pos many, if_pos many]
  split <;> rfl

theorem pwritev_alike_of_many
    (isOpen : OpenFd state.fds fdNumber)
    (seekable : (state.fds fdNumber.toNat).kind.Seekable)
    (many : 1024 < iovCount) :
    ((OffsetCall.pwritev iov iovCount).run world fdNumber offset state).Alike
      ((OffsetCall.pwritev iov iovCount).sequential world fdNumber offset
        state) := by
  rw [pwritev_run_of_many many]
  rcases Nat.lt_or_ge offset.toNat (2 ^ 63) with small | large
  · rw [sequential_of_lt isOpen seekable small]
    unfold OffsetCall.plain writevMoved writev
    dsimp only
    rw [if_pos many, if_pos many]
    exact ⟨rfl, rfl⟩
  · rw [sequential_of_le isOpen seekable large]
    exact ⟨rfl, rfl⟩

/-! ## Descriptors to which nothing is written -/

/-- Every write has one error. -/
structure WritesFail
    (fdNumber : Int)
    (error : Errno)
    (state : State) : Prop where
  isOpen : OpenFd state.fds fdNumber
  refused :
    ∀ world count,
      count ≠ 0 →
      writeFd world fdNumber count state = .err error state

theorem writesFail_of_unwritable
    (isOpen : OpenFd state.fds fdNumber)
    (notTty : (state.fds fdNumber.toNat).kind ≠ .tty)
    (unwritable : fdWritable (state.fds fdNumber.toNat) = false) :
    WritesFail fdNumber .ebadf state where
  isOpen := isOpen
  refused := by
    intro world count something
    rw [writeFd_of_open isOpen something, if_pos ⟨unwritable, notTty⟩]

theorem writesFail_of_fixed
    (isOpen : OpenFd state.fds fdNumber)
    (fixed :
      (state.fds fdNumber.toNat).kind = .binary ∨
        (state.fds fdNumber.toNat).kind = .text)
    (writable : fdWritable (state.fds fdNumber.toNat) = true) :
    WritesFail fdNumber .erofs state where
  isOpen := isOpen
  refused := by
    intro world count something
    rw [writeFd_of_open isOpen something, if_neg (by simp [writable])]
    unfold writeKind
    rcases fixed with kind | kind <;> rw [kind] <;> rfl

theorem writesFail_of_missing
    (isOpen : OpenFd state.fds fdNumber)
    (isRam : (state.fds fdNumber.toNat).kind = .ramFile)
    (writable : fdWritable (state.fds fdNumber.toNat) = true)
    (missing : ramFileIndex state (state.fds fdNumber.toNat).path = none) :
    WritesFail fdNumber .enoent state where
  isOpen := isOpen
  refused := by
    intro world count something
    rw [writeFd_of_open isOpen something, if_neg (by simp [writable])]
    unfold writeKind
    rw [isRam]
    dsimp only
    unfold ramFileWrite
    rw [Prog.bind_of_ok (fdSnapshot_of_open isOpen), Prog.gets_bind_apply, id,
      missing]
    rfl

theorem writevFrom_of_writesFail
    {error : Errno}
    (fails : WritesFail fdNumber error state) :
    (writevFrom world fdNumber iov iovCount 0 0 state).moved = [] ∧
      resultWord (writevFrom world fdNumber iov iovCount 0 0 state).outcome =
        some (stuckWord iov error iovCount 0 0, state) :=
  transferRun_of_stuck (fun _ => writtenBytes_of_no_count fails.isOpen)
    fun _ member =>
      Prog.bind_of_err (fails.refused _ _ (something_of_asked member))

theorem WritesFail.word
    {error : Errno}
    (fails : WritesFail fdNumber error state) :
    (writevFrom world fdNumber iov iovCount 0 0 state).word =
      some (stuckWord iov error iovCount 0 0) :=
  congrArg (Option.map Prod.fst) (writevFrom_of_writesFail fails).2

theorem final?_of_resultWord
    {outcome : Outcome State Errno Nat}
    {word : Nat}
    {next final : State}
    (result : resultWord outcome = some (word, next))
    (ended : outcome.final? = some final) :
    final = next := by
  cases outcome with
  | ok amount last =>
      cases result
      cases ended
      rfl
  | err error last =>
      cases result
      cases ended
      rfl
  | hang =>
      cases ended

theorem stuckWord_of_not_asked
    {error : Errno}
    (nothing : asked iov iovCount 0 = []) :
    stuckWord iov error iovCount 0 0 = 0 ∨
      stuckWord iov error iovCount 0 0 = negErrno .efault := by
  cases iovCount with
  | zero =>
      exact .inl rfl
  | succ left =>
      unfold stuckWord
      cases entry : iov 0 with
      | none =>
          exact .inr rfl
      | some buffer =>
          by_cases empty : buffer.len = 0
          · dsimp only
            rw [if_pos empty]
            exact .inl rfl
          · rw [asked_of_some entry empty] at nothing
            cases nothing

theorem stuckWord_ne_einval
    {error : Errno}
    (known :
      error = .ebadf ∨ error = .enoent ∨ error = .enospc ∨ error = .efault) :
    stuckWord iov error iovCount 0 0 ≠ negErrno .einval := by
  by_cases nothing : asked iov iovCount 0 = []
  · rcases @stuckWord_of_not_asked iov iovCount error nothing with
      word | word <;>
      rw [word] <;>
      decide
  · rw [stuckWord_of_start nothing]
    split
    · rcases known with rfl | rfl | rfl | rfl <;> decide
    · decide

/-! ## Both calls -/

theorem fd_setPosition_writePlace
    {index : Nat}
    (writes : WritesRam fdNumber index state) :
    writePlace fdNumber
        (state.setPosition fdNumber.toNat offset.toNat) =
      ramWriteStart state
        { state.fds fdNumber.toNat with position := offset } index := by
  rw [(writes.setPosition offset.toNat).writePlace_eq]
  unfold ramWriteStart
  rw [fds_setPosition_self, UInt64.ofNat_toNat]
  rfl

theorem positional_iff_of_writesRam
    {index : Nat}
    (writes : WritesRam fdNumber index state)
    (seekable : (state.fds fdNumber.toNat).kind.Seekable)
    (few : iovCount ≤ 1024)
    (small : offset.toNat < 2 ^ 63) :
    Positional world fdNumber offset state (.pwritev iov iovCount) ↔
      LevelRamWrites world (asked iov iovCount 0)
        (state.fds fdNumber.toNat).position.toNat
        (ramWriteStart state (state.fds fdNumber.toNat) index)
        (ramWriteStart state
          { state.fds fdNumber.toNat with position := offset } index) := by
  have run :=
    @pwritev_run_of_ramFile world state fdNumber offset iov iovCount few
      writes.isOpen writes.isRam
  have seek :=
    @sequential_of_lt world state fdNumber offset (.pwritev iov iovCount)
      writes.isOpen seekable small
  rw [pwritev_plain_of_few few] at seek
  have alike :=
    @writevFrom_alike_iff world fdNumber index iov iovCount state writes
      (state.setPosition fdNumber.toNat offset.toNat) index
      (writes.setPosition _)
  rw [← run, ← seek, fd_setPosition_writePlace writes,
    writes.writePlace_eq] at alike
  have position
      {final : State}
      (ended :
        ((OffsetCall.pwritev iov iovCount).run world fdNumber offset
            state).outcome.final? =
          some final) :=
    writevFrom_position writes (run ▸ ended)
  rw [writes.writePlace_eq] at position
  constructor
  · intro positional
    refine ⟨?_, alike.mp positional.alike⟩
    by_cases none :
        NoneWhole world
          (ramWriteStart state (state.fds fdNumber.toNat) index)
          (asked iov iovCount 0)
    · exact .inl none
    · obtain ⟨final, ended⟩ :=
        @writevFrom_ends world fdNumber index iov iovCount 0 0 state writes
      rw [← run] at ended
      right
      rw [← positional.position final ended]
      exact (position ended).2 none
  · intro level
    refine ⟨alike.mpr level.places, fun final ended => ?_⟩
    apply UInt64.toNat_inj.mp
    by_cases none :
        NoneWhole world
          (ramWriteStart state (state.fds fdNumber.toNat) index)
          (asked iov iovCount 0)
    · exact (position ended).1 none
    · rw [(position ended).2 none]
      exact (level.position.resolve_left none).symm

theorem positional_iff_alike
    {call : OffsetCall}
    (unchanged :
      ∀ final,
        (call.run world fdNumber offset state).outcome.final? = some final →
        final = state) :
    Positional world fdNumber offset state call ↔
      (call.run world fdNumber offset state).Alike
        (call.sequential world fdNumber offset state) := by
  refine ⟨fun positional => positional.alike, fun alike => ⟨alike, ?_⟩⟩
  intro final ended
  rw [unchanged final ended]

theorem pwritev_of_writesFail
    {error : Errno}
    (isRam : (state.fds fdNumber.toNat).kind = .ramFile)
    (few : iovCount ≤ 1024)
    (small : offset.toNat < 2 ^ 63)
    (fails : WritesFail fdNumber error state)
    (there :
      WritesFail fdNumber error
        (state.setPosition fdNumber.toNat offset.toNat)) :
    Positional world fdNumber offset state (.pwritev iov iovCount) := by
  have run :=
    @pwritev_run_of_ramFile world state fdNumber offset iov iovCount few
      fails.isOpen isRam
  have here :=
    @writevFrom_of_writesFail world state fdNumber iov iovCount error fails
  have sought :=
    @writevFrom_of_writesFail world
      (state.setPosition fdNumber.toNat offset.toNat) fdNumber iov iovCount
      error there
  refine (positional_iff_alike ?_).mpr ?_
  · intro final ended
    rw [run] at ended
    exact final?_of_resultWord here.2 ended
  · rw [run, sequential_of_lt fails.isOpen (.inr (.inr isRam)) small,
      pwritev_plain_of_few few]
    refine ⟨?_, here.1.trans sought.1.symm⟩
    rw [fails.word, there.word]

theorem pwritev_not_alike_of_le
    (isOpen : OpenFd state.fds fdNumber)
    (seekable : (state.fds fdNumber.toNat).kind.Seekable)
    (few : iovCount ≤ 1024)
    (large : 2 ^ 63 ≤ offset.toNat) :
    ¬ ((OffsetCall.pwritev iov iovCount).run world fdNumber offset state).Alike
        ((OffsetCall.pwritev iov iovCount).sequential world fdNumber offset
          state) := by
  rw [sequential_of_le isOpen seekable large]
  rintro ⟨sameWord, sameMoved⟩
  by_cases isRam : (state.fds fdNumber.toNat).kind = .ramFile
  · rw [pwritev_run_of_ramFile few isOpen isRam] at sameWord sameMoved
    have ofFails
        {error : Errno}
        (known : error = .ebadf ∨ error = .enoent)
        (fails : WritesFail fdNumber error state) :
        False := by
      rw [fails.word] at sameWord
      have known :
          error = .ebadf ∨ error = .enoent ∨ error = .enospc ∨
            error = .efault :=
        known.elim .inl fun missing => .inr (.inl missing)
      exact stuckWord_ne_einval known (Option.some.inj sameWord)
    cases writable : fdWritable (state.fds fdNumber.toNat) with
    | false =>
        exact
          ofFails (.inl rfl)
            (writesFail_of_unwritable isOpen (by rw [isRam]; decide) writable)
    | true =>
        cases found :
            ramFileIndex state (state.fds fdNumber.toNat).path with
        | none =>
            exact
              ofFails (.inr rfl)
                (writesFail_of_missing isOpen isRam writable found)
        | some index =>
            have writes : WritesRam fdNumber index state :=
              ⟨isOpen, isRam, writable, found⟩
            have none := (writevFrom_moved_eq_nil_iff writes).mp sameMoved
            rw [writevFrom_of_noneTaken writes none] at sameWord
            refine stuckWord_ne_einval ?_ (Option.some.inj sameWord)
            unfold refusal
            split
            · exact .inr (.inr (.inl rfl))
            · exact .inr (.inr (.inr rfl))
  · rw [pwritev_run_of_fixed few isOpen (seekable.fixed isRam)] at sameWord
    have same : negErrno .erofs = negErrno .einval := Option.some.inj sameWord
    exact absurd same (by decide)

theorem pwritev_alike_iff_of_fixed
    (isOpen : OpenFd state.fds fdNumber)
    (fixed :
      (state.fds fdNumber.toNat).kind = .binary ∨
        (state.fds fdNumber.toNat).kind = .text)
    (seekable : (state.fds fdNumber.toNat).kind.Seekable)
    (few : iovCount ≤ 1024)
    (small : offset.toNat < 2 ^ 63) :
    ((OffsetCall.pwritev iov iovCount).run world fdNumber offset state).Alike
        ((OffsetCall.pwritev iov iovCount).sequential world fdNumber offset
          state) ↔
      fdWritable (state.fds fdNumber.toNat) = true ∧
        (asked iov iovCount 0).length = 1 := by
  have same := fds_setPosition_self state fdNumber.toNat offset.toNat
  have isOpenThere := @OpenFd.setPosition state fdNumber offset.toNat isOpen
  rw [pwritev_run_of_fixed few isOpen fixed,
    sequential_of_lt isOpen seekable small, pwritev_plain_of_few few]
  have ofFails
      {error : Errno}
      (known : Errno.erofs = error ∨ negErrno .erofs ≠ negErrno error)
      (fails :
        WritesFail fdNumber error
          (state.setPosition fdNumber.toNat offset.toNat)) :
      (CallRun.ends (.err .erofs state)).Alike
          (writevFrom world fdNumber iov iovCount 0 0
            (state.setPosition fdNumber.toNat offset.toNat)) ↔
        Errno.erofs = error ∧ (asked iov iovCount 0).length = 1 := by
    by_cases nothing : asked iov iovCount 0 = []
    · refine iff_of_false (fun alike => ?_) fun both => ?_
      · have word : negErrno .erofs = stuckWord iov error iovCount 0 0 :=
          Option.some.inj (alike.1.trans fails.word)
        rcases @stuckWord_of_not_asked iov iovCount error nothing with
          known | known
        · exact absurd (word.trans known) (by decide)
        · exact absurd (word.trans known) (by decide)
      · have one := both.2
        rw [nothing] at one
        cases one
    · exact
        stuck_alike_iff (by decide) known nothing
          (writevFrom_of_writesFail fails).1 fails.word
  cases writable : fdWritable (state.fds fdNumber.toNat) with
  | false =>
      rw [ofFails (.inr (by decide))
        (writesFail_of_unwritable isOpenThere
          (by rw [same]; rcases fixed with kind | kind <;> rw [kind] <;> decide)
          (by rw [same]; exact writable))]
      exact iff_of_false (fun both => nomatch both.1) fun both => nomatch both.1
  | true =>
      exact
        (ofFails (.inl rfl)
          (writesFail_of_fixed isOpenThere (by rw [same]; exact fixed)
            (by rw [same]; exact writable))).trans
          (and_congr_left fun _ => iff_of_true rfl rfl)

theorem pwritev_positional_iff_of_lt
    (isOpen : OpenFd state.fds fdNumber)
    (seekable : (state.fds fdNumber.toNat).kind.Seekable)
    (few : iovCount ≤ 1024)
    (small : offset.toNat < 2 ^ 63) :
    Positional world fdNumber offset state (.pwritev iov iovCount) ↔
      LevelPwritev world state (state.fds fdNumber.toNat) iov iovCount
        offset := by
  have same := fds_setPosition_self state fdNumber.toNat offset.toNat
  unfold LevelPwritev
  by_cases isRam : (state.fds fdNumber.toNat).kind = .ramFile
  · rw [if_pos isRam]
    have isOpenThere := @OpenFd.setPosition state fdNumber offset.toNat isOpen
    cases writable : fdWritable (state.fds fdNumber.toNat) with
    | false =>
        refine iff_of_true ?_ (.inl rfl)
        exact
          pwritev_of_writesFail isRam few small
            (writesFail_of_unwritable isOpen (by rw [isRam]; decide) writable)
            (writesFail_of_unwritable isOpenThere
              (by rw [same, isRam]; decide) (by rw [same]; exact writable))
    | true =>
        simp only [Bool.true_eq_false, false_or]
        cases found :
            ramFileIndex state (state.fds fdNumber.toNat).path with
        | none =>
            refine iff_of_true ?_ trivial
            exact
              pwritev_of_writesFail isRam few small
                (writesFail_of_missing isOpen isRam writable found)
                (writesFail_of_missing isOpenThere (by rw [same]; exact isRam)
                  (by rw [same]; exact writable) (by rw [same]; exact found))
        | some index =>
            exact
              positional_iff_of_writesRam ⟨isOpen, isRam, writable, found⟩
                seekable few small
  · have fixed := seekable.fixed isRam
    rw [if_neg isRam, positional_iff_alike]
    · exact pwritev_alike_iff_of_fixed isOpen fixed seekable few small
    · intro final ended
      rw [pwritev_run_of_fixed few isOpen fixed] at ended
      cases ended
      rfl

end Pwritev

/--
A call with an offset does what a seek and the call without it do, and leaves the
position alone, exactly when the two are level.
-/
theorem positional_iff
    (world : World)
    (state : State)
    (fdNumber : Int)
    (offset : UInt64)
    (call : OffsetCall)
    (isOpen : OpenFd state.fds fdNumber)
    (seekable : (state.fds fdNumber.toNat).kind.Seekable)
    (slices : world.Slices) :
    Positional world fdNumber offset state call ↔
      call.Level world state (state.fds fdNumber.toNat) offset := by
  cases call with
  | pread64 buffer =>
      rw [positional_iff_alike fun _ => pread64_final isOpen seekable]
      exact pread64_alike_iff isOpen seekable
  | preadv iov iovCount =>
      rw [positional_iff_alike fun _ => preadv_final isOpen]
      unfold OffsetCall.Level
      by_cases many : 1024 < iovCount
      · exact
          iff_of_true (preadv_alike_of_many isOpen seekable many) (.inl many)
      · have few := Nat.le_of_not_lt many
        simp only [many, false_or]
        by_cases small : offset.toNat < 2 ^ 63
        · rw [preadv_alike_iff_of_lt isOpen seekable slices few small]
          exact (and_iff_right small).symm
        · exact
            iff_of_false
              (preadv_not_alike_of_le isOpen seekable few
                (Nat.le_of_not_lt small))
              fun both => small both.1
  | pwritev iov iovCount =>
      unfold OffsetCall.Level
      by_cases many : 1024 < iovCount
      · refine iff_of_true ?_ (.inl many)
        refine (positional_iff_alike ?_).mpr
          (pwritev_alike_of_many isOpen seekable many)
        intro final ended
        rw [pwritev_run_of_many many] at ended
        cases ended
        rfl
      · have few := Nat.le_of_not_lt many
        simp only [many, false_or]
        by_cases small : offset.toNat < 2 ^ 63
        · rw [pwritev_positional_iff_of_lt isOpen seekable few small]
          exact (and_iff_right small).symm
        · exact
            iff_of_false
              (fun positional =>
                pwritev_not_alike_of_le isOpen seekable few
                  (Nat.le_of_not_lt small) positional.alike)
              fun both => small both.1

/-- A text of eight bytes, and nothing else. -/
def noteWorld : World :=
  { World.idle with
    text := fun path =>
      if path = bytes "/etc/note" then some (bytes "a note\n.") else none }

/-- The text is opened as descriptor 3. -/
def noteOpened : State :=
  State.new.setFd 3 (opened .text 0 (bytes "/etc/note"))

def mappedBuffer (len : Nat) : UserBuffer where
  copied := fun _ _ => true
  source := fun _ => 98
  len := len

theorem positional_note :
    Positional noteWorld 3 2 noteOpened (.pread64 (mappedBuffer 4)) := by
  refine
    (positional_iff noteWorld noteOpened 3 2 (.pread64 (mappedBuffer 4))
      ⟨by decide, by decide, rfl⟩ (.inr (.inl rfl)) ⟨?_, ?_⟩).mpr ?_
  · intro path file found
    cases found
  · intro path data found
    change (if path = bytes "/etc/note" then _ else _) = some data at found
    split at found
    · cases found
      decide
    · cases found
  · exact ⟨by decide, rfl⟩

/-- A RAM file of five bytes, with descriptor 3 behind them. -/
def fiveWritten : State :=
  ((openPath World.idle (bytes "/tmp/five") (oCreat ||| Syscall.oRdwr) >>=
          fun fd => writeFd World.idle fd 5)
        State.new).final?.getD
    State.new

/--
`pread64` of a RAM file returns `EBADF` where the bytes could be read, and
`pwritev` writes behind the position and moves it.
-/
theorem not_positional_five :
    (fiveWritten.fds 3).used = true ∧
      (fiveWritten.fds 3).kind = .ramFile ∧
      ¬ Positional World.idle 3 1 fiveWritten (.pread64 (mappedBuffer 2)) ∧
      ¬ Positional World.idle 3 1 fiveWritten
          (.pwritev (fun _ => some (mappedBuffer 2)) 1) := by
  refine ⟨by decide, by decide, ?_, ?_⟩
  · intro positional
    have word := positional.alike.1
    revert word
    decide
  · intro positional
    have moved := positional.alike.2
    revert moved
    decide

end VibuxOS.Files
