import VibuxOS.Files.PositionalReads

namespace VibuxOS.Files

open VibuxOS.Lib

/-!
# `pread64` and `preadv`

Neither call asks whether the descriptor may be read, and neither knows RAM
files; an offset of `2 ^ 63` or more, at which `lseek` fails, is behind the end
of every file.
-/

/-- `pread64` agrees with a seek and a read. -/
def LevelPread
    (world : World)
    (fd : Fd)
    (buffer : UserBuffer) :
    Prop :=
  if fd.kind = .ramFile then
    buffer.len ≠ 0 ∧ fdReadable fd = false
  else if buffer.len = 0 then
    (fixedContents world fd).isSome = true
  else
    fdReadable fd = true

/-- `preadv` with at most 1024 buffers agrees with a seek and `readv`. -/
def LevelPreadv
    (world : World)
    (fd : Fd)
    (iov : Nat → Option UserBuffer)
    (iovCount : Nat)
    (offset : UInt64) :
    Prop :=
  iovCount = 0 ∨
    iov 0 = none ∨
      if fd.kind = .ramFile then
        fdReadable fd = false ∧ (asked iov iovCount 0).length = 1
      else
        match fixedContents world fd with
        | none => fdReadable fd = true ∧ (asked iov iovCount 0).length = 1
        | some data =>
            LevelReads data iov (fdReadable fd) iovCount 0 0 offset.toNat

theorem FileKind.Seekable.fixed
    {kind : FileKind}
    (seekable : kind.Seekable)
    (notRam : kind ≠ .ramFile) :
    kind = .binary ∨ kind = .text := by
  rcases seekable with binary | text | ram
  · exact .inl binary
  · exact .inr text
  · exact (notRam ram).elim

theorem World.Slices.length_lt
    {world : World}
    {fd : Fd}
    {data : List UInt8}
    (slices : world.Slices)
    (contents : fixedContents world fd = some data) :
    data.length < 2 ^ 63 := by
  unfold fixedContents at contents
  by_cases binary : fd.kind = .binary
  · rw [if_pos binary] at contents
    obtain ⟨file, found, rfl⟩ := Option.map_eq_some_iff.mp contents
    exact slices.binary _ _ found
  · rw [if_neg binary] at contents
    exact slices.text _ _ contents

section Calls

variable
  {world : World}
  {state : State}
  {fdNumber : Int}
  {offset : UInt64}

theorem sequential_of_lt
    {call : OffsetCall}
    (isOpen : OpenFd state.fds fdNumber)
    (seekable : (state.fds fdNumber.toNat).kind.Seekable)
    (small : offset.toNat < 2 ^ 63) :
    call.sequential world fdNumber offset state =
      call.plain world fdNumber
        (state.setPosition fdNumber.toNat offset.toNat) := by
  unfold OffsetCall.sequential
  rw [lseek_of_open isOpen seekable, if_pos small]

theorem sequential_of_le
    {call : OffsetCall}
    (isOpen : OpenFd state.fds fdNumber)
    (seekable : (state.fds fdNumber.toNat).kind.Seekable)
    (large : 2 ^ 63 ≤ offset.toNat) :
    call.sequential world fdNumber offset state =
      .ends (.err .einval state) := by
  unfold OffsetCall.sequential
  rw [lseek_of_open isOpen seekable, if_neg (Nat.not_lt.mpr large)]

theorem readFd_of_ramFile
    {count : Nat}
    (isOpen : OpenFd state.fds fdNumber)
    (isRam : (state.fds fdNumber.toNat).kind = .ramFile)
    (readable : fdReadable (state.fds fdNumber.toNat) = true)
    (something : count ≠ 0) :
    (∃ bytes next, readFd world fdNumber count state = .ok bytes next) ∨
      ∃ error,
        (error = .enoent ∨ error = .efault) ∧
          readFd world fdNumber count state = .err error state := by
  rw [readFd_of_open isOpen something, if_neg (by simp [readable])]
  unfold readKind
  rw [isRam]
  dsimp only
  cases found : ramFileIndex state (state.fds fdNumber.toNat).path with
  | none =>
      right
      refine ⟨.enoent, .inl rfl, ?_⟩
      unfold ramFileRead
      rw [Prog.bind_of_ok (fdSnapshot_of_open isOpen), Prog.gets_bind_apply,
        id, found]
      rfl
  | some index =>
      rw [ramFileRead_of_found isOpen found]
      dsimp only
      split
      · exact .inl ⟨_, _, rfl⟩
      · split
        · split
          · exact .inr ⟨.efault, .inr rfl, rfl⟩
          · exact .inl ⟨_, _, rfl⟩
        · exact .inl ⟨_, _, rfl⟩

/-! ## `pread64` -/

section Pread

variable {buffer : UserBuffer}

section

variable (isOpen : OpenFd state.fds fdNumber)

include isOpen

theorem pread64_of_ramFile
    {count : Nat}
    (isRam : (state.fds fdNumber.toNat).kind = .ramFile) :
    pread64 world fdNumber count offset state = .err .ebadf state := by
  unfold pread64
  rw [Prog.bind_of_ok (fdSnapshot_of_open isOpen), isRam]
  rfl

theorem pread64_of_fixed
    {count : Nat}
    (fixed :
      (state.fds fdNumber.toNat).kind = .binary ∨
        (state.fds fdNumber.toNat).kind = .text) :
    pread64 world fdNumber count offset state =
      fixedPread world (fixedContents world (state.fds fdNumber.toNat)) count
        offset state := by
  unfold pread64
  rw [Prog.bind_of_ok (fdSnapshot_of_open isOpen)]
  rcases fixed with kind | kind <;> rw [kind]

omit isOpen in
theorem fixedPread_of_some
    {data : List UInt8}
    {count : Nat} :
    fixedPread world (some data) count offset state =
      if sliceAt data offset.toNat count = [] ∨
          world.copied 0 (sliceAt data offset.toNat count).length = true then
        .ok (sliceAt data offset.toNat count) state
      else
        .err .efault state := by
  unfold fixedPread sliceAt
  dsimp only
  split <;> rfl

theorem pread64_final
    (seekable : (state.fds fdNumber.toNat).kind.Seekable)
    {final : State}
    (ended :
      ((OffsetCall.pread64 buffer).run world fdNumber offset
          state).outcome.final? =
        some final) :
    final = state := by
  unfold OffsetCall.run at ended
  dsimp only at ended
  by_cases isRam : (state.fds fdNumber.toNat).kind = .ramFile
  · rw [pread64_of_ramFile isOpen isRam] at ended
    cases ended
    rfl
  · rw [pread64_of_fixed isOpen (seekable.fixed isRam)] at ended
    cases contents :
        fixedContents
          (world.withBuffer buffer.copied buffer.source)
          (state.fds fdNumber.toNat) with
    | none =>
        rw [contents] at ended
        cases ended
        rfl
    | some data =>
        rw [contents, fixedPread_of_some] at ended
        split at ended <;> (cases ended; rfl)

omit isOpen in
theorem pread64_not_alike
    {error : Errno}
    {place : Nat}
    (other : error = .einval ∨ error = .ebadf)
    (isOpen : OpenFd state.fds fdNumber)
    (fixed :
      (state.fds fdNumber.toNat).kind = .binary ∨
        (state.fds fdNumber.toNat).kind = .text)
    {final : State} :
    ¬ (readRun place
          (pread64 (world.withBuffer buffer.copied buffer.source) fdNumber
            buffer.len offset state)).Alike
        (.ends (.err error final)) := by
  rw [pread64_of_fixed isOpen fixed]
  have differs
      {word : Nat}
      (known : word = 0 ∨ word = negErrno .enoent ∨ word = negErrno .efault) :
      word ≠ negErrno error := by
    rcases known with rfl | rfl | rfl <;>
      rcases other with rfl | rfl <;>
      decide
  rintro ⟨sameWord, sameMoved⟩
  cases contents :
      fixedContents (world.withBuffer buffer.copied buffer.source)
        (state.fds fdNumber.toNat) with
  | none =>
      rw [contents] at sameWord
      exact differs (.inr (.inl rfl)) (Option.some.inj sameWord)
  | some data =>
      rw [contents, fixedPread_of_some] at sameWord sameMoved
      split at sameWord
      · rename_i reached
        rw [if_pos reached] at sameMoved
        have nothing : sliceAt data offset.toNat buffer.len = [] := by
          by_contra something
          change transferred 0 place _ = [] at sameMoved
          unfold transferred at sameMoved
          rw [if_neg something] at sameMoved
          cases sameMoved
        rw [nothing] at sameWord
        exact differs (.inl rfl) (Option.some.inj sameWord)
      · exact differs (.inr (.inr rfl)) (Option.some.inj sameWord)

theorem not_alike_of_ramFile
    {place other count : Nat}
    {final : State}
    (isRam : (state.fds fdNumber.toNat).kind = .ramFile)
    (readable : fdReadable (state.fds fdNumber.toNat) = true)
    (something : count ≠ 0) :
    ¬ (readRun place (.err .ebadf final)).Alike
        (readRun other (readFd world fdNumber count state)) := by
  rintro ⟨sameWord, sameMoved⟩
  rcases readFd_of_ramFile isOpen isRam readable something with
    ⟨bytes, next, returned⟩ | ⟨error, known, failed⟩
  · rw [returned] at sameWord sameMoved
    have nothing : bytes = [] := by
      by_contra notNil
      change [] = transferred 0 other bytes at sameMoved
      unfold transferred at sameMoved
      rw [if_neg notNil] at sameMoved
      cases sameMoved
    subst nothing
    have isZero : negErrno .ebadf = 0 := Option.some.inj sameWord
    exact absurd isZero (by decide)
  · rw [failed] at sameWord
    have sameError : negErrno .ebadf = negErrno error :=
      Option.some.inj sameWord
    rcases known with rfl | rfl <;> exact absurd sameError (by decide)

theorem pread64_alike_of_readable
    (fixed :
      (state.fds fdNumber.toNat).kind = .binary ∨
        (state.fds fdNumber.toNat).kind = .text)
    (readable : fdReadable (state.fds fdNumber.toNat) = true)
    (something : buffer.len ≠ 0) :
    (readRun offset.toNat
          (fixedPread (world.withBuffer buffer.copied buffer.source)
            (fixedContents world (state.fds fdNumber.toNat)) buffer.len offset
            state)).Alike
      (readRun
        (readPlace fdNumber
          (state.setPosition fdNumber.toNat offset.toNat))
        (readFd (world.withBuffer buffer.copied buffer.source) fdNumber
          buffer.len (state.setPosition fdNumber.toNat offset.toNat))) := by
  have same := fds_setPosition_self state fdNumber.toNat offset.toNat
  have place :
      readPlace fdNumber (state.setPosition fdNumber.toNat offset.toNat) =
        offset.toNat :=
    position_setPosition offset.toNat_lt
  cases contents : fixedContents world (state.fds fdNumber.toNat) with
  | none =>
      rw [readFd_of_fixed isOpen.setPosition (by rw [same]; exact fixed)
        (by rw [same]; exact readable) something, same]
      change
        (readRun _ _).Alike
          (readRun _
            (fixedRead _ fdNumber _
              (fixedContents world (state.fds fdNumber.toNat)) _ _))
      rw [contents]
      exact ⟨rfl, rfl⟩
  | some data =>
      have outcome :=
        @readFd_of_shows world state fdNumber data buffer.copied buffer.source
          offset.toNat buffer.len isOpen ⟨fixed, contents⟩ readable something
          offset.toNat_lt
      have positional :=
        @fixedPread_of_some (world.withBuffer buffer.copied buffer.source) state
          offset data buffer.len
      change
        _ =
          if sliceAt data offset.toNat buffer.len = [] ∨
              buffer.copied 0 (sliceAt data offset.toNat buffer.len).length =
                true then
            _
          else
            _
        at positional
      dsimp only at outcome
      rw [outcome, positional, place]
      split <;> exact ⟨rfl, rfl⟩

theorem pread64_alike_iff
    (seekable : (state.fds fdNumber.toNat).kind.Seekable) :
    ((OffsetCall.pread64 buffer).run world fdNumber offset state).Alike
        ((OffsetCall.pread64 buffer).sequential world fdNumber offset state) ↔
      offset.toNat < 2 ^ 63 ∧
        LevelPread world (state.fds fdNumber.toNat) buffer := by
  have same := fds_setPosition_self state fdNumber.toNat offset.toNat
  have isWord := offset.toNat_lt
  unfold LevelPread
  by_cases small : offset.toNat < 2 ^ 63
  · rw [sequential_of_lt isOpen seekable small]
    simp only [small, true_and]
    unfold OffsetCall.run OffsetCall.plain
    dsimp only
    by_cases isRam : (state.fds fdNumber.toNat).kind = .ramFile
    · rw [if_pos isRam, pread64_of_ramFile isOpen isRam]
      by_cases empty : buffer.len = 0
      · rw [empty, readFd_of_no_count isOpen.setPosition]
        refine iff_of_false (fun alike => ?_) fun both => both.1 rfl
        have sameWord : negErrno .ebadf = 0 := Option.some.inj alike.1
        exact absurd sameWord (by decide)
      · cases readable : fdReadable (state.fds fdNumber.toNat) with
        | false =>
            rw [readFd_of_unreadable isOpen.setPosition empty
              (by rw [same]; exact readable)]
            exact iff_of_true ⟨rfl, rfl⟩ ⟨empty, rfl⟩
        | true =>
            refine
              iff_of_false (not_alike_of_ramFile isOpen.setPosition ?_ ?_ empty)
                fun both => nomatch both.2
            · rw [same]
              exact isRam
            · rw [same]
              exact readable
    · have fixed := seekable.fixed isRam
      rw [if_neg isRam]
      by_cases empty : buffer.len = 0
      · rw [if_pos empty, empty, readFd_of_no_count isOpen.setPosition,
          pread64_of_fixed isOpen fixed]
        cases contents : fixedContents world (state.fds fdNumber.toNat) with
        | none =>
            refine iff_of_false (fun alike => ?_) Bool.noConfusion
            have found := alike.1
            change
              (readRun _ (fixedPread _ (fixedContents world _) 0 offset
                state)).word =
                _ at found
            rw [contents] at found
            have sameWord : negErrno .enoent = 0 := Option.some.inj found
            exact absurd sameWord (by decide)
        | some data =>
            refine iff_of_true ?_ rfl
            change
              (readRun _ (fixedPread _ (fixedContents world _) 0 offset
                state)).Alike
                _
            rw [contents, fixedPread_of_some]
            have nothing : sliceAt data offset.toNat 0 = [] := List.take_zero
            rw [nothing, if_pos (.inl rfl)]
            exact ⟨rfl, rfl⟩
      · rw [if_neg empty]
        cases readable : fdReadable (state.fds fdNumber.toNat) with
        | false =>
            rw [readFd_of_unreadable isOpen.setPosition empty
              (by rw [same]; exact readable)]
            exact
              iff_of_false (pread64_not_alike (.inr rfl) isOpen fixed)
                Bool.noConfusion
        | true =>
            rw [pread64_of_fixed isOpen fixed]
            refine iff_of_true ?_ rfl
            exact pread64_alike_of_readable isOpen fixed readable empty
  · rw [sequential_of_le isOpen seekable (Nat.le_of_not_lt small)]
    refine iff_of_false ?_ fun both => small both.1
    unfold OffsetCall.run
    dsimp only
    by_cases isRam : (state.fds fdNumber.toNat).kind = .ramFile
    · rw [pread64_of_ramFile isOpen isRam]
      intro alike
      have sameWord : negErrno .ebadf = negErrno .einval :=
        Option.some.inj alike.1
      exact absurd sameWord (by decide)
    · exact pread64_not_alike (.inl rfl) isOpen (seekable.fixed isRam)

end

end Pread

/-! ## `preadv` -/

section Preadv

variable
  {iov : Nat → Option UserBuffer}
  {iovCount : Nat}

theorem preadv_run_of_few
    (few : iovCount ≤ 1024)
    (isOpen : OpenFd state.fds fdNumber) :
    (OffsetCall.preadv iov iovCount).run world fdNumber offset state =
      preadvFrom world (state.fds fdNumber.toNat) iov state iovCount 0 0
        offset := by
  unfold OffsetCall.run preadv
  dsimp only
  rw [if_neg (Nat.not_lt.mpr few), Prog.bind_of_ok (fdSnapshot_of_open isOpen)]
  rfl

theorem preadv_plain_of_few
    (few : iovCount ≤ 1024) :
    (OffsetCall.preadv iov iovCount).plain world fdNumber state =
      readvFrom world fdNumber iov iovCount 0 0 state := by
  have loop :=
    @vectorLoop_eq_transferRun (fun world => readFd world fdNumber)
      (readPlace fdNumber) (entries world iov) (readTransfer fdNumber)
      (fun _ _ => rfl) iovCount 0 0 state
  unfold OffsetCall.plain readvMoved readv
  dsimp only
  rw [if_neg (Nat.not_lt.mpr few), if_neg (Nat.not_lt.mpr few), loop]
  rfl

theorem preadv_final
    {final : State}
    (isOpen : OpenFd state.fds fdNumber)
    (ended :
      ((OffsetCall.preadv iov iovCount).run world fdNumber offset
          state).outcome.final? =
        some final) :
    final = state := by
  by_cases few : iovCount ≤ 1024
  · rw [preadv_run_of_few few isOpen] at ended
    unfold preadvFrom at ended
    cases found :
        preadvLoop world (state.fds fdNumber.toNat) iov iovCount 0 0 offset with
    | ok result =>
        rw [found] at ended
        cases ended
        rfl
    | error error =>
        rw [found] at ended
        cases ended
        rfl
  · unfold OffsetCall.run preadv at ended
    dsimp only at ended
    rw [if_pos (Nat.lt_of_not_le few)] at ended
    cases ended
    rfl

theorem preadv_alike_of_many
    (isOpen : OpenFd state.fds fdNumber)
    (seekable : (state.fds fdNumber.toNat).kind.Seekable)
    (many : 1024 < iovCount) :
    ((OffsetCall.preadv iov iovCount).run world fdNumber offset state).Alike
      ((OffsetCall.preadv iov iovCount).sequential world fdNumber offset
        state) := by
  have refused :
      (OffsetCall.preadv iov iovCount).run world fdNumber offset state =
        .ends (.err .einval state) := by
    unfold OffsetCall.run preadv
    dsimp only
    rw [if_pos many]
    rfl
  rw [refused]
  rcases Nat.lt_or_ge offset.toNat (2 ^ 63) with small | large
  · rw [sequential_of_lt isOpen seekable small]
    unfold OffsetCall.plain readvMoved readv
    dsimp only
    rw [if_pos many, if_pos many]
    exact ⟨rfl, rfl⟩
  · rw [sequential_of_le isOpen seekable large]
    exact ⟨rfl, rfl⟩

theorem preadvFrom_of_refused
    {fd : Fd}
    {buffer : UserBuffer}
    {left : Nat}
    (entry : iov 0 = some buffer) :
    (fd.kind = .ramFile →
        preadvFrom world fd iov state (left + 1) 0 0 offset =
          .ends (.err .ebadf state)) ∧
      (fd.kind = .binary ∨ fd.kind = .text →
        fixedContents world fd = none →
        preadvFrom world fd iov state (left + 1) 0 0 offset =
          .ends (.err .enoent state)) := by
  unfold preadvFrom preadvLoop
  rw [entry]
  dsimp only
  constructor
  · intro isRam
    rw [isRam, if_pos (by decide)]
    rfl
  · intro fixed missing
    have isFixed : ¬ (fd.kind ≠ .binary ∧ fd.kind ≠ .text) := by
      rcases fixed with kind | kind <;> rw [kind] <;> decide
    rw [if_neg isFixed, missing]
    rfl

theorem preadvFrom_of_nothing
    {fd : Fd}
    {other : State}
    (nothing : iovCount = 0 ∨ iov 0 = none) :
    (preadvFrom world fd iov state iovCount 0 0 offset).Alike
        (readvFrom world fdNumber iov iovCount 0 0 other) ∧
      ¬ (preadvFrom world fd iov state iovCount 0 0 offset).Alike
          (.ends (.err .einval other)) := by
  cases iovCount with
  | zero =>
      refine ⟨⟨rfl, rfl⟩, fun alike => ?_⟩
      have isZero : 0 = negErrno .einval := Option.some.inj alike.1
      exact absurd isZero (by decide)
  | succ left =>
      have noEntry := nothing.resolve_left (Nat.succ_ne_zero _)
      rw [preadvFrom_of_none noEntry, readvFrom_of_none noEntry, if_pos rfl,
        if_pos rfl]
      refine ⟨⟨rfl, rfl⟩, fun alike => ?_⟩
      have same : negErrno .efault = negErrno .einval :=
        Option.some.inj alike.1
      exact absurd same (by decide)

theorem preadv_not_alike_of_le
    (isOpen : OpenFd state.fds fdNumber)
    (seekable : (state.fds fdNumber.toNat).kind.Seekable)
    (few : iovCount ≤ 1024)
    (large : 2 ^ 63 ≤ offset.toNat) :
    ¬ ((OffsetCall.preadv iov iovCount).run world fdNumber offset state).Alike
        ((OffsetCall.preadv iov iovCount).sequential world fdNumber offset
          state) := by
  rw [preadv_run_of_few few isOpen, sequential_of_le isOpen seekable large]
  by_cases nothing : iovCount = 0 ∨ iov 0 = none
  · exact (@preadvFrom_of_nothing world state fdNumber offset iov iovCount _ _
      nothing).2
  obtain ⟨positive, isSome⟩ := not_or.mp nothing
  obtain ⟨left, rfl⟩ := Nat.exists_eq_succ_of_ne_zero positive
  obtain ⟨buffer, entry⟩ := Option.ne_none_iff_exists'.mp isSome
  obtain ⟨ram, missing⟩ :=
    @preadvFrom_of_refused world state offset iov
      (state.fds fdNumber.toNat) buffer left entry
  rintro ⟨sameWord, sameMoved⟩
  by_cases isRam : (state.fds fdNumber.toNat).kind = .ramFile
  · rw [ram isRam] at sameWord
    have same : negErrno .ebadf = negErrno .einval := Option.some.inj sameWord
    exact absurd same (by decide)
  · have fixed := seekable.fixed isRam
    cases contents : fixedContents world (state.fds fdNumber.toNat) with
    | none =>
        rw [missing fixed contents] at sameWord
        have same : negErrno .enoent = negErrno .einval :=
          Option.some.inj sameWord
        exact absurd same (by decide)
    | some data =>
        rcases preadvFrom_word_of_nothing ⟨fixed, contents⟩ sameMoved with
          counted | failed
        · rw [counted] at sameWord
          have same : 0 = negErrno .einval := Option.some.inj sameWord
          exact absurd same (by decide)
        · rw [failed] at sameWord
          have same : negErrno .efault = negErrno .einval :=
            Option.some.inj sameWord
          exact absurd same (by decide)

theorem asked_ne_nil
    {left index : Nat}
    {buffer : UserBuffer}
    (entry : iov index = some buffer)
    (notEmpty : buffer.len ≠ 0) :
    asked iov (left + 1) index ≠ [] := by
  unfold asked
  rw [entry]
  dsimp only
  rw [if_neg notEmpty]
  exact List.cons_ne_nil _ _

theorem asked_of_empty
    {left index : Nat}
    {buffer : UserBuffer}
    (entry : iov index = some buffer)
    (empty : buffer.len = 0) :
    asked iov (left + 1) index = [] := by
  unfold asked
  rw [entry]
  dsimp only
  rw [if_pos empty]

theorem stuck_alike_iff
    {error found : Errno}
    {left : Nat}
    {final : State}
    {run : CallRun}
    (isWord : found ≠ .eperm)
    (same : found = error ∨ negErrno found ≠ negErrno error)
    (something : asked iov left 0 ≠ [])
    (moved : run.moved = [])
    (word : run.word = some (stuckWord iov error left 0 0)) :
    (CallRun.ends (.err found final)).Alike run ↔
      found = error ∧ (asked iov left 0).length = 1 := by
  have notMost : negErrno found ≠ 2 ^ 64 - 1 := by
    cases found <;> first | exact (isWord rfl).elim | decide
  unfold CallRun.Alike
  rw [moved, word, stuckWord_of_start something]
  change some (negErrno found) = some _ ∧ [] = [] ↔ _
  rw [Option.some.injEq, eq_self, and_true]
  by_cases one : (asked iov left 0).length = 1
  · rw [if_pos one]
    rcases same with rfl | different
    · exact iff_of_true rfl ⟨rfl, one⟩
    · refine iff_of_false different fun both => different ?_
      rw [both.1]
  · rw [if_neg one]
    exact iff_of_false notMost fun both => one both.2

/-- The words that `readv` of a RAM file returns without having moved a byte. -/
def RamWord (word : Nat) : Prop :=
  word = 0 ∨ word = negErrno .enoent ∨ word = negErrno .efault ∨
    word = 2 ^ 64 - 1

theorem RamWord.add
    {word : Nat}
    {error : Errno}
    (isWord : RamWord word)
    (known : error = .enoent ∨ error = .efault) :
    RamWord (saturatingAddUsize word (negErrno error)) := by
  unfold RamWord at *
  rcases known with rfl | rfl <;>
    rcases isWord with rfl | rfl | rfl | rfl <;>
    decide

theorem readvFrom_of_ramFile
    {left index total : Nat}
    (isOpen : OpenFd state.fds fdNumber)
    (isRam : (state.fds fdNumber.toNat).kind = .ramFile)
    (readable : fdReadable (state.fds fdNumber.toNat) = true)
    (counted : RamWord total)
    (nothing :
      (readvFrom world fdNumber iov left index total state).moved = []) :
    ∃ word,
      (readvFrom world fdNumber iov left index total state).word = some word ∧
        RamWord word := by
  induction left generalizing index total with
  | zero =>
      exact ⟨total, rfl, counted⟩
  | succ left inductionHypothesis =>
      cases entry : iov index with
      | none =>
          rw [readvFrom_of_none entry]
          split
          · exact ⟨_, rfl, .inr (.inr (.inl rfl))⟩
          · exact ⟨_, rfl, counted⟩
      | some buffer =>
          by_cases empty : buffer.len = 0
          · rw [readvFrom_of_empty isOpen entry empty]
            exact ⟨_, rfl, counted⟩
          have something : min buffer.len vectorCap ≠ 0 := by
            unfold vectorCap
            omega
          rcases
              @readFd_of_ramFile
                (world.withBuffer buffer.copied buffer.source) state fdNumber _
                isOpen isRam readable something with
            ⟨bytes, next, returned⟩ | ⟨error, known, failed⟩
          · rw [readvFrom_of_ok entry returned] at nothing ⊢
            by_cases none : bytes = []
            · rw [if_pos none]
              exact ⟨_, rfl, counted⟩
            · rw [if_neg none] at nothing
              cases nothing
          · rw [readvFrom_of_err entry failed] at nothing ⊢
            exact inductionHypothesis (counted.add known) nothing

/-- With an offset that `lseek` takes, `preadv` agrees if the reads are level. -/
theorem preadv_alike_iff_of_lt
    (isOpen : OpenFd state.fds fdNumber)
    (seekable : (state.fds fdNumber.toNat).kind.Seekable)
    (slices : world.Slices)
    (few : iovCount ≤ 1024)
    (small : offset.toNat < 2 ^ 63) :
    ((OffsetCall.preadv iov iovCount).run world fdNumber offset state).Alike
        ((OffsetCall.preadv iov iovCount).sequential world fdNumber offset
          state) ↔
      LevelPreadv world (state.fds fdNumber.toNat) iov iovCount offset := by
  have same := fds_setPosition_self state fdNumber.toNat offset.toNat
  rw [preadv_run_of_few few isOpen, sequential_of_lt isOpen seekable small,
    preadv_plain_of_few few]
  unfold LevelPreadv
  by_cases nothing : iovCount = 0 ∨ iov 0 = none
  · exact
      iff_of_true
        (@preadvFrom_of_nothing world state fdNumber offset iov iovCount _ _
          nothing).1
        (nothing.elim .inl fun noEntry => .inr (.inl noEntry))
  obtain ⟨positive, isSome⟩ := not_or.mp nothing
  obtain ⟨left, rfl⟩ := Nat.exists_eq_succ_of_ne_zero positive
  obtain ⟨buffer, entry⟩ := Option.ne_none_iff_exists'.mp isSome
  obtain ⟨ram, missing⟩ :=
    @preadvFrom_of_refused world state offset iov
      (state.fds fdNumber.toNat) buffer left entry
  simp only [positive, isSome, false_or]
  have isOpenThere := @OpenFd.setPosition state fdNumber offset.toNat isOpen
  by_cases empty : buffer.len = 0
  · -- `readv` returns 0
    rw [readvFrom_of_empty isOpenThere entry empty, asked_of_empty entry empty]
    by_cases isRam : (state.fds fdNumber.toNat).kind = .ramFile
    · rw [if_pos isRam, ram isRam]
      refine iff_of_false (fun alike => ?_) fun both => nomatch both.2
      have isZero : negErrno .ebadf = 0 := Option.some.inj alike.1
      exact absurd isZero (by decide)
    · have fixed := seekable.fixed isRam
      rw [if_neg isRam]
      cases contents : fixedContents world (state.fds fdNumber.toNat) with
      | none =>
          rw [missing fixed contents]
          refine iff_of_false (fun alike => ?_) fun both => nomatch both.2
          have isZero : negErrno .enoent = 0 := Option.some.inj alike.1
          exact absurd isZero (by decide)
      | some data =>
          dsimp only
          rw [← readvFrom_of_empty isOpenThere entry empty]
          apply
            alike_iff_levelReads isOpen ⟨fixed, contents⟩
              (slices.length_lt contents)
          unfold vectorCap
          omega
  have something := @asked_ne_nil iov left 0 buffer entry empty
  by_cases isRam : (state.fds fdNumber.toNat).kind = .ramFile
  · rw [if_pos isRam, ram isRam]
    cases readable : fdReadable (state.fds fdNumber.toNat) with
    | false =>
        obtain ⟨moved, word⟩ :=
          @readvFrom_of_unreadable world _ fdNumber iov (left + 1) 0 0
            isOpenThere (by rw [same]; exact readable)
        exact
          (stuck_alike_iff (by decide) (.inl rfl) something moved word).trans
            (and_congr_left fun _ => iff_of_true rfl rfl)
    | true =>
        refine iff_of_false (fun alike => ?_) fun both => nomatch both.1
        obtain ⟨word, returned, known⟩ :=
          @readvFrom_of_ramFile world _ fdNumber iov (left + 1) 0 0 isOpenThere
            (by rw [same]; exact isRam) (by rw [same]; exact readable)
            (.inl rfl) alike.2.symm
        have isWord : some (negErrno .ebadf) = some word :=
          alike.1.trans returned
        cases isWord
        exact absurd known (by unfold RamWord; decide)
  · have fixed := seekable.fixed isRam
    rw [if_neg isRam]
    cases contents : fixedContents world (state.fds fdNumber.toNat) with
    | none =>
        rw [missing fixed contents]
        dsimp only
        cases readable : fdReadable (state.fds fdNumber.toNat) with
        | false =>
            obtain ⟨moved, word⟩ :=
              @readvFrom_of_unreadable world _ fdNumber iov (left + 1) 0 0
                isOpenThere (by rw [same]; exact readable)
            rw [stuck_alike_iff (by decide) (.inr (by decide)) something moved
              word]
            exact iff_of_false (fun both => nomatch both.1)
              fun both => nomatch both.1
        | true =>
            obtain ⟨moved, word⟩ :=
              @readvFrom_of_missing world _ fdNumber iov (left + 1) 0 0
                isOpenThere (by rw [same]; exact fixed)
                (by rw [same]; exact readable) (by rw [same]; exact contents)
            exact
              (stuck_alike_iff (by decide) (.inl rfl) something moved
                word).trans
                (and_congr_left fun _ => iff_of_true rfl rfl)
    | some data =>
        dsimp only
        apply
          alike_iff_levelReads isOpen ⟨fixed, contents⟩
            (slices.length_lt contents)
        unfold vectorCap
        omega

end Preadv

end Calls

end VibuxOS.Files
