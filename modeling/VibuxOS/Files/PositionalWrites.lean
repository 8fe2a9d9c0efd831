import VibuxOS.Files.PositionalReadCalls

namespace VibuxOS.Files

open VibuxOS.Lib

/-!
# `pwritev`

The loop of `pwritev` is that of `writev`, and its offset is left unused: the
buffers go where the descriptor's position or `O_APPEND` says, and the position
moves behind every buffer that is written whole.
-/

/-! ## One write to a RAM file -/

/-- A descriptor of a RAM file that is there and may be written. -/
structure WritesRam
    (fdNumber : Int)
    (index : Nat)
    (state : State) : Prop where
  isOpen : OpenFd state.fds fdNumber
  isRam : (state.fds fdNumber.toNat).kind = .ramFile
  writable : fdWritable (state.fds fdNumber.toNat) = true
  found : ramFileIndex state (state.fds fdNumber.toNat).path = some index

/-- What `writev` asks a RAM file to take of a buffer at a place. -/
def roomFor (buffer : UserBuffer) (place : Nat) : Nat :=
  min (min buffer.len vectorCap) (ramFileCapacity - place)

/-- How many bytes of it can be copied. -/
def bytesTaken (world : World) (buffer : UserBuffer) (place : Nat) : Nat :=
  chunksCopied (world.withBuffer buffer.copied buffer.source) 4096
    (roomFor buffer place) (roomFor buffer place) 0

/-- Bytes are taken, and none is left out. -/
def TakenWhole (world : World) (buffer : UserBuffer) (place : Nat) : Prop :=
  bytesTaken world buffer place ≠ 0 ∧
    bytesTaken world buffer place = roomFor buffer place

instance
    (world : World)
    (buffer : UserBuffer)
    (place : Nat) :
    Decidable (TakenWhole world buffer place) :=
  inferInstanceAs (Decidable (_ ∧ _))

/-- Where the next write starts. -/
def placeAfter (world : World) (place : Nat) (buffer : UserBuffer) : Nat :=
  if TakenWhole world buffer place then
    place + bytesTaken world buffer place
  else
    place

/-- The error of a write that takes nothing. -/
def refusal (place : Nat) : Errno :=
  if ramFileCapacity ≤ place then .enospc else .efault

/-- What a write leaves that has taken bytes of a buffer at a place. -/
structure MovedOn
    (world : World)
    (fdNumber : Int)
    (index : Nat)
    (buffer : UserBuffer)
    (state next : State) : Prop where
  writes : WritesRam fdNumber index next
  place :
    writePlace fdNumber next =
      placeAfter world (writePlace fdNumber state) buffer
  position :
    (next.fds fdNumber.toNat).position.toNat =
      if TakenWhole world buffer (writePlace fdNumber state) then
        writePlace fdNumber state +
          bytesTaken world buffer (writePlace fdNumber state)
      else
        (state.fds fdNumber.toNat).position.toNat

section Write

variable
  {world : World}
  {fdNumber : Int}
  {index : Nat}
  {state : State}
  {buffer : UserBuffer}

theorem WritesRam.writePlace_eq
    (writes : WritesRam fdNumber index state) :
    writePlace fdNumber state =
      ramWriteStart state (state.fds fdNumber.toNat) index := by
  unfold writePlace
  rw [writes.found]

theorem writtenBytes_of_no_count
    (isOpen : OpenFd state.fds fdNumber) :
    writtenBytes fdNumber world 0 state = .ok [] state := by
  have inside : ¬ (fdNumber < 0 ∨ fdNumber ≥ Syscall.fileFdMax) := by
    obtain ⟨nonnegative, inTable, _⟩ := isOpen
    omega
  have returned : writeFd world fdNumber 0 state = .ok 0 state := by
    unfold writeFd
    rw [if_neg inside, if_pos rfl]
    rfl
  exact Prog.bind_of_ok returned

theorem bytesTaken_le
    (world : World)
    (buffer : UserBuffer)
    (place : Nat) :
    bytesTaken world buffer place ≤ roomFor buffer place :=
  chunksCopied_le _ (Nat.zero_le _)

theorem writeFd_of_writesRam
    (writes : WritesRam fdNumber index state)
    (notEmpty : buffer.len ≠ 0) :
    writeFd (world.withBuffer buffer.copied buffer.source) fdNumber
        (min buffer.len vectorCap) state =
      ramFileWrite (world.withBuffer buffer.copied buffer.source) fdNumber
        (min buffer.len vectorCap) state := by
  have something : min buffer.len vectorCap ≠ 0 := by
    unfold vectorCap
    omega
  rw [writeFd_of_open writes.isOpen something, if_neg (by simp [writes.writable])]
  unfold writeKind
  rw [writes.isRam]

theorem writtenBytes_of_refused
    (writes : WritesRam fdNumber index state)
    (notEmpty : buffer.len ≠ 0)
    (nothing : bytesTaken world buffer (writePlace fdNumber state) = 0) :
    writtenBytes fdNumber (world.withBuffer buffer.copied buffer.source)
        (min buffer.len vectorCap) state =
      .err (refusal (writePlace fdNumber state)) state := by
  have something : min buffer.len vectorCap ≠ 0 := by
    unfold vectorCap
    omega
  have outcome :=
    @ramFileWrite_of_found
      (world.withBuffer buffer.copied buffer.source) state fdNumber index
      (min buffer.len vectorCap) writes.isOpen writes.found
  have place := writes.writePlace_eq
  unfold bytesTaken at nothing
  rw [place] at nothing ⊢
  unfold roomFor at nothing
  dsimp only at outcome
  unfold writeAmount at outcome
  generalize ramWriteStart state (state.fds fdNumber.toNat) index = start at *
  have failed :
      writeFd (world.withBuffer buffer.copied buffer.source) fdNumber
          (min buffer.len vectorCap) state =
        .err (refusal start) state := by
    rw [writeFd_of_writesRam writes notEmpty, outcome]
    unfold refusal
    by_cases full : ramFileCapacity ≤ start
    · rw [if_pos ⟨full, something⟩, if_pos full]
    · rw [if_neg (fun both => full both.1), if_neg full, if_neg (by omega),
        nothing, if_pos (by omega), if_pos rfl, blit_zero, setRamFile_self]
  exact Prog.bind_of_err failed

theorem setRamFile_fds
    (file : RamFile) :
    (state.setRamFile index file).fds = state.fds :=
  rfl

section

variable (writes : WritesRam fdNumber index state)

include writes

section

variable
  {file : RamFile}
  (used : file.used = (state.ramFiles index).used)
  (path : file.path = (state.ramFiles index).path)

include used path

theorem WritesRam.setRamFile :
    WritesRam fdNumber index (state.setRamFile index file) where
  isOpen := writes.isOpen
  isRam := writes.isRam
  writable := writes.writable
  found := by
    rw [ramFileIndex_setRamFile used path]
    exact writes.found

omit used path in
theorem WritesRam.setPosition
    (position : Nat) :
    WritesRam fdNumber index (state.setPosition fdNumber.toNat position) where
  isOpen := writes.isOpen.setPosition
  isRam := by
    rw [fds_setPosition_self]
    exact writes.isRam
  writable := by
    rw [fds_setPosition_self]
    exact writes.writable
  found := by
    rw [fds_setPosition_self]
    exact writes.found

theorem movedOn_of_whole
    (len :
      file.len =
        max (state.ramFiles index).len
          (writePlace fdNumber state +
            bytesTaken world buffer (writePlace fdNumber state)))
    (whole : TakenWhole world buffer (writePlace fdNumber state)) :
    MovedOn world fdNumber index buffer state
      ((state.setRamFile index file).setPosition fdNumber.toNat
        (writePlace fdNumber state +
          bytesTaken world buffer (writePlace fdNumber state))) := by
  have within := bytesTaken_le world buffer (writePlace fdNumber state)
  have capacity : ramFileCapacity < 2 ^ 63 := by decide
  have something := whole.1
  unfold roomFor at within
  have isWord :
      writePlace fdNumber state +
          bytesTaken world buffer (writePlace fdNumber state) <
        2 ^ 64 := by
    omega
  have place := writes.writePlace_eq
  have after :=
    (writes.setRamFile used path).setPosition
      (writePlace fdNumber state +
        bytesTaken world buffer (writePlace fdNumber state))
  refine ⟨after, ?_, ?_⟩
  · rw [after.writePlace_eq]
    unfold placeAfter
    rw [if_pos whole]
    unfold ramWriteStart at place ⊢
    rw [fds_setPosition_self, setRamFile_fds]
    dsimp only
    by_cases append : (state.fds fdNumber.toNat).flags &&& oAppend ≠ 0
    · rw [if_pos append] at place ⊢
      change ((state.setRamFile index file).ramFiles index).len = _
      rw [ramFiles_setRamFile_self, len]
      omega
    · rw [if_neg append]
      exact UInt64.toNat_ofNat_of_lt' isWord
  · rw [if_pos whole]
    exact position_setPosition isWord

theorem movedOn_of_part
    (len : file.len = (state.ramFiles index).len)
    (part : ¬ TakenWhole world buffer (writePlace fdNumber state)) :
    MovedOn world fdNumber index buffer state
      (state.setRamFile index file) := by
  have after := writes.setRamFile used path
  refine ⟨after, ?_, ?_⟩
  · unfold placeAfter
    rw [if_neg part, after.writePlace_eq, writes.writePlace_eq]
    unfold ramWriteStart
    rw [setRamFile_fds, ramFiles_setRamFile_self, len]
  · rw [if_neg part, setRamFile_fds]

end

theorem writtenBytes_of_taken
    (notEmpty : buffer.len ≠ 0)
    (something : bytesTaken world buffer (writePlace fdNumber state) ≠ 0) :
    ∃ next,
      writtenBytes fdNumber (world.withBuffer buffer.copied buffer.source)
            (min buffer.len vectorCap) state =
          .ok
            (window buffer.source 0
              (bytesTaken world buffer (writePlace fdNumber state)))
            next ∧
        MovedOn world fdNumber index buffer state next := by
  have outcome :=
    @ramFileWrite_of_found
      (world.withBuffer buffer.copied buffer.source) state fdNumber index
      (min buffer.len vectorCap) writes.isOpen writes.found
  have place := writes.writePlace_eq
  have within := bytesTaken_le world buffer (writePlace fdNumber state)
  have isPlace : writePlace fdNumber state < ramFileCapacity := by
    unfold roomFor at within
    omega
  have copies :
      chunksCopied (world.withBuffer buffer.copied buffer.source) 4096
          (roomFor buffer (writePlace fdNumber state))
          (roomFor buffer (writePlace fdNumber state)) 0 =
        bytesTaken world buffer (writePlace fdNumber state) :=
    rfl
  have amount :
      writeAmount state (state.fds fdNumber.toNat) index
          (min buffer.len vectorCap) =
        roomFor buffer (writePlace fdNumber state) := by
    rw [place]
    rfl
  dsimp only at outcome
  rw [amount, ← place, copies, if_neg (by omega), if_neg (by omega)] at outcome
  rw [← writeFd_of_writesRam writes notEmpty] at outcome
  by_cases whole : TakenWhole world buffer (writePlace fdNumber state)
  · have notShort := Nat.not_lt.mpr (Nat.le_of_eq whole.2.symm)
    rw [if_neg notShort] at outcome
    exact
      ⟨_, Prog.bind_of_ok outcome, movedOn_of_whole writes rfl rfl rfl whole⟩
  · have short :
        bytesTaken world buffer (writePlace fdNumber state) <
          roomFor buffer (writePlace fdNumber state) :=
      Nat.lt_of_le_of_ne within fun same => whole ⟨something, same⟩
    rw [if_pos short, if_neg something] at outcome
    exact
      ⟨_, Prog.bind_of_ok outcome, movedOn_of_part writes rfl rfl rfl whole⟩

end

end Write

/-! ## The loop -/

/-- What the loop of `writev` and `pwritev` does from a buffer on. -/
def writevFrom
    (world : World)
    (fdNumber : Int)
    (iov : Nat → Option UserBuffer)
    (left index total : Nat)
    (state : State) :
    CallRun :=
  transferRun (writtenBytes fdNumber) (writePlace fdNumber) (entries world iov)
    left index total state

/-- No buffer is taken whole at a place. -/
def NoneWhole
    (world : World)
    (place : Nat)
    (buffers : List UserBuffer) : Prop :=
  ∀ buffer ∈ buffers, ¬ TakenWhole world buffer place

/-- Of no buffer a byte is taken at a place. -/
def NoneTaken
    (world : World)
    (place : Nat)
    (buffers : List UserBuffer) : Prop :=
  ∀ buffer ∈ buffers, bytesTaken world buffer place = 0

/-- Where the writes of some buffers end that start at a place. -/
def placeEnd
    (world : World)
    (place : Nat)
    (buffers : List UserBuffer) :
    Nat :=
  buffers.foldl (placeAfter world) place

section Places

variable
  {world : World}
  {place : Nat}
  {buffers : List UserBuffer}

theorem placeEnd_of_noneWhole
    (none : NoneWhole world place buffers) :
    placeEnd world place buffers = place := by
  induction buffers with
  | nil =>
      rfl
  | cons first rest inductionHypothesis =>
      have stays : placeAfter world place first = place := by
        unfold placeAfter
        rw [if_neg (none first List.mem_cons_self)]
      change placeEnd world (placeAfter world place first) rest = place
      rw [stays]
      exact
        inductionHypothesis fun buffer member =>
          none buffer (List.mem_cons_of_mem _ member)

end Places

section Loop

variable
  {world : World}
  {fdNumber : Int}
  {file : Nat}
  {iov : Nat → Option UserBuffer}
  {left index total : Nat}
  {state : State}
  {buffer : UserBuffer}

theorem asked_of_some
    (entry : iov index = some buffer)
    (notEmpty : buffer.len ≠ 0) :
    asked iov (left + 1) index = buffer :: asked iov left (index + 1) := by
  conv_lhs => unfold asked
  rw [entry]
  dsimp only
  rw [if_neg notEmpty]

theorem asked_of_none
    (noEntry : iov index = none) :
    asked iov (left + 1) index = [] := by
  unfold asked
  rw [noEntry]

theorem writevFrom_step
    (writes : WritesRam fdNumber file state)
    (entry : iov index = some buffer)
    (notEmpty : buffer.len ≠ 0) :
    ∃ next,
      MovedOn world fdNumber file buffer state next ∧
        writevFrom world fdNumber iov (left + 1) index total state =
          if bytesTaken world buffer (writePlace fdNumber state) = 0 then
            writevFrom world fdNumber iov left (index + 1)
              (saturatingAddUsize total
                (negErrno (refusal (writePlace fdNumber state))))
              next
          else
            .after
              ⟨index, writePlace fdNumber state,
                window buffer.source 0
                  (bytesTaken world buffer (writePlace fdNumber state))⟩
              (writevFrom world fdNumber iov left (index + 1)
                (saturatingAddUsize total
                  (bytesTaken world buffer (writePlace fdNumber state)))
                next) := by
  by_cases nothing : bytesTaken world buffer (writePlace fdNumber state) = 0
  · refine ⟨state, ⟨writes, ?_, ?_⟩, ?_⟩
    · unfold placeAfter
      rw [if_neg fun whole => whole.1 nothing]
    · rw [if_neg fun whole => whole.1 nothing]
    · rw [if_pos nothing]
      exact
        transferRun_of_err entry
          (writtenBytes_of_refused writes notEmpty nothing)
  · obtain ⟨next, returned, moves⟩ :=
      writtenBytes_of_taken writes notEmpty nothing
    refine ⟨next, moves, ?_⟩
    have notNil :
        window buffer.source 0
            (bytesTaken world buffer (writePlace fdNumber state)) ≠
          [] :=
      List.ne_nil_of_length_pos (by rw [length_window]; omega)
    rw [if_neg nothing]
    unfold writevFrom
    rw [transferRun_of_ok entry returned, if_neg notNil, length_window]

theorem writevFrom_of_none
    (noEntry : iov index = none) :
    writevFrom world fdNumber iov (left + 1) index total state =
      .ends (if total = 0 then .err .efault state else .ok total state) :=
  transferRun_of_none noEntry

theorem writevFrom_of_empty
    (isOpen : OpenFd state.fds fdNumber)
    (entry : iov index = some buffer)
    (empty : buffer.len = 0) :
    writevFrom world fdNumber iov (left + 1) index total state =
      .ends (.ok total state) :=
  transferRun_of_empty (fun _ => writtenBytes_of_no_count isOpen) entry empty

section

variable (writes : WritesRam fdNumber file state)

include writes

theorem writevFrom_alike
    {other : State}
    {otherFile : Nat}
    (otherWrites : WritesRam fdNumber otherFile other)
    (same : writePlace fdNumber other = writePlace fdNumber state) :
    (writevFrom world fdNumber iov left index total state).Alike
      (writevFrom world fdNumber iov left index total other) := by
  induction left generalizing index total state other with
  | zero =>
      exact ⟨rfl, rfl⟩
  | succ left inductionHypothesis =>
      cases entry : iov index with
      | none =>
          rw [writevFrom_of_none entry, writevFrom_of_none entry]
          refine ⟨?_, rfl⟩
          split <;> rfl
      | some buffer =>
          by_cases empty : buffer.len = 0
          · rw [writevFrom_of_empty writes.isOpen entry empty,
              writevFrom_of_empty otherWrites.isOpen entry empty]
            exact ⟨rfl, rfl⟩
          · obtain ⟨next, moves, run⟩ :=
              @writevFrom_step world fdNumber file iov left index total state
                buffer writes entry empty
            obtain ⟨otherNext, otherMoves, otherRun⟩ :=
              @writevFrom_step world fdNumber otherFile iov left index total
                other buffer otherWrites entry empty
            have samePlace :
                writePlace fdNumber otherNext = writePlace fdNumber next := by
              rw [moves.place, otherMoves.place, same]
            rw [same] at otherRun
            rw [run, otherRun]
            split
            · exact
                inductionHypothesis moves.writes otherMoves.writes samePlace
            · rw [CallRun.alike_after_iff]
              exact
                inductionHypothesis moves.writes otherMoves.writes samePlace

theorem writevFrom_moved_eq_nil_iff :
    (writevFrom world fdNumber iov left index total state).moved = [] ↔
      NoneTaken world (writePlace fdNumber state) (asked iov left index) := by
  induction left generalizing index total state with
  | zero =>
      exact iff_of_true rfl fun _ member => nomatch member
  | succ left inductionHypothesis =>
      cases entry : iov index with
      | none =>
          rw [writevFrom_of_none entry, asked_of_none entry]
          exact iff_of_true rfl fun _ member => nomatch member
      | some buffer =>
          by_cases empty : buffer.len = 0
          · rw [writevFrom_of_empty writes.isOpen entry empty,
              asked_of_empty entry empty]
            exact iff_of_true rfl fun _ member => nomatch member
          · obtain ⟨next, moves, run⟩ :=
              @writevFrom_step world fdNumber file iov left index total state
                buffer writes entry empty
            rw [run, asked_of_some entry empty]
            by_cases nothing :
                bytesTaken world buffer (writePlace fdNumber state) = 0
            · have stays : writePlace fdNumber next =
                  writePlace fdNumber state := by
                rw [moves.place]
                unfold placeAfter
                rw [if_neg fun whole => whole.1 nothing]
              rw [if_pos nothing, inductionHypothesis moves.writes, stays]
              unfold NoneTaken
              rw [List.forall_mem_cons]
              exact (and_iff_right nothing).symm
            · rw [if_neg nothing]
              refine iff_of_false (List.cons_ne_nil _ _) fun none => nothing ?_
              exact none buffer List.mem_cons_self

theorem place_of_moved
    {first : PlacedBytes}
    {rest : List PlacedBytes}
    (moved :
      (writevFrom world fdNumber iov left index total state).moved =
        first :: rest) :
    first.place = writePlace fdNumber state := by
  induction left generalizing index total state with
  | zero =>
      cases moved
  | succ left inductionHypothesis =>
      cases entry : iov index with
      | none =>
          rw [writevFrom_of_none entry] at moved
          cases moved
      | some buffer =>
          by_cases empty : buffer.len = 0
          · rw [writevFrom_of_empty writes.isOpen entry empty] at moved
            cases moved
          · obtain ⟨next, moves, run⟩ :=
              @writevFrom_step world fdNumber file iov left index total state
                buffer writes entry empty
            rw [run] at moved
            by_cases nothing :
                bytesTaken world buffer (writePlace fdNumber state) = 0
            · rw [if_pos nothing] at moved
              rw [inductionHypothesis moves.writes moved, moves.place]
              unfold placeAfter
              rw [if_neg fun whole => whole.1 nothing]
            · rw [if_neg nothing] at moved
              cases moved
              rfl

theorem writevFrom_ends :
    ∃ final,
      (writevFrom world fdNumber iov left index total state).outcome.final? =
        some final := by
  induction left generalizing index total state with
  | zero =>
      exact ⟨state, rfl⟩
  | succ left inductionHypothesis =>
      cases entry : iov index with
      | none =>
          rw [writevFrom_of_none entry]
          split <;> exact ⟨state, rfl⟩
      | some buffer =>
          by_cases empty : buffer.len = 0
          · rw [writevFrom_of_empty writes.isOpen entry empty]
            exact ⟨state, rfl⟩
          · obtain ⟨next, moves, run⟩ :=
              @writevFrom_step world fdNumber file iov left index total state
                buffer writes entry empty
            rw [run]
            split
            · exact inductionHypothesis moves.writes
            · exact inductionHypothesis moves.writes

theorem writevFrom_position
    {final : State}
    (ended :
      (writevFrom world fdNumber iov left index total state).outcome.final? =
        some final) :
    (NoneWhole world (writePlace fdNumber state) (asked iov left index) →
        (final.fds fdNumber.toNat).position.toNat =
          (state.fds fdNumber.toNat).position.toNat) ∧
      (¬ NoneWhole world (writePlace fdNumber state) (asked iov left index) →
        (final.fds fdNumber.toNat).position.toNat =
          placeEnd world (writePlace fdNumber state)
            (asked iov left index)) := by
  have noneAsked (first : Nat) : NoneWhole world first [] :=
    fun _ member => nomatch member
  induction left generalizing index total state with
  | zero =>
      cases ended
      exact ⟨fun _ => rfl, fun some => (some (noneAsked _)).elim⟩
  | succ left inductionHypothesis =>
      cases entry : iov index with
      | none =>
          rw [writevFrom_of_none entry] at ended
          rw [asked_of_none entry]
          refine ⟨fun _ => ?_, fun some => (some (noneAsked _)).elim⟩
          split at ended <;> (cases ended; rfl)
      | some buffer =>
          by_cases empty : buffer.len = 0
          · rw [writevFrom_of_empty writes.isOpen entry empty] at ended
            rw [asked_of_empty entry empty]
            refine ⟨fun _ => ?_, fun some => (some (noneAsked _)).elim⟩
            cases ended
            rfl
          · obtain ⟨next, moves, run⟩ :=
              @writevFrom_step world fdNumber file iov left index total state
                buffer writes entry empty
            have later :
                ∃ count,
                  (writevFrom world fdNumber iov left (index + 1) count
                    next).outcome.final? =
                    some final := by
              rw [run] at ended
              split at ended
              · exact ⟨_, ended⟩
              · exact ⟨_, ended⟩
            obtain ⟨count, later⟩ := later
            obtain ⟨none, some⟩ := inductionHypothesis moves.writes later
            rw [moves.place] at none some
            rw [asked_of_some entry empty]
            have position := moves.position
            change
              _ ∧
                (_ →
                  _ =
                    placeEnd world
                      (placeAfter world (writePlace fdNumber state) buffer)
                      (asked iov left (index + 1)))
            by_cases whole : TakenWhole world buffer (writePlace fdNumber state)
            · refine
                ⟨fun all => (all buffer List.mem_cons_self whole).elim,
                  fun _ => ?_⟩
              by_cases noneLater :
                  NoneWhole world
                    (placeAfter world (writePlace fdNumber state) buffer)
                    (asked iov left (index + 1))
              · rw [none noneLater, placeEnd_of_noneWhole noneLater, position,
                  if_pos whole]
                unfold placeAfter
                rw [if_pos whole]
              · exact some noneLater
            · have stays :
                  placeAfter world (writePlace fdNumber state) buffer =
                    writePlace fdNumber state := by
                unfold placeAfter
                rw [if_neg whole]
              have later_iff :
                  NoneWhole world (writePlace fdNumber state)
                      (buffer :: asked iov left (index + 1)) ↔
                    NoneWhole world (writePlace fdNumber state)
                      (asked iov left (index + 1)) := by
                unfold NoneWhole
                rw [List.forall_mem_cons]
                exact and_iff_right whole
              rw [if_neg whole] at position
              rw [stays] at none some ⊢
              rw [later_iff, ← position]
              exact ⟨none, some⟩

theorem writevFrom_of_noneTaken
    (none :
      NoneTaken world (writePlace fdNumber state) (asked iov left index)) :
    (writevFrom world fdNumber iov left index total state).word =
      some
        (stuckWord iov (refusal (writePlace fdNumber state)) left index
          total) := by
  obtain ⟨_, result⟩ :=
    @transferRun_of_stuck iov (refusal (writePlace fdNumber state)) left index
      total (writtenBytes fdNumber) (writePlace fdNumber) world state
      (fun _ => writtenBytes_of_no_count writes.isOpen)
      fun buffer member =>
        writtenBytes_of_refused writes (len_ne_zero_of_asked member)
          (none buffer member)
  exact congrArg (Option.map Prod.fst) result

/-- Two loops that start at different places do the same only if neither moves. -/
theorem writevFrom_alike_iff
    {other : State}
    {otherFile : Nat}
    (otherWrites : WritesRam fdNumber otherFile other) :
    (writevFrom world fdNumber iov left 0 0 state).Alike
        (writevFrom world fdNumber iov left 0 0 other) ↔
      writePlace fdNumber other = writePlace fdNumber state ∨
        NoneTaken world (writePlace fdNumber state) (asked iov left 0) ∧
          NoneTaken world (writePlace fdNumber other) (asked iov left 0) ∧
          ((asked iov left 0).length = 1 →
            (ramFileCapacity ≤ writePlace fdNumber state ↔
              ramFileCapacity ≤ writePlace fdNumber other)) := by
  by_cases same : writePlace fdNumber other = writePlace fdNumber state
  · exact iff_of_true (writevFrom_alike writes otherWrites same) (.inl same)
  simp only [same, false_or]
  have moved :=
    @writevFrom_moved_eq_nil_iff world fdNumber file iov left 0 0 state writes
  have otherMoved :=
    @writevFrom_moved_eq_nil_iff world fdNumber otherFile iov left 0 0 other
      otherWrites
  constructor
  · rintro ⟨sameWord, sameMoved⟩
    have nothing :
        (writevFrom world fdNumber iov left 0 0 state).moved = [] := by
      cases first : (writevFrom world fdNumber iov left 0 0 state).moved with
      | nil =>
          rfl
      | cons one rest =>
          have here := place_of_moved writes first
          have there := place_of_moved otherWrites (sameMoved.symm.trans first)
          exact (same (there.symm.trans here)).elim
    have none := moved.mp nothing
    have otherNone := otherMoved.mp (sameMoved.symm.trans nothing)
    refine ⟨none, otherNone, fun one => ?_⟩
    rw [writevFrom_of_noneTaken writes none,
      writevFrom_of_noneTaken otherWrites otherNone, Option.some.injEq,
      stuckWord_of_start (List.ne_nil_of_length_pos (by omega)),
      stuckWord_of_start (List.ne_nil_of_length_pos (by omega)), if_pos one,
      if_pos one] at sameWord
    unfold refusal at sameWord
    have differ : negErrno .enospc ≠ negErrno .efault := by decide
    by_cases full : ramFileCapacity ≤ writePlace fdNumber state
    · by_cases otherFull : ramFileCapacity ≤ writePlace fdNumber other
      · exact iff_of_true full otherFull
      · rw [if_pos full, if_neg otherFull] at sameWord
        exact (differ sameWord).elim
    · by_cases otherFull : ramFileCapacity ≤ writePlace fdNumber other
      · rw [if_neg full, if_pos otherFull] at sameWord
        exact (differ sameWord.symm).elim
      · exact iff_of_false full otherFull
  · rintro ⟨none, otherNone, oneError⟩
    refine ⟨?_, (moved.mpr none).trans (otherMoved.mpr otherNone).symm⟩
    rw [writevFrom_of_noneTaken writes none,
      writevFrom_of_noneTaken otherWrites otherNone]
    by_cases empty : asked iov left 0 = []
    · rw [stuckWord_of_nothing_asked _ empty]
    · rw [stuckWord_of_start empty, stuckWord_of_start empty]
      by_cases one : (asked iov left 0).length = 1
      · rw [if_pos one, if_pos one]
        unfold refusal
        by_cases full : ramFileCapacity ≤ writePlace fdNumber state
        · rw [if_pos full, if_pos ((oneError one).mp full)]
        · rw [if_neg full, if_neg (mt (oneError one).mpr full)]
      · rw [if_neg one, if_neg one]

end

end Loop

end VibuxOS.Files
