import VibuxOS.Files.PositionalCalls

namespace VibuxOS.Files

open VibuxOS.Lib

/-!
# Reads at a given place

Of a built-in file `preadv` and `readv` read the same buffer after buffer.  They
part where `readv` counts an error and goes on, where it stops at an empty
buffer, and where `preadv` does not ask whether the descriptor may be read.
-/

/-- The bytes that a read of a built-in file finds at a position. -/
def sliceAt (data : List UInt8) (position amount : Nat) : List UInt8 :=
  (data.drop (min position data.length)).take amount

/-- From a buffer on `preadv` moves nothing and has no error. -/
def IdleReads
    (data : List UInt8)
    (iov : Nat → Option UserBuffer) :
    Nat →
    Nat →
    Nat →
    Nat →
    Prop
  | 0, _, _, _ => True
  | left + 1, index, total, position =>
      match iov index with
      | none => total ≠ 0
      | some buffer =>
          if buffer.len = 0 then
            IdleReads data iov left (index + 1) total position
          else
            data.length ≤ position ∨
              buffer.copied 0
                    (sliceAt data position (min buffer.len vectorCap)).length =
                  false ∧
                total ≠ 0

/--
From a buffer on `preadv` meets nothing that `readv` treats in another way: an
empty buffer only where nothing follows that would be read, no descriptor that
may not be read, and an unmapped buffer only as the single one.
-/
def LevelReads
    (data : List UInt8)
    (iov : Nat → Option UserBuffer)
    (readable : Bool) :
    Nat →
    Nat →
    Nat →
    Nat →
    Prop
  | 0, _, _, _ => True
  | left + 1, index, total, position =>
      match iov index with
      | none => True
      | some buffer =>
          if buffer.len = 0 then
            IdleReads data iov left (index + 1) total position
          else
            readable = true ∧
              let bytes := sliceAt data position (min buffer.len vectorCap)
              if bytes = [] then
                True
              else if buffer.copied 0 bytes.length = false then
                total = 0 ∧ asked iov left (index + 1) = []
              else
                bytes.length = min buffer.len vectorCap →
                LevelReads data iov readable left (index + 1)
                  (total + bytes.length) (position + bytes.length)

theorem length_sliceAt
    (data : List UInt8)
    (position amount : Nat) :
    (sliceAt data position amount).length =
      min amount (data.length - position) := by
  unfold sliceAt
  rw [List.length_take, List.length_drop]
  omega

theorem sliceAt_eq_nil_iff
    {data : List UInt8}
    {position amount : Nat}
    (something : amount ≠ 0) :
    sliceAt data position amount = [] ↔ data.length ≤ position := by
  rw [← List.length_eq_zero_iff, length_sliceAt]
  omega

namespace CallRun

theorem alike_after_iff
    {transfer : PlacedBytes}
    {first second : CallRun} :
    (first.after transfer).Alike (second.after transfer) ↔
      first.Alike second := by
  unfold Alike after word
  simp only [List.cons.injEq, true_and]

theorem not_alike_of_moved
    {transfer : PlacedBytes}
    {first second : CallRun}
    (nothing : second.moved = []) :
    ¬ (first.after transfer).Alike second := by
  intro alike
  have same := alike.2
  rw [nothing] at same
  cases same

theorem Alike.symm
    {first second : CallRun}
    (alike : first.Alike second) :
    second.Alike first :=
  ⟨alike.1.symm, alike.2.symm⟩

end CallRun

/-! ## The loop of `preadv` over a built-in file -/

section Preadv

variable
  {world : World}
  {fd : Fd}
  {data : List UInt8}
  {iov : Nat → Option UserBuffer}
  {state : State}

/-- A descriptor of a built-in file, with the contents of the file. -/
structure Shows (world : World) (fd : Fd) (data : List UInt8) : Prop where
  fixed : fd.kind = .binary ∨ fd.kind = .text
  contents : fixedContents world fd = some data

/-- What the loop of `preadv` does from a buffer on. -/
def preadvFrom
    (world : World)
    (fd : Fd)
    (iov : Nat → Option UserBuffer)
    (state : State)
    (left index total : Nat)
    (currentOffset : UInt64) :
    CallRun :=
  preadvRun
    (Prog.ofExcept (preadvLoop world fd iov left index total currentOffset)
      state)

variable
  {left index total : Nat}
  {currentOffset : UInt64}
  {buffer : UserBuffer}

theorem preadvFrom_of_none
    (noEntry : iov index = none) :
    preadvFrom world fd iov state (left + 1) index total currentOffset =
      .ends (if total = 0 then .err .efault state else .ok total state) := by
  unfold preadvFrom preadvLoop
  rw [noEntry]
  dsimp only
  split <;> rfl

section

variable
  (shows : Shows world fd data)
  (entry : iov index = some buffer)

include shows entry

theorem preadvLoop_of_some :
    preadvLoop world fd iov (left + 1) index total currentOffset =
      (let bytes :=
          sliceAt data currentOffset.toNat (min buffer.len vectorCap)
        if bytes ≠ [] ∧ buffer.copied 0 bytes.length = false then
          if total = 0 then .error .efault else .ok (total, [])
        else if bytes.length < min buffer.len vectorCap then
          .ok (total + bytes.length,
            transferred index (min currentOffset.toNat data.length) bytes)
        else do
          let (sum, rest) ←
            preadvLoop world fd iov left (index + 1) (total + bytes.length)
              (currentOffset + UInt64.ofNat bytes.length)
          .ok (sum,
            transferred index (min currentOffset.toNat data.length) bytes ++
              rest)) := by
  have isFixed : ¬ (fd.kind ≠ .binary ∧ fd.kind ≠ .text) := by
    rcases shows.fixed with kind | kind <;> rw [kind] <;> decide
  conv_lhs => unfold preadvLoop
  rw [entry]
  dsimp only
  rw [if_neg isFixed, shows.contents]
  rfl

theorem preadvFrom_of_empty
    (empty : buffer.len = 0) :
    preadvFrom world fd iov state (left + 1) index total currentOffset =
      preadvFrom world fd iov state left (index + 1) total currentOffset := by
  have nothing :
      sliceAt data currentOffset.toNat (min buffer.len vectorCap) = [] := by
    rw [empty, Nat.zero_min]
    exact List.take_zero
  unfold preadvFrom
  rw [preadvLoop_of_some shows entry]
  dsimp only
  rw [nothing, if_neg (fun both => both.1 rfl), empty, if_neg (by decide)]
  change
    preadvRun
        (Prog.ofExcept
          (preadvLoop world fd iov left (index + 1) total (currentOffset + 0) >>=
            fun found => .ok (found.1, [] ++ found.2))
          state) =
      _
  rw [UInt64.add_zero]
  cases preadvLoop world fd iov left (index + 1) total currentOffset <;> rfl

theorem preadvFrom_of_end
    (notEmpty : buffer.len ≠ 0)
    (nothing :
      sliceAt data currentOffset.toNat (min buffer.len vectorCap) = []) :
    preadvFrom world fd iov state (left + 1) index total currentOffset =
      .ends (.ok total state) := by
  have something : 0 < min buffer.len vectorCap := by
    unfold vectorCap
    omega
  unfold preadvFrom
  rw [preadvLoop_of_some shows entry]
  dsimp only
  rw [nothing, if_neg (fun both => both.1 rfl), List.length_nil,
    if_pos something]
  rfl

theorem preadvFrom_of_fault
    (something :
      sliceAt data currentOffset.toNat (min buffer.len vectorCap) ≠ [])
    (unmapped :
      buffer.copied 0
          (sliceAt data currentOffset.toNat
            (min buffer.len vectorCap)).length =
        false) :
    preadvFrom world fd iov state (left + 1) index total currentOffset =
      .ends (if total = 0 then .err .efault state else .ok total state) := by
  unfold preadvFrom
  rw [preadvLoop_of_some shows entry]
  dsimp only
  rw [if_pos ⟨something, unmapped⟩]
  split <;> rfl

omit shows entry in
theorem preadvLoop_of_counted
    (shows : Shows world fd data)
    (counted : total ≠ 0) :
    ∃ found,
      preadvLoop world fd iov left index total currentOffset = .ok found := by
  induction left generalizing index total currentOffset with
  | zero =>
      exact ⟨_, rfl⟩
  | succ left inductionHypothesis =>
      cases entry : iov index with
      | none =>
          unfold preadvLoop
          rw [entry]
          dsimp only
          rw [if_neg counted]
          exact ⟨_, rfl⟩
      | some buffer =>
          rw [preadvLoop_of_some shows entry]
          dsimp only
          generalize
            sliceAt data currentOffset.toNat (min buffer.len vectorCap) = bytes
          by_cases fault : bytes ≠ [] ∧ buffer.copied 0 bytes.length = false
          · rw [if_pos fault, if_neg counted]
            exact ⟨_, rfl⟩
          · rw [if_neg fault]
            by_cases short : bytes.length < min buffer.len vectorCap
            · rw [if_pos short]
              exact ⟨_, rfl⟩
            · obtain ⟨found, later⟩ :=
                @inductionHypothesis (index + 1) (total + bytes.length)
                  (currentOffset + UInt64.ofNat bytes.length) (by omega)
              rw [if_neg short, later]
              exact ⟨_, rfl⟩

omit shows entry in
theorem min_of_slice
    {position amount : Nat}
    (something : sliceAt data position amount ≠ []) :
    min position data.length = position := by
  have positive := List.length_pos_of_ne_nil something
  rw [length_sliceAt] at positive
  omega

theorem preadvFrom_of_moved
    {bytes : List UInt8}
    (found :
      sliceAt data currentOffset.toNat (min buffer.len vectorCap) = bytes)
    (something : bytes ≠ [])
    (mapped : buffer.copied 0 bytes.length = true) :
    preadvFrom world fd iov state (left + 1) index total currentOffset =
      .after ⟨index, currentOffset.toNat, bytes⟩
        (if bytes.length < min buffer.len vectorCap then
          .ends (.ok (total + bytes.length) state)
        else
          preadvFrom world fd iov state left (index + 1) (total + bytes.length)
            (currentOffset + UInt64.ofNat bytes.length)) := by
  have positive := List.length_pos_of_ne_nil something
  have noFault : ¬ (bytes ≠ [] ∧ buffer.copied 0 bytes.length = false) := by
    rw [mapped]
    exact fun both => Bool.noConfusion both.2
  have place : min currentOffset.toNat data.length = currentOffset.toNat := by
    apply min_of_slice
    rw [found]
    exact something
  unfold preadvFrom
  rw [preadvLoop_of_some shows entry]
  dsimp only
  rw [found, if_neg noFault, place]
  unfold transferred
  rw [if_neg something]
  by_cases short : bytes.length < min buffer.len vectorCap
  · rw [if_pos short, if_pos short]
    rfl
  · obtain ⟨found, later⟩ :=
      @preadvLoop_of_counted world fd data iov left (index + 1)
        (total + bytes.length) (currentOffset + UInt64.ofNat bytes.length) shows
        (by omega)
    rw [if_neg short, if_neg short, later]
    rfl

end

theorem preadvFrom_word_of_nothing
    (shows : Shows world fd data)
    (nothing :
      (preadvFrom world fd iov state left index total currentOffset).moved =
        []) :
    (preadvFrom world fd iov state left index total currentOffset).word =
        some total ∨
      (preadvFrom world fd iov state left index total currentOffset).word =
        some (negErrno .efault) := by
  have ended :
      (CallRun.ends
            (if total = 0 then .err .efault state else .ok total state)).word =
          some total ∨
        (CallRun.ends
            (if total = 0 then .err .efault state else .ok total state)).word =
          some (negErrno .efault) := by
    split
    · exact .inr rfl
    · exact .inl rfl
  induction left generalizing index with
  | zero =>
      exact .inl rfl
  | succ left inductionHypothesis =>
      cases entry : iov index with
      | none =>
          rw [preadvFrom_of_none entry]
          exact ended
      | some buffer =>
          by_cases empty : buffer.len = 0
          · rw [preadvFrom_of_empty shows entry empty] at nothing ⊢
            exact inductionHypothesis nothing
          · by_cases atEnd :
                sliceAt data currentOffset.toNat (min buffer.len vectorCap) = []
            · rw [preadvFrom_of_end shows entry empty atEnd]
              exact .inl rfl
            · cases mapped :
                  buffer.copied 0
                    (sliceAt data currentOffset.toNat
                      (min buffer.len vectorCap)).length with
              | false =>
                  rw [preadvFrom_of_fault shows entry atEnd mapped]
                  exact ended
              | true =>
                  rw [preadvFrom_of_moved shows entry rfl atEnd mapped] at nothing
                  cases nothing

/-- From a buffer on `preadv` returns what is counted and moves nothing. -/
theorem preadvFrom_idle_iff
    {final : State}
    (shows : Shows world fd data) :
    (preadvFrom world fd iov state left index total currentOffset).Alike
        (.ends (.ok total final)) ↔
      IdleReads data iov left index total currentOffset.toNat := by
  have ended :
      (CallRun.ends
            (if total = 0 then .err .efault state else .ok total state)).Alike
          (.ends (.ok total final)) ↔
        total ≠ 0 := by
    by_cases none : total = 0
    · rw [if_pos none]
      refine iff_of_false (fun alike => ?_) (not_not.mpr none)
      have same : negErrno .efault = total := Option.some.inj alike.1
      have large := (negErrno_pos_lt .efault).1
      omega
    · rw [if_neg none]
      exact iff_of_true ⟨rfl, rfl⟩ none
  induction left generalizing index with
  | zero =>
      exact iff_of_true ⟨rfl, rfl⟩ trivial
  | succ left inductionHypothesis =>
      unfold IdleReads
      cases entry : iov index with
      | none =>
          rw [preadvFrom_of_none entry]
          exact ended
      | some buffer =>
          dsimp only
          by_cases empty : buffer.len = 0
          · rw [preadvFrom_of_empty shows entry empty, if_pos empty]
            exact inductionHypothesis
          · have something : min buffer.len vectorCap ≠ 0 := by
              unfold vectorCap
              omega
            rw [if_neg empty]
            by_cases atEnd :
                sliceAt data currentOffset.toNat (min buffer.len vectorCap) = []
            · rw [preadvFrom_of_end shows entry empty atEnd]
              exact
                iff_of_true ⟨rfl, rfl⟩
                  (.inl ((sliceAt_eq_nil_iff something).mp atEnd))
            · have before := mt (sliceAt_eq_nil_iff something).mpr atEnd
              cases mapped :
                  buffer.copied 0
                    (sliceAt data currentOffset.toNat
                      (min buffer.len vectorCap)).length with
              | false =>
                  rw [preadvFrom_of_fault shows entry atEnd mapped, ended]
                  simp only [before, true_and, false_or]
              | true =>
                  rw [preadvFrom_of_moved shows entry rfl atEnd mapped]
                  refine iff_of_false (CallRun.not_alike_of_moved rfl) ?_
                  rintro (behind | ⟨unmapped, _⟩)
                  · exact before behind
                  · cases unmapped

end Preadv

/-! ## The loop of `readv` over a built-in file -/

theorem fds_setPosition_self
    (state : State)
    (index position : Nat) :
    (state.setPosition index position).fds index =
      { state.fds index with position := UInt64.ofNat position } :=
  Function.update_self _ _ _

theorem setPosition_setPosition
    (state : State)
    (index first second : Nat) :
    (state.setPosition index first).setPosition index second =
      state.setPosition index second := by
  unfold State.setPosition State.setFd
  dsimp only
  rw [Function.update_idem, Function.update_self]

theorem OpenFd.setPosition
    {state : State}
    {fdNumber : Int}
    {position : Nat}
    (isOpen : OpenFd state.fds fdNumber) :
    OpenFd (state.setPosition fdNumber.toNat position).fds fdNumber := by
  refine ⟨isOpen.1, isOpen.2.1, ?_⟩
  rw [fds_setPosition_self]
  exact isOpen.2.2

theorem readFd_of_no_count
    {world : World}
    {state : State}
    {fdNumber : Int}
    (isOpen : OpenFd state.fds fdNumber) :
    readFd world fdNumber 0 state = .ok [] state := by
  have inside : ¬ (fdNumber < 0 ∨ fdNumber ≥ Syscall.fileFdMax) := by
    obtain ⟨nonnegative, inTable, _⟩ := isOpen
    omega
  unfold readFd
  rw [if_neg inside, if_pos rfl]
  rfl

section Readv

variable
  {world : World}
  {state : State}
  {fdNumber : Int}
  {data : List UInt8}
  {iov : Nat → Option UserBuffer}
  {copied : Nat → Nat → Bool}
  {source : Nat → UInt8}
  {position count : Nat}

theorem readFd_of_unreadable
    (isOpen : OpenFd state.fds fdNumber)
    (something : count ≠ 0)
    (unreadable : fdReadable (state.fds fdNumber.toNat) = false) :
    readFd world fdNumber count state = .err .ebadf state := by
  rw [readFd_of_open isOpen something, if_pos unreadable]

theorem readFd_of_fixed
    (isOpen : OpenFd state.fds fdNumber)
    (fixed :
      (state.fds fdNumber.toNat).kind = .binary ∨
        (state.fds fdNumber.toNat).kind = .text)
    (readable : fdReadable (state.fds fdNumber.toNat) = true)
    (something : count ≠ 0) :
    readFd (world.withBuffer copied source) fdNumber count state =
      fixedRead (world.withBuffer copied source) fdNumber
        (state.fds fdNumber.toNat)
        (fixedContents world (state.fds fdNumber.toNat)) count state := by
  rw [readFd_of_open isOpen something, if_neg (by simp [readable])]
  unfold readKind fixedContents
  rcases fixed with kind | kind
  · rw [kind, if_pos rfl]
    rfl
  · rw [kind, if_neg (by decide)]
    rfl

theorem readFd_of_shows
    (isOpen : OpenFd state.fds fdNumber)
    (shows : Shows world (state.fds fdNumber.toNat) data)
    (readable : fdReadable (state.fds fdNumber.toNat) = true)
    (something : count ≠ 0)
    (isWord : position < 2 ^ 64) :
    readFd (world.withBuffer copied source) fdNumber count
        (state.setPosition fdNumber.toNat position) =
      (let bytes := sliceAt data position count
        if bytes = [] ∨ copied 0 bytes.length = true then
          .ok bytes
            (state.setPosition fdNumber.toNat
              (min position data.length + bytes.length))
        else
          .err .efault (state.setPosition fdNumber.toNat position)) := by
  have same := fds_setPosition_self state fdNumber.toNat position
  rw [readFd_of_fixed isOpen.setPosition
    (by rw [same]; exact shows.fixed) (by rw [same]; exact readable) something]
  have contents :
      fixedContents world
          ((state.setPosition fdNumber.toNat position).fds fdNumber.toNat) =
        some data := by
    rw [same]
    exact shows.contents
  have place :
      ((state.setPosition fdNumber.toNat position).fds
          fdNumber.toNat).position.toNat =
        position :=
    position_setPosition isWord
  rw [contents]
  unfold fixedRead
  dsimp only
  rw [place]
  unfold sliceAt
  generalize (data.drop (min position data.length)).take count = bytes
  by_cases reached : bytes = [] ∨ copied 0 bytes.length = true
  · rw [if_pos reached,
      ← setPosition_setPosition state _ position
        (min position data.length + bytes.length)]
    exact congrFun (if_pos reached) _
  · rw [if_neg reached]
    exact congrFun (if_neg reached) _

/-- What the loop of `readv` does from a buffer on. -/
def readvFrom
    (world : World)
    (fdNumber : Int)
    (iov : Nat → Option UserBuffer)
    (left index total : Nat)
    (state : State) :
    CallRun :=
  transferRun (fun world => readFd world fdNumber) (readPlace fdNumber)
    (entries world iov) left index total state

variable
  {left index total : Nat}
  {buffer : UserBuffer}

theorem readvFrom_of_none
    (noEntry : iov index = none) :
    readvFrom world fdNumber iov (left + 1) index total state =
      .ends (if total = 0 then .err .efault state else .ok total state) :=
  transferRun_of_none noEntry

theorem readvFrom_of_ok
    {bytes : List UInt8}
    {next : State}
    (entry : iov index = some buffer)
    (returned :
      readFd (world.withBuffer buffer.copied buffer.source) fdNumber
          (min buffer.len vectorCap) state =
        .ok bytes next) :
    readvFrom world fdNumber iov (left + 1) index total state =
      if bytes = [] then
        .ends (.ok total next)
      else
        .after ⟨index, readPlace fdNumber state, bytes⟩
          (readvFrom world fdNumber iov left (index + 1)
            (saturatingAddUsize total bytes.length) next) :=
  transferRun_of_ok entry returned

theorem readvFrom_of_err
    {error : Errno}
    {next : State}
    (entry : iov index = some buffer)
    (failed :
      readFd (world.withBuffer buffer.copied buffer.source) fdNumber
          (min buffer.len vectorCap) state =
        .err error next) :
    readvFrom world fdNumber iov (left + 1) index total state =
      readvFrom world fdNumber iov left (index + 1)
        (saturatingAddUsize total (negErrno error)) next :=
  transferRun_of_err entry failed

section

variable (isOpen : OpenFd state.fds fdNumber)

include isOpen

theorem readvFrom_of_empty
    (entry : iov index = some buffer)
    (empty : buffer.len = 0) :
    readvFrom world fdNumber iov (left + 1) index total state =
      .ends (.ok total state) :=
  transferRun_of_empty (fun _ => readFd_of_no_count isOpen) entry empty

theorem readvFrom_of_stuck
    {error : Errno}
    (stuck :
      ∀ buffer ∈ asked iov left index,
        readFd (world.withBuffer buffer.copied buffer.source) fdNumber
            (min buffer.len vectorCap) state =
          .err error state) :
    (readvFrom world fdNumber iov left index total state).moved = [] ∧
      (readvFrom world fdNumber iov left index total state).word =
        some (stuckWord iov error left index total) := by
  obtain ⟨nothing, result⟩ :=
    @transferRun_of_stuck iov error left index total
      (fun world => readFd world fdNumber) (readPlace fdNumber) world state
      (fun _ => readFd_of_no_count isOpen) stuck
  exact ⟨nothing, congrArg (Option.map Prod.fst) result⟩

theorem readvFrom_at_end
    (shows : Shows world (state.fds fdNumber.toNat) data)
    (readable : fdReadable (state.fds fdNumber.toNat) = true)
    (isWord : position < 2 ^ 64)
    (behind : data.length ≤ position)
    (counted : total ≠ 0) :
    (CallRun.ends (.ok total state)).Alike
      (readvFrom world fdNumber iov left index total
        (state.setPosition fdNumber.toNat position)) := by
  cases left with
  | zero =>
      exact ⟨rfl, rfl⟩
  | succ left =>
      cases entry : iov index with
      | none =>
          rw [readvFrom_of_none entry, if_neg counted]
          exact ⟨rfl, rfl⟩
      | some buffer =>
          by_cases empty : buffer.len = 0
          · rw [readvFrom_of_empty isOpen.setPosition entry empty]
            exact ⟨rfl, rfl⟩
          · have something : min buffer.len vectorCap ≠ 0 := by
              unfold vectorCap
              omega
            have returned :=
              @readFd_of_shows world state fdNumber data buffer.copied
                buffer.source position (min buffer.len vectorCap) isOpen shows
                readable something isWord
            dsimp only at returned
            rw [(sliceAt_eq_nil_iff something).mpr behind, if_pos (.inl rfl)]
              at returned
            rw [readvFrom_of_ok entry returned, if_pos rfl]
            exact ⟨rfl, rfl⟩

/-- After an unmapped buffer `readv` goes on, with the error among its count. -/
theorem alike_after_fault_iff
    (shows : Shows world (state.fds fdNumber.toNat) data)
    (readable : fdReadable (state.fds fdNumber.toNat) = true)
    (isWord : position < 2 ^ 64)
    (inside : position < data.length)
    (small : total < 2 ^ 63) :
    (CallRun.ends
          (if total = 0 then .err .efault state else .ok total state)).Alike
        (readvFrom world fdNumber iov left index
          (saturatingAddUsize total (negErrno .efault))
          (state.setPosition fdNumber.toNat position)) ↔
      total = 0 ∧ asked iov left index = [] := by
  have large := (negErrno_pos_lt .efault).1
  have counts : saturatingAddUsize total (negErrno .efault) ≠ 0 := by
    unfold saturatingAddUsize
    omega
  have isSum := saturatingAddUsize_lt total (negErrno .efault)
  by_cases none : total = 0
  · have sum : saturatingAddUsize total (negErrno .efault) =
        negErrno .efault := by
      rw [none, saturatingAddUsize_of_lt (by decide), Nat.zero_add]
    rw [if_pos none, sum]
    by_cases nothing : asked iov left index = []
    · obtain ⟨moved, word⟩ :=
        @readvFrom_of_stuck world
          (state.setPosition fdNumber.toNat position) fdNumber iov left index
          (negErrno .efault) isOpen.setPosition .efault
          (by rw [nothing]; exact fun _ member => nomatch member)
      refine iff_of_true ⟨?_, moved.symm⟩ ⟨none, nothing⟩
      rw [word, stuckWord_of_counted (by decide) (by decide), nothing]
      rfl
    · refine iff_of_false (fun alike => ?_) fun both => nothing both.2
      -- the next buffer is read, or its error is counted too
      cases left with
      | zero =>
          exact nothing rfl
      | succ left =>
          unfold asked at nothing
          cases entry : iov index with
          | none =>
              rw [entry] at nothing
              exact nothing rfl
          | some buffer =>
              rw [entry] at nothing
              dsimp only at nothing
              by_cases empty : buffer.len = 0
              · rw [if_pos empty] at nothing
                exact nothing rfl
              have something : min buffer.len vectorCap ≠ 0 := by
                unfold vectorCap
                omega
              have notEnd :=
                mt (sliceAt_eq_nil_iff something).mp (Nat.not_le.mpr inside)
              have outcome :=
                @readFd_of_shows world state fdNumber data buffer.copied
                  buffer.source position (min buffer.len vectorCap) isOpen shows
                  readable something isWord
              dsimp only at outcome
              by_cases mapped :
                  buffer.copied 0
                      (sliceAt data position
                        (min buffer.len vectorCap)).length =
                    true
              · rw [if_pos (.inr mapped)] at outcome
                rw [readvFrom_of_ok entry outcome, if_neg notEnd] at alike
                exact CallRun.not_alike_of_moved rfl alike.symm
              · rw [if_neg (not_or.mpr ⟨notEnd, mapped⟩)] at outcome
                rw [readvFrom_of_err entry outcome] at alike
                have most :
                    saturatingAddUsize (negErrno .efault) (negErrno .efault) =
                      2 ^ 64 - 1 := by
                  decide
                rw [most] at alike
                have atLeast : 2 ^ 64 - 1 ≤ negErrno .efault :=
                  le_word_of_counted (by decide) (by decide) alike.1.symm
                exact absurd atLeast (by decide)
  · rw [if_neg none]
    refine iff_of_false (fun alike => ?_) fun both => none both.1
    have atLeast := le_word_of_counted counts isSum alike.1.symm
    unfold saturatingAddUsize at atLeast
    omega

omit isOpen in
theorem something_of_asked
    {first : UserBuffer}
    (member : first ∈ asked iov left index) :
    min first.len vectorCap ≠ 0 := by
  have := len_ne_zero_of_asked member
  unfold vectorCap
  omega

theorem readvFrom_of_unreadable
    (unreadable : fdReadable (state.fds fdNumber.toNat) = false) :
    (readvFrom world fdNumber iov left index total state).moved = [] ∧
      (readvFrom world fdNumber iov left index total state).word =
        some (stuckWord iov .ebadf left index total) :=
  readvFrom_of_stuck isOpen fun _ member =>
    readFd_of_unreadable isOpen (something_of_asked member) unreadable

theorem readvFrom_of_missing
    (fixed :
      (state.fds fdNumber.toNat).kind = .binary ∨
        (state.fds fdNumber.toNat).kind = .text)
    (readable : fdReadable (state.fds fdNumber.toNat) = true)
    (missing : fixedContents world (state.fds fdNumber.toNat) = none) :
    (readvFrom world fdNumber iov left index total state).moved = [] ∧
      (readvFrom world fdNumber iov left index total state).word =
        some (stuckWord iov .enoent left index total) := by
  refine readvFrom_of_stuck isOpen fun buffer member => ?_
  rw [readFd_of_fixed isOpen fixed readable (something_of_asked member),
    missing]
  rfl

theorem not_alike_of_unreadable
    {currentOffset : UInt64}
    (shows : Shows world (state.fds fdNumber.toNat) data)
    (unreadable : fdReadable (state.fds fdNumber.toNat) = false)
    (entry : iov index = some buffer)
    (notEmpty : buffer.len ≠ 0)
    (small : total < 2 ^ 63) :
    ¬ (preadvFrom world (state.fds fdNumber.toNat) iov state (left + 1) index
          total currentOffset).Alike
        (readvFrom world fdNumber iov (left + 1) index total
          (state.setPosition fdNumber.toNat position)) := by
  have isAsked : asked iov (left + 1) index ≠ [] := by
    unfold asked
    rw [entry]
    dsimp only
    rw [if_neg notEmpty]
    exact List.cons_ne_nil _ _
  obtain ⟨nothing, word⟩ :=
    @readvFrom_of_unreadable world (state.setPosition fdNumber.toNat position)
      fdNumber iov (left + 1) index total isOpen.setPosition
      (by rw [fds_setPosition_self]; exact unreadable)
  rintro ⟨sameWord, sameMoved⟩
  rw [nothing] at sameMoved
  rw [word, stuckWord_of_asked isAsked (by omega)] at sameWord
  have once :
      1 * negErrno .ebadf ≤
        (asked iov (left + 1) index).length * negErrno .ebadf :=
    Nat.mul_le_mul_right _ (List.length_pos_of_ne_nil isAsked)
  have badFd : negErrno .ebadf = 2 ^ 64 - 9 := rfl
  have fault : negErrno .efault = 2 ^ 64 - 14 := rfl
  rcases preadvFrom_word_of_nothing shows sameMoved with counted | failed
  · rw [counted, Option.some.injEq] at sameWord
    omega
  · rw [failed, Option.some.injEq] at sameWord
    omega

/-- The two loops agree from a buffer on exactly when the reads are level. -/
theorem alike_iff_levelReads
    {currentOffset : UInt64}
    (shows : Shows world (state.fds fdNumber.toNat) data)
    (isSlice : data.length < 2 ^ 63)
    (small : total + left * vectorCap < 2 ^ 63) :
    (preadvFrom world (state.fds fdNumber.toNat) iov state left index total
          currentOffset).Alike
        (readvFrom world fdNumber iov left index total
          (state.setPosition fdNumber.toNat currentOffset.toNat)) ↔
      LevelReads data iov (fdReadable (state.fds fdNumber.toNat)) left index
        total currentOffset.toNat := by
  have isWord := currentOffset.toNat_lt
  induction left generalizing index total currentOffset with
  | zero =>
      exact iff_of_true ⟨rfl, rfl⟩ trivial
  | succ left inductionHypothesis =>
      have smallTotal : total < 2 ^ 63 := by omega
      unfold LevelReads
      cases entry : iov index with
      | none =>
          rw [preadvFrom_of_none entry, readvFrom_of_none entry]
          refine iff_of_true ⟨?_, rfl⟩ trivial
          split <;> rfl
      | some buffer =>
          dsimp only
          by_cases empty : buffer.len = 0
          · rw [if_pos empty, preadvFrom_of_empty shows entry empty,
              readvFrom_of_empty isOpen.setPosition entry empty]
            exact preadvFrom_idle_iff shows
          rw [if_neg empty]
          have something : min buffer.len vectorCap ≠ 0 := by
            unfold vectorCap
            omega
          cases readable : fdReadable (state.fds fdNumber.toNat) with
          | false =>
              refine iff_of_false (fun alike => ?_) fun both => nomatch both.1
              exact
                not_alike_of_unreadable isOpen shows readable entry empty
                  smallTotal alike
          | true =>
              have outcome :=
                @readFd_of_shows world state fdNumber data buffer.copied
                  buffer.source currentOffset.toNat (min buffer.len vectorCap)
                  isOpen shows readable something isWord
              have place :
                  readPlace fdNumber
                      (state.setPosition fdNumber.toNat currentOffset.toNat) =
                    currentOffset.toNat :=
                position_setPosition isWord
              dsimp only at outcome
              rw [eq_self, true_and]
              cases found :
                  sliceAt data currentOffset.toNat (min buffer.len vectorCap) with
              | nil =>
                  rw [found, if_pos (.inl rfl)] at outcome
                  rw [preadvFrom_of_end shows entry empty found,
                    readvFrom_of_ok entry outcome, if_pos rfl, if_pos rfl]
                  exact iff_of_true ⟨rfl, rfl⟩ trivial
              | cons first rest =>
                  have notEnd :
                      sliceAt data currentOffset.toNat
                          (min buffer.len vectorCap) ≠
                        [] := by
                    rw [found]
                    exact List.cons_ne_nil _ _
                  have inside := mt (sliceAt_eq_nil_iff something).mpr notEnd
                  have fits := length_sliceAt data currentOffset.toNat
                    (min buffer.len vectorCap)
                  rw [found] at outcome fits
                  rw [if_neg (List.cons_ne_nil _ _)]
                  have notNil : first :: rest ≠ [] := List.cons_ne_nil _ _
                  generalize first :: rest = bytes at *
                  have positive := List.length_pos_of_ne_nil notNil
                  cases mapped : buffer.copied 0 bytes.length with
                  | false =>
                      rw [mapped, if_neg (by simp [notNil])] at outcome
                      rw [preadvFrom_of_fault shows entry notEnd
                          (by rw [found]; exact mapped),
                        readvFrom_of_err entry outcome, if_pos rfl]
                      exact
                        alike_after_fault_iff isOpen shows readable isWord
                          (by omega) smallTotal
                  | true =>
                      have start :
                          min currentOffset.toNat data.length =
                            currentOffset.toNat := by
                        omega
                      rw [if_pos (.inr mapped), start] at outcome
                      rw [preadvFrom_of_moved shows entry found notNil mapped,
                        readvFrom_of_ok entry outcome, if_neg notNil, place,
                        CallRun.alike_after_iff,
                        if_neg (by decide : ¬ true = false),
                        saturatingAddUsize_of_lt (by
                          unfold vectorCap at *
                          omega)]
                      by_cases short : bytes.length < min buffer.len vectorCap
                      · rw [if_pos short]
                        refine
                          iff_of_true ?_ fun full =>
                            absurd full (Nat.ne_of_lt short)
                        exact
                          readvFrom_at_end isOpen shows readable (by omega)
                            (by omega) (by omega)
                      · have full :
                            bytes.length = min buffer.len vectorCap := by
                          omega
                        have next :
                            (currentOffset +
                                UInt64.ofNat bytes.length).toNat =
                              currentOffset.toNat + bytes.length := by
                          rw [UInt64.toNat_add,
                            UInt64.toNat_ofNat_of_lt' (by
                              change bytes.length < 2 ^ 64
                              omega)]
                          exact Nat.mod_eq_of_lt (by omega)
                        have later :=
                          @inductionHypothesis (index + 1)
                            (total + bytes.length)
                            (currentOffset + UInt64.ofNat bytes.length)
                            (by
                              rw [Nat.succ_mul] at small
                              omega)
                            (UInt64.toNat_lt _)
                        rw [next, readable] at later
                        rw [if_neg short]
                        exact
                          ⟨fun alike _ => later.mp alike,
                            fun level => later.mpr (level full)⟩

end

end Readv

end VibuxOS.Files
