import VibuxOS.Files.ChunkedCopies
import VibuxOS.Files.FailedReads
import VibuxOS.Files.FileCalls

namespace VibuxOS.Files

open VibuxOS.Lib

/-!
# Vectored transfers and sequences of plain ones

`readv` and `writev` hand one buffer after the other to `read_fd` and
`write_fd`, at most 1 MiB of it, and add up what these return as long as it is
not zero.  An error number is not zero, and a short transfer is not zero either.
-/

variable
  {state : State}
  {next : State}

/-- `readv` and `writev` ask for at most 1 MiB of a buffer. -/
def vectorCap : Nat := 2 ^ 20

/-- What `read_fd` returns to the loop of `readv`. -/
def readTransfer
    (fdNumber : Int)
    (world : World)
    (count : Nat) :
    Sys Nat := do
  let bytes ← readFd world fdNumber count
  pure bytes.length

/-- What `write_fd` returns to the loop of `writev`. -/
def writeTransfer
    (fdNumber : Int)
    (world : World)
    (count : Nat) :
    Sys Nat :=
  writeFd world fdNumber count

/-- The common loop of `readv` and `writev`, over the buffers from `index` on. -/
def vectorLoop
    (transfer : World → Nat → Sys Nat)
    (iov : Nat → Option (World × Nat)) :
    Nat →
    Nat →
    Nat →
    Sys Nat
  | 0, _, total => pure total
  | left + 1, index, total =>
      match iov index with
      | none =>
          if total = 0 then
            Prog.fail .efault
          else
            pure total
      | some (world, len) => do
          let moved ← Prog.attempt (transfer world (min len vectorCap))
          match moved with
          | .error error =>
              vectorLoop transfer iov left (index + 1)
                (saturatingAddUsize total (negErrno error))
          | .ok amount =>
              if amount > 0 then
                vectorLoop transfer iov left (index + 1)
                  (saturatingAddUsize total amount)
              else
                pure total

/-- The arm of `readv` in the table of system calls. -/
def readv
    (fdNumber : Int)
    (iov : Nat → Option (World × Nat))
    (iovCount : Nat) :
    Sys Nat :=
  if iovCount > 1024 then
    Prog.fail .einval
  else
    vectorLoop (readTransfer fdNumber) iov iovCount 0 0

/-! ## The calls of a loop -/

/--
The calls that a loop makes, each with the index of its buffer and the number of
bytes that it asks for, and how the loop ends.
-/
structure VectorRun where
  calls : List (Nat × Nat)
  outcome : Outcome State Errno Nat

/-- A call before the others. -/
def VectorRun.after (call : Nat × Nat) (run : VectorRun) : VectorRun :=
  { run with calls := call :: run.calls }

/-- A loop that ends without another call. -/
def VectorRun.ends (outcome : Outcome State Errno Nat) : VectorRun :=
  ⟨[], outcome⟩

section Runs

variable
  (transfer : World → Nat → Sys Nat)
  (iov : Nat → Option (World × Nat))

/-- The calls of the common loop of `readv` and `writev`, and its end. -/
def vectorRun :
    Nat →
    Nat →
    Nat →
    State →
    VectorRun
  | 0, _, total, state => .ends (.ok total state)
  | left + 1, index, total, state =>
      match iov index with
      | none =>
          .ends (if total = 0 then .err .efault state else .ok total state)
      | some (world, len) =>
          .after (index, min len vectorCap)
            (match transfer world (min len vectorCap) state with
            | .hang => .ends .hang
            | .err error next =>
                vectorRun left (index + 1)
                  (saturatingAddUsize total (negErrno error)) next
            | .ok amount next =>
                if amount > 0 then
                  vectorRun left (index + 1) (saturatingAddUsize total amount)
                    next
                else
                  .ends (.ok total next))

/--
The plain transfers in order, up to the first that has an error or fewer bytes
than it was asked for.  An entry that cannot be copied is an error too.
-/
def plainRun :
    Nat →
    Nat →
    Nat →
    State →
    VectorRun
  | 0, _, total, state => .ends (.ok total state)
  | left + 1, index, total, state =>
      match iov index with
      | none =>
          .ends (if total = 0 then .err .efault state else .ok total state)
      | some (world, len) =>
          .after (index, len)
            (match transfer world len state with
            | .hang => .ends .hang
            | .err error next =>
                .ends (if total = 0 then .err error next else .ok total next)
            | .ok amount next =>
                if amount < len then
                  .ends (.ok (total + amount) next)
                else
                  plainRun left (index + 1) (total + amount) next)

/-- No buffer is left. -/
def Exhausted (left index : Nat) : Prop :=
  left = 0 ∨ iov index = none

/--
The plain transfers meet nothing that the loop takes for something else: no
buffer of more than 1 MiB; an error at the last one only, and with nothing
before it; a short transfer at the last one only, unless it is empty; and an
empty buffer only where nothing follows.
-/
def Smooth :
    Nat →
    Nat →
    Nat →
    State →
    Prop
  | 0, _, _, _ => True
  | left + 1, index, total, state =>
      match iov index with
      | none => True
      | some (world, len) =>
          len ≤ vectorCap ∧
            match transfer world len state with
            | .hang => True
            | .err _ _ => total = 0 ∧ Exhausted iov left (index + 1)
            | .ok amount next =>
                if amount < len then
                  amount = 0 ∨ Exhausted iov left (index + 1)
                else if amount = 0 then
                  left = 0 ∨ iov (index + 1) = none ∧ total ≠ 0
                else
                  Smooth left (index + 1) (total + amount) next

end Runs

/-- The word that a call returns, and the state that it leaves. -/
def resultWord : Outcome State Errno Nat → Option (Nat × State)
  | .ok amount final => some (amount, final)
  | .err error final => some (negErrno error, final)
  | .hang => none

/-- A vectored call makes the calls of the plain transfers and returns the same. -/
structure BehavesPlainly
    (call : Sys Nat)
    (transfer : World → Nat → Sys Nat)
    (iov : Nat → Option (World × Nat))
    (iovCount : Nat)
    (state : State) : Prop where
  calls :
    (vectorRun transfer iov iovCount 0 0 state).calls =
      (plainRun transfer iov iovCount 0 0 state).calls
  result :
    resultWord (call state) =
      resultWord (plainRun transfer iov iovCount 0 0 state).outcome

/-! ## The loops of the system calls -/

theorem writevLoop_eq
    {fdNumber : Int}
    {iov : Nat → Option (World × Nat)}
    (left index total : Nat) :
    writevLoop fdNumber iov left index total =
      vectorLoop (writeTransfer fdNumber) iov left index total := by
  induction left generalizing index total with
  | zero =>
      rfl
  | succ left inductionHypothesis =>
      simp only [writevLoop, vectorLoop, inductionHypothesis]
      rfl

section Loops

variable
  {transfer : World → Nat → Sys Nat}
  {iov : Nat → Option (World × Nat)}

theorem vectorLoop_eq
    (left index total : Nat)
    (state : State) :
    vectorLoop transfer iov left index total state =
      (vectorRun transfer iov left index total state).outcome := by
  induction left generalizing index total state with
  | zero =>
      rfl
  | succ left inductionHypothesis =>
      unfold vectorLoop vectorRun
      cases entry : iov index with
      | none =>
          dsimp only
          split <;> rfl
      | some buffer =>
          obtain ⟨world, len⟩ := buffer
          dsimp only
          unfold VectorRun.after
          cases outcome : transfer world (min len vectorCap) state with
          | ok amount next =>
              rw [Prog.bind_of_ok (Prog.attempt_of_ok outcome)]
              dsimp only
              split
              · exact inductionHypothesis _ _ _
              · rfl
          | err error next =>
              rw [Prog.bind_of_ok (Prog.attempt_of_err outcome)]
              exact inductionHypothesis _ _ _
          | hang =>
              rw [Prog.bind_of_hang (Prog.attempt_of_hang outcome)]
              rfl

theorem calls_of_not_exhausted
    {left index total : Nat}
    (more : ¬ Exhausted iov left index) :
    (vectorRun transfer iov left index total state).calls ≠ [] ∧
      (plainRun transfer iov left index total state).calls ≠ [] := by
  unfold Exhausted at more
  cases left with
  | zero =>
      exact (more (.inl rfl)).elim
  | succ left =>
      obtain ⟨buffer, entry⟩ :=
        Option.ne_none_iff_exists'.mp fun none => more (.inr none)
      unfold vectorRun plainRun
      rw [entry]
      exact ⟨List.cons_ne_nil _ _, List.cons_ne_nil _ _⟩

theorem vectorRun_of_exhausted
    {left index total : Nat}
    (none : Exhausted iov left index)
    (counted : total ≠ 0) :
    vectorRun transfer iov left index total state =
      .ends (.ok total state) := by
  cases left with
  | zero =>
      rfl
  | succ left =>
      have noEntry : iov index = .none :=
        none.resolve_left (Nat.succ_ne_zero _)
      unfold vectorRun
      rw [noEntry]
      dsimp only
      rw [if_neg counted]

/-- Two loops have the same calls and return the same word. -/
def VectorRun.Alike (first second : VectorRun) : Prop :=
  first.calls = second.calls ∧
    resultWord first.outcome = resultWord second.outcome

theorem VectorRun.alike_after_iff
    {firstCall secondCall : Nat × Nat}
    {first second : VectorRun} :
    (first.after firstCall).Alike (second.after secondCall) ↔
      firstCall = secondCall ∧ first.Alike second := by
  unfold VectorRun.Alike VectorRun.after
  simp only [List.cons.injEq, and_assoc]

theorem negErrno_pos_lt
    (error : Errno) :
    2 ^ 64 - 108 < negErrno error ∧ negErrno error < 2 ^ 64 := by
  cases error <;> decide

theorem saturatingAddUsize_of_lt
    {left right : Nat}
    (small : left + right < 2 ^ 64) :
    saturatingAddUsize left right = left + right :=
  Nat.min_eq_right (Nat.le_sub_one_of_lt small)

theorem VectorRun.alike_ends_iff
    {first second : Outcome State Errno Nat} :
    (VectorRun.ends first).Alike (.ends second) ↔
      resultWord first = resultWord second := by
  unfold VectorRun.Alike VectorRun.ends
  simp only [true_and]

theorem not_alike_ends
    {run : VectorRun}
    {outcome : Outcome State Errno Nat}
    (more : run.calls ≠ []) :
    ¬ run.Alike (.ends outcome) ∧ ¬ (VectorRun.ends outcome).Alike run :=
  ⟨fun alike => more alike.1, fun alike => more alike.1.symm⟩

theorem alike_after_error_iff
    {left index total : Nat}
    {error : Errno}
    (small : total < 2 ^ 63) :
    (vectorRun transfer iov left index
          (saturatingAddUsize total (negErrno error)) next).Alike
        (.ends (if total = 0 then .err error next else .ok total next)) ↔
      total = 0 ∧ Exhausted iov left index := by
  obtain ⟨large, isWord⟩ := negErrno_pos_lt error
  have below : total < 2 ^ 64 - 1 := Nat.lt_trans small (by decide)
  have counted : total < saturatingAddUsize total (negErrno error) := by
    unfold saturatingAddUsize
    omega
  by_cases none : Exhausted iov left index
  · rw [vectorRun_of_exhausted none (by omega), VectorRun.alike_ends_iff]
    by_cases nothing : total = 0
    · rw [if_pos nothing, nothing,
        saturatingAddUsize_of_lt (by rw [Nat.zero_add]; exact isWord),
        Nat.zero_add]
      exact iff_of_true rfl ⟨rfl, none⟩
    · rw [if_neg nothing]
      refine iff_of_false ?_ fun both => nothing both.1
      intro same
      have sameWord := congrArg Prod.fst (Option.some.inj same)
      exact Nat.ne_of_gt counted sameWord
  · exact
      iff_of_false (not_alike_ends (calls_of_not_exhausted none).1).1
        fun both => none both.2

theorem alike_after_short_iff
    {left index total : Nat}
    (counted : total ≠ 0) :
    (vectorRun transfer iov left index total next).Alike
        (.ends (.ok total next)) ↔
      Exhausted iov left index := by
  by_cases none : Exhausted iov left index
  · rw [vectorRun_of_exhausted none counted]
    exact iff_of_true ⟨rfl, rfl⟩ none
  · exact
      iff_of_false (not_alike_ends (calls_of_not_exhausted none).1).1 none

theorem alike_after_empty_iff
    {left index total : Nat} :
    (VectorRun.ends (.ok total next)).Alike
        (plainRun transfer iov left index total next) ↔
      left = 0 ∨ iov index = none ∧ total ≠ 0 := by
  cases left with
  | zero =>
      exact iff_of_true ⟨rfl, rfl⟩ (.inl rfl)
  | succ left =>
      cases entry : iov index with
      | none =>
          unfold plainRun
          rw [entry]
          dsimp only
          rw [VectorRun.alike_ends_iff]
          by_cases nothing : total = 0
          · rw [if_pos nothing, nothing]
            refine iff_of_false (fun same => ?_) (by simp)
            cases congrArg Prod.fst (Option.some.inj same)
          · rw [if_neg nothing]
            exact iff_of_true rfl (.inr ⟨rfl, nothing⟩)
      | some buffer =>
          have more : ¬ Exhausted iov (left + 1) index := by
            rintro (noneLeft | noEntry)
            · cases noneLeft
            · rw [entry] at noEntry
              cases noEntry
          refine
            iff_of_false (not_alike_ends (calls_of_not_exhausted more).2).2 ?_
          rintro (noneLeft | ⟨noEntry, _⟩)
          · cases noneLeft
          · cases noEntry

theorem alike_iff_smooth
    (bounded :
      ∀ world count,
        Prog.Yields (fun amount => amount ≤ count) (transfer world count))
    (left index total : Nat)
    (state : State)
    (small : total + left * vectorCap < 2 ^ 63) :
    (vectorRun transfer iov left index total state).Alike
        (plainRun transfer iov left index total state) ↔
      Smooth transfer iov left index total state := by
  induction left generalizing index total state with
  | zero =>
      exact iff_of_true ⟨rfl, rfl⟩ trivial
  | succ left inductionHypothesis =>
      have smallTotal : total < 2 ^ 63 := by omega
      unfold vectorRun plainRun Smooth
      cases entry : iov index with
      | none =>
          exact iff_of_true ⟨rfl, rfl⟩ trivial
      | some buffer =>
          obtain ⟨world, len⟩ := buffer
          have capped : min len vectorCap = len ↔ len ≤ vectorCap := by
            omega
          dsimp only
          rw [VectorRun.alike_after_iff, Prod.mk.injEq, capped]
          by_cases fits : len ≤ vectorCap
          · have room
                {amount : Nat}
                (within : amount ≤ len) :
                total + amount < 2 ^ 64 := by
              rw [Nat.succ_mul] at small
              omega
            rw [Nat.min_eq_left fits]
            simp only [fits, true_and]
            cases outcome : transfer world len state with
            | hang =>
                exact iff_of_true ⟨rfl, rfl⟩ trivial
            | err error next =>
                exact alike_after_error_iff smallTotal
            | ok amount next =>
                have within : amount ≤ len := bounded _ _ _ _ _ outcome
                dsimp only
                by_cases short : amount < len
                · rw [if_pos short, if_pos short]
                  by_cases nothing : amount = 0
                  · rw [if_neg (by omega), nothing]
                    exact iff_of_true ⟨rfl, rfl⟩ (.inl rfl)
                  · rw [if_pos (by omega), saturatingAddUsize_of_lt (room within),
                      alike_after_short_iff (by omega)]
                    simp only [nothing, false_or]
                · rw [if_neg short, if_neg short]
                  by_cases nothing : amount = 0
                  · rw [if_neg (by omega), if_pos nothing, nothing, Nat.add_zero]
                    exact alike_after_empty_iff
                  · rw [if_pos (by omega), if_neg nothing,
                      saturatingAddUsize_of_lt (room within)]
                    apply inductionHypothesis
                    rw [Nat.succ_mul] at small
                    omega
          · simp only [fits, and_false, false_and]

end Loops

/-! ## What the transfers return at most -/

section Bounds

variable
  {world : World}
  {fdNumber : Int}
  {fd : Fd}
  {count : Nat}

/-- At most as many bytes as the call has asked for. -/
abbrev Within (count : Nat) (program : Sys (List UInt8)) : Prop :=
  Prog.Yields (fun bytes => bytes.length ≤ count) program

theorem within_nil : Within count (pure []) :=
  .pure (Nat.zero_le _)

theorem within_copied
    {bytes : List UInt8}
    {first : Sys Unit}
    (fits : bytes.length ≤ count) :
    Within count (first >>= fun _ => pure bytes) :=
  .bind fun _ => .pure fits

theorem within_pipeReadFd : Within count (pipeReadFd world fdNumber count) := by
  refine Prog.Yields.ite (fun _ => within_nil) fun _ => .bind fun fd => ?_
  refine Prog.Yields.ite (fun _ => .fail _) fun _ => .bind fun state => ?_
  cases pipeAvailable state fd.id with
  | none => exact .fail _
  | some available =>
      refine Prog.Yields.ite (fun _ => ?_) fun _ => .bind fun _ => ?_
      · exact .ite (fun _ => .fail _) fun _ => within_nil
      · apply within_copied
        rw [Syscall.PipeBuffer.length_peek]
        exact Nat.min_le_left _ _

theorem within_socketReadFd :
    Within count (socketReadFd world fdNumber count) := by
  refine Prog.Yields.bind fun fd => ?_
  refine Prog.Yields.ite (fun _ => .fail _) fun _ => .bind fun state => ?_
  cases socketPipeFor state fd.id (fd.path.getD 1 0) false with
  | none => exact .fail _
  | some slot =>
      refine Prog.Yields.ite (fun _ => ?_) fun _ => .bind fun _ => ?_
      · exact .ite (fun _ => .fail _) fun _ => within_nil
      · apply within_copied
        rw [Syscall.PipeBuffer.length_peek]
        exact Nat.min_le_left _ _

theorem within_eventFdRead : Within count (eventFdRead world fd count) := by
  refine Prog.Yields.ite (fun _ => .hang) fun _ => .bind fun event => ?_
  refine Prog.Yields.ite (fun _ => .fail _) fun _ => ?_
  refine Prog.Yields.ite (fun _ => ?_) fun _ => .bind fun _ => ?_
  · exact .ite (fun _ => .fail _) fun _ => within_nil
  · refine Prog.Yields.ite (fun _ => .fail _) fun enough => ?_
    apply within_copied
    rw [length_leBytes]
    exact Nat.le_of_not_lt enough

theorem within_timerFdRead : Within count (timerFdRead world fd count) := by
  refine Prog.Yields.ite (fun _ => .hang) fun _ => .bind fun timer => ?_
  refine Prog.Yields.ite (fun _ => .fail _) fun _ => ?_
  refine Prog.Yields.ite (fun _ => ?_) fun _ => ?_
  · exact .ite (fun _ => .fail _) fun _ => within_nil
  · refine Prog.Yields.ite (fun _ => .fail _) fun _ => .bind fun _ => ?_
    refine Prog.Yields.ite (fun _ => .fail _) fun enough => ?_
    apply within_copied
    rw [length_leBytes]
    exact Nat.le_of_not_lt enough

theorem within_signalFdRead : Within count (signalFdRead world fd count) := by
  refine Prog.Yields.ite (fun _ => .hang) fun _ => .bind fun state => ?_
  refine Prog.Yields.ite (fun _ => .fail _) fun _ => ?_
  cases Signals.lowestSignal (state.pending &&& (state.signalFds fd.id).mask) with
  | none => exact .ite (fun _ => .fail _) fun _ => within_nil
  | some signum =>
      refine Prog.Yields.bind fun _ => ?_
      refine Prog.Yields.ite (fun _ => .fail _) fun enough => ?_
      apply within_copied
      rw [length_signalInfo]
      exact Nat.le_of_not_lt enough

theorem within_ttyRead
    (something : 1 ≤ count) :
    Within count (ttyRead world fd) := by
  refine Prog.Yields.ite (fun _ => .fail _) fun _ => .bind fun byte => ?_
  refine Prog.Yields.ite (fun _ => .bind fun interrupted => ?_) fun _ => ?_
  · exact .ite (fun _ => .fail _) fun _ => within_nil
  · exact within_copied something

theorem within_ramFileRead :
    Within count (ramFileRead world fdNumber count) := by
  refine Prog.Yields.bind fun fd => .bind fun state => ?_
  cases ramFileIndex state fd.path with
  | none => exact .fail _
  | some index =>
      dsimp only
      refine Prog.Yields.ite (fun _ => within_nil) fun _ => ?_
      generalize
        (state.ramFiles index).len -
            min fd.position.toNat (state.ramFiles index).len =
          rest
      have moved :=
        @chunksCopied_le world 4096 (min count rest) (min count rest) 0
          (Nat.zero_le _)
      have fits := Nat.le_trans moved (Nat.min_le_left _ _)
      refine Prog.Yields.ite (fun _ => .ite (fun _ => .fail _) fun _ => ?_)
        fun _ => ?_
      · apply Prog.Yields.pure
        rw [length_window]
        exact fits
      · apply within_copied
        rw [length_window]
        exact fits

theorem within_fixedRead
    {contents : Option (List UInt8)} :
    Within count (fixedRead world fdNumber fd contents count) := by
  cases contents with
  | none => exact .fail _
  | some data =>
      refine Prog.Yields.ite (fun _ => ?_) fun _ => .fail _
      exact within_copied (List.length_take_le _ _)

theorem yields_blockReadLoop
    (fuel : Nat)
    (cursor : UInt64)
    (written : List UInt8)
    (fits : written.length ≤ count) :
    Prog.Yields (fun result => result.1.length ≤ count)
      (blockReadLoop world count fuel cursor written) := by
  induction fuel generalizing cursor written with
  | zero =>
      exact .hang
  | succ fuel inductionHypothesis =>
      unfold blockReadLoop
      refine Prog.Yields.ite (fun more => ?_) fun _ => .pure fits
      dsimp only
      cases world.disk cursor (min 512 (count - written.length)) with
      | none => exact .pure fits
      | some data =>
          refine Prog.Yields.bind fun _ => ?_
          apply inductionHypothesis
          rw [List.length_append, length_window]
          omega

theorem within_blockRead :
    Within count (blockRead world fdNumber fd count) := by
  intro state bytes final returned
  obtain ⟨⟨written, cursor⟩, middle, looped, rest⟩ :=
    Prog.bind_eq_ok.mp returned
  cases rest
  exact yields_blockReadLoop _ _ _ (Nat.zero_le _) _ _ _ looped

theorem within_readFd : Within count (readFd world fdNumber count) := by
  refine Prog.Yields.ite (fun _ => .fail _) fun _ => ?_
  refine Prog.Yields.ite (fun _ => within_nil) fun something => ?_
  refine Prog.Yields.bind fun fd => .ite (fun _ => .fail _) fun _ => ?_
  unfold readKind
  cases fd.kind with
  | pipeRead => exact within_pipeReadFd
  | eventFd => exact within_eventFdRead
  | timerFd => exact within_timerFdRead
  | socket => exact within_socketReadFd
  | ramFile => exact within_ramFileRead
  | signalFd => exact within_signalFdRead
  | tty => exact within_ttyRead (Nat.one_le_iff_ne_zero.mpr something)
  | zero =>
      apply within_copied
      rw [List.length_replicate]
      exact Nat.min_le_left _ _
  | null => exact within_nil
  | binary => exact within_fixedRead
  | text => exact within_fixedRead
  | block => exact within_blockRead
  | none | pipeWrite | epoll | inotify => exact .fail _

theorem readTransfer_bounded :
    Prog.Yields (fun amount => amount ≤ count)
      (readTransfer fdNumber world count) := by
  intro state amount final returned
  obtain ⟨bytes, middle, reads, rest⟩ := Prog.bind_eq_ok.mp returned
  cases rest
  exact within_readFd _ _ _ reads

/-! ### Writes -/

theorem bounded_copiedIn
    {amount : Nat}
    {first : Sys (List UInt8)}
    {second : Sys Unit}
    (fits : amount ≤ count) :
    Prog.Yields (fun amount => amount ≤ count)
      (first >>= fun _ => second >>= fun _ => pure amount) :=
  .bind fun _ => .bind fun _ => .pure fits

theorem bounded_pipeWriteFd :
    Prog.Yields (fun amount => amount ≤ count)
      (pipeWriteFd world fdNumber count) := by
  refine Prog.Yields.bind fun fd => ?_
  refine Prog.Yields.ite (fun _ => .fail _) fun _ => .bind fun state => ?_
  cases pipeAvailable state fd.id with
  | none => exact .fail _
  | some available =>
      refine Prog.Yields.ite (fun _ => .fail _) fun _ => ?_
      refine Prog.Yields.ite (fun _ => .fail _) fun _ => ?_
      exact bounded_copiedIn (Nat.min_le_left _ _)

theorem bounded_socketWriteFd :
    Prog.Yields (fun amount => amount ≤ count)
      (socketWriteFd world fdNumber count) := by
  refine Prog.Yields.bind fun fd => ?_
  refine Prog.Yields.ite (fun _ => .fail _) fun _ => .bind fun state => ?_
  dsimp only
  cases socketPipeFor state fd.id (fd.path.getD 1 0) true with
  | none => exact .fail _
  | some slot =>
      refine Prog.Yields.ite (fun _ => .fail _) fun _ => ?_
      exact bounded_copiedIn (Nat.min_le_left _ _)

theorem bounded_eventFdWrite :
    Prog.Yields (fun amount => amount ≤ count)
      (eventFdWrite world fd count) := by
  refine Prog.Yields.ite (fun _ => .hang) fun _ => .bind fun event => ?_
  refine Prog.Yields.ite (fun _ => .fail _) fun _ => ?_
  refine Prog.Yields.ite (fun _ => .fail _) fun enough => .bind fun _ => ?_
  refine Prog.Yields.ite (fun _ => .fail _) fun _ => ?_
  refine Prog.Yields.ite (fun _ => .fail _) fun _ => .bind fun _ => ?_
  exact .pure (Nat.le_of_not_lt enough)

theorem bounded_ttyWrite :
    Prog.Yields (fun amount => amount ≤ count) (ttyWrite world count) :=
  .ite (fun _ => .fail _) fun _ => .pure (chunksCopied_le _ (Nat.zero_le _))

theorem bounded_ramFileWrite :
    Prog.Yields (fun amount => amount ≤ count)
      (ramFileWrite world fdNumber count) := by
  refine Prog.Yields.bind fun fd => .bind fun state => ?_
  cases ramFileIndex state fd.path with
  | none => exact .fail _
  | some index =>
      dsimp only
      generalize
        (if fd.flags &&& oAppend ≠ 0 then (state.ramFiles index).len
          else fd.position.toNat) =
          start
      refine Prog.Yields.ite (fun _ => .fail _) fun _ => ?_
      refine Prog.Yields.ite (fun _ => .pure (Nat.zero_le _)) fun _ => ?_
      have moved :=
        @chunksCopied_le world 4096 (min count (ramFileCapacity - start))
          (min count (ramFileCapacity - start)) 0 (Nat.zero_le _)
      have fits := Nat.le_trans moved (Nat.min_le_left _ _)
      refine Prog.Yields.ite (fun _ => .bind fun _ => ?_) fun _ => ?_
      · exact .ite (fun _ => .fail _) fun _ => .pure fits
      · exact .bind fun _ => .bind fun _ => .pure fits

theorem writeTransfer_bounded :
    Prog.Yields (fun amount => amount ≤ count)
      (writeTransfer fdNumber world count) := by
  refine Prog.Yields.ite (fun _ => .fail _) fun _ => ?_
  refine Prog.Yields.ite (fun _ => .pure (Nat.zero_le _)) fun _ => ?_
  refine Prog.Yields.bind fun fd => .ite (fun _ => .fail _) fun _ => ?_
  unfold writeKind
  cases fd.kind with
  | pipeWrite => exact bounded_pipeWriteFd
  | socket => exact bounded_socketWriteFd
  | ramFile => exact bounded_ramFileWrite
  | eventFd => exact bounded_eventFdWrite
  | tty => exact bounded_ttyWrite
  | null => exact .pure (Nat.le_refl _)
  | binary | text => exact .fail _
  | none | zero | pipeRead | timerFd | signalFd | epoll | inotify | block =>
      exact .fail _

end Bounds

/-! ## The two system calls -/

theorem behavesPlainly_iff
    {call : Sys Nat}
    {transfer : World → Nat → Sys Nat}
    {iov : Nat → Option (World × Nat)}
    {iovCount : Nat}
    (fewBuffers : iovCount ≤ 1024)
    (isLoop : call = vectorLoop transfer iov iovCount 0 0)
    (bounded :
      ∀ world count,
        Prog.Yields (fun amount => amount ≤ count) (transfer world count)) :
    BehavesPlainly call transfer iov iovCount state ↔
      Smooth transfer iov iovCount 0 0 state := by
  have small : 0 + iovCount * vectorCap < 2 ^ 63 := by
    unfold vectorCap
    omega
  rw [← alike_iff_smooth bounded iovCount 0 0 state small]
  subst isLoop
  constructor
  · intro plainly
    have result := plainly.result
    rw [vectorLoop_eq] at result
    exact ⟨plainly.calls, result⟩
  · rintro ⟨calls, result⟩
    refine ⟨calls, ?_⟩
    rw [vectorLoop_eq]
    exact result

/--
`readv` and `writev` with at most 1024 buffers behave as the plain transfers in
order exactly when these meet nothing that the loop takes for something else.
-/
theorem vectored_iff
    (fdNumber : Int)
    (iov : Nat → Option (World × Nat))
    (iovCount : Nat)
    (state : State)
    (fewBuffers : iovCount ≤ 1024) :
    (BehavesPlainly (readv fdNumber iov iovCount) (readTransfer fdNumber) iov
          iovCount state ↔
        Smooth (readTransfer fdNumber) iov iovCount 0 0 state) ∧
      (BehavesPlainly (writev fdNumber iov iovCount) (writeTransfer fdNumber)
          iov iovCount state ↔
        Smooth (writeTransfer fdNumber) iov iovCount 0 0 state) := by
  have few : ¬ iovCount > 1024 := Nat.not_lt.mpr fewBuffers
  constructor
  · apply behavesPlainly_iff fewBuffers
    · unfold readv
      rw [if_neg few]
    · exact fun _ _ => readTransfer_bounded
  · apply behavesPlainly_iff fewBuffers
    · unfold writev
      rw [if_neg few, writevLoop_eq]
    · exact fun _ _ => writeTransfer_bounded

/-- Two mapped buffers, of 5 and of 7 bytes. -/
def twoBuffers (index : Nat) : Option (World × Nat) :=
  if index = 0 then
    some (World.idle, 5)
  else
    some (World.idle, 7)

/-- A fresh process that has opened `/dev/null` as descriptor 3. -/
def nullOpened : State :=
  (openPath World.idle (bytes "/dev/null") Syscall.oRdwr State.new).final?.getD
    State.new

theorem vectored_null :
    BehavesPlainly (readv 3 twoBuffers 2) (readTransfer 3) twoBuffers 2
        nullOpened ∧
      BehavesPlainly (writev 3 twoBuffers 2) (writeTransfer 3) twoBuffers 2
        nullOpened := by
  have both := vectored_iff 3 twoBuffers 2 nullOpened (by decide)
  constructor
  · exact both.1.mpr ⟨by decide, .inl rfl⟩
  · exact both.2.mpr ⟨by decide, by decide, trivial⟩

/-- On a closed descriptor both buffers are tried, and the result is -1. -/
theorem vectored_closed :
    (writev 9 twoBuffers 2 nullOpened).value? = some (2 ^ 64 - 1) ∧
      ¬ BehavesPlainly (writev 9 twoBuffers 2) (writeTransfer 9) twoBuffers 2
        nullOpened := by
  refine ⟨rfl, ?_⟩
  intro plainly
  have calls := plainly.calls
  revert calls
  decide

end VibuxOS.Files
