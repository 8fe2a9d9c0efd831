import VibuxOS.Files.RelayReads
import VibuxOS.Files.RelayWrites

namespace VibuxOS.Files

open VibuxOS.Lib

/-!
# When `splice` and `copy_file_range` conserve bytes

The loop counts what it has read.  So it loses the rest of a chunk when the
output takes a part of it only, and the whole chunk when the write fails.  A
read that takes an item before it fails loses that item.  Apart from that the
bytes that are taken are those that are added.
-/

variable
  {total : Nat}
  {turns : List Turn}
  {outcome : Outcome State Errno Nat}
  {error : Errno}
  {world : World}

section Loop

variable
  (kernel : World)
  (fdIn fdOut : Int)
  (len : Nat)

/-- How the loop goes on from a state in which it has read some bytes. -/
inductive Relays :
    Nat → State → List Turn → Outcome State Errno Nat → Prop
  | filled
      (total : Nat)
      (state : State)
      (full : ¬ total < len) :
      Relays total state [] (.ok total state)
  | dry
      (total : Nat)
      (state final : State)
      (more : total < len)
      (read :
        readFd kernel fdIn (min 4096 (len - total)) state = .ok [] final) :
      Relays total state [] (.ok total final)
  | readFails
      (total : Nat)
      (state final : State)
      (error : Errno)
      (more : total < len)
      (read :
        readFd kernel fdIn (min 4096 (len - total)) state =
          .err error final) :
      Relays total state
        [⟨min 4096 (len - total), state, [], final, 0, final⟩]
        (if total = 0 then .err error final else .ok total final)
  | readWaits
      (total : Nat)
      (state : State)
      (more : total < len)
      (read : readFd kernel fdIn (min 4096 (len - total)) state = .hang) :
      Relays total state [] .hang
  | writeFails
      (total : Nat)
      (state middle final : State)
      (chunk : List UInt8)
      (error : Errno)
      (more : total < len)
      (read :
        readFd kernel fdIn (min 4096 (len - total)) state = .ok chunk middle)
      (notEmpty : chunk ≠ [])
      (written :
        writeFd (kernel.holding chunk) fdOut chunk.length middle =
          .err error final) :
      Relays total state
        [⟨min 4096 (len - total), state, chunk, middle, 0, final⟩]
        (if total = 0 then .err error final else .ok total final)
  | writeWaits
      (total : Nat)
      (state middle : State)
      (chunk : List UInt8)
      (more : total < len)
      (read :
        readFd kernel fdIn (min 4096 (len - total)) state = .ok chunk middle)
      (notEmpty : chunk ≠ [])
      (written :
        writeFd (kernel.holding chunk) fdOut chunk.length middle = .hang) :
      Relays total state [] .hang
  | moves
      (total : Nat)
      (state middle after : State)
      (chunk : List UInt8)
      (accepted : Nat)
      (turns : List Turn)
      (outcome : Outcome State Errno Nat)
      (more : total < len)
      (read :
        readFd kernel fdIn (min 4096 (len - total)) state = .ok chunk middle)
      (notEmpty : chunk ≠ [])
      (written :
        writeFd (kernel.holding chunk) fdOut chunk.length middle =
          .ok accepted after)
      (rest : Relays (total + chunk.length) after turns outcome) :
      Relays total state
        (⟨min 4096 (len - total), state, chunk, middle, accepted, after⟩ ::
          turns)
        outcome

variable {kernel fdIn fdOut len}

theorem stop_apply
    (total : Nat)
    (error : Errno)
    (state : State) :
    (if total = 0 then Prog.fail error else pure total : Sys Nat) state =
      if total = 0 then .err error state else .ok total state := by
  split <;> rfl

theorem relays_transferLoop
    (fuel : Nat)
    (enough : len < fuel + 1 + total)
    (state : State) :
    Relays kernel fdIn fdOut len total state
      (turnsFrom kernel fdIn fdOut len (fuel + 1) total state)
      (transferLoop kernel fdIn fdOut len (fuel + 1) total state) := by
  induction fuel generalizing total state with
  | zero =>
      have full : ¬ total < len := by omega
      rw [turnsFrom, transferLoop, if_neg full, if_neg full]
      exact .filled _ _ full
  | succ fuel inductionHypothesis =>
      by_cases more : total < len
      · rw [turnsFrom, transferLoop, if_pos more, if_pos more]
        dsimp only
        cases read : readFd kernel fdIn (min 4096 (len - total)) state with
        | err error final =>
            rw [Prog.bind_of_ok (Prog.attempt_of_err read)]
            dsimp only
            rw [stop_apply]
            exact .readFails _ _ _ _ more read
        | hang =>
            rw [Prog.bind_of_hang (Prog.attempt_of_hang read)]
            exact .readWaits _ _ more read
        | ok chunk middle =>
            rw [Prog.bind_of_ok (Prog.attempt_of_ok read)]
            dsimp only
            by_cases empty : chunk = []
            · subst empty
              exact .dry _ _ _ more read
            · rw [if_neg empty, if_neg empty]
              have longer := List.length_pos_iff.mpr empty
              cases written :
                  writeFd (kernel.holding chunk) fdOut chunk.length middle with
              | err error final =>
                  rw [Prog.bind_of_ok (Prog.attempt_of_err written)]
                  dsimp only
                  rw [stop_apply]
                  exact .writeFails _ _ _ _ _ _ more read empty written
              | hang =>
                  rw [Prog.bind_of_hang (Prog.attempt_of_hang written)]
                  exact .writeWaits _ _ _ _ more read empty written
              | ok accepted after =>
                  rw [Prog.bind_of_ok (Prog.attempt_of_ok written)]
                  exact
                    .moves _ _ _ _ _ _ _ _ more read empty written
                      (inductionHypothesis (by omega) after)
      · rw [turnsFrom, transferLoop, if_neg more, if_neg more]
        exact .filled _ _ more

/-! ## The result of the loop -/

theorem Relays.counted
    {total result : Nat}
    {state final : State}
    (relays : Relays kernel fdIn fdOut len total state turns outcome)
    (whole : ∀ turn ∈ turns, turn.accepted = turn.chunk.length)
    (returned : outcome = .ok result final) :
    result = total + (added turns).length := by
  induction relays with
  | filled total state full =>
      cases returned
      rfl
  | dry total state final more read =>
      cases returned
      rfl
  | readFails total state final error more read =>
      split at returned
      · cases returned
      · cases returned
        rfl
  | readWaits | writeWaits =>
      cases returned
  | writeFails total state middle final chunk error more read notEmpty
      written =>
      have nothing := whole _ List.mem_cons_self
      exact absurd (List.eq_nil_of_length_eq_zero nothing.symm) notEmpty
  | moves total state middle after chunk accepted turns outcome more read
      notEmpty written rest inductionHypothesis =>
      have here := whole _ List.mem_cons_self
      dsimp only at here
      have later :=
        inductionHypothesis
          (fun turn member => whole turn (List.mem_cons_of_mem _ member))
          returned
      unfold added at later ⊢
      rw [List.map_cons, List.flatten_cons, List.length_append,
        List.length_take, here, Nat.min_self, later, Nat.add_assoc]

theorem Relays.failed
    {state final : State}
    (relays : Relays kernel fdIn fdOut len total state turns outcome)
    (failed : outcome = .err error final) :
    total = 0 ∧ added turns = [] := by
  induction relays with
  | filled | dry | readWaits | writeWaits =>
      cases failed
  | readFails total state final error more read =>
      split at failed
      · rename_i zero
        exact ⟨zero, rfl⟩
      · cases failed
  | writeFails total state middle final chunk error more read notEmpty
      written =>
      split at failed
      · rename_i zero
        exact ⟨zero, rfl⟩
      · cases failed
  | moves total state middle after chunk accepted turns outcome more read
      notEmpty written rest inductionHypothesis =>
      have longer := List.length_pos_iff.mpr notEmpty
      have zero := (inductionHypothesis failed).1
      omega

theorem Relays.not_failed
    {total accepted : Nat}
    {state middle after : State}
    {chunk : List UInt8}
    (relays : Relays kernel fdIn fdOut len total state turns outcome)
    (reads :
      readFd kernel fdIn (min 4096 (len - total)) state = .ok chunk middle)
    (writes :
      writeFd (kernel.holding chunk) fdOut chunk.length middle =
        .ok accepted after)
    (error : Errno)
    (final : State) :
    outcome ≠ .err error final := by
  intro failed
  cases relays with
  | filled | dry | readWaits | writeWaits =>
      cases failed
  | readFails _ _ _ _ more read =>
      rw [reads] at read
      cases read
  | writeFails _ _ _ _ _ _ more read notEmpty written =>
      rw [reads] at read
      cases read
      rw [writes] at written
      cases written
  | moves _ _ _ _ _ _ _ _ more read notEmpty written rest =>
      have longer := List.length_pos_iff.mpr notEmpty
      have zero := (rest.failed failed).1
      omega

theorem Relays.failed_of_read
    {state final : State}
    (relays : Relays kernel fdIn fdOut len 0 state turns outcome)
    (more : 0 < len)
    (reads :
      readFd kernel fdIn (min 4096 (len - 0)) state = .err error final) :
    outcome = .err error final := by
  cases relays with
  | filled _ _ full =>
      exact absurd more full
  | dry _ _ _ _ read | writeWaits _ _ _ _ _ read _ _
  | writeFails _ _ _ _ _ _ _ read _ _ | moves _ _ _ _ _ _ _ _ _ read _ _ _
  | readWaits _ _ _ read =>
      rw [reads] at read
      cases read
  | readFails _ _ _ _ _ read =>
      rw [reads] at read
      cases read
      rfl

/-! ## One turn -/

/-- What a recorded turn is a record of. -/
inductive Turn.Happened
    (kernel : World)
    (fdIn fdOut : Int)
    (turn : Turn) : Prop
  | readFailed
      (error : Errno)
      (nothing : turn.chunk = [])
      (none : turn.accepted = 0)
      (same : turn.after = turn.middle)
      (read :
        readFd kernel fdIn turn.count turn.before = .err error turn.middle)
  | writeFailed
      (error : Errno)
      (notEmpty : turn.chunk ≠ [])
      (none : turn.accepted = 0)
      (read :
        readFd kernel fdIn turn.count turn.before =
          .ok turn.chunk turn.middle)
      (written :
        writeFd (kernel.holding turn.chunk) fdOut turn.chunk.length
            turn.middle =
          .err error turn.after)
  | moved
      (notEmpty : turn.chunk ≠ [])
      (read :
        readFd kernel fdIn turn.count turn.before =
          .ok turn.chunk turn.middle)
      (written :
        writeFd (kernel.holding turn.chunk) fdOut turn.chunk.length
            turn.middle =
          .ok turn.accepted turn.after)

theorem Relays.happened
    {state : State}
    (relays : Relays kernel fdIn fdOut len total state turns outcome) :
    ∀ turn ∈ turns, turn.Happened kernel fdIn fdOut := by
  induction relays with
  | filled | dry | readWaits | writeWaits =>
      intro turn member
      cases member
  | readFails total state final error more read =>
      intro turn member
      rw [List.mem_singleton.mp member]
      exact .readFailed error rfl rfl rfl read
  | writeFails total state middle final chunk error more read notEmpty
      written =>
      intro turn member
      rw [List.mem_singleton.mp member]
      exact .writeFailed error notEmpty rfl read written
  | moves total state middle after chunk accepted turns outcome more read
      notEmpty written rest inductionHypothesis =>
      intro turn member
      rcases List.mem_cons.mp member with rfl | later
      · exact .moved notEmpty read written
      · exact inductionHypothesis turn later

/-- What the reads and the writes of a turn amount to. -/
structure Turn.Exact
    (kernel : World)
    (fdIn fdOut : Int)
    (turn : Turn) : Prop where
  adds : turn.Adds fdOut
  within : turn.accepted ≤ turn.chunk.length
  whole :
    turn.Takes kernel fdIn ∧ turn.accepted = turn.chunk.length ↔
      turn.Smooth kernel fdIn fdOut

theorem adds_nothing
    (count : Nat)
    (before middle : State)
    (chunk : List UInt8) :
    Turn.Adds fdOut ⟨count, before, chunk, middle, 0, middle⟩ := by
  unfold Turn.Adds
  simp

theorem exact_of_readFailed
    {count : Nat}
    {before middle : State}
    (read : readFd kernel fdIn count before = .err error middle) :
    Turn.Exact kernel fdIn fdOut ⟨count, before, [], middle, 0, middle⟩ where
  adds := adds_nothing _ _ _ _
  within := Nat.le_refl _
  whole := by
    unfold Turn.Takes Turn.Smooth
    rw [if_pos rfl, if_pos rfl, ← consumesNothing_readFd_iff]
    constructor
    · rintro ⟨untouched, _⟩ other final failed
      rw [read] at failed
      cases failed
      exact untouched
    · intro consumes
      exact ⟨consumes _ _ read, rfl⟩

theorem Turn.Happened.of_mapped
    {turn : Turn}
    (mapped : ∀ offset len, kernel.copied offset len = true)
    (happened : turn.Happened kernel fdIn fdOut) :
    turn.Exact kernel fdIn fdOut := by
  obtain ⟨count, before, chunk, middle, accepted, after⟩ := turn
  cases happened with
  | readFailed error nothing none same read =>
      dsimp only at nothing none same read
      subst nothing none same
      exact exact_of_readFailed read
  | writeFailed error notEmpty none read written =>
      dsimp only at notEmpty none read written
      subst none
      have wrote := wrote_writeFd mapped fdOut middle notEmpty
      rw [written] at wrote
      cases wrote with
      | fails _ noRoom =>
          refine ⟨adds_nothing _ _ _ _, Nat.zero_le _, ?_⟩
          unfold Turn.Smooth
          rw [if_neg notEmpty]
          refine iff_of_false ?_ noRoom
          rintro ⟨_, whole⟩
          exact notEmpty (List.eq_nil_of_length_eq_zero whole.symm)
  | moved notEmpty read written =>
      dsimp only at notEmpty read written
      have wrote := wrote_writeFd mapped fdOut middle notEmpty
      have removed := removed_of_readFd mapped read notEmpty
      rw [written] at wrote
      cases wrote with
      | accepts _ _ some within adds whole =>
          refine ⟨?_, within, ?_⟩
          · unfold Turn.Adds
            rw [if_neg some.ne']
            exact adds
          · unfold Turn.Takes Turn.Smooth
            rw [if_neg notEmpty, if_neg notEmpty, ← whole]
            exact and_iff_right removed

theorem Turn.Happened.of_refused
    {turn : Turn}
    (refuses : kernel.Refuses)
    (happened : turn.Happened kernel fdIn fdOut) :
    turn.Exact kernel fdIn fdOut := by
  obtain ⟨count, before, chunk, middle, accepted, after⟩ := turn
  have nothingRead
      (read : readFd kernel fdIn count before = .ok chunk middle) :
      chunk = [] :=
    (@refused_readFd kernel kernel.copied count refuses fdIn before).1 _ _ read
  cases happened with
  | readFailed error nothing none same read =>
      dsimp only at nothing none same read
      subst nothing none same
      exact exact_of_readFailed read
  | writeFailed error notEmpty none read written =>
      exact absurd (nothingRead read) notEmpty
  | moved notEmpty read written =>
      exact absurd (nothingRead read) notEmpty

/-! ## The whole call -/

theorem length_added_le
    (within : ∀ turn ∈ turns, turn.accepted ≤ turn.chunk.length) :
    (added turns).length ≤ (taken turns).length := by
  induction turns with
  | nil =>
      exact Nat.le_refl _
  | cons turn turns inductionHypothesis =>
      have here := within turn List.mem_cons_self
      have later :=
        inductionHypothesis fun turn member =>
          within turn (List.mem_cons_of_mem _ member)
      unfold added taken at later ⊢
      rw [List.map_cons, List.map_cons, List.flatten_cons, List.flatten_cons,
        List.length_append, List.length_append, List.length_take]
      omega

theorem taken_eq_added_iff
    (within : ∀ turn ∈ turns, turn.accepted ≤ turn.chunk.length) :
    taken turns = added turns ↔
      ∀ turn ∈ turns, turn.accepted = turn.chunk.length := by
  induction turns with
  | nil =>
      exact iff_of_true rfl fun _ member => by cases member
  | cons turn turns inductionHypothesis =>
      have here := within turn List.mem_cons_self
      have later :=
        inductionHypothesis fun turn member =>
          within turn (List.mem_cons_of_mem _ member)
      have shorter := length_added_le fun turn member =>
        within turn (List.mem_cons_of_mem _ member)
      have takes : taken (turn :: turns) = turn.chunk ++ taken turns := rfl
      have adds :
          added (turn :: turns) =
            turn.chunk.take turn.accepted ++ added turns :=
        rfl
      rw [takes, adds, List.forall_mem_cons]
      constructor
      · intro same
        have lengths := congrArg List.length same
        rw [List.length_append, List.length_append, List.length_take]
          at lengths
        have whole : turn.accepted = turn.chunk.length := by omega
        rw [whole, List.take_length] at same
        exact ⟨whole, later.mp (List.append_cancel_left same)⟩
      · rintro ⟨whole, wholes⟩
        rw [whole, List.take_length, later.mpr wholes]

end Loop

theorem kernelWorld_cases
    (buffer : UInt64)
    (world : World) :
    (buffer < Paging.userLimit ∧
        ∀ offset len, (kernelWorld buffer world).copied offset len = true) ∨
      ¬ buffer < Paging.userLimit ∧ (kernelWorld buffer world).Refuses := by
  by_cases below : buffer < Paging.userLimit
  · left
    refine ⟨below, fun offset len => ?_⟩
    simp [kernelWorld, below]
  · right
    refine ⟨below, fun offset len something => ?_⟩
    simp [kernelWorld, below, something]

section Calls

variable
  {transfer : Transfer}
  {kernel : World}
  {state : State}

theorem run_of_starts
    (starts : transfer.Starts state) :
    transfer.run kernel state =
      transferLoop kernel transfer.fdIn transfer.fdOut transfer.len
        (transfer.len + 1) 0 state := by
  obtain ⟨inOpen, outOpen, known⟩ := starts
  unfold Transfer.KnowsFlags at known
  unfold Transfer.run
  cases kind : transfer.kind with
  | splice =>
      rw [kind] at known
      dsimp only at known ⊢
      unfold splice
      rw [Prog.bind_of_ok (fdSnapshot_of_open inOpen),
        Prog.bind_of_ok (fdSnapshot_of_open outOpen),
        if_neg (not_not_intro known)]
  | copyFileRange =>
      rw [kind] at known
      dsimp only at known ⊢
      unfold copyFileRange
      rw [if_neg (not_not_intro known),
        Prog.bind_of_ok (fdSnapshot_of_open inOpen),
        Prog.bind_of_ok (fdSnapshot_of_open outOpen)]

theorem run_of_not_starts
    (refused : ¬ transfer.Starts state) :
    ∃ error, transfer.run kernel state = .err error state := by
  unfold Transfer.Starts Transfer.KnowsFlags at refused
  unfold Transfer.run
  cases kind : transfer.kind with
  | splice =>
      rw [kind] at refused
      dsimp only at refused ⊢
      unfold splice
      by_cases inOpen : OpenFd state.fds transfer.fdIn
      · rw [Prog.bind_of_ok (fdSnapshot_of_open inOpen)]
        by_cases outOpen : OpenFd state.fds transfer.fdOut
        · rw [Prog.bind_of_ok (fdSnapshot_of_open outOpen),
            if_pos fun known => refused ⟨inOpen, outOpen, known⟩]
          exact ⟨_, rfl⟩
        · exact ⟨_, Prog.bind_of_err (fdSnapshot_of_not_open outOpen)⟩
      · exact ⟨_, Prog.bind_of_err (fdSnapshot_of_not_open inOpen)⟩
  | copyFileRange =>
      rw [kind] at refused
      dsimp only at refused ⊢
      unfold copyFileRange
      by_cases unknown : transfer.flags ≠ 0
      · rw [if_pos unknown]
        exact ⟨_, rfl⟩
      · rw [if_neg unknown]
        by_cases inOpen : OpenFd state.fds transfer.fdIn
        · rw [Prog.bind_of_ok (fdSnapshot_of_open inOpen)]
          by_cases outOpen : OpenFd state.fds transfer.fdOut
          · exact absurd ⟨inOpen, outOpen, not_not.mp unknown⟩ refused
          · exact ⟨_, Prog.bind_of_err (fdSnapshot_of_not_open outOpen)⟩
        · exact ⟨_, Prog.bind_of_err (fdSnapshot_of_not_open inOpen)⟩

theorem relays_of_starts
    (starts : transfer.Starts state) :
    Relays kernel transfer.fdIn transfer.fdOut transfer.len 0 state
      (transfer.turns kernel state) (transfer.run kernel state) := by
  rw [run_of_starts starts, Transfer.turns, if_pos starts]
  exact relays_transferLoop _ (by omega) state

theorem exact_of_mem_turns
    {buffer : UInt64} :
    ∀ turn ∈ transfer.turns (kernelWorld buffer world) state,
      turn.Exact (kernelWorld buffer world) transfer.fdIn transfer.fdOut := by
  intro turn member
  by_cases starts : transfer.Starts state
  · have happened := (relays_of_starts starts).happened turn member
    rcases kernelWorld_cases buffer world with ⟨_, mapped⟩ | ⟨_, refuses⟩
    · exact happened.of_mapped mapped
    · exact happened.of_refused refuses
  · rw [Transfer.turns, if_neg starts] at member
    cases member

theorem eq_nil_of_readFd_zero
    {fdNumber : Int}
    {chunk : List UInt8}
    {final : State}
    (returned : readFd world fdNumber 0 state = .ok chunk final) :
    chunk = [] := by
  unfold readFd at returned
  split at returned
  · cases returned
  · cases returned
    rfl

theorem fails_iff_of_ready
    {buffer : UInt64}
    (ready : transfer.Ready world state) :
    (∃ error final,
        transfer.run (kernelWorld buffer world) state = .err error final) ↔
      ¬ buffer < Paging.userLimit := by
  obtain ⟨starts, chunk, middle, accepted, after, reads, notEmpty, writes⟩ :=
    ready
  have relays :=
    @relays_of_starts transfer (kernelWorld buffer world) state starts
  constructor
  · rintro ⟨error, final, failed⟩ below
    have same :
        kernelWorld buffer world =
          { world with copied := fun _ _ => true } := by
      simp [kernelWorld, below]
    rw [failed, same] at relays
    exact relays.not_failed reads writes error final rfl
  · intro above
    obtain ⟨below, _⟩ | ⟨_, refuses⟩ := kernelWorld_cases buffer world
    · exact absurd below above
    · have some : 0 < transfer.len := by
        by_contra none
        have zero : transfer.len = 0 := by omega
        rw [zero] at reads
        exact notEmpty (eq_nil_of_readFd_zero reads)
      obtain ⟨error, final, failed⟩ :=
        (@refused_readFd world _ (min 4096 transfer.len) refuses
          transfer.fdIn state).2 _ _ reads notEmpty
      exact ⟨error, final, relays.failed_of_read some failed⟩

end Calls

/--
`splice` and `copy_file_range` conserve bytes exactly when in every turn the
output has room for the chunk and no read takes an item before it fails, and
when the buffer, if there is something to move, is below `USER_LIMIT`.
-/
theorem transfer_conserves_iff
    (transfer : Transfer)
    (world : World)
    (buffer : UInt64)
    (state : State) :
    transfer.Conserves world buffer state ↔
      (∀ turn ∈ transfer.turns (kernelWorld buffer world) state,
          turn.Smooth (kernelWorld buffer world) transfer.fdIn
            transfer.fdOut) ∧
        (transfer.Ready world state → buffer < Paging.userLimit) := by
  have exact' := @exact_of_mem_turns world transfer state buffer
  have wholes :=
    taken_eq_added_iff fun turn member => (exact' turn member).within
  constructor
  · intro conserves
    constructor
    · intro turn member
      apply (exact' turn member).whole.mp
      exact
        ⟨conserves.takes turn member, wholes.mp conserves.same turn member⟩
    · intro ready
      by_contra above
      obtain ⟨error, final, failed⟩ := (fails_iff_of_ready ready).mpr above
      exact (conserves.failed error final failed).2 ready
  · rintro ⟨smooth, reached⟩
    have whole turn member := (exact' turn member).whole.mpr (smooth turn member)
    refine
      ⟨fun turn member => (whole turn member).1,
        fun turn member => (exact' turn member).adds,
        wholes.mpr fun turn member => (whole turn member).2, ?_, ?_⟩
    · intro result final returned
      by_cases starts : transfer.Starts state
      · have counted :=
          (relays_of_starts starts).counted
            (fun turn member => (whole turn member).2) returned
        rwa [Nat.zero_add] at counted
      · obtain ⟨error, failed⟩ :=
          @run_of_not_starts transfer (kernelWorld buffer world) state starts
        rw [failed] at returned
        cases returned
    · intro error final failed
      constructor
      · by_cases starts : transfer.Starts state
        · exact ((relays_of_starts starts).failed failed).2
        · rw [Transfer.turns, if_neg starts]
          rfl
      · intro ready
        exact
          (fails_iff_of_ready ready).mp ⟨error, final, failed⟩ (reached ready)

/-! ## A pipe that is nearly full -/

def letters (amount : Nat) : Syscall.PipeBuffer :=
  { Syscall.PipeBuffer.empty with
    used := true
    data := fun _ => 97
    writePos := amount
    len := amount }

/-- Two letters in a pipe, and another pipe with room for one more. -/
def crampedPipes : State :=
  { State.new with
    fds := fun index =>
      if index = 3 then opened .pipeRead Syscall.oRdonly [0]
      else if index = 4 then opened .pipeWrite Syscall.oWronly [1]
      else if index = 5 then opened .pipeRead Syscall.oRdonly [1]
      else Fd.empty
    pipeBuffers := fun slot =>
      if slot = 0 then letters 2 else letters (Syscall.pipeCapacity - 1) }

/-- Two bytes are to go from the one pipe to the other. -/
def pipeToPipe : Transfer where
  kind := .splice
  fdIn := 3
  fdOut := 4
  len := 2
  flags := 0

/-- Below `USER_LIMIT` a letter is lost, above it nothing can be moved. -/
theorem pipeToPipe_loses :
    ¬ pipeToPipe.Conserves World.idle 0x8000000000 crampedPipes ∧
      ¬ pipeToPipe.Conserves World.idle 0xffff800000000000 crampedPipes := by
  constructor
  · intro conserves
    have same := conserves.same
    revert same
    decide +kernel
  · intro conserves
    have failed :
        (pipeToPipe.run (kernelWorld 0xffff800000000000 World.idle)
            crampedPipes).error? =
          some .efault := by
      decide +kernel
    obtain ⟨final, failed⟩ := Outcome.error?_eq_some.mp failed
    apply (conserves.failed _ _ failed).2
    refine ⟨by decide, [97, 97], _, 1, _, rfl, by decide, rfl⟩

end VibuxOS.Files
