import VibuxOS.Files.Polling
import VibuxOS.Files.Relays

namespace VibuxOS.Files

open VibuxOS.Lib

/-!
# Writes from a buffer of the kernel

When the copies out of the buffer succeed, a write of a chunk adds a prefix of
it to its output, or fails and changes nothing.  The prefix is the whole chunk
exactly when the output has room for it.
-/

/-- How a write of a chunk ends; `room` says that there is room for all of it. -/
inductive Wrote
    (fdNumber : Int)
    (chunk : List UInt8)
    (state : State)
    (room : Prop) :
    Outcome State Errno Nat → Prop
  | accepts
      (accepted : Nat)
      (after : State)
      (some : 0 < accepted)
      (within : accepted ≤ chunk.length)
      (adds : Added fdNumber (chunk.take accepted) state after)
      (whole : accepted = chunk.length ↔ room) :
      Wrote fdNumber chunk state room (.ok accepted after)
  | fails
      (error : Errno)
      (noRoom : ¬ room) :
      Wrote fdNumber chunk state room (.err error state)
  | hangs
      (noRoom : ¬ room) :
      Wrote fdNumber chunk state room .hang

theorem window_holding
    {chunk : List UInt8}
    {amount : Nat}
    (within : amount ≤ chunk.length) :
    window (fun index => chunk.getD index 0) 0 amount = chunk.take amount := by
  have whole := window_getD chunk (0 : UInt8)
  have prefix' := congrArg (List.take amount) whole
  rwa [take_window, Nat.min_eq_left within] at prefix'

section Writing

variable
  {world : World}
  {state : State}
  {fdNumber : Int}
  {chunk : List UInt8}

theorem contents_putPipe
    {slot amount : Nat}
    (within : amount ≤ chunk.length)
    (fits : (state.pipeBuffers slot).len + amount ≤ Syscall.pipeCapacity)
    (wellFormed : (state.pipeBuffers slot).WellFormed) :
    ((state.putPipe slot (fun index => chunk.getD index 0)
          amount).pipeBuffers slot).contents =
      (state.pipeBuffers slot).contents ++ chunk.take amount := by
  unfold State.putPipe
  dsimp only
  rw [Function.update_self, wellFormed.contents_put fits,
    ← window_zero_start, window_holding within]

section

variable (mapped : ∀ offset len, world.copied offset len = true)

include mapped

theorem copyUserIn_bind
    {α : Type}
    (offset len : Nat)
    (next : List UInt8 → Sys α) :
    (copyUserIn (world.holding chunk) offset len >>= next) state =
      next (window (fun index => chunk.getD index 0) offset len) state := by
  have copied : (world.holding chunk).copied offset len = true :=
    mapped offset len
  unfold copyUserIn
  rw [copied]
  rfl

theorem chunksCopied_holding
    {size : Nat}
    (positive : 0 < size)
    (amount : Nat) :
    chunksCopied (world.holding chunk) size amount amount 0 = amount := by
  have maps : (world.holding chunk).Maps amount :=
    fun offset len _ => mapped offset len
  exact chunksCopied_of_maps maps positive (Nat.le_refl _)

theorem wrote_pipeWriteFd
    (isOpen : OpenFd state.fds fdNumber)
    (kind : (state.fds fdNumber.toNat).kind = .pipeWrite)
    (notEmpty : chunk ≠ []) :
    Wrote fdNumber chunk state
      (KindHasRoom state (state.fds fdNumber.toNat) chunk)
      (pipeWriteFd (world.holding chunk) fdNumber chunk.length state) := by
  have something := List.length_pos_iff.mpr notEmpty
  unfold KindHasRoom pipeWriteFd
  rw [Prog.bind_of_ok (fdSnapshot_of_open isOpen), kind]
  dsimp only
  by_cases single : (state.fds fdNumber.toNat).path.length = 1
  · rw [if_neg (not_or.mpr ⟨not_not_intro rfl, not_not_intro single⟩),
      Prog.gets_bind_apply, id]
    cases isAvailable : pipeAvailable state (state.fds fdNumber.toNat).id with
    | none =>
        refine .fails _ ?_
        rintro ⟨_, _, available, found, _⟩
        cases found
    | some available =>
        dsimp only
        have length := pipeAvailable_eq_some isAvailable
        cases reader : pipeHasReader state (state.fds fdNumber.toNat).id with
        | false =>
            refine .fails _ ?_
            rintro ⟨_, hasReader, _⟩
            cases hasReader
        | true =>
            rw [if_neg Bool.false_ne_true.symm]
            by_cases full : Syscall.pipeCapacity - available = 0
            · rw [if_pos full]
              refine .fails _ ?_
              rintro ⟨_, _, other, found, fits⟩
              cases found
              omega
            · rw [if_neg full, copyUserIn_bind mapped]
              refine .accepts _ _ (by omega) (Nat.min_le_left _ _) ?_ ?_
              · unfold Added writeSlot
                dsimp only
                rw [kind]
                refine ⟨_, rfl, contents_putPipe (Nat.min_le_left _ _) ?_⟩
                omega
              · constructor
                · intro whole
                  exact ⟨single, rfl, available, rfl, by omega⟩
                · rintro ⟨_, _, other, found, fits⟩
                  cases found
                  omega
  · rw [if_pos (.inr single)]
    exact .fails _ fun room => single room.1

theorem wrote_socketWriteFd
    (isOpen : OpenFd state.fds fdNumber)
    (kind : (state.fds fdNumber.toNat).kind = .socket)
    (notEmpty : chunk ≠ []) :
    Wrote fdNumber chunk state
      (KindHasRoom state (state.fds fdNumber.toNat) chunk)
      (socketWriteFd (world.holding chunk) fdNumber chunk.length state) := by
  have something := List.length_pos_iff.mpr notEmpty
  unfold KindHasRoom socketWriteFd
  rw [Prog.bind_of_ok (fdSnapshot_of_open isOpen), kind]
  dsimp only
  by_cases paired : (state.fds fdNumber.toNat).path.length = 2
  · rw [if_neg (not_not_intro paired), Prog.gets_bind_apply, id]
    cases target :
        socketPipeFor state (state.fds fdNumber.toNat).id
          ((state.fds fdNumber.toNat).path.getD 1 0) true with
    | none =>
        refine .fails _ ?_
        rintro ⟨_, slot, found, _⟩
        cases found
    | some slot =>
        dsimp only
        by_cases full :
            Syscall.pipeCapacity - (state.pipeBuffers slot).len = 0
        · rw [if_pos full]
          refine .fails _ ?_
          rintro ⟨_, other, found, fits⟩
          cases found
          omega
        · rw [if_neg full, copyUserIn_bind mapped]
          refine .accepts _ _ (by omega) (Nat.min_le_left _ _) ?_ ?_
          · unfold Added writeSlot
            dsimp only
            rw [kind]
            refine ⟨slot, target, contents_putPipe (Nat.min_le_left _ _) ?_⟩
            omega
          · constructor
            · intro whole
              exact ⟨paired, slot, rfl, by omega⟩
            · rintro ⟨_, other, found, fits⟩
              cases found
              omega
  · rw [if_pos paired]
    exact .fails _ fun room => paired room.1

end

theorem added_ramFile
    {index start amount : Nat}
    (kind : (state.fds fdNumber.toNat).kind = .ramFile)
    (found :
      ramFileIndex state (state.fds fdNumber.toNat).path = some index)
    (isStart :
      ramWriteStart state (state.fds fdNumber.toNat) index = start)
    (within : amount ≤ chunk.length)
    (fits : start + amount ≤ ramFileCapacity) :
    Added fdNumber (chunk.take amount) state
      ((state.setRamFile index
          { state.ramFiles index with
            data :=
              blit (state.ramFiles index).data start
                (fun index => chunk.getD index 0) amount
            len := max (state.ramFiles index).len (start + amount) }).setPosition
        fdNumber.toNat (start + amount)) := by
  have below : start + amount < 2 ^ 64 :=
    Nat.lt_of_le_of_lt fits (by decide)
  have same :
      blit (state.ramFiles index).data start
          (fun index => chunk.getD index 0) amount =
        blit (state.ramFiles index).data start
          (fun index => (chunk.take amount).getD index 0) amount := by
    apply blit_congr
    intro place inside
    rw [List.getD_eq_getElem?_getD, List.getD_eq_getElem?_getD,
      List.getElem?_take_of_lt inside]
  unfold Added
  dsimp only
  rw [kind]
  refine ⟨index, found, ?_, ?_⟩
  · rw [isStart, List.length_take, Nat.min_eq_left within, ← same]
    exact ramFiles_setRamFile_self _ _ _
  · rw [isStart, List.length_take, Nat.min_eq_left within]
    exact position_setPosition below

section

variable (mapped : ∀ offset len, world.copied offset len = true)

include mapped

theorem wrote_ramFileWrite
    (isOpen : OpenFd state.fds fdNumber)
    (kind : (state.fds fdNumber.toNat).kind = .ramFile)
    (notEmpty : chunk ≠ []) :
    Wrote fdNumber chunk state
      (KindHasRoom state (state.fds fdNumber.toNat) chunk)
      (ramFileWrite (world.holding chunk) fdNumber chunk.length state) := by
  have something := List.length_pos_iff.mpr notEmpty
  unfold KindHasRoom
  rw [kind]
  dsimp only
  cases found : ramFileIndex state (state.fds fdNumber.toNat).path with
  | none =>
      unfold ramFileWrite
      rw [Prog.bind_of_ok (fdSnapshot_of_open isOpen), Prog.gets_bind_apply,
        id, found]
      refine .fails _ ?_
      rintro ⟨index, isIndex, _⟩
      cases isIndex
  | some index =>
      rw [ramFileWrite_of_found isOpen found]
      dsimp only
      obtain ⟨start, isStart⟩ :
          ∃ start,
            ramWriteStart state (state.fds fdNumber.toNat) index = start :=
        ⟨_, rfl⟩
      have amountIs :
          writeAmount state (state.fds fdNumber.toNat) index chunk.length =
            min chunk.length (ramFileCapacity - start) := by
        rw [← isStart]
        rfl
      rw [isStart, amountIs, chunksCopied_holding mapped (by decide)]
      by_cases full : start ≥ ramFileCapacity
      · rw [if_pos ⟨full, by omega⟩]
        refine .fails _ ?_
        rintro ⟨other, isIndex, fits⟩
        cases isIndex
        omega
      · rw [if_neg (fun both => full both.1), if_neg (by omega),
          if_neg (Nat.lt_irrefl _)]
        refine .accepts _ _ (by omega) (Nat.min_le_left _ _)
          (added_ramFile kind found isStart (Nat.min_le_left _ _) (by omega))
          ?_
        constructor
        · intro whole
          exact ⟨index, rfl, by omega⟩
        · rintro ⟨other, isIndex, fits⟩
          cases isIndex
          omega

omit mapped in
theorem take_eight
    (enough : 8 ≤ chunk.length) :
    chunk.take 8 =
      leBytes (getU64 (fun index => chunk.getD index 0) 0) 8 := by
  rw [← window_holding enough]
  unfold window leBytes
  apply List.map_congr_left
  intro index inside
  exact
    (leByte_getU64 (fun index => chunk.getD index 0) 0
      (List.mem_range.mp inside)).symm

theorem wrote_eventFdWrite
    (kind : (state.fds fdNumber.toNat).kind = .eventFd) :
    Wrote fdNumber chunk state
      (KindHasRoom state (state.fds fdNumber.toNat) chunk)
      (eventFdWrite (world.holding chunk) (state.fds fdNumber.toNat)
        chunk.length state) := by
  unfold KindHasRoom eventFdWrite
  rw [kind]
  dsimp only
  by_cases outside : (state.fds fdNumber.toNat).id ≥ eventfdMax
  · rw [if_pos outside]
    exact .hangs fun room => absurd room.1 (Nat.not_lt.mpr outside)
  · rw [if_neg outside, Prog.gets_bind_apply]
    by_cases unused :
        (state.eventFds (state.fds fdNumber.toNat).id).used = false
    · rw [if_pos unused]
      refine .fails _ ?_
      rintro ⟨_, used, _⟩
      rw [unused] at used
      cases used
    · rw [if_neg unused]
      by_cases short : chunk.length < 8
      · rw [if_pos short]
        exact .fails _ fun room => by omega
      · rw [if_neg short, copyUserIn_bind mapped]
        have enough := Nat.le_of_not_lt short
        have digits := take_eight enough
        by_cases invalid :
            getU64 (world.holding chunk).source 0 = 0xffffffffffffffff
        · rw [if_pos invalid]
          exact .fails _ fun room => room.2.2.2.1 invalid
        · rw [if_neg invalid]
          by_cases overflows :
              (state.eventFds (state.fds fdNumber.toNat).id).counter.toNat +
                  (getU64 (world.holding chunk).source 0).toNat ≥
                2 ^ 64
          · rw [if_pos overflows]
            exact
              .fails _ fun room =>
                absurd overflows (Nat.not_le_of_lt room.2.2.2.2)
          · rw [if_neg overflows]
            refine .accepts 8 _ (by decide) enough ?_ ?_
            · unfold Added State.setEventFd
              dsimp only
              rw [kind]
              refine ⟨_, digits, ?_⟩
              rw [Function.update_self]
              rw [UInt64.toNat_add]
              exact Nat.mod_eq_of_lt (Nat.lt_of_not_le overflows)
            · constructor
              · intro whole
                exact
                  ⟨Nat.lt_of_not_le outside, Bool.not_eq_false _ ▸ unused,
                    whole.symm, invalid, Nat.lt_of_not_le overflows⟩
              · rintro ⟨_, _, eight, _⟩
                exact eight.symm

omit mapped in
theorem wrote_unchanged
    (kind :
      (state.fds fdNumber.toNat).kind = .tty ∨
        (state.fds fdNumber.toNat).kind = .null)
    (notEmpty : chunk ≠ []) :
    Wrote fdNumber chunk state
      (KindHasRoom state (state.fds fdNumber.toNat) chunk)
      (.ok chunk.length state) := by
  refine
    .accepts _ _ (List.length_pos_iff.mpr notEmpty) (Nat.le_refl _) ?_
      (iff_of_true rfl ?_)
  · unfold Added
    dsimp only
    rcases kind with isTty | isNull
    · rw [isTty]
    · rw [isNull]
  · unfold KindHasRoom
    rcases kind with isTty | isNull
    · rw [isTty]
      exact trivial
    · rw [isNull]
      exact trivial

theorem wrote_writeKind
    (isOpen : OpenFd state.fds fdNumber)
    (notEmpty : chunk ≠ []) :
    Wrote fdNumber chunk state
      (KindHasRoom state (state.fds fdNumber.toNat) chunk)
      (writeKind (world.holding chunk) fdNumber (state.fds fdNumber.toNat)
        chunk.length state) := by
  have noRoom
      (error : Errno)
      (refused : ¬ KindHasRoom state (state.fds fdNumber.toNat) chunk) :
      Wrote fdNumber chunk state
        (KindHasRoom state (state.fds fdNumber.toNat) chunk)
        ((Prog.fail error : Sys Nat) state) :=
    .fails error refused
  unfold writeKind
  cases kind : (state.fds fdNumber.toNat).kind with
  | pipeWrite =>
      exact wrote_pipeWriteFd mapped isOpen kind notEmpty
  | socket =>
      exact wrote_socketWriteFd mapped isOpen kind notEmpty
  | ramFile =>
      exact wrote_ramFileWrite mapped isOpen kind notEmpty
  | eventFd =>
      exact wrote_eventFdWrite mapped kind
  | tty =>
      have printed :
          ttyWrite (world.holding chunk) chunk.length state =
            .ok chunk.length state := by
        unfold ttyWrite
        rw [chunksCopied_holding mapped (by decide)]
        exact congrFun (if_neg fun both => Nat.lt_irrefl _ both.1) state
      dsimp only
      rw [printed]
      exact wrote_unchanged (.inl kind) notEmpty
  | null =>
      exact wrote_unchanged (.inr kind) notEmpty
  | none | zero | binary | text | pipeRead | timerFd | signalFd | epoll
  | inotify | block =>
      apply noRoom
      unfold KindHasRoom
      rw [kind]
      exact id

theorem wrote_writeFd
    (fdNumber : Int)
    (state : State)
    (notEmpty : chunk ≠ []) :
    Wrote fdNumber chunk state (HasRoom state fdNumber chunk)
      (writeFd (world.holding chunk) fdNumber chunk.length state) := by
  have something := (List.length_pos_iff.mpr notEmpty).ne'
  by_cases isOpen : OpenFd state.fds fdNumber
  · rw [writeFd_of_open isOpen something]
    split
    · rename_i readOnly
      refine .fails _ ?_
      rintro ⟨_, writable | isTty, _⟩
      · rw [readOnly.1] at writable
        cases writable
      · exact readOnly.2 isTty
    · rename_i writable
      have allowed :
          fdWritable (state.fds fdNumber.toNat) = true ∨
            (state.fds fdNumber.toNat).kind = .tty := by
        rw [not_and_or, Bool.not_eq_false, not_not] at writable
        exact writable
      have same :
          HasRoom state fdNumber chunk ↔
            KindHasRoom state (state.fds fdNumber.toNat) chunk :=
        ⟨fun room => room.2.2, fun room => ⟨isOpen, allowed, room⟩⟩
      rw [same]
      exact wrote_writeKind mapped isOpen notEmpty
  · have failed :
        writeFd (world.holding chunk) fdNumber chunk.length state =
          .err .ebadf state := by
      unfold writeFd
      by_cases outside : fdNumber < 0 ∨ fdNumber ≥ Syscall.fileFdMax
      · rw [if_pos outside]
        exact Prog.fail_apply _ _
      · rw [if_neg outside, if_neg something,
          Prog.bind_of_err (fdSnapshot_of_not_open isOpen)]
    rw [failed]
    exact .fails _ fun room => isOpen room.1

end

end Writing

end VibuxOS.Files
