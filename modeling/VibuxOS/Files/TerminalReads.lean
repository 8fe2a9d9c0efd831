import VibuxOS.Files.FailedReads

namespace VibuxOS.Files

open VibuxOS.Lib

/-!
# Reads of the terminal, and reads of every kind

A terminal read looks for signals before it takes a character, and once more
when it got none.  Each look drops the pending signals whose action ignores
them, up to the first one that interrupts.
-/

variable
  {process : Signals.ProcessState}
  {state : State}

/-! ## The check for signals -/

theorem signalBit_and_signalBit
    {first second : UInt64}
    (firstNumber : first ∈ signalNumbers)
    (secondNumber : second ∈ signalNumbers)
    (other : first ≠ second) :
    Signals.signalBit first &&& Signals.signalBit second = 0 := by
  obtain ⟨left, leftInWord, rfl⟩ := List.mem_map.mp firstNumber
  obtain ⟨right, rightInWord, rfl⟩ := List.mem_map.mp secondNumber
  rw [List.mem_range] at leftInWord rightInWord
  have apart : left ≠ right := by
    rintro rfl
    exact other rfl
  rw [← UInt64.toNat_inj, UInt64.toNat_and,
    Signals.toNat_signalBit leftInWord, Signals.toNat_signalBit rightInWord,
    Nat.and_two_pow, Nat.testBit_two_pow]
  simp [apart]

def ignored (process : Signals.ProcessState) (signum : UInt64) : Bool :=
  (process.signalActions (signum - 1).toNat).ignores signum

/-- The pending signals after a look at some signals of a set. -/
def dropIgnored
    (process : Signals.ProcessState)
    (set : UInt64) :
    List UInt64 → UInt64 → UInt64
  | [], pending => pending
  | signum :: rest, pending =>
      if set &&& Signals.signalBit signum = 0 then
        dropIgnored process set rest pending
      else if ignored process signum then
        dropIgnored process set rest (pending &&& ~~~Signals.signalBit signum)
      else
        pending

theorem signalPendingUnblockedLoop_eq
    (set : UInt64)
    (signals : List UInt64)
    (state : State) :
    signalPendingUnblockedLoop set signals state =
      .ok (signals.any (heededIn state set))
        { state with
          pending := dropIgnored state.process set signals state.pending } := by
  induction signals generalizing state with
  | nil =>
      rfl
  | cons signum rest inductionHypothesis =>
      unfold signalPendingUnblockedLoop dropIgnored
      rw [List.any_cons]
      by_cases absent : set &&& Signals.signalBit signum = 0
      · have passed : heededIn state set signum = false := by
          simp [heededIn, absent]
        rw [if_pos absent, if_pos absent, inductionHypothesis, passed,
          Bool.false_or]
      · rw [if_neg absent, if_neg absent, Prog.gets_bind_apply]
        change
          (if ignored state.process signum = true then
              Prog.modify (State.clearPending signum) >>= fun _ =>
                signalPendingUnblockedLoop set rest
            else pure true)
            state = _
        cases action : ignored state.process signum with
        | true =>
            have passed : heededIn state set signum = false := by
              unfold ignored at action
              simp [heededIn, action]
            rw [if_pos rfl, if_pos rfl, Prog.modify_bind_apply,
              inductionHypothesis, passed, Bool.false_or]
            rfl
        | false =>
            have heeded : heededIn state set signum = true := by
              unfold ignored at action
              simp [heededIn, action, absent]
            rw [if_neg Bool.false_ne_true, if_neg Bool.false_ne_true, heeded,
              Bool.true_or]
            rfl

/-- The state after a check for signals. -/
def checked (state : State) : State :=
  { state with
    pending :=
      dropIgnored state.process (unblocked state) signalNumbers
        state.pending }

theorem signalPendingUnblocked_eq
    (state : State) :
    signalPendingUnblocked state = .ok (interrupts state) (checked state) := by
  unfold signalPendingUnblocked
  rw [Prog.gets_bind_apply]
  exact signalPendingUnblockedLoop_eq _ _ _

theorem dropIgnored_and_eq_zero
    {set pending bit : UInt64}
    (signals : List UInt64)
    (absent : pending &&& bit = 0) :
    dropIgnored process set signals pending &&& bit = 0 := by
  induction signals generalizing pending with
  | nil =>
      exact absent
  | cons signum rest inductionHypothesis =>
      unfold dropIgnored
      split
      · exact inductionHypothesis absent
      · split
        · apply inductionHypothesis
          rw [UInt64.and_assoc, UInt64.and_comm (~~~_), ← UInt64.and_assoc,
            absent, UInt64.zero_and]
        · exact absent

theorem dropIgnored_and_of_heeded
    {set pending heeded : UInt64}
    {signals : List UInt64}
    (numbers : ∀ signum, signum ∈ signals → signum ∈ signalNumbers)
    (number : heeded ∈ signalNumbers)
    (heeds : ignored process heeded = false) :
    dropIgnored process set signals pending &&& Signals.signalBit heeded =
      pending &&& Signals.signalBit heeded := by
  induction signals generalizing pending with
  | nil =>
      rfl
  | cons signum rest inductionHypothesis =>
      have restNumbers :
          ∀ signum, signum ∈ rest → signum ∈ signalNumbers :=
        fun signum inside => numbers signum (List.mem_cons_of_mem _ inside)
      unfold dropIgnored
      split
      · exact inductionHypothesis restNumbers
      · split
        · rename_i ignores
          have other : signum ≠ heeded := by
            rintro rfl
            rw [heeds] at ignores
            cases ignores
          have apart :=
            signalBit_and_signalBit (numbers signum List.mem_cons_self)
              number other
          rw [inductionHypothesis restNumbers, UInt64.and_assoc,
            not_and_of_disjoint apart]
        · rfl

theorem dropIgnored_eq_iff
    {set pending : UInt64}
    {signals : List UInt64}
    (inside :
      ∀ signum,
        set &&& Signals.signalBit signum ≠ 0 →
        pending &&& Signals.signalBit signum ≠ 0) :
    dropIgnored process set signals pending = pending ↔
      ¬ (signals.find? fun signum => set &&& Signals.signalBit signum != 0).any
          (ignored process) := by
  induction signals with
  | nil =>
      simp [dropIgnored]
  | cons signum rest inductionHypothesis =>
      unfold dropIgnored
      by_cases absent : set &&& Signals.signalBit signum = 0
      · rw [if_pos absent, inductionHypothesis,
          List.find?_cons_of_neg (by simp [absent])]
      · rw [if_neg absent, List.find?_cons_of_pos (by simp [absent]),
          Option.any_some]
        cases action : ignored process signum with
        | true =>
            rw [if_pos rfl]
            constructor
            · intro same
              refine absurd ?_ (inside signum absent)
              rw [← same]
              exact dropIgnored_and_eq_zero rest (and_not_and _ _)
            · intro heeds
              exact absurd rfl heeds
        | false =>
            rw [if_neg Bool.false_ne_true]
            exact ⟨fun _ => Bool.false_ne_true, fun _ => rfl⟩

theorem untouched_checked_iff :
    Untouched state (checked state) ↔ ¬ discards state := by
  have drops :=
    @dropIgnored_eq_iff state.process (unblocked state) state.pending
      signalNumbers fun _ among => and_ne_zero_of_and_and among
  constructor
  · intro untouched
    exact drops.mp untouched.pending
  · intro keeps
    exact ⟨rfl, rfl, drops.mpr keeps, rfl, rfl, fun _ => rfl⟩

theorem checked_eq_of_not_discards
    (keeps : ¬ discards state) :
    checked state = state := by
  have same :
      dropIgnored state.process (unblocked state) signalNumbers
        state.pending = state.pending :=
    (untouched_checked_iff.mpr keeps).pending
  unfold checked
  rw [same]

theorem interrupts_checked
    (state : State) :
    interrupts (checked state) = interrupts state := by
  have heededAlike :
      ∀ signum,
        signum ∈ signalNumbers →
        heededIn (checked state) (unblocked (checked state)) signum =
          heededIn state (unblocked state) signum := by
    intro signum number
    cases action : ignored state.process signum with
    | true =>
        unfold ignored at action
        simp [heededIn, checked, action]
    | false =>
        have kept :
            (checked state).pending &&& Signals.signalBit signum =
              state.pending &&& Signals.signalBit signum :=
          dropIgnored_and_of_heeded (fun _ inside => inside) number action
        have alike :
            unblocked (checked state) &&& Signals.signalBit signum =
              unblocked state &&& Signals.signalBit signum := by
          unfold unblocked
          rw [UInt64.and_assoc, UInt64.and_comm (~~~_), ← UInt64.and_assoc,
            kept, UInt64.and_assoc, UInt64.and_comm (Signals.signalBit signum),
            ← UInt64.and_assoc]
          rfl
        unfold heededIn
        rw [alike]
        rfl
  unfold interrupts
  apply Bool.eq_iff_iff.mpr
  rw [List.any_eq_true, List.any_eq_true]
  constructor
  · rintro ⟨signum, number, heeded⟩
    exact ⟨signum, number, heededAlike signum number ▸ heeded⟩
  · rintro ⟨signum, number, heeded⟩
    exact ⟨signum, number, (heededAlike signum number).symm ▸ heeded⟩

theorem dropIgnored_le
    (process : Signals.ProcessState)
    (set pending : UInt64)
    (signals : List UInt64) :
    dropIgnored process set signals pending ≤ pending := by
  induction signals generalizing pending with
  | nil =>
      exact UInt64.le_refl _
  | cons signum rest inductionHypothesis =>
      unfold dropIgnored
      split
      · exact inductionHypothesis pending
      · split
        · have less :
              pending &&& ~~~Signals.signalBit signum ≤ pending := by
            rw [UInt64.le_iff_toNat_le, UInt64.toNat_and]
            exact Nat.and_le_left
          exact UInt64.le_trans (inductionHypothesis _) less
        · exact UInt64.le_refl _

theorem untouched_checked_checked_iff :
    Untouched state (checked (checked state)) ↔ ¬ discards state := by
  constructor
  · intro untouched
    have second : (checked (checked state)).pending ≤ (checked state).pending :=
      dropIgnored_le _ _ _ _
    rw [untouched.pending] at second
    have first : (checked state).pending ≤ state.pending :=
      dropIgnored_le _ _ _ _
    apply untouched_checked_iff.mp
    exact
      ⟨rfl, rfl, UInt64.le_antisymm first second, rfl, rfl, fun _ => rfl⟩
  · intro keeps
    rw [checked_eq_of_not_discards keeps, checked_eq_of_not_discards keeps]
    exact Untouched.refl state

/-! ## Characters -/

/-- What taking characters and signals cannot break. -/
structure KeptByInput (kept : State → Prop) : Prop where
  terminal :
    ∀ state terminal,
      terminal.raw <:+ state.terminal.raw →
      kept state →
      kept { state with terminal := terminal }
  pending :
    ∀ state pending,
      kept state →
      kept { state with pending := pending }

/-- Returns, if at all, and keeps a property. -/
def Takes
    {α : Type}
    (kept : State → Prop)
    (program : Sys α) : Prop :=
  Prog.Ensures kept program (fun _ => kept) fun _ => False

section Input

variable {kept : State → Prop}

theorem takes_pure
    {α : Type}
    (value : α) :
    Takes kept (pure value) :=
  .pure fun _ holds => holds

theorem takes_gets
    {α : Type}
    (view : State → α) :
    Takes kept (Prog.gets view) :=
  .gets fun _ holds => holds

section

variable (byInput : KeptByInput kept)

include byInput

theorem takes_signalPendingUnblocked :
    Takes kept signalPendingUnblocked := by
  intro state holds
  rw [signalPendingUnblocked_eq]
  constructor
  · intro value final returned
    cases returned
    exact byInput.pending state _ holds
  · intro error final failed
    cases failed

theorem takes_modifyTerminal
    {change : Terminal → Terminal}
    (suffix : ∀ terminal, (change terminal).raw <:+ terminal.raw) :
    Takes kept (modifyTerminal change) :=
  .modify fun state holds => byInput.terminal state _ (suffix _) holds

theorem takes_modifyPending
    (change : UInt64 → UInt64) :
    Takes kept
      (Prog.modify fun state =>
        { state with pending := change state.pending }) :=
  .modify fun state holds => byInput.pending state _ holds

theorem takes_popInput :
    Takes kept popInput := by
  apply Prog.Ensures.bind (takes_gets _)
  intro terminal
  split
  · exact takes_pure _
  · apply Prog.Ensures.bind
    · exact takes_modifyTerminal byInput fun _ => List.suffix_refl _
    · exact fun _ => takes_pure _

omit byInput in
theorem raw_flushLine
    (terminal : Terminal) :
    terminal.flushLine.raw = terminal.raw := by
  have pushed :
      ∀ (bytes : List UInt8) (terminal : Terminal),
        (bytes.foldl Terminal.pushInput terminal).raw = terminal.raw := by
    intro bytes
    induction bytes with
    | nil =>
        exact fun _ => rfl
    | cons byte rest inductionHypothesis =>
        intro terminal
        rw [List.foldl_cons, inductionHypothesis]
        unfold Terminal.pushInput
        split <;> rfl
  exact pushed _ terminal

theorem takes_flushLine :
    Takes kept (modifyTerminal Terminal.flushLine >>= fun _ => popInput) := by
  apply Prog.Ensures.bind
  · apply takes_modifyTerminal byInput
    intro terminal
    exact raw_flushLine terminal ▸ List.suffix_refl _
  · exact fun _ => takes_popInput byInput

theorem takes_processInputByte
    (byte : UInt8) :
    Takes kept (processInputByte byte) := by
  apply Prog.Ensures.bind (takes_gets _)
  intro terminal
  split
  · apply Prog.Ensures.bind
    · exact takes_modifyTerminal byInput fun _ => List.suffix_refl _
    · intro _
      apply Prog.Ensures.bind
      · exact takes_modifyPending byInput (· ||| Signals.signalBit _)
      · exact fun _ => takes_pure _
  · apply Prog.Ensures.ite (fun _ => takes_pure _)
    intro _
    apply Prog.Ensures.ite
    · intro _
      apply Prog.Ensures.bind
      · exact takes_modifyTerminal byInput fun _ => List.suffix_refl _
      · exact fun _ => takes_pure _
    · intro _
      apply Prog.Ensures.ite
      · intro _
        exact .ite (fun _ => takes_pure _) fun _ => takes_flushLine byInput
      · intro _
        apply Prog.Ensures.ite (fun _ => takes_flushLine byInput)
        intro _
        apply Prog.Ensures.bind
        · apply takes_modifyTerminal byInput
          intro terminal
          split
          · exact List.suffix_refl _
          · exact List.suffix_refl _
        · exact fun _ => takes_pure _

omit byInput in
theorem pollRawInput_eq
    (state : State) :
    pollRawInput state =
      .ok state.terminal.raw.head?
        { state with
          terminal :=
            { state.terminal with raw := state.terminal.raw.tail } } := by
  unfold pollRawInput
  rw [Prog.gets_bind_apply]
  cases raw : state.terminal.raw with
  | nil =>
      have same : { state.terminal with raw := [] } = state.terminal := by
        rw [← raw]
      rw [List.tail_nil, same]
      rfl
  | cons byte rest =>
      rfl

theorem takes_pollRawInput :
    Takes kept pollRawInput := by
  intro state holds
  rw [pollRawInput_eq]
  constructor
  · intro value final returned
    cases returned
    exact byInput.terminal state _ (List.tail_suffix _) holds
  · intro error final failed
    cases failed

theorem takes_afterRaw
    {again : Sys UInt8}
    (againTakes : Takes kept again)
    (raw : UInt8) :
    Takes kept
      (processInputByte raw >>= fun processed =>
        match processed with
        | some byte => pure byte
        | none =>
            popInput >>= fun flushed =>
              match flushed with
              | some byte => pure byte
              | none => again) := by
  apply Prog.Ensures.bind (takes_processInputByte byInput raw)
  intro processed
  cases processed with
  | some byte =>
      exact takes_pure _
  | none =>
      apply Prog.Ensures.bind (takes_popInput byInput)
      intro flushed
      cases flushed with
      | some byte =>
          exact takes_pure _
      | none =>
          exact againTakes

theorem takes_readByteLoop
    (fuel : Nat) :
    Takes kept (readByteLoop fuel) := by
  induction fuel with
  | zero =>
      exact .hang
  | succ fuel inductionHypothesis =>
      apply Prog.Ensures.bind (takes_signalPendingUnblocked byInput)
      intro interrupted
      apply Prog.Ensures.ite (fun _ => takes_pure _)
      intro _
      apply Prog.Ensures.bind (takes_popInput byInput)
      intro buffered
      cases buffered with
      | some byte =>
          exact takes_pure _
      | none =>
          apply Prog.Ensures.bind (takes_pollRawInput byInput)
          intro raw
          cases raw with
          | none =>
              exact .hang
          | some raw =>
              exact takes_afterRaw byInput inductionHypothesis raw

theorem takes_readByte :
    Takes kept readByte :=
  .bind (takes_gets _) fun _ => takes_readByteLoop byInput _

end

end Input

theorem keptByInput_raw
    (bound : Nat) :
    KeptByInput fun state => state.terminal.raw.length ≤ bound where
  terminal := fun _ _ suffix atMost => suffix.length_le.trans atMost
  pending := fun _ _ atMost => atMost

theorem popInput_eq
    (state : State) :
    popInput state =
      .ok state.terminal.input.head?
        { state with
          terminal :=
            { state.terminal with input := state.terminal.input.tail } } := by
  unfold popInput
  rw [Prog.gets_bind_apply]
  cases input : state.terminal.input with
  | nil =>
      have same : { state.terminal with input := [] } = state.terminal := by
        rw [← input]
      rw [List.tail_nil, same]
      rfl
  | cons byte rest =>
      rfl

theorem readByte_of_interrupts
    (interrupted : interrupts state = true) :
    readByte state = .ok 0 (checked state) := by
  unfold readByte
  rw [Prog.gets_bind_apply]
  unfold readByteLoop
  rw [Prog.bind_of_ok (signalPendingUnblocked_eq state), if_pos interrupted]
  rfl

/-- A character that arrives was taken from the ring or from the devices. -/
theorem terminal_of_readByte
    {state after : State}
    {byte : UInt8}
    (quiet : interrupts state = false)
    (returned : readByte state = .ok byte after) :
    after.terminal ≠ state.terminal := by
  unfold readByte at returned
  rw [Prog.gets_bind_apply] at returned
  unfold readByteLoop at returned
  rw [Prog.bind_of_ok (signalPendingUnblocked_eq state), quiet,
    if_neg Bool.false_ne_true, Prog.bind_of_ok (popInput_eq _)] at returned
  cases input : state.terminal.input with
  | cons buffered rest =>
      have sameInput : (checked state).terminal.input = buffered :: rest :=
        input
      rw [sameInput] at returned
      cases returned
      intro same
      have inputs := congrArg (fun terminal => terminal.input.length) same
      dsimp only at inputs
      rw [input, List.tail_cons, List.length_cons] at inputs
      exact absurd inputs (Nat.ne_of_lt (Nat.lt_succ_self _))
  | nil =>
      have sameInput : (checked state).terminal.input = [] := input
      rw [sameInput, List.head?_nil] at returned
      dsimp only at returned
      rw [Prog.bind_of_ok (pollRawInput_eq _)] at returned
      dsimp only at returned
      cases raw : state.terminal.raw with
      | nil =>
          have sameRaw : (checked state).terminal.raw = [] := raw
          rw [sameRaw, List.head?_nil] at returned
          cases returned
      | cons first rest =>
          have sameRaw : (checked state).terminal.raw = first :: rest := raw
          rw [sameRaw, List.head?_cons, List.tail_cons] at returned
          dsimp only at returned
          have taken : after.terminal.raw.length ≤ rest.length :=
            (takes_afterRaw (keptByInput_raw _)
              (takes_readByteLoop (keptByInput_raw _) _) first _
              (Nat.le_refl rest.length)).1 _ _ returned
          intro same
          rw [same, raw, List.length_cons] at taken
          exact absurd taken (Nat.not_succ_le_self _)

/-! ## The branch for the terminal -/

theorem consumesNothing_again_iff
    {state after : State} :
    ConsumesNothing
        (fun _ =>
          (signalPendingUnblocked >>= fun interrupted =>
            if interrupted then
              Prog.fail .eintr
            else
              pure [])
            after)
        state ↔
      (interrupts after = true → Untouched state (checked after)) := by
  unfold ConsumesNothing
  rw [Prog.bind_of_ok (signalPendingUnblocked_eq after)]
  cases interrupted : interrupts after with
  | true =>
      rw [if_pos rfl]
      constructor
      · intro consumes _
        exact consumes _ _ rfl
      · intro untouched error final failed
        cases failed
        exact untouched rfl
  | false =>
      rw [if_neg Bool.false_ne_true]
      constructor
      · intro _ interrupted
        cases interrupted
      · intro _ error final failed
        cases failed

theorem ttyRead_of_readByte
    {world : World}
    {state after : State}
    {fd : Fd}
    {byte : UInt8}
    (waits : ¬ (fd.flags &&& Syscall.oNonblock ≠ 0 ∧ world.serialReady = false))
    (returned : readByte state = .ok byte after) :
    ttyRead world fd state =
      if byte = 0 then
        (signalPendingUnblocked >>= fun interrupted =>
          if interrupted then
            Prog.fail .eintr
          else
            pure [])
          after
      else if world.copied 0 1 then
        .ok [byte] after
      else
        .err .efault after := by
  unfold ttyRead
  rw [if_neg waits, Prog.bind_of_ok returned]
  split
  · rfl
  · exact copyUserOut_eq world 0 [byte] after

theorem ttyRead_consumesNothing_iff
    (world : World)
    (state : State)
    (fd : Fd) :
    ConsumesNothing (ttyRead world fd) state ↔
      ¬ TerminalTaken world state fd := by
  by_cases waits : fd.flags &&& Syscall.oNonblock ≠ 0 ∧ world.serialReady = false
  · unfold ttyRead
    rw [if_pos waits]
    exact
      consumesNothing_iff_of_clean (.of_readOnly (.fail _))
        fun taken => taken.1 waits
  · unfold TerminalTaken
    cases interrupted : interrupts state with
    | true =>
        have returned := readByte_of_interrupts interrupted
        have again := @consumesNothing_again_iff state (checked state)
        unfold ConsumesNothing at again ⊢
        rw [ttyRead_of_readByte waits returned, if_pos rfl, again,
          interrupts_checked, untouched_checked_checked_iff]
        constructor
        · intro keeps taken
          rcases taken.2 with ⟨_, drops⟩ | ⟨quiet, _⟩
          · exact keeps interrupted drops
          · cases quiet
        · intro notTaken _ drops
          exact notTaken ⟨waits, Or.inl ⟨rfl, drops⟩⟩
    | false =>
        constructor
        · rintro consumes ⟨_, ⟨loud, _⟩ | ⟨_, byte, after, returned, uncopied, signalled⟩⟩
          · cases loud
          · have moved := terminal_of_readByte interrupted returned
            unfold ConsumesNothing at consumes
            rw [ttyRead_of_readByte waits returned] at consumes
            by_cases zero : byte = 0
            · rw [if_pos zero] at consumes
              have untouched :=
                consumesNothing_again_iff.mp consumes (signalled zero)
              exact moved untouched.terminal
            · rw [if_neg zero, uncopied zero, if_neg Bool.false_ne_true]
                at consumes
              exact moved (consumes _ _ rfl).terminal
        · intro notTaken error final failed
          refine absurd ⟨waits, Or.inr ⟨rfl, ?_⟩⟩ notTaken
          cases result : readByte state with
          | hang =>
              unfold ttyRead at failed
              rw [if_neg waits, Prog.bind_of_hang result] at failed
              cases failed
          | err error after =>
              exact
                ((takes_readByte (keptByInput_raw _) state
                  (Nat.le_refl _)).2 _ _ result).elim
          | ok byte after =>
              rw [ttyRead_of_readByte waits result] at failed
              refine ⟨byte, after, rfl, ?_, ?_⟩
              · intro notZero
                rw [if_neg notZero] at failed
                cases copied : world.copied 0 1 with
                | false =>
                    rfl
                | true =>
                    rw [copied, if_pos rfl] at failed
                    cases failed
              · intro zero
                rw [if_pos zero,
                  Prog.bind_of_ok (signalPendingUnblocked_eq after)] at failed
                cases signalled : interrupts after with
                | true =>
                    rfl
                | false =>
                    rw [signalled, if_neg Bool.false_ne_true] at failed
                    cases failed

/-! ## Reads of every kind -/

theorem takenFirst_iff
    {world : World}
    {fdNumber : Int}
    {count : Nat}
    (inside : ¬ (fdNumber < 0 ∨ fdNumber ≥ Syscall.fileFdMax))
    (something : count ≠ 0)
    (used : (state.fds fdNumber.toNat).used = true)
    (readable : fdReadable (state.fds fdNumber.toNat) = true) :
    TakenFirst world state fdNumber count ↔
      KindTaken world state (state.fds fdNumber.toNat) count := by
  rw [not_or, Int.not_lt, Int.not_le] at inside
  constructor
  · intro taken
    exact taken.2.2.2.2.2
  · intro taken
    exact ⟨inside.1, inside.2, something, used, readable, taken⟩

/-- Which reads of descriptors of any kind consume nothing when they fail. -/
theorem consumesNothing_readFd_iff
    (world : World)
    (state : State)
    (fdNumber : Int)
    (count : Nat) :
    ConsumesNothing (readFd world fdNumber count) state ↔
      ¬ TakenFirst world state fdNumber count := by
  unfold readFd
  by_cases outside : fdNumber < 0 ∨ fdNumber ≥ Syscall.fileFdMax
  · rw [if_pos outside]
    refine consumesNothing_iff_of_clean (.of_readOnly (.fail _)) ?_
    rintro ⟨nonnegative, inTable, _⟩
    omega
  · rw [if_neg outside]
    by_cases nothing : count = 0
    · rw [if_pos nothing]
      exact
        consumesNothing_iff_of_clean (.of_readOnly (.pure _))
          fun taken => taken.2.2.1 nothing
    · rw [if_neg nothing]
      unfold ConsumesNothing
      cases used : (state.fds fdNumber.toNat).used with
      | false =>
          have closed : ¬ OpenFd state.fds fdNumber := by
            rintro ⟨_, _, open_⟩
            rw [used] at open_
            cases open_
          rw [Prog.bind_of_err (fdSnapshot_of_not_open closed)]
          constructor
          · rintro _ ⟨_, _, _, open_, _⟩
            rw [used] at open_
            cases open_
          · intro _ error final failed
            cases failed
            exact Untouched.refl state
      | true =>
          have open_ : OpenFd state.fds fdNumber := by
            rw [not_or, Int.not_lt, Int.not_le] at outside
            exact ⟨outside.1, outside.2, used⟩
          rw [Prog.bind_of_ok (fdSnapshot_of_open open_)]
          change ConsumesNothing _ state ↔ _
          cases readable : fdReadable (state.fds fdNumber.toNat) with
          | false =>
              rw [if_pos rfl]
              refine consumesNothing_iff_of_clean (.of_readOnly (.fail _)) ?_
              rintro ⟨_, _, _, _, reads, _⟩
              rw [readable] at reads
              cases reads
          | true =>
              rw [if_neg Bool.false_ne_true.symm,
                takenFirst_iff outside nothing used readable]
              unfold KindTaken readKind
              cases (state.fds fdNumber.toNat).kind with
              | eventFd =>
                  exact eventFdRead_consumesNothing_iff _ _ _ _
              | timerFd =>
                  exact timerFdRead_consumesNothing_iff _ _ _ _
              | signalFd =>
                  exact signalFdRead_consumesNothing_iff _ _ _ _
              | tty =>
                  exact ttyRead_consumesNothing_iff _ _ _
              | pipeRead =>
                  exact
                    consumesNothing_iff_of_clean
                      (failsClean_pipeReadFd _ _ _) id
              | socket =>
                  exact
                    consumesNothing_iff_of_clean
                      (failsClean_socketReadFd _ _ _) id
              | ramFile =>
                  exact
                    consumesNothing_iff_of_clean
                      (failsClean_ramFileRead _ _ _) id
              | zero =>
                  exact
                    consumesNothing_iff_of_clean
                      (.of_readOnly
                        (.bind (readOnly_copyUserOut _ _ _) fun _ => .pure _))
                      id
              | null =>
                  exact
                    consumesNothing_iff_of_clean (.of_readOnly (.pure _)) id
              | binary =>
                  exact
                    consumesNothing_iff_of_clean
                      (failsClean_fixedRead _ _ _ _ _) id
              | text =>
                  exact
                    consumesNothing_iff_of_clean
                      (failsClean_fixedRead _ _ _ _ _) id
              | block =>
                  exact
                    consumesNothing_iff_of_clean
                      (failsClean_blockRead _ _ _ _) id
              | none | pipeWrite | epoll | inotify =>
                  exact
                    consumesNothing_iff_of_clean (.of_readOnly (.fail _)) id

/--
When a read fails, everything it could have consumed is as it was, except that a
read which takes an item first and fails afterwards has lost it.
-/
theorem failed_read_consumesNothing_iff
    (world : World)
    (state : State)
    (fdNumber : Int)
    (count : Nat) :
    ConsumesNothing (readFd world fdNumber count) state ↔
      ¬ TakenFirst world state fdNumber count :=
  consumesNothing_readFd_iff world state fdNumber count

/-- Descriptor 3 is an event counter that stands at 5. -/
def countedState : State :=
  (State.new.setFd 3
      { Fd.empty with used := true, kind := .eventFd, path := [0] }).setEventFd
    0 { used := true, counter := 5, semaphore := false }

/-- A read of four bytes is refused, and the counter is zero. -/
theorem counter_lost :
    ¬ ConsumesNothing (readFd World.idle 3 4) countedState := by
  intro consumes
  have untouched :=
    consumes .einval
      (countedState.setEventFd 0
        { used := true, counter := 0, semaphore := false }) rfl
  have counters :=
    congrArg (fun events => (events 0).counter) untouched.eventFds
  exact absurd counters (by decide)

end VibuxOS.Files
