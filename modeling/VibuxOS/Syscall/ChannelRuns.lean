import VibuxOS.Syscall.ChannelMoves

namespace VibuxOS.Syscall

open VibuxOS.Lib

/-!
# Pipe buffers over whole runs

`pipe` takes the first slot that no pipe end of the running process names.  It
looks neither at socket pairs nor at the descriptors of a suspended parent.  In
runs in which the slot it takes is nobody's, every slot belongs to one channel,
and every pipe holds what was written to it and not yet read.
-/

/-- The slot that a call of `pipe` takes is not used by any channel. -/
def Untaken (flags : UInt64) (state : State) : Prop :=
  PipeFlags flags →
  ∀ id,
    state.pipeSlot = some id →
    ∀ channel, ¬ state.Uses id channel

variable {before after : State}

/-! ## Pipes -/

theorem IsPipeEnd.carries
    {id made : Nat}
    {fd : Fd}
    (isEnd : IsPipeEnd id made fd)
    {state : State}
    {slot : Nat}
    {channel : Channel}
    (carries : fd.Carries state slot channel) :
    slot = id ∧ channel = .pipe made := by
  cases carries with
  | pipe _ _ isSlot =>
      exact ⟨isSlot.symm.trans isEnd.path, by rw [isEnd.made]⟩
  | socket isSocket _ _ =>
      rcases isEnd.kind with isRead | isWrite
      · rw [isRead] at isSocket
        cases isSocket
      · rw [isWrite] at isSocket
        cases isSocket

/-- A call of `pipe` that takes nobody's slot only adds a channel. -/
theorem Piped.allocates
    {flags : UInt64}
    (piped : Piped flags before after)
    (owned : Owned before)
    (untaken : Untaken flags before) :
    ∃ added, Allocates before after added := by
  cases piped with
  | unchanged =>
      exact ⟨_, .ofDerived owned rfl rfl rfl rfl (Extends.refl _)
        owned.ring (fun _ => rfl) fun _ => rfl⟩
  | @undone id fds valid isSlot derived =>
      have elsewhere :
          ∀ {slot channel}, before.Uses slot channel → slot ≠ id := by
        rintro slot channel inUse rfl
        exact untaken valid slot isSlot channel inUse
      refine ⟨_, .ofDerived owned rfl rfl rfl rfl derived ?_ ?_
        fun _ => rfl⟩
      · intro slot
        by_cases same : slot = id
        · subst slot
          simp only [Function.update_self]
          exact PipeBuffer.wellFormed_empty
        · simp only [Function.update_of_ne same]
          exact owned.ring slot
      · intro slot channel inUse
        exact Function.update_of_ne (elsewhere inUse) _ _
  | @created id fds valid isSlot extended =>
      have elsewhere :
          ∀ {slot channel}, before.Uses slot channel → slot ≠ id := by
        rintro slot channel inUse rfl
        exact untaken valid slot isSlot channel inUse
      refine ⟨fun slot channel =>
          slot = id ∧ channel = .pipe before.made,
        .ofExtends owned rfl rfl rfl (Nat.le_succ _) extended ?_ ?_
          (fun _ => rfl) ?_ ?_ ?_ ?_ ?_⟩
      · intro slot
        by_cases same : slot = id
        · subst slot
          simp only [Function.update_self]
          exact PipeBuffer.wellFormed_fresh
        · simp only [Function.update_of_ne same]
          exact owned.ring slot
      · intro slot channel inUse
        exact Function.update_of_ne (elsewhere inUse) _ _
      · intro fd isEnd isSocket
        rcases isEnd.kind with isRead | isWrite
        · rw [isRead] at isSocket
          cases isSocket
        · rw [isWrite] at isSocket
          cases isSocket
      · intro fd slot channel isEnd carries
        exact isEnd.carries carries
      · rintro slot channel ⟨rfl, rfl⟩
        exact ⟨rfl, Nat.lt_succ_self _, pipeSlot_lt isSlot,
          Function.update_self _ _ _,
          fun other inUse => elsewhere inUse rfl⟩
      · rintro slot first second ⟨_, rfl⟩ ⟨_, rfl⟩
        rfl
      · rintro slot other made ⟨rfl, _⟩ ⟨rfl, _⟩
        rfl

/-! ## Socket pairs -/

/-- The two directions of a new socket pair. -/
inductive Direction
    (made aToB bToA slot : Nat) : Channel → Prop where
  | forth :
      slot = aToB →
      Direction made aToB bToA slot (.socket made true)
  | back :
      slot = bToA →
      Direction made aToB bToA slot (.socket made false)

theorem IsSocketEnd.carries
    {pair made aToB bToA : Nat}
    {fd : Fd}
    (isEnd : IsSocketEnd pair made fd)
    {state : State}
    (aInside : aToB < pipeMax)
    (bInside : bToA < pipeMax)
    (isPair :
      state.socketPairs pair =
        ⟨true, UInt8.ofNat aToB, UInt8.ofNat bToA⟩)
    {slot : Nat}
    {channel : Channel}
    (carries : fd.Carries state slot channel) :
    Direction made aToB bToA slot channel := by
  cases carries with
  | pipe isPipe _ _ =>
      rw [isEnd.kind] at isPipe
      rcases isPipe with isRead | isWrite
      · cases isRead
      · cases isWrite
  | @socket write _ _ isSlot =>
      rw [isEnd.path] at isSlot
      unfold State.socketPipeFor at isSlot
      rw [isPair, toNat_ofNat_slot aInside, toNat_ofNat_slot bInside]
        at isSlot
      rw [isEnd.made]
      split at isSlot
      case isTrue =>
        cases isSlot
      case isFalse =>
        by_cases isFirst : fd.path 1 = 0
        · rw [if_pos isFirst] at isSlot
          rw [decide_eq_true isFirst]
          cases write with
          | true => exact .forth (Option.some.inj isSlot).symm
          | false => exact .back (Option.some.inj isSlot).symm
        · rw [if_neg isFirst] at isSlot
          rw [decide_eq_false isFirst]
          cases write with
          | true => exact .back (Option.some.inj isSlot).symm
          | false => exact .forth (Option.some.inj isSlot).symm

theorem Socketed.allocates
    (socketed : Socketed before after)
    (owned : Owned before) :
    ∃ added, Allocates before after added := by
  cases socketed with
  | leaked spared =>
      exact ⟨_, .ofDerived owned rfl rfl rfl rfl (Extends.refl _)
        (spared.wellFormed owned.ring)
        (fun inUse => spared.of_used (owned.used inUse).2) fun _ => rfl⟩
  | @undone buffers fds pair spared derived unused =>
      refine ⟨_, .ofDerived owned rfl rfl rfl rfl derived
        (spared.wellFormed owned.ring)
        (fun inUse => spared.of_used (owned.used inUse).2) ?_⟩
      intro index used
      refine Function.update_of_ne ?_ _ _
      rintro rfl
      rw [unused] at used
      cases used
  | @created fds pair aToB bToA _ unused aInside aUnused bInside bUnused
      different extended =>
      have notUnused :
          ∀ {slot channel},
            before.Uses slot channel →
            slot ≠ aToB ∧ slot ≠ bToA := by
        intro slot channel inUse
        have used := (owned.used inUse).2
        constructor
        · rintro rfl
          rw [aUnused] at used
          cases used
        · rintro rfl
          rw [bUnused] at used
          cases used
      have spared :
          Spared before.pipeBuffers
            (Function.update
              (Function.update before.pipeBuffers aToB PipeBuffer.fresh)
              bToA PipeBuffer.fresh) :=
        ((Spared.refl _).update aUnused (Or.inr rfl)).update bUnused
          (Or.inr rfl)
      refine ⟨Direction before.made aToB bToA,
        .ofExtends owned rfl rfl rfl (Nat.le_succ _) extended
          (spared.wellFormed owned.ring)
          (fun inUse => spared.of_used (owned.used inUse).2)
          ?_ ?_ ?_ ?_ ?_ ?_⟩
      · intro index used
        refine Function.update_of_ne ?_ _ _
        rintro rfl
        rw [unused] at used
        cases used
      · intro fd isEnd _
        rw [isEnd.path]
        simp only [Function.update_self]
      · intro fd slot channel isEnd carries
        exact isEnd.carries aInside bInside (Function.update_self _ _ _)
          carries
      · intro slot channel direction
        cases direction with
        | forth atA =>
            subst slot
            refine ⟨rfl, Nat.lt_succ_self _, aInside, ?_, ?_⟩
            · simp only [Function.update_of_ne different,
                Function.update_self]
            · intro other inUse
              exact (notUnused inUse).1 rfl
        | back atB =>
            subst slot
            refine ⟨rfl, Nat.lt_succ_self _, bInside,
              Function.update_self _ _ _, ?_⟩
            intro other inUse
            exact (notUnused inUse).2 rfl
      · intro slot first second firstDirection secondDirection
        cases firstDirection with
        | forth firstAt =>
            cases secondDirection with
            | forth _ => rfl
            | back secondAt =>
                exact (different (firstAt.symm.trans secondAt)).elim
        | back firstAt =>
            cases secondDirection with
            | forth secondAt =>
                exact (different (secondAt.symm.trans firstAt)).elim
            | back _ => rfl
      · intro slot other made direction
        cases direction

/-! ## Moving bytes -/

theorem State.uses_congr
    (fds : after.fds = before.fds)
    (parent : after.parent = before.parent)
    (pairs : after.socketPairs = before.socketPairs)
    {slot : Nat}
    {channel : Channel}
    (inUse : after.Uses slot channel) :
    before.Uses slot channel := by
  obtain ⟨fd, holds, carries⟩ := inUse
  refine ⟨fd, ?_, State.carries_congr (fun _ => by rw [pairs]) carries⟩
  unfold State.Holds at holds ⊢
  rwa [fds, parent] at holds

/-- Changing one buffer and the logs of its pipe keeps what the tables keep. -/
theorem Owned.move
    (owned : Owned before)
    {slot : Nat}
    {pipe : PipeBuffer}
    {accepted delivered : Nat → List UInt8}
    (wellFormed : pipe.WellFormed)
    (used : pipe.used = (before.pipeBuffers slot).used)
    (elsewhere :
      ∀ {made},
        ¬ before.Uses slot (.pipe made) →
        accepted made = before.accepted made ∧
          delivered made = before.delivered made)
    (law :
      ∀ {made},
        before.Uses slot (.pipe made) →
        accepted made = delivered made ++ pipe.contents) :
    Owned
      { before with
        pipeBuffers := Function.update before.pipeBuffers slot pipe
        accepted := accepted
        delivered := delivered } := by
  generalize afterIs :
    ({ before with
       pipeBuffers := Function.update before.pipeBuffers slot pipe
       accepted := accepted
       delivered := delivered } : State) =
      after
  have uses :
      ∀ {other channel},
        after.Uses other channel → before.Uses other channel := by
    exact @State.uses_congr before after (by rw [← afterIs])
      (by rw [← afterIs]) (by rw [← afterIs])
  subst after
  refine {
    ring := ?_
    paired := owned.paired
    used := ?_
    recent := fun inUse => owned.recent (uses inUse)
    exclusive := fun first second =>
      owned.exclusive (uses first) (uses second)
    single := fun first second => owned.single (uses first) (uses second)
    intact := ?_
    fresh := ?_
  }
  · intro other
    by_cases same : other = slot
    · subst other
      simp only [Function.update_self]
      exact wellFormed
    · simp only [Function.update_of_ne same]
      exact owned.ring other
  · intro other channel inUse
    have already := owned.used (uses inUse)
    by_cases same : other = slot
    · subst other
      simp only [Function.update_self]
      exact ⟨already.1, used.trans already.2⟩
    · simp only [Function.update_of_ne same]
      exact already
  · intro other made inUse
    by_cases same : other = slot
    · subst other
      simp only [Function.update_self]
      exact law (uses inUse)
    · have notHere : ¬ before.Uses slot (.pipe made) := by
        intro here
        exact same (owned.single (uses inUse) here)
      obtain ⟨sameAccepted, sameDelivered⟩ := elsewhere notHere
      simp only [Function.update_of_ne same]
      rw [sameAccepted, sameDelivered]
      exact owned.intact (uses inUse)
  · intro made later
    have notHere : ¬ before.Uses slot (.pipe made) := by
      intro here
      exact Nat.not_lt.mpr later (owned.recent here)
    obtain ⟨sameAccepted, sameDelivered⟩ := elsewhere notHere
    dsimp only
    rw [sameAccepted, sameDelivered]
    exact owned.fresh later

theorem Owned.not_pipe
    (owned : Owned before)
    {slot made other : Nat}
    {aToB : Bool}
    (inUse : before.Uses slot (.socket made aToB)) :
    ¬ before.Uses slot (.pipe other) := by
  intro otherUse
  cases owned.exclusive inUse otherUse

/-- Reading and writing keeps what the tables keep. -/
theorem Moved.owned
    (moved : Moved before after)
    (owned : Owned before) :
    Owned after := by
  cases moved with
  | unchanged =>
      exact owned
  | @pipeRead fd slot amount opens carries enough =>
      have inUse : before.Uses slot (.pipe fd.made) :=
        ⟨fd, Or.inl opens, carries⟩
      have wellFormed := owned.ring slot
      refine owned.move (wellFormed.take enough) rfl ?_ ?_
      · intro made notHere
        refine ⟨rfl, Function.update_of_ne ?_ _ _⟩
        rintro rfl
        exact notHere inUse
      · intro made here
        cases owned.exclusive inUse here
        simp only [State.takePipe, State.setPipe, Function.update_self]
        rw [List.append_assoc, ← wellFormed.contents_take enough]
        exact owned.intact inUse
  | @pipeWrite fd slot amount source opens carries fits =>
      have inUse : before.Uses slot (.pipe fd.made) :=
        ⟨fd, Or.inl opens, carries⟩
      have wellFormed := owned.ring slot
      have room :
          (before.pipeBuffers slot).len + amount ≤ pipeCapacity := by
        have upper := wellFormed.len
        omega
      refine owned.move (wellFormed.put room source) rfl ?_ ?_
      · intro made notHere
        refine ⟨Function.update_of_ne ?_ _ _, rfl⟩
        rintro rfl
        exact notHere inUse
      · intro made here
        cases owned.exclusive inUse here
        simp only [State.putPipe, State.setPipe, Function.update_self]
        rw [wellFormed.contents_put room, ← List.append_assoc,
          owned.intact inUse]
  | @socketRead fd slot amount made aToB opens carries enough =>
      have inUse : before.Uses slot (.socket made aToB) :=
        ⟨fd, Or.inl opens, carries⟩
      exact owned.move ((owned.ring slot).take enough) rfl
        (fun _ => ⟨rfl, rfl⟩)
        fun here => (owned.not_pipe inUse here).elim
  | @socketWrite fd slot amount made aToB source opens carries fits =>
      have inUse : before.Uses slot (.socket made aToB) :=
        ⟨fd, Or.inl opens, carries⟩
      have wellFormed := owned.ring slot
      have room :
          (before.pipeBuffers slot).len + amount ≤ pipeCapacity := by
        have upper := wellFormed.len
        omega
      exact owned.move (wellFormed.put room source) rfl
        (fun _ => ⟨rfl, rfl⟩)
        fun here => (owned.not_pipe inUse here).elim

/-! ## Children -/

theorem Owned.family
    (owned : Owned before)
    {fds : Nat → Fd}
    {parent : Option (Nat → Fd)}
    (held :
      ∀ {fd},
        ({ before with fds := fds, parent := parent } : State).Holds fd →
        before.Holds fd) :
    Owned { before with fds := fds, parent := parent } := by
  have allocation :
      Allocates before { before with fds := fds, parent := parent }
        fun _ _ => False := by
    refine {
      accepted := rfl
      delivered := rfl
      grown := Nat.le_refl _
      ring := owned.ring
      paired := fun holds => owned.paired (held holds)
      frame := fun _ => rfl
      uses := ?_
      new := False.elim
      unique := fun impossible => impossible.elim
      single := fun impossible => impossible.elim
    }
    rintro slot channel ⟨fd, holds, carries⟩
    refine Or.inl ⟨fd, held holds, State.carries_congr ?_ carries⟩
    intro _
    rfl
  exact allocation.owned owned

/-- Starting or ending a child keeps what the tables keep. -/
theorem owned_of_family
    {call : Call}
    (isFamily : call.family = true)
    (owned : Owned before)
    (step : Step before call after) :
    Owned after := by
  have suspended :
      Owned { before with fds := before.fds, parent := some before.fds } := by
    refine owned.family ?_
    rintro fd (running | ⟨fds, isParent, opens⟩)
    · exact Or.inl running
    · cases isParent
      exact Or.inl opens
  cases call with
  | fork cloned =>
      simp only [Step, Call.run, doFork, Prog.gets_bind_apply] at step
      cases parent : before.parent with
      | some fds =>
          rw [parent] at step
          cases step
          exact owned
      | none =>
          rw [parent] at step
          cases cloned with
          | true =>
              cases step
              exact suspended
          | false =>
              cases step
              exact owned
  | vfork =>
      simp only [Step, Call.run, doVfork, Prog.gets_bind_apply] at step
      cases parent : before.parent with
      | some fds =>
          rw [parent] at step
          cases step
          exact owned
      | none =>
          rw [parent] at step
          cases step
          exact suspended
  | exit =>
      simp only [Step, Call.run, vforkChildExit, Prog.gets_bind_apply]
        at step
      cases parent : before.parent with
      | none =>
          rw [parent] at step
          cases step
      | some fds =>
          rw [parent] at step
          cases step
          refine owned.family ?_
          rintro fd (running | ⟨_, isParent, _⟩)
          · exact Or.inr ⟨fds, parent, running⟩
          · cases isParent
  | pipe | socketpair | dup | dup2 | dup3 | fcntl | close | closeRange
  | read | write =>
      cases isFamily

/-! ## Runs -/

/--
A call of `pipe` takes a slot that no channel of the running process or of its
suspended parent uses.
-/
def untaken (state : State) : Call → Prop
  | .pipe _ flags => Untaken flags state
  | _ => True

/--
No child is started, and a call of `pipe` takes a slot that no socket pair with
an open end uses.
-/
def apart (state : State) : Call → Prop
  | .pipe _ flags =>
      PipeFlags flags →
      ∀ id,
        state.pipeSlot = some id →
        ∀ made aToB, ¬ state.Uses id (.socket made aToB)
  | call => call.family = false

def anyCall (_ : State) (_ : Call) : Prop :=
  True

/-- Any call but those that start or end a child. -/
def childless (_ : State) (call : Call) : Prop :=
  call.family = false

theorem keepsChannels_of_step
    {call : Call}
    (owned : Owned before)
    (allowed : untaken before call)
    (allocates : call.allocates = true)
    (step : Step before call after) :
    Owned after ∧ KeepsChannels before after := by
  cases call with
  | pipe copied flags =>
      obtain ⟨added, allocation⟩ :=
        (piped_of_step step).allocates owned allowed
      exact ⟨allocation.owned owned, allocation.keepsChannels owned⟩
  | socketpair domain address copied flags =>
      obtain ⟨added, allocation⟩ :=
        (socketed_of_step step).allocates owned
      exact ⟨allocation.owned owned, allocation.keepsChannels owned⟩
  | dup | dup2 | dup3 | fcntl | close | closeRange | read | write | fork
  | vfork | exit =>
      cases allocates

theorem Retabled.owned
    (retabled : Retabled before after)
    (owned : Owned before) :
    Owned after := by
  obtain ⟨fds, derived, rfl⟩ := retabled
  have allocation :
      Allocates before { before with fds := fds } fun _ _ => False :=
    .ofDerived owned rfl rfl rfl rfl derived owned.ring (fun _ => rfl)
      fun _ => rfl
  exact allocation.owned owned

/-- A call keeps what the tables keep. -/
theorem Owned.step
    {call : Call}
    (owned : Owned before)
    (allowed : untaken before call)
    (step : Step before call after) :
    Owned after := by
  cases call with
  | pipe copied flags =>
      exact (keepsChannels_of_step owned allowed rfl step).1
  | socketpair domain address copied flags =>
      exact (keepsChannels_of_step owned allowed rfl step).1
  | dup fd =>
      exact (retables_fdDuplicate.final step).owned owned
  | dup2 oldFd newFd =>
      exact (retables_fdDuplicateExact.final step).owned owned
  | dup3 oldFd newFd flags =>
      exact (retables_fdDuplicateExact.final step).owned owned
  | fcntl fd minFd cloexec =>
      exact (retables_fcntlDuplicate.final step).owned owned
  | close fd =>
      exact (retables_close.final step).owned owned
  | closeRange first last flags =>
      exact (retables_closeRangeImpl.final step).owned owned
  | read fd count copied device =>
      exact (moves_readFd.final step).owned owned
  | write fd count source copied device =>
      exact (moves_writeFd.final step).owned owned
  | fork cloned =>
      exact owned_of_family rfl owned step
  | vfork =>
      exact owned_of_family rfl owned step
  | exit =>
      exact owned_of_family rfl owned step

theorem kind_of_opens_initial
    {fd : Fd}
    (opens : Opens initialFd fd) :
    fd.kind = .tty := by
  obtain ⟨index, _, isFd, used⟩ := opens
  unfold initialFd at isFd
  split at isFd
  case isTrue =>
    subst fd
    rfl
  case isFalse =>
    subst fd
    cases used

theorem not_uses_initial
    (slot : Nat)
    (channel : Channel) :
    ¬ State.initial.Uses slot channel := by
  rintro ⟨fd, opens | ⟨_, isParent, _⟩, carries⟩
  · have isTty := kind_of_opens_initial opens
    cases carries with
    | pipe isPipe _ _ =>
        rw [isTty] at isPipe
        rcases isPipe with isRead | isWrite
        · cases isRead
        · cases isWrite
    | socket isSocket _ _ =>
        rw [isTty] at isSocket
        cases isSocket
  · cases isParent

theorem Owned.initial : Owned State.initial where
  ring := fun _ => PipeBuffer.wellFormed_empty
  paired := by
    rintro fd (opens | ⟨_, isParent, _⟩) isSocket
    · rw [kind_of_opens_initial opens] at isSocket
      cases isSocket
    · cases isParent
  used := fun inUse => (not_uses_initial _ _ inUse).elim
  recent := fun inUse => (not_uses_initial _ _ inUse).elim
  exclusive := fun inUse => (not_uses_initial _ _ inUse).elim
  single := fun inUse => (not_uses_initial _ _ inUse).elim
  intact := fun inUse => (not_uses_initial _ _ inUse).elim
  fresh := fun _ => ⟨rfl, rfl⟩

theorem owned_of_run
    {state : State}
    (run : Run untaken State.initial state) :
    Owned state := by
  refine invariant_of_run Owned ?_ run Owned.initial
  rintro earlier later ⟨call, allowed, step⟩ owned
  exact owned.step allowed step

end VibuxOS.Syscall
