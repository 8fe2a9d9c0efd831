import VibuxOS.Syscall.Pipes

namespace VibuxOS.Syscall

open VibuxOS.Lib

/-!
# Who uses which pipe buffer

Pipes name their buffer in the path of their descriptors, socket pairs in
`SOCKET_PAIRS`.  `Uses` puts both into one relation between slots and channels,
over the descriptors of the running process and of its suspended parent.  The
invariant `Owned` is stated over that relation.
-/

variable
  {amount : Nat}
  {fd : Fd}

/-- A pipe, or one direction of a socket pair. -/
inductive Channel where
  | pipe (made : Nat)
  | socket (made : Nat) (aToB : Bool)
  deriving DecidableEq

/-- The serial number of a channel. -/
def Channel.made : Channel → Nat
  | .pipe made => made
  | .socket made _ => made

/-- The descriptor can read or write a slot, as an end of a channel. -/
inductive Fd.Carries
    (state : State)
    (fd : Fd)
    (slot : Nat) : Channel → Prop where
  | pipe :
      fd.kind = .pipeRead ∨ fd.kind = .pipeWrite →
      fd.pathLen = 1 →
      (fd.path 0).toNat = slot →
      fd.Carries state slot (.pipe fd.made)
  | socket
      {write : Bool} :
      fd.kind = .socket →
      fd.pathLen = 2 →
      state.socketPipeFor (fd.path 0).toNat (fd.path 1) write =
        some slot →
      fd.Carries state slot
        (.socket fd.made (decide (fd.path 1 = 0) == write))

/-- An open descriptor of a table. -/
def Opens (fds : Nat → Fd) (fd : Fd) : Prop :=
  ∃ index, index < fileFdMax ∧ fds index = fd ∧ fd.used = true

namespace State

/-- An open descriptor of the running process or of its suspended parent. -/
def Holds (state : State) (fd : Fd) : Prop :=
  Opens state.fds fd ∨
    ∃ fds, state.parent = some fds ∧ Opens fds fd

/-- A channel with an open descriptor has a slot. -/
def Uses
    (state : State)
    (slot : Nat)
    (channel : Channel) : Prop :=
  ∃ fd, state.Holds fd ∧ fd.Carries state slot channel

end State

namespace PipeBuffer

/-- The positions and the length of a buffer belong together. -/
structure WellFormed (pipe : PipeBuffer) : Prop where
  readPos : pipe.readPos < pipeCapacity
  len : pipe.len ≤ pipeCapacity
  writePos :
    pipe.writePos = (pipe.readPos + pipe.len) % pipeCapacity

/-- The bytes in a buffer, in the order in which they are read. -/
def contents (pipe : PipeBuffer) : List UInt8 :=
  ringContents pipeCapacity pipe.data pipe.readPos pipe.len

theorem wellFormed_empty : PipeBuffer.empty.WellFormed where
  readPos := (by decide : 0 < pipeCapacity)
  len := Nat.zero_le _
  writePos := rfl

theorem wellFormed_fresh : PipeBuffer.fresh.WellFormed where
  readPos := wellFormed_empty.readPos
  len := wellFormed_empty.len
  writePos := wellFormed_empty.writePos

namespace WellFormed

variable {pipe : PipeBuffer}

section

variable (wellFormed : pipe.WellFormed)

include wellFormed

theorem peek
    (enough : amount ≤ pipe.len) :
    pipe.peek amount = pipe.contents.take amount :=
  ringRead_eq_take wellFormed.readPos wellFormed.len enough

theorem contents_take
    (enough : amount ≤ pipe.len) :
    pipe.contents = pipe.peek amount ++ (pipe.take amount).contents := by
  have rest :
      (pipe.take amount).contents = pipe.contents.drop amount :=
    ringContents_drop
  rw [wellFormed.peek enough, rest, List.take_append_drop]

theorem take
    (enough : amount ≤ pipe.len) :
    (pipe.take amount).WellFormed where
  readPos := Nat.mod_lt _ (by decide)
  len := by
    have upper := wellFormed.len
    simp only [PipeBuffer.take]
    omega
  writePos := by
    simp only [PipeBuffer.take, Nat.mod_add_mod, wellFormed.writePos]
    congr 1
    omega

theorem contents_put
    (fits : pipe.len + amount ≤ pipeCapacity)
    (source : Nat → UInt8) :
    (pipe.put source amount).contents =
      pipe.contents ++ (List.range amount).map source := by
  simp only [contents, PipeBuffer.put, wellFormed.writePos]
  exact ringContents_write wellFormed.readPos fits source

theorem put
    (fits : pipe.len + amount ≤ pipeCapacity)
    (source : Nat → UInt8) :
    (pipe.put source amount).WellFormed where
  readPos := wellFormed.readPos
  len := fits
  writePos := by
    simp only [PipeBuffer.put, wellFormed.writePos, Nat.mod_add_mod,
      Nat.add_assoc]

end

end WellFormed

end PipeBuffer

/-! ## The invariant -/

/-- What the tables keep. -/
structure Owned (state : State) : Prop where
  ring : ∀ slot, (state.pipeBuffers slot).WellFormed
  paired :
    ∀ {fd},
      state.Holds fd →
      fd.kind = .socket →
      (state.socketPairs (fd.path 0).toNat).used = true
  used :
    ∀ {slot channel},
      state.Uses slot channel →
      slot < pipeMax ∧ (state.pipeBuffers slot).used = true
  recent :
    ∀ {slot channel},
      state.Uses slot channel →
      channel.made < state.made
  exclusive :
    ∀ {slot first second},
      state.Uses slot first →
      state.Uses slot second →
      first = second
  single :
    ∀ {slot other made},
      state.Uses slot (.pipe made) →
      state.Uses other (.pipe made) →
      slot = other
  intact :
    ∀ {slot made},
      state.Uses slot (.pipe made) →
      state.accepted made =
        state.delivered made ++ (state.pipeBuffers slot).contents
  fresh :
    ∀ {made},
      state.made ≤ made →
      state.accepted made = [] ∧ state.delivered made = []

/--
A step that leaves the buffers in use and the logs alone, and gives new channels
fresh buffers that no channel used.
-/
structure Allocates
    (before after : State)
    (added : Nat → Channel → Prop) : Prop where
  accepted : after.accepted = before.accepted
  delivered : after.delivered = before.delivered
  grown : before.made ≤ after.made
  ring : ∀ slot, (after.pipeBuffers slot).WellFormed
  paired :
    ∀ {fd},
      after.Holds fd →
      fd.kind = .socket →
      (after.socketPairs (fd.path 0).toNat).used = true
  frame :
    ∀ {slot channel},
      before.Uses slot channel →
      after.pipeBuffers slot = before.pipeBuffers slot
  uses :
    ∀ {slot channel},
      after.Uses slot channel →
      before.Uses slot channel ∨ added slot channel
  new :
    ∀ {slot channel},
      added slot channel →
      channel.made = before.made ∧
        before.made < after.made ∧
        slot < pipeMax ∧
        after.pipeBuffers slot = PipeBuffer.fresh ∧
        ∀ other, ¬ before.Uses slot other
  unique :
    ∀ {slot first second},
      added slot first →
      added slot second →
      first = second
  single :
    ∀ {slot other made},
      added slot (.pipe made) →
      added other (.pipe made) →
      slot = other

/-- A call leaves the buffers of the channels alone, and gives them to no other. -/
def KeepsChannels (before after : State) : Prop :=
  ∀ slot channel,
    before.Uses slot channel →
    after.pipeBuffers slot = before.pipeBuffers slot ∧
      ∀ other, after.Uses slot other → other = channel

namespace Allocates

variable
  {before after : State}
  {added : Nat → Channel → Prop}

/-- Such a step keeps what the tables keep. -/
theorem owned
    (allocates : Allocates before after added)
    (owned : Owned before) :
    Owned after := by
  refine {
    ring := allocates.ring
    paired := allocates.paired
    used := ?_
    recent := ?_
    exclusive := ?_
    single := ?_
    intact := ?_
    fresh := ?_
  }
  · intro slot channel inUse
    rcases allocates.uses inUse with already | isNew
    · rw [allocates.frame already]
      exact owned.used already
    · obtain ⟨_, _, inside, buffer, _⟩ := allocates.new isNew
      rw [buffer]
      exact ⟨inside, rfl⟩
  · intro slot channel inUse
    rcases allocates.uses inUse with already | isNew
    · exact Nat.lt_of_lt_of_le (owned.recent already) allocates.grown
    · obtain ⟨made, larger, _⟩ := allocates.new isNew
      rwa [made]
  · intro slot first second firstUses secondUses
    rcases allocates.uses firstUses with firstAlready | firstNew
    · rcases allocates.uses secondUses with secondAlready | secondNew
      · exact owned.exclusive firstAlready secondAlready
      · exact ((allocates.new secondNew).2.2.2.2 first
          firstAlready).elim
    · rcases allocates.uses secondUses with secondAlready | secondNew
      · exact ((allocates.new firstNew).2.2.2.2 second
          secondAlready).elim
      · exact allocates.unique firstNew secondNew
  · intro slot other made slotUses otherUses
    have older :
        ∀ {old new},
          before.Uses old (.pipe made) →
          ¬ added new (.pipe made) := by
      intro old later already isNew
      have isMade : made = before.made := (allocates.new isNew).1
      exact Nat.ne_of_lt (owned.recent already) isMade
    rcases allocates.uses slotUses with slotAlready | slotNew
    · rcases allocates.uses otherUses with otherAlready | otherNew
      · exact owned.single slotAlready otherAlready
      · exact (older slotAlready otherNew).elim
    · rcases allocates.uses otherUses with otherAlready | otherNew
      · exact (older otherAlready slotNew).elim
      · exact allocates.single slotNew otherNew
  · intro slot made inUse
    rw [allocates.accepted, allocates.delivered]
    rcases allocates.uses inUse with already | isNew
    · rw [allocates.frame already]
      exact owned.intact already
    · obtain ⟨isMade, _, _, buffer, _⟩ := allocates.new isNew
      have unlogged := owned.fresh (Nat.le_of_eq isMade.symm)
      simp only [Channel.made] at unlogged
      rw [buffer, unlogged.1, unlogged.2]
      rfl
  · intro made later
    rw [allocates.accepted, allocates.delivered]
    exact owned.fresh (Nat.le_trans allocates.grown later)

theorem keepsChannels
    (allocates : Allocates before after added)
    (owned : Owned before) :
    KeepsChannels before after := by
  intro slot channel inUse
  refine ⟨allocates.frame inUse, ?_⟩
  intro other otherUses
  rcases allocates.uses otherUses with already | isNew
  · exact owned.exclusive already inUse
  · exact ((allocates.new isNew).2.2.2.2 channel inUse).elim

end Allocates

/-! ## Tables made from tables -/

/-- Two descriptors of the same end of the same channel. -/
structure Fd.Alike (fd other : Fd) : Prop where
  kind : fd.kind = other.kind
  path : fd.path = other.path
  pathLen : fd.pathLen = other.pathLen
  made : fd.made = other.made

theorem Fd.Alike.refl (fd : Fd) : fd.Alike fd :=
  ⟨rfl, rfl, rfl, rfl⟩

theorem Fd.Alike.carries
    {fd other : Fd}
    (alike : fd.Alike other)
    {state : State}
    {slot : Nat}
    {channel : Channel}
    (carries : fd.Carries state slot channel) :
    other.Carries state slot channel := by
  obtain ⟨kind, path, pathLen, made⟩ := alike
  cases carries with
  | pipe isPipe length isSlot =>
      rw [made]
      rw [kind] at isPipe
      rw [pathLen] at length
      rw [path] at isSlot
      exact .pipe isPipe length isSlot
  | socket isSocket length isSlot =>
      rw [made, path]
      rw [kind] at isSocket
      rw [pathLen] at length
      rw [path] at isSlot
      exact .socket isSocket length isSlot

/-- The open descriptors of a table come from another table or are new. -/
def Extends
    (before after : Nat → Fd)
    (new : Fd → Prop) : Prop :=
  ∀ fd,
    Opens after fd →
    new fd ∨ ∃ old, Opens before old ∧ fd.Alike old

/-- The open descriptors of a table come from another table. -/
def Derived (before after : Nat → Fd) : Prop :=
  Extends before after fun _ => False

namespace Extends

variable
  {before middle after : Nat → Fd}
  {new : Fd → Prop}

theorem refl (table : Nat → Fd) : Extends table table new := by
  intro fd opens
  exact Or.inr ⟨fd, opens, .refl fd⟩

theorem clear
    (extended : Extends before middle new)
    (index : Nat) :
    Extends before (Function.update middle index Fd.empty) new := by
  intro fd opens
  obtain ⟨position, inside, isFd, used⟩ := opens
  by_cases atIndex : position = index
  · subst position
    rw [Function.update_self] at isFd
    subst fd
    cases used
  · rw [Function.update_of_ne atIndex] at isFd
    exact extended fd ⟨position, inside, isFd, used⟩

theorem put
    (extended : Extends before middle new)
    (isNew : new fd)
    (index : Nat) :
    Extends before (Function.update middle index fd) new := by
  intro other opens
  obtain ⟨position, inside, isOther, used⟩ := opens
  by_cases atIndex : position = index
  · subst position
    rw [Function.update_self] at isOther
    subst other
    exact Or.inl isNew
  · rw [Function.update_of_ne atIndex] at isOther
    exact extended other ⟨position, inside, isOther, used⟩

theorem copy
    (extended : Extends before middle new)
    {fd old : Fd}
    (opens : Opens before old)
    (alike : fd.Alike old)
    (index : Nat) :
    Extends before (Function.update middle index fd) new := by
  intro other otherOpens
  obtain ⟨position, inside, isOther, used⟩ := otherOpens
  by_cases atIndex : position = index
  · subst position
    rw [Function.update_self] at isOther
    subst other
    exact Or.inr ⟨old, opens, alike⟩
  · rw [Function.update_of_ne atIndex] at isOther
    exact extended other ⟨position, inside, isOther, used⟩

theorem undo
    {first second : Nat}
    (elsewhere :
      ∀ {index},
        index ≠ first →
        index ≠ second →
        middle index = before index) :
    Derived before
      (Function.update (Function.update middle first Fd.empty) second
        Fd.empty) := by
  intro fd opens
  obtain ⟨position, inside, isFd, used⟩ := opens
  by_cases atSecond : position = second
  · subst position
    rw [Function.update_self] at isFd
    subst fd
    cases used
  · rw [Function.update_of_ne atSecond] at isFd
    by_cases atFirst : position = first
    · subst position
      rw [Function.update_self] at isFd
      subst fd
      cases used
    · rw [Function.update_of_ne atFirst,
        elsewhere atFirst atSecond] at isFd
      exact Or.inr ⟨fd, ⟨position, inside, isFd, used⟩, .refl fd⟩

end Extends

namespace State

variable {before after : State}

theorem holds_of_extends
    {new : Fd → Prop}
    (sameParent : after.parent = before.parent)
    (extended : Extends before.fds after.fds new)
    (holds : after.Holds fd) :
    new fd ∨ ∃ old, before.Holds old ∧ fd.Alike old := by
  rcases holds with running | ⟨fds, isParent, opens⟩
  · rcases extended fd running with isNew | ⟨old, opens, alike⟩
    · exact Or.inl isNew
    · exact Or.inr ⟨old, Or.inl opens, alike⟩
  · rw [sameParent] at isParent
    exact Or.inr ⟨fd, Or.inr ⟨fds, isParent, opens⟩, .refl fd⟩

theorem carries_congr
    (same :
      fd.kind = .socket →
      after.socketPairs (fd.path 0).toNat =
        before.socketPairs (fd.path 0).toNat)
    {slot : Nat}
    {channel : Channel}
    (carries : fd.Carries after slot channel) :
    fd.Carries before slot channel := by
  cases carries with
  | pipe isPipe length isSlot =>
      exact .pipe isPipe length isSlot
  | socket isSocket length isSlot =>
      refine .socket isSocket length ?_
      unfold State.socketPipeFor at isSlot ⊢
      rwa [same isSocket] at isSlot

end State

theorem Allocates.ofExtends
    {before after : State}
    (owned : Owned before)
    {new : Fd → Prop}
    {added : Nat → Channel → Prop}
    (parent : after.parent = before.parent)
    (accepted : after.accepted = before.accepted)
    (delivered : after.delivered = before.delivered)
    (grown : before.made ≤ after.made)
    (extended : Extends before.fds after.fds new)
    (ring : ∀ slot, (after.pipeBuffers slot).WellFormed)
    (frame :
      ∀ {slot channel},
        before.Uses slot channel →
        after.pipeBuffers slot = before.pipeBuffers slot)
    (pairs :
      ∀ {index},
        (before.socketPairs index).used = true →
        after.socketPairs index = before.socketPairs index)
    (newPaired :
      ∀ {fd},
        new fd →
        fd.kind = .socket →
        (after.socketPairs (fd.path 0).toNat).used = true)
    (carries :
      ∀ {fd slot channel},
        new fd →
        fd.Carries after slot channel →
        added slot channel)
    (isNew :
      ∀ {slot channel},
        added slot channel →
        channel.made = before.made ∧
          before.made < after.made ∧
          slot < pipeMax ∧
          after.pipeBuffers slot = PipeBuffer.fresh ∧
          ∀ other, ¬ before.Uses slot other)
    (unique :
      ∀ {slot first second},
        added slot first →
        added slot second →
        first = second)
    (single :
      ∀ {slot other made},
        added slot (.pipe made) →
        added other (.pipe made) →
        slot = other) :
    Allocates before after added := by
  refine {
    accepted := accepted
    delivered := delivered
    grown := grown
    ring := ring
    paired := ?_
    frame := frame
    uses := ?_
    new := isNew
    unique := unique
    single := single
  }
  · intro fd holds isSocket
    rcases State.holds_of_extends parent extended holds with
        isEnd | ⟨old, oldHeld, alike⟩
    · exact newPaired isEnd isSocket
    · have used := owned.paired oldHeld (alike.kind ▸ isSocket)
      rw [alike.path, pairs used]
      exact used
  · rintro slot channel ⟨fd, holds, fdCarries⟩
    rcases State.holds_of_extends parent extended holds with
        isEnd | ⟨old, oldHeld, alike⟩
    · exact Or.inr (carries isEnd fdCarries)
    · refine Or.inl ⟨old, oldHeld, ?_⟩
      refine State.carries_congr ?_ (alike.carries fdCarries)
      intro isSocket
      exact pairs (owned.paired oldHeld isSocket)

/--
A change of the running process's table that adds no channel, with buffers
that are in use and socket pairs that are referred to left alone.
-/
theorem Allocates.ofDerived
    {before after : State}
    (owned : Owned before)
    (parent : after.parent = before.parent)
    (accepted : after.accepted = before.accepted)
    (delivered : after.delivered = before.delivered)
    (made : after.made = before.made)
    (derived : Derived before.fds after.fds)
    (ring : ∀ slot, (after.pipeBuffers slot).WellFormed)
    (frame :
      ∀ {slot channel},
        before.Uses slot channel →
        after.pipeBuffers slot = before.pipeBuffers slot)
    (pairs :
      ∀ {index},
        (before.socketPairs index).used = true →
        after.socketPairs index = before.socketPairs index) :
    Allocates before after fun _ _ => False :=
  .ofExtends owned parent accepted delivered (Nat.le_of_eq made.symm)
    derived ring frame pairs False.elim (fun impossible _ => impossible)
    False.elim (fun impossible => impossible.elim)
    fun impossible => impossible.elim

end VibuxOS.Syscall
