import VibuxOS.Signals.SignalSets

namespace VibuxOS.Signals

open VibuxOS.Lib

/-!
# Which signal comes next

`take_deliverable_signal` reads the pending set again in every turn;
`signal_pending_unblocked` reads it once and clears bits of its own copy.  Both
drop the ignored signals below the first one that is to be delivered, and reach
the same machine.
-/

/-- The loop of `signal_pending_unblocked` on its copy of the pending set. -/
def signalPendingUnblockedLoop : Nat → UInt64 → Sys Bool
  | 0, _ => Prog.hang
  | fuel + 1, pending =>
      match lowestSignal pending with
      | none => pure false
      | some signum => do
          let action ←
            Prog.gets fun machine =>
              machine.process.signalActions (signum - 1).toNat
          if action.ignores signum then do
            clearPending signum
            signalPendingUnblockedLoop fuel (pending &&& ~~~signalBit signum)
          else
            pure true

/-- `signal_pending_unblocked`; every turn of the loop clears one of 64 bits. -/
def signalPendingUnblocked : Sys Bool := do
  let machine ← Prog.gets id
  signalPendingUnblockedLoop 65
    (machine.pending &&& ~~~machine.process.signalMask)

variable {machine settled : Machine} {signum other : UInt64}

/-! ## Signals to deliver and signals to drop -/

/-- The action of a signal is `SIG_IGN`, or a default that ignores it. -/
def Machine.Ignores (machine : Machine) (signum : UInt64) : Prop :=
  let action := machine.process.signalActions (signum - 1).toNat
  action.handler = sigIgn ∨
    action.handler = sigDfl ∧ signalDefaultIgnored signum = true

/-- A signal that is pending and not blocked. -/
structure Machine.Awaits (machine : Machine) (signum : UInt64) : Prop where
  isSignal : IsSignal signum
  pending : Has machine.pending signum
  unblocked : ¬ Has machine.process.signalMask signum

def Machine.Delivers (machine : Machine) (signum : UInt64) : Prop :=
  machine.Awaits signum ∧ ¬ machine.Ignores signum

def Machine.Drops (machine : Machine) (signum : UInt64) : Prop :=
  machine.Awaits signum ∧ machine.Ignores signum

/--
What a call that takes a signal has to do: it takes the lowest one to deliver,
if there is one, clears it and the signals to drop below it, and changes nothing
else.
-/
structure Takes
    (machine : Machine)
    (taken : Option UInt64)
    (final : Machine) : Prop where
  delivers : ∀ signum, taken = some signum → machine.Delivers signum
  lowest :
    ∀ signum,
      taken = some signum →
      ∀ other, machine.Delivers other → signum ≤ other
  nothing : taken = none → ∀ signum, ¬ machine.Delivers signum
  cleared :
    ∀ signum,
      IsSignal signum →
      (Has final.pending signum ↔
        Has machine.pending signum ∧
          taken ≠ some signum ∧
          ¬ (machine.Drops signum ∧
              ∀ chosen, taken = some chosen → signum < chosen))
  elsewhere : final = { machine with pending := final.pending }

/-- A look at the pending set removes signals to drop only. -/
structure Looks (machine looked : Machine) : Prop where
  removed :
    ∀ signum,
      IsSignal signum →
      Has machine.pending signum →
      ¬ Has looked.pending signum →
      machine.Drops signum
  kept :
    ∀ signum,
      IsSignal signum →
      Has looked.pending signum →
      Has machine.pending signum
  elsewhere : looked = { machine with pending := looked.pending }

theorem ignores_iff :
    (machine.process.signalActions (signum - 1).toNat).ignores signum = true ↔
      machine.Ignores signum := by
  simp [SignalAction.ignores, Machine.Ignores]

/-! ## The set that both loops look at -/

/-- The pending signals that are not blocked. -/
def Machine.awaited (machine : Machine) : UInt64 :=
  machine.pending &&& ~~~machine.process.signalMask

theorem has_and_not
    {set removed : UInt64}
    (isSignal : IsSignal signum) :
    Has (set &&& ~~~removed) signum ↔ Has set signum ∧ ¬ Has removed signum := by
  obtain ⟨index, inWord, rfl⟩ := isSignal.index
  have single := toNat_signalBit inWord
  unfold Has
  rcases and_bit removed _ single with absent | present
  · rw [UInt64.and_assoc, not_and_of_disjoint absent, absent]
    simp
  · have gone :
        set &&& ~~~removed &&& signalBit (UInt64.ofNat index + 1) = 0 := by
      rw [← present, ← UInt64.and_assoc, and_not_and, UInt64.zero_and]
    have isBit : signalBit (UInt64.ofNat index + 1) ≠ 0 := by
      intro isZero
      rw [isZero] at single
      exact (Nat.two_pow_pos index).ne single
    rw [gone, present]
    simp [isBit]

theorem has_awaited
    (isSignal : IsSignal signum) :
    Has machine.awaited signum ↔ machine.Awaits signum := by
  unfold Machine.awaited
  rw [has_and_not isSignal]
  exact
    ⟨fun both => ⟨isSignal, both.1, both.2⟩,
      fun awaits => ⟨awaits.pending, awaits.unblocked⟩⟩

theorem lowestSignal_le
    {set : UInt64}
    (lowest : lowestSignal set = some signum)
    (isSignal : IsSignal other)
    (among : Has set other) :
    signum ≤ other := by
  unfold lowestSignal at lowest
  rw [List.find?_map] at lowest
  obtain ⟨first, found, rfl⟩ := Option.map_eq_some_iff.mp lowest
  obtain ⟨index, inWord, rfl⟩ := isSignal.index
  obtain ⟨_, inside, before⟩ := List.find?_range_eq_some.mp found
  rw [List.mem_range] at inside
  have inOrder : first ≤ index := by
    by_contra below
    have absent := before index (Nat.lt_of_not_le below)
    simp only [Function.comp_apply, Bool.not_eq_true',
      bne_eq_false_iff_eq] at absent
    exact among absent
  rw [UInt64.le_iff_toNat_le]
  simp only [UInt64.toNat_add, UInt64.toNat_ofNat', UInt64.toNat_one]
  omega

theorem awaits_of_lowestSignal
    (lowest : lowestSignal machine.awaited = some signum) :
    machine.Awaits signum :=
  (has_awaited (isSignal_lowestSignal lowest)).mp (lowestSignal_mem lowest)

theorem le_of_awaits
    (lowest : lowestSignal machine.awaited = some signum)
    (awaits : machine.Awaits other) :
    signum ≤ other :=
  lowestSignal_le lowest awaits.isSignal
    ((has_awaited awaits.isSignal).mpr awaits)

theorem not_awaits_of_lowestSignal
    (empty : lowestSignal machine.awaited = none) :
    ¬ machine.Awaits signum := by
  intro awaits
  have among := (has_awaited awaits.isSignal).mpr awaits
  rw [lowestSignal_eq_none.mp empty] at among
  exact not_has_zero _ among

/-! ## One turn -/

def Machine.without (machine : Machine) (signum : UInt64) : Machine :=
  { machine with pending := machine.pending &&& ~~~signalBit signum }

theorem has_without
    (isSignal : IsSignal signum)
    (otherIsSignal : IsSignal other) :
    Has (machine.without signum).pending other ↔
      signum ≠ other ∧ Has machine.pending other :=
  has_and_not_signalBit isSignal otherIsSignal

theorem awaited_without :
    (machine.without signum).awaited =
      machine.awaited &&& ~~~signalBit signum := by
  unfold Machine.awaited Machine.without
  rw [UInt64.and_assoc, UInt64.and_assoc,
    UInt64.and_comm (~~~signalBit signum)]

theorem awaits_without
    (isSignal : IsSignal signum) :
    (machine.without signum).Awaits other ↔
      signum ≠ other ∧ machine.Awaits other := by
  constructor
  · intro awaits
    obtain ⟨different, pending⟩ :=
      (has_without isSignal awaits.isSignal).mp awaits.pending
    exact ⟨different, awaits.isSignal, pending, awaits.unblocked⟩
  · rintro ⟨different, awaits⟩
    exact
      ⟨awaits.isSignal,
        (has_without isSignal awaits.isSignal).mpr ⟨different, awaits.pending⟩,
        awaits.unblocked⟩

theorem drops_without
    (isSignal : IsSignal signum) :
    (machine.without signum).Drops other ↔
      signum ≠ other ∧ machine.Drops other := by
  unfold Machine.Drops
  rw [awaits_without isSignal, and_assoc]
  rfl

theorem delivers_without
    (drops : machine.Drops signum) :
    (machine.without signum).Delivers other ↔ machine.Delivers other := by
  unfold Machine.Delivers
  rw [awaits_without drops.1.isSignal]
  constructor
  · rintro ⟨⟨_, awaits⟩, acts⟩
    exact ⟨awaits, acts⟩
  · rintro ⟨awaits, acts⟩
    refine ⟨⟨?_, awaits⟩, acts⟩
    rintro rfl
    exact acts drops.2

/-! ## The turns of both loops -/

/-- What is left when the lowest awaited signal is none to drop. -/
def Machine.settle : Nat → Machine → Machine
  | 0, machine => machine
  | fuel + 1, machine =>
      match lowestSignal machine.awaited with
      | none => machine
      | some signum =>
          if
            (machine.process.signalActions (signum - 1).toNat).ignores signum
          then
            (machine.without signum).settle fuel
          else
            machine

/-- There are turns for the awaited signals, which are above those dropped. -/
def Machine.Enough (fuel : Nat) (machine : Machine) : Prop :=
  ∀ signum, machine.Awaits signum → 64 < signum.toNat + fuel

theorem enough_start (machine : Machine) : machine.Enough 64 := by
  intro signum awaits
  have positive : signum.toNat ≠ 0 :=
    fun zero => awaits.isSignal (.inl (UInt64.toNat_inj.mp zero))
  omega

theorem Machine.Enough.nothing
    (enough : machine.Enough 0) :
    lowestSignal machine.awaited = none := by
  cases lowest : lowestSignal machine.awaited with
  | none => rfl
  | some signum =>
      have awaits := awaits_of_lowestSignal lowest
      have large := enough signum awaits
      have small := (not_or.mp awaits.isSignal).2
      rw [gt_iff_lt, UInt64.not_lt, UInt64.le_iff_toNat_le] at small
      exact absurd large (Nat.not_lt.mpr small)

theorem Machine.Enough.next
    {fuel : Nat}
    (enough : machine.Enough (fuel + 1))
    (lowest : lowestSignal machine.awaited = some signum) :
    (machine.without signum).Enough fuel := by
  intro other awaitsStill
  have isLowest := awaits_of_lowestSignal lowest
  obtain ⟨different, awaits⟩ :=
    (awaits_without isLowest.isSignal).mp awaitsStill
  have inOrder := UInt64.le_iff_toNat_le.mp (le_of_awaits lowest awaits)
  have apart : signum.toNat ≠ other.toNat :=
    fun same => different (UInt64.toNat_inj.mp same)
  have room := enough signum isLowest
  omega

theorem takeDeliverableSignalLoop_succ
    (fuel : Nat)
    (machine : Machine) :
    takeDeliverableSignalLoop (fuel + 1) machine =
      match lowestSignal machine.awaited with
      | none => .ok none machine
      | some signum =>
          if
            (machine.process.signalActions (signum - 1).toNat).ignores signum
          then
            takeDeliverableSignalLoop fuel (machine.without signum)
          else
            .ok (some signum) (machine.without signum) := by
  rw [takeDeliverableSignalLoop, Prog.gets_bind_apply, Machine.awaited]
  dsimp only [id_eq]
  cases lowestSignal (machine.pending &&& ~~~machine.process.signalMask) with
  | none => rfl
  | some signum =>
      dsimp only
      split
      · rfl
      · rfl

theorem takeDeliverableSignalLoop_eq
    {fuel : Nat}
    (enough : machine.Enough fuel) :
    takeDeliverableSignalLoop (fuel + 1) machine =
      match lowestSignal (machine.settle fuel).awaited with
      | none => .ok none (machine.settle fuel)
      | some signum =>
          .ok (some signum) ((machine.settle fuel).without signum) := by
  induction fuel generalizing machine with
  | zero =>
      rw [takeDeliverableSignalLoop_succ, Machine.settle, enough.nothing]
  | succ fuel inductionHypothesis =>
      rw [takeDeliverableSignalLoop_succ, Machine.settle]
      cases lowest : lowestSignal machine.awaited with
      | none =>
          simp [lowest]
      | some signum =>
          have rest := inductionHypothesis (enough.next lowest)
          dsimp only
          by_cases ignored :
              (machine.process.signalActions (signum - 1).toNat).ignores signum
                = true
          · rw [if_pos ignored, if_pos ignored]
            exact rest
          · rw [if_neg ignored, if_neg ignored, lowest]

theorem signalPendingUnblockedLoop_eq
    {fuel : Nat}
    (enough : machine.Enough fuel) :
    signalPendingUnblockedLoop (fuel + 1) machine.awaited machine =
      .ok (lowestSignal (machine.settle fuel).awaited).isSome
        (machine.settle fuel) := by
  induction fuel generalizing machine with
  | zero =>
      rw [signalPendingUnblockedLoop, Machine.settle, enough.nothing]
      rfl
  | succ fuel inductionHypothesis =>
      rw [signalPendingUnblockedLoop, Machine.settle]
      cases lowest : lowestSignal machine.awaited with
      | none =>
          simp [lowest]
      | some signum =>
          have rest := inductionHypothesis (enough.next lowest)
          rw [awaited_without] at rest
          dsimp only
          rw [Prog.gets_bind_apply]
          by_cases ignored :
              (machine.process.signalActions (signum - 1).toNat).ignores signum
                = true
          · rw [if_pos ignored, if_pos ignored]
            exact rest
          · rw [if_neg ignored, if_neg ignored, lowest]
            rfl

/-! ## What is left -/

/-- The signals to drop below all signals to deliver are gone. -/
structure Settles (machine settled : Machine) : Prop where
  pending :
    ∀ signum,
      IsSignal signum →
      (Has settled.pending signum ↔
        Has machine.pending signum ∧
          ¬ (machine.Drops signum ∧
              ∀ chosen, machine.Delivers chosen → signum < chosen))
  lowest :
    ∀ signum,
      lowestSignal settled.awaited = some signum →
      ¬ settled.Ignores signum
  elsewhere : settled = { machine with pending := settled.pending }

theorem Settles.refl
    (lowest :
      ∀ signum,
        lowestSignal machine.awaited = some signum →
        ¬ machine.Ignores signum) :
    Settles machine machine where
  pending signum isSignal := by
    refine ⟨fun pending => ⟨pending, ?_⟩, And.left⟩
    rintro ⟨drops, below⟩
    cases isLowest : lowestSignal machine.awaited with
    | none => exact not_awaits_of_lowestSignal isLowest drops.1
    | some first =>
        have isFirst : machine.Delivers first :=
          ⟨awaits_of_lowestSignal isLowest, lowest first isLowest⟩
        exact
          UInt64.lt_irrefl _
            (UInt64.lt_of_lt_of_le (below first isFirst)
              (le_of_awaits isLowest drops.1))
  lowest := lowest
  elsewhere := rfl

theorem Settles.next
    (lowest : lowestSignal machine.awaited = some signum)
    (ignored : machine.Ignores signum)
    (settles : Settles (machine.without signum) settled) :
    Settles machine settled where
  pending other otherIsSignal := by
    have awaits := awaits_of_lowestSignal lowest
    have drops : machine.Drops signum := ⟨awaits, ignored⟩
    rw [settles.pending other otherIsSignal,
      has_without awaits.isSignal otherIsSignal, drops_without awaits.isSignal]
    simp only [delivers_without drops]
    by_cases same : signum = other
    · subst same
      have below :
          ∀ chosen, machine.Delivers chosen → signum < chosen := by
        intro chosen delivers
        apply UInt64.lt_of_le_of_ne (le_of_awaits lowest delivers.1)
        rintro rfl
        exact delivers.2 ignored
      exact
        ⟨fun left => absurd rfl left.1.1,
          fun right => absurd ⟨drops, below⟩ right.2⟩
    · simp [same]
  lowest := settles.lowest
  elsewhere := settles.elsewhere

theorem settles_settle
    {fuel : Nat}
    (enough : machine.Enough fuel) :
    Settles machine (machine.settle fuel) := by
  induction fuel generalizing machine with
  | zero =>
      apply Settles.refl
      intro signum lowest
      rw [enough.nothing] at lowest
      cases lowest
  | succ fuel inductionHypothesis =>
      rw [Machine.settle]
      cases lowest : lowestSignal machine.awaited with
      | none =>
          apply Settles.refl
          intro signum isLowest
          rw [lowest] at isLowest
          cases isLowest
      | some signum =>
          dsimp only
          split
          · rename_i ignored
            exact
              (inductionHypothesis (enough.next lowest)).next lowest
                (ignores_iff.mp ignored)
          · rename_i acts
            apply Settles.refl
            intro first isLowest
            rw [lowest] at isLowest
            cases isLowest
            exact fun ignored => acts (ignores_iff.mpr ignored)

theorem settle_of_acts
    (acts :
      ∀ signum,
        lowestSignal machine.awaited = some signum →
        ¬ machine.Ignores signum)
    (fuel : Nat) :
    machine.settle fuel = machine := by
  cases fuel with
  | zero => rfl
  | succ fuel =>
      rw [Machine.settle]
      cases lowest : lowestSignal machine.awaited with
      | none => rfl
      | some signum =>
          dsimp only
          rw [if_neg]
          exact fun ignored => acts signum lowest (ignores_iff.mp ignored)

namespace Settles

section

variable (settles : Settles machine settled)

include settles

theorem ignores :
    settled.Ignores signum ↔ machine.Ignores signum := by
  rw [settles.elsewhere]
  rfl

theorem mask :
    settled.process.signalMask = machine.process.signalMask := by
  rw [settles.elsewhere]

theorem awaits
    (still : settled.Awaits signum) :
    machine.Awaits signum := by
  have pending := (settles.pending signum still.isSignal).mp still.pending
  have unblocked := still.unblocked
  rw [settles.mask] at unblocked
  exact ⟨still.isSignal, pending.1, unblocked⟩

theorem delivers
    (delivers : machine.Delivers signum) :
    settled.Awaits signum := by
  obtain ⟨awaits, acts⟩ := delivers
  have unblocked := awaits.unblocked
  rw [← settles.mask] at unblocked
  refine ⟨awaits.isSignal, ?_, unblocked⟩
  exact
    (settles.pending signum awaits.isSignal).mpr
      ⟨awaits.pending, fun gone => acts gone.1.2⟩

end

theorem looks (settles : Settles machine settled) : Looks machine settled where
  removed signum isSignal was gone := by
    by_contra kept
    exact
      gone
        ((settles.pending signum isSignal).mpr
          ⟨was, fun dropped => kept dropped.1⟩)
  kept signum isSignal has := ((settles.pending signum isSignal).mp has).1
  elsewhere := settles.elsewhere

theorem takes_none
    (settles : Settles machine settled)
    (empty : lowestSignal settled.awaited = none) :
    Takes machine none settled where
  delivers _ isTaken := nomatch isTaken
  lowest _ isTaken := nomatch isTaken
  nothing _ _ delivers :=
    not_awaits_of_lowestSignal empty (settles.delivers delivers)
  cleared signum isSignal := by
    rw [settles.pending signum isSignal]
    constructor
    · rintro ⟨pending, kept⟩
      refine ⟨pending, nofun, fun dropped => kept ⟨dropped.1, ?_⟩⟩
      exact fun chosen delivers =>
        absurd (settles.delivers delivers) (not_awaits_of_lowestSignal empty)
    · rintro ⟨pending, _, kept⟩
      exact ⟨pending, fun dropped => kept ⟨dropped.1, nofun⟩⟩
  elsewhere := settles.elsewhere

theorem takes_some
    (settles : Settles machine settled)
    (lowest : lowestSignal settled.awaited = some signum) :
    Takes machine (some signum) (settled.without signum) := by
  have isLowest := awaits_of_lowestSignal lowest
  have isTaken : machine.Delivers signum :=
    ⟨settles.awaits isLowest,
      fun ignored => settles.lowest signum lowest (settles.ignores.mpr ignored)⟩
  have isFirst : ∀ other, machine.Delivers other → signum ≤ other :=
    fun other delivers => le_of_awaits lowest (settles.delivers delivers)
  refine
    { delivers := ?_, lowest := ?_, nothing := nofun, cleared := ?_,
      elsewhere := ?_ }
  · rintro _ ⟨⟩
    exact isTaken
  · rintro _ ⟨⟩
    exact isFirst
  · intro other otherIsSignal
    rw [has_without isLowest.isSignal otherIsSignal,
      settles.pending other otherIsSignal]
    constructor
    · rintro ⟨different, pending, kept⟩
      refine
        ⟨pending, fun same => different (Option.some.inj same),
          fun dropped => kept ⟨dropped.1, ?_⟩⟩
      exact fun chosen delivers =>
        UInt64.lt_of_lt_of_le (dropped.2 signum rfl) (isFirst chosen delivers)
    · rintro ⟨pending, different, kept⟩
      refine
        ⟨fun same => different (congrArg some same), pending,
          fun dropped => kept ⟨dropped.1, ?_⟩⟩
      rintro _ ⟨⟩
      exact dropped.2 signum isTaken
  · unfold Machine.without
    rw [settles.elsewhere]

end Settles

/-! ## The calls -/

theorem takeDeliverableSignal_eq (machine : Machine) :
    takeDeliverableSignal machine =
      match lowestSignal (machine.settle 64).awaited with
      | none => .ok none (machine.settle 64)
      | some signum =>
          .ok (some signum) ((machine.settle 64).without signum) :=
  takeDeliverableSignalLoop_eq (enough_start machine)

theorem signalPendingUnblocked_eq (machine : Machine) :
    signalPendingUnblocked machine =
      .ok (lowestSignal (machine.settle 64).awaited).isSome
        (machine.settle 64) :=
  signalPendingUnblockedLoop_eq (enough_start machine)

/--
`take_deliverable_signal` takes the lowest signal to deliver, if there is one.
`signal_pending_unblocked` tells whether it will, removes signals to drop only,
and a call after it takes the same signal and leaves the same machine.
-/
theorem next_signal_taken (machine : Machine) :
    ∃ taken final answer looked,
      takeDeliverableSignal machine = .ok taken final ∧
        Takes machine taken final ∧
        signalPendingUnblocked machine = .ok answer looked ∧
        (answer = true ↔ ∃ signum, taken = some signum) ∧
        Looks machine looked ∧
        takeDeliverableSignal looked = .ok taken final := by
  have settles := settles_settle (enough_start machine)
  have again := takeDeliverableSignal_eq (machine.settle 64)
  rw [settle_of_acts settles.lowest] at again
  have first := takeDeliverableSignal_eq machine
  have look := signalPendingUnblocked_eq machine
  cases lowest : lowestSignal (machine.settle 64).awaited with
  | none =>
      rw [lowest] at again first look
      exact
        ⟨none, _, false, _, first, settles.takes_none lowest, look,
          by simp, settles.looks, again⟩
  | some signum =>
      rw [lowest] at again first look
      exact
        ⟨some signum, _, true, _, first, settles.takes_some lowest, look,
          by simp, settles.looks, again⟩

end VibuxOS.Signals
