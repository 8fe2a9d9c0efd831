import VibuxOS.Paging.Frames
import VibuxOS.Paging.TableChanges

namespace VibuxOS.Paging

open VibuxOS.Lib

/-!
# Laws of `map_4k`, `unmap_4k` and `protect_4k`

On its way down `map_4k` makes tables and gives tables to the user.  None of
this shows: at every level the machine shows what it showed at first, and only
the entry of level 1 makes the difference.  The callback has to hand out frames
that hold no table, and none of them twice.
-/

variable
  {frame : UInt64}
  {allocator : FrameAllocator}
  {slot : TableSlot}
  {virtualAddress : UInt64}
  {memory : Memory}
  {flags : PageFlags}

/-- What the callback hands out in a later call, as an entry can name it. -/
def handed
    {κ : Type}
    (allocate : Allocate κ)
    (supply : κ)
    (call : Nat) :
    Option UInt64 :=
  (allocate ((fun supply => (allocate supply).2)^[call] supply)).1.map
    fun frame => frame &&& entryAddrMask

/-- A frame that the callback is going to hand out. -/
def Pending
    {κ : Type}
    (allocate : Allocate κ)
    (supply : κ)
    (frame : UInt64) : Prop :=
  ∃ call, handed allocate supply call = some frame

/-- The callback returns only unused frames. -/
structure Fresh
    {κ : Type}
    (allocate : Allocate κ)
    (machine : Machine κ) : Prop where
  unused :
    ∀ frame,
      Pending allocate machine.supply frame →
      ¬ TableFrame machine.memory machine.cr3 frame
  once :
    ∀ first second frame,
      handed allocate machine.supply first = some frame →
      handed allocate machine.supply second = some frame →
      first = second

/-- The tables are well formed, and the callback is good for new ones. -/
structure Sound
    {κ : Type}
    (allocate : Allocate κ)
    (machine : Machine κ) : Prop where
  tables : TableWellFormed machine.memory machine.cr3
  fresh : Fresh allocate machine

/-- The second machine has the tables of the first, and some of the callback. -/
structure Grows
    {κ : Type}
    (allocate : Allocate κ)
    (before after : Machine κ) : Prop where
  cr3 : after.cr3 = before.cr3
  pending :
    ∀ frame,
      Pending allocate after.supply frame →
      Pending allocate before.supply frame
  tables :
    ∀ frame,
      TableFrame after.memory after.cr3 frame →
      TableFrame before.memory before.cr3 frame ∨
        Pending allocate before.supply frame
  kept :
    ∀ frame,
      TableFrame before.memory before.cr3 frame →
      TableFrame after.memory after.cr3 frame
  words :
    ∀ slot : TableSlot,
      ¬ TableFrame before.memory before.cr3 slot.frame →
      ¬ Pending allocate before.supply slot.frame →
      after.memory slot = before.memory slot

/-- The second machine shows what the first one shows. -/
structure Kept
    {κ : Type}
    (allocate : Allocate κ)
    (before after : Machine κ) : Prop where
  grows : Grows allocate before after
  sound : Sound allocate after
  view : SameView before.memory after.memory before.cr3

variable {κ : Type} {allocate : Allocate κ} {before machine : Machine κ}

/-! ## The callback -/

theorem handed_next
    (allocate : Allocate κ)
    (supply : κ)
    (call : Nat) :
    handed allocate (allocate supply).2 call =
      handed allocate supply (call + 1) := by
  rw [handed, handed, Function.iterate_succ_apply]

theorem Pending.of_next
    {supply : κ}
    (pending : Pending allocate (allocate supply).2 frame) :
    Pending allocate supply frame := by
  obtain ⟨call, isHanded⟩ := pending
  exact ⟨call + 1, (handed_next allocate supply call).symm.trans isHanded⟩

theorem Pending.now
    {supply : κ}
    (allocated : (allocate supply).1 = some frame) :
    Pending allocate supply (frame &&& entryAddrMask) := by
  refine ⟨0, ?_⟩
  rw [handed, Function.iterate_zero_apply, allocated, Option.map_some]

theorem Fresh.not_again
    (fresh : Fresh allocate machine)
    (allocated : (allocate machine.supply).1 = some frame) :
    ¬ Pending allocate (allocate machine.supply).2
        (frame &&& entryAddrMask) := by
  rintro ⟨call, again⟩
  rw [handed_next] at again
  have first : handed allocate machine.supply 0 =
      some (frame &&& entryAddrMask) := by
    rw [handed, Function.iterate_zero_apply, allocated, Option.map_some]
  have same := fresh.once _ _ _ first again
  cases same

theorem Fresh.once_next
    (fresh : Fresh allocate machine)
    (first second : Nat)
    (frame : UInt64)
    (firstHanded :
      handed allocate (allocate machine.supply).2 first = some frame)
    (secondHanded :
      handed allocate (allocate machine.supply).2 second = some frame) :
    first = second := by
  rw [handed_next] at firstHanded secondHanded
  exact Nat.succ.inj (fresh.once _ _ _ firstHanded secondHanded)

/-! ## The allocator of the kernel -/

theorem FrameAllocator.supplies_of_handed
    {call : Nat}
    (wellFormed : allocator.WellFormed)
    (isHanded : handed FrameAllocator.allocate allocator call = some frame) :
    allocator.Supplies frame := by
  induction call generalizing allocator with
  | zero =>
      obtain ⟨allocated, isAllocated, rfl⟩ :=
        Option.map_eq_some_iff.mp isHanded
      have supplied := Supplies.now isAllocated
      rw [supplied.masked wellFormed]
      exact supplied
  | succ call inductionHypothesis =>
      rw [← handed_next] at isHanded
      exact Supplies.later (inductionHypothesis wellFormed.allocate isHanded)

theorem FrameAllocator.handed_zero_ne
    {call : Nat}
    (wellFormed : allocator.WellFormed)
    (first : handed FrameAllocator.allocate allocator 0 = some frame)
    (again :
      handed FrameAllocator.allocate allocator (call + 1) = some frame) :
    False := by
  rw [← handed_next] at again
  have supplied := supplies_of_handed wellFormed.allocate again
  obtain ⟨allocated, isAllocated, rfl⟩ := Option.map_eq_some_iff.mp first
  rw [(Supplies.now isAllocated).masked wellFormed] at supplied
  exact not_supplies_of_allocated wellFormed isAllocated supplied

theorem FrameAllocator.handed_once
    (wellFormed : allocator.WellFormed)
    {first second : Nat}
    (firstHanded :
      handed FrameAllocator.allocate allocator first = some frame)
    (secondHanded :
      handed FrameAllocator.allocate allocator second = some frame) :
    first = second := by
  induction first generalizing allocator second with
  | zero =>
      cases second with
      | zero =>
          rfl
      | succ second =>
          exact (handed_zero_ne wellFormed firstHanded secondHanded).elim
  | succ first inductionHypothesis =>
      cases second with
      | zero =>
          exact (handed_zero_ne wellFormed secondHanded firstHanded).elim
      | succ second =>
          rw [← handed_next] at firstHanded secondHanded
          rw [inductionHypothesis wellFormed.allocate firstHanded
            secondHanded]

theorem FrameAllocator.fresh
    {machine : Machine FrameAllocator}
    (wellFormed : machine.supply.WellFormed)
    (unused :
      ∀ frame,
        machine.supply.Supplies frame →
        ¬ TableFrame machine.memory machine.cr3 frame) :
    Fresh FrameAllocator.allocate machine where
  unused frame := by
    rintro ⟨call, isHanded⟩
    exact unused frame (supplies_of_handed wellFormed isHanded)
  once _ _ _ := handed_once wellFormed

/-! ## Steps that do not show -/

theorem Grows.refl
    (allocate : Allocate κ)
    (machine : Machine κ) :
    Grows allocate machine machine :=
  ⟨rfl, fun _ pending => pending, fun _ => Or.inl, fun _ table => table,
    fun _ _ _ => rfl⟩

theorem Grows.trans
    {after : Machine κ}
    (first : Grows allocate before machine)
    (second : Grows allocate machine after) :
    Grows allocate before after where
  cr3 := second.cr3.trans first.cr3
  pending frame pending := first.pending frame (second.pending frame pending)
  tables frame table := by
    rcases second.tables frame table with old | pending
    · exact first.tables frame old
    · exact Or.inr (first.pending frame pending)
  kept frame table := second.kept frame (first.kept frame table)
  words slot noTable notPending := by
    rw [second.words slot, first.words slot noTable notPending]
    · intro table
      rcases first.tables _ table with old | pending
      · exact noTable old
      · exact notPending pending
    · intro pending
      exact notPending (first.pending _ pending)

theorem Kept.refl
    (sound : Sound allocate machine) :
    Kept allocate machine machine :=
  ⟨Grows.refl allocate machine, sound, SameView.refl _ _⟩

theorem Kept.trans
    {after : Machine κ}
    (first : Kept allocate before machine)
    (second : Kept allocate machine after) :
    Kept allocate before after where
  grows := first.grows.trans second.grows
  sound := second.sound
  view := by
    have secondView := second.view
    rw [first.grows.cr3] at secondView
    exact first.view.trans secondView

theorem kept_of_call
    (sound : Sound allocate machine) :
    Kept allocate machine
      { machine with supply := (allocate machine.supply).2 } where
  grows :=
    ⟨rfl, fun _ pending => pending.of_next, fun _ => Or.inl,
      fun _ table => table, fun _ _ _ => rfl⟩
  sound :=
    ⟨sound.tables,
      fun frame pending => sound.fresh.unused frame pending.of_next,
      sound.fresh.once_next⟩
  view := SameView.refl _ _

theorem kept_of_newTable
    (sound : Sound allocate machine)
    {virtualAddress entry allocated : UInt64}
    {lower : Nat}
    (isHanded : (allocate machine.supply).1 = some allocated)
    (takes :
      TakesTable machine.memory machine.cr3 virtualAddress lower slot
        (allocated &&& entryAddrMask) entry) :
    Kept allocate machine
      { memory :=
          withTable machine.memory slot (allocated &&& entryAddrMask) entry
        cr3 := machine.cr3
        supply := (allocate machine.supply).2 } := by
  have tree := sound.tables.tree
  have walks := takes.path_withTable tree
  have view := takes.sameView tree
  constructor
  · constructor
    · rfl
    · exact fun _ pending => pending.of_next
    · intro frame table
      rcases Radix.Reaches.of_grown walks table with old | rfl
      · exact Or.inl old
      · exact Or.inr (Pending.now isHanded)
    · exact fun _ table => Radix.Reaches.grow walks table
    · intro place noTable notPending
      apply TakesTable.elsewhere
      · rintro rfl
        exact noTable ⟨virtualAddress, _, takes.visited, rfl⟩
      · intro same
        exact notPending (same ▸ Pending.now isHanded)
  · constructor
    · exact ⟨takes.tree_withTable tree,
        view.userMonotone sound.tables.userMonotone⟩
    · constructor
      · intro frame pending table
        rcases Radix.Reaches.of_grown walks table with old | rfl
        · exact sound.fresh.unused frame pending.of_next old
        · exact sound.fresh.not_again isHanded pending
      · exact sound.fresh.once_next
  · exact view

theorem grows_of_same_paths
    {changed : Memory}
    (samePaths :
      ∀ other,
        path changed machine.cr3 other =
          path machine.memory machine.cr3 other)
    (words :
      ∀ slot : TableSlot,
        ¬ TableFrame machine.memory machine.cr3 slot.frame →
        changed slot = machine.memory slot) :
    Grows allocate machine { machine with memory := changed } := by
  have tables := tableFrame_of_same_paths samePaths
  constructor
  · rfl
  · exact fun _ pending => pending
  · exact fun frame table => Or.inl ((tables frame).mp table)
  · exact fun frame table => (tables frame).mpr table
  · exact fun slot noTable _ => words slot noTable

theorem Fresh.of_same_paths
    {changed : Memory}
    (fresh : Fresh allocate machine)
    (samePaths :
      ∀ other,
        path changed machine.cr3 other =
          path machine.memory machine.cr3 other) :
    Fresh allocate { machine with memory := changed } := by
  refine ⟨?_, fresh.once⟩
  intro frame pending table
  exact fresh.unused frame pending
    ((tableFrame_of_same_paths samePaths frame).mp table)

theorem update_of_no_table
    {level : Nat}
    (visited : (level, slot) ∈ path machine.memory machine.cr3 virtualAddress)
    (entry : UInt64)
    (place : TableSlot)
    (noTable : ¬ TableFrame machine.memory machine.cr3 place.frame) :
    Function.update machine.memory slot entry place =
      machine.memory place := by
  apply Function.update_of_ne
  rintro rfl
  exact noTable ⟨virtualAddress, _, visited, rfl⟩

theorem kept_of_upgrade
    (sound : Sound allocate machine)
    {lower : Nat}
    (visited :
      (lower + 2, slot) ∈ path machine.memory machine.cr3 virtualAddress)
    (isPresent : machine.memory slot &&& present ≠ 0)
    (small : machine.memory slot &&& huge = 0) :
    Kept allocate machine
      (machine.setEntry slot (machine.memory slot ||| user)) := by
  have view := sameView_upgrade sound.tables visited isPresent small
  have samePaths :
      ∀ other,
        path (Function.update machine.memory slot (machine.memory slot ||| user))
            machine.cr3 other =
          path machine.memory machine.cr3 other :=
    path_update (or_user_walkBits _)
  exact
    ⟨grows_of_same_paths samePaths (update_of_no_table visited _),
      ⟨⟨sound.tables.tree.of_same_paths samePaths,
        view.userMonotone sound.tables.userMonotone⟩,
        sound.fresh.of_same_paths samePaths⟩,
      view⟩

/-! ## The way down -/

/-- On its way down `map_4k` has come to a slot of a level. -/
structure Stage
    (allocate : Allocate κ)
    (before : Machine κ)
    (virtualAddress : UInt64)
    (isUser : Bool)
    (level : Nat)
    (slot : TableSlot)
    (machine : Machine κ) : Prop where
  kept : Kept allocate before machine
  visited : (level, slot) ∈ path machine.memory machine.cr3 virtualAddress
  users :
    isUser = true →
    ∀ visit ∈ path machine.memory machine.cr3 virtualAddress,
      level < visit.1 →
      machine.memory visit.2 &&& user ≠ 0

variable
  {virtualAddress : UInt64}
  {isUser : Bool}
  {lower : Nat}
  {slot : TableSlot}

theorem Stage.enter
    (stage :
      Stage allocate before virtualAddress isUser (lower + 2) slot machine)
    (descends : shape.descends (lower + 2) (machine.memory slot) = true)
    (forUser : isUser = true → machine.memory slot &&& user ≠ 0) :
    Stage allocate before virtualAddress isUser (lower + 1)
      ⟨machine.memory slot &&& entryAddrMask,
        indexes virtualAddress (lower + 1)⟩
      machine where
  kept := stage.kept
  visited := Radix.visit_below stage.visited descends
  users wanted visit visited above := by
    rcases Nat.eq_or_lt_of_le (Nat.succ_le_of_lt above) with here | higher
    · have same := Radix.visit_unique visited stage.visited here.symm
      rw [same]
      exact forUser wanted
    · exact stage.users wanted visit visited higher

theorem Stage.upgrade
    (stage :
      Stage allocate before virtualAddress isUser (lower + 2) slot machine)
    (isPresent : machine.memory slot &&& present ≠ 0)
    (small : machine.memory slot &&& huge = 0) :
    Stage allocate before virtualAddress isUser (lower + 1)
      ⟨(machine.memory slot ||| user) &&& entryAddrMask,
        indexes virtualAddress (lower + 1)⟩
      (machine.setEntry slot (machine.memory slot ||| user)) := by
  have samePath :
      path (Function.update machine.memory slot (machine.memory slot ||| user))
          machine.cr3 virtualAddress =
        path machine.memory machine.cr3 virtualAddress :=
    path_update (or_user_walkBits _) _
  have same :
      (machine.setEntry slot (machine.memory slot ||| user)).memory slot =
        machine.memory slot ||| user := by
    rw [Machine.memory_setEntry, Function.update_self]
  have isBit : user &&& user ≠ 0 := by decide
  have upgraded :
      Stage allocate before virtualAddress isUser (lower + 2) slot
        (machine.setEntry slot (machine.memory slot ||| user)) := by
    constructor
    · exact stage.kept.trans
        (kept_of_upgrade stage.kept.sound stage.visited isPresent small)
    · exact samePath.symm ▸ stage.visited
    · intro wanted visit visited above
      have old : visit ∈ path machine.memory machine.cr3 virtualAddress :=
        samePath ▸ visited
      have users := stage.users wanted visit old above
      by_cases here : visit.2 = slot
      · rw [here, same]
        exact or_and_ne_zero _ isBit
      · rw [Machine.memory_setEntry, Function.update_of_ne here]
        exact users
  have entered := upgraded.enter (by
    rw [same]
    apply descends_of_small
    · rw [or_and_of_disjoint _ (by decide : user &&& present = 0)]
      exact isPresent
    · rw [or_and_of_disjoint _ (by decide : user &&& huge = 0)]
      exact small) (fun _ => by
    rw [same]
    exact or_and_ne_zero _ isBit)
  rwa [same] at entered

theorem tableEntry_fields
    (allocated userBit : UInt64)
    (isBit : userBit = 0 ∨ userBit = user) :
    tableEntry (allocated &&& entryAddrMask) userBit &&& present ≠ 0 ∧
      tableEntry (allocated &&& entryAddrMask) userBit &&& huge = 0 ∧
      tableEntry (allocated &&& entryAddrMask) userBit &&& entryAddrMask =
        allocated &&& entryAddrMask := by
  have beside :
      ∀ mask, user &&& mask = 0 → userBit &&& mask = 0 := by
    intro mask disjoint
    rcases isBit with rfl | rfl
    · exact UInt64.zero_and ..
    · exact disjoint
  have frameIn : entryAddrMask &&& entryAddrMask = entryAddrMask := by decide
  have frameOut : entryAddrMask &&& huge = 0 := by decide
  refine ⟨?_, ?_, ?_⟩
  · rw [tableEntry, or_and_of_disjoint _ (beside present (by decide)),
      or_and_of_disjoint _ (by decide : write &&& present = 0)]
    exact or_and_ne_zero _ (by decide)
  · rw [tableEntry, or_and_of_disjoint _ (beside huge (by decide)),
      or_and_of_disjoint _ (by decide : write &&& huge = 0),
      or_and_of_disjoint _ (by decide : present &&& huge = 0),
      UInt64.and_assoc, frameOut, UInt64.and_zero]
  · rw [tableEntry, or_and_of_disjoint _ (beside entryAddrMask (by decide)),
      or_and_of_disjoint _ (by decide : write &&& entryAddrMask = 0),
      or_and_of_disjoint _ (by decide : present &&& entryAddrMask = 0),
      UInt64.and_assoc, frameIn]

/-- The bit that `map_4k` gives to new tables. -/
def userBitOf (isUser : Bool) : UInt64 :=
  if isUser then user else 0

theorem userBitOf_cases
    (isUser : Bool) :
    userBitOf isUser = 0 ∨ userBitOf isUser = user := by
  cases isUser with
  | false =>
      exact Or.inl rfl
  | true =>
      exact Or.inr rfl

theorem Stage.newTable
    (stage :
      Stage allocate before virtualAddress isUser (lower + 2) slot machine)
    (absent : machine.memory slot &&& present = 0)
    {allocated : UInt64}
    (isHanded : (allocate machine.supply).1 = some allocated) :
    Stage allocate before virtualAddress isUser (lower + 1)
      ⟨tableEntry (allocated &&& entryAddrMask) (userBitOf isUser) &&&
          entryAddrMask,
        indexes virtualAddress (lower + 1)⟩
      { memory :=
          withTable machine.memory slot (allocated &&& entryAddrMask)
            (tableEntry (allocated &&& entryAddrMask) (userBitOf isUser))
        cr3 := machine.cr3
        supply := (allocate machine.supply).2 } := by
  obtain ⟨isPresent, small, leads⟩ :=
    tableEntry_fields allocated (userBitOf isUser) (userBitOf_cases isUser)
  have sound := stage.kept.sound
  have takes :
      TakesTable machine.memory machine.cr3 virtualAddress lower slot
        (allocated &&& entryAddrMask)
        (tableEntry (allocated &&& entryAddrMask) (userBitOf isUser)) :=
    ⟨stage.visited, absent, sound.fresh.unused _ (Pending.now isHanded),
      isPresent, small, leads⟩
  have walk := takes.path_withTable sound.tables.tree virtualAddress
  rw [leads]
  constructor
  · exact stage.kept.trans (kept_of_newTable sound isHanded takes)
  · rw [walk, Radix.mem_grown]
    exact Or.inr ⟨stage.visited, rfl⟩
  · intro wanted visit visited above
    rw [walk, Radix.mem_grown] at visited
    dsimp only
    rcases visited with old | ⟨_, rfl⟩
    · by_cases here : visit.2 = slot
      · rw [here, TakesTable.here, tableEntry]
        apply or_and_ne_zero
        rw [wanted, userBitOf, if_pos rfl]
        decide
      · rw [takes.off old here]
        apply stage.users wanted visit old
        rcases Nat.eq_or_lt_of_le (Nat.succ_le_of_lt above) with
            sameLevel | higher
        · have same := Radix.visit_unique old stage.visited sameLevel.symm
          exact absurd (congrArg Prod.snd same) here
        · exact higher
    · exact absurd above (Nat.lt_irrefl _)

theorem newTable_eq
    (allocate : Allocate κ)
    (slot : TableSlot)
    (userBit : UInt64)
    (machine : Machine κ) :
    newTable allocate slot userBit machine =
      match (allocate machine.supply).1 with
      | none =>
          .err .outOfMemory
            { machine with supply := (allocate machine.supply).2 }
      | some allocated =>
          .ok (tableEntry (allocated &&& entryAddrMask) userBit)
            { memory :=
                withTable machine.memory slot (allocated &&& entryAddrMask)
                  (tableEntry (allocated &&& entryAddrMask) userBit)
              cr3 := machine.cr3
              supply := (allocate machine.supply).2 } := by
  have called :
      (allocateFrame allocate : Kernel κ MapError _) machine =
        .ok (allocate machine.supply).1
          { machine with supply := (allocate machine.supply).2 } :=
    rfl
  rw [newTable, Prog.bind_of_ok called]
  cases (allocate machine.supply).1 <;> rfl

theorem ensures_newTable :
    Prog.Ensures
      (fun machine =>
        Stage allocate before virtualAddress isUser (lower + 2) slot machine ∧
          machine.memory slot &&& present = 0)
      (newTable allocate slot (userBitOf isUser))
      (fun entry =>
        Stage allocate before virtualAddress isUser (lower + 1)
          ⟨entry &&& entryAddrMask, indexes virtualAddress (lower + 1)⟩)
      (Kept allocate before) := by
  rintro machine ⟨stage, absent⟩
  rw [newTable_eq]
  cases isHanded : (allocate machine.supply).1 with
  | none =>
      constructor
      · intro _ _ returned
        cases returned
      · intro _ _ failed
        cases failed
        exact stage.kept.trans (kept_of_call stage.kept.sound)
  | some allocated =>
      constructor
      · intro _ _ returned
        cases returned
        exact stage.newTable absent isHanded
      · intro _ _ failed
        cases failed

theorem ensures_readEntry
    {ε : Type}
    {holds : Machine κ → Prop}
    {failed : Machine κ → Prop} :
    Prog.Ensures holds (readEntry slot : Kernel κ ε UInt64)
      (fun entry machine => holds machine ∧ machine.memory slot = entry)
      failed :=
  Prog.Ensures.gets fun _ held => ⟨held, rfl⟩

theorem ensures_enterTop :
    Prog.Ensures
      (Stage allocate before virtualAddress isUser 4 slot)
      (enterTop allocate slot isUser (userBitOf isUser))
      (fun entry =>
        Stage allocate before virtualAddress isUser 3
          ⟨entry &&& entryAddrMask, indexes virtualAddress 3⟩)
      (Kept allocate before) := by
  apply Prog.Ensures.bind ensures_readEntry
  intro entry
  apply Prog.Ensures.ite
  · intro absent
    apply ensures_newTable.weaken
    rintro machine ⟨stage, rfl⟩
    exact ⟨stage, beq_iff_eq.mp absent⟩
  · intro isPresent
    apply Prog.Ensures.ite
    · intro _
      exact Prog.Ensures.fail fun machine ⟨stage, _⟩ => stage.kept
    · intro allowed
      apply Prog.Ensures.pure
      rintro machine ⟨stage, rfl⟩
      apply Stage.enter stage
      · simpa [shape] using isPresent
      · intro wanted
        simpa [wanted] using allowed

theorem ensures_enterTable :
    Prog.Ensures
      (Stage allocate before virtualAddress isUser (lower + 2) slot)
      (enterTable allocate slot isUser (userBitOf isUser))
      (fun entry =>
        Stage allocate before virtualAddress isUser (lower + 1)
          ⟨entry &&& entryAddrMask, indexes virtualAddress (lower + 1)⟩)
      (Kept allocate before) := by
  apply Prog.Ensures.bind ensures_readEntry
  intro entry
  apply Prog.Ensures.ite
  · intro _
    exact Prog.Ensures.fail fun machine ⟨stage, _⟩ => stage.kept
  · intro notHuge
    apply Prog.Ensures.ite
    · intro absent
      apply ensures_newTable.weaken
      rintro machine ⟨stage, rfl⟩
      exact ⟨stage, beq_iff_eq.mp absent⟩
    · intro isPresent
      rw [beq_iff_eq] at isPresent
      have small : entry &&& huge = 0 := by
        simpa [isPresent] using notHuge
      apply Prog.Ensures.ite
      · intro _
        have upgraded :
            Prog.Ensures
              (fun machine =>
                Stage allocate before virtualAddress isUser (lower + 2) slot
                    machine ∧
                  machine.memory slot = entry)
              (writeEntry slot (entry ||| user) : Kernel κ MapError Unit)
              (fun _ =>
                Stage allocate before virtualAddress isUser (lower + 1)
                  ⟨(entry ||| user) &&& entryAddrMask,
                    indexes virtualAddress (lower + 1)⟩)
              (Kept allocate before) := by
          apply Prog.Ensures.modify
          rintro machine ⟨stage, rfl⟩
          exact stage.upgrade isPresent small
        apply upgraded.bind
        intro _
        exact Prog.Ensures.pure fun machine stage => stage
      · intro allowed
        apply Prog.Ensures.pure
        rintro machine ⟨stage, rfl⟩
        apply stage.enter (descends_of_small isPresent small)
        intro wanted
        simpa [wanted] using allowed

/-! ## The entry of a page -/

/-- The entries of levels 4, 3 and 2 on the way of an address. -/
def entryOf (memory : Memory) (cr3 virtualAddress : UInt64) : Nat → UInt64
  | 0 => memory ⟨cr3 &&& entryAddrMask, indexes virtualAddress 4⟩
  | depth + 1 =>
      memory
        ⟨entryOf memory cr3 virtualAddress depth &&& entryAddrMask,
          indexes virtualAddress (3 - depth)⟩

/-- The slot of level 1 that an address would have. -/
def leafSlot (memory : Memory) (cr3 virtualAddress : UInt64) : TableSlot :=
  ⟨entryOf memory cr3 virtualAddress 2 &&& entryAddrMask,
    indexes virtualAddress 1⟩

/-- The way of an address leads down to level 1. -/
structure LeadsToLeaf (memory : Memory) (cr3 virtualAddress : UInt64) :
    Prop where
  four : entryOf memory cr3 virtualAddress 0 &&& present ≠ 0
  three : entryOf memory cr3 virtualAddress 1 &&& present ≠ 0
  smallThree : entryOf memory cr3 virtualAddress 1 &&& huge = 0
  two : entryOf memory cr3 virtualAddress 2 &&& present ≠ 0
  smallTwo : entryOf memory cr3 virtualAddress 2 &&& huge = 0

theorem leadsToLeaf_iff
    {cr3 virtualAddress : UInt64} :
    LeadsToLeaf memory cr3 virtualAddress ↔
      shape.descends 4 (entryOf memory cr3 virtualAddress 0) = true ∧
        shape.descends 3 (entryOf memory cr3 virtualAddress 1) = true ∧
        shape.descends 2 (entryOf memory cr3 virtualAddress 2) = true := by
  constructor
  · rintro ⟨four, three, smallThree, two, smallTwo⟩
    simp [shape, four, three, smallThree, two, smallTwo]
  · intro turns
    simp only [shape, Bool.and_eq_true, bne_iff_ne, ne_eq, beq_self_eq_true,
      Bool.true_or, and_true, Bool.or_eq_true, beq_iff_eq] at turns
    obtain ⟨four, ⟨three, turn3⟩, two, turn2⟩ := turns
    have smallThree := turn3.resolve_left (by decide)
    have smallTwo := turn2.resolve_left (by decide)
    exact ⟨four, three, smallThree.2, two, smallTwo.2⟩

theorem mem_path_one
    {cr3 virtualAddress : UInt64} :
    (1, slot) ∈ path memory cr3 virtualAddress ↔
      LeadsToLeaf memory cr3 virtualAddress ∧
        slot = leafSlot memory cr3 virtualAddress := by
  have unfolded :
      path memory cr3 virtualAddress =
        (4, ⟨cr3 &&& entryAddrMask, indexes virtualAddress 4⟩) ::
          if shape.descends 4 (entryOf memory cr3 virtualAddress 0) then
            (3, ⟨entryOf memory cr3 virtualAddress 0 &&& entryAddrMask,
              indexes virtualAddress 3⟩) ::
              if shape.descends 3 (entryOf memory cr3 virtualAddress 1) then
                (2, ⟨entryOf memory cr3 virtualAddress 1 &&& entryAddrMask,
                  indexes virtualAddress 2⟩) ::
                  if shape.descends 2 (entryOf memory cr3 virtualAddress 2) then
                    Radix.visits shape memory (indexes virtualAddress) 1
                      (entryOf memory cr3 virtualAddress 2 &&& entryAddrMask)
                  else
                    []
              else
                []
          else
            [] :=
    rfl
  rw [unfolded, leadsToLeaf_iff, Radix.visits, descends_one,
    if_neg Bool.false_ne_true, leafSlot]
  cases shape.descends 4 (entryOf memory cr3 virtualAddress 0) <;>
    cases shape.descends 3 (entryOf memory cr3 virtualAddress 1) <;>
      cases shape.descends 2 (entryOf memory cr3 virtualAddress 2) <;>
        simp

theorem level_of_pageSize
    {virtualAddress entry : UInt64}
    {level : Nat}
    {mapping : Mapping}
    (reports : mappingAt virtualAddress level entry = some mapping)
    (small : mapping.pageSize = pageSize) :
    level = 1 ∧ entry &&& present ≠ 0 := by
  unfold mappingAt at reports
  split at reports
  · cases reports
  · rename_i isPresent
    rw [beq_iff_eq] at isPresent
    split at reports
    · cases reports
      have same : hugePageSize = pageSize := small
      exact absurd same (by decide)
    · cases reports
      have same : largePageSize = pageSize := small
      exact absurd same (by decide)
    · exact ⟨rfl, isPresent⟩
    · cases reports

/-- An address is mapped by a page of 4 KiB. -/
def MappedSmall (memory : Memory) (cr3 virtualAddress : UInt64) : Prop :=
  ∃ mapping,
    translate memory cr3 virtualAddress = some mapping ∧
      mapping.pageSize = pageSize

theorem mappedSmall_iff
    {cr3 virtualAddress : UInt64}
    (inRange : canonical virtualAddress = true) :
    MappedSmall memory cr3 virtualAddress ↔
      LeadsToLeaf memory cr3 virtualAddress ∧
        memory (leafSlot memory cr3 virtualAddress) &&& present ≠ 0 := by
  obtain ⟨visit, ends, visited⟩ := exists_last memory cr3 virtualAddress
  rw [MappedSmall, translate_of_last inRange ends]
  constructor
  · rintro ⟨mapping, reports, small⟩
    obtain ⟨isOne, isPresent⟩ := level_of_pageSize reports small
    have visitedOne :
        (1, visit.2) ∈ path memory cr3 virtualAddress := by
      rw [← isOne]
      exact visited
    obtain ⟨leads, isLeaf⟩ := mem_path_one.mp visitedOne
    exact ⟨leads, isLeaf ▸ isPresent⟩
  · rintro ⟨leads, isPresent⟩
    have visitedOne := mem_path_one.mpr ⟨leads, rfl⟩
    have endsThere :=
      Radix.getLast?_of_stopped visitedOne (descends_one _)
    obtain rfl := Option.some.inj (ends.symm.trans endsThere)
    unfold mappingAt
    rw [if_neg (by simpa using isPresent)]
    exact ⟨_, rfl, rfl⟩

theorem aligned_check
    {address : UInt64}
    (aligned : address.toNat % 4096 = 0) :
    (address &&& (pageSize - 1) != 0) = false := by
  rw [bne_eq_false_iff_eq, ← UInt64.toNat_inj, toNat_pageOffset, aligned]
  rfl

theorem unmap4k_of_leaf
    (inRange : canonical virtualAddress = true)
    (aligned : virtualAddress.toNat % 4096 = 0)
    (visited : (1, slot) ∈ path machine.memory machine.cr3 virtualAddress)
    (isPresent : machine.memory slot &&& present ≠ 0) :
    unmap4k virtualAddress machine =
      .ok (machine.memory slot &&& entryAddrMask)
        (machine.setEntry slot 0) := by
  obtain ⟨⟨four, three, smallThree, two, smallTwo⟩, rfl⟩ :=
    mem_path_one.mp visited
  dsimp only [entryOf] at four three smallThree two smallTwo
  dsimp only [leafSlot, entryOf] at isPresent ⊢
  unfold unmap4k
  rw [inRange, Bool.not_true, if_neg Bool.false_ne_true,
    aligned_check aligned, if_neg Bool.false_ne_true]
  simp only [Machine.root, readEntry, Prog.gets_bind_apply]
  simp [four, three, smallThree, two, smallTwo, isPresent, writeEntry]

theorem protect4k_eq
    (inRange : canonical virtualAddress = true)
    (aligned : virtualAddress.toNat % 4096 = 0) :
    (MappedSmall machine.memory machine.cr3 virtualAddress →
        protect4k virtualAddress flags machine =
          .ok ()
            (machine.setEntry
              (leafSlot machine.memory machine.cr3 virtualAddress)
              ((machine.memory
                  (leafSlot machine.memory machine.cr3 virtualAddress) &&&
                entryAddrMask) |||
                (flags.bits ||| present)))) ∧
      (¬ MappedSmall machine.memory machine.cr3 virtualAddress →
        ∃ error, protect4k virtualAddress flags machine =
          .err error machine) := by
  rw [mappedSmall_iff inRange]
  unfold protect4k
  rw [inRange, Bool.not_true, if_neg Bool.false_ne_true,
    aligned_check aligned, if_neg Bool.false_ne_true]
  simp only [Machine.root, readEntry, Prog.gets_bind_apply]
  constructor
  · rintro ⟨⟨four, three, smallThree, two, smallTwo⟩, isPresent⟩
    dsimp only [entryOf] at four three smallThree two smallTwo
    dsimp only [leafSlot, entryOf] at isPresent ⊢
    simp [four, three, smallThree, two, smallTwo, isPresent, writeEntry]
  · intro noLeaf
    split
    · exact ⟨_, rfl⟩
    · rename_i four
      rw [Prog.gets_bind_apply]
      split
      · exact ⟨_, rfl⟩
      · rename_i three
        rw [Prog.gets_bind_apply]
        split
        · exact ⟨_, rfl⟩
        · rename_i two
          rw [Prog.gets_bind_apply]
          split
          · exact ⟨_, rfl⟩
          · rename_i one
            simp only [Bool.or_eq_true, beq_iff_eq, bne_iff_ne, ne_eq,
              not_or, not_not] at four three two one
            exact absurd ⟨⟨four, three.1, three.2, two.1, two.2⟩, one⟩
              noLeaf

/-! ## The entry of level 1 -/

/-- A flag word made of the constants of `PageFlags`. -/
inductive PageFlags.Combined : PageFlags → Prop where
  | empty : Combined .empty
  | union
      {flags constant : PageFlags}
      (combined : Combined flags)
      (isConstant : constant ∈ PageFlags.constants) :
      Combined (flags.union constant)

theorem PageFlags.Combined.apart
    (combined : flags.Combined) :
    flags.bits &&& entryAddrMask = 0 := by
  induction combined with
  | empty =>
      rfl
  | union _ isConstant inductionHypothesis =>
      have each :
          ∀ constant ∈ PageFlags.constants,
            constant.bits &&& entryAddrMask = 0 := by
        decide
      rw [PageFlags.union, or_and, inductionHypothesis, each _ isConstant]
      rfl

def leafEntry (frame : UInt64) (flags : PageFlags) : UInt64 :=
  (frame &&& entryAddrMask) ||| (flags.bits ||| present)

theorem leafFlags_apart
    (apart : flags.bits &&& entryAddrMask = 0) :
    (flags.bits ||| present) &&& entryAddrMask = 0 := by
  rw [or_and_of_disjoint _ (by decide : present &&& entryAddrMask = 0)]
  exact apart

theorem leafEntry_address
    (frame : UInt64)
    (apart : flags.bits &&& entryAddrMask = 0) :
    leafEntry frame flags &&& entryAddrMask = frame &&& entryAddrMask := by
  rw [leafEntry, or_and_of_disjoint _ (leafFlags_apart apart),
    UInt64.and_assoc, UInt64.and_self]

theorem leafEntry_flags
    (frame : UInt64)
    (apart : flags.bits &&& entryAddrMask = 0) :
    leafEntry frame flags &&& (~~~entryAddrMask ||| noExecute) =
      flags.bits ||| present := by
  have mask : ~~~entryAddrMask ||| noExecute = ~~~entryAddrMask := by decide
  have beside : frame &&& entryAddrMask &&& ~~~entryAddrMask = 0 := by
    rw [UInt64.and_assoc, UInt64.and_not_self, UInt64.and_zero]
  have low := leafFlags_apart apart
  rw [UInt64.and_comm] at low
  rw [mask, leafEntry, or_and, beside, UInt64.zero_or, UInt64.and_comm,
    not_and_of_disjoint low]

theorem leafEntry_present
    (frame : UInt64)
    (flags : PageFlags) :
    leafEntry frame flags &&& present ≠ 0 := by
  have bit : present &&& present ≠ 0 := by decide
  rw [leafEntry, ← UInt64.or_assoc]
  exact or_and_ne_zero _ bit

theorem mappingAt_leafEntry
    (virtualAddress frame : UInt64)
    (apart : flags.bits &&& entryAddrMask = 0) :
    mappingAt virtualAddress 1 (leafEntry frame flags) =
      some
        { virtualAddress := virtualAddress &&& ~~~(pageSize - 1)
          physicalAddress :=
            (frame &&& entryAddrMask) + (virtualAddress &&& (pageSize - 1))
          flags := flags.union .present
          pageSize := pageSize } := by
  unfold mappingAt
  rw [if_neg (by simpa using leafEntry_present frame flags),
    leafEntry_address frame apart, leafEntry_flags frame apart]
  rfl

theorem grows_of_leaf
    (sound : Sound allocate machine)
    (visited : (1, slot) ∈ path machine.memory machine.cr3 virtualAddress)
    (entry : UInt64) :
    Grows allocate machine (machine.setEntry slot entry) :=
  grows_of_same_paths (path_leaf sound.tables.tree visited entry)
    (update_of_no_table visited entry)

theorem sound_of_leaf
    (sound : Sound allocate machine)
    {virtualAddress entry : UInt64}
    (inRange : canonical virtualAddress = true)
    (visited : (1, slot) ∈ path machine.memory machine.cr3 virtualAddress)
    (forUser :
      entry &&& user ≠ 0 →
      ∀ visit ∈ path machine.memory machine.cr3 virtualAddress,
        1 < visit.1 →
        machine.memory visit.2 &&& user ≠ 0) :
    Sound allocate (machine.setEntry slot entry) := by
  have tree := sound.tables.tree
  have samePaths := path_leaf tree visited entry
  refine
    ⟨⟨tree.of_same_paths samePaths, ?_⟩,
      sound.fresh.of_same_paths samePaths⟩
  intro other mapping found isUser
  change
    translate (Function.update machine.memory slot entry) machine.cr3 other =
      some mapping at found
  change
    permits user (Function.update machine.memory slot entry) machine.cr3
      other = true
  by_cases same : SamePage other virtualAddress
  · rw [translate_leaf tree visited inRange entry same] at found
    have wanted := (contains_user_iff found).mp isUser
    rw [permits, samePaths, same.path, List.all_eq_true]
    intro visit visitedThere
    rw [bne_iff_ne]
    by_cases here : visit.2 = slot
    · rw [here, Function.update_self]
      exact wanted
    · rw [Function.update_of_ne here]
      apply forUser wanted visit visitedThere
      have bounds := Radix.level_of_mem_visits visitedThere
      apply Nat.lt_of_le_of_ne bounds.1
      intro isOne
      have met := Radix.visit_unique visited visitedThere isOne
      exact here (congrArg Prod.snd met).symm
  · obtain ⟨sameFind, samePermits⟩ :=
      translate_leaf_of_other tree visited inRange entry same
    have inRangeThere :
        canonical other = true :=
      Mapped.canonical (Option.isSome_iff_exists.mpr ⟨mapping, found⟩)
    rw [sameFind] at found
    rw [samePermits inRangeThere]
    exact sound.tables.userMonotone other mapping found isUser

/-! ## Mapping a page -/

/-- One page comes to be mapped, and nothing else shows. -/
structure Maps
    (before after : Machine κ)
    (virtualAddress physicalAddress : UInt64)
    (flags : PageFlags) : Prop where
  unmapped : translate before.memory before.cr3 virtualAddress = none
  here :
    ∀ offset : UInt64,
      offset.toNat < 4096 →
      translate after.memory after.cr3 (virtualAddress + offset) =
        some
          { virtualAddress := virtualAddress
            physicalAddress := physicalAddress + offset
            flags := flags.union .present
            pageSize := pageSize }
  elsewhere :
    ∀ other,
      ¬ SamePage other virtualAddress →
      translate after.memory after.cr3 other =
          translate before.memory before.cr3 other ∧
        (Accessible after.memory after.cr3 other ↔
          Accessible before.memory before.cr3 other)

theorem page_offset
    {virtualAddress offset : UInt64}
    (aligned : virtualAddress.toNat % 4096 = 0)
    (inside : offset.toNat < 4096) :
    SamePage (virtualAddress + offset) virtualAddress ∧
      (virtualAddress + offset) &&& ~~~(pageSize - 1) = virtualAddress ∧
      (virtualAddress + offset) &&& (pageSize - 1) = offset := by
  have bound := virtualAddress.toNat_lt
  have sum :
      (virtualAddress + offset).toNat =
        virtualAddress.toNat + offset.toNat := by
    rw [UInt64.toNat_add]
    omega
  have high := toNat_pageOf (virtualAddress + offset)
  have low := toNat_pageOffset (virtualAddress + offset)
  rw [pageOf] at high
  refine ⟨?_, UInt64.toNat_inj.mp ?_, UInt64.toNat_inj.mp ?_⟩
  · unfold SamePage
    omega
  · omega
  · omega

/-- `map_4k` came down to an absent entry of level 1 and wrote it. -/
def Placed
    (allocate : Allocate κ)
    (before : Machine κ)
    (virtualAddress physicalAddress : UInt64)
    (flags : PageFlags)
    (after : Machine κ) : Prop :=
  ∃ middle slot,
    Stage allocate before virtualAddress (flags.contains .user) 1 slot middle ∧
      middle.memory slot &&& present = 0 ∧
      after = middle.setEntry slot (leafEntry physicalAddress flags)

theorem Stage.start
    (sound : Sound allocate machine)
    (virtualAddress : UInt64)
    (isUser : Bool) :
    Stage allocate machine virtualAddress isUser 4
      ⟨machine.root, indexes virtualAddress 4⟩ machine where
  kept := Kept.refl sound
  visited := Radix.visit_first 3 _
  users _ _ visited above :=
    absurd above (Nat.not_lt.mpr (Radix.level_of_mem_visits visited).2)

/-- `map_4k` writes an absent entry of level 1 or shows nothing new. -/
theorem ensures_map4k
    (virtualAddress physicalAddress : UInt64)
    (flags : PageFlags) :
    Prog.Ensures
      (fun machine => machine = before ∧ Sound allocate before)
      (map4k allocate virtualAddress physicalAddress flags)
      (fun _ => Placed allocate before virtualAddress physicalAddress flags)
      (Kept allocate before) := by
  have refused :
      ∀ error : MapError,
        Prog.Ensures
          (fun machine => machine = before ∧ Sound allocate before)
          (Prog.fail error : Kernel κ MapError Unit)
          (fun _ =>
            Placed allocate before virtualAddress physicalAddress flags)
          (Kept allocate before) := by
    intro error
    apply Prog.Ensures.fail
    rintro machine ⟨rfl, sound⟩
    exact Kept.refl sound
  unfold map4k
  apply Prog.Ensures.ite
  · exact fun _ => refused _
  intro _
  apply Prog.Ensures.ite
  · exact fun _ => refused _
  intro _
  apply Prog.Ensures.ite
  · exact fun _ => refused _
  intro _
  have readsRoot :
      Prog.Ensures
        (fun machine => machine = before ∧ Sound allocate before)
        (Prog.gets Machine.root : Kernel κ MapError UInt64)
        (fun root =>
          Stage allocate before virtualAddress (flags.contains .user) 4
            ⟨root, indexes virtualAddress 4⟩)
        (Kept allocate before) := by
    apply Prog.Ensures.gets
    rintro machine ⟨rfl, sound⟩
    exact Stage.start sound _ _
  apply readsRoot.bind
  intro root
  apply Prog.Ensures.bind ensures_enterTop
  intro e4
  apply Prog.Ensures.bind ensures_enterTable
  intro e3
  apply Prog.Ensures.bind ensures_enterTable
  intro e2
  apply Prog.Ensures.bind ensures_readEntry
  intro e1
  apply Prog.Ensures.ite
  · intro _
    exact Prog.Ensures.fail fun machine ⟨stage, _⟩ => stage.kept
  intro absent
  apply Prog.Ensures.modify
  rintro machine ⟨stage, rfl⟩
  exact ⟨machine, _, stage, by simpa using absent, rfl⟩

section

variable
  (allocate : Allocate κ)
  (slot : TableSlot)

theorem ends_newTable
    (userBit : UInt64) :
    Prog.Ends (newTable allocate slot userBit) := by
  intro machine
  rw [newTable_eq]
  cases (allocate machine.supply).1 <;> exact fun stuck => nomatch stuck

theorem ends_enterTop
    (isUser : Bool)
    (userBit : UInt64) :
    Prog.Ends (enterTop allocate slot isUser userBit) :=
  .bind (.gets _) fun _ =>
    .ite (ends_newTable allocate slot userBit) (.ite (.fail _) (.pure _))

theorem ends_enterTable
    (isUser : Bool)
    (userBit : UInt64) :
    Prog.Ends (enterTable allocate slot isUser userBit) :=
  .bind (.gets _) fun _ =>
    .ite (.fail _) (.ite (ends_newTable allocate slot userBit)
      (.ite (.bind (.modify _) fun _ => .pure _) (.pure _)))

end

theorem ends_map4k
    (allocate : Allocate κ)
    (virtualAddress physicalAddress : UInt64)
    (flags : PageFlags) :
    Prog.Ends (map4k allocate virtualAddress physicalAddress flags) :=
  .ite (.fail _) (.ite (.fail _) (.ite (.fail _)
    (.bind (.gets _) fun _ =>
      .bind (ends_enterTop allocate _ _ _) fun _ =>
      .bind (ends_enterTable allocate _ _ _) fun _ =>
      .bind (ends_enterTable allocate _ _ _) fun _ =>
      .bind (.gets _) fun _ => .ite (.fail _) (.modify _))))

namespace Placed

variable
  {physicalAddress : UInt64}
  {flags : PageFlags}
  {after : Machine κ}

section

variable (placed :
      Placed allocate before virtualAddress physicalAddress flags after)

include placed

theorem maps
    (inRange : canonical virtualAddress = true)
    (aligned : virtualAddress.toNat % 4096 = 0)
    (physicalFits : physicalAddress &&& entryAddrMask = physicalAddress)
    (apart : flags.bits &&& entryAddrMask = 0) :
    Maps before after virtualAddress physicalAddress flags := by
  obtain ⟨middle, slot, ⟨kept, visited, _⟩, absent, rfl⟩ := placed
  have tree := kept.sound.tables.tree
  have sameRoot := kept.grows.cr3
  have view := kept.view
  rw [← sameRoot] at view
  constructor
  · have ends := Radix.getLast?_of_stopped visited (descends_one _)
    rw [← sameRoot, ← view.translation, translate_of_last inRange ends]
    exact mappingAt_of_absent absent
  · intro offset inside
    obtain ⟨same, high, low⟩ := page_offset aligned inside
    rw [Machine.memory_setEntry]
    rw [show (middle.setEntry slot (leafEntry physicalAddress flags)).cr3 =
      middle.cr3 from rfl, translate_leaf tree visited inRange _ same,
      mappingAt_leafEntry _ _ apart, high, low, physicalFits]
  · intro other different
    obtain ⟨sameFind, samePermits⟩ :=
      translate_leaf_of_other tree visited inRange
        (leafEntry physicalAddress flags) different
    rw [← sameRoot]
    constructor
    · rw [← view.translation]
      exact sameFind
    · rw [← view.accessible, Accessible, Accessible, Mapped, Mapped]
      change
        (translate (Function.update middle.memory slot _) middle.cr3 other).isSome =
              true ∧
            permits user (Function.update middle.memory slot _) middle.cr3 other =
              true ↔ _
      rw [sameFind]
      apply and_congr_right
      intro mapped
      rw [samePermits (Mapped.canonical mapped)]

theorem sound
    (inRange : canonical virtualAddress = true) :
    Sound allocate after := by
  obtain ⟨middle, slot, ⟨kept, visited, users⟩, _, rfl⟩ := placed
  apply sound_of_leaf kept.sound inRange visited
  intro isUser
  apply users
  have noAddress : entryAddrMask &&& user = 0 := by decide
  have noPresent : present &&& user = 0 := by decide
  rw [leafEntry, ← UInt64.or_assoc, or_and_of_disjoint _ noPresent, or_and,
    UInt64.and_assoc, noAddress, UInt64.and_zero, UInt64.zero_or] at isUser
  rw [PageFlags.contains, PageFlags.user, beq_iff_eq]
  exact (@and_bit flags.bits user 2 rfl).resolve_left isUser

theorem grows :
    Grows allocate before after := by
  obtain ⟨middle, slot, ⟨kept, visited, _⟩, _, rfl⟩ := placed
  exact kept.grows.trans (grows_of_leaf kept.sound visited _)

theorem unmaps
    (inRange : canonical virtualAddress = true)
    (aligned : virtualAddress.toNat % 4096 = 0)
    (physicalFits : physicalAddress &&& entryAddrMask = physicalAddress)
    (apart : flags.bits &&& entryAddrMask = 0) :
    ∃ restored,
      unmap4k virtualAddress after = .ok physicalAddress restored ∧
        ∀ other,
          translate restored.memory restored.cr3 other =
            translate before.memory before.cr3 other := by
  obtain ⟨middle, slot, ⟨kept, visited, _⟩, absent, rfl⟩ := placed
  have tree := kept.sound.tables.tree
  have sameRoot := kept.grows.cr3
  have view := kept.view
  rw [← sameRoot] at view
  have samePath := path_leaf tree visited (leafEntry physicalAddress flags)
    virtualAddress
  have isLeaf :
      (middle.setEntry slot (leafEntry physicalAddress flags)).memory slot =
        leafEntry physicalAddress flags := by
    rw [Machine.memory_setEntry, Function.update_self]
  have unmapped :=
    @unmap4k_of_leaf κ
      (middle.setEntry slot (leafEntry physicalAddress flags))
      virtualAddress slot inRange aligned (samePath ▸ visited)
      (by
        rw [isLeaf]
        exact leafEntry_present physicalAddress flags)
  rw [isLeaf, leafEntry_address _ apart, physicalFits,
    Machine.setEntry_setEntry] at unmapped
  refine ⟨_, unmapped, ?_⟩
  intro other
  rw [← sameRoot, ← view.translation, Machine.memory_setEntry,
    Machine.cr3_setEntry]
  by_cases same : SamePage other virtualAddress
  · rw [translate_leaf tree visited inRange 0 same,
      mappingAt_of_absent (UInt64.zero_and ..)]
    have otherInRange : canonical other = true := by
      rw [same.canonical]
      exact inRange
    have ends := Radix.getLast?_of_stopped visited (descends_one _)
    rw [← path, ← same.path] at ends
    rw [translate_of_last otherInRange ends, mappingAt_of_absent absent]
  · exact (translate_leaf_of_other tree visited inRange 0 same).1

end

end Placed

/-! ## Protecting a page -/

/-- One page gets other flags, and nothing else changes. -/
structure Protects
    (before after : Machine κ)
    (virtualAddress : UInt64)
    (flags : PageFlags) : Prop where
  here :
    ∀ other,
      SamePage other virtualAddress →
      translate after.memory after.cr3 other =
        (translate before.memory before.cr3 other).map
          (fun mapping => { mapping with flags := flags.union .present })
  elsewhere :
    ∀ other,
      ¬ SamePage other virtualAddress →
      translate after.memory after.cr3 other =
        translate before.memory before.cr3 other

theorem protects_of_leaf
    (tree : Tree machine.memory machine.cr3)
    (inRange : canonical virtualAddress = true)
    (visited : (1, slot) ∈ path machine.memory machine.cr3 virtualAddress)
    (isPresent : machine.memory slot &&& present ≠ 0)
    (apart : flags.bits &&& entryAddrMask = 0) :
    Protects machine
      (machine.setEntry slot (leafEntry (machine.memory slot) flags))
      virtualAddress flags := by
  constructor
  · intro other same
    have otherInRange : canonical other = true := by
      rw [same.canonical]
      exact inRange
    have ends := Radix.getLast?_of_stopped visited (descends_one _)
    rw [← path, ← same.path] at ends
    have reports :
        mappingAt other 1 (machine.memory slot) =
          some
            { virtualAddress := other &&& ~~~(pageSize - 1)
              physicalAddress :=
                (machine.memory slot &&& entryAddrMask) +
                  (other &&& (pageSize - 1))
              flags :=
                ⟨machine.memory slot &&& (~~~entryAddrMask ||| noExecute)⟩
              pageSize := pageSize } := by
      unfold mappingAt
      rw [if_neg (by simpa using isPresent)]
      rfl
    rw [Machine.memory_setEntry, Machine.cr3_setEntry,
      translate_leaf tree visited inRange _ same,
      mappingAt_leafEntry _ _ apart, translate_of_last otherInRange ends,
      reports, Option.map_some]
  · intro other different
    exact (translate_leaf_of_other tree visited inRange _ different).1

/-! ## The laws -/

/-- What `map_4k` does, and what `unmap_4k` makes of it. -/
def MapLaw
    (allocate : Allocate κ)
    (before : Machine κ)
    (virtualAddress physicalAddress : UInt64)
    (flags : PageFlags) : Prop :=
  match map4k allocate virtualAddress physicalAddress flags before with
  | .ok _ after =>
      Maps before after virtualAddress physicalAddress flags ∧
        TableWellFormed after.memory after.cr3 ∧
        ∃ restored,
          unmap4k virtualAddress after = .ok physicalAddress restored ∧
            ∀ other,
              translate restored.memory restored.cr3 other =
                translate before.memory before.cr3 other
  | .err _ after =>
      ∀ other,
        translate after.memory after.cr3 other =
          translate before.memory before.cr3 other
  | .hang => False

/-- What `protect_4k` does. -/
def ProtectLaw
    (before : Machine κ)
    (virtualAddress : UInt64)
    (flags : PageFlags) : Prop :=
  match protect4k virtualAddress flags before with
  | .ok _ after =>
      MappedSmall before.memory before.cr3 virtualAddress ∧
        Protects before after virtualAddress flags
  | .err _ after =>
      ¬ MappedSmall before.memory before.cr3 virtualAddress ∧
        after = before
  | .hang => False

theorem mapLaw
    (sound : Sound allocate before)
    {physicalAddress : UInt64}
    (inRange : canonical virtualAddress = true)
    (aligned : virtualAddress.toNat % 4096 = 0)
    (physicalFits : physicalAddress &&& entryAddrMask = physicalAddress)
    (apart : flags.bits &&& entryAddrMask = 0) :
    MapLaw allocate before virtualAddress physicalAddress flags := by
  obtain ⟨onReturn, onError⟩ :=
    ensures_map4k virtualAddress physicalAddress flags before ⟨rfl, sound⟩
  unfold MapLaw
  cases result :
      map4k allocate virtualAddress physicalAddress flags before with
  | ok value after =>
      have placed := onReturn _ _ result
      exact
        ⟨placed.maps inRange aligned physicalFits apart,
          (placed.sound inRange).tables,
          placed.unmaps inRange aligned physicalFits apart⟩
  | err error after =>
      have kept := onError _ _ result
      intro other
      rw [kept.grows.cr3]
      exact kept.view.translation other
  | hang =>
      exact ends_map4k allocate virtualAddress physicalAddress flags before
        result

theorem protectLaw
    (tree : Tree before.memory before.cr3)
    (inRange : canonical virtualAddress = true)
    (aligned : virtualAddress.toNat % 4096 = 0)
    (apart : flags.bits &&& entryAddrMask = 0) :
    ProtectLaw before virtualAddress flags := by
  obtain ⟨onLeaf, onOther⟩ :=
    @protect4k_eq flags κ before virtualAddress inRange aligned
  unfold ProtectLaw
  by_cases small : MappedSmall before.memory before.cr3 virtualAddress
  · obtain ⟨leads, isPresent⟩ := (mappedSmall_iff inRange).mp small
    rw [onLeaf small]
    exact ⟨small, protects_of_leaf tree inRange
      (mem_path_one.mpr ⟨leads, rfl⟩) isPresent apart⟩
  · obtain ⟨error, failed⟩ := onOther small
    rw [failed]
    exact ⟨small, rfl⟩

/-- The laws of a well-formed page table. -/
theorem page_table_laws
    {κ : Type}
    (allocate : Allocate κ)
    (before : Machine κ)
    (virtualAddress physicalAddress : UInt64)
    (flags : PageFlags)
    (tables : TableWellFormed before.memory before.cr3)
    (fresh : Fresh allocate before)
    (inRange : canonical virtualAddress = true)
    (aligned : virtualAddress.toNat % 4096 = 0)
    (physicalAligned : physicalAddress.toNat % 4096 = 0)
    (physicalBelow : physicalAddress.toNat < 2 ^ 52)
    (combined : flags.Combined) :
    MapLaw allocate before virtualAddress physicalAddress flags ∧
      ProtectLaw before virtualAddress flags :=
  ⟨mapLaw ⟨tables, fresh⟩ inRange aligned
      (and_entryAddrMask physicalBelow physicalAligned) combined.apart,
    protectLaw tables.tree inRange aligned combined.apart⟩

/-- A root without entries, and one mebibyte for the allocator. -/
def emptyTables : Machine FrameAllocator where
  memory _ := 0
  cr3 := 0x1000
  supply := FrameAllocator.new [⟨0x100000, 0x200000, true⟩]

theorem emptyTables_absent
    (slot : TableSlot) :
    emptyTables.memory slot &&& present = 0 :=
  UInt64.zero_and ..

theorem path_emptyTables
    (virtualAddress : UInt64) :
    path emptyTables.memory emptyTables.cr3 virtualAddress =
      [(4, ⟨0x1000, indexes virtualAddress 4⟩)] := by
  have root : emptyTables.cr3 &&& entryAddrMask = 0x1000 := by decide
  rw [path, Radix.visits, descends_of_absent (emptyTables_absent _),
    if_neg Bool.false_ne_true, root]

theorem tableWellFormed_emptyTables :
    TableWellFormed emptyTables.memory emptyTables.cr3 := by
  constructor
  · intro left right here there hereVisited thereVisited _
    rw [← path, path_emptyTables, List.mem_singleton]
      at hereVisited thereVisited
    rw [hereVisited, thereVisited]
    refine ⟨rfl, ?_⟩
    intro upper above below
    exact absurd below (Nat.not_le.mpr above)
  · intro virtualAddress mapping found
    rw [translate_eq, path_emptyTables, List.getLast?_singleton,
      Option.bind_some, mappingAt_of_absent (emptyTables_absent _),
      ite_self] at found
    cases found

theorem wellFormed_supply_emptyTables :
    emptyTables.supply.WellFormed := by
  constructor
  · intro first second region other ordered _ otherFound
    have inside := (List.getElem?_eq_some_iff.mp otherFound).1
    have one : second < 1 := inside
    omega
  · intro region isRegion
    have same := List.mem_singleton.mp isRegion
    rw [same]
    decide
  · rfl

theorem fresh_emptyTables :
    Fresh FrameAllocator.allocate emptyTables := by
  have wellFormed := wellFormed_supply_emptyTables
  apply FrameAllocator.fresh wellFormed
  rintro frame supplied ⟨virtualAddress, visit, visited, rfl⟩
  obtain ⟨_, region, _, _, ⟨_, _, above, _⟩, _⟩ :=
    supplied.held wellFormed.aligned
  rw [← path, path_emptyTables, List.mem_singleton] at visited
  rw [visited] at above
  have low : ¬ reservedLowMemory ≤ 0x1000 := by decide
  exact low above

/-- The laws hold for the first page of a program. -/
theorem first_page_laws :
    MapLaw FrameAllocator.allocate emptyTables 0x400000 0x5000
        (PageFlags.empty.union .user) ∧
      ProtectLaw emptyTables 0x400000 (PageFlags.empty.union .user) :=
  page_table_laws FrameAllocator.allocate emptyTables 0x400000 0x5000
    (PageFlags.empty.union .user) tableWellFormed_emptyTables
    fresh_emptyTables (by decide) (by decide) (by decide) (by decide)
    (.union .empty (by decide))

end VibuxOS.Paging
