import VibuxOS.Paging.MappingLaws

namespace VibuxOS.Paging

open VibuxOS.Lib

/-!
# When `map_4k` maps

A page that nothing is mapped at can be mapped while the callback returns frames:
below the root the tables let everybody through or are made to, and a huge page
would show.  Only the root may keep the user out.  What it lets through once it
lets through for ever, as `map_4k` for the user makes no other entries there.
-/

variable {κ : Type} {allocate : Allocate κ} {before machine : Machine κ}

/-! ## The callback -/

/-- The callback returns a frame in so many calls. -/
def Enough (allocate : Allocate κ) (supply : κ) (count : Nat) : Prop :=
  ∀ call, call < count → (handed allocate supply call).isSome

theorem Enough.mono
    {supply : κ}
    {less more : Nat}
    (enough : Enough allocate supply more)
    (fewer : less ≤ more) :
    Enough allocate supply less :=
  fun call inside => enough call (Nat.lt_of_lt_of_le inside fewer)

theorem Enough.next
    {supply : κ}
    {count : Nat}
    (enough : Enough allocate supply (count + 1)) :
    (∃ frame, (allocate supply).1 = some frame) ∧
      Enough allocate (allocate supply).2 count := by
  constructor
  · have first := enough 0 (Nat.succ_pos count)
    rw [handed, Function.iterate_zero_apply, Option.isSome_map] at first
    exact Option.isSome_iff_exists.mp first
  · intro call inside
    rw [handed_next]
    exact enough (call + 1) (Nat.succ_lt_succ inside)

/-! ## The root -/

/-- The root has no entry for an address, or one that lets the user through. -/
def TopOpen (machine : Machine κ) (address : UInt64) : Prop :=
  machine.memory ⟨machine.root, indexes address 4⟩ &&& present ≠ 0 →
  machine.memory ⟨machine.root, indexes address 4⟩ &&& user ≠ 0

theorem TopOpen.of_words
    {after : Machine κ}
    {address : UInt64}
    (isOpen : TopOpen machine address)
    (sameRoot : after.cr3 = machine.cr3)
    (words :
      ∀ index,
        after.memory ⟨machine.root, index⟩ =
          machine.memory ⟨machine.root, index⟩) :
    TopOpen after address := by
  have root : after.root = machine.root := by
    rw [Machine.root, sameRoot, Machine.root]
  unfold TopOpen
  rw [root, words]
  exact isOpen

theorem tableFrame_root (machine : Machine κ) :
    TableFrame machine.memory machine.cr3 machine.root :=
  Radix.Reaches.first 0 3

section Down

variable
  {virtualAddress address : UInt64}
  {isUser : Bool}
  {lower : Nat}
  {slot : TableSlot}

theorem Stage.topOpen_newTable
    (stage :
      Stage allocate before virtualAddress true (lower + 2) slot machine)
    {allocated : UInt64}
    (isHanded : (allocate machine.supply).1 = some allocated)
    (isOpen : TopOpen machine address) :
    TopOpen
      { memory :=
          withTable machine.memory slot (allocated &&& entryAddrMask)
            (tableEntry (allocated &&& entryAddrMask) (userBitOf true))
        cr3 := machine.cr3
        supply := (allocate machine.supply).2 }
      address := by
  have new : machine.root ≠ allocated &&& entryAddrMask := by
    intro isNew
    apply stage.kept.sound.fresh.unused _ (Pending.now isHanded)
    rw [← isNew]
    exact tableFrame_root machine
  by_cases here : (⟨machine.root, indexes address 4⟩ : TableSlot) = slot
  · intro _
    change
      withTable machine.memory slot _ _ ⟨machine.root, indexes address 4⟩ &&&
          user ≠
        0
    rw [here, TakesTable.here, tableEntry]
    exact or_and_ne_zero _ (by decide)
  · unfold TopOpen
    change
      withTable machine.memory slot _ _ ⟨machine.root, indexes address 4⟩ &&&
            present ≠
          0 →
        withTable machine.memory slot _ _ ⟨machine.root, indexes address 4⟩ &&&
            user ≠
          0
    rw [TakesTable.elsewhere here new]
    exact isOpen

theorem topOpen_upgrade (isOpen : TopOpen machine address) :
    TopOpen (machine.setEntry slot (machine.memory slot ||| user)) address := by
  unfold TopOpen
  change
    Function.update machine.memory slot _ ⟨machine.root, indexes address 4⟩ &&&
          present ≠
        0 →
      Function.update machine.memory slot _ ⟨machine.root, indexes address 4⟩ &&&
          user ≠
        0
  by_cases here : (⟨machine.root, indexes address 4⟩ : TableSlot) = slot
  · rw [here, Function.update_self]
    exact fun _ => or_and_ne_zero _ (by decide)
  · rw [Function.update_of_ne here]
    exact isOpen

theorem topOpen_leaf
    {entry : UInt64}
    (tree : Tree machine.memory machine.cr3)
    (visited :
      (1, slot) ∈ path machine.memory machine.cr3 virtualAddress)
    (isOpen : TopOpen machine address) :
    TopOpen (machine.setEntry slot entry) address := by
  apply
    @TopOpen.of_words κ machine (machine.setEntry slot entry) address isOpen rfl
  intro index
  rw [Machine.memory_setEntry, Function.update_of_ne]
  rintro rfl
  have first :
      (4, ⟨machine.root, indexes address 4⟩) ∈
        path machine.memory machine.cr3 address :=
    Radix.visit_first 3 _
  have sameLevel :=
    (tree address virtualAddress _ _ first visited rfl).1
  cases sameLevel

theorem ensures_topOpen_newTable :
    Prog.Ensures
      (fun machine =>
        Stage allocate before virtualAddress true (lower + 2) slot machine ∧
          TopOpen machine address)
      (newTable allocate slot (userBitOf true))
      (fun _ machine => TopOpen machine address)
      (TopOpen · address) := by
  rintro machine ⟨stage, isOpen⟩
  rw [newTable_eq]
  cases isHanded : (allocate machine.supply).1 with
  | none =>
      constructor
      · intro _ _ returned
        cases returned
      · intro _ _ failed
        cases failed
        exact isOpen
  | some allocated =>
      constructor
      · intro _ _ returned
        cases returned
        exact stage.topOpen_newTable isHanded isOpen
      · intro _ _ failed
        cases failed

theorem ensures_topOpen_enterTop :
    Prog.Ensures
      (fun machine =>
        Stage allocate before virtualAddress true 4 slot machine ∧
          TopOpen machine address)
      (enterTop allocate slot true (userBitOf true))
      (fun _ machine => TopOpen machine address)
      (TopOpen · address) := by
  apply Prog.Ensures.bind ensures_readEntry
  intro entry
  apply Prog.Ensures.ite
  · intro _
    exact ensures_topOpen_newTable.weaken fun _ known => known.1
  · intro _
    apply Prog.Ensures.ite
    · exact fun _ => .fail fun _ known => known.1.2
    · exact fun _ => .pure fun _ known => known.1.2

theorem ensures_topOpen_enterTable :
    Prog.Ensures
      (fun machine =>
        Stage allocate before virtualAddress true (lower + 2) slot machine ∧
          TopOpen machine address)
      (enterTable allocate slot true (userBitOf true))
      (fun _ machine => TopOpen machine address)
      (TopOpen · address) := by
  apply Prog.Ensures.bind ensures_readEntry
  intro entry
  apply Prog.Ensures.ite
  · exact fun _ => .fail fun _ known => known.1.2
  · intro _
    apply Prog.Ensures.ite
    · intro _
      exact ensures_topOpen_newTable.weaken fun _ known => known.1
    · intro _
      apply Prog.Ensures.ite
      · intro _
        have upgraded :
            Prog.Ensures
              (fun machine =>
                (Stage allocate before virtualAddress true (lower + 2) slot
                      machine ∧
                    TopOpen machine address) ∧
                  machine.memory slot = entry)
              (writeEntry slot (entry ||| user) : Kernel κ MapError Unit)
              (fun _ machine => TopOpen machine address)
              (TopOpen · address) := by
          apply Prog.Ensures.modify
          rintro machine ⟨⟨_, isOpen⟩, rfl⟩
          exact topOpen_upgrade isOpen
        exact upgraded.bind fun _ => .pure fun _ isOpen => isOpen
      · exact fun _ => .pure fun _ known => known.1.2

end Down

theorem ensures_topOpen_map4k
    {flags : PageFlags}
    (isUser : flags.contains .user = true)
    (virtualAddress physicalAddress address : UInt64) :
    Prog.Ensures
      (fun machine =>
        machine = before ∧ Sound allocate before ∧ TopOpen before address)
      (map4k allocate virtualAddress physicalAddress flags)
      (fun _ machine => TopOpen machine address)
      (TopOpen · address) := by
  have refused :
      ∀ error : MapError,
        Prog.Ensures
          (fun machine =>
            machine = before ∧ Sound allocate before ∧ TopOpen before address)
          (Prog.fail error : Kernel κ MapError Unit)
          (fun _ machine => TopOpen machine address)
          (TopOpen · address) := by
    intro error
    apply Prog.Ensures.fail
    rintro machine ⟨rfl, _, isOpen⟩
    exact isOpen
  unfold map4k
  dsimp only
  rw [isUser]
  apply Prog.Ensures.ite
  · exact fun _ => refused _
  intro _
  apply Prog.Ensures.ite
  · exact fun _ => refused _
  intro _
  apply Prog.Ensures.ite
  · exact fun _ => refused _
  intro _
  have readsRoot :
      Prog.Ensures
        (fun machine =>
          machine = before ∧ Sound allocate before ∧ TopOpen before address)
        (Prog.gets Machine.root : Kernel κ MapError UInt64)
        (fun root machine =>
          Stage allocate before virtualAddress true 4
              ⟨root, indexes virtualAddress 4⟩ machine ∧
            TopOpen machine address)
        (TopOpen · address) := by
    apply Prog.Ensures.gets
    rintro machine ⟨rfl, sound, isOpen⟩
    exact ⟨Stage.start sound _ _, isOpen⟩
  apply readsRoot.bind
  intro root
  apply Prog.Ensures.bind
    ((ensures_enterTop.weaken fun _ known => known.1).both
      ensures_topOpen_enterTop)
  intro e4
  apply Prog.Ensures.bind
    ((ensures_enterTable.weaken fun _ known => known.1).both
      ensures_topOpen_enterTable)
  intro e3
  apply Prog.Ensures.bind
    ((ensures_enterTable.weaken fun _ known => known.1).both
      ensures_topOpen_enterTable)
  intro e2
  apply Prog.Ensures.bind ensures_readEntry
  intro e1
  apply Prog.Ensures.ite
  · exact fun _ => .fail fun _ known => known.1.2
  · intro _
    apply Prog.Ensures.modify
    rintro machine ⟨⟨stage, isOpen⟩, _⟩
    exact topOpen_leaf stage.kept.sound.tables.tree stage.visited isOpen

/-! ## The way down without a refusal -/

section Progress

variable
  {virtualAddress : UInt64}
  {lower count : Nat}
  {slot : TableSlot}

theorem Stage.notHuge
    (stage :
      Stage allocate before virtualAddress true (lower + 2) slot machine)
    (inRange : canonical virtualAddress = true)
    (free : ¬ Mapped before.memory before.cr3 virtualAddress)
    (belowRoot : lower < 2)
    (isPresent : machine.memory slot &&& present ≠ 0) :
    machine.memory slot &&& huge = 0 := by
  by_contra isHuge
  have stopped : shape.descends (lower + 2) (machine.memory slot) = false := by
    have notFour : lower ≠ 2 := Nat.ne_of_lt belowRoot
    simp [shape, isHuge, notFour]
  have ends := Radix.getLast?_of_stopped stage.visited stopped
  have mapped := (mapped_iff_of_last inRange ends).mpr isPresent
  rw [stage.kept.grows.cr3, stage.kept.view.mapped] at mapped
  exact free mapped

theorem Stage.absent
    (stage : Stage allocate before virtualAddress true 1 slot machine)
    (inRange : canonical virtualAddress = true)
    (free : ¬ Mapped before.memory before.cr3 virtualAddress) :
    machine.memory slot &&& present = 0 := by
  by_contra isPresent
  have ends := Radix.getLast?_of_stopped stage.visited (descends_one _)
  have mapped := (mapped_iff_of_last inRange ends).mpr isPresent
  rw [stage.kept.grows.cr3, stage.kept.view.mapped] at mapped
  exact free mapped

theorem ensures_enough_newTable (slot : TableSlot) (userBit : UInt64) :
    Prog.Ensures
      (fun machine => Enough allocate machine.supply (count + 1))
      (newTable allocate slot userBit)
      (fun _ machine => Enough allocate machine.supply count)
      (fun _ => False) := by
  intro machine enough
  obtain ⟨⟨frame, isHanded⟩, left⟩ := enough.next
  rw [newTable_eq, isHanded]
  constructor
  · intro _ _ returned
    cases returned
    exact left
  · intro _ _ failed
    cases failed

theorem ensures_enough_enterTop :
    Prog.Ensures
      (fun machine =>
        Stage allocate before virtualAddress true 4 slot machine ∧
          TopOpen machine virtualAddress ∧
          Enough allocate machine.supply (count + 1))
      (enterTop allocate slot true (userBitOf true))
      (fun _ machine => Enough allocate machine.supply count)
      (fun _ => False) := by
  apply Prog.Ensures.bind ensures_readEntry
  intro entry
  apply Prog.Ensures.ite
  · intro _
    exact
      (ensures_enough_newTable slot _).weaken fun _ known => known.1.2.2
  · intro isPresent
    apply Prog.Ensures.ite
    · intro closed
      apply Prog.Ensures.fail
      rintro machine ⟨⟨stage, isOpen, _⟩, rfl⟩
      have first :
          (4, ⟨machine.root, indexes virtualAddress 4⟩) ∈
            path machine.memory machine.cr3 virtualAddress :=
        Radix.visit_first 3 _
      have isFirst :=
        Radix.visit_unique stage.visited first rfl
      obtain ⟨_, rfl⟩ := Prod.mk.inj isFirst
      rw [Bool.true_and, beq_iff_eq] at closed
      exact isOpen (by simpa using isPresent) closed
    · exact fun _ =>
        .pure fun _ known => known.1.2.2.mono (Nat.le_succ count)

theorem ensures_enough_enterTable
    (inRange : canonical virtualAddress = true)
    (free : ¬ Mapped before.memory before.cr3 virtualAddress)
    (belowRoot : lower < 2) :
    Prog.Ensures
      (fun machine =>
        Stage allocate before virtualAddress true (lower + 2) slot machine ∧
          Enough allocate machine.supply (count + 1))
      (enterTable allocate slot true (userBitOf true))
      (fun _ machine => Enough allocate machine.supply count)
      (fun _ => False) := by
  apply Prog.Ensures.bind ensures_readEntry
  intro entry
  apply Prog.Ensures.ite
  · intro isHuge
    apply Prog.Ensures.fail
    rintro machine ⟨⟨stage, _⟩, rfl⟩
    rw [Bool.and_eq_true, bne_iff_ne, bne_iff_ne] at isHuge
    exact isHuge.2 (stage.notHuge inRange free belowRoot isHuge.1)
  · intro _
    apply Prog.Ensures.ite
    · intro _
      exact
        (ensures_enough_newTable slot _).weaken fun _ known => known.1.2
    · intro _
      apply Prog.Ensures.ite
      · intro _
        have upgraded :
            Prog.Ensures
              (fun machine =>
                (Stage allocate before virtualAddress true (lower + 2) slot
                      machine ∧
                    Enough allocate machine.supply (count + 1)) ∧
                  machine.memory slot = entry)
              (writeEntry slot (entry ||| user) : Kernel κ MapError Unit)
              (fun _ machine => Enough allocate machine.supply (count + 1))
              (fun _ => False) :=
          .modify fun _ known => known.1.2
        exact
          upgraded.bind fun _ =>
            .pure fun _ enough => enough.mono (Nat.le_succ count)
      · exact fun _ => .pure fun _ known => known.1.2.mono (Nat.le_succ count)

end Progress

theorem map4k_returns
    {flags : PageFlags}
    {virtualAddress physicalAddress : UInt64}
    {count : Nat}
    (sound : Sound allocate machine)
    (isUser : flags.contains .user = true)
    (inRange : canonical virtualAddress = true)
    (aligned : virtualAddress.toNat % 4096 = 0)
    (frameAligned : physicalAddress.toNat % 4096 = 0)
    (below : virtualAddress < userLimit)
    (free : ¬ Mapped machine.memory machine.cr3 virtualAddress)
    (isOpen : TopOpen machine virtualAddress)
    (enough : Enough allocate machine.supply (count + 3)) :
    ∃ after,
      map4k allocate virtualAddress physicalAddress flags machine =
          .ok () after ∧
        Enough allocate after.supply count := by
  have returns :
      Prog.Ensures (fun state => state = machine)
        (map4k allocate virtualAddress physicalAddress flags)
        (fun _ after => Enough allocate after.supply count)
        (fun _ => False) := by
    have offset := toNat_pageOffset virtualAddress
    have frameOffset := toNat_pageOffset physicalAddress
    have isPage : virtualAddress &&& (pageSize - 1) = 0 := by
      rw [← UInt64.toNat_inj, offset, aligned, UInt64.toNat_zero]
    have isFrame : physicalAddress &&& (pageSize - 1) = 0 := by
      rw [← UInt64.toNat_inj, frameOffset, frameAligned, UInt64.toNat_zero]
    unfold map4k
    dsimp only
    rw [inRange, isUser, isPage, isFrame, Bool.not_true,
      if_neg Bool.false_ne_true, if_neg (by decide),
      if_neg (by simpa using below)]
    have readsRoot :
        Prog.Ensures (fun state => state = machine)
          (Prog.gets Machine.root : Kernel κ MapError UInt64)
          (fun root state =>
            Stage allocate machine virtualAddress true 4
                ⟨root, indexes virtualAddress 4⟩ state ∧
              TopOpen state virtualAddress ∧
              Enough allocate state.supply (count + 3))
          (fun _ => False) := by
      apply Prog.Ensures.gets
      rintro state rfl
      exact ⟨Stage.start sound _ _, isOpen, enough⟩
    apply readsRoot.bind
    intro root
    apply Prog.Ensures.bind
      ((ensures_enterTop.weaken fun _ known => known.1).both
        ensures_enough_enterTop)
    intro e4
    apply Prog.Ensures.bind
      ((ensures_enterTable.weaken fun _ known => known.1).both
        (ensures_enough_enterTable inRange free (by decide)))
    intro e3
    apply Prog.Ensures.bind
      ((ensures_enterTable.weaken fun _ known => known.1).both
        (@ensures_enough_enterTable _ _ _ _ 0 _ _ inRange free (by decide)))
    intro e2
    apply Prog.Ensures.bind ensures_readEntry
    intro e1
    apply Prog.Ensures.ite
    · intro taken
      apply Prog.Ensures.fail
      rintro state ⟨⟨stage, _⟩, rfl⟩
      rw [bne_iff_ne] at taken
      exact taken (stage.absent inRange free)
    · exact fun _ => .modify fun _ known => known.1.2
  cases result : map4k allocate virtualAddress physicalAddress flags machine with
  | ok value after =>
      exact ⟨after, rfl, (returns machine rfl).1 _ _ result⟩
  | err error after =>
      exact ((returns machine rfl).2 _ _ result).elim
  | hang =>
      exact (ends_map4k allocate virtualAddress physicalAddress flags _ result).elim

end VibuxOS.Paging
