import VibuxOS.Paging.PhysicalWrites
import VibuxOS.UserSpace.UserBuffers

namespace VibuxOS.UserSpace

open VibuxOS.Lib VibuxOS.Paging

/-!
# The loop of `mremap`

The loop loads up to a page of bytes through the old addresses and stores them
through the new ones.  A load changes nothing.  A store changes the bytes behind
the new addresses, so while none of those is behind an old address, the loop
moves what was there when it began.
-/

variable {κ : Type}

def loadedByte (machine : Machine κ) (address : UInt64) : Option UInt8 :=
  ((addressSpace machine).target address).map (memoryByte machine.memory)

theorem loadedByte_of_target
    {machine : Machine κ}
    {address physical : UInt64}
    (found : (addressSpace machine).target address = some physical) :
    loadedByte machine address = some (memoryByte machine.memory physical) := by
  rw [loadedByte, found, Option.map_some]

/-! ## A copy that stores nothing -/

theorem pageOf_frame_offset
    {frame : UInt64}
    (isPage : pageOf frame = frame)
    {offset : Nat}
    (inside : offset < 4096) :
    pageOf (frame + UInt64.ofNat offset) = frame ∧
      (frame + UInt64.ofNat offset).toNat % 4096 = offset := by
  have aligned : frame.toNat % 4096 = 0 := by
    have start := toNat_pageOf frame
    rw [isPage] at start
    omega
  have small : (UInt64.ofNat offset).toNat = offset := by
    rw [UInt64.toNat_ofNat']
    omega
  have sum := @toNat_page_add frame (UInt64.ofNat offset) aligned (by omega)
  obtain ⟨_, samePage, _⟩ :=
    @page_offset frame (UInt64.ofNat offset) aligned (by omega)
  exact ⟨samePage, by omega⟩

theorem memoryByte_frame_add
    (memory : Memory)
    {frame : UInt64}
    (isPage : pageOf frame = frame)
    {offset : Nat}
    (inside : offset < 4096) :
    memoryByte memory (frame + UInt64.ofNat offset) =
      frameByte memory frame offset := by
  obtain ⟨samePage, within⟩ := pageOf_frame_offset isPage inside
  rw [memoryByte, samePage, within]

theorem withBytes_of_same
    {memory : Memory}
    {bytes : UInt64 → UInt8}
    {slot : TableSlot}
    (same :
      pageOf slot.frame = slot.frame →
      ∀ offset,
        offset < 4096 →
        bytes (slot.frame + UInt64.ofNat offset) =
          memoryByte memory (slot.frame + UInt64.ofNat offset)) :
    withBytes memory bytes slot = memory slot := by
  unfold withBytes
  split
  · rename_i isWord
    obtain ⟨isPage, below⟩ := isWord
    rw [← getU64_frameByte memory slot]
    apply getU64_congr
    intro index inWord
    have inside : 8 * slot.index + index < 4096 := by omega
    rw [same isPage _ inside, memoryByte_frame_add memory isPage inside]
  · rfl

theorem withBytes_self (memory : Memory) :
    withBytes memory (memoryByte memory) = memory :=
  funext fun _ => withBytes_of_same fun _ _ _ => rfl

section Loads

variable (space : AddressSpace)

theorem preserves_loadByte (address : UInt64) :
    Prog.Preserves Copying.bytes (loadByte space address) := by
  unfold loadByte
  cases space.lookup address with
  | none => exact .of_readOnly .hang
  | some access =>
      exact .bind (.modify fun _ => rfl) fun _ => .of_readOnly (.gets _)

theorem preserves_loadBytes (address : UInt64) (amount : Nat) :
    Prog.Preserves Copying.bytes (loadBytes space address amount) := by
  induction amount generalizing address with
  | zero =>
      exact .of_readOnly (.pure _)
  | succ amount inductionHypothesis =>
      exact
        .bind (preserves_loadByte space address) fun _ =>
          .bind (inductionHypothesis (address + 1)) fun _ =>
            .of_readOnly (.pure _)

theorem preserves_copyPages
    {β : Type}
    {view : Copying → β}
    {transfer : UInt64 → Nat → Nat → Copy Unit}
    (preserves :
      ∀ virtualAddress offset amount,
        Prog.Preserves view (transfer virtualAddress offset amount))
    (address : UInt64)
    (len fuel offset : Nat) :
    Prog.Preserves view
      (copyPages space transfer address len fuel offset) := by
  induction fuel generalizing offset with
  | zero =>
      exact .of_readOnly .hang
  | succ fuel inductionHypothesis =>
      exact
        .ite
          (.ite (.of_readOnly (.fail _))
            (.bind (preserves _ _ _) fun _ => inductionHypothesis _))
          (.of_readOnly (.pure _))

theorem preserves_copyUserIn (address : UInt64) (len : Nat) :
    Prog.Preserves Copying.bytes (copyUserIn space address len) := by
  apply Prog.Preserves.ite (.of_readOnly (.pure _))
  apply Prog.Preserves.ite (.of_readOnly (.fail _))
  apply Prog.Preserves.ite (.of_readOnly (.fail _))
  apply preserves_copyPages
  intro virtualAddress offset amount
  exact
    .bind (preserves_loadBytes space virtualAddress amount) fun _ =>
      .modify fun _ => rfl

end Loads

theorem copying_in_cases
    (machine : Machine κ)
    (address : UInt64)
    {len : Nat}
    (some : len ≠ 0) :
    (Covered (addressSpace machine).Loads address len ∧
        ∃ output,
          copying (fun space => copyUserIn space address len) machine =
              .ok output machine ∧
            ∀ index < len,
              loadedByte machine (address + UInt64.ofNat index) =
                .some (output index)) ∨
      copying (fun space => copyUserIn space address len) machine =
        .err (negErrno efault) machine := by
  have unchanged :
      ∀ last : Copying,
        last.bytes = (beforeCopy machine).bytes →
        afterCopy machine last = machine := by
    intro last same
    have bytes : last.bytes = memoryByte machine.memory := same
    unfold afterCopy
    rw [bytes, withBytes_self]
  have keeps :=
    preserves_copyUserIn (addressSpace machine) address len
      (beforeCopy machine).bytes (beforeCopy machine) rfl
  rcases copyUserIn_cases (addressSpace machine) address some
      (beforeCopy machine) with
    ⟨covered, last, copied⟩ | ⟨_, last, failed⟩
  · refine .inl ⟨covered, last.output, ?_, ?_⟩
    · rw [copying_of_ok copied, unchanged last (keeps.1 _ _ copied)]
    · intro index inside
      obtain ⟨physical, found⟩ :=
        AddressSpace.target_of_loads (covered.2 index inside)
      rw [loadedByte_of_target found, output_of_copyUserIn copied index inside,
        AddressSpace.byteAt_of_target found]
      rfl
  · right
    rw [copying_of_err failed, unchanged last (keeps.2 _ _ failed)]

/-! ## The loop -/

theorem lookup_beside
    {memory changed : Memory}
    {cr3 : UInt64}
    (beside : BesideTables memory changed cr3)
    (address : UInt64) :
    lookup changed cr3 address = lookup memory cr3 address := by
  unfold lookup
  rw [beside.path, beside.permits, beside.permits]
  cases ends : (path memory cr3 address).getLast? with
  | none => rfl
  | some visit =>
      rw [Option.bind_some, Option.bind_some,
        beside.entry (List.mem_of_getLast? ends)]

/-- Behind the new addresses are bytes of their own, and none of the tables. -/
structure MovesApart
    (machine : Machine κ)
    (oldAddr mapped : UInt64)
    (len : Nat) : Prop where
  below : mapped.toNat + len ≤ userLimit.toNat
  loads :
    ∀ index < len, (addressSpace machine).Loads (mapped + UInt64.ofNat index)
  noTable :
    ∀ index < len,
      ∀ physical,
        (addressSpace machine).target (mapped + UInt64.ofNat index) =
          some physical →
        ¬ TableFrame machine.memory machine.cr3 (pageOf physical)
  injective :
    ∀ index < len,
      ∀ other < len,
        (addressSpace machine).target (mapped + UInt64.ofNat index) =
          (addressSpace machine).target (mapped + UInt64.ofNat other) →
        index = other
  apart :
    ∀ index < len,
      ∀ other < len,
        ∀ physical,
          (addressSpace machine).target (mapped + UInt64.ofNat index) =
            some physical →
          (addressSpace machine).target (oldAddr + UInt64.ofNat other) ≠
            some physical

/-- Some bytes are moved, and nothing else has changed. -/
structure MovedTo
    (start : Machine κ)
    (oldAddr mapped : UInt64)
    (len copied : Nat)
    (machine : Machine κ) : Prop where
  same : machine = { start with memory := machine.memory }
  tables : BesideTables start.memory machine.memory start.cr3
  kept :
    ∀ physical,
      (∀ index < len,
        (addressSpace start).target (mapped + UInt64.ofNat index) ≠
          some physical) →
      memoryByte machine.memory physical = memoryByte start.memory physical
  moved :
    ∀ index < copied,
      loadedByte machine (mapped + UInt64.ofNat index) =
        loadedByte start (oldAddr + UInt64.ofNat index)

namespace MovedTo

variable
  {start machine : Machine κ}
  {oldAddr mapped : UInt64}
  {len copied : Nat}

theorem refl
    (start : Machine κ)
    (oldAddr mapped : UInt64)
    (len : Nat) :
    MovedTo start oldAddr mapped len 0 start where
  same := rfl
  tables := ⟨fun _ _ => rfl⟩
  kept _ _ := rfl
  moved _ below := absurd below (Nat.not_lt_zero _)

theorem cr3 (moved : MovedTo start oldAddr mapped len copied machine) :
    machine.cr3 = start.cr3 := by
  rw [moved.same]

section

variable (moved : MovedTo start oldAddr mapped len copied machine)

include moved

theorem target
    (address : UInt64) :
    (addressSpace machine).target address =
      (addressSpace start).target address := by
  unfold AddressSpace.target AddressSpace.lookup addressSpace
  dsimp only
  rw [moved.cr3, lookup_beside moved.tables]

theorem loads
    (address : UInt64) :
    (addressSpace machine).Loads address ↔
      (addressSpace start).Loads address := by
  unfold AddressSpace.Loads Mapped addressSpace
  dsimp only
  rw [moved.cr3, moved.tables.translate]

theorem loadedByte_of_apart
    {address : UInt64}
    (apart :
      ∀ index < len,
        ∀ physical,
          (addressSpace start).target (mapped + UInt64.ofNat index) =
            some physical →
          (addressSpace start).target address ≠ some physical) :
    loadedByte machine address = loadedByte start address := by
  unfold loadedByte
  rw [moved.target]
  cases found : (addressSpace start).target address with
  | none => rfl
  | some physical =>
      rw [Option.map_some, Option.map_some, moved.kept physical]
      intro index inside isTarget
      exact apart index inside physical isTarget found

end

theorem store
    (apart : MovesApart start oldAddr mapped len)
    (moved : MovedTo start oldAddr mapped len copied machine)
    {input : List UInt8}
    (within : copied + input.length ≤ len)
    (short : input.length ≤ 4096)
    (isInput :
      ∀ index (inside : index < input.length),
        loadedByte machine (oldAddr + UInt64.ofNat (copied + index)) =
          some input[index])
    {last : Copying}
    (stores :
      copyUserOut (addressSpace machine) (mapped + UInt64.ofNat copied) input
          (beforeCopy machine) =
        .ok () last) :
    MovedTo start oldAddr mapped len (copied + input.length)
      (afterCopy machine last) := by
  have stored := stored_of_copyUserOut stores
  have kept :
      ∀ physical,
        (∀ index < len,
          (addressSpace start).target (mapped + UInt64.ofNat index) ≠
            some physical) →
        last.bytes physical = memoryByte machine.memory physical := by
    intro physical away
    apply stored.kept
    intro index inside
    rw [moved.target, ← add_ofNat_add]
    exact away _ (by omega)
  have beside :
      BesideTables start.memory (afterCopy machine last).memory start.cr3 := by
    constructor
    intro slot table
    rw [← moved.tables.same slot table]
    apply withBytes_of_same
    intro isPage offset inOffset
    apply kept
    intro index inside isTarget
    apply apart.noTable index inside _ isTarget
    rwa [(pageOf_frame_offset isPage inOffset).1]
  have sameAfter :
      afterCopy machine last =
        { start with memory := (afterCopy machine last).memory } := by
    unfold afterCopy
    rw [moved.same]
  constructor
  · exact sameAfter
  · exact beside
  · intro physical away
    rw [memoryByte_afterCopy, kept physical away, moved.kept physical away]
  · intro index below
    have targetAfter :
        (addressSpace (afterCopy machine last)).target
            (mapped + UInt64.ofNat index) =
          (addressSpace start).target (mapped + UInt64.ofNat index) := by
      unfold AddressSpace.target AddressSpace.lookup addressSpace
      dsimp only
      rw [show (afterCopy machine last).cr3 = start.cr3 from moved.cr3,
        lookup_beside beside]
    by_cases early : index < copied
    · rw [← moved.moved index early]
      unfold loadedByte
      rw [targetAfter, moved.target, memoryByte_afterCopy]
      cases found :
          (addressSpace start).target (mapped + UInt64.ofNat index) with
      | none => rfl
      | some physical =>
          have isKept :
              last.bytes physical = memoryByte machine.memory physical := by
            apply stored.kept
            intro other inside isTarget
            rw [moved.target, ← add_ofNat_add] at isTarget
            have same :=
              apart.injective index (by omega) (copied + other) (by omega)
                (found.trans isTarget.symm)
            omega
          rw [Option.map_some, Option.map_some, isKept]
    · obtain ⟨physical, isTarget, isByte⟩ :=
        stored.written short (index - copied) (by omega)
      have place : copied + (index - copied) = index := by omega
      have isOld := isInput (index - copied) (by omega)
      rw [moved.target, ← add_ofNat_add, place] at isTarget
      rw [place, moved.loadedByte_of_apart] at isOld
      · rw [loadedByte_of_target (targetAfter.trans isTarget),
          memoryByte_afterCopy, isByte, isOld]
      · intro other inside physical isNew
        exact apart.apart other inside index (by omega) physical isNew

end MovedTo

/-- The loop moves all bytes, or leaves an error when it finds none to load. -/
theorem moveBytes_spec
    {start machine : Machine κ}
    {oldAddr mapped : UInt64}
    {len copied fuel : Nat}
    (apart : MovesApart start oldAddr mapped len)
    (inside : copied ≤ len)
    (moved : MovedTo start oldAddr mapped len copied machine) :
    (∀ final,
        moveBytes oldAddr mapped len fuel copied machine = .ok () final →
        MovedTo start oldAddr mapped len len final ∧
          ∀ index < len,
            copied ≤ index →
            (addressSpace start).Loads (oldAddr + UInt64.ofNat index)) ∧
      ∀ code final,
        moveBytes oldAddr mapped len fuel copied machine = .err code final →
        code = negErrno efault ∧
          ∃ reached, MovedTo start oldAddr mapped len reached final := by
  induction fuel generalizing copied machine with
  | zero =>
      constructor
      · intro final returned
        cases returned
      · intro code final failed
        cases failed
  | succ fuel inductionHypothesis =>
      rw [moveBytes]
      by_cases more : copied < len
      · rw [if_pos more]
        generalize amountIs : min 4096 (len - copied) = amount
        have notEmpty : amount ≠ 0 := by omega
        rcases copying_in_cases machine (oldAddr + UInt64.ofNat copied)
            notEmpty with
          ⟨covered, output, loaded, isOutput⟩ | refused
        · rw [Prog.bind_of_ok loaded]
          have length : ((List.range amount).map output).length = amount := by
            rw [List.length_map, List.length_range]
          have inMapped :
              ∀ index < amount,
                (addressSpace machine).Loads
                  (mapped + UInt64.ofNat copied + UInt64.ofNat index) := by
            intro index below
            rw [moved.loads, ← add_ofNat_add]
            exact apart.loads _ (by omega)
          have limit : userLimit.toNat = 2 ^ 47 := rfl
          have below := apart.below
          have address :
              (mapped + UInt64.ofNat copied).toNat = mapped.toNat + copied := by
            rw [UInt64.toNat_add, UInt64.toNat_ofNat']
            omega
          rcases copyUserOut_cases (addressSpace machine)
              (mapped + UInt64.ofNat copied)
              (by rw [length]; exact notEmpty) (beforeCopy machine) with
            ⟨_, last, stores⟩ | ⟨refused, _⟩ | ⟨_, _, stuck⟩
          · rw [Prog.bind_of_ok (copying_of_ok stores)]
            have next :=
              MovedTo.store apart moved (by omega) (by omega)
                (fun index inside => by
                  rw [length] at inside
                  rw [List.getElem_map, List.getElem_range, add_ofNat_add]
                  exact isOutput index inside)
                stores
            rw [length] at next
            obtain ⟨onReturn, onError⟩ :=
              @inductionHypothesis (afterCopy machine last) (copied + amount)
                (by omega) next
            refine ⟨?_, onError⟩
            intro final returned
            obtain ⟨all, later⟩ := onReturn final returned
            refine ⟨all, ?_⟩
            intro index below reached
            by_cases here : index < copied + amount
            · have loads := covered.2 (index - copied) (by omega)
              rwa [moved.loads, ← add_ofNat_add,
                show copied + (index - copied) = index by omega] at loads
            · exact later index below (by omega)
          · exfalso
            rw [length] at refused
            rcases refused with beyond | ⟨index, inside, missing, _⟩
            · omega
            · exact missing (inMapped index inside)
          · rw [Prog.bind_of_hang (copying_of_hang stuck)]
            constructor
            · intro final returned
              cases returned
            · intro code final failed
              cases failed
        · rw [Prog.bind_of_err refused]
          constructor
          · intro final returned
            cases returned
          · intro code final failed
            cases failed
            exact ⟨rfl, copied, moved⟩
      · rw [if_neg more]
        have atEnd : copied = len := by omega
        subst atEnd
        constructor
        · intro final returned
          cases returned
          exact ⟨moved, fun index below reached => absurd reached (by omega)⟩
        · intro code final failed
          cases failed

end VibuxOS.UserSpace
