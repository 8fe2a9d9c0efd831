import VibuxOS.Paging.Tables

namespace VibuxOS.Paging

open VibuxOS.Lib

/-!
# The kernel's walk and the processor's

`translate` finds the leaf that the processor finds, on each of the three levels.
Its mask for a page of 1 GiB begins at bit 38 where the frame begins at bit 30.
-/

/-- The mask of `translate` for the frame of a page of 1 GiB -/
def hugeFrameMask : UInt64 := 0x000fffc000000000

/-- The bits of the frame of a page of 1 GiB that this mask leaves out -/
def lostBits : UInt64 := 0x0000003fc0000000

/-- `translate` and the processor agree about an address. -/
def Agree
    (memory : Memory)
    (cr3 virtualAddress : UInt64) : Prop :=
  ((translate memory cr3 virtualAddress).isSome ↔
      (lookup memory cr3 virtualAddress).isSome) ∧
    ∀ mapping access,
      translate memory cr3 virtualAddress = some mapping →
      lookup memory cr3 virtualAddress = some access →
      mapping.physicalAddress = access.physical

/--
The walk of an address ends in a page of 1 GiB whose frame has one of the bits
that `translate` leaves out.
-/
def EndsInLostFrame
    (memory : Memory)
    (cr3 virtualAddress : UInt64) : Prop :=
  ∃ slot,
    (path memory cr3 virtualAddress).getLast? = some (3, slot) ∧
      memory slot &&& present ≠ 0 ∧
      memory slot &&& lostBits ≠ 0

theorem isSome_translate_iff
    (memory : Memory)
    (cr3 virtualAddress : UInt64) :
    (translate memory cr3 virtualAddress).isSome ↔
      (lookup memory cr3 virtualAddress).isSome := by
  constructor
  · intro mapped
    obtain ⟨physical, found⟩ := lookup_of_mapped mapped
    rw [found]
    rfl
  · intro found
    by_contra unmapped
    rw [lookup_of_not_mapped unmapped] at found
    cases found

theorem hugeFrame_eq_iff (entry offset : UInt64) :
    (entry &&& hugeFrameMask) + offset =
        (entry &&& 0x000fffffc0000000) + offset ↔
      entry &&& lostBits = 0 := by
  rw [UInt64.add_left_inj]
  exact
    @and_eq_and_or_iff hugeFrameMask lostBits entry (by decide)

theorem leafAddress_eq_some
    {virtualAddress entry physical : UInt64}
    {level : Nat}
    (found : leafAddress virtualAddress level entry = some physical) :
    entry &&& present ≠ 0 ∧ (level = 1 ∨ level = 2 ∨ level = 3) := by
  unfold leafAddress at found
  split at found
  · cases found
  · rename_i isPresent
    refine ⟨fun absent => isPresent (beq_iff_eq.mpr absent), ?_⟩
    split at found
    · exact .inr (.inr rfl)
    · exact .inr (.inl rfl)
    · exact .inl rfl
    · cases found

theorem physicalAddress_eq_iff
    {virtualAddress entry physical : UInt64}
    {level : Nat}
    {mapping : Mapping}
    (reported : mappingAt virtualAddress level entry = some mapping)
    (found : leafAddress virtualAddress level entry = some physical) :
    mapping.physicalAddress = physical ↔
      (level = 3 → entry &&& lostBits = 0) := by
  obtain ⟨isPresent, levels⟩ := leafAddress_eq_some found
  have notAbsent : ¬ (entry &&& present == 0) = true := by
    simpa using isPresent
  unfold mappingAt at reported
  unfold leafAddress at found
  rw [if_neg notAbsent] at reported found
  rcases levels with rfl | rfl | rfl
  · cases reported
    cases found
    simp [entryAddrMask]
  · cases reported
    cases found
    simp
  · cases reported
    cases found
    simpa [hugeFrameMask] using
      hugeFrame_eq_iff entry (virtualAddress &&& (hugePageSize - 1))

/--
For a canonical address the kernel finds what the processor finds, exactly if the
walk does not end in a page of 1 GiB whose frame has one of the lost bits.
-/
theorem translate_agrees_iff
    (memory : Memory)
    (cr3 : UInt64)
    {virtualAddress : UInt64}
    (inRange : canonical virtualAddress = true) :
    Agree memory cr3 virtualAddress ↔
      ¬ EndsInLostFrame memory cr3 virtualAddress := by
  obtain ⟨⟨level, slot⟩, ends, _⟩ :=
    @Radix.exists_getLast?_visits _ _ shape memory (indexes virtualAddress) 3
      (cr3 &&& entryAddrMask)
  have reported :
      translate memory cr3 virtualAddress =
        mappingAt virtualAddress level (memory slot) := by
    rw [translate_eq, if_pos inRange, path, ends, Option.bind_some]
  have found :
      lookup memory cr3 virtualAddress =
        (leafAddress virtualAddress level (memory slot)).map
          fun physical =>
            ⟨physical, permits user memory cr3 virtualAddress,
              permits write memory cr3 virtualAddress⟩ := by
    rw [lookup, if_pos inRange, path, ends, Option.bind_some]
  constructor
  · rintro ⟨_, same⟩ ⟨other, endsThere, isPresent, lost⟩
    rw [path, ends] at endsThere
    cases endsThere
    obtain ⟨mapping, isMapping⟩ :
        ∃ mapping,
          mappingAt virtualAddress 3 (memory slot) = some mapping := by
      simp [mappingAt, isPresent]
    obtain ⟨physical, isPhysical⟩ :
        ∃ physical,
          leafAddress virtualAddress 3 (memory slot) = some physical := by
      simp [leafAddress, isPresent]
    rw [isMapping] at reported
    rw [isPhysical] at found
    exact
      lost
        ((physicalAddress_eq_iff isMapping isPhysical).mp
          (same _ _ reported found) rfl)
  · intro notLost
    refine ⟨isSome_translate_iff memory cr3 virtualAddress, ?_⟩
    intro mapping access isMapping isAccess
    rw [reported] at isMapping
    rw [found] at isAccess
    obtain ⟨physical, isPhysical, rfl⟩ := Option.map_eq_some_iff.mp isAccess
    apply (physicalAddress_eq_iff isMapping isPhysical).mpr
    rintro rfl
    by_contra lost
    exact
      notLost ⟨slot, ends, (leafAddress_eq_some isPhysical).1, lost⟩

/-- Tables that map one page, with the entry of level 3 at index 1. -/
def hugeTables (entry : UInt64) : Memory := fun slot =>
  if slot = ⟨0x1000, 0⟩ then
    0x2000 ||| present
  else if slot = ⟨0x2000, 1⟩ then
    entry
  else
    0

/-- A page of 1 GiB at physical address zero is found. -/
theorem translate_agrees_at_zero :
    canonical 0x40000000 = true ∧
      Agree (hugeTables (huge ||| present)) 0x1000 0x40000000 := by
  refine ⟨by decide, (translate_agrees_iff _ _ (by decide)).mpr ?_⟩
  rintro ⟨slot, ends, _, lost⟩
  have last :
      (path (hugeTables (huge ||| present)) 0x1000 0x40000000).getLast? =
        some (3, ⟨0x2000, 1⟩) := by
    decide
  rw [last] at ends
  cases ends
  exact lost (by decide)

/-- The second GiB of memory, mapped where it is, is found at address zero. -/
theorem translate_disagrees :
    ¬ ∀ (memory : Memory) (cr3 virtualAddress : UInt64),
      canonical virtualAddress = true →
      Agree memory cr3 virtualAddress := by
  intro claim
  have same :=
    (claim (hugeTables (0x40000000 ||| huge ||| present)) 0x1000 0x40000000
      (by decide)).2
  obtain ⟨mapping, isMapping, wrong⟩ :
      ∃ mapping,
        translate (hugeTables (0x40000000 ||| huge ||| present)) 0x1000
            0x40000000 =
          some mapping ∧
        mapping.physicalAddress = 0 :=
    ⟨_, rfl, by decide⟩
  obtain ⟨access, isAccess, right⟩ :
      ∃ access,
        lookup (hugeTables (0x40000000 ||| huge ||| present)) 0x1000
            0x40000000 =
          some access ∧
        access.physical = 0x40000000 :=
    ⟨_, rfl, by decide⟩
  have equal := same mapping access isMapping isAccess
  rw [wrong, right] at equal
  exact absurd equal (by decide)

end VibuxOS.Paging
