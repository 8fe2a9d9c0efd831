import VibuxOS.Paging.UserCopyEnds
import VibuxOS.UserSpace.MemoryCalls

namespace VibuxOS.UserSpace

open VibuxOS.Lib VibuxOS.Paging

/-!
# Buffers of a program

A memory call copies bytes between the kernel and the pages of the program that
are mapped when the copy begins.  The copy changes the bytes behind its range
and nothing else.
-/

variable {κ : Type}

/-- The tables in force. -/
abbrev addressSpace (machine : Machine κ) : AddressSpace :=
  ⟨machine.memory, machine.cr3⟩

theorem pageOf_add_offset (address : UInt64) :
    pageOf address + UInt64.ofNat (address.toNat % 4096) = address := by
  apply UInt64.toNat_inj.mp
  have bound := address.toNat_lt
  have high := toNat_pageOf address
  rw [UInt64.toNat_add, UInt64.toNat_ofNat', high]
  omega

theorem memoryByte_withBytes
    (memory : Memory)
    (bytes : UInt64 → UInt8)
    (physicalAddress : UInt64) :
    memoryByte (withBytes memory bytes) physicalAddress =
      bytes physicalAddress := by
  have isPage : pageOf (pageOf physicalAddress) = pageOf physicalAddress := by
    apply UInt64.toNat_inj.mp
    rw [toNat_pageOf, toNat_pageOf]
    omega
  have below : physicalAddress.toNat % 4096 / 8 < 512 := by
    omega
  have inWord : physicalAddress.toNat % 4096 % 8 < 8 :=
    Nat.mod_lt _ (by decide)
  have isWord :
      withBytes memory bytes
          ⟨pageOf physicalAddress, physicalAddress.toNat % 4096 / 8⟩ =
        getU64
          (fun offset =>
            bytes (pageOf physicalAddress + UInt64.ofNat offset))
          (8 * (physicalAddress.toNat % 4096 / 8)) := by
    unfold withBytes
    exact if_pos ⟨isPage, below⟩
  rw [memoryByte, frameByte, isWord, leByte_getU64 _ _ inWord,
    Nat.div_add_mod, pageOf_add_offset]

/-- The byte behind an address of the tables at first, in a later memory. -/
def byteBehind (start final : Machine κ) (address : UInt64) : UInt8 :=
  (addressSpace start).byteAt (memoryByte final.memory) address

/-- A copy that is about to begin. -/
abbrev beforeCopy (machine : Machine κ) : Copying :=
  Copying.start (memoryByte machine.memory) fun _ => 0

/-- The tables and the bytes after a copy. -/
abbrev afterCopy (machine : Machine κ) (last : Copying) : Machine κ :=
  { machine with memory := withBytes machine.memory last.bytes }

section Copies

variable
  {copy : AddressSpace → Copy Unit}
  {machine : Machine κ}
  {last : Copying}

theorem copying_of_ok
    (copied : copy (addressSpace machine) (beforeCopy machine) = .ok () last) :
    copying copy machine = .ok last.output (afterCopy machine last) := by
  unfold copying
  rw [copied]

theorem copying_of_err
    {code : UInt64}
    (failed :
      copy (addressSpace machine) (beforeCopy machine) = .err code last) :
    copying copy machine = .err (negErrno efault) (afterCopy machine last) := by
  unfold copying
  rw [failed]

theorem copying_of_hang
    (stuck : copy (addressSpace machine) (beforeCopy machine) = .hang) :
    copying copy machine = .hang := by
  unfold copying
  rw [stuck]

theorem memoryByte_afterCopy :
    memoryByte (afterCopy machine last).memory = last.bytes :=
  funext fun physical => memoryByte_withBytes _ _ physical

end Copies

theorem copying_out_cases
    (machine : Machine κ)
    (address : UInt64)
    {input : List UInt8}
    (some : input.length ≠ 0) :
    (Covered (addressSpace machine).Stores address input.length ∧
        ∃ output final,
          copying (fun space => copyUserOut space address input) machine =
              .ok output final ∧
            Stored (addressSpace machine) address input
              (memoryByte machine.memory) (memoryByte final.memory)) ∨
      (Refused (addressSpace machine) (addressSpace machine).Stores address
          input.length ∧
        ∃ final,
          copying (fun space => copyUserOut space address input) machine =
            .err (negErrno efault) final) ∨
      ¬ Covered (addressSpace machine).Stores address input.length ∧
        ¬ Refused (addressSpace machine) (addressSpace machine).Stores
          address input.length ∧
        copying (fun space => copyUserOut space address input) machine =
          .hang := by
  rcases copyUserOut_cases (addressSpace machine) address some
      (beforeCopy machine) with
    ⟨covered, last, copied⟩ | ⟨refused, last, failed⟩ |
      ⟨uncovered, accepted, stuck⟩
  · refine .inl ⟨covered, last.output, afterCopy machine last,
      copying_of_ok copied, ?_⟩
    rw [memoryByte_afterCopy]
    exact stored_of_copyUserOut copied
  · exact .inr (.inl ⟨refused, _, copying_of_err failed⟩)
  · exact .inr (.inr ⟨uncovered, accepted, copying_of_hang stuck⟩)

end VibuxOS.UserSpace
