import Mathlib.Data.List.Nodup
import VibuxOS.Elf.StackLayout

namespace VibuxOS.Elf

open VibuxOS.Lib
open VibuxOS.Paging

/-!
# The initial stack as the program sees it

The program sees the frames of its stack one behind the other, wherever they
are.  A write that stays in one frame, or runs on into a frame that happens to
be the next one, appears where it was meant to.
-/

def stackByte (frames : List UInt64) (memory : Memory) (address : Nat) : UInt8 :=
  frameByte memory
    (frames.getD ((address - stackBottom.toNat) / 4096) 0)
    ((address - stackBottom.toNat) % 4096)

/-- The frames behind a write follow on one another. -/
def Write.Straight (frames : List UInt64) (write : Write) : Prop :=
  ∀ place,
    place < write.bytes.length →
    stackPlace frames (write.address + place) =
      stackPlace frames write.address + place

def Write.WithinPage (write : Write) : Prop :=
  write.address % 4096 + write.bytes.length ≤ 4096

instance (write : Write) : Decidable write.WithinPage :=
  inferInstanceAs (Decidable (_ ≤ _))

/-- Writes go down from one address to another. -/
def Downwards : Nat → List Write → Nat → Prop
  | top, [], low => low ≤ top
  | top, write :: rest, low =>
      write.address + write.bytes.length ≤ top ∧
        Downwards write.address rest low

variable
  {frames : List UInt64}
  {memory : Memory}
  {top low middle : Nat}
  {write : Write}
  {writes : List Write}

/-! ## Places of the stack -/

theorem stackPlace_inj
    (isStack : StackFrames frames)
    {first second : Nat}
    (firstAbove : stackBottom.toNat ≤ first)
    (firstBelow : first < stackTop.toNat)
    (secondAbove : stackBottom.toNat ≤ second)
    (secondBelow : second < stackTop.toNat)
    (same : stackPlace frames first = stackPlace frames second) :
    first = second := by
  have firstFrame := isStack.frame_bound (isStack.getD_mem firstBelow)
  have secondFrame := isStack.frame_bound (isStack.getD_mem secondBelow)
  unfold stackPlace at same
  have sameOffset :
      (first - stackBottom.toNat) % 4096 =
        (second - stackBottom.toNat) % 4096 := by
    omega
  have sameFrame :
      frames.getD ((first - stackBottom.toNat) / 4096) 0 =
        frames.getD ((second - stackBottom.toNat) / 4096) 0 := by
    rw [← UInt64.toNat_inj]
    omega
  have firstInside := isStack.page_inside firstBelow
  have secondInside := isStack.page_inside secondBelow
  rw [List.getD_eq_getElem _ _ firstInside,
    List.getD_eq_getElem _ _ secondInside,
    isStack.distinct.getElem_inj_iff] at sameFrame
  omega

theorem Write.WithinPage.straight
    (within : write.WithinPage)
    (above : stackBottom.toNat ≤ write.address) :
    write.Straight frames := by
  intro place inside
  unfold Write.WithinPage at within
  have bottomIs := toNat_stackBottom
  have samePage :
      (write.address + place - stackBottom.toNat) / 4096 =
        (write.address - stackBottom.toNat) / 4096 := by
    omega
  unfold stackPlace
  rw [samePage]
  omega

theorem stackByte_writePhysical
    (isStack : StackFrames frames)
    (straight : write.Straight frames)
    (above : stackBottom.toNat ≤ write.address)
    (below : write.address + write.bytes.length ≤ stackTop.toNat)
    {address : Nat}
    (addressAbove : stackBottom.toNat ≤ address)
    (addressBelow : address < stackTop.toNat) :
    stackByte frames
        (writePhysical memory (stackPlace frames write.address) write.bytes)
        address =
      if write.address ≤ address ∧
          address < write.address + write.bytes.length then
        write.bytes.getD (address - write.address) 0
      else
        stackByte frames memory address := by
  have isFrame := isStack.frame_bound (isStack.getD_mem addressBelow)
  unfold stackByte
  rw [frameByte_writePhysical]
  split
  · rename_i inside
    have reached := straight (address - write.address) (by omega)
    rw [Nat.add_sub_cancel' inside.1] at reached
    exact
      writtenByte_inside isFrame.1 (Nat.mod_lt _ (by decide)) reached
        (by omega)
  · rename_i outside
    apply writtenByte_outside
    intro _ _
    by_contra within
    rw [not_or, Nat.not_lt, Nat.not_le] at within
    change
      stackPlace frames write.address ≤ stackPlace frames address ∧
        stackPlace frames address <
          stackPlace frames write.address + write.bytes.length
      at within
    have reached :=
      straight (stackPlace frames address - stackPlace frames write.address)
        (by omega)
    rw [Nat.add_sub_cancel' within.1] at reached
    have same :=
      stackPlace_inj isStack (by omega) (by omega) addressAbove addressBelow
        reached
    omega

/-- A straight write leaves the other frames alone. -/
theorem writePhysical_elsewhere
    (isStack : StackFrames frames)
    (straight : write.Straight frames)
    (below : write.address + write.bytes.length ≤ stackTop.toNat)
    {slot : TableSlot}
    (elsewhere : slot.frame ∉ frames) :
    writePhysical memory (stackPlace frames write.address) write.bytes slot =
      memory slot := by
  apply writePhysical_outside
  intro aligned offset inFrame
  by_contra within
  rw [not_or, Nat.not_lt, Nat.not_le] at within
  have reached :=
    straight
      (slot.frame.toNat + offset - stackPlace frames write.address)
      (by omega)
  rw [Nat.add_sub_cancel' within.1] at reached
  have among :=
    @StackFrames.getD_mem frames isStack
      (write.address +
        (slot.frame.toNat + offset - stackPlace frames write.address))
      (by omega)
  have isFrame := isStack.frame_bound among
  unfold stackPlace at reached within among isFrame
  apply elsewhere
  have same :
      slot.frame =
        frames.getD
          ((write.address +
              (slot.frame.toNat + offset - stackPlace frames write.address) -
            stackBottom.toNat) / 4096) 0 := by
    rw [← UInt64.toNat_inj]
    unfold stackPlace
    omega
  rw [same]
  exact among

/-! ## Writes that go down -/

namespace Downwards

theorem mono
    {higher : Nat}
    (downwards : Downwards top writes low)
    (wider : top ≤ higher) :
    Downwards higher writes low := by
  cases writes with
  | nil => exact Nat.le_trans downwards wider
  | cons first rest => exact ⟨Nat.le_trans downwards.1 wider, downwards.2⟩

theorem append
    {others : List Write}
    (first : Downwards top writes middle)
    (second : Downwards middle others low) :
    Downwards top (writes ++ others) low := by
  induction writes generalizing top with
  | nil => exact second.mono first
  | cons write rest inductionHypothesis =>
      exact ⟨first.1, inductionHypothesis first.2⟩

theorem le (downwards : Downwards top writes low) : low ≤ top := by
  induction writes generalizing top with
  | nil => exact downwards
  | cons write rest inductionHypothesis =>
      have lower := inductionHypothesis downwards.2
      have first := downwards.1
      omega

theorem mem
    (downwards : Downwards top writes low)
    (among : write ∈ writes) :
    low ≤ write.address ∧ write.address + write.bytes.length ≤ top := by
  induction writes generalizing top with
  | nil => cases among
  | cons first rest inductionHypothesis =>
      have fits := downwards.1
      rcases List.mem_cons.mp among with rfl | later
      · exact ⟨downwards.2.le, fits⟩
      · have bounds := inductionHypothesis downwards.2 later
        omega

theorem later
    {earlier later : List Write}
    (downwards : Downwards top (earlier ++ write :: later) low) :
    Downwards write.address later low := by
  induction earlier generalizing top with
  | nil => exact downwards.2
  | cons first rest inductionHypothesis => exact inductionHypothesis downwards.2

end Downwards

section

variable
  (isStack : StackFrames frames)
  (downwards : Downwards top writes low)
  (bottom : stackBottom.toNat ≤ low)
  (inStack : top ≤ stackTop.toNat)
  (straight : ∀ write ∈ writes, write.Straight frames)

include isStack downwards bottom inStack straight

theorem stackByte_stored_above
    {address : Nat}
    (above : top ≤ address)
    (below : address < stackTop.toNat) :
    stackByte frames (stored frames memory writes) address =
      stackByte frames memory address := by
  induction writes generalizing top memory with
  | nil =>
      rfl
  | cons write rest inductionHypothesis =>
      have lower := downwards.2.le
      have fits := downwards.1
      rw [stored_cons,
        inductionHypothesis downwards.2 (by omega)
          (fun other among =>
            straight other (List.mem_cons_of_mem write among))
          (by omega),
        stackByte_writePhysical isStack (straight write List.mem_cons_self)
          (by omega) (by omega) (by omega) below,
        if_neg (by omega)]

theorem stackByte_stored
    (among : write ∈ writes)
    {place : Nat}
    (inside : place < write.bytes.length) :
    stackByte frames (stored frames memory writes) (write.address + place) =
      write.bytes.getD place 0 := by
  induction writes generalizing top memory with
  | nil =>
      cases among
  | cons first rest inductionHypothesis =>
      have lower := downwards.2.le
      have fits := downwards.1
      have others :
          ∀ other ∈ rest, other.Straight frames :=
        fun other isOther =>
          straight other (List.mem_cons_of_mem first isOther)
      rw [stored_cons]
      rcases List.mem_cons.mp among with rfl | later
      · rw [stackByte_stored_above isStack downwards.2 bottom (by omega) others
            (by omega) (by omega),
          stackByte_writePhysical isStack (straight write List.mem_cons_self)
            (by omega) (by omega) (by omega) (by omega),
          if_pos (by omega), Nat.add_sub_cancel_left]
      · exact
          inductionHypothesis downwards.2 (by omega) others later

end

theorem stored_elsewhere
    (isStack : StackFrames frames)
    (downwards : Downwards top writes low)
    (inStack : top ≤ stackTop.toNat)
    (straight : ∀ write ∈ writes, write.Straight frames)
    {slot : TableSlot}
    (elsewhere : slot.frame ∉ frames) :
    stored frames memory writes slot = memory slot := by
  induction writes generalizing top memory with
  | nil =>
      rfl
  | cons write rest inductionHypothesis =>
      have fits := downwards.1
      rw [stored_cons,
        inductionHypothesis downwards.2 (by omega) fun other among =>
          straight other (List.mem_cons_of_mem write among)]
      exact
        writePhysical_elsewhere isStack (straight write List.mem_cons_self)
          (by omega) elsewhere

/-! ## The stack is written downwards -/

section Layout

variable {counter phdr : UInt64} {main rtld : Loaded} {header : Header}
variable {path : List UInt8} {argv envp : List (List UInt8)}

theorem downwards_textWrites
    {sp : Nat}
    {texts : List (List UInt8)}
    (room : textSize texts ≤ sp) :
    Downwards sp (textWrites sp texts) (sp - textSize texts) := by
  induction texts generalizing sp with
  | nil =>
      exact Nat.le_refl _
  | cons text rest inductionHypothesis =>
      have size : textSize (text :: rest) = text.length + 1 + textSize rest :=
        List.sum_cons
      have others :=
        @inductionHypothesis (sp - (text.length + 1)) (by omega)
      rw [size, ← Nat.sub_sub]
      refine ⟨?_, others⟩
      simp only [List.length_append, List.length_singleton]
      omega

@[simp] theorem length_wordBytes (value : UInt64) :
    (wordBytes value).length = 8 := by
  simp [wordBytes]

theorem downwards_wordWrites
    {sp : Nat}
    {values : List UInt64}
    (room : values.length * 8 ≤ sp) :
    Downwards sp (wordWrites sp values) (sp - values.length * 8) := by
  induction values generalizing sp with
  | nil =>
      exact Nat.le_refl _
  | cons value rest inductionHypothesis =>
      rw [List.length_cons] at room
      have others := @inductionHypothesis (sp - 8) (by omega)
      have lower : sp - 8 - rest.length * 8 = sp - (rest.length + 1) * 8 := by
        omega
      rw [lower] at others
      refine ⟨?_, others⟩
      simp only [length_wordBytes]
      omega

theorem within_wordWrites
    {sp : Nat}
    {values : List UInt64}
    (aligned : sp % 8 = 0)
    (room : values.length * 8 ≤ sp)
    (among : write ∈ wordWrites sp values) :
    write.WithinPage := by
  induction values generalizing sp with
  | nil =>
      cases among
  | cons value rest inductionHypothesis =>
      rw [List.length_cons] at room
      rcases List.mem_cons.mp among with rfl | later
      · simp only [Write.WithinPage, length_wordBytes]
        omega
      · exact
          @inductionHypothesis (sp - 8) (by omega) (by omega) later

theorem within_random (path : List UInt8) (counter : UInt64) :
    (⟨randomAt path, randomSeed counter⟩ : Write).WithinPage := by
  simp only [Write.WithinPage, randomSeed, randomAt, List.length_append,
    length_wordBytes]
  omega

/-- The whole of what is written. -/
def stackWrites
    (main rtld : Loaded)
    (header : Header)
    (counter phdr : UInt64)
    (path : List UInt8)
    (argv envp : List (List UInt8)) :
    List Write :=
  dataWrites counter path argv envp ++
    wordWrites (entryTop path argv envp)
      (entriesFor main rtld header phdr path argv envp).reverse

theorem initialSp_spec (accepted : ExecArguments path argv envp) :
    initialSp path argv envp % 16 = 0 ∧
      stackBottom.toNat ≤ initialSp path argv envp ∧
      initialSp path argv envp < stackTop.toNat := by
  obtain ⟨_, random, _, argvSize, envSize, entries⟩ := accepted.room
  have topIs := toNat_stackTop
  have bottomIs := toNat_stackBottom
  simp only [initialSp, entryTop, envTop, paddedFor]
  omega

theorem downwards_dataWrites (accepted : ExecArguments path argv envp) :
    Downwards stackTop.toNat (dataWrites counter path argv envp)
      (entryTop path argv envp) := by
  obtain ⟨names, random, randomBelow, argvSize, envSize, entries⟩ :=
    accepted.room
  have topIs := toNat_stackTop
  have namesBetween :=
    @downwards_textWrites stackTop.toNat [path, platformName] (by omega)
  have randomBetween :
      Downwards (stackTop.toNat - textSize [path, platformName])
        [⟨randomAt path, randomSeed counter⟩] (randomAt path) := by
    refine ⟨?_, Nat.le_refl _⟩
    simp only [randomSeed, List.length_append, length_wordBytes]
    exact randomBelow
  have argvBetween :=
    @downwards_textWrites (randomAt path) argv (by omega)
  have envBetween :=
    @downwards_textWrites (envTop path argv) envp (by
      unfold envTop
      omega)
  have padded :
      Downwards (envTop path argv - textSize envp) []
        (entryTop path argv envp) :=
    Nat.sub_le _ _
  have all :=
    (((namesBetween.append randomBetween).append argvBetween).append
      envBetween).append padded
  rwa [List.append_nil] at all

theorem downwards_stackWrites (accepted : ExecArguments path argv envp) :
    Downwards stackTop.toNat
      (stackWrites main rtld header counter phdr path argv envp)
      (initialSp path argv envp) := by
  obtain ⟨_, random, _, argvSize, envSize, entries⟩ := accepted.room
  have topIs := toNat_stackTop
  have counted :
      (entriesFor main rtld header phdr path argv envp).reverse.length =
        entryCount argv envp := by
    rw [List.length_reverse, length_entriesFor]
  have words :=
    @downwards_wordWrites (entryTop path argv envp)
      (entriesFor main rtld header phdr path argv envp).reverse (by
        rw [counted]
        simp only [entryTop, envTop, paddedFor]
        omega)
  rw [counted] at words
  exact (downwards_dataWrites accepted).append words

theorem within_or_string
    (accepted : ExecArguments path argv envp)
    (among :
      write ∈ stackWrites main rtld header counter phdr path argv envp) :
    write.WithinPage ∨ write ∈ stringWrites path argv envp := by
  obtain ⟨_, random, _, argvSize, envSize, entries⟩ := accepted.room
  have topIs := toNat_stackTop
  simp only [stackWrites, dataWrites, List.mem_append, List.mem_singleton,
    or_assoc] at among
  simp only [stringWrites, List.mem_append]
  rcases among with isName | rfl | isArgv | isEnv | isWord
  · exact .inr (.inl (.inl isName))
  · exact .inl (within_random path counter)
  · exact .inr (.inl (.inr isArgv))
  · exact .inr (.inr isEnv)
  · left
    apply within_wordWrites _ _ isWord
    · simp only [entryTop, envTop, paddedFor]
      omega
    · rw [List.length_reverse, length_entriesFor]
      simp only [entryTop, envTop, paddedFor]
      omega

end Layout

/-! ## What the program sees -/

/-- The pages of the stack are mapped for the program on some frames. -/
structure StackMapped
    (memory : Memory)
    (cr3 : UInt64)
    (frames : List UInt64) : Prop where
  isStack : StackFrames frames
  found :
    ∀ address,
      stackBottom ≤ address →
      address < stackTop →
      ∃ mapping,
        translate memory cr3 address = some mapping ∧
          mapping.flags.contains .user = true ∧
          mapping.physicalAddress.toNat = stackPlace frames address.toNat
  apart :
    ∀ address,
      stackBottom ≤ address →
      address < stackTop →
      ∀ visit ∈ path memory cr3 address, visit.2.frame ∉ frames

/-- Some bytes are seen from an address on. -/
def Appears (memory : Memory) (cr3 : UInt64) (address : Nat) (bytes : List UInt8) : Prop :=
  ∀ place,
    place < bytes.length →
    seenByte memory cr3 (UInt64.ofNat (address + place)) =
      some (bytes.getD place 0)

/-- A pointer into the stack leads to a string and its end. -/
structure StringAt
    (memory : Memory)
    (cr3 pointer : UInt64)
    (text : List UInt8) : Prop where
  above : stackBottom ≤ pointer
  below : pointer.toNat + text.length < stackTop.toNat
  appears : Appears memory cr3 pointer.toNat (text ++ [0])

/-- The stack that a program starts with. -/
structure InitialStack
    (main rtld : Loaded)
    (header : Header)
    (phdr : UInt64)
    (path : List UInt8)
    (argv envp : List (List UInt8))
    (cr3 : UInt64)
    (frames : List UInt64)
    (before after : Memory)
    (sp : UInt64) : Prop where
  image :
    ∃ argvPtrs envPtrs platform randomAddr execfn,
      Appears after cr3 sp.toNat
          ((stackEntries argvPtrs envPtrs
              (auxv main rtld header phdr platform randomAddr execfn)).flatMap
            wordBytes) ∧
        List.Forall₂ (StringAt after cr3) argvPtrs argv ∧
        List.Forall₂ (StringAt after cr3) envPtrs envp ∧
        StringAt after cr3 platform platformName ∧
        StringAt after cr3 execfn path
  elsewhere : ∀ slot : TableSlot, slot.frame ∉ frames → after slot = before slot
  aligned : sp.toNat % 16 = 0
  above : stackBottom ≤ sp

variable {cr3 : UInt64} {after : Memory} {sp : Nat}

theorem seenByte_stack
    (mapped : StackMapped memory cr3 frames)
    (elsewhere : ∀ slot : TableSlot, slot.frame ∉ frames → after slot = memory slot)
    {address : Nat}
    (above : stackBottom.toNat ≤ address)
    (below : address < stackTop.toNat) :
    seenByte after cr3 (UInt64.ofNat address) =
      some (stackByte frames after address) := by
  have addressIs := toNat_ofNat_below (Nat.le_of_lt below)
  have isAbove : stackBottom ≤ UInt64.ofNat address := by
    rw [UInt64.le_iff_toNat_le, addressIs]
    exact above
  have isBelow : UInt64.ofNat address < stackTop := by
    rw [UInt64.lt_iff_toNat_lt, addressIs]
    exact below
  have offWalk :
      ∀ visit ∈ Paging.path memory cr3 (UInt64.ofNat address),
        after visit.2 = memory visit.2 :=
    fun visit visited =>
      elsewhere visit.2 (mapped.apart _ isAbove isBelow visit visited)
  have samePath :
      Paging.path after cr3 (UInt64.ofNat address) =
        Paging.path memory cr3 (UInt64.ofNat address) :=
    Radix.visits_frame offWalk
  obtain ⟨mapping, found, _, isPlace⟩ := mapped.found _ isAbove isBelow
  rw [← translate_congr samePath fun visit ends =>
    offWalk visit (List.mem_of_getLast? ends)] at found
  have bound := mapped.isStack.frame_bound (mapped.isStack.getD_mem below)
  rw [addressIs, stackPlace] at isPlace
  have frameIs :
      pageOf mapping.physicalAddress =
        frames.getD ((address - stackBottom.toNat) / 4096) 0 := by
    rw [← UInt64.toNat_inj, toNat_pageOf]
    omega
  have offsetIs :
      mapping.physicalAddress.toNat % 4096 =
        (address - stackBottom.toNat) % 4096 := by
    omega
  rw [seenByte, found, Option.map_some, memoryByte, frameIs, offsetIs]
  rfl

theorem Appears.append
    {address : Nat}
    {first second : List UInt8}
    (isFirst : Appears memory cr3 address first)
    (isSecond : Appears memory cr3 (address + first.length) second) :
    Appears memory cr3 address (first ++ second) := by
  intro place inside
  rw [List.length_append] at inside
  by_cases inFirst : place < first.length
  · rw [isFirst place inFirst, List.getD_append _ _ _ _ inFirst]
  · have behind := isSecond (place - first.length) (by omega)
    rw [Nat.add_assoc, Nat.add_sub_cancel' (by omega)] at behind
    rw [behind, List.getD_append_right _ _ _ _ (by omega)]

theorem appears_wordWrites
    {values : List UInt64}
    (room : values.length * 8 ≤ sp)
    (appear :
      ∀ write ∈ wordWrites sp values,
        Appears memory cr3 write.address write.bytes) :
    Appears memory cr3 (sp - values.length * 8)
      (values.reverse.flatMap wordBytes) := by
  induction values generalizing sp with
  | nil =>
      intro place inside
      cases inside
  | cons value rest inductionHypothesis =>
      rw [List.length_cons] at room ⊢
      have lower : sp - 8 - rest.length * 8 = sp - (rest.length + 1) * 8 := by
        omega
      have others :=
        @inductionHypothesis (sp - 8) (by omega) fun write among =>
          appear write (List.mem_cons_of_mem _ among)
      have first := appear _ List.mem_cons_self
      have behind :
          sp - (rest.length + 1) * 8 +
              (rest.reverse.flatMap wordBytes).length =
            sp - 8 := by
        have length :
            (rest.reverse.flatMap wordBytes).length = rest.length * 8 := by
          simp [List.length_flatMap]
        rw [length]
        omega
      rw [lower] at others
      rw [List.reverse_cons, List.flatMap_append, List.flatMap_singleton]
      apply others.append
      rw [behind]
      exact first

theorem stringsAt_textWrites
    {texts : List (List UInt8)}
    (high : sp ≤ stackTop.toNat)
    (room : stackBottom.toNat + textSize texts ≤ sp)
    (appear :
      ∀ write ∈ textWrites sp texts,
        Appears memory cr3 write.address write.bytes) :
    List.Forall₂ (StringAt memory cr3) (pointersTo (textWrites sp texts))
      texts := by
  induction texts generalizing sp with
  | nil =>
      exact .nil
  | cons text rest inductionHypothesis =>
      have size : textSize (text :: rest) = text.length + 1 + textSize rest :=
        List.sum_cons
      have addressIs :
          (UInt64.ofNat (sp - (text.length + 1))).toNat =
            sp - (text.length + 1) :=
        toNat_ofNat_below (by omega)
      refine .cons ⟨?_, ?_, ?_⟩ ?_
      · rw [UInt64.le_iff_toNat_le, addressIs]
        omega
      · rw [addressIs]
        omega
      · rw [addressIs]
        exact appear _ List.mem_cons_self
      · exact
          @inductionHypothesis (sp - (text.length + 1)) (by omega) (by omega)
            fun write among => appear write (List.mem_cons_of_mem _ among)

end VibuxOS.Elf
