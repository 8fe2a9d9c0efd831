import VibuxOS.Elf.Runner

namespace VibuxOS.Elf

open VibuxOS.Lib
open VibuxOS.Paging
open VibuxOS.UserSpace
open VibuxOS.Files (StoredBinary)

/-!
# The addresses that a program was linked for

An image of type `ET_EXEC` only runs at the addresses in its headers, and `load`
adds nothing to them.  The runner adds its base to every image that it loads.
-/

variable
  {κ ε α σ : Type}
  {allocate : Allocate κ}
  {binaries : List StoredBinary}
  {physicalOffset : UInt64}
  {image : Image}
  {loaded : Loaded}
  {images : Images}
  {space final : Space κ}

/-- An image that was loaded at a base, with what the loader says about it. -/
inductive Images.Loads (images : Images) : Image → UInt64 → Loaded → Prop where
  | main : images.Loads images.mainImage mainBase images.main
  | rtld
      {image : Image}
      (isRtld : images.rtldImage = some image) :
      images.Loads image rtldBase images.rtld

/-- `exec_program` or `run_bash` loads these images. -/
inductive RunnerLoads
    (allocate : Allocate κ)
    (binaries : List StoredBinary)
    (physicalOffset : UInt64)
    (space : Space κ)
    (images : Images)
    (final : Space κ) : Prop where
  | program
      (path : List UInt8)
      (returned :
        loadProgram allocate binaries physicalOffset path space =
          .ok images final)
  | bash
      (returned :
        loadBash allocate binaries physicalOffset space = .ok images final)

/-- What is added to the addresses of an image: nothing to absolute ones. -/
def linkBias (image : Image) (base : UInt64) : UInt64 :=
  if image.header.kind = etExec then 0 else base

/-- The image runs at the addresses that it was linked for. -/
structure RunsLinked
    (allocate : Allocate κ)
    (physicalOffset base : UInt64)
    (image : Image)
    (loaded : Loaded)
    (machine : Machine κ) : Prop where
  bytes :
    ∀ segment,
      image.IsLoad segment →
      ∀ address : UInt64,
        segmentStart segment (linkBias image base) ≤ address.toNat →
        address.toNat <
          segmentStart segment (linkBias image base) + segment.memsz.toNat →
        seenByte machine.memory machine.cr3 address =
          some
            (segmentByte image segment (linkBias image base) address.toNat)
  entry :
    loaded.entry.toNat =
      image.header.entry.toNat + (linkBias image base).toNat
  asLoad :
    image.header.kind = etExec →
    ∀ before after reference,
      Ready allocate before →
      load allocate image physicalOffset before = .ok reference after →
      loaded.entry = reference.entry ∧
        ∀ segment,
          image.IsLoad segment →
          ∀ address,
            InPages segment 0 address →
            seenByte machine.memory machine.cr3 address =
              seenByte after.memory after.cr3 address

/-! ## Results of the runner -/

theorem readOnly_someOr
    (error : ε)
    (value : Option α) :
    Prog.ReadOnly (someOr error value : Prog σ ε α) := by
  cases value with
  | none => exact .fail error
  | some value => exact .pure value

theorem readOnly_checkOr
    (error : ε)
    (result : Except Error α) :
    Prog.ReadOnly (checkOr error result : Prog σ ε α) :=
  .ofExcept _

theorem readOnly_readOr
    (error : ε)
    (reader : Reader α) :
    Prog.ReadOnly (readOr error reader : Prog σ ε α) := by
  constructor
  · intro state final value returned
    obtain ⟨_, _, rfl⟩ := Prog.onPart_eq_ok.mp returned
    rfl
  · intro state final failure failed
    obtain ⟨_, _, rfl⟩ := Prog.onPart_eq_err.mp failed
    rfl

theorem readOnly_findInterpreter
    (binaries : List StoredBinary)
    (interpPath : List UInt8) :
    Prog.ReadOnly (findInterpreter binaries interpPath : Prog σ UInt64 _) := by
  unfold findInterpreter
  apply Prog.ReadOnly.ite
  · exact .pure _
  · cases Files.find binaries interpPath with
    | none => exact .fail _
    | some binary => exact .pure _

theorem readOnly_parseInterpreter
    (rtldBinary : Option StoredBinary) :
    Prog.ReadOnly (parseInterpreter rtldBinary : Prog σ UInt64 _) := by
  cases rtldBinary with
  | none => exact .pure _
  | some binary =>
      exact .bind (readOnly_checkOr 8 _) fun image => .pure _

theorem readOnly_interpreterRange
    (rtldImage : Option Image) :
    Prog.ReadOnly (interpreterRange rtldImage : Prog σ UInt64 _) := by
  cases rtldImage with
  | none => exact .pure _
  | some image => exact readOnly_someOr 8 _

theorem loadOr_eq_ok
    {error : ε}
    {program : Kernel κ Error α}
    {value : α}
    (returned : loadOr error program space = .ok value final) :
    ∃ machine,
      program space.machine = .ok value machine ∧
        final = { space with machine := machine } := by
  obtain ⟨machine, isReturned, rfl⟩ :=
    Prog.onPart_eq_ok.mp (Prog.mapError_eq_ok.mp returned)
  exact ⟨machine, isReturned, rfl⟩

/-! ## The images in memory -/

/-- The interpreter was loaded after the program, if there is one. -/
inductive InterpreterLoaded
    (allocate : Allocate κ)
    (physicalOffset : UInt64)
    (images : Images)
    (middle after : Machine κ) : Prop where
  | none
      (isNone : images.rtldImage = none)
      (same : after = middle)
  | some
      {image : Image}
      (isSome : images.rtldImage = some image)
      (returned :
        loadAt allocate image physicalOffset rtldBase middle =
          .ok images.rtld after)

/-- The images were loaded in turn. -/
structure LoadedInTurn
    (allocate : Allocate κ)
    (physicalOffset : UInt64)
    (images : Images)
    (cleared middle after : Machine κ) : Prop where
  ready : Ready allocate cleared
  main :
    loadAt allocate images.mainImage physicalOffset mainBase cleared =
      .ok images.main middle
  rtld : InterpreterLoaded allocate physicalOffset images middle after

section

variable (ready : Ready allocate space.machine)

include ready

theorem ready_of_reset
    {mainRange rtldRange : UInt64 × UInt64}
    {next : Space κ}
    (returned :
      (resetProcessForExec mainRange.1 mainRange.2 rtldRange.1 rtldRange.2
              stackBottom stackTop tlsBase :
            Prog (Space κ) ε Unit)
          space =
        .ok () next) :
    Ready allocate next.machine := by
  obtain ⟨machine, cleared, removes, _⟩ :=
    @resetProcessForExec_spec κ ε allocate space ready mainRange.1
      mainRange.2 rtldRange.1 rtldRange.2 stackBottom stackTop tlsBase
  rw [cleared] at returned
  cases returned
  exact removes.ready

theorem inTurn_of_loadProgram
    {path : List UInt8}
    (returned :
      loadProgram allocate binaries physicalOffset path space =
        .ok images final) :
    ∃ cleared middle,
      LoadedInTurn allocate physicalOffset images cleared middle
        final.machine := by
  obtain ⟨binary, _, returned⟩ := (readOnly_someOr _ _).of_bind_ok returned
  obtain ⟨mainImage, _, returned⟩ :=
    (readOnly_checkOr _ _).of_bind_ok returned
  obtain ⟨interpPath, _, returned⟩ :=
    (readOnly_readOr _ _).of_bind_ok returned
  obtain ⟨rtldBinary, _, returned⟩ :=
    (readOnly_findInterpreter _ _).of_bind_ok returned
  obtain ⟨rtldImage, _, returned⟩ :=
    (readOnly_parseInterpreter _).of_bind_ok returned
  obtain ⟨mainRange, _, returned⟩ := (readOnly_someOr _ _).of_bind_ok returned
  obtain ⟨rtldRange, _, returned⟩ :=
    (readOnly_interpreterRange _).of_bind_ok returned
  obtain ⟨_, cleared, isCleared, returned⟩ := Prog.bind_eq_ok.mp returned
  obtain ⟨main, withMain, isMain, returned⟩ := Prog.bind_eq_ok.mp returned
  obtain ⟨rtld, withRtld, isRtld, returned⟩ := Prog.bind_eq_ok.mp returned
  cases returned
  obtain ⟨middle, mainLoaded, rfl⟩ := loadOr_eq_ok isMain
  refine ⟨cleared.machine, middle, ready_of_reset ready isCleared,
    mainLoaded, ?_⟩
  cases rtldImage with
  | none =>
      cases isRtld
      exact .none rfl rfl
  | some image =>
      obtain ⟨after, rtldLoaded, rfl⟩ := loadOr_eq_ok isRtld
      exact .some rfl rtldLoaded

theorem inTurn_of_loadBash
    (returned :
      loadBash allocate binaries physicalOffset space = .ok images final) :
    ∃ cleared middle,
      LoadedInTurn allocate physicalOffset images cleared middle
        final.machine := by
  unfold loadBash at returned
  cases found : Files.find binaries (Files.bytes "/bin/bash") with
  | none =>
      rw [found] at returned
      cases returned
  | some bash =>
      rw [found] at returned
      obtain ⟨bashImage, _, returned⟩ :=
        (readOnly_checkOr _ _).of_bind_ok returned
      obtain ⟨read, _, returned⟩ := (readOnly_readOr _ _).of_bind_ok returned
      obtain ⟨rtldPath, _, returned⟩ :=
        (readOnly_someOr _ _).of_bind_ok returned
      obtain ⟨rtldBinary, _, returned⟩ :=
        (readOnly_someOr _ _).of_bind_ok returned
      obtain ⟨rtldImage, _, returned⟩ :=
        (readOnly_checkOr _ _).of_bind_ok returned
      obtain ⟨mainRange, _, returned⟩ :=
        (readOnly_someOr _ _).of_bind_ok returned
      obtain ⟨rtldRange, _, returned⟩ :=
        (readOnly_someOr _ _).of_bind_ok returned
      obtain ⟨_, cleared, isCleared, returned⟩ := Prog.bind_eq_ok.mp returned
      obtain ⟨main, withMain, isMain, returned⟩ := Prog.bind_eq_ok.mp returned
      obtain ⟨rtld, withRtld, isRtld, returned⟩ := Prog.bind_eq_ok.mp returned
      cases returned
      obtain ⟨middle, mainLoaded, rfl⟩ := loadOr_eq_ok isMain
      obtain ⟨after, rtldLoaded, rfl⟩ := loadOr_eq_ok isRtld
      exact
        ⟨cleared.machine, middle, ready_of_reset ready isCleared, mainLoaded,
          .some rfl rtldLoaded⟩

theorem inTurn_of_runnerLoads
    (runs : RunnerLoads allocate binaries physicalOffset space images final) :
    ∃ cleared middle,
      LoadedInTurn allocate physicalOffset images cleared middle
        final.machine := by
  cases runs with
  | program path returned => exact inTurn_of_loadProgram ready returned
  | bash returned => exact inTurn_of_loadBash ready returned

end

theorem toNat_entry_of_loadAt
    {bias : UInt64}
    {machine last : Machine κ}
    (returned :
      loadAt allocate image physicalOffset bias machine = .ok loaded last) :
    loaded.entry.toNat = image.header.entry.toNat + bias.toNat := by
  obtain ⟨scan, _, returned⟩ := Prog.ofExcept_bind_eq_ok.mp returned
  split at returned
  · cases returned
  · obtain ⟨pages, middle, _, returned⟩ := Prog.bind_eq_ok.mp returned
    obtain ⟨entry, isEntry, returned⟩ := Prog.ofExcept_bind_eq_ok.mp returned
    cases returned
    exact toNat_of_addAddress isEntry

/-- An image is entered and shown at its base. -/
structure AtBase
    (allocate : Allocate κ)
    (image : Image)
    (base : UInt64)
    (loaded : Loaded)
    (machine : Machine κ) : Prop where
  entry : loaded.entry.toNat = image.header.entry.toNat + base.toNat
  shown :
    ∀ segment,
      image.IsLoad segment →
      ∀ page,
        PageOf segment base page →
        Shows allocate image segment base page machine

theorem atBase_of_loadAt
    {base : UInt64}
    {machine last : Machine κ}
    (ready : Ready allocate machine)
    (returned :
      loadAt allocate image physicalOffset base machine = .ok loaded last) :
    AtBase allocate image base loaded last where
  entry := toNat_entry_of_loadAt returned
  shown := (adds_of_loadAt ready returned).2.2

theorem atBase_of_inTurn
    {base : UInt64}
    {cleared middle after : Machine κ}
    (inTurn :
      LoadedInTurn allocate physicalOffset images cleared middle after)
    (isLoaded : images.Loads image base loaded) :
    AtBase allocate image base loaded after := by
  obtain ⟨ready, isMain, isRtld⟩ := inTurn
  have mainAt := atBase_of_loadAt ready isMain
  have middleReady := (adds_of_loadAt ready isMain).2.1.ready
  cases isLoaded with
  | main =>
      cases isRtld with
      | none isNone same =>
          rw [same]
          exact mainAt
      | some isSome returned =>
          have adds := (adds_of_loadAt middleReady returned).2.1
          refine ⟨mainAt.entry, ?_⟩
          intro segment isLoad page isPage
          exact (mainAt.shown segment isLoad page isPage).adds adds
  | rtld isImage =>
      cases isRtld with
      | none isNone same =>
          rw [isNone] at isImage
          cases isImage
      | some isSome returned =>
          rw [isSome] at isImage
          cases isImage
          exact atBase_of_loadAt middleReady returned

theorem seenByte_of_atBase
    {base : UInt64}
    {machine : Machine κ}
    {segment : ProgramHeader}
    {address : UInt64}
    (atBase : AtBase allocate image base loaded machine)
    (isLoad : image.IsLoad segment)
    (above : segmentStart segment base ≤ address.toNat)
    (below :
      address.toNat < segmentStart segment base + segment.memsz.toNat) :
    seenByte machine.memory machine.cr3 address =
      some (segmentByte image segment base address.toNat) := by
  have inPages : InPages segment base address := by
    unfold InPages pagesStart pagesEnd
    omega
  exact seenByte_of_shows (atBase.shown segment isLoad) inPages

theorem Images.Loads.base_ne_zero
    {base : UInt64}
    (isLoaded : images.Loads image base loaded) :
    base.toNat ≠ 0 := by
  cases isLoaded with
  | main => decide
  | rtld isRtld => decide

/-- The images that run where they were linked for are the relocatable ones. -/
theorem linked_addresses_iff
    {κ : Type}
    (allocate : Allocate κ)
    (binaries : List StoredBinary)
    (physicalOffset : UInt64)
    (space final : Space κ)
    (images : Images)
    (ready : Ready allocate space.machine)
    (runs : RunnerLoads allocate binaries physicalOffset space images final)
    (image : Image)
    (base : UInt64)
    (loaded : Loaded)
    (isLoaded : images.Loads image base loaded) :
    RunsLinked allocate physicalOffset base image loaded final.machine ↔
      image.header.kind ≠ etExec := by
  obtain ⟨cleared, middle, inTurn⟩ := inTurn_of_runnerLoads ready runs
  have atBase := atBase_of_inTurn inTurn isLoaded
  constructor
  · intro linked isExec
    have notZero := isLoaded.base_ne_zero
    have atZero := linked.entry
    have atEntry := atBase.entry
    rw [linkBias, if_pos isExec, UInt64.toNat_zero] at atZero
    omega
  · intro notExec
    have isBase : linkBias image base = base := if_neg notExec
    refine ⟨?_, ?_, fun isExec => absurd isExec notExec⟩
    · intro segment isLoad address above below
      rw [isBase] at above below ⊢
      exact seenByte_of_atBase atBase isLoad above below
    · rw [isBase]
      exact atBase.entry

/-- The sample as an image that may be moved. -/
def sharedFile : List UInt8 :=
  sampleFile.set 16 3

/-- Two programs, of which the second may be moved. -/
def samplePrograms : List StoredBinary :=
  [{ path := Files.bytes "/bin/absolute"
     bytes := sampleFile
     name := Files.bytes "absolute" },
    { path := Files.bytes "/bin/shared"
      bytes := sharedFile
      name := Files.bytes "shared" }]

/-- `sharedFile` with its header. -/
def sharedImage : Image where
  bytes := sharedFile
  header := ⟨3, 0x3e, 1, 0x401000, 64, 2, 56⟩

/-- An image of the sample alone in memory. -/
def sampleImages (image : Image) : Images :=
  let main : Loaded :=
    ⟨0x400000401000, mainBase, 0x400000400000, 0x400000402000, 2, 1⟩
  { mainImage := image, rtldImage := none, main, rtld := main }

theorem exists_loaded_programs :
    (∃ final,
        loadProgram FrameAllocator.allocate samplePrograms 0
            (Files.bytes "/bin/absolute") sampleSpace =
          .ok (sampleImages sampleImage) final) ∧
      ∃ final,
        loadProgram FrameAllocator.allocate samplePrograms 0
            (Files.bytes "/bin/shared") sampleSpace =
          .ok (sampleImages sharedImage) final :=
  ⟨Prog.eq_ok_of_value? (by decide +kernel),
    Prog.eq_ok_of_value? (by decide +kernel)⟩

/-- The program that may be moved runs where it was linked for. -/
theorem linked_addresses_shared :
    ∃ final,
      loadProgram FrameAllocator.allocate samplePrograms 0
          (Files.bytes "/bin/shared") sampleSpace =
          .ok (sampleImages sharedImage) final ∧
        RunsLinked FrameAllocator.allocate 0 mainBase sharedImage
          (sampleImages sharedImage).main final.machine := by
  obtain ⟨_, final, returned⟩ := exists_loaded_programs
  refine ⟨final, returned, ?_⟩
  apply
    (linked_addresses_iff FrameAllocator.allocate samplePrograms 0 sampleSpace
      final (sampleImages sharedImage) ready_emptyTables
      (.program _ returned) sharedImage mainBase
      (sampleImages sharedImage).main .main).mpr
  decide

/-- The program that is tied to its addresses does not run there. -/
theorem absolute_program_moved :
    ∃ final,
      Image.parse sampleFile = .ok sampleImage ∧
        sampleImage.header.kind = etExec ∧
        loadProgram FrameAllocator.allocate samplePrograms 0
            (Files.bytes "/bin/absolute") sampleSpace =
          .ok (sampleImages sampleImage) final ∧
        ¬ RunsLinked FrameAllocator.allocate 0 mainBase sampleImage
            (sampleImages sampleImage).main final.machine := by
  obtain ⟨⟨final, returned⟩, _⟩ := exists_loaded_programs
  refine ⟨final, by decide +kernel, rfl, returned, fun linked => ?_⟩
  exact absurd linked.entry (by decide)

end VibuxOS.Elf
