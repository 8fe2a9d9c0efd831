import VibuxOS.Elf.Dynamic
import VibuxOS.Elf.ExecLoads
import VibuxOS.Elf.UserStack
import VibuxOS.Files.BuiltIn

namespace VibuxOS.Elf

open VibuxOS.Lib
open VibuxOS.Paging
open VibuxOS.UserSpace
open VibuxOS.Files (StoredBinary)

/-!
# Running a program

`load` of `velf/loader.rs`, and `exec_program` and `run_bash` of
`velf/runner.rs` up to the processor's first instruction in the program.  The
base of an image is chosen in all three: `load` looks at the type of the image,
the others always take their constants.
-/

def mainBase : UInt64 := 0x0000400000000000

def rtldBase : UInt64 := 0x0000500000000000

/-- `TLS_BASE`, which the runner writes out -/
def tlsBase : UInt64 := 0x00005fff00000000

variable {κ α δ ε σ : Type}

def load
    (allocate : Allocate κ)
    (image : Image)
    (physicalOffset : UInt64) :
    Kernel κ Error Loaded :=
  let bias := if image.header.kind = etDyn then 0x0000400000000000 else 0
  loadAt allocate image physicalOffset bias

/-! ## Results of the runner -/

/-- `map_err(|_| error)?` of a check -/
def checkOr (error : ε) (result : Except Error α) : Prog σ ε α :=
  Prog.ofExcept (result.mapError fun _ => error)

/-- `ok_or(error)?` -/
def someOr (error : ε) (value : Option α) : Prog σ ε α :=
  match value with
  | some value => pure value
  | none => Prog.fail error

/-- `map_err(|_| error)?` of a reader -/
def readOr (error : ε) (reader : Reader α) : Prog σ ε α :=
  Prog.onPart (fun _ => ()) (fun _ state => state)
    (Prog.mapError (fun _ => error) reader)

/-- `map_err(|_| error)?` of a program over the tables -/
def loadOr (error : ε) (program : Kernel κ Error α) : Prog (Space κ) ε α :=
  Prog.mapError (fun _ => error) (onMachine program)

def unwrap (program : Building α) : Prog StackBuilder ε α :=
  fun builder =>
    match program builder with
    | .ok value final => .ok value final
    | .err _ _ => .hang
    | .hang => .hang

/-- Run the stack builder on the frames of the stack. -/
def onStack
    (frames : List UInt64)
    (program : Prog StackBuilder ε α) :
    Prog (Space κ) ε α :=
  Prog.onPart
    (fun space => StackBuilder.new frames space.machine.memory)
    (fun builder space =>
      { space with
        machine := { space.machine with memory := builder.memory } })
    program

/-- The images of a program and of its interpreter, and where they are. -/
structure Images where
  mainImage : Image
  rtldImage : Option Image
  main : Loaded
  rtld : Loaded
  deriving Repr, DecidableEq

/-- What the processor enters. -/
structure Entered where
  entry : UInt64
  sp : UInt64
  deriving Repr, DecidableEq

/-! ## `exec_program` -/

/-- `rtld_binary` of `exec_program` -/
def findInterpreter
    (binaries : List StoredBinary)
    (interpPath : List UInt8) :
    Prog σ UInt64 (Option StoredBinary) :=
  if interpPath.isEmpty then
    pure none
  else
    match Files.find binaries interpPath with
    | none => Prog.fail 2
    | some binary => pure (some binary)

/-- `rtld_image` of `exec_program` -/
def parseInterpreter
    (rtldBinary : Option StoredBinary) :
    Prog σ UInt64 (Option Image) :=
  match rtldBinary with
  | none => pure none
  | some binary => do
      let image ← checkOr 8 (Image.parse binary.bytes)
      pure (some image)

/-- `rtld_start` and `rtld_end` of `exec_program` -/
def interpreterRange
    (rtldImage : Option Image) :
    Prog σ UInt64 (UInt64 × UInt64) :=
  match rtldImage with
  | none => pure (0, 0)
  | some image => someOr 8 (imageRange image rtldBase)

/-- `rtld` of `exec_program` -/
def loadInterpreter
    (allocate : Allocate κ)
    (physicalOffset : UInt64)
    (main : Loaded)
    (rtldImage : Option Image) :
    Prog (Space κ) UInt64 Loaded :=
  match rtldImage with
  | none => pure main
  | some image => loadOr 12 (loadAt allocate image physicalOffset rtldBase)

/-- The mapping of `prepare_exec_tls` -/
def mapExecTls (allocate : Allocate κ) (frame : UInt64) : Kernel κ ε Bool := do
  match ← Prog.attempt (map4k allocate tlsBase frame stackFlags) with
  | .error _ => pure false
  | .ok _ => do
      zeroFrame frame
      pure true

/-- `prepare_exec_tls`, over the tables -/
def prepareExecTls (allocate : Allocate κ) : Kernel κ ε Bool := do
  let found ← Prog.gets fun machine =>
    translate machine.memory machine.cr3 tlsBase
  if found.isSome then
    pure true
  else do
    match ← allocateFrame allocate with
    | none => pure false
    | some frame => mapExecTls allocate frame

/-- The part of `exec_program` that loads the images -/
def loadProgram
    (allocate : Allocate κ)
    (binaries : List StoredBinary)
    (physicalOffset : UInt64)
    (path : List UInt8) :
    Prog (Space κ) UInt64 Images := do
  let binary ← someOr 2 (Files.find binaries path)
  let mainImage ← checkOr 8 (Image.parse binary.bytes)
  let interpPath ← readOr 8 mainImage.interpreter
  let rtldBinary ← findInterpreter binaries (interpPath.getD [])
  let rtldImage ← parseInterpreter rtldBinary
  let mainRange ← someOr 8 (imageRange mainImage mainBase)
  let rtldRange ← interpreterRange rtldImage
  resetProcessForExec mainRange.1 mainRange.2 rtldRange.1 rtldRange.2
    stackBottom stackTop tlsBase
  let main ← loadOr 12 (loadAt allocate mainImage physicalOffset mainBase)
  let rtld ← loadInterpreter allocate physicalOffset main rtldImage
  pure { mainImage, rtldImage, main, rtld }

def execProgram
    (allocate : Allocate κ)
    (binaries : List StoredBinary)
    (physicalOffset counter : UInt64)
    (path : List UInt8)
    (argv envp : List (List UInt8)) :
    Prog (Space κ) UInt64 Entered := do
  let images ← loadProgram allocate binaries physicalOffset path
  let frames ← loadOr 12 (allocateUserStack allocate)
  let sp ←
    onStack frames
      (fillStack images.main images.rtld images.mainImage.header counter path
        argv envp)
  let prepared ← onMachine (prepareExecTls allocate)
  if prepared then
    pure { entry := images.rtld.entry, sp }
  else
    Prog.fail 12

/-! ## `run_bash` -/

/-- The environment of the shell -/
def bashEnvironment : List (List UInt8) :=
  [Files.bytes "HOME=/home/boi",
    Files.bytes "USER=boi",
    Files.bytes "SHELL=/bin/bash",
    Files.bytes "PATH=/bin:/usr/bin",
    Files.bytes "PWD=/home/boi",
    Files.bytes "LD_LIBRARY_PATH=/lib64"]

/-- The arguments of the shell -/
def bashArguments : List (List UInt8) :=
  [Files.bytes "/bin/bash", Files.bytes "--norc", Files.bytes "-i"]

/-- The part of `run_bash` that fills the stack, up to the stack pointer -/
def fillBashStack
    (main rtld : Loaded)
    (header : Header)
    (counter : UInt64) :
    Prog StackBuilder ε UInt64 := do
  let execfn ← unwrap (putBytes (Files.bytes "/bin/bash"))
  let platform ← unwrap (putBytes platformName)
  let envs ← unwrap (putStrings bashEnvironment)
  let randomAddr ← unwrap (reserve 16 16)
  let pointer ← unwrap (ptrAt randomAddr)
  unwrap (writeAt pointer.toNat (randomSeed counter))
  let argvPtrs ← unwrap (putStrings bashArguments)
  match checkedAdd main.bias header.phoff with
  | none => Prog.hang
  | some phdr =>
      unwrap
        (pushBlock
          (stackEntries argvPtrs envs
            (auxv main rtld header phdr platform randomAddr execfn)))

/-- The part of `run_bash` that loads the images -/
def loadBash
    (allocate : Allocate κ)
    (binaries : List StoredBinary)
    (physicalOffset : UInt64) :
    Prog (Space κ) Unit Images :=
  match Files.find binaries (Files.bytes "/bin/bash") with
  | none => Prog.hang
  | some bash => do
      let bashImage ← checkOr () (Image.parse bash.bytes)
      let rtldPath ← readOr () bashImage.interpreter
      let rtldPath ← someOr () rtldPath
      let rtldBinary ← someOr () (Files.find binaries rtldPath)
      let rtldImage ← checkOr () (Image.parse rtldBinary.bytes)
      let mainRange ← someOr () (imageRange bashImage mainBase)
      let rtldRange ← someOr () (imageRange rtldImage rtldBase)
      resetProcessForExec mainRange.1 mainRange.2 rtldRange.1 rtldRange.2
        stackBottom stackTop tlsBase
      let main ← loadOr () (loadAt allocate bashImage physicalOffset mainBase)
      let rtld ← loadOr () (loadAt allocate rtldImage physicalOffset rtldBase)
      pure { mainImage := bashImage, rtldImage := some rtldImage, main, rtld }

/--
`run_bash`, up to `enter_user`; where it reports something on the serial line
and returns, this fails.
-/
def runBash
    (allocate : Allocate κ)
    (binaries : List StoredBinary)
    (physicalOffset counter : UInt64) :
    Prog (Space κ) Unit Entered := do
  let images ← loadBash allocate binaries physicalOffset
  let frames ← loadOr () (allocateUserStack allocate)
  let sp ←
    onStack frames
      (fillBashStack images.main images.rtld images.mainImage.header counter)
  pure { entry := images.rtld.entry, sp }

end VibuxOS.Elf
