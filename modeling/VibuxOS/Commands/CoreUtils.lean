import VibuxOS.Storage.VfsContents

namespace VibuxOS.Commands

open VibuxOS.Lib VibuxOS.Storage.Vfs

/-!
# The commands of `coreutils.rs`

A command reads and writes files through the calls of the file system and writes
its output to a terminal.  The output is kept as the list of what was written:
a byte through `emit_byte`, or a line through `writeln!`.
-/

def bufSize : Nat := 64 * 1024

def newline : UInt8 := 10

/-- What a command writes. -/
inductive Output where
  | byte (value : UInt8)
  | line (text : String)
  deriving Repr, DecidableEq

/-- `emit_byte`, with the characters it writes -/
def emitByte (byte : UInt8) : List Char :=
  if byte = newline then
    ['\n']
  else if byte = 13 then
    []
  else if byte = 9 then
    ['\t']
  else if 0x20 ≤ byte ∧ byte ≤ 0x7E then
    [charOf byte]
  else
    ['·']

/-- The characters that reach the terminal. -/
def Output.text : Output → List Char
  | .byte value => emitByte value
  | .line text => text.toList ++ ['\n']

/-- The line of `report_error` -/
def errorText : FsError → String
  | .offline => "filesystem offline"
  | .io => "I/O error"
  | .invalid => "invalid filesystem state"
  | .notFound => "no such file or directory"
  | .exists => "already exists"
  | .notDir => "not a directory"
  | .isDir => "is a directory"
  | .notEmpty => "directory not empty"
  | .permission => "permission denied"
  | .noSpace => "no space left"
  | .tooLarge => "file too large"

/-- A message of a command and the line of `report_error`. -/
def failure (message : String) (error : FsError) : List Output :=
  [.line message, .line (errorText error)]

/-- A command, with what it writes; its errors are part of the output. -/
abbrev Command := Prog Disk Empty (List Output)

/-- `read_file_bytes` into the buffer of a command -/
def readBuffer
    (path : List UInt8)
    (cwd : Nat) :
    Prog Disk Empty (Except FsError (List UInt8)) :=
  Prog.attempt do
    let read ← readFileBytes path cwd bufSize fun _ => 0
    pure (window read.2 0 read.1)

/-- The loop of `head`: the bytes that it emits -/
def headLoop (lines : Nat) : List UInt8 → Nat → List UInt8
  | [], _ => []
  | byte :: rest, count =>
      if byte = newline then
        if lines ≤ count + 1 then
          [byte]
        else
          byte :: headLoop lines rest (count + 1)
      else
        byte :: headLoop lines rest count

def head (path : List UInt8) (lines cwd : Nat) : Command := do
  match ← readBuffer path cwd with
  | .error error => pure (failure "head: failed" error)
  | .ok bytes => pure ((headLoop lines bytes 0).map .byte)

/-- The length of the table of `tail` -/
def startsLength : Nat := 4096

/-- The loop of `tail` that fills its table -/
def fillStarts : List UInt8 → Nat → List Nat → List Nat
  | [], _, starts => starts
  | byte :: rest, index, starts =>
      if byte = newline ∧ starts.length < startsLength then
        fillStarts rest (index + 1) (starts ++ [index + 1])
      else
        fillStarts rest (index + 1) starts

/-- The place where `tail` starts to emit -/
def tailStart (lines : Nat) (bytes : List UInt8) : Nat :=
  let starts := fillStarts bytes 0 [0]
  if lines < starts.length then
    starts.getD (starts.length - lines) 0
  else
    0

def tail (path : List UInt8) (lines cwd : Nat) : Command := do
  match ← readBuffer path cwd with
  | .error error => pure (failure "tail: failed" error)
  | .ok bytes =>
      if lines = 0 then
        pure []
      else
        pure ((bytes.drop (tailStart lines bytes)).map .byte)

def mv
    (candidate : FsMeta)
    (src dst : List UInt8)
    (cwd uid gid : Nat) :
    Command := do
  match ← readBuffer src cwd with
  | .error error => pure (failure "mv: source read failed" error)
  | .ok bytes =>
      match ← Prog.attempt (writeFile candidate dst cwd bytes uid gid) with
      | .error error => pure (failure "mv: destination write failed" error)
      | .ok () =>
          match ← Prog.attempt (remove candidate src cwd) with
          | .error error => pure (failure "mv: source removal failed" error)
          | .ok () => pure []

theorem readBuffer_of_file
    {disk : Disk}
    {path : List UInt8}
    {cwd ino : Nat}
    (resolved : resolveWith path cwd disk = .ok ino disk)
    (isFile : IsFile disk.inode ino)
    (small : (disk.inode ino).size ≤ bufSize) :
    readBuffer path cwd disk = .ok (.ok (disk.contents ino)) disk := by
  have length : (disk.contents ino).length = (disk.inode ino).size :=
    length_window _ _ _
  obtain ⟨filled, read, shown⟩ :=
    (readsAs_contents resolved isFile).bytes bufSize (fun _ => 0)
      (length.trans_le small)
  apply Prog.attempt_of_ok
  rw [Prog.bind_of_ok read, shown, Prog.pure_apply]

end VibuxOS.Commands
