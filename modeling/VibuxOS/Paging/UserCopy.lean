import VibuxOS.Lib.Buffer
import VibuxOS.Lib.Prog
import VibuxOS.Paging.Tables

namespace VibuxOS.Paging

open VibuxOS.Lib

/-!
# Copies to and from user memory

`copy_user_in`, `copy_user_out`, `copy_user_zero` and `read_c_string` of
`arch/x86_64/syscall.rs`.

The page tables stay as they are during one copy; the bytes they map are a
memory of their own.  The kernel runs with write protection on and without
supervisor access prevention, so a load needs a mapping and a store one that is
writable on every level; a page fault of the kernel does not return.  The pages
that a copy has loaded from and stored to are ghosts.
-/

def efault : UInt64 := 14

def einval : UInt64 := 22

def enametoolong : UInt64 := 36

def negErrno (code : UInt64) : UInt64 := 0 - code

/-- The page tables that are in force. -/
structure AddressSpace where
  memory : Memory
  cr3 : UInt64

/-- `translate` in an address space. -/
def AddressSpace.translate
    (space : AddressSpace)
    (virtualAddress : UInt64) :
    Option Mapping :=
  Paging.translate space.memory space.cr3 virtualAddress

/-- What the processor finds in an address space. -/
def AddressSpace.lookup
    (space : AddressSpace)
    (virtualAddress : UInt64) :
    Option Access :=
  Paging.lookup space.memory space.cr3 virtualAddress

/-- The bytes in memory, the kernel's buffer and the pages copied so far. -/
structure Copying where
  bytes : UInt64 → UInt8
  output : Nat → UInt8
  readPages : List UInt64
  writtenPages : List UInt64

/-- A copy that has not begun. -/
def Copying.start
    (bytes : UInt64 → UInt8)
    (output : Nat → UInt8) :
    Copying where
  bytes := bytes
  output := output
  readPages := []
  writtenPages := []

/-- A copy fails with a positive error number. -/
abbrev Copy := Prog Copying UInt64

def loadByte
    (space : AddressSpace)
    (virtualAddress : UInt64) :
    Copy UInt8 :=
  match space.lookup virtualAddress with
  | none => Prog.hang
  | some access => do
      Prog.modify fun state =>
        { state with
          readPages := state.readPages ++ [pageOf virtualAddress] }
      Prog.gets fun state => state.bytes access.physical

def storeByte
    (space : AddressSpace)
    (virtualAddress : UInt64)
    (byte : UInt8) :
    Copy Unit :=
  match space.lookup virtualAddress with
  | none => Prog.hang
  | some access =>
      if access.writable then
        Prog.modify fun state =>
          { state with
            bytes := Function.update state.bytes access.physical byte
            writtenPages := state.writtenPages ++ [pageOf virtualAddress] }
      else
        Prog.hang

/-- `copy_nonoverlapping` from user memory -/
def loadBytes
    (space : AddressSpace)
    (virtualAddress : UInt64) :
    Nat → Copy (List UInt8)
  | 0 => pure []
  | amount + 1 => do
      let byte ← loadByte space virtualAddress
      let rest ← loadBytes space (virtualAddress + 1) amount
      pure (byte :: rest)

/-- `copy_nonoverlapping` and `write_bytes` to user memory -/
def storeBytes
    (space : AddressSpace)
    (virtualAddress : UInt64) :
    List UInt8 → Copy Unit
  | [] => pure ()
  | byte :: rest => do
      storeByte space virtualAddress byte
      storeBytes space (virtualAddress + 1) rest

/-- The bytes from an address to the end of its page. -/
def pageLeft (virtualAddress : UInt64) : Nat :=
  (pageSize - (virtualAddress &&& (pageSize - 1))).toNat

/-- The loop over pages in `copy_user_in`, `copy_user_out`, `copy_user_zero`. -/
def copyPages
    (space : AddressSpace)
    (transfer : UInt64 → Nat → Nat → Copy Unit)
    (address : UInt64)
    (len : Nat) :
    Nat → Nat → Copy Unit
  | 0, _ => Prog.hang
  | fuel + 1, offset =>
      if offset < len then
        let virtualAddress := address + UInt64.ofNat offset
        if (space.translate virtualAddress).isNone then
          Prog.fail efault
        else
          let amount := min (pageLeft virtualAddress) (len - offset)
          do
            transfer virtualAddress offset amount
            copyPages space transfer address len fuel (offset + amount)
      else
        pure ()

/-- The checks before that loop. -/
def copyRange
    (space : AddressSpace)
    (transfer : UInt64 → Nat → Nat → Copy Unit)
    (address : UInt64)
    (len : Nat) :
    Copy Unit :=
  if len = 0 then
    pure ()
  else if 2 ^ 64 ≤ address.toNat + len then
    Prog.fail efault
  else
    let stop := address + UInt64.ofNat len
    if userLimit ≤ address ∨ userLimit < stop ∨ stop < address then
      Prog.fail efault
    else
      copyPages space transfer address len (len + 1) 0

/-- `copy_user_in` of `len` bytes -/
def copyUserIn
    (space : AddressSpace)
    (address : UInt64)
    (len : Nat) :
    Copy Unit :=
  copyRange space
    (fun virtualAddress offset amount => do
      let chunk ← loadBytes space virtualAddress amount
      Prog.modify fun state =>
        { state with
          output :=
            blit state.output offset (fun index => chunk.getD index 0)
              amount })
    address len

def copyUserOut
    (space : AddressSpace)
    (address : UInt64)
    (input : List UInt8) :
    Copy Unit :=
  copyRange space
    (fun virtualAddress offset amount =>
      storeBytes space virtualAddress ((input.drop offset).take amount))
    address input.length

def copyUserZero
    (space : AddressSpace)
    (address : UInt64)
    (len : Nat) :
    Copy UInt64 := do
  let result ←
    Prog.attempt
      (copyRange space
        (fun virtualAddress _ amount =>
          storeBytes space virtualAddress (List.replicate amount 0))
        address len)
  match result with
  | .ok _ => pure 0
  | .error code => pure (negErrno code)

/-- The loop of `read_c_string`. -/
def readCStringLoop
    (space : AddressSpace)
    (address : UInt64)
    (limit : Nat) :
    Nat → Nat → Copy Nat
  | 0, _ => Prog.hang
  | fuel + 1, index =>
      if index < limit then
        if 2 ^ 64 ≤ address.toNat + index then
          Prog.fail efault
        else
          let current := address + UInt64.ofNat index
          let amount := min (pageLeft current) (limit - index)
          if (space.translate current).isNone then
            Prog.fail efault
          else do
            let chunk ← loadBytes space current amount
            Prog.modify fun state =>
              { state with
                output :=
                  blit state.output index (fun index => chunk.getD index 0)
                    amount }
            match chunk.findIdx? (· == 0) with
            | some position => pure (index + position)
            | none =>
                readCStringLoop space address limit fuel (index + amount)
      else
        Prog.fail enametoolong

/-- `read_c_string` into a buffer of `len` bytes -/
def readCString
    (space : AddressSpace)
    (address : UInt64)
    (len : Nat) :
    Copy Nat :=
  if len = 0 ∨ userLimit ≤ address then
    Prog.fail einval
  else
    readCStringLoop space address (len - 1) len 0

end VibuxOS.Paging
