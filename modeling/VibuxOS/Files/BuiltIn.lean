import Mathlib.Data.List.Infix
import VibuxOS.Files.FileCalls
import VibuxOS.Files.Opening

namespace VibuxOS.Files

open VibuxOS.Lib

/-!
# Built-in files

The binaries that are embedded into the kernel, with the lookup of
`velf/store.rs`, and the table of texts of `arch/x86_64/syscall.rs`.  The table
of binaries is generated when the kernel is built; what `build.rs` says about
it is kept as fields of `Store`.
-/

variable {path : List UInt8}

/-! ## The table of binaries -/

/-- An entry of `BINARIES`, with its name. -/
structure StoredBinary extends Binary where
  name : List UInt8

/-- What follows the last `/` of a path. -/
def lastComponent (path : List UInt8) : List UInt8 :=
  path.foldl (fun name byte => if byte = 47 then [] else name ++ [byte]) []

/-- Whether a name has `.so.` in it. -/
def hasSoVersion (name : List UInt8) : Bool :=
  name.tails.any fun rest => (bytes ".so.").isPrefixOf rest

/-- Whether a name goes on with a `.` after another one. -/
def extendsName (longer name : List UInt8) : Bool :=
  longer.length > name.length && name.isPrefixOf longer &&
    longer.getD name.length 0 == 46

def find
    (binaries : List StoredBinary)
    (path : List UInt8) :
    Option StoredBinary :=
  let name := lastComponent path
  match binaries.find? fun binary => binary.path == path with
  | some binary => some binary
  | none =>
      match binaries.find? fun binary => binary.name == name with
      | some binary => some binary
      | none =>
          if hasSoVersion name then
            binaries.find? fun binary => extendsName binary.name name
          else
            none

/-! ## The table of texts -/

/-- The paths and contents of the built-in texts. -/
def textFiles : List (String × String) :=
  [("/etc/passwd",
      "root:x:0:0:root:/root:/bin/sh\nboi:x:1000:1000:Vibux User:/home/boi:/bin/sh\n"),
    ("/etc/group", "root:x:0:\nboi:x:1000:\n"),
    ("/etc/hostname", "vibux\n"),
    ("/etc/profile", "# /etc/profile\nPATH=/bin:/usr/bin\nexport PATH\n"),
    ("/etc/bash.bashrc", "# /etc/bash.bashrc\nPS1='vibux$ '\n"),
    ("/etc/bashrc", "# /etc/bashrc\n"),
    ("/etc/mtab", "/dev/nvme0n1p2 / vibuxfs rw 0 0\n"),
    ("/etc/fstab", "# /etc/fstab\n"),
    ("/etc/resolv.conf", "nameserver 10.0.2.3\n"),
    ("/etc/hosts", "127.0.0.1 localhost\n::1 localhost\n"),
    ("/home/boi/.bashrc", "# ~/.bashrc\n"),
    ("/home/boi/.bash_profile", "# ~/.bash_profile\n"),
    ("/home/boi/.profile", "# ~/.profile\n"),
    ("/root/.bashrc", "# ~/.bashrc\n"),
    ("/root/.bash_profile", "# ~/.bash_profile\n"),
    ("/root/.profile", "# ~/.profile\n")]

def textFile (path : List UInt8) : Option (List UInt8) :=
  (textFiles.find? fun file => path == bytes file.1).map fun file =>
    bytes file.2

/-! ## The store -/

/-- A path that stands for a directory, a device or a built-in text. -/
def Reserved (path : List UInt8) : Prop :=
  isDirectory path = true ∨
    (devicePath path).isSome = true ∨
    (textFile path).isSome = true

/--
The generated table.  A binary is named by the last component of its path; no
two have one path, and none has the name of a directory, a device or a text.
The image of the shell is among them.
-/
structure Store where
  binaries : List StoredBinary
  named : ∀ binary ∈ binaries, binary.name = lastComponent binary.path
  distinct : (binaries.map fun binary => binary.path).Nodup
  apart :
    ∀ binary ∈ binaries,
      ∀ path, Reserved path → binary.name ≠ lastComponent path
  shell :
    ∃ binary ∈ binaries, binary.path = bytes "/bin/bash" ∧ binary.bytes ≠ []
  sizes : ∀ binary ∈ binaries, binary.bytes.length < 2 ^ 63

/-- A world whose fixed tables are these. -/
structure Store.Serves (store : Store) (world : World) : Prop where
  binary :
    world.binary =
      fun path => (find store.binaries path).map StoredBinary.toBinary
  text : world.text = textFile

theorem Store.Serves.binary_eq
    {store : Store}
    {world : World}
    (serves : store.Serves world)
    (path : List UInt8) :
    world.binary path =
      (find store.binaries path).map StoredBinary.toBinary := by
  rw [serves.binary]

/-- What the built-in file of a path holds, if there is such a file. -/
def Store.contentsOf
    (store : Store)
    (path : List UInt8) :
    Option (List UInt8) :=
  match store.binaries.find? fun binary => binary.path == path with
  | some binary => some binary.bytes
  | none => textFile path

/-! ## Lookups -/

def directoryPaths : List String :=
  ["/", ".", "..", "/home", "/home/boi", "/tmp", "/etc", "/usr", "/var", "/bin",
    "/dev", "/proc", "/proc/self", "/proc/1", "/root", "/sys", "/run"]

/-- The paths of directories and devices. -/
def specialPaths : List (List UInt8) :=
  directoryPaths.map bytes ++ devicePaths.map fun device => ascii device.1

theorem mem_directoryPaths_of_isDirectory
    (directory : isDirectory path = true) :
    path ∈ directoryPaths.map bytes := by
  unfold isDirectory isDirectoryPath at directory
  simp only [Bool.or_eq_true, beq_iff_eq, List.any_cons, List.any_nil,
    Bool.or_false] at directory
  have listed :
      ∀ text : List Char,
        ascii text ∈ directoryPaths.map bytes →
        path = ascii text →
        path ∈ directoryPaths.map bytes := by
    rintro text member rfl
    exact member
  rcases directory with
      (same | same) | same | same | same | same | same | same | same | same |
        same | same | same | same | same | same | same <;>
    exact listed _ (by decide +kernel) same

theorem mem_specialPaths_of_isDirectory
    (directory : isDirectory path = true) :
    path ∈ specialPaths :=
  List.mem_append_left _ (mem_directoryPaths_of_isDirectory directory)

theorem mem_specialPaths_of_devicePath
    (device : (devicePath path).isSome = true) :
    path ∈ specialPaths := by
  obtain ⟨⟨kind, stored⟩, found⟩ := Option.isSome_iff_exists.mp device
  obtain ⟨device, member, samePath, _⟩ := devicePath_mem found
  rw [samePath]
  exact List.mem_append_right _ (List.mem_map_of_mem member)

theorem textFile_mem
    {path contents : List UInt8}
    (isText : textFile path = some contents) :
    ∃ file ∈ textFiles, path = bytes file.1 ∧ contents = bytes file.2 := by
  obtain ⟨file, found, same⟩ := Option.map_eq_some_iff.mp isText
  refine ⟨file, List.mem_of_find?_eq_some found, ?_, same.symm⟩
  have samePath := List.find?_some found
  rwa [beq_iff_eq] at samePath

theorem forall_reserved
    {holds : List UInt8 → Prop}
    (special : ∀ path ∈ specialPaths, holds path)
    (texts : ∀ file ∈ textFiles, holds (bytes file.1))
    (path : List UInt8)
    (reserved : Reserved path) :
    holds path := by
  rcases reserved with directory | device | text
  · exact special path (mem_specialPaths_of_isDirectory directory)
  · exact special path (mem_specialPaths_of_devicePath device)
  · obtain ⟨contents, found⟩ := Option.isSome_iff_exists.mp text
    obtain ⟨file, member, samePath, _⟩ := textFile_mem found
    rw [samePath]
    exact texts file member

theorem hasSoVersion_of_reserved
    (reserved : Reserved path) :
    hasSoVersion (lastComponent path) = false := by
  apply
    @forall_reserved (fun path => hasSoVersion (lastComponent path) = false) _ _
      path reserved
  · decide +kernel
  · decide +kernel

/-- The table with nothing but a shell of four bytes. -/
def Store.shellOnly : Store where
  binaries :=
    [{ path := bytes "/bin/bash", bytes := [127, 69, 76, 70],
       name := bytes "bash" }]
  named := by decide +kernel
  distinct := by decide +kernel
  apart := by
    intro binary member
    rw [List.mem_singleton.mp member]
    apply forall_reserved
    · decide +kernel
    · decide +kernel
  shell := ⟨_, List.mem_singleton_self _, rfl, by decide⟩
  sizes := by decide +kernel

namespace Store

variable (store : Store)

theorem find_of_reserved
    (reserved : Reserved path) :
    find store.binaries path = none := by
  have noPath :
      (store.binaries.find? fun binary => binary.path == path) = none := by
    apply List.find?_eq_none.mpr
    intro binary member samePath
    rw [beq_iff_eq] at samePath
    apply store.apart binary member path reserved
    rw [store.named binary member, samePath]
  have noName :
      (store.binaries.find? fun binary =>
          binary.name == lastComponent path) =
        none := by
    apply List.find?_eq_none.mpr
    intro binary member sameName
    rw [beq_iff_eq] at sameName
    exact store.apart binary member path reserved sameName
  unfold find
  dsimp only
  rw [noPath, noName, hasSoVersion_of_reserved reserved]
  rfl

theorem find_path
    {binary : StoredBinary}
    (member : binary ∈ store.binaries) :
    find store.binaries binary.path = some binary := by
  have found :
      (store.binaries.find? fun other => other.path == binary.path) =
        some binary := by
    obtain ⟨other, foundOther⟩ :
        ∃ other,
          (store.binaries.find? fun other => other.path == binary.path) =
            some other := by
      apply Option.isSome_iff_exists.mp
      apply List.find?_isSome.mpr
      exact ⟨binary, member, beq_self_eq_true _⟩
    have samePath := List.find?_some foundOther
    rw [beq_iff_eq] at samePath
    have otherMember := List.mem_of_find?_eq_some foundOther
    rw [foundOther,
      List.inj_on_of_nodup_map store.distinct otherMember member samePath]
  unfold find
  dsimp only
  rw [found]

end Store

end VibuxOS.Files
