import VibuxOS.Storage.VfsPaths
import VibuxOS.Storage.VfsTreeRuns

namespace VibuxOS.Storage.Vfs

open VibuxOS.Lib

/-!
# Names and lookup

In a tree whose directories have no two children of one name, looking a name
up does not depend on the order of the chain: it finds the child with that
name.  Names that fit in a slot are stored as they are, so `create_entry`
keeps names unique and what it creates is found again.
-/

variable {candidate : FsMeta} {disk final : Disk}

variable {path : List UInt8}

def Child (slots : Slots) (directory child : Nat) : Prop :=
  Used slots child ∧
    child ≠ rootInode ∧
    (slots child).parent = directory

/-- No two children of one directory have the same name. -/
def UniqueNames (slots : Slots) : Prop :=
  ∀ directory child other,
    Child slots directory child →
    Child slots directory other →
    (slots child).nameSlice = (slots other).nameSlice →
    child = other

/-! ## Stored names -/

/-- A name that an inode slot can store as it is. -/
def NameFits (name : List UInt8) : Prop :=
  name.length ≤ 56 ∧ 0 ∉ name

instance (name : List UInt8) : Decidable (NameFits name) :=
  inferInstanceAs (Decidable (_ ∧ _))

theorem nameSlice_newEntry
    {kind mode uid gid parentIno firstChild : Nat}
    {name : List UInt8}
    (fits : NameFits name) :
    (newEntry kind mode uid gid parentIno firstChild name).nameSlice =
      name := by
  obtain ⟨short, noZero⟩ := fits
  have allKept : ∀ byte ∈ name, decide (byte ≠ 0) = true := by
    intro byte member
    refine decide_eq_true ?_
    rintro rfl
    exact noZero member
  simp only [Inode.nameSlice, newEntry, storedName,
    List.take_of_length_le short]
  rw [List.takeWhile_append_of_pos allKept]
  cases 56 - name.length <;> simp [List.replicate_succ]

/-! ## Looking a name up -/

namespace TreeInvariant

theorem exists_children
    (tree : TreeInvariant disk.inode)
    {directory : Nat}
    (isSlot : IsSlot directory) :
    ∃ cells : List Nat,
      (∀ stop : Inode → Bool,
          walkSiblings stop walkFuel (disk.inode directory).firstChild
              disk =
            .ok ((cells.find? fun cell => stop (disk.inode cell)).getD 0)
              disk) ∧
        ∀ slot, slot ∈ cells ↔ Child disk.inode directory slot := by
  obtain ⟨cells, chain, members⟩ := tree.children isSlot
  have areSlots := tree.chain_isSlot isSlot chain
  have bound := length_le_inodeCount chain.nodup areSlots
  have short : cells.length ≤ walkFuel := by
    simp only [walkFuel]
    omega
  exact ⟨cells,
    fun _ => walkSiblings_chain chain areSlots short, members⟩

theorem noDuplicate_iff
    (tree : TreeInvariant disk.inode)
    {directory : Nat}
    (isSlot : IsSlot directory)
    (name : List UInt8) :
    walkSiblings (fun entry => entry.nameSlice == name) walkFuel
          (disk.inode directory).firstChild disk =
        .ok 0 disk ↔
      ∀ child,
        Child disk.inode directory child →
        (disk.inode child).nameSlice ≠ name := by
  obtain ⟨cells, walked, members⟩ := tree.exists_children isSlot
  rw [walked]
  constructor
  · intro none child isChild sameName
    have member := (members child).mpr isChild
    cases found :
        cells.find? fun cell =>
          (disk.inode cell).nameSlice == name with
    | none =>
        have differs := List.find?_eq_none.mp found child member
        simp [sameName] at differs
    | some cell =>
        rw [found] at none
        have isCell : cell = 0 := by simpa using none
        have cellChild :=
          (members cell).mp (List.mem_of_find?_eq_some found)
        exact cellChild.1.1.ne_zero isCell
  · intro differs
    have found :
        (cells.find? fun cell =>
          (disk.inode cell).nameSlice == name) = none := by
      refine List.find?_eq_none.mpr ?_
      intro cell member
      simpa using differs cell ((members cell).mp member)
    rw [found]
    rfl

theorem resolvePart_iff
    (tree : TreeInvariant disk.inode)
    (unique : UniqueNames disk.inode)
    {current next : Nat}
    (isSlot : IsSlot current)
    {part : List UInt8}
    (isName : part ≠ dotDot) :
    resolvePart part current disk = .ok next disk ↔
      (disk.inode current).kind = 2 ∧
        Child disk.inode current next ∧
        (disk.inode next).nameSlice = part := by
  obtain ⟨cells, walked, members⟩ := tree.exists_children isSlot
  rw [resolvePart_eq_ok, walked]
  simp only [isSlot, isName, false_and, not_false_eq_true, ne_eq,
    true_and, false_or, Outcome.ok.injEq, and_true]
  refine and_congr_right (fun _ => ?_)
  constructor
  · rintro ⟨nonzero, result⟩
    cases found :
        cells.find? fun cell =>
          (disk.inode cell).kind != 0 &&
            (disk.inode cell).nameSlice == part with
    | none =>
        rw [found] at result
        exact (nonzero result.symm).elim
    | some cell =>
        rw [found] at result
        obtain rfl : cell = next := result
        have accepted := List.find?_some found
        simp only [Bool.and_eq_true, bne_iff_ne, beq_iff_eq] at accepted
        exact ⟨(members cell).mp (List.mem_of_find?_eq_some found),
          accepted.2⟩
  · rintro ⟨isChild, name⟩
    refine ⟨isChild.1.1.ne_zero, ?_⟩
    cases found :
        cells.find? fun cell =>
          (disk.inode cell).kind != 0 &&
            (disk.inode cell).nameSlice == part with
    | none =>
        have missed :=
          List.find?_eq_none.mp found next ((members next).mpr isChild)
        simp [isChild.1.2, name] at missed
    | some cell =>
        have cellChild :=
          (members cell).mp (List.mem_of_find?_eq_some found)
        have accepted := List.find?_some found
        simp only [Bool.and_eq_true, bne_iff_ne, beq_iff_eq] at accepted
        exact unique _ _ _ cellChild isChild (accepted.2.trans name.symm)

end TreeInvariant

/-! ## Lookups survive changes elsewhere -/

/-- Every used slot keeps its kind, parent and name. -/
def KeepsEntries (slots after : Slots) : Prop :=
  ∀ slot,
    Used slots slot →
    (after slot).kind = (slots slot).kind ∧
      (after slot).parent = (slots slot).parent ∧
      (after slot).name = (slots slot).name

theorem KeepsEntries.child
    {slots after : Slots}
    (keeps : KeepsEntries slots after)
    {directory child : Nat}
    (isChild : Child slots directory child) :
    Child after directory child ∧
      (after child).nameSlice = (slots child).nameSlice := by
  obtain ⟨used, notRoot, parent⟩ := isChild
  obtain ⟨kind, sameParent, name⟩ := keeps child used
  refine ⟨⟨⟨used.1, ?_⟩, notRoot, sameParent.trans parent⟩, ?_⟩
  · rw [kind]
    exact used.2
  · simp only [Inode.nameSlice, name]

section Lookup

variable
  (tree : TreeInvariant disk.inode)
  (unique : UniqueNames disk.inode)
  (finalTree : TreeInvariant final.inode)
  (finalUnique : UniqueNames final.inode)
  (keeps : KeepsEntries disk.inode final.inode)

include tree unique finalTree finalUnique keeps

theorem resolvePart_kept
    {part : List UInt8}
    {current next : Nat}
    (used : Used disk.inode current)
    (resolved : resolvePart part current disk = .ok next disk) :
    resolvePart part current final = .ok next final ∧
      Used disk.inode next := by
  by_cases isDotDot : part = dotDot
  · obtain ⟨_, _, up⟩ := resolvePart_eq_ok.mp resolved
    simp only [isDotDot, true_and, not_true, ne_eq, false_and,
      or_false] at up
    have sameParent := (keeps current used).2.1
    constructor
    · refine resolvePart_eq_ok.mpr ⟨rfl, used.1, Or.inl ⟨isDotDot, ?_⟩⟩
      rw [sameParent]
      exact up
    · split at up
      case isTrue hasParent =>
        have notRoot : current ≠ rootInode := by
          rintro rfl
          exact hasParent tree.rootParent
        obtain ⟨parentSlot, parentKind⟩ :=
          tree.parentDirectory used notRoot
        rw [up]
        exact ⟨parentSlot, by omega⟩
      case isFalse =>
        rwa [up]
  · obtain ⟨kind, isChild, name⟩ :=
      (tree.resolvePart_iff unique used.1 isDotDot).mp resolved
    obtain ⟨finalChild, finalName⟩ := keeps.child isChild
    refine ⟨?_, isChild.1⟩
    exact (finalTree.resolvePart_iff finalUnique used.1 isDotDot).mpr
      ⟨(keeps current used).1.trans kind, finalChild,
        finalName.trans name⟩

theorem resolveParts_kept
    {parts : List (List UInt8)}
    {current found : Nat}
    (used : Used disk.inode current)
    (resolved : resolveParts parts current disk = .ok found disk) :
    resolveParts parts current final = .ok found final ∧
      Used disk.inode found := by
  induction parts generalizing current with
  | nil =>
      cases resolved
      exact ⟨rfl, used⟩
  | cons part rest inductionHypothesis =>
      obtain ⟨next, step, later⟩ :=
        (resolvePart_readOnly _ _).of_bind_ok resolved
      obtain ⟨finalStep, nextUsed⟩ :=
        resolvePart_kept tree unique finalTree finalUnique keeps used
          step
      obtain ⟨finalLater, foundUsed⟩ :=
        inductionHypothesis nextUsed later
      exact ⟨(Prog.bind_of_ok finalStep).trans finalLater, foundUsed⟩

end Lookup

/-! ## Names stay unique -/

theorem UniqueNames.of_fewer
    {slots after : Slots}
    (unique : UniqueNames slots)
    (fewer :
      ∀ slot,
        Used after slot →
        Used slots slot ∧
          (after slot).parent = (slots slot).parent ∧
          (after slot).name = (slots slot).name) :
    UniqueNames after := by
  intro directory child other isChild isOther sameName
  obtain ⟨childUsed, childParent, childName⟩ := fewer child isChild.1
  obtain ⟨otherUsed, otherParent, otherName⟩ := fewer other isOther.1
  refine unique _ _ _
    ⟨childUsed, isChild.2.1, childParent.symm.trans isChild.2.2⟩
    ⟨otherUsed, isOther.2.1, otherParent.symm.trans isOther.2.2⟩ ?_
  simpa only [Inode.nameSlice, childName, otherName] using sameName

theorem rewritten_entry
    {slots : Slots}
    {ino start count size : Nat}
    (slot : Nat) :
    let after :=
      Function.update slots ino ((slots ino).rewritten start count size)
    (after slot).kind = (slots slot).kind ∧
      (after slot).parent = (slots slot).parent ∧
      (after slot).name = (slots slot).name := by
  by_cases isTarget : slot = ino
  · subst slot
    simp [Inode.rewritten]
  · simp [isTarget]

theorem uniqueNames_formatted
    {written : FsMeta}
    (formatted : format candidate Disk.blank = .ok written final) :
    UniqueNames final.inode := by
  intro directory child other isChild _ _
  obtain ⟨used, notRoot, _⟩ := isChild
  have isFree : final.inode child = Inode.zero := by
    rw [format_table formatted, Function.update_of_ne notRoot]
  exact (used.2 (by rw [isFree]; rfl)).elim

theorem Creation.used_iff
    {cwd kind mode uid gid directory fresh : Nat}
    (checked : Creation disk path cwd directory fresh)
    (kindUsed : kind ≠ 0)
    (slot : Nat) :
    Used (disk.created path kind mode uid gid directory fresh).inode
        slot ↔
      slot = fresh ∨ Used disk.inode slot := by
  by_cases isFresh : slot = fresh
  · subst slot
    unfold Used
    rw [checked.created_fresh]
    simp [checked.freshSlot, newEntry, kindUsed]
  · simp only [isFresh, false_or, Used]
    have sameKind :
        ((disk.created path kind mode uid gid directory fresh).inode
            slot).kind =
          (disk.inode slot).kind :=
      (enter_fields isFresh).1
    rw [sameKind]

theorem Creation.keepsEntries
    {cwd kind mode uid gid directory fresh : Nat}
    (checked : Creation disk path cwd directory fresh) :
    KeepsEntries disk.inode
      (disk.created path kind mode uid gid directory fresh).inode := by
  intro slot used
  have notFresh : slot ≠ fresh := by
    rintro rfl
    exact used.2 checked.freshFree
  obtain ⟨kind, parent, _, name⟩ :=
    @enter_fields disk.inode directory fresh
      (newEntry kind mode uid gid directory
        (disk.inode directory).firstChild (splitParent path).2)
      slot notFresh
  exact ⟨kind, parent, name⟩

theorem UniqueNames.created
    (unique : UniqueNames disk.inode)
    (tree : TreeInvariant disk.inode)
    {cwd kind mode uid gid directory fresh : Nat}
    (checked : Creation disk path cwd directory fresh)
    (kindUsed : kind ≠ 0)
    (fits : NameFits (splitParent path).2) :
    UniqueNames
      (disk.created path kind mode uid gid directory fresh).inode := by
  have differs :=
    (tree.noDuplicate_iff checked.directorySlot _).mp
      checked.noDuplicate
  have atFresh :=
    @Creation.created_fresh disk path cwd kind mode uid gid directory
      fresh checked
  have freshName :
      ((disk.created path kind mode uid gid directory fresh).inode
          fresh).nameSlice =
        (splitParent path).2 := by
    rw [atFresh]
    exact nameSlice_newEntry fits
  -- A child other than the new one was a child of the same name before.
  have before :
      ∀ {owner child},
        Child
          (disk.created path kind mode uid gid directory fresh).inode
          owner child →
        child ≠ fresh →
        Child disk.inode owner child ∧
          ((disk.created path kind mode uid gid directory fresh).inode
              child).nameSlice =
            (disk.inode child).nameSlice := by
    rintro owner child ⟨used, notRoot, parent⟩ notFresh
    have wasUsed :=
      ((checked.used_iff kindUsed child).mp used).resolve_left notFresh
    obtain ⟨_, sameParent, sameName⟩ :=
      @Creation.keepsEntries disk path cwd kind mode uid gid directory
        fresh checked child wasUsed
    exact ⟨⟨wasUsed, notRoot, sameParent.symm.trans parent⟩,
      by simp only [Inode.nameSlice, sameName]⟩
  -- The new child is in `directory`, where the check has seen its name nowhere.
  have freshAlone :
      ∀ {owner child},
        Child
          (disk.created path kind mode uid gid directory fresh).inode
          owner fresh →
        Child
          (disk.created path kind mode uid gid directory fresh).inode
          owner child →
        child ≠ fresh →
        ((disk.created path kind mode uid gid directory fresh).inode
            child).nameSlice ≠
          (splitParent path).2 := by
    rintro owner child ⟨_, _, freshParent⟩ isChild notFresh
    obtain ⟨wasChild, sameName⟩ := before isChild notFresh
    have inDirectory : directory = owner := by
      rw [atFresh] at freshParent
      exact freshParent
    rw [← inDirectory] at wasChild
    rw [sameName]
    exact differs child wasChild
  intro owner child other isChild isOther sameName
  by_cases childFresh : child = fresh
  · subst child
    by_contra different
    exact freshAlone isChild isOther (Ne.symm different)
      (sameName.symm.trans freshName)
  · by_cases otherFresh : other = fresh
    · subst other
      exact (freshAlone isOther isChild childFresh
        (sameName.trans freshName)).elim
    · obtain ⟨wasChild, childName⟩ := before isChild childFresh
      obtain ⟨wasOther, otherName⟩ := before isOther otherFresh
      exact unique _ _ _ wasChild wasOther
        (childName.symm.trans (sameName.trans otherName))

/-! ## The calls -/

/-- The path and the current directory of a call that may create an entry. -/
def Call.target : Call → Option (List UInt8 × Nat)
  | .makeDir path cwd _ _ => some (path, cwd)
  | .touch path cwd _ _ => some (path, cwd)
  | .writeFile path cwd _ _ _ => some (path, cwd)
  | .remove _ _ _ _ => none

/--
If the call creates an entry, its name fits in a slot, and a path of the form
`/name` is used in the root directory only.
-/
def Call.FitsIn (disk : Disk) (call : Call) : Prop :=
  ∀ path cwd,
    call.target = some (path, cwd) →
    (∃ directory fresh, Creation disk path cwd directory fresh) →
    NameFits (splitParent path).2 ∧
      (slash ∈ path → (splitParent path).1 = [] → cwd = rootInode)

theorem createEntry_keepsUnique
    (tree : TreeInvariant disk.inode)
    (unique : UniqueNames disk.inode)
    {cwd kind mode uid gid fresh : Nat}
    (kindUsed : kind ≠ 0)
    (fits :
      (∃ directory fresh, Creation disk path cwd directory fresh) →
      NameFits (splitParent path).2)
    (returned :
      createEntry path cwd kind mode uid gid disk = .ok fresh final) :
    UniqueNames final.inode := by
  obtain ⟨directory, checked, rfl⟩ := createEntry_eq_ok.mp returned
  exact unique.created tree checked kindUsed
    (fits ⟨directory, fresh, checked⟩)

theorem resolveOrCreate_keepsUnique
    (tree : TreeInvariant disk.inode)
    (unique : UniqueNames disk.inode)
    {cwd uid gid ino : Nat}
    (fits :
      (∃ directory fresh, Creation disk path cwd directory fresh) →
      NameFits (splitParent path).2)
    (returned : resolveOrCreate path cwd uid gid disk = .ok ino final) :
    UniqueNames final.inode := by
  rcases resolveOrCreate_eq_ok returned with ⟨_, rfl⟩ | ⟨_, created⟩
  · exact unique
  · exact createEntry_keepsUnique tree unique (by decide) fits created

theorem rewriteFile_keepsUnique
    (unique : UniqueNames disk.inode)
    (ino : Nat)
    (data : List UInt8) :
    (∀ value final,
        rewriteFile candidate ino data disk = .ok value final →
        UniqueNames final.inode) ∧
      ∀ error final,
        rewriteFile candidate ino data disk = .err error final →
        UniqueNames final.inode := by
  constructor
  · intro _ final returned
    obtain ⟨start, count, table⟩ := rewriteFile_table returned
    refine unique.of_fewer ?_
    intro slot used
    have same := @rewritten_entry disk.inode ino start count
      data.length slot
    rw [← table] at same
    obtain ⟨kind, parent, name⟩ := same
    exact ⟨⟨used.1, by rw [← kind]; exact used.2⟩, parent, name⟩
  · intro error final failed
    by_cases isSlot : IsSlot ino
    · rcases rewriteFile_eq_err isSlot failed with
          ⟨_, _, rfl⟩ | ⟨_, _, _, rfl⟩ | ⟨_, _, _, released, _⟩
      · exact unique
      · exact unique
      · rwa [(releaseBlocks_keepsTable _ _).ok released]
    · rcases (readInode_readOnly _).of_bind_err failed with
          ⟨_, rfl⟩ | ⟨_, read, _⟩
      · exact unique
      · exact (isSlot (readInode_eq_ok.mp read).1).elim

theorem remove_keepsUnique
    (unique : UniqueNames disk.inode)
    {cwd : Nat}
    (returned : remove candidate path cwd disk = .ok () final) :
    UniqueNames final.inode := by
  obtain ⟨ino, before, middle, _, _, _, _, _, _, released, rfl⟩ :=
    remove_eq_ok returned
  have table := (releaseFile_keepsTable _ _).ok released
  refine unique.of_fewer ?_
  intro slot used
  have notTarget : slot ≠ ino := by
    rintro rfl
    refine used.2 ?_
    simp [Disk.zeroed, Inode.zero]
  have kept :
      (middle.zeroed ino).inode slot =
        detach disk.inode (disk.inode ino).parent ino before slot := by
    simp only [Disk.zeroed, Function.update_of_ne notTarget, table]
    rfl
  obtain ⟨kind, parent, name⟩ :=
    @detach_fields disk.inode (disk.inode ino).parent ino before slot
  unfold Used at used
  rw [kept, kind] at used
  rw [kept]
  exact ⟨used, parent, name⟩

theorem Call.keepsUnique
    (tree : TreeInvariant disk.inode)
    (unique : UniqueNames disk.inode)
    (call : Call)
    (fits : call.FitsIn disk) :
    (∀ value final,
        call.run candidate disk = .ok value final →
        UniqueNames final.inode) ∧
      ∀ error final,
        call.run candidate disk = .err error final →
        UniqueNames final.inode := by
  cases call with
  | makeDir path cwd uid gid =>
      have nameFits := fun creation => (fits path cwd rfl creation).1
      constructor
      · intro _ final returned
        obtain ⟨_, middle, created, later⟩ := Prog.bind_eq_ok.mp returned
        cases later
        exact createEntry_keepsUnique tree unique (by decide) nameFits
          created
      · intro error final failed
        rcases Prog.bind_eq_err.mp failed with
            creating | ⟨_, _, _, returning⟩
        · rwa [createEntry_eq_err creating]
        · cases returning
  | touch path cwd uid gid =>
      have nameFits := fun creation => (fits path cwd rfl creation).1
      constructor
      · intro _ final returned
        obtain ⟨_, middle, found, later⟩ := Prog.bind_eq_ok.mp returned
        cases later
        exact resolveOrCreate_keepsUnique tree unique nameFits found
      · intro error final failed
        rcases Prog.bind_eq_err.mp failed with
            finding | ⟨_, _, _, returning⟩
        · rwa [resolveOrCreate_eq_err finding]
        · cases returning
  | writeFile path cwd data uid gid =>
      have nameFits := fun creation => (fits path cwd rfl creation).1
      constructor
      · intro _ final returned
        obtain ⟨ino, middle, found, written⟩ :=
          Prog.bind_eq_ok.mp returned
        have middleUnique :=
          resolveOrCreate_keepsUnique tree unique nameFits found
        exact (rewriteFile_keepsUnique middleUnique ino data).1 _ _
          written
      · intro error final failed
        rcases Prog.bind_eq_err.mp failed with
            finding | ⟨ino, middle, found, rewriting⟩
        · rwa [resolveOrCreate_eq_err finding]
        · have middleUnique :=
            resolveOrCreate_keepsUnique tree unique nameFits found
          exact (rewriteFile_keepsUnique middleUnique ino data).2 _ _
            rewriting
  | remove path cwd uid gid =>
      constructor
      · intro _ final returned
        exact remove_keepsUnique unique returned
      · intro error final failed
        rwa [remove_eq_err failed]

theorem uniqueNames_of_reachable
    (reachable : ReachableBy candidate Call.FitsIn disk) :
    UniqueNames disk.inode := by
  induction reachable with
  | formatted formatted =>
      exact uniqueNames_formatted formatted
  | returned call earlier fits returned inductionHypothesis =>
      exact (call.keepsUnique earlier.treeInvariant inductionHypothesis
        fits).1 _ _ returned
  | failed call earlier fits failed inductionHypothesis =>
      exact (call.keepsUnique earlier.treeInvariant inductionHypothesis
        fits).2 _ _ failed

/-! ## What has been created is found -/

/-- The directory that a path without its last component denotes. -/
def Denotes
    (disk : Disk)
    (path : List UInt8)
    (cwd directory : Nat) : Prop :=
  (slash ∉ path ∧ directory = cwd) ∨
    (slash ∈ path ∧
      (splitParent path).1 = [] ∧
      directory = rootInode) ∨
    (slash ∈ path ∧
      (splitParent path).1 ≠ [] ∧
      resolve (splitParent path).1 cwd disk = .ok directory disk)

/-- Where the walk of `resolve_with` starts. -/
def walkStart (path : List UInt8) (cwd : Nat) : Nat :=
  if path.head? = some slash then rootInode else cwd

theorem resolveWith_eq
    (nonempty : path ≠ [])
    (notSlash : path ≠ [slash])
    (cwd : Nat) :
    resolveWith path cwd =
      resolveParts (components path) (walkStart path cwd) := by
  unfold resolveWith walkStart
  rw [if_neg (by simp [nonempty, notSlash])]
  split <;> rfl

theorem components_eq
    (path : List UInt8) :
    components path =
      components (splitParent path).1 ++
        components (splitParent path).2 := by
  by_cases hasSlash : slash ∈ path
  · conv_lhs => rw [(splitParent_spec hasSlash).1]
    exact components_append _ _
  · rw [splitParent_of_not_mem hasSlash]
    rfl

namespace Creation

variable
  {path : List UInt8}
  {cwd directory fresh : Nat}

section

variable
  (checked : Creation disk path cwd directory fresh)
  (inRoot :
    slash ∈ path → (splitParent path).1 = [] → cwd = rootInode)

include checked inRoot

theorem denotes :
    Denotes disk path cwd directory := by
  have parent := checked.parent
  unfold parentInode at parent
  by_cases hasSlash : slash ∈ path
  · by_cases noParent : (splitParent path).1 = []
    · rw [if_pos noParent] at parent
      cases parent
      exact Or.inr (Or.inl ⟨hasSlash, noParent, inRoot hasSlash noParent⟩)
    · rw [if_neg noParent] at parent
      exact Or.inr (Or.inr ⟨hasSlash, noParent, parent⟩)
  · rw [splitParent_of_not_mem hasSlash] at parent
    cases parent
    exact Or.inl ⟨hasSlash, rfl⟩

theorem parent_parts :
    resolveParts (components (splitParent path).1)
        (walkStart path cwd) disk =
      .ok directory disk := by
  rcases checked.denotes inRoot with
      ⟨noSlash, rfl⟩ | ⟨hasSlash, noParent, rfl⟩ |
      ⟨hasSlash, hasParent, resolved⟩
  · have start : walkStart path directory = directory := by
      unfold walkStart
      rw [if_neg]
      intro atHead
      exact noSlash (List.mem_of_head? atHead)
    rw [splitParent_of_not_mem noSlash, start]
    rfl
  · have start : walkStart path cwd = rootInode := by
      unfold walkStart
      rw [(splitParent_spec hasSlash).1, noParent]
      rfl
    rw [noParent, start]
    rfl
  · have sameStart :
        walkStart path cwd = walkStart (splitParent path).1 cwd := by
      unfold walkStart
      conv_lhs => rw [(splitParent_spec hasSlash).1]
      rw [List.head?_append_of_ne_nil _ hasParent]
    rw [sameStart]
    by_cases isSlash : (splitParent path).1 = [slash]
    · unfold resolve resolveWith at resolved
      rw [if_pos (Or.inr isSlash)] at resolved
      cases resolved
      rw [isSlash]
      rfl
    · unfold resolve at resolved
      rwa [resolveWith_eq hasParent isSlash] at resolved

theorem resolve_eq
    (missing : ∀ ino, resolve path cwd disk ≠ .ok ino disk) :
    path ≠ [] ∧
      path ≠ [slash] ∧
      (splitParent path).2 ≠ dotDot ∧
      components (splitParent path).2 = [(splitParent path).2] := by
  have nonempty : path ≠ [] := by
    rintro rfl
    exact missing rootInode rfl
  have notSlash : path ≠ [slash] := by
    rintro rfl
    exact missing rootInode rfl
  have walk :
      resolve path cwd disk =
        resolveParts (components (splitParent path).2) directory
          disk := by
    unfold resolve
    rw [resolveWith_eq nonempty notSlash, components_eq path,
      resolveParts_append,
      Prog.bind_of_ok (checked.parent_parts inRoot)]
  refine ⟨nonempty, notSlash, ?_, ?_⟩
  · intro isDotDot
    refine missing
      (if (disk.inode directory).parent ≠ 0 then
        (disk.inode directory).parent
      else
        directory) ?_
    have parts : components dotDot = [dotDot] := by decide
    rw [walk, isDotDot, parts]
    exact Prog.bind_of_ok
      (resolvePart_eq_ok.mpr
        ⟨rfl, checked.directorySlot, Or.inl ⟨rfl, rfl⟩⟩)
  · by_cases stays :
        (splitParent path).2 = [] ∨ (splitParent path).2 = dot
    · refine (missing directory ?_).elim
      rw [walk, components_of_stay stays]
      rfl
    · rw [not_or] at stays
      exact components_of_not_mem (slash_not_mem_name path)
        stays.1 stays.2

end

end Creation

/-- What the disk looks like after a call that has created an entry. -/
structure Entered
    (disk final : Disk)
    (path : List UInt8)
    (cwd directory fresh : Nat) : Prop where
  checked : Creation disk path cwd directory fresh
  usedIff :
    ∀ slot,
      Used final.inode slot ↔ slot = fresh ∨ Used disk.inode slot
  keeps : KeepsEntries disk.inode final.inode
  freshParent : (final.inode fresh).parent = directory
  freshName :
    NameFits (splitParent path).2 →
    (final.inode fresh).nameSlice = (splitParent path).2

theorem entered_of_createEntry
    {cwd kind mode uid gid fresh : Nat}
    (kindUsed : kind ≠ 0)
    (returned :
      createEntry path cwd kind mode uid gid disk = .ok fresh final) :
    ∃ directory, Entered disk final path cwd directory fresh := by
  obtain ⟨directory, checked, rfl⟩ := createEntry_eq_ok.mp returned
  have atFresh :=
    @Creation.created_fresh disk path cwd kind mode uid gid directory
      fresh checked
  refine ⟨directory, {
    checked := checked
    usedIff := checked.used_iff kindUsed
    keeps := checked.keepsEntries
    freshParent := by rw [atFresh]; rfl
    freshName := ?_
  }⟩
  intro fits
  rw [atFresh]
  exact nameSlice_newEntry fits

theorem Entered.rewritten
    {middle : Disk}
    {cwd directory fresh ino : Nat}
    {data : List UInt8}
    (entered : Entered disk middle path cwd directory fresh)
    (returned : rewriteFile candidate ino data middle = .ok () final) :
    Entered disk final path cwd directory fresh := by
  obtain ⟨start, count, table⟩ := rewriteFile_table returned
  have same :
      ∀ slot,
        (final.inode slot).kind = (middle.inode slot).kind ∧
          (final.inode slot).parent = (middle.inode slot).parent ∧
          (final.inode slot).name = (middle.inode slot).name := by
    intro slot
    rw [table]
    exact rewritten_entry slot
  refine {
    checked := entered.checked
    usedIff := ?_
    keeps := ?_
    freshParent := (same fresh).2.1.trans entered.freshParent
    freshName := ?_
  }
  · intro slot
    rw [← entered.usedIff slot]
    unfold Used
    rw [(same slot).1]
  · intro slot used
    obtain ⟨kind, parent, name⟩ := entered.keeps slot used
    exact ⟨(same slot).1.trans kind, (same slot).2.1.trans parent,
      (same slot).2.2.trans name⟩
  · intro fits
    rw [← entered.freshName fits]
    simp only [Inode.nameSlice, (same fresh).2.2]

theorem entered_of_call
    {call : Call}
    {cwd : Nat}
    (target : call.target = some (path, cwd))
    (missing : ∀ ino, resolve path cwd disk ≠ .ok ino disk)
    (returned : call.run candidate disk = .ok () final) :
    ∃ directory fresh, Entered disk final path cwd directory fresh := by
  cases call with
  | makeDir _ _ uid gid =>
      cases target
      obtain ⟨fresh, middle, created, later⟩ :=
        Prog.bind_eq_ok.mp returned
      cases later
      obtain ⟨directory, entered⟩ :=
        entered_of_createEntry (by decide) created
      exact ⟨directory, fresh, entered⟩
  | touch _ _ uid gid =>
      cases target
      obtain ⟨ino, middle, found, later⟩ := Prog.bind_eq_ok.mp returned
      cases later
      rcases resolveOrCreate_eq_ok found with
          ⟨resolved, _⟩ | ⟨_, created⟩
      · exact (missing ino resolved).elim
      · obtain ⟨directory, entered⟩ :=
          entered_of_createEntry (by decide) created
        exact ⟨directory, ino, entered⟩
  | writeFile _ _ data uid gid =>
      cases target
      obtain ⟨ino, middle, found, written⟩ :=
        Prog.bind_eq_ok.mp returned
      rcases resolveOrCreate_eq_ok found with
          ⟨resolved, _⟩ | ⟨_, created⟩
      · exact (missing ino resolved).elim
      · obtain ⟨directory, entered⟩ :=
          entered_of_createEntry (by decide) created
        exact ⟨directory, ino, entered.rewritten written⟩
  | remove path cwd uid gid =>
      cases target

theorem Entered.child
    {cwd directory fresh : Nat}
    (tree : TreeInvariant disk.inode)
    (entered : Entered disk final path cwd directory fresh) :
    Child final.inode directory fresh := by
  refine ⟨(entered.usedIff fresh).mpr (Or.inl rfl), ?_,
    entered.freshParent⟩
  rintro rfl
  have free := entered.checked.freshFree
  rw [tree.rootDirectory] at free
  cases free

theorem Entered.resolves
    {cwd directory fresh : Nat}
    (entered : Entered disk final path cwd directory fresh)
    (tree : TreeInvariant disk.inode)
    (unique : UniqueNames disk.inode)
    (finalTree : TreeInvariant final.inode)
    (finalUnique : UniqueNames final.inode)
    (cwdUsed : Used disk.inode cwd)
    (fits : NameFits (splitParent path).2)
    (inRoot :
      slash ∈ path → (splitParent path).1 = [] → cwd = rootInode)
    (missing : ∀ ino, resolve path cwd disk ≠ .ok ino disk) :
    resolve path cwd final = .ok fresh final := by
  have checked := entered.checked
  obtain ⟨nonempty, notSlash, notDotDot, name⟩ :=
    checked.resolve_eq inRoot missing
  have startUsed : Used disk.inode (walkStart path cwd) := by
    unfold walkStart
    split
    · refine ⟨isSlot_root, ?_⟩
      rw [tree.rootDirectory]
      decide
    · exact cwdUsed
  obtain ⟨walked, directoryUsed⟩ :=
    resolveParts_kept tree unique finalTree finalUnique entered.keeps
      startUsed (checked.parent_parts inRoot)
  have found :
      resolvePart (splitParent path).2 directory final =
        .ok fresh final :=
    (finalTree.resolvePart_iff finalUnique checked.directorySlot
      notDotDot).mpr
      ⟨(entered.keeps directory directoryUsed).1.trans
          checked.directoryKind,
        entered.child tree, entered.freshName fits⟩
  unfold resolve
  rw [resolveWith_eq nonempty notSlash, components_eq path, name,
    resolveParts_append, Prog.bind_of_ok walked]
  exact Prog.bind_of_ok found

/--
In a run whose calls create only names that fit, and use `/name` in the root
only: when a call creates an inode, the path resolves to it afterwards, it is a
child of the directory that the path without its last component denotes, and no
two children of one directory have the same name.
-/
theorem created_resolves
    {call : Call}
    {path : List UInt8}
    {cwd : Nat}
    (reachable : ReachableBy candidate Call.FitsIn disk)
    (fits : call.FitsIn disk)
    (target : call.target = some (path, cwd))
    (cwdDirectory : IsSlot cwd ∧ (disk.inode cwd).kind = 2)
    (missing : ∀ ino, resolve path cwd disk ≠ .ok ino disk)
    (returned : call.run candidate disk = .ok () final) :
    UniqueNames final.inode ∧
      ∃ directory fresh,
        (disk.inode fresh).kind = 0 ∧
          (∀ slot,
            Used final.inode slot ↔
              slot = fresh ∨ Used disk.inode slot) ∧
          resolve path cwd final = .ok fresh final ∧
          Denotes disk path cwd directory ∧
          Child final.inode directory fresh := by
  have tree := reachable.treeInvariant
  have unique := uniqueNames_of_reachable reachable
  have finalReachable : ReachableBy candidate Call.FitsIn final :=
    .returned call reachable fits returned
  have finalUnique := uniqueNames_of_reachable finalReachable
  obtain ⟨directory, fresh, entered⟩ :=
    entered_of_call target missing returned
  obtain ⟨nameFits, inRoot⟩ :=
    fits path cwd target ⟨directory, fresh, entered.checked⟩
  refine ⟨finalUnique, directory, fresh, entered.checked.freshFree,
    entered.usedIff, ?_, entered.checked.denotes inRoot,
    entered.child tree⟩
  exact entered.resolves tree unique finalReachable.treeInvariant
    finalUnique ⟨cwdDirectory.1, by omega⟩ nameFits inRoot missing

/-- On a fresh disk, `touch f` creates an inode that `f` resolves to. -/
theorem created_resolves_touch :
    ∃ disk final fresh,
      resolve sampleName rootInode disk ≠ .ok fresh disk ∧
        resolve sampleName rootInode final = .ok fresh final := by
  obtain ⟨disk, formatted, _⟩ := format_spec geometry_smallDisk
  have table := format_table formatted
  have absent := missing_formatted table
  have missing :
      ∀ ino, resolve sampleName rootInode disk ≠ .ok ino disk := by
    intro ino resolved
    unfold resolve at resolved
    rw [absent] at resolved
    cases resolved
  have fits : (Call.touch sampleName rootInode 0 0).FitsIn disk := by
    intro path cwd target _
    cases target
    exact ⟨by decide, fun _ _ => rfl⟩
  obtain ⟨final, touched, _⟩ := touch_formatted table 0 0
  have inRoot :
      IsSlot rootInode ∧ (disk.inode rootInode).kind = 2 := by
    refine ⟨isSlot_root, ?_⟩
    rw [table, Function.update_self]
    rfl
  obtain ⟨_, directory, fresh, _, _, resolved, _⟩ :=
    created_resolves (.formatted formatted) fits rfl inRoot missing
      touched
  exact ⟨disk, final, fresh, missing fresh, resolved⟩

/-- The disk after `mkdir d` on a formatted disk. -/
def withDirectory (formatted : Disk) : Disk :=
  formatted.created [100] 2 0o755 0 0 rootInode 2

/-- That disk after `touch /f` in the new directory. -/
def withLostFile (formatted : Disk) : Disk :=
  (withDirectory formatted).created [slash, 102] 1 0o644 0 0 2 3

/-- `touch /f` in a directory other than the root creates a file that `/f` misses. -/
theorem absolute_name_lost :
    ∃ disk final,
      Reachable smallDisk disk ∧
        IsSlot 2 ∧
        (disk.inode 2).kind = 2 ∧
        (∀ ino, resolve [slash, 102] 2 disk ≠ .ok ino disk) ∧
        (Call.touch [slash, 102] 2 0 0).run smallDisk disk =
          .ok () final ∧
        ∀ ino, resolve [slash, 102] 2 final ≠ .ok ino final := by
  obtain ⟨fresh, formatted, _⟩ := format_spec geometry_smallDisk
  have table := format_table formatted
  obtain ⟨inode, bytes⟩ := fresh
  simp only at table
  subst table
  refine ⟨withDirectory _, withLostFile _,
    .returned (.makeDir [100] rootInode 0 0) (.formatted formatted)
      trivial rfl,
    by decide, rfl, ?_, rfl, ?_⟩
  · intro ino resolved
    cases resolved
  · intro ino resolved
    cases resolved

end VibuxOS.Storage.Vfs
