import VibuxOS.Paging.Mapping

namespace VibuxOS.Paging

open VibuxOS.Lib

/-!
# Changes of a page table

A page table is well formed when its walks form a tree and a leaf for the user
has the `USER` bit in every entry above it.  The paging code changes a table in
three ways: it puts an empty table under an entry that is absent, it gives an
entry that leads to a table the `USER` bit, and it writes an entry of level 1.
The first two change what no address finds; the third changes one page.
-/

variable
  {visit : Nat × TableSlot}
  {level : Nat}
  {entry : UInt64}
  {other : UInt64}
  {slot : TableSlot}

/-- No table is reached twice. -/
def Tree (memory : Memory) (cr3 : UInt64) : Prop :=
  Radix.Tree shape memory indexes 4 (cr3 &&& entryAddrMask)

/-- The frame holds a table of some walk. -/
def TableFrame (memory : Memory) (cr3 frame : UInt64) : Prop :=
  Radix.Reaches shape memory indexes 4 (cr3 &&& entryAddrMask) frame

theorem tableFrame_iff
    {memory : Memory}
    {cr3 frame : UInt64} :
    TableFrame memory cr3 frame ↔
      ∃ virtualAddress, ∃ visit ∈ path memory cr3 virtualAddress,
        visit.2.frame = frame :=
  Iff.rfl

/-- A leaf has `USER` only if every entry above it has. -/
def UserMonotone (memory : Memory) (cr3 : UInt64) : Prop :=
  ∀ virtualAddress mapping,
    translate memory cr3 virtualAddress = some mapping →
    mapping.flags.contains .user = true →
    permits user memory cr3 virtualAddress = true

/-- A page table is a tree that hides no page of the user. -/
structure TableWellFormed (memory : Memory) (cr3 : UInt64) : Prop where
  tree : Tree memory cr3
  userMonotone : UserMonotone memory cr3

/-- The user can access an address. -/
def Accessible (memory : Memory) (cr3 virtualAddress : UInt64) : Prop :=
  Mapped memory cr3 virtualAddress ∧
    permits user memory cr3 virtualAddress = true

/-- The second table shows what the first one shows. -/
structure SameView (memory changed : Memory) (cr3 : UInt64) : Prop where
  translation :
    ∀ virtualAddress,
      translate changed cr3 virtualAddress =
        translate memory cr3 virtualAddress
  access :
    ∀ virtualAddress,
      Mapped memory cr3 virtualAddress →
      permits user changed cr3 virtualAddress =
        permits user memory cr3 virtualAddress

variable {memory changed : Memory} {cr3 virtualAddress : UInt64}

/-! ## What an address finds -/

theorem exists_last
    (memory : Memory)
    (cr3 virtualAddress : UInt64) :
    ∃ visit,
      (path memory cr3 virtualAddress).getLast? = some visit ∧
        visit ∈ path memory cr3 virtualAddress :=
  Radix.exists_getLast?_visits 3 (cr3 &&& entryAddrMask)

theorem translate_of_last
    (inRange : canonical virtualAddress = true)
    (ends : (path memory cr3 virtualAddress).getLast? = some visit) :
    translate memory cr3 virtualAddress =
      mappingAt virtualAddress visit.1 (memory visit.2) := by
  rw [translate_eq, if_pos inRange, ends, Option.bind_some]

theorem translate_of_not_canonical
    (outOfRange : canonical virtualAddress = false) :
    translate memory cr3 virtualAddress = none := by
  rw [translate_eq, if_neg (Bool.eq_false_iff.mp outOfRange)]

theorem mappingAt_of_absent
    (absent : entry &&& present = 0) :
    mappingAt virtualAddress level entry = none := by
  unfold mappingAt
  rw [if_pos (beq_iff_eq.mpr absent)]

theorem flags_of_mappingAt
    {mapping : Mapping}
    (reports : mappingAt virtualAddress level entry = some mapping) :
    mapping.flags = ⟨entry &&& (~~~entryAddrMask ||| noExecute)⟩ := by
  unfold mappingAt at reports
  split at reports
  · cases reports
  · split at reports <;> cases reports <;> rfl

theorem contains_user_iff
    {mapping : Mapping}
    (reports : mappingAt virtualAddress level entry = some mapping) :
    mapping.flags.contains .user = true ↔ entry &&& user ≠ 0 := by
  have both : (~~~entryAddrMask ||| noExecute) &&& user = user := by decide
  rw [flags_of_mappingAt reports, PageFlags.contains, PageFlags.user,
    beq_iff_eq, UInt64.and_assoc, both]
  rcases @and_bit entry user 2 rfl with clear | set
  · rw [clear]
    decide
  · rw [set]
    decide

theorem mapped_iff_of_last
    (inRange : canonical virtualAddress = true)
    (ends : (path memory cr3 virtualAddress).getLast? = some visit) :
    Mapped memory cr3 virtualAddress ↔ memory visit.2 &&& present ≠ 0 := by
  rw [Mapped, translate_of_last inRange ends]
  constructor
  · intro found absent
    rw [mappingAt_of_absent absent] at found
    cases found
  · intro isPresent
    have notFour : visit.1 ≠ 4 := by
      intro isFour
      have endsThere :
          (path memory cr3 virtualAddress).getLast? = some (4, visit.2) := by
        rw [ends, ← isFour]
      have stopped := Radix.stopped_of_getLast? endsThere
      simp [shape, isPresent] at stopped
    have bounds := Radix.level_of_mem_visits (List.mem_of_getLast? ends)
    have levels : visit.1 = 1 ∨ visit.1 = 2 ∨ visit.1 = 3 := by
      omega
    unfold mappingAt
    rw [if_neg (by simpa using isPresent)]
    rcases levels with level | level | level <;> rw [level] <;> rfl

theorem translate_congr
    (samePath :
      path changed cr3 virtualAddress = path memory cr3 virtualAddress)
    (sameLast :
      ∀ visit,
        (path memory cr3 virtualAddress).getLast? = some visit →
        changed visit.2 = memory visit.2) :
    translate changed cr3 virtualAddress =
      translate memory cr3 virtualAddress := by
  obtain ⟨visit, ends, _⟩ := exists_last memory cr3 virtualAddress
  rw [translate_eq, translate_eq, samePath, ends, Option.bind_some,
    Option.bind_some, sameLast visit ends]

theorem permits_congr
    {bit : UInt64}
    (samePath :
      path changed cr3 virtualAddress = path memory cr3 virtualAddress)
    (sameEntries :
      ∀ visit ∈ path memory cr3 virtualAddress,
        changed visit.2 = memory visit.2) :
    permits bit changed cr3 virtualAddress =
      permits bit memory cr3 virtualAddress := by
  rw [permits, permits, samePath, Bool.eq_iff_iff, List.all_eq_true,
    List.all_eq_true]
  constructor <;> intro all visit visited
  · rw [← sameEntries visit visited]
    exact all visit visited
  · rw [sameEntries visit visited]
    exact all visit visited

/-! ## Views -/

namespace SameView

theorem refl
    (memory : Memory)
    (cr3 : UInt64) :
    SameView memory memory cr3 :=
  ⟨fun _ => rfl, fun _ _ => rfl⟩

theorem mapped
    (same : SameView memory changed cr3)
    (virtualAddress : UInt64) :
    Mapped changed cr3 virtualAddress ↔
      Mapped memory cr3 virtualAddress := by
  rw [Mapped, Mapped, same.translation]

theorem accessible
    (same : SameView memory changed cr3)
    (virtualAddress : UInt64) :
    Accessible changed cr3 virtualAddress ↔
      Accessible memory cr3 virtualAddress := by
  rw [Accessible, Accessible, same.mapped]
  constructor
  · rintro ⟨mapped, permitted⟩
    exact ⟨mapped, same.access _ mapped ▸ permitted⟩
  · rintro ⟨mapped, permitted⟩
    exact ⟨mapped, (same.access _ mapped).trans permitted⟩

theorem trans
    {last : Memory}
    (first : SameView memory changed cr3)
    (second : SameView changed last cr3) :
    SameView memory last cr3 where
  translation virtualAddress :=
    (second.translation virtualAddress).trans
      (first.translation virtualAddress)
  access virtualAddress mapped :=
    (second.access virtualAddress
      ((first.mapped virtualAddress).mpr mapped)).trans
      (first.access virtualAddress mapped)

theorem userMonotone
    (same : SameView memory changed cr3)
    (monotone : UserMonotone memory cr3) :
    UserMonotone changed cr3 := by
  intro virtualAddress mapping found isUser
  rw [same.translation] at found
  rw [same.access virtualAddress (Option.isSome_iff_exists.mpr ⟨_, found⟩)]
  exact monotone virtualAddress mapping found isUser

end SameView

/-! ## A new table -/

theorem descends_of_absent
    (absent : entry &&& present = 0) :
    shape.descends level entry = false := by
  simp [shape, absent]

theorem descends_of_small
    {lower : Nat}
    (isPresent : entry &&& present ≠ 0)
    (small : entry &&& huge = 0) :
    shape.descends (lower + 2) entry = true := by
  simp [shape, isPresent, small]

theorem descends_one
    (entry : UInt64) :
    shape.descends 1 entry = false := by
  simp [shape]

/-- An empty table in a frame, under the entry of a slot. -/
def withTable
    (memory : Memory)
    (slot : TableSlot)
    (frame entry : UInt64) :
    Memory :=
  Function.update
    (fun place => if place.frame = frame then 0 else memory place)
    slot entry

/-- The entry that `map_4k` makes for a new table. -/
def tableEntry (frame userBit : UInt64) : UInt64 :=
  frame ||| present ||| write ||| userBit

/-- A slot that gets a new table: it is absent, and the frame is not in use. -/
structure TakesTable
    (memory : Memory)
    (cr3 virtualAddress : UInt64)
    (lower : Nat)
    (slot : TableSlot)
    (frame entry : UInt64) : Prop where
  visited : (lower + 2, slot) ∈ path memory cr3 virtualAddress
  absent : memory slot &&& present = 0
  new : ¬ TableFrame memory cr3 frame
  isPresent : entry &&& present ≠ 0
  small : entry &&& huge = 0
  leads : entry &&& entryAddrMask = frame

namespace TakesTable

variable {lower : Nat} {slot : TableSlot} {frame entry : UInt64}

theorem here :
    withTable memory slot frame entry slot = entry := by
  rw [withTable, Function.update_self]

theorem inside
    (takes : TakesTable memory cr3 virtualAddress lower slot frame entry)
    (index : Nat) :
    withTable memory slot frame entry ⟨frame, index⟩ = 0 := by
  have different : (⟨frame, index⟩ : TableSlot) ≠ slot := by
    rintro rfl
    exact takes.new ⟨virtualAddress, _, takes.visited, rfl⟩
  rw [withTable, Function.update_of_ne different, if_pos rfl]

theorem elsewhere
    {place : TableSlot}
    (different : place ≠ slot)
    (outside : place.frame ≠ frame) :
    withTable memory slot frame entry place = memory place := by
  rw [withTable, Function.update_of_ne different, if_neg outside]

section

variable (takes : TakesTable memory cr3 virtualAddress lower slot frame entry)

include takes

theorem off
    (visited : visit ∈ path memory cr3 other)
    (different : visit.2 ≠ slot) :
    withTable memory slot frame entry visit.2 = memory visit.2 := by
  apply elsewhere different
  rintro rfl
  exact takes.new ⟨other, visit, visited, rfl⟩

theorem ends
    (passed : (lower + 2, slot) ∈ path memory cr3 other) :
    (path memory cr3 other).getLast? = some (lower + 2, slot) :=
  Radix.getLast?_of_stopped passed (descends_of_absent takes.absent)

theorem path_withTable
    (tree : Tree memory cr3)
    (other : UInt64) :
    path (withTable memory slot frame entry) cr3 other =
      Radix.grown (path memory cr3 other) (indexes other) (lower + 1) slot
        frame := by
  have child : shape.child (withTable memory slot frame entry slot) = frame := by
    rw [here]
    exact takes.leads
  have walks :=
    @Radix.visits_grown _ _ shape memory (withTable memory slot frame entry)
      (indexes other) _ 4 lower (cr3 &&& entryAddrMask) slot
      (descends_of_absent takes.absent)
      (by
        rw [here]
        exact descends_of_small takes.isPresent takes.small)
      (by
        intro index
        rw [child, takes.inside]
        exact descends_of_absent (UInt64.zero_and ..))
      (by
        intro visit visited same
        have met := (Radix.Tree.same_slot tree visited takes.visited same).1
        rw [met])
      (fun visit visited different => takes.off visited different)
  rw [child] at walks
  exact walks

theorem tree_withTable
    (tree : Tree memory cr3) :
    Tree (withTable memory slot frame entry) cr3 :=
  Radix.Tree.grow tree takes.new (takes.path_withTable tree)

theorem same_of_missed
    (tree : Tree memory cr3)
    (missed : (lower + 2, slot) ∉ path memory cr3 other) :
    path (withTable memory slot frame entry) cr3 other =
        path memory cr3 other ∧
      ∀ visit ∈ path memory cr3 other,
        withTable memory slot frame entry visit.2 = memory visit.2 := by
  constructor
  · rw [takes.path_withTable tree, Radix.grown, if_neg missed]
  · intro visit visited
    apply takes.off visited
    intro same
    have met := (Radix.Tree.same_slot tree visited takes.visited same).1
    rw [met] at visited
    exact missed visited

theorem nothing_of_passed
    (tree : Tree memory cr3)
    (passed : (lower + 2, slot) ∈ path memory cr3 other) :
    translate memory cr3 other = none ∧
      translate (withTable memory slot frame entry) cr3 other = none := by
  cases inRange : canonical other with
  | false =>
      exact ⟨translate_of_not_canonical inRange,
        translate_of_not_canonical inRange⟩
  | true =>
      have endsThere :
          (path (withTable memory slot frame entry) cr3 other).getLast? =
            some (lower + 1, ⟨frame, indexes other (lower + 1)⟩) := by
        rw [takes.path_withTable tree, Radix.grown, if_pos passed]
        exact List.getLast?_concat
      rw [translate_of_last inRange (takes.ends passed),
        translate_of_last inRange endsThere, takes.inside]
      exact ⟨mappingAt_of_absent takes.absent,
        mappingAt_of_absent (UInt64.zero_and ..)⟩

theorem sameView
    (tree : Tree memory cr3) :
    SameView memory (withTable memory slot frame entry) cr3 := by
  constructor
  · intro other
    by_cases passed : (lower + 2, slot) ∈ path memory cr3 other
    · obtain ⟨before, after⟩ := takes.nothing_of_passed tree passed
      rw [before, after]
    · obtain ⟨samePath, sameEntries⟩ := takes.same_of_missed tree passed
      apply translate_congr samePath
      intro visit last
      exact sameEntries visit (List.mem_of_getLast? last)
  · intro other mapped
    have missed : (lower + 2, slot) ∉ path memory cr3 other := by
      intro passed
      rw [Mapped, (takes.nothing_of_passed tree passed).1] at mapped
      cases mapped
    obtain ⟨samePath, sameEntries⟩ := takes.same_of_missed tree missed
    exact permits_congr samePath sameEntries

end

end TakesTable

/-! ## A table for the user -/

theorem Tree.of_same_paths
    (tree : Tree memory cr3)
    (samePaths :
      ∀ other, path changed cr3 other = path memory cr3 other) :
    Tree changed cr3 :=
  Radix.Tree.congr tree samePaths

theorem tableFrame_of_same_paths
    (samePaths :
      ∀ other, path changed cr3 other = path memory cr3 other)
    (frame : UInt64) :
    TableFrame changed cr3 frame ↔ TableFrame memory cr3 frame := by
  rw [tableFrame_iff, tableFrame_iff]
  simp only [samePaths]

/-- The bits of an entry that the walk looks at. -/
def walkBits : UInt64 :=
  present ||| huge ||| entryAddrMask

theorem sameTurn
    {entry other : UInt64}
    (same : other &&& walkBits = entry &&& walkBits)
    (level : Nat) :
    shape.descends level other = shape.descends level entry ∧
      shape.child other = shape.child entry := by
  have reads :
      ∀ bits, walkBits &&& bits = bits →
        other &&& bits = entry &&& bits := by
    intro bits inside
    rw [← inside, ← UInt64.and_assoc, same, UInt64.and_assoc]
  have samePresent := reads present (by decide)
  have sameHuge := reads huge (by decide)
  have sameChild := reads entryAddrMask (by decide)
  simp only [shape, samePresent, sameHuge, sameChild, and_self]

theorem or_user_walkBits
    (entry : UInt64) :
    (entry ||| user) &&& walkBits = entry &&& walkBits :=
  or_and_of_disjoint entry (by decide)

theorem path_update
    (same : entry &&& walkBits = memory slot &&& walkBits)
    (other : UInt64) :
    path (Function.update memory slot entry) cr3 other =
      path memory cr3 other := by
  apply Radix.visits_congr
  intro visit _
  by_cases here : visit.2 = slot
  · rw [here, Function.update_self]
    obtain ⟨sameTurn, sameChild⟩ := sameTurn same visit.1
    exact ⟨sameTurn, fun _ => sameChild⟩
  · rw [Function.update_of_ne here]
    exact ⟨rfl, fun _ => rfl⟩

theorem leaf_not_user
    (monotone : UserMonotone memory cr3)
    (mapped : Mapped memory cr3 virtualAddress)
    (denied : permits user memory cr3 virtualAddress = false)
    (ends : (path memory cr3 virtualAddress).getLast? = some visit) :
    memory visit.2 &&& user = 0 := by
  obtain ⟨mapping, found⟩ := Option.isSome_iff_exists.mp mapped
  by_contra isUser
  have reports := found
  rw [translate_of_last mapped.canonical ends] at reports
  have permitted :=
    monotone _ mapping found ((contains_user_iff reports).mpr isUser)
  rw [denied] at permitted
  cases permitted

theorem sameView_upgrade
    (wellFormed : TableWellFormed memory cr3)
    {lower : Nat}
    (visited : (lower + 2, slot) ∈ path memory cr3 virtualAddress)
    (isPresent : memory slot &&& present ≠ 0)
    (small : memory slot &&& huge = 0) :
    SameView memory
      (Function.update memory slot (memory slot ||| user)) cr3 := by
  have samePath :
      ∀ other,
        path (Function.update memory slot (memory slot ||| user)) cr3 other =
          path memory cr3 other :=
    path_update (or_user_walkBits _)
  have sameLast :
      ∀ other visit,
        (path memory cr3 other).getLast? = some visit →
        Function.update memory slot (memory slot ||| user) visit.2 =
          memory visit.2 := by
    intro other visit ends
    apply Function.update_of_ne
    rintro rfl
    obtain ⟨met, _⟩ :=
      Radix.Tree.same_slot wellFormed.tree (List.mem_of_getLast? ends) visited
        rfl
    rw [met] at ends
    have stopped := Radix.stopped_of_getLast? ends
    rw [descends_of_small isPresent small] at stopped
    cases stopped
  constructor
  · intro other
    exact translate_congr (samePath other) (sameLast other)
  · intro other mapped
    cases before : permits user memory cr3 other with
    | true =>
        rw [permits, List.all_eq_true] at before ⊢
        intro visit visitedThere
        rw [samePath] at visitedThere
        by_cases here : visit.2 = slot
        · rw [here, Function.update_self, bne_iff_ne]
          exact or_and_ne_zero _ (by decide)
        · rw [Function.update_of_ne here]
          exact before visit visitedThere
    | false =>
        obtain ⟨visit, ends, visitedThere⟩ := exists_last memory cr3 other
        have noUser :=
          leaf_not_user wellFormed.userMonotone mapped before ends
        rw [permits, List.all_eq_false]
        refine ⟨visit, ?_, ?_⟩
        · rw [samePath]
          exact visitedThere
        · rw [sameLast other visit ends, noUser]
          decide

/-! ## An entry of level 1 -/

theorem samePage_of_indexes
    {left right : UInt64}
    (leftInRange : canonical left = true)
    (rightInRange : canonical right = true)
    (agree :
      ∀ level, 1 ≤ level → level ≤ 4 →
        indexes left level = indexes right level) :
    SamePage left right := by
  have one := agree 1 (by decide) (by decide)
  have two := agree 2 (by decide) (by decide)
  have three := agree 3 (by decide) (by decide)
  have four := agree 4 (by decide) (by decide)
  have ofLeft := indexes_eq left
  have ofRight := indexes_eq right
  have leftBound := left.toNat_lt
  have rightBound := right.toNat_lt
  rw [canonical_iff] at leftInRange rightInRange
  unfold SamePage
  omega

section

variable
  (tree : Tree memory cr3)
  (visited : (1, slot) ∈ path memory cr3 virtualAddress)

include tree visited

theorem path_leaf
    (entry other : UInt64) :
    path (Function.update memory slot entry) cr3 other =
      path memory cr3 other := by
  apply Radix.visits_congr
  intro visit visitedThere
  by_cases here : visit.2 = slot
  · obtain ⟨met, _⟩ :=
      Radix.Tree.same_slot tree visitedThere visited here
    rw [met, descends_one, descends_one]
    exact ⟨rfl, fun descends => nomatch descends⟩
  · rw [Function.update_of_ne here]
    exact ⟨rfl, fun _ => rfl⟩

theorem samePage_of_passed
    (passed : (1, slot) ∈ path memory cr3 other)
    (inRange : canonical virtualAddress = true)
    (otherInRange : canonical other = true) :
    SamePage other virtualAddress := by
  have agree := (Radix.Tree.same_slot tree passed visited rfl).2
  exact samePage_of_indexes otherInRange inRange agree

theorem translate_leaf
    (inRange : canonical virtualAddress = true)
    (entry : UInt64)
    (same : SamePage other virtualAddress) :
    translate (Function.update memory slot entry) cr3 other =
      mappingAt other 1 entry := by
  have otherInRange : canonical other = true := by
    rw [same.canonical]
    exact inRange
  have ends :
      (path (Function.update memory slot entry) cr3 other).getLast? =
        some (1, slot) := by
    rw [path_leaf tree visited, same.path]
    exact Radix.getLast?_of_stopped visited (descends_one _)
  rw [translate_of_last otherInRange ends, Function.update_self]

theorem translate_leaf_of_other
    (inRange : canonical virtualAddress = true)
    (entry : UInt64)
    (different : ¬ SamePage other virtualAddress) :
    translate (Function.update memory slot entry) cr3 other =
        translate memory cr3 other ∧
      (canonical other = true →
        permits user (Function.update memory slot entry) cr3 other =
          permits user memory cr3 other) := by
  cases otherInRange : canonical other with
  | false =>
      rw [translate_of_not_canonical otherInRange,
        translate_of_not_canonical otherInRange]
      exact ⟨rfl, fun isTrue => nomatch isTrue⟩
  | true =>
      have off :
          ∀ visit ∈ path memory cr3 other,
            Function.update memory slot entry visit.2 = memory visit.2 := by
        intro visit visitedThere
        apply Function.update_of_ne
        rintro rfl
        obtain ⟨met, _⟩ :=
          Radix.Tree.same_slot tree visitedThere visited rfl
        rw [met] at visitedThere
        exact different
          (samePage_of_passed tree visited visitedThere inRange otherInRange)
      have samePath := path_leaf tree visited entry other
      constructor
      · apply translate_congr samePath
        intro visit ends
        exact off visit (List.mem_of_getLast? ends)
      · intro _
        exact permits_congr samePath off

end

end VibuxOS.Paging
