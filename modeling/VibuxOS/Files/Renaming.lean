import VibuxOS.Files.FileCalls
import VibuxOS.Files.RamContents

namespace VibuxOS.Files

open VibuxOS.Lib

/-!
# Renaming a RAM file

`ram_file_rename` looks the source up, empties the entry of the target and then
labels the entry of the source.  When both are the same file it labels the entry
that it has just emptied.
-/

/-- No two used entries of `RAM_FILES` have the same path. -/
def PathsDistinct (state : State) : Prop :=
  ∀ first second,
    first < ramFileMax →
    second < ramFileMax →
    (state.ramFiles first).used = true →
    (state.ramFiles second).used = true →
    (state.ramFiles first).path = (state.ramFiles second).path →
    first = second

/-- The content, with its length, and the mode of the file at a path. -/
def ramFileAt (state : State) (path : List UInt8) : Option (List UInt8 × UInt32) :=
  (ramFileIndex state path).map fun index =>
    (window (state.ramFiles index).data 0 (state.ramFiles index).len,
      (state.ramFiles index).mode)

/-- A rename moves one file and leaves the others, or it fails and changes nothing. -/
structure Renames
    (state : State)
    (old new : List UInt8) : Prop where
  target :
    ∀ final,
      ramFileRename old new state = .ok () final →
      (ramFileAt state old).isSome = true ∧
        ramFileAt final new = ramFileAt state old
  source :
    ∀ final,
      ramFileRename old new state = .ok () final →
      old ≠ new →
      ramFileAt final old = none
  others :
    ∀ final,
      ramFileRename old new state = .ok () final →
      ∀ path,
        path ≠ old →
        path ≠ new →
        ramFileAt final path = ramFileAt state path
  distinct :
    ∀ final,
      ramFileRename old new state = .ok () final →
      PathsDistinct final
  failed :
    ∀ error final,
      ramFileRename old new state = .err error final →
      final = state

/-! ## Lookups -/

section Lookups

variable
  {state final : State}
  {path : List UInt8}
  {index : Nat}

theorem ramFileIndex_eq_none_iff :
    ramFileIndex state path = none ↔
      ∀ index < ramFileMax,
        (state.ramFiles index).used = true →
        (state.ramFiles index).path ≠ path := by
  unfold ramFileIndex
  simp only [List.find?_eq_none, List.mem_range, Bool.and_eq_true, beq_iff_eq,
    not_and, ne_eq]

theorem ramFileIndex_of_used
    (distinct : PathsDistinct state)
    (inTable : index < ramFileMax)
    (used : (state.ramFiles index).used = true) :
    ramFileIndex state (state.ramFiles index).path = some index := by
  cases found : ramFileIndex state (state.ramFiles index).path with
  | none =>
      exact (ramFileIndex_eq_none_iff.mp found index inTable used rfl).elim
  | some other =>
      obtain ⟨otherUsed, samePath⟩ := ramFileIndex_used found
      rw [distinct other index (ramFileIndex_lt found) inTable otherUsed used
        samePath]

theorem ramFileAt_eq_none_iff :
    ramFileAt state path = none ↔ ramFileIndex state path = none := by
  unfold ramFileAt
  rw [Option.map_eq_none_iff]

theorem ramFileAt_of_found
    (found : ramFileIndex state path = some index) :
    ramFileAt state path =
      some
        (window (state.ramFiles index).data 0 (state.ramFiles index).len,
          (state.ramFiles index).mode) := by
  unfold ramFileAt
  rw [found, Option.map_some]

theorem ramFileAt_congr
    (alike :
      ∀ index,
        final.ramFiles index = state.ramFiles index ∨
          ((final.ramFiles index).used = true →
              (final.ramFiles index).path ≠ path) ∧
            ((state.ramFiles index).used = true →
              (state.ramFiles index).path ≠ path)) :
    ramFileAt final path = ramFileAt state path := by
  have sameIndex : ramFileIndex final path = ramFileIndex state path := by
    apply List.find?_congr
    intro index _
    rcases alike index with same | ⟨notAfter, notBefore⟩
    · rw [same]
    · rw [Bool.eq_iff_iff, Bool.and_eq_true, Bool.and_eq_true, beq_iff_eq,
        beq_iff_eq]
      exact
        ⟨fun both => (notAfter both.1 both.2).elim,
          fun both => (notBefore both.1 both.2).elim⟩
  unfold ramFileAt
  rw [sameIndex]
  cases found : ramFileIndex state path with
  | none =>
      rfl
  | some index =>
      obtain ⟨used, isPath⟩ := ramFileIndex_used found
      rcases alike index with same | ⟨_, notBefore⟩
      · simp only [Option.map_some, same]
      · exact (notBefore used isPath).elim

end Lookups

/-! ## The table after a rename -/

/-- The state that a rename of the file at an index leaves. -/
def State.renamed
    (index : Nat)
    (new : List UInt8)
    (state : State) :
    State :=
  let removed := state.removeExisting new
  removed.setRamFile index { removed.ramFiles index with path := new }

section Renamed

variable
  {state : State}
  {old new : List UInt8}
  {index : Nat}

theorem ramFileRename_of_found
    (fits : new.length ≤ 160)
    (found : ramFileIndex state old = some index) :
    ramFileRename old new state = .ok () (state.renamed index new) := by
  unfold ramFileRename
  rw [if_neg (Nat.not_lt.mpr fits), Prog.gets_bind_apply, found]
  rfl

theorem ramFileRename_of_refused
    (refused : new.length > 160 ∨ ramFileIndex state old = none) :
    ∃ error, ramFileRename old new state = .err error state := by
  by_cases long : new.length > 160
  · refine ⟨.enametoolong, ?_⟩
    unfold ramFileRename
    rw [if_pos long]
    rfl
  · have missing := refused.resolve_left long
    refine ⟨.enoent, ?_⟩
    unfold ramFileRename
    rw [if_neg long, Prog.gets_bind_apply, missing]
    rfl

theorem renames_of_refused
    (refused : new.length > 160 ∨ ramFileIndex state old = none) :
    Renames state old new := by
  obtain ⟨error, outcome⟩ := ramFileRename_of_refused refused
  have noResult : ∀ final, ramFileRename old new state ≠ .ok () final := by
    intro final returned
    rw [outcome] at returned
    cases returned
  constructor
  case failed =>
    intro other final failed
    rw [outcome] at failed
    cases failed
    rfl
  all_goals
    intro final returned
    exact (noResult final returned).elim

theorem ramFiles_renamed_of_ne
    {other : Nat}
    (apart : other ≠ index) :
    (state.renamed index new).ramFiles other =
      if ramFileIndex state new = some other then
        RamFile.empty
      else
        state.ramFiles other := by
  unfold State.renamed
  dsimp only
  rw [ramFiles_setRamFile_of_ne apart]
  unfold State.removeExisting
  cases target : ramFileIndex state new with
  | none =>
      simp
  | some existing =>
      by_cases same : other = existing
      · subst same
        simp
      · simp [ramFiles_setRamFile_of_ne same, Ne.symm same]

theorem ramFiles_renamed_self :
    (state.renamed index new).ramFiles index =
      if ramFileIndex state new = some index then
        { RamFile.empty with path := new }
      else
        { state.ramFiles index with path := new } := by
  unfold State.renamed
  dsimp only
  rw [ramFiles_setRamFile_self]
  unfold State.removeExisting
  cases target : ramFileIndex state new with
  | none =>
      simp
  | some existing =>
      by_cases same : index = existing
      · subst same
        simp
      · simp [ramFiles_setRamFile_of_ne same, Ne.symm same]

section

variable (distinct : PathsDistinct state)

include distinct

theorem used_renamed
    {other : Nat}
    (inTable : other < ramFileMax)
    (apart : other ≠ index)
    (used : ((state.renamed index new).ramFiles other).used = true) :
    (state.renamed index new).ramFiles other = state.ramFiles other ∧
      (state.ramFiles other).used = true ∧
      (state.ramFiles other).path ≠ new := by
  rw [ramFiles_renamed_of_ne apart] at used ⊢
  by_cases target : ramFileIndex state new = some other
  · rw [if_pos target] at used
    cases used
  · rw [if_neg target] at used ⊢
    refine ⟨rfl, used, ?_⟩
    rintro rfl
    exact target (ramFileIndex_of_used distinct inTable used)

theorem pathsDistinct_renamed :
    PathsDistinct (state.renamed index new) := by
  have isNew : ((state.renamed index new).ramFiles index).path = new := by
    rw [ramFiles_renamed_self]
    split <;> rfl
  intro first second firstIn secondIn firstUsed secondUsed samePath
  by_cases firstIs : first = index
  · by_cases secondIs : second = index
    · rw [firstIs, secondIs]
    · obtain ⟨same, _, notNew⟩ :=
        used_renamed distinct secondIn secondIs secondUsed
      rw [firstIs, isNew, same] at samePath
      exact (notNew samePath.symm).elim
  · obtain ⟨same, used, notNew⟩ :=
      used_renamed distinct firstIn firstIs firstUsed
    by_cases secondIs : second = index
    · rw [secondIs, isNew, same] at samePath
      exact (notNew samePath).elim
    · obtain ⟨sameSecond, usedSecond, _⟩ :=
        used_renamed distinct secondIn secondIs secondUsed
      rw [same, sameSecond] at samePath
      exact distinct first second firstIn secondIn used usedSecond samePath

omit distinct in
theorem ramFiles_renamed_source
    (apart : old ≠ new)
    (found : ramFileIndex state old = some index) :
    (state.renamed index new).ramFiles index =
      { state.ramFiles index with path := new } := by
  rw [ramFiles_renamed_self, if_neg]
  intro target
  exact
    apart
      ((ramFileIndex_used found).2.symm.trans (ramFileIndex_used target).2)

theorem ramFileAt_renamed_new
    (apart : old ≠ new)
    (found : ramFileIndex state old = some index) :
    ramFileAt (state.renamed index new) new = ramFileAt state old := by
  have source := ramFiles_renamed_source apart found
  have used : ((state.renamed index new).ramFiles index).used = true := by
    rw [source]
    exact (ramFileIndex_used found).1
  have isFound :=
    ramFileIndex_of_used (pathsDistinct_renamed distinct)
      (ramFileIndex_lt found) used
  rw [source] at isFound
  rw [ramFileAt_of_found isFound, ramFileAt_of_found found, source]

theorem ramFileAt_renamed_old
    (apart : old ≠ new)
    (found : ramFileIndex state old = some index) :
    ramFileAt (state.renamed index new) old = none := by
  obtain ⟨used, isOld⟩ := ramFileIndex_used found
  rw [ramFileAt_eq_none_iff, ramFileIndex_eq_none_iff]
  intro other inTable otherUsed otherIsOld
  by_cases same : other = index
  · rw [same, ramFiles_renamed_source apart found] at otherIsOld
    exact apart otherIsOld.symm
  · obtain ⟨kept, usedBefore, _⟩ :=
      used_renamed distinct inTable same otherUsed
    rw [kept] at otherIsOld
    exact
      same
        (distinct other index inTable (ramFileIndex_lt found) usedBefore used
          (otherIsOld.trans isOld.symm))

omit distinct in
theorem ramFileAt_renamed_of_ne
    {path : List UInt8}
    (apart : old ≠ new)
    (found : ramFileIndex state old = some index)
    (notOld : path ≠ old)
    (notNew : path ≠ new) :
    ramFileAt (state.renamed index new) path = ramFileAt state path := by
  apply ramFileAt_congr
  intro other
  by_cases same : other = index
  · right
    rw [same, ramFiles_renamed_source apart found]
    refine ⟨fun _ => notNew.symm, fun _ => ?_⟩
    rw [(ramFileIndex_used found).2]
    exact notOld.symm
  · rw [ramFiles_renamed_of_ne same]
    by_cases target : ramFileIndex state new = some other
    · right
      rw [if_pos target]
      refine ⟨fun used => (Bool.false_ne_true used).elim, fun _ => ?_⟩
      rw [(ramFileIndex_used target).2]
      exact notNew.symm
    · left
      rw [if_neg target]

theorem ramFileAt_renamed_same
    (found : ramFileIndex state new = some index) :
    ramFileAt (state.renamed index new) new = none := by
  rw [ramFileAt_eq_none_iff, ramFileIndex_eq_none_iff]
  intro other inTable used isNew
  by_cases same : other = index
  · rw [same, ramFiles_renamed_self, if_pos found] at used
    cases used
  · obtain ⟨kept, _, notNew⟩ := used_renamed distinct inTable same used
    rw [kept] at isNew
    exact notNew isNew

theorem renames_of_apart
    (fits : new.length ≤ 160)
    (apart : old ≠ new)
    (found : ramFileIndex state old = some index) :
    Renames state old new := by
  have outcome := ramFileRename_of_found fits found
  constructor
  case failed =>
    intro error final failed
    rw [outcome] at failed
    cases failed
  all_goals
    intro final returned
    rw [outcome] at returned
    cases returned
  case target =>
    rw [ramFileAt_renamed_new distinct apart found, ramFileAt_of_found found]
    exact ⟨rfl, rfl⟩
  case source =>
    intro _
    exact ramFileAt_renamed_old distinct apart found
  case others =>
    intro path notOld notNew
    exact ramFileAt_renamed_of_ne apart found notOld notNew
  case distinct =>
    exact pathsDistinct_renamed distinct

end

end Renamed

/--
Among RAM files with distinct paths a rename does what it is for exactly when
it does not find the source under the path of the target.
-/
theorem renames_iff
    {state : State}
    {old new : List UInt8}
    (distinct : PathsDistinct state) :
    Renames state old new ↔
      old ≠ new ∨ new.length > 160 ∨ ramFileIndex state old = none := by
  constructor
  · intro renames
    by_contra excluded
    push Not at excluded
    obtain ⟨same, fits, present⟩ := excluded
    subst same
    obtain ⟨index, found⟩ := Option.ne_none_iff_exists'.mp present
    obtain ⟨isFile, sameFile⟩ :=
      renames.target _ (ramFileRename_of_found fits found)
    rw [← sameFile, ramFileAt_renamed_same distinct found] at isFile
    cases isFile
  · rintro (apart | refused)
    · by_cases long : new.length > 160
      · exact renames_of_refused (.inl long)
      · cases found : ramFileIndex state old with
        | none =>
            exact renames_of_refused (.inr found)
        | some index =>
            exact renames_of_apart distinct (Nat.le_of_not_gt long) apart found
    · exact renames_of_refused refused

/-- A fresh process that has made an empty RAM file. -/
def fileMade : State :=
  (openPath World.idle (bytes "/a") oCreat State.new).final?.getD State.new

theorem pathsDistinct_fileMade : PathsDistinct fileMade := by
  have only : ∀ index, (fileMade.ramFiles index).used = true → index = 0 := by
    intro index used
    by_contra other
    have unused : fileMade.ramFiles index = RamFile.empty := by
      change Function.update (fun _ => RamFile.empty) 0 _ index = _
      rw [Function.update_of_ne other]
    rw [unused] at used
    cases used
  intro first second _ _ firstUsed secondUsed _
  rw [only first firstUsed, only second secondUsed]

theorem renames_made : Renames fileMade (bytes "/a") (bytes "/b") :=
  (renames_iff pathsDistinct_fileMade).mpr (.inl (by decide))

/-- A rename to its own path returns 0, and the file is gone. -/
theorem file_lost_by_rename :
    PathsDistinct fileMade ∧
      ¬ Renames fileMade (bytes "/a") (bytes "/a") := by
  refine ⟨pathsDistinct_fileMade, ?_⟩
  intro renames
  obtain ⟨present, same⟩ := renames.target _ rfl
  rw [← same] at present
  revert present
  decide

end VibuxOS.Files
