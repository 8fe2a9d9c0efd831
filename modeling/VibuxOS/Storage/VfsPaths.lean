import VibuxOS.Storage.Vfs

namespace VibuxOS.Storage.Vfs

/-!
# Two ways to take a path apart

`resolve_with` splits a path at every `/`, `split_parent` at the last one.
-/

theorem splitParent_spec
    {path : List UInt8}
    (hasSlash : slash ∈ path) :
    path = (splitParent path).1 ++ slash :: (splitParent path).2 ∧
      slash ∉ (splitParent path).2 := by
  obtain ⟨first, before, shape, notBefore⟩ :
      ∃ first before,
        path = first ++ slash :: before ∧ slash ∉ before := by
    obtain ⟨before, first, shape, notBefore⟩ :=
      List.eq_append_cons_of_mem (List.mem_reverse.mpr hasSlash)
    refine ⟨first.reverse, before.reverse, ?_, by simpa using notBefore⟩
    have reversed := congrArg List.reverse shape
    simpa using reversed
  have name :
      (path.reverse.takeWhile (· ≠ slash)).reverse = before := by
    have allBefore :
        ∀ byte ∈ before.reverse, decide (byte ≠ slash) = true := by
      intro byte member
      refine decide_eq_true ?_
      rintro rfl
      exact notBefore (List.mem_reverse.mp member)
    rw [shape]
    simp only [List.reverse_append, List.reverse_cons,
      List.append_assoc, List.cons_append, List.nil_append]
    rw [List.takeWhile_append_of_pos allBefore]
    simp
  have parts : splitParent path = (first, before) := by
    unfold splitParent
    rw [if_pos hasSlash]
    simp only [name]
    have count : path.length - before.length - 1 = first.length := by
      simp only [shape, List.length_append, List.length_cons]
      omega
    rw [count, shape, List.take_left' rfl]
  rw [parts]
  exact ⟨shape, notBefore⟩

theorem splitParent_of_not_mem
    {path : List UInt8}
    (noSlash : slash ∉ path) :
    splitParent path = ([], path) := by
  unfold splitParent
  rw [if_neg noSlash]

theorem slash_not_mem_name
    (path : List UInt8) :
    slash ∉ (splitParent path).2 := by
  by_cases hasSlash : slash ∈ path
  · exact (splitParent_spec hasSlash).2
  · rwa [splitParent_of_not_mem hasSlash]

theorem components_append
    (front back : List UInt8) :
    components (front ++ slash :: back) =
      components front ++ components back := by
  unfold components
  rw [List.splitOn_append_cons_self, List.filter_append]

theorem components_of_not_mem
    {name : List UInt8}
    (noSlash : slash ∉ name)
    (nonempty : name ≠ [])
    (notDot : name ≠ dot) :
    components name = [name] := by
  unfold components
  rw [List.splitOn_eq_singleton noSlash]
  simp [nonempty, notDot]

theorem components_of_stay
    {name : List UInt8}
    (stays : name = [] ∨ name = dot) :
    components name = [] := by
  rcases stays with rfl | rfl
  · rfl
  · rfl

end VibuxOS.Storage.Vfs
