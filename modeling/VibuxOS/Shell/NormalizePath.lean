import Mathlib.Data.List.TakeWhile
import VibuxOS.Storage.VfsWalks

namespace VibuxOS.Shell

open VibuxOS.Storage.Vfs

/-!
# `normalize_path`

The buffer up to `len` is a list here.  It holds a stack of components, each behind
its slash, and sometimes one slash more: `..` takes a component and leaves its slash.
A component that does not fit is cut off at the end of the buffer, so the stack that
the buffer shows can fall behind the stack of the path.
-/

variable (input : List UInt8)

def pathMax : Nat := 256

/-- The loop that takes the bytes of a component away -/
def backToSlash (out : List UInt8) : List UInt8 :=
  if 1 < out.length ∧ out.getLast? ≠ some slash then
    backToSlash out.dropLast
  else
    out
termination_by out.length
decreasing_by
  rw [List.length_dropLast]
  omega

/-- The part of `normalize_path` that handles one component -/
def normalizePart (part out : List UInt8) : List UInt8 :=
  if part = dot ∨ part = [] then
    out
  else if part = dotDot then
    if 1 < out.length then
      backToSlash out.dropLast
    else
      out
  else
    let out :=
      if 1 < out.length ∧ out.getLast? ≠ some slash ∧
          out.length < pathMax then
        out ++ [slash]
      else
        out
    out ++ part.take (pathMax - out.length)

theorem length_behind_part
    {input : List UInt8}
    (more : input.dropWhile (· = slash) ≠ []) :
    ((input.dropWhile (· = slash)).dropWhile (· ≠ slash)).length <
      input.length := by
  have whole : (input.dropWhile (· = slash)).length ≤ input.length :=
    (List.dropWhile_sublist _).length_le
  refine Nat.lt_of_lt_of_le ?_ whole
  cases shape : input.dropWhile (· = slash) with
  | nil =>
      exact (more shape).elim
  | cons first rest =>
      have notSlash : first ≠ slash := by
        have head := List.head?_dropWhile_not (· = slash) input
        rw [shape] at head
        simpa using head
      rw [List.dropWhile_cons_of_pos (by simpa using notSlash)]
      exact
        Nat.lt_succ_of_le (List.dropWhile_sublist _).length_le

/-- The loop of `normalize_path` over its input -/
def normalizeFrom (input out : List UInt8) : List UInt8 :=
  let rest := input.dropWhile (· = slash)
  if rest = [] then
    out
  else
    normalizeFrom
      (rest.dropWhile (· ≠ slash))
      (normalizePart (rest.takeWhile (· ≠ slash)) out)
termination_by input.length
decreasing_by exact length_behind_part ‹_›

def normalizePath (cwd input : List UInt8) : List UInt8 :=
  let out :=
    normalizeFrom input
      (if input.head? = some slash then [slash] else cwd.take pathMax)
  if out = [] then [slash] else out

/-! ## Its components -/

theorem components_dropWhile :
    components (input.dropWhile (· = slash)) = components input := by
  induction input with
  | nil =>
      rfl
  | cons first rest inductionHypothesis =>
      by_cases isSlash : first = slash
      · subst isSlash
        rw [List.dropWhile_cons_of_pos (by simp), inductionHypothesis]
        exact (components_append [] rest).symm
      · rw [List.dropWhile_cons_of_neg (by simpa using isSlash)]

theorem components_takeWhile :
    components input =
      components (input.takeWhile (· ≠ slash)) ++
        components (input.dropWhile (· ≠ slash)) := by
  cases behind : input.dropWhile (· ≠ slash) with
  | nil =>
      have whole :=
        @List.takeWhile_append_dropWhile _ (· ≠ slash) input
      rw [behind, List.append_nil] at whole
      rw [whole]
      exact (List.append_nil _).symm
  | cons first rest =>
      have isSlash : first = slash := by
        have head := List.head?_dropWhile_not (· ≠ slash) input
        rw [behind] at head
        simpa using head
      subst isSlash
      have whole :=
        @List.takeWhile_append_dropWhile _ (· ≠ slash) input
      rw [behind] at whole
      conv_lhs => rw [← whole]
      rw [components_append]
      exact congrArg _ (components_append [] rest).symm

theorem slash_not_mem_takeWhile :
    slash ∉ input.takeWhile (· ≠ slash) := by
  intro member
  simpa using List.mem_takeWhile_imp member

theorem normalizeFrom_eq
    (input out : List UInt8) :
    normalizeFrom input out =
      (components input).foldl
        (fun out part => normalizePart part out) out := by
  induction input, out using normalizeFrom.induct with
  | case1 input out rest isEnd =>
      rw [normalizeFrom, if_pos isEnd, ← components_dropWhile,
        show input.dropWhile (· = slash) = [] from isEnd]
      rfl
  | case2 input out rest more inductionHypothesis =>
      rw [normalizeFrom, if_neg more, inductionHypothesis,
        ← components_dropWhile input,
        components_takeWhile (input.dropWhile (· = slash)),
        List.foldl_append]
      congr 1
      by_cases stays :
          rest.takeWhile (· ≠ slash) = [] ∨
            rest.takeWhile (· ≠ slash) = dot
      · rw [components_of_stay stays, List.foldl_nil, normalizePart,
          if_pos stays.symm]
      · obtain ⟨nonempty, notDot⟩ := not_or.mp stays
        rw [components_of_not_mem (slash_not_mem_takeWhile _) nonempty
          notDot]
        rfl

end VibuxOS.Shell
