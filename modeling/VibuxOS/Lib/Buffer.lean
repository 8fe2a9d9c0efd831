import Mathlib.Tactic.Common

namespace VibuxOS.Lib

/-!
# Byte buffers as index functions

An array that a program only reads and writes at indices is the function from
indices to elements.  `blit` is the slice copy
`target[start..start + length].copy_from_slice(&source[..length])`.
-/

variable {α : Type}

/-- Copy the first `length` elements of `source` to `target[start..]`. -/
def blit
    (target : Nat → α)
    (start : Nat)
    (source : Nat → α)
    (length : Nat) :
    Nat → α :=
  fun index =>
    if start ≤ index ∧ index < start + length then
      source (index - start)
    else
      target index

theorem blit_inside
    {target source : Nat → α}
    {start length index : Nat}
    (lower : start ≤ index)
    (upper : index < start + length) :
    blit target start source length index =
      source (index - start) := by
  simp [blit, lower, upper]

theorem blit_outside
    {target source : Nat → α}
    {start length index : Nat}
    (outside : index < start ∨ start + length ≤ index) :
    blit target start source length index = target index := by
  unfold blit
  rw [if_neg]
  omega

@[simp] theorem blit_zero
    (target source : Nat → α)
    (start : Nat) :
    blit target start source 0 = target := by
  funext index
  exact blit_outside (by omega)

theorem blit_blit
    {target source : Nat → α}
    {start first second : Nat} :
    blit (blit target start source first) (start + first)
        (fun index => source (first + index)) second =
      blit target start source (first + second) := by
  funext index
  by_cases inFirst : start ≤ index ∧ index < start + first
  · rw [blit_outside (Or.inl inFirst.2), blit_inside inFirst.1 inFirst.2,
      blit_inside inFirst.1 (by omega)]
  · by_cases inSecond : start + first ≤ index ∧ index < start + first + second
    · rw [blit_inside inSecond.1 inSecond.2, blit_inside (by omega) (by omega)]
      congr 1
      omega
    · rw [blit_outside (by omega), blit_outside (by omega),
        blit_outside (by omega)]

theorem blit_of_changed
    {target part source : Nat → α}
    {start length inner amount : Nat}
    (same : ∀ index, index < length → part index = target (start + index))
    (fits : inner + amount ≤ length) :
    blit target start (blit part inner source amount) length =
      blit target (start + inner) source amount := by
  funext index
  by_cases inside : start ≤ index ∧ index < start + length
  · rw [blit_inside inside.1 inside.2]
    by_cases changed : inner ≤ index - start ∧ index - start < inner + amount
    · rw [blit_inside changed.1 changed.2, blit_inside (by omega) (by omega)]
      congr 1
      omega
    · rw [blit_outside (by omega), blit_outside (by omega),
        same _ (by omega)]
      congr 1
      omega
  · rw [blit_outside (by omega), blit_outside (by omega)]

theorem blit_congr
    {target source other : Nat → α}
    {start length : Nat}
    (same : ∀ index, index < length → source index = other index) :
    blit target start source length = blit target start other length := by
  funext index
  by_cases inside : start ≤ index ∧ index < start + length
  · rw [blit_inside inside.1 inside.2, blit_inside inside.1 inside.2,
      same _ (by omega)]
  · rw [blit_outside (by omega), blit_outside (by omega)]

theorem blit_congr_target
    {target other source : Nat → α}
    {start length index : Nat}
    (same : target index = other index) :
    blit target start source length index =
      blit other start source length index := by
  unfold blit
  rw [same]

end VibuxOS.Lib
