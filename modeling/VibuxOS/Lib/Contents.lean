import VibuxOS.Lib.Buffer

namespace VibuxOS.Lib

/-!
# Contents of buffers

`window` lists the elements of a buffer from an index on.  `resize` and
`overwrite` are what truncating, extending and writing do to such a list; the
lemmas say when a buffer with a length does the same.
-/

variable {α : Type}

/-- The elements of a buffer from an index on. -/
def window (data : Nat → α) (start amount : Nat) : List α :=
  (List.range amount).map fun index => data (start + index)

@[simp] theorem length_window
    (data : Nat → α)
    (start amount : Nat) :
    (window data start amount).length = amount := by
  unfold window
  rw [List.length_map, List.length_range]

@[simp] theorem window_zero
    (data : Nat → α)
    (start : Nat) :
    window data start 0 = [] :=
  rfl

theorem getElem?_window
    (data : Nat → α)
    (start : Nat)
    {amount index : Nat}
    (inside : index < amount) :
    (window data start amount)[index]? = some (data (start + index)) := by
  unfold window
  rw [List.getElem?_map, List.getElem?_range inside]
  rfl

theorem window_eq_iff
    {left right : Nat → α}
    {leftStart rightStart amount : Nat} :
    window left leftStart amount = window right rightStart amount ↔
      ∀ index, index < amount →
        left (leftStart + index) = right (rightStart + index) := by
  constructor
  · intro same index inside
    have elements := congrArg (fun list => list[index]?) same
    rw [getElem?_window _ _ inside, getElem?_window _ _ inside] at elements
    exact Option.some.inj elements
  · intro same
    apply List.map_congr_left
    intro index inside
    exact same index (List.mem_range.mp inside)

theorem window_add
    (data : Nat → α)
    (start first second : Nat) :
    window data start (first + second) =
      window data start first ++ window data (start + first) second := by
  unfold window
  rw [List.range_add, List.map_append, List.map_map]
  congr 1
  apply List.map_congr_left
  intro index _
  exact congrArg data (Nat.add_assoc _ _ _).symm

theorem take_window
    (data : Nat → α)
    (start amount count : Nat) :
    (window data start amount).take count =
      window data start (min count amount) := by
  unfold window
  rw [← List.map_take, List.take_range]

theorem drop_window
    (data : Nat → α)
    (start amount count : Nat) :
    (window data start amount).drop count =
      window data (start + count) (amount - count) := by
  by_cases short : amount ≤ count
  · rw [List.drop_of_length_le (by rwa [length_window]),
      Nat.sub_eq_zero_of_le short, window_zero]
  · obtain ⟨rest, rfl⟩ := Nat.exists_eq_add_of_le (Nat.le_of_not_le short)
    rw [window_add, List.drop_left' (length_window _ _ _),
      Nat.add_sub_cancel_left]

theorem window_getD
    (list : List α)
    (blank : α) :
    window (fun index => list.getD index blank) 0 list.length = list := by
  apply List.ext_getElem?
  intro index
  by_cases inside : index < list.length
  · rw [getElem?_window _ _ inside, Nat.zero_add,
      List.getD_eq_getElem?_getD, List.getElem?_eq_getElem inside]
    rfl
  · rw [List.getElem?_eq_none (Nat.le_of_not_lt inside),
      List.getElem?_eq_none (by
        rw [length_window]
        exact Nat.le_of_not_lt inside)]

/-! ## Copies -/

theorem window_blit_inside
    {target source : Nat → α}
    {start length : Nat} :
    window (blit target start source length) start length =
      window source 0 length := by
  apply window_eq_iff.mpr
  intro index inside
  rw [blit_inside (Nat.le_add_right _ _) (Nat.add_lt_add_left inside _),
    Nat.add_sub_cancel_left, Nat.zero_add]

theorem window_blit_before
    {target source : Nat → α}
    {start length first amount : Nat}
    (before : first + amount ≤ start) :
    window (blit target start source length) first amount =
      window target first amount := by
  apply window_eq_iff.mpr
  intro index inside
  exact blit_outside (Or.inl (by omega))

theorem window_blit_after
    {target source : Nat → α}
    {start length first amount : Nat}
    (after : start + length ≤ first) :
    window (blit target start source length) first amount =
      window target first amount := by
  apply window_eq_iff.mpr
  intro index inside
  exact blit_outside (Or.inr (by omega))

/-! ## Resizing -/

/-- Cut to a size, or fill up to it. -/
def resize (blank : α) (bytes : List α) (size : Nat) : List α :=
  bytes.take size ++ List.replicate (size - bytes.length) blank

@[simp] theorem length_resize
    (blank : α)
    (bytes : List α)
    (size : Nat) :
    (resize blank bytes size).length = size := by
  unfold resize
  rw [List.length_append, List.length_take, List.length_replicate]
  omega

theorem replicate_eq_window_iff
    {blank : α}
    {data : Nat → α}
    {start amount : Nat} :
    window data start amount = List.replicate amount blank ↔
      ∀ index, start ≤ index → index < start + amount → data index = blank := by
  have constant :
      List.replicate amount blank = window (fun _ => blank) 0 amount := by
    unfold window
    rw [List.map_const', List.length_range]
  rw [constant, window_eq_iff]
  constructor
  · intro blanks index lower upper
    have value := blanks (index - start) (by omega)
    rwa [Nat.add_sub_cancel' lower] at value
  · intro blanks index inside
    exact blanks _ (Nat.le_add_right _ _) (by omega)

/--
A longer window shows the contents filled up exactly when what lies between is
blank.
-/
theorem window_eq_resize_iff
    {blank : α}
    {data : Nat → α}
    {length size : Nat} :
    window data 0 size = resize blank (window data 0 length) size ↔
      ∀ index, length ≤ index → index < size → data index = blank := by
  unfold resize
  rw [length_window, take_window]
  by_cases shorter : size ≤ length
  · rw [Nat.min_eq_left shorter, Nat.sub_eq_zero_of_le shorter,
      List.replicate_zero, List.append_nil]
    refine ⟨fun _ index lower upper => ?_, fun _ => rfl⟩
    omega
  · obtain ⟨gap, rfl⟩ := Nat.exists_eq_add_of_le (Nat.le_of_not_le shorter)
    rw [Nat.min_eq_right (Nat.le_add_right _ _), Nat.add_sub_cancel_left,
      window_add, List.append_cancel_left_eq, Nat.zero_add,
      replicate_eq_window_iff]

theorem window_resized
    (blank : α)
    (data : Nat → α)
    (length size : Nat) :
    window (blit data length (fun _ => blank) (size - length)) 0 size =
      resize blank (window data 0 length) size := by
  rw [← @window_blit_before α data (fun _ => blank) length (size - length) 0
    length (Nat.le_of_eq (Nat.zero_add _))]
  apply window_eq_resize_iff.mpr
  intro index lower upper
  exact blit_inside lower (by omega)

/-! ## Writing -/

/-- Put elements at a position, behind blanks when it is past the end. -/
def overwrite
    (blank : α)
    (bytes : List α)
    (position : Nat)
    (written : List α) :
    List α :=
  resize blank bytes position ++ written ++
    bytes.drop (position + written.length)

@[simp] theorem length_overwrite
    (blank : α)
    (bytes : List α)
    (position : Nat)
    (written : List α) :
    (overwrite blank bytes position written).length =
      max bytes.length (position + written.length) := by
  unfold overwrite
  rw [List.length_append, List.length_append, length_resize, List.length_drop]
  omega

/--
A copy into a buffer writes its contents exactly when no hidden element shows up
before it.
-/
theorem window_blit_eq_overwrite_iff
    {blank : α}
    {data source : Nat → α}
    {length position amount : Nat} :
    window (blit data position source amount) 0
          (max length (position + amount)) =
        overwrite blank (window data 0 length) position
          (window source 0 amount) ↔
      ∀ index, length ≤ index → index < position → data index = blank := by
  have split :
      max length (position + amount) =
        position + amount + (length - (position + amount)) := by
    omega
  unfold overwrite
  rw [split, window_add, window_add, Nat.zero_add, Nat.zero_add,
    window_blit_before (Nat.le_of_eq (Nat.zero_add _)), window_blit_inside,
    window_blit_after (Nat.le_refl _), length_window, drop_window,
    Nat.zero_add, List.append_cancel_right_eq, List.append_cancel_right_eq,
    window_eq_resize_iff]

end VibuxOS.Lib
