import VibuxOS.Shell.ParseLine

namespace VibuxOS.Shell

open VibuxOS.Lib

/-!
# The arguments of a command line

Between two steps of `parse_line` the bytes that were not read are those of the
line, the spans lie behind each other before the write index, and what was found
and what is still to come make up the arguments of the reference.
-/

/-- A run of `parse_line` from one state to another. -/
abbrev Reaches (len : Nat) : Scan → Scan → Prop :=
  Relation.ReflTransGen fun before after => step len before = some after

/-- Up to here the line holds arguments that are complete. -/
def Scan.frontier (scan : Scan) : Nat :=
  match scan.point with
  | .argument start _ => start
  | _ => scan.writePos

/-- The arguments that are still to come, with the one that has begun. -/
def Scan.pending (len : Nat) (scan : Scan) : List (List UInt8) :=
  match scan.point with
  | .argument start quote =>
      let behind := argumentOf quote (unreadFrom scan.line len scan.read)
      (window scan.line start (scan.writePos - start) ++ behind.1) ::
        tokenize behind.2
  | _ => tokenize (unreadFrom scan.line len scan.read)

/-- What the shell takes of a list of arguments. -/
def taken (arguments : List (List UInt8)) : List (List UInt8) :=
  (arguments.map (List.take argMaxLen)).take argMax

/-- What holds between two steps. -/
structure Scanning
    (line : Nat → UInt8)
    (len : Nat)
    (scan : Scan) : Prop where
  ordered : scan.writePos ≤ scan.read
  inside : scan.read ≤ len
  unread : ∀ index, scan.read ≤ index → scan.line index = line index
  complete : scan.frontier ≤ scan.writePos
  spans :
    ∀ span ∈ scan.spans, span.1 ≤ span.2 ∧ span.2 ≤ scan.frontier
  sorted :
    scan.spans.Pairwise fun first second => first.2 ≤ second.1
  count : scan.spans.length ≤ argMax
  room :
    ∀ start quote,
      scan.point = .argument start quote →
      scan.spans.length < argMax
  ended :
    scan.point = .done →
    scan.spans.length = argMax ∨ len ≤ scan.read
  meaning :
    (scan.arguments ++ (scan.pending len).map (List.take argMaxLen)).take
        argMax =
      taken (tokenize (window line 0 len))

namespace Scanning

variable
  {line : Nat → UInt8}
  {len : Nat}
  {scan : Scan}

theorem start
    (line : Nat → UInt8)
    (len : Nat) :
    Scanning line len (.start line) where
  ordered := Nat.le_refl 0
  inside := Nat.zero_le len
  unread := fun _ _ => rfl
  complete := Nat.le_refl 0
  spans := fun _ mem => nomatch mem
  sorted := .nil
  count := Nat.zero_le _
  room := fun _ _ isArgument => nomatch isArgument
  ended := fun isDone => nomatch isDone
  meaning := rfl

section

variable (scanning : Scanning line len scan)

include scanning

theorem arguments_put
    (byte : UInt8) :
    (scan.put byte).arguments = scan.arguments := by
  apply List.map_congr_left
  intro span mem
  obtain ⟨_, before⟩ := scanning.spans span mem
  apply window_eq_iff.mpr
  intro index inside
  have complete := scanning.complete
  exact Function.update_of_ne (by omega) _ _

theorem afterEnded
    (point : scan.point = .outer)
    (noneLeft : len ≤ scan.read) :
    Scanning line len { scan with point := .done } where
  ordered := scanning.ordered
  inside := scanning.inside
  unread := scanning.unread
  complete := Nat.le_refl _
  spans := by
    have spans := scanning.spans
    simp only [Scan.frontier, point] at spans
    exact spans
  sorted := scanning.sorted
  count := scanning.count
  room := fun _ _ isArgument => nomatch isArgument
  ended := fun _ => Or.inr noneLeft
  meaning := by
    have meaning := scanning.meaning
    simp only [Scan.pending, point] at meaning
    exact meaning

theorem afterStopped
    (point : scan.point = .outer)
    (enough :
      len ≤ skipWhitespace scan.line len scan.read ∨
        argMax ≤ scan.spans.length) :
    Scanning line len
      { scan with
        read := skipWhitespace scan.line len scan.read
        point := .done } where
  ordered :=
    Nat.le_trans scanning.ordered (le_skipWhitespace _ _ _)
  inside := skipWhitespace_le _ scanning.inside
  unread := fun index behind =>
    scanning.unread index (Nat.le_trans (le_skipWhitespace _ _ _) behind)
  complete := Nat.le_refl _
  spans := by
    have spans := scanning.spans
    simp only [Scan.frontier, point] at spans
    exact spans
  sorted := scanning.sorted
  count := scanning.count
  room := fun _ _ isArgument => nomatch isArgument
  ended := by
    intro _
    rcases enough with ended | full
    · exact Or.inr ended
    · exact Or.inl (Nat.le_antisymm scanning.count full)
  meaning := by
    have meaning := scanning.meaning
    simp only [Scan.pending, point] at meaning ⊢
    rw [unreadFrom_skipWhitespace, tokenize_dropWhile]
    exact meaning

theorem afterBegun
    (point : scan.point = .outer)
    (inside : skipWhitespace scan.line len scan.read < len)
    (room : scan.spans.length < argMax) :
    Scanning line len
      { scan with
        read := skipWhitespace scan.line len scan.read
        point := .argument scan.writePos 0 } where
  ordered :=
    Nat.le_trans scanning.ordered (le_skipWhitespace _ _ _)
  inside := inside.le
  unread := fun index behind =>
    scanning.unread index (Nat.le_trans (le_skipWhitespace _ _ _) behind)
  complete := Nat.le_refl _
  spans := by
    have spans := scanning.spans
    simp only [Scan.frontier, point] at spans
    exact spans
  sorted := scanning.sorted
  count := scanning.count
  room := fun _ _ _ => room
  ended := fun isDone => nomatch isDone
  meaning := by
    have meaning := scanning.meaning
    have begins :
        isAsciiWhitespace
            (scan.line (skipWhitespace scan.line len scan.read)) =
          false := by
      have stops :=
        not_whitespace_skipWhitespace scan.line len scan.read
      exact Bool.eq_false_iff.mpr fun isWhite => stops ⟨inside, isWhite⟩
    simp only [Scan.pending, point] at meaning ⊢
    rw [← tokenize_dropWhile, ← unreadFrom_skipWhitespace,
      unreadFrom_cons _ inside, tokenize_of_begins begins] at meaning
    rw [unreadFrom_cons _ inside, Nat.sub_self, window_zero, List.nil_append]
    exact meaning

theorem afterTurned
    {start : Nat}
    {quote : UInt8}
    {next : Scan}
    (point : scan.point = .argument start quote)
    (turned : Turned len start quote scan next) :
    Scanning line len next := by
  have complete := scanning.complete
  have spans := scanning.spans
  have meaning := scanning.meaning
  simp only [Scan.frontier, Scan.pending, point] at complete spans meaning
  have ordered := scanning.ordered
  have room := scanning.room start quote point
  cases turned with
  | moved amount within some inside same =>
      constructor
      · exact Nat.le_trans ordered (Nat.le_add_right _ _)
      · exact inside
      · intro index behind
        exact
          scanning.unread index (Nat.le_trans (Nat.le_add_right _ _) behind)
      · exact complete
      · exact spans
      · exact scanning.sorted
      · exact scanning.count
      · exact fun _ _ _ => room
      · exact fun isDone => nomatch isDone
      · rw [same] at meaning
        exact meaning
  | copied amount byte some inside same =>
      have rest :
          unreadFrom (scan.put byte).line len (scan.read + amount) =
            unreadFrom scan.line len (scan.read + amount) := by
        apply window_eq_iff.mpr
        intro index _
        exact Function.update_of_ne (by omega) _ _
      have written :
          window (scan.put byte).line start (scan.writePos + 1 - start) =
            window scan.line start (scan.writePos - start) ++ [byte] := by
        rw [show scan.writePos + 1 - start = scan.writePos - start + 1 by omega,
          window_add]
        congr 1
        · apply window_eq_iff.mpr
          intro index _
          exact Function.update_of_ne (by omega) _ _
        · have last : start + (scan.writePos - start) = scan.writePos := by
            omega
          rw [last]
          exact congrArg (fun last => [last]) (Function.update_self _ _ _)
      constructor
      · change scan.writePos + 1 ≤ scan.read + amount
        omega
      · exact inside
      · intro index behind
        change scan.read + amount ≤ index at behind
        rw [← scanning.unread index (by omega)]
        exact Function.update_of_ne (by omega) _ _
      · exact Nat.le_succ_of_le complete
      · exact spans
      · exact scanning.sorted
      · exact scanning.count
      · exact fun _ _ _ => room
      · exact fun isDone => nomatch isDone
      · rw [same] at meaning
        change
          ((scan.put byte).arguments ++
              ((window (scan.put byte).line start (scan.writePos + 1 - start) ++
                    (argumentOf quote
                      (unreadFrom (scan.put byte).line len
                        (scan.read + amount))).1) ::
                  tokenize
                    (argumentOf quote
                      (unreadFrom (scan.put byte).line len
                        (scan.read + amount))).2).map
                (List.take argMaxLen)).take
              argMax =
            _
        rw [scanning.arguments_put, rest, written, List.append_assoc]
        exact meaning

end

/-- An argument ends, and its span is stored. -/
theorem afterFinished
    (short : len ≤ lineMax)
    {start : Nat}
    {quote : UInt8}
    (scanning : Scanning line len scan)
    (point : scan.point = .argument start quote)
    (behind :
      len ≤ scan.read ∨
        (scan.read < len ∧
          quote = 0 ∧ isAsciiWhitespace (scan.line scan.read))) :
    Scanning line len (finishArgument len start scan) := by
  have complete := scanning.complete
  have spans := scanning.spans
  have meaning := scanning.meaning
  simp only [Scan.frontier, Scan.pending, point] at complete spans meaning
  have ordered := scanning.ordered
  have inside := scanning.inside
  have forward := le_skipWhitespace scan.line len scan.read
  have limit : lineMax < 2 ^ 16 := by decide
  have isStart : asU16 start = start :=
    Nat.mod_eq_of_lt (by omega)
  have isEnd :
      asU16 (min scan.writePos (start + argMaxLen)) =
        min scan.writePos (start + argMaxLen) :=
    Nat.mod_eq_of_lt (by omega)
  have nothing :
      argumentOf quote (unreadFrom scan.line len scan.read) =
        ([], unreadFrom scan.line len scan.read) := by
    rcases behind with ended | ⟨inLine, ends⟩
    · rw [unreadFrom_end _ ended]
      rfl
    · rw [unreadFrom_cons _ inLine, argumentOf_of_ends ends]
  have found :
      (finishArgument len start scan).arguments =
        scan.arguments ++
          [(window scan.line start (scan.writePos - start)).take
            argMaxLen] := by
    have amount :
        min scan.writePos (start + argMaxLen) - start =
          min argMaxLen (scan.writePos - start) := by
      omega
    unfold finishArgument Scan.arguments
    rw [isStart, isEnd, List.map_append, take_window, ← amount]
    rfl
  unfold finishArgument at found ⊢
  rw [isStart, isEnd] at found ⊢
  constructor
  · exact Nat.le_trans ordered forward
  · exact skipWhitespace_le _ inside
  · intro index isBehind
    exact scanning.unread index (Nat.le_trans forward isBehind)
  · exact Nat.le_refl _
  · intro span mem
    change span.1 ≤ span.2 ∧ span.2 ≤ scan.writePos
    rcases List.mem_append.mp mem with old | new
    · obtain ⟨isSpan, before⟩ := spans span old
      exact ⟨isSpan, Nat.le_trans before complete⟩
    · rw [List.mem_singleton.mp new]
      constructor
      · change start ≤ min scan.writePos (start + argMaxLen)
        omega
      · exact Nat.min_le_left _ _
  · apply List.pairwise_append.mpr
    refine ⟨scanning.sorted, List.pairwise_singleton _ _, ?_⟩
    intro first old second new
    rw [List.mem_singleton.mp new]
    exact (spans first old).2
  · rw [List.length_append]
    exact scanning.room start quote point
  · exact fun _ _ isArgument => nomatch isArgument
  · exact fun isDone => nomatch isDone
  · rw [nothing, List.append_nil, List.map_cons] at meaning
    rw [found]
    change
      (scan.arguments ++ [_] ++
          (tokenize
            (unreadFrom scan.line len
              (skipWhitespace scan.line len scan.read))).map
            (List.take argMaxLen)).take
          argMax =
        _
    rw [unreadFrom_skipWhitespace, tokenize_dropWhile, List.append_assoc]
    exact meaning

theorem keeps
    (short : len ≤ lineMax)
    {next : Scan}
    (scanning : Scanning line len scan)
    (stepped : step len scan = some next) :
    Scanning line len next := by
  cases stepped_of_step stepped with
  | ended point noneLeft =>
      exact scanning.afterEnded point noneLeft
  | stopped point inside enough =>
      exact scanning.afterStopped point enough
  | begun point inside room =>
      exact scanning.afterBegun point inside room
  | turned point inside does =>
      exact scanning.afterTurned point does
  | finished point behind =>
      exact scanning.afterFinished short point behind

theorem of_reaches
    (short : len ≤ lineMax)
    (reaches : Reaches len (.start line) scan) :
    Scanning line len scan :=
  invariant_of_run (Scanning line len)
    (fun _ _ stepped scanning => scanning.keeps short stepped) reaches
    (.start line len)

theorem arguments_of_done
    (scanning : Scanning line len scan)
    (done : scan.point = .done) :
    scan.arguments = taken (tokenize (window line 0 len)) := by
  have length : scan.arguments.length = scan.spans.length :=
    List.length_map _
  rw [← scanning.meaning]
  rcases scanning.ended done with full | ended
  · rw [← full, ← length, List.take_left]
  · have nothing : scan.pending len = [] := by
      simp only [Scan.pending, done]
      rw [unreadFrom_end _ ended, tokenize_nil]
    rw [nothing, List.map_nil, List.append_nil,
      List.take_of_length_le (length.trans_le scanning.count)]

end Scanning

theorem runLoops_spec
    (len : Nat)
    (scan : Scan) :
    Reaches len scan (runLoops len scan) ∧
      (runLoops len scan).point = .done := by
  fun_induction runLoops len scan with
  | case1 scan next stepped inductionHypothesis =>
      exact
        ⟨.head stepped inductionHypothesis.1, inductionHypothesis.2⟩
  | case2 scan stepped =>
      refine ⟨.refl, ?_⟩
      unfold step at stepped
      cases point : scan.point with
      | outer =>
          simp only [point] at stepped
          split at stepped
          · split at stepped <;> cases stepped
          · cases stepped
      | argument start quote =>
          simp only [point] at stepped
          split at stepped <;> cases stepped
      | done =>
          rfl

/-- `parse_line` parses a line in place. -/
structure ParsesInPlace (line : Nat → UInt8) (len : Nat) : Prop where
  arguments :
    (parseLine line len).arguments = taken (tokenize (window line 0 len))
  unread :
    ∀ scan,
      Reaches len (.start line) scan →
      scan.writePos ≤ scan.read ∧
        scan.read ≤ len ∧
        ∀ index, scan.read ≤ index → scan.line index = line index
  spans :
    ∀ span ∈ (parseLine line len).spans, span.1 ≤ span.2 ∧ span.2 ≤ len
  increasing :
    (parseLine line len).spans.Pairwise
      fun first second => first.2 ≤ second.1
  terminates :
    Reaches len (.start line) (parseLine line len) ∧
      step len (parseLine line len) = none
  written :
    ∀ arguments : List (List UInt8),
      arguments.length ≤ argMax →
      (∀ argument ∈ arguments,
        1 ≤ argument.length ∧ argument.length ≤ argMaxLen) →
      window line 0 len = escapeLine arguments →
      (parseLine line len).arguments = arguments

theorem taken_of_short
    {arguments : List (List UInt8)}
    (few : arguments.length ≤ argMax)
    (short : ∀ argument ∈ arguments, argument.length ≤ argMaxLen) :
    taken arguments = arguments := by
  unfold taken
  rw [List.take_of_length_le (by rwa [List.length_map])]
  exact
    (List.map_congr_left fun argument mem =>
      List.take_of_length_le (short argument mem)).trans (List.map_id _)

/-- Every line within the buffer is parsed in place. -/
theorem parseLine_inPlace
    {len : Nat}
    (short : len ≤ lineMax)
    (line : Nat → UInt8) :
    ParsesInPlace line len := by
  obtain ⟨run, done⟩ := runLoops_spec len (.start line)
  have scanning := Scanning.of_reaches short run
  have arguments := scanning.arguments_of_done done
  constructor
  · exact arguments
  · intro scan reaches
    have between := Scanning.of_reaches short reaches
    exact ⟨between.ordered, between.inside, between.unread⟩
  · intro span mem
    obtain ⟨isSpan, before⟩ := scanning.spans span mem
    refine ⟨isSpan, Nat.le_trans before ?_⟩
    exact
      Nat.le_trans scanning.complete
        (Nat.le_trans scanning.ordered scanning.inside)
  · exact scanning.sorted
  · refine ⟨run, ?_⟩
    unfold step
    simp only [parseLine, done]
  · intro given few within written
    have nonempty : ∀ argument ∈ given, argument ≠ [] := by
      intro argument mem
      exact List.ne_nil_of_length_pos (within argument mem).1
    rw [parseLine, arguments, written, tokenize_escapeLine nonempty]
    exact taken_of_short few fun argument mem => (within argument mem).2

/-- The line `ls 'a b'`. -/
def sampleLine : List UInt8 := [108, 115, 32, 39, 97, 32, 98, 39]

/-- The sample line is parsed in place. -/
theorem parseLine_inPlace_sample :
    ParsesInPlace (fun index => sampleLine.getD index 0) 8 :=
  parseLine_inPlace (by decide) _

end VibuxOS.Shell
