import VibuxOS.Waiting.Calls

namespace VibuxOS.Waiting

open VibuxOS.Lib VibuxOS.Paging

/-!
# What the scans of descriptors find

A look at a descriptor changes nothing.  It panics for a descriptor whose object
is out of bounds, and says which events there are for every other one.
-/

/-! ## A look at a descriptor -/

/-- What `poll_fd_revents` says, if it does not panic. -/
def Moment.reports (moment : Moment) (fd : Int) (events : UInt16) : Option UInt16 :=
  (Files.pollFdRevents moment.world moment.keyboardReady fd events
    moment.files).value?

theorem pollKind_cases
    (world : Files.World)
    (keyboardReady : Bool)
    (fd : Files.Fd)
    (events : UInt16)
    (state : Files.State) :
    Files.pollKind world keyboardReady fd events state = .hang ∨
      ∃ revents,
        Files.pollKind world keyboardReady fd events state =
          .ok revents state := by
  unfold Files.pollKind
  rw [Prog.gets_bind_apply]
  cases fd.kind with
  | pipeRead =>
      dsimp only [id]
      cases Files.pipeAvailable state fd.id <;> exact .inr ⟨_, rfl⟩
  | pipeWrite =>
      dsimp only [id]
      cases Files.pipeAvailable state fd.id <;> exact .inr ⟨_, rfl⟩
  | eventFd =>
      by_cases outside : fd.id ≥ Files.eventfdMax
      · exact .inl (by simp [outside])
      · exact .inr ⟨_, by simp [outside]; rfl⟩
  | timerFd =>
      by_cases outside : fd.id ≥ Files.timerfdMax
      · exact .inl (by simp [outside])
      · exact .inr ⟨_, by simp [outside]; rfl⟩
  | signalFd =>
      by_cases outside : fd.id ≥ Files.signalfdMax
      · exact .inl (by simp [outside])
      · exact .inr ⟨_, by simp [outside]; rfl⟩
  | _ => exact .inr ⟨_, rfl⟩

theorem filesPoll_cases
    (world : Files.World)
    (keyboardReady : Bool)
    (fd : Int)
    (events : UInt16)
    (state : Files.State) :
    Files.pollFdRevents world keyboardReady fd events state = .hang ∨
      ∃ revents,
        Files.pollFdRevents world keyboardReady fd events state =
          .ok revents state := by
  unfold Files.pollFdRevents
  by_cases isOpen : Files.OpenFd state.fds fd
  · rw [Prog.bind_of_ok
      (Prog.attempt_of_ok (Files.fdSnapshot_of_open isOpen))]
    exact pollKind_cases world keyboardReady _ events state
  · rw [Prog.bind_of_ok
      (Prog.attempt_of_err (Files.fdSnapshot_of_not_open isOpen))]
    exact .inr ⟨_, rfl⟩

theorem pollFdRevents_of_some
    {moment : Moment}
    {fd : Int}
    {events revents : UInt16}
    (reports : moment.reports fd events = some revents) :
    pollFdRevents fd events moment = .ok revents moment := by
  unfold Moment.reports at reports
  unfold pollFdRevents onFiles
  rw [Prog.gets_bind_apply]
  rcases filesPoll_cases moment.world moment.keyboardReady fd events
      moment.files with stuck | ⟨value, looked⟩
  · rw [stuck] at reports
    cases reports
  · rw [looked] at reports
    cases reports
    unfold Prog.onPart Prog.mapError
    dsimp only [id]
    rw [looked]

theorem pollFdRevents_of_none
    {moment : Moment}
    {fd : Int}
    {events : UInt16}
    (reports : moment.reports fd events = none) :
    pollFdRevents fd events moment = .hang := by
  unfold Moment.reports at reports
  unfold pollFdRevents onFiles
  rw [Prog.gets_bind_apply]
  rcases filesPoll_cases moment.world moment.keyboardReady fd events
      moment.files with stuck | ⟨value, looked⟩
  · unfold Prog.onPart Prog.mapError
    dsimp only [id]
    rw [stuck]
  · rw [looked] at reports
    cases reports

/-! ## Copies -/

/-- The byte that the kernel loads from an address. -/
def Moment.byte (moment : Moment) (address : UInt64) : UInt8 :=
  moment.space.byteAt moment.bytes address

theorem copyIn_cases
    (moment : Moment)
    (address : UInt64)
    {len : Nat}
    (some : len ≠ 0) :
    (Covered moment.space.Loads address len ∧
        ∃ data,
          copyIn address len moment = .ok data moment ∧
            ∀ index < len,
              data index = moment.byte (address + UInt64.ofNat index)) ∨
      ¬ Covered moment.space.Loads address len ∧
        copyIn address len moment = .err efault moment := by
  rcases copyUserIn_cases moment.space address some
      (.start moment.bytes fun _ => 0) with
    ⟨covered, last, copied⟩ | ⟨uncovered, last, failed⟩
  · refine .inl ⟨covered, last.output, ?_, output_of_copyUserIn copied⟩
    unfold copyIn
    rw [copied]
  · refine .inr ⟨uncovered, ?_⟩
    unfold copyIn
    rw [failed]

theorem copyOut_cases
    (moment : Moment)
    (address : UInt64)
    {input : List UInt8}
    (some : input.length ≠ 0) :
    (Covered moment.space.Stores address input.length ∧
        ∃ bytes,
          copyOut address input moment =
              .ok () { moment with bytes := bytes } ∧
            Stored moment.space address input moment.bytes bytes) ∨
      (Refused moment.space moment.space.Stores address input.length ∧
        ∃ bytes,
          copyOut address input moment =
            .err efault { moment with bytes := bytes }) ∨
      ¬ Covered moment.space.Stores address input.length ∧
        ¬ Refused moment.space moment.space.Stores address input.length ∧
        copyOut address input moment = .hang := by
  rcases copyUserOut_cases moment.space address some
      (.start moment.bytes fun _ => 0) with
    ⟨covered, last, copied⟩ | ⟨refused, last, failed⟩ |
      ⟨uncovered, accepted, stuck⟩
  · refine .inl ⟨covered, last.bytes, ?_, stored_of_copyUserOut copied⟩
    unfold copyOut
    rw [copied]
  · refine .inr (.inl ⟨refused, last.bytes, ?_⟩)
    unfold copyOut
    rw [failed]
  · refine .inr (.inr ⟨uncovered, accepted, ?_⟩)
    unfold copyOut
    rw [stuck]

theorem not_refused_of_loads
    {space : AddressSpace}
    {address : UInt64}
    {len : Nat}
    (covered : Covered space.Loads address len) :
    ¬ Refused space space.Stores address len := by
  rintro (beyond | ⟨index, inside, missing, _⟩)
  · exact Nat.not_lt_of_le covered.1 beyond
  · exact missing (covered.2 index inside)

/-! ## The entries of `poll_scan` -/

/-- The address of an entry. -/
def entryBase (userFds : UInt64) (index : Nat) : UInt64 :=
  userFds + UInt64.ofNat (index * 8)

/-- The descriptor number of an entry. -/
def Moment.entryFd (moment : Moment) (base : UInt64) : Int :=
  signed 32 (leValue (fun place => moment.byte (base + UInt64.ofNat place)) 4)

def Moment.entryEvents (moment : Moment) (base : UInt64) : UInt16 :=
  UInt16.ofNat
    (leValue (fun place => moment.byte (base + UInt64.ofNat (4 + place))) 2)

def Moment.entryReports (moment : Moment) (base : UInt64) : Option UInt16 :=
  moment.reports (moment.entryFd base) (moment.entryEvents base)

/-- Something is reported for an entry. -/
def Moment.entryReady
    (moment : Moment)
    (userFds : UInt64)
    (index : Nat) :
    Bool :=
  (moment.entryReports (entryBase userFds index)).any (· != 0)

/-- Only bytes have changed, and none that an entry is read from. -/
structure Scanned (userFds : UInt64) (before after : Moment) : Prop where
  others : after = { before with bytes := after.bytes }
  entries :
    ∀ index,
      ∀ place < 6,
        after.byte (entryBase userFds index + UInt64.ofNat place) =
          before.byte (entryBase userFds index + UInt64.ofNat place)

namespace Scanned

variable {userFds : UInt64} {before middle after : Moment}

theorem refl (userFds : UInt64) (moment : Moment) :
    Scanned userFds moment moment where
  others := rfl
  entries _ _ _ := rfl

theorem trans
    (first : Scanned userFds before middle)
    (second : Scanned userFds middle after) :
    Scanned userFds before after where
  others := by
    rw [second.others, first.others]
  entries index place inside :=
    (second.entries index place inside).trans (first.entries index place inside)

theorem space (scanned : Scanned userFds before after) :
    after.space = before.space := by
  rw [scanned.others]

theorem ticks (scanned : Scanned userFds before after) :
    after.ticks = before.ticks := by
  rw [scanned.others]

theorem reports
    (scanned : Scanned userFds before after)
    (fd : Int)
    (events : UInt16) :
    after.reports fd events = before.reports fd events := by
  rw [scanned.others]
  rfl

theorem entryReports
    (scanned : Scanned userFds before after)
    (index : Nat) :
    after.entryReports (entryBase userFds index) =
      before.entryReports (entryBase userFds index) := by
  have sameFd :
      after.entryFd (entryBase userFds index) =
        before.entryFd (entryBase userFds index) := by
    unfold Moment.entryFd
    congr 1
    exact
      leValue_congr fun place inside =>
        scanned.entries index place (by omega)
  have sameEvents :
      after.entryEvents (entryBase userFds index) =
        before.entryEvents (entryBase userFds index) := by
    unfold Moment.entryEvents
    congr 1
    exact
      leValue_congr fun place inside =>
        scanned.entries index (4 + place) (by omega)
  rw [Moment.entryReports, sameFd, sameEvents, scanned.reports]
  rfl

theorem entryReady
    (scanned : Scanned userFds before after)
    (index : Nat) :
    after.entryReady userFds index = before.entryReady userFds index := by
  rw [Moment.entryReady, scanned.entryReports]
  rfl

end Scanned

theorem scanned_of_stored
    {userFds : UInt64}
    {index : Nat}
    {moment : Moment}
    {input : List UInt8}
    {bytes : UInt64 → UInt8}
    (length : input.length = 2)
    (stored :
      Stored moment.space (entryBase userFds index + 6) input moment.bytes
        bytes) :
    Scanned userFds moment { moment with bytes := bytes } where
  others := rfl
  entries other place inside := by
    unfold Moment.byte
    dsimp only
    by_cases found :
        ∃ physical,
          moment.space.target (entryBase userFds other + UInt64.ofNat place) =
            some physical
    · obtain ⟨physical, isTarget⟩ := found
      rw [AddressSpace.byteAt_of_target isTarget,
        AddressSpace.byteAt_of_target isTarget]
      apply stored.kept
      intro offset bounded sameTarget
      -- entries are eight bytes apart, and a page is a multiple of that
      have left := AddressSpace.target_mod isTarget
      have right := AddressSpace.target_mod sameTarget
      have six : (6 : UInt64).toNat = 6 := rfl
      simp only [entryBase, UInt64.toNat_add, UInt64.toNat_ofNat', six]
        at left right
      rw [length] at bounded
      omega
    · unfold AddressSpace.byteAt
      have missing :
          moment.space.lookup (entryBase userFds other + UInt64.ofNat place) =
            none := by
        cases isAccess :
            moment.space.lookup
              (entryBase userFds other + UInt64.ofNat place) with
        | none => rfl
        | some access =>
            refine absurd ⟨access.physical, ?_⟩ found
            unfold AddressSpace.target
            rw [isAccess]
            rfl
      rw [missing]

/-- The scan gets past an entry. -/
structure EntryPasses
    (moment : Moment)
    (userFds : UInt64)
    (index : Nat) : Prop where
  loads : Covered moment.space.Loads (entryBase userFds index) 8
  stores : Covered moment.space.Stores (entryBase userFds index + 6) 2
  reports : (moment.entryReports (entryBase userFds index)).isSome = true

theorem Scanned.entryPasses_iff
    {userFds : UInt64}
    {before after : Moment}
    (scanned : Scanned userFds before after)
    (index : Nat) :
    EntryPasses after userFds index ↔ EntryPasses before userFds index := by
  constructor
  · rintro ⟨loads, stores, reports⟩
    rw [scanned.space] at loads stores
    rw [scanned.entryReports] at reports
    exact ⟨loads, stores, reports⟩
  · rintro ⟨loads, stores, reports⟩
    rw [← scanned.space] at loads stores
    rw [← scanned.entryReports] at reports
    exact ⟨loads, stores, reports⟩

/-- The number of entries from an index on that are ready. -/
def readyFrom (moment : Moment) (userFds : UInt64) (index left : Nat) : Nat :=
  (List.range' index left).countP (moment.entryReady userFds)

/-- How the scan of some entries ends. -/
inductive ScanEnds
    (userFds : UInt64)
    (moment : Moment)
    (index left ready : Nat) :
    Outcome Moment UInt64 Nat → Prop where
  | counted
      {final : Moment}
      (scanned : Scanned userFds moment final)
      (passes :
        ∀ entry,
          index ≤ entry →
          entry < index + left →
          EntryPasses moment userFds entry) :
      ScanEnds userFds moment index left ready
        (.ok (ready + readyFrom moment userFds index left) final)
  | unreadable
      {final : Moment}
      (scanned : Scanned userFds moment final)
      (entry : Nat)
      (after : index ≤ entry)
      (inside : entry < index + left)
      (passes :
        ∀ earlier,
          index ≤ earlier →
          earlier < entry →
          EntryPasses moment userFds earlier)
      (missing : ¬ Covered moment.space.Loads (entryBase userFds entry) 8) :
      ScanEnds userFds moment index left ready (.err efault final)
  | stuck
      (entry : Nat)
      (after : index ≤ entry)
      (inside : entry < index + left)
      (loads :
        ∀ earlier,
          index ≤ earlier →
          earlier ≤ entry →
          Covered moment.space.Loads (entryBase userFds earlier) 8)
      (fails : ¬ EntryPasses moment userFds entry) :
      ScanEnds userFds moment index left ready .hang

section

variable
  {userFds : UInt64}
  {index : Nat}
  (fits : index = 0 ∨ userFds.toNat + index * 8 ≤ userLimit.toNat)

include fits

theorem fits_next
    {space : AddressSpace}
    (loads : Covered space.Loads (entryBase userFds index) 8) :
    userFds.toNat + (index + 1) * 8 ≤ userLimit.toNat := by
  have below := loads.1
  have limit : userLimit.toNat = 2 ^ 47 := rfl
  have bound := userFds.toNat_lt
  rw [entryBase, UInt64.toNat_add, UInt64.toNat_ofNat'] at below
  omega

theorem entryAddress_of_fits
    (moment : Moment) :
    entryAddress userFds index moment =
      .ok (entryBase userFds index) moment := by
  have limit : userLimit.toNat = 2 ^ 47 := rfl
  have bound := userFds.toNat_lt
  have added :
      checkedAdd userFds (UInt64.ofNat (index * 8)) =
        some (entryBase userFds index) := by
    unfold checkedAdd
    rw [if_pos]
    · rfl
    · rw [le_add_iff, UInt64.toNat_ofNat']
      omega
  unfold entryAddress
  rw [added]
  rfl

end

theorem scanEntries_step
    {userFds : UInt64}
    {left index ready : Nat}
    {moment : Moment}
    (fits : index = 0 ∨ userFds.toNat + index * 8 ≤ userLimit.toNat) :
    (EntryPasses moment userFds index ∧
        ∃ middle,
          Scanned userFds moment middle ∧
            scanEntries userFds (left + 1) index ready moment =
              scanEntries userFds left (index + 1)
                (if moment.entryReady userFds index = true then
                  ready + 1
                else
                  ready)
                middle) ∨
      (¬ Covered moment.space.Loads (entryBase userFds index) 8 ∧
        scanEntries userFds (left + 1) index ready moment =
          .err efault moment) ∨
      Covered moment.space.Loads (entryBase userFds index) 8 ∧
        ¬ EntryPasses moment userFds index ∧
        scanEntries userFds (left + 1) index ready moment = .hang := by
  rw [scanEntries, Prog.bind_of_ok (entryAddress_of_fits fits moment)]
  rcases copyIn_cases moment (entryBase userFds index)
      (by decide : 8 ≠ 0) with ⟨loads, raw, copied, isByte⟩ | ⟨missing, failed⟩
  · rw [Prog.bind_of_ok copied]
    have isFd :
        signed 32 (leValue raw 4) =
          moment.entryFd (entryBase userFds index) := by
      unfold Moment.entryFd
      congr 1
      exact leValue_congr fun place inside => isByte place (by omega)
    have isEvents :
        UInt16.ofNat (leValue (fun index => raw (4 + index)) 2) =
          moment.entryEvents (entryBase userFds index) := by
      unfold Moment.entryEvents
      congr 1
      exact leValue_congr fun place inside => isByte (4 + place) (by omega)
    rw [isFd, isEvents]
    cases reports : moment.entryReports (entryBase userFds index) with
    | none =>
        right; right
        refine ⟨loads, fun passes => ?_,
          Prog.bind_of_hang (pollFdRevents_of_none reports)⟩
        have isSome := passes.reports
        rw [reports] at isSome
        cases isSome
    | some revents =>
        rw [Prog.bind_of_ok (pollFdRevents_of_some reports)]
        have length : (Files.leBytes revents.toUInt64 2).length = 2 := by
          unfold Files.leBytes
          rw [List.length_map, List.length_range]
        have inner :
            Covered moment.space.Loads (entryBase userFds index + 6) 2 := by
          have limit : userLimit.toNat = 2 ^ 47 := rfl
          have below := loads.1
          have six : (6 : UInt64) = UInt64.ofNat 6 := rfl
          constructor
          · rw [six, UInt64.toNat_add, UInt64.toNat_ofNat']
            omega
          · intro place inside
            rw [six, ← add_ofNat_add]
            exact loads.2 (6 + place) (by omega)
        rcases copyOut_cases moment (entryBase userFds index + 6)
            (by rw [length]; decide :
              (Files.leBytes revents.toUInt64 2).length ≠ 0) with
          ⟨stores, bytes, written, stored⟩ | ⟨refused, _⟩ |
            ⟨uncovered, _, stuck⟩
        · left
          rw [length] at stores
          refine ⟨⟨loads, stores, by rw [reports]; rfl⟩,
            { moment with bytes := bytes }, scanned_of_stored length stored, ?_⟩
          rw [Prog.bind_of_ok written, Moment.entryReady, reports]
          simp
        · rw [length] at refused
          exact absurd refused (not_refused_of_loads inner)
        · right; right
          rw [length] at uncovered
          exact
            ⟨loads, fun passes => uncovered passes.stores,
              Prog.bind_of_hang stuck⟩
  · right; left
    exact ⟨missing, Prog.bind_of_err failed⟩

theorem Scanned.readyFrom
    {userFds : UInt64}
    {before after : Moment}
    (scanned : Scanned userFds before after)
    (index left : Nat) :
    readyFrom after userFds index left = readyFrom before userFds index left := by
  have same : after.entryReady userFds = before.entryReady userFds :=
    funext scanned.entryReady
  rw [Waiting.readyFrom, same]
  rfl

theorem readyFrom_succ
    (moment : Moment)
    (userFds : UInt64)
    (index left ready : Nat) :
    (if moment.entryReady userFds index = true then ready + 1 else ready) +
        readyFrom moment userFds (index + 1) left =
      ready + readyFrom moment userFds index (left + 1) := by
  unfold readyFrom
  rw [List.range'_succ, List.countP_cons]
  split <;> omega

theorem ScanEnds.after_pass
    {userFds : UInt64}
    {moment middle : Moment}
    {index left ready : Nat}
    {outcome : Outcome Moment UInt64 Nat}
    (passes : EntryPasses moment userFds index)
    (scanned : Scanned userFds moment middle)
    (later :
      ScanEnds userFds middle (index + 1) left
        (if moment.entryReady userFds index = true then ready + 1 else ready)
        outcome) :
    ScanEnds userFds moment index (left + 1) ready outcome := by
  have extend :
      ∀ entry,
        (∀ earlier,
          index + 1 ≤ earlier →
          earlier < entry →
          EntryPasses middle userFds earlier) →
        ∀ earlier,
          index ≤ earlier →
          earlier < entry →
          EntryPasses moment userFds earlier := by
    intro entry others earlier after before
    rcases Nat.eq_or_lt_of_le after with rfl | above
    · exact passes
    · exact (scanned.entryPasses_iff _).mp (others earlier above before)
  cases later with
  | counted scannedThen passesThen =>
      rw [scanned.readyFrom, readyFrom_succ]
      refine .counted (scanned.trans scannedThen) ?_
      intro entry after inside
      exact
        extend (index + (left + 1))
          (fun earlier above before =>
            passesThen earlier above (by omega))
          entry after inside
  | unreadable scannedThen entry after inside passesThen missing =>
      rw [scanned.space] at missing
      exact
        .unreadable (scanned.trans scannedThen) entry (by omega) (by omega)
          (extend entry passesThen) missing
  | stuck entry after inside loads fails =>
      rw [scanned.space] at loads
      rw [scanned.entryPasses_iff] at fails
      refine .stuck entry (by omega) (by omega) ?_ fails
      intro earlier after before
      rcases Nat.eq_or_lt_of_le after with rfl | above
      · exact passes.loads
      · exact loads earlier above before

theorem scanEnds_scanEntries
    {userFds : UInt64}
    {left index ready : Nat}
    {moment : Moment}
    (fits : index = 0 ∨ userFds.toNat + index * 8 ≤ userLimit.toNat) :
    ScanEnds userFds moment index left ready
      (scanEntries userFds left index ready moment) := by
  induction left generalizing index ready moment with
  | zero =>
      exact .counted (.refl _ _) fun entry after inside => by omega
  | succ left inductionHypothesis =>
      rcases @scanEntries_step userFds left index ready moment fits with
        ⟨passes, middle, scanned, goesOn⟩ | ⟨missing, failed⟩ |
          ⟨loads, fails, stuck⟩
      · rw [goesOn]
        exact
          .after_pass passes scanned
            (inductionHypothesis (.inr (fits_next fits passes.loads)))
      · rw [failed]
        refine .unreadable (.refl _ _) index (Nat.le_refl _) (by omega) ?_
          missing
        intro earlier after before
        omega
      · rw [stuck]
        refine .stuck index (Nat.le_refl _) (by omega) ?_ fails
        intro earlier after before
        rwa [Nat.le_antisymm before after]

end VibuxOS.Waiting
