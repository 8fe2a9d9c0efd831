import VibuxOS.Files.SlotRuns
import VibuxOS.Lib.Simulation

namespace VibuxOS.Files

open VibuxOS.Lib

/-!
# Epoll sets

A set keeps its watches in three arrays and a count.  `epoll_ctl` treats them as a
list in which no descriptor is watched twice: a watch is added at the end, one that is
removed is closed up behind, and the others keep their order.
-/

def epollEventsMax : Nat := 64

def epollCtlAdd : UInt64 := 1

def epollCtlDel : UInt64 := 2

def epollCtlMod : UInt64 := 3

/-- A watched descriptor. -/
structure Watch where
  fd : Int
  events : UInt32
  data : UInt64
  deriving DecidableEq

/-- The arguments of `epoll_ctl`, with the event that is read from user memory if it can be. -/
structure EpollCtl where
  epfd : Int
  op : UInt64
  targetFd : Int
  event : Option (UInt32 × UInt64)

namespace EpollState

def watch (epoll : EpollState) (index : Nat) : Watch where
  fd := epoll.watchedFds index
  events := epoll.watchedEvents index
  data := epoll.watchedData index

/-- Write the entries of the three arrays at an index. -/
def setWatch (index : Nat) (watch : Watch) (epoll : EpollState) : EpollState :=
  { epoll with
    watchedFds := Function.update epoll.watchedFds index watch.fd
    watchedEvents := Function.update epoll.watchedEvents index watch.events
    watchedData := Function.update epoll.watchedData index watch.data }

/-- The loop that looks for a descriptor. -/
def find (epoll : EpollState) (fd : Int) : Option Nat :=
  (List.range epoll.count).find? fun index => epoll.watchedFds index == fd

/-- `for j in i..count - 1`, with the number of turns -/
def closeUp : Nat → Nat → EpollState → EpollState
  | 0, _, epoll => epoll
  | left + 1, index, epoll =>
      closeUp left (index + 1)
        (epoll.setWatch index (epoll.watch (index + 1)))

/-- The operations on a set. -/
def ctl (op : UInt64) (watch : Watch) (epoll : EpollState) :
    Except Errno EpollState :=
  if op = epollCtlAdd then
    if epoll.count ≥ epollEventsMax then
      .error .enospc
    else
      match epoll.find watch.fd with
      | some _ => .error .eexist
      | none =>
          .ok
            { epoll.setWatch epoll.count watch with
              count := epoll.count + 1 }
  else if op = epollCtlDel then
    match epoll.find watch.fd with
    | some index =>
        .ok
          { epoll.closeUp (epoll.count - 1 - index) index with
            count := epoll.count - 1 }
    | none => .error .enoent
  else if op = epollCtlMod then
    match epoll.find watch.fd with
    | some index =>
        .ok
          { epoll with
            watchedEvents :=
              Function.update epoll.watchedEvents index watch.events
            watchedData := Function.update epoll.watchedData index watch.data }
    | none => .error .enoent
  else
    .error .einval

end EpollState

/-- The checks of `epoll_ctl`, up to the set and the watch it is about. -/
def epollRequest (call : EpollCtl) : Sys (Nat × Watch) := do
  let fd ← fdSnapshot call.epfd
  if fd.kind ≠ .epoll then
    Prog.fail .einval
  else if call.targetFd = call.epfd then
    Prog.fail .einval
  else do
    let _ ← fdSnapshot call.targetFd
    if call.op = epollCtlAdd ∨ call.op = epollCtlMod then
      match call.event with
      | some (events, data) => pure (fd.id, ⟨call.targetFd, events, data⟩)
      | none => Prog.fail .efault
    else
      pure (fd.id, ⟨call.targetFd, 0, 0⟩)

/-- `epoll_ctl_impl` -/
def epollCtl (call : EpollCtl) : ObjectSys Unit := do
  let (id, watch) ← onFiles (epollRequest call)
  let epoll ← Prog.gets fun state => state.epolls id
  if epoll.used = false then
    Prog.fail .ebadf
  else
    match epoll.ctl call.op watch with
    | .ok changed => Prog.modify (ObjectState.putEpoll id changed)
    | .error error => Prog.fail error

/-! ## Lists of watches -/

/-- The place of a descriptor in a list of watches. -/
def placeOf (watches : List Watch) (fd : Int) : Option Nat :=
  watches.findIdx? fun watch => watch.fd == fd

/-- The operations on a list of watches. -/
def watchCtl (op : UInt64) (watch : Watch) (watches : List Watch) :
    Except Errno (List Watch) :=
  if op = epollCtlAdd then
    if watches.length ≥ epollEventsMax then
      .error .enospc
    else if (placeOf watches watch.fd).isSome then
      .error .eexist
    else
      .ok (watches ++ [watch])
  else if op = epollCtlDel then
    match placeOf watches watch.fd with
    | some place => .ok (watches.eraseIdx place)
    | none => .error .enoent
  else if op = epollCtlMod then
    match placeOf watches watch.fd with
    | some place => .ok (watches.set place watch)
    | none => .error .enoent
  else
    .error .einval

/-- `epoll_ctl` on the lists of all sets, where descriptors and marks stay. -/
def listsCtl (start : ObjectState) (call : EpollCtl) :
    Prog (Nat → List Watch) Errno Unit :=
  fun lists =>
    match epollRequest call start.toState with
    | .ok (id, watch) _ =>
        if (start.epolls id).used = false then
          .err .ebadf lists
        else
          match watchCtl call.op watch (lists id) with
          | .ok watches => .ok () (Function.update lists id watches)
          | .error error => .err error lists
    | .err error _ => .err error lists
    | .hang => .hang

namespace EpollState

/-- The list of an orderly set. -/
structure Lists (epoll : EpollState) (watches : List Watch) : Prop where
  count : epoll.count = watches.length
  watch :
    ∀ index,
      index < watches.length →
      watches[index]? = some (epoll.watch index)
  once : (watches.map Watch.fd).Nodup
  short : watches.length ≤ epollEventsMax

variable
  {epoll : EpollState}
  {watches : List Watch}

theorem watch_setWatch
    (index other : Nat)
    (watch : Watch)
    (epoll : EpollState) :
    (epoll.setWatch index watch).watch other =
      if other = index then watch else epoll.watch other := by
  unfold EpollState.watch setWatch
  by_cases same : other = index
  · rw [if_pos same, same]
    simp
  · rw [if_neg same]
    simp [same]

/-- Closing up moves the entries behind an index down by one. -/
theorem watch_closeUp
    (left index other : Nat)
    (epoll : EpollState) :
    (epoll.closeUp left index).watch other =
      if index ≤ other ∧ other < index + left then
        epoll.watch (other + 1)
      else
        epoll.watch other := by
  induction left generalizing index epoll with
  | zero =>
      rw [closeUp, if_neg (by omega)]
  | succ left inductionHypothesis =>
      rw [closeUp, inductionHypothesis, watch_setWatch, watch_setWatch]
      by_cases here : other = index
      · rw [if_neg (by omega), if_pos here, if_pos (by omega), here]
      · by_cases behind : index ≤ other ∧ other < index + (left + 1)
        · rw [if_pos (by omega), if_neg (by omega), if_pos behind]
        · rw [if_neg (by omega), if_neg here, if_neg behind]

theorem used_closeUp
    (left index : Nat)
    (epoll : EpollState) :
    (epoll.closeUp left index).used = epoll.used := by
  induction left generalizing index epoll with
  | zero => rfl
  | succ left inductionHypothesis => exact inductionHypothesis _ _

namespace Lists

variable (lists : epoll.Lists watches)

include lists

/-- The loop finds a descriptor where the list has it. -/
theorem find_eq (fd : Int) :
    epoll.find fd = placeOf watches fd := by
  have entry :
      ∀ index (inside : index < watches.length),
        (watches[index].fd == fd) = (epoll.watchedFds index == fd) := by
    intro index inside
    have same := lists.watch index inside
    rw [List.getElem?_eq_getElem inside, Option.some.injEq] at same
    rw [same]
    rfl
  apply Option.ext
  intro place
  unfold find placeOf
  rw [lists.count, List.find?_range_eq_some, List.findIdx?_eq_some_iff_getElem,
    List.mem_range]
  constructor
  · rintro ⟨isFd, inside, before⟩
    refine ⟨inside, (entry place inside).trans isFd, fun index below => ?_⟩
    rw [entry index (by omega)]
    simpa using before index below
  · rintro ⟨inside, isFd, before⟩
    refine ⟨(entry place inside).symm.trans isFd, inside, fun index below => ?_⟩
    rw [← entry index (by omega)]
    simpa using before index below

theorem place_spec
    {fd : Int}
    {place : Nat}
    (found : placeOf watches fd = some place) :
    place < watches.length ∧ (epoll.watch place).fd = fd := by
  obtain ⟨inside, isFd, _⟩ := List.findIdx?_eq_some_iff_getElem.mp found
  have same := lists.watch place inside
  rw [List.getElem?_eq_getElem inside, Option.some.injEq] at same
  rw [same] at isFd
  exact ⟨inside, beq_iff_eq.mp isFd⟩

theorem add
    {watch : Watch}
    (isNew : placeOf watches watch.fd = none)
    (room : watches.length < epollEventsMax) :
    Lists { epoll.setWatch epoll.count watch with count := epoll.count + 1 }
      (watches ++ [watch]) where
  count := by rw [List.length_append, List.length_singleton, lists.count]
  watch index inside := by
    refine Eq.trans ?_ (congrArg some (watch_setWatch _ index watch epoll).symm)
    rw [List.length_append, List.length_singleton] at inside
    by_cases atEnd : index = epoll.count
    · rw [if_pos atEnd, atEnd, lists.count]
      simp
    · have below : index < watches.length := by
        rw [lists.count] at atEnd
        omega
      rw [if_neg atEnd, List.getElem?_append_left below, lists.watch index below]
  once := by
    rw [List.map_append, List.map_singleton]
    refine List.Nodup.append lists.once (List.nodup_singleton _) ?_
    rw [List.disjoint_singleton]
    intro member
    obtain ⟨other, isOther, sameFd⟩ := List.mem_map.mp member
    have passed := List.findIdx?_eq_none_iff.mp isNew other isOther
    rw [sameFd, beq_self_eq_true] at passed
    cases passed
  short := by
    rw [List.length_append, List.length_singleton]
    exact room

theorem del
    {place : Nat}
    (inside : place < watches.length) :
    Lists
      { epoll.closeUp (epoll.count - 1 - place) place with
        count := epoll.count - 1 }
      (watches.eraseIdx place) where
  count := by rw [List.length_eraseIdx_of_lt inside, lists.count]
  watch index below := by
    rw [List.length_eraseIdx_of_lt inside] at below
    refine
      Eq.trans ?_ (congrArg some (watch_closeUp _ place index epoll).symm)
    rw [List.getElem?_eraseIdx, lists.count]
    by_cases before : index < place
    · rw [if_pos before, if_neg (by omega), lists.watch index (by omega)]
    · rw [if_neg before, if_pos (by omega), lists.watch _ (by omega)]
  once := lists.once.sublist ((List.eraseIdx_sublist _ _).map _)
  short := (List.eraseIdx_sublist _ _).length_le.trans lists.short

theorem mod
    {place : Nat}
    {watch : Watch}
    (inside : place < watches.length)
    (isFd : (epoll.watch place).fd = watch.fd) :
    Lists
      { epoll with
        watchedEvents := Function.update epoll.watchedEvents place watch.events
        watchedData := Function.update epoll.watchedData place watch.data }
      (watches.set place watch) where
  count := by rw [List.length_set, lists.count]
  watch index below := by
    rw [List.length_set] at below
    by_cases same : index = place
    · subst same
      rw [List.getElem?_set_self inside]
      simp only [EpollState.watch, Function.update_self] at isFd ⊢
      rw [isFd]
    · rw [List.getElem?_set_ne (Ne.symm same), lists.watch index below]
      simp [EpollState.watch, same]
  once := by
    have fds : (watches.set place watch).map Watch.fd = watches.map Watch.fd := by
      have here := lists.watch place inside
      rw [List.getElem?_eq_getElem inside, Option.some.injEq] at here
      rw [List.map_set, ← isFd, ← here, ← List.getElem_map Watch.fd,
        List.set_getElem_self]
      rwa [List.length_map]
    rw [fds]
    exact lists.once
  short := by
    rw [List.length_set]
    exact lists.short

/-- An operation on an orderly set is the one on its list. -/
theorem ctl_follows
    (op : UInt64)
    (watch : Watch) :
    (∃ changed after,
      epoll.ctl op watch = .ok changed ∧
        watchCtl op watch watches = .ok after ∧
        changed.used = epoll.used ∧
        changed.Lists after) ∨
    ∃ error,
      epoll.ctl op watch = .error error ∧
        watchCtl op watch watches = .error error := by
  unfold ctl watchCtl
  rw [lists.find_eq, lists.count]
  by_cases isAdd : op = epollCtlAdd
  · rw [if_pos isAdd, if_pos isAdd]
    by_cases full : watches.length ≥ epollEventsMax
    · rw [if_pos full, if_pos full]
      exact .inr ⟨_, rfl, rfl⟩
    rw [if_neg full, if_neg full]
    cases found : placeOf watches watch.fd with
    | some place => exact .inr ⟨_, rfl, rfl⟩
    | none =>
        rw [← lists.count]
        exact .inl ⟨_, _, rfl, rfl, rfl, lists.add found (by omega)⟩
  rw [if_neg isAdd, if_neg isAdd]
  by_cases isDel : op = epollCtlDel
  · rw [if_pos isDel, if_pos isDel]
    cases found : placeOf watches watch.fd with
    | some place =>
        rw [← lists.count]
        exact
          .inl ⟨_, _, rfl, rfl, used_closeUp _ _ _,
            lists.del (lists.place_spec found).1⟩
    | none => exact .inr ⟨_, rfl, rfl⟩
  rw [if_neg isDel, if_neg isDel]
  by_cases isMod : op = epollCtlMod
  · rw [if_pos isMod, if_pos isMod]
    cases found : placeOf watches watch.fd with
    | some place =>
        obtain ⟨inside, isFd⟩ := lists.place_spec found
        rw [← lists.count]
        exact .inl ⟨_, _, rfl, rfl, rfl, lists.mod inside isFd⟩
    | none => exact .inr ⟨_, rfl, rfl⟩
  · rw [if_neg isMod, if_neg isMod]
    exact .inr ⟨_, rfl, rfl⟩

end Lists

end EpollState

/-! ## Runs -/

/-- The sets are as their lists, and all else is as at the start. -/
structure ListsSets
    (start state : ObjectState)
    (lists : Nat → List Watch) : Prop where
  files : state.toState = start.toState
  used : ∀ id, (state.epolls id).used = (start.epolls id).used
  sets : ∀ id, (state.epolls id).Lists (lists id)

theorem fdSnapshot_readOnly
    (fdNumber : Int) :
    Prog.ReadOnly (fdSnapshot fdNumber) :=
  .ite (.fail _) (.bind (.gets _) fun _ => .ite (.pure _) (.fail _))

theorem epollRequest_readOnly
    (call : EpollCtl) :
    Prog.ReadOnly (epollRequest call) := by
  refine .bind (fdSnapshot_readOnly _) fun fd => .ite (.fail _) (.ite (.fail _) ?_)
  refine .bind (fdSnapshot_readOnly _) fun _ => .ite ?_ (.pure _)
  cases call.event with
  | some event => exact .pure _
  | none => exact .fail _

theorem ListsSets.put
    {start state : ObjectState}
    {lists : Nat → List Watch}
    (listed : ListsSets start state lists)
    {id : Nat}
    {changed : EpollState}
    {after : List Watch}
    (sameUsed : changed.used = (state.epolls id).used)
    (changedLists : changed.Lists after) :
    ListsSets start (state.putEpoll id changed)
      (Function.update lists id after) where
  files := listed.files
  used other := by
    change (Function.update state.epolls id changed other).used = _
    by_cases same : other = id
    · rw [same, Function.update_self, sameUsed, listed.used]
    · rw [Function.update_of_ne same, listed.used]
  sets other := by
    change (Function.update state.epolls id changed other).Lists _
    by_cases same : other = id
    · rw [same, Function.update_self, Function.update_self]
      exact changedLists
    · rw [Function.update_of_ne same, Function.update_of_ne same]
      exact listed.sets other

/-- A call does to the sets what it does to their lists. -/
theorem ListsSets.ctl_follows
    {start state : ObjectState}
    {lists : Nat → List Watch}
    (listed : ListsSets start state lists)
    (call : EpollCtl) :
    Outcome.Related (ListsSets start) (epollCtl call state)
      (listsCtl start call lists) := by
  have asked :
      onFiles (epollRequest call) state =
        match epollRequest call start.toState with
        | .ok request _ => .ok request state
        | .err error _ => .err error state
        | .hang => .hang := by
    unfold onFiles Prog.onPart
    rw [listed.files]
    cases result : epollRequest call start.toState with
    | ok request final =>
        rw [(epollRequest_readOnly call).1 result, ← listed.files]
    | err error final =>
        rw [(epollRequest_readOnly call).2 result, ← listed.files]
    | hang => rfl
  unfold epollCtl listsCtl
  cases result : epollRequest call start.toState with
  | ok request final =>
      obtain ⟨id, watch⟩ := request
      rw [result] at asked
      rw [Prog.bind_of_ok asked]
      simp only [Prog.gets_bind_apply, listed.used id]
      by_cases unused : (start.epolls id).used = false
      · rw [if_pos unused, if_pos unused]
        exact .err _ listed
      rw [if_neg unused, if_neg unused]
      rcases (listed.sets id).ctl_follows call.op watch with
        ⟨changed, after, onArrays, onList, sameUsed, changedLists⟩ |
          ⟨error, onArrays, onList⟩
      · rw [onArrays, onList]
        exact .ok () (listed.put sameUsed changedLists)
      · rw [onArrays, onList]
        exact .err error listed
  | err error final =>
      rw [result] at asked
      rw [Prog.bind_of_err asked]
      exact .err error listed
  | hang =>
      rw [result] at asked
      rw [Prog.bind_of_hang asked]
      exact .hang

/--
In every run of `epoll_ctl`, each call answers as the operation on the list of its set
does, and the arrays of every set stay that list, with at most 64 watches and none twice.
-/
theorem epollCtl_follows
    {start state : ObjectState}
    {lists : Nat → List Watch}
    (listed : ListsSets start state lists)
    (calls : List EpollCtl) :
    Follows (ListsSets start) epollCtl (listsCtl start) calls state lists := by
  induction calls generalizing state lists with
  | nil => trivial
  | cons call rest inductionHypothesis =>
      have follows := listed.ctl_follows call
      exact
        ⟨follows, fun _ _ ended otherEnded =>
          inductionHypothesis (follows.final ended otherEnded)⟩

/-- A fresh process with an epoll set, as descriptor 3. -/
def epollMade : ObjectState :=
  (epollAlloc 0 ObjectState.booted).final?.getD ObjectState.booted

/-- Descriptor 0, for input, is added to the set. -/
theorem epollCtl_follows_add :
    ∃ final,
      epollCtl ⟨3, epollCtlAdd, 0, some (1, 7)⟩ epollMade = .ok () final ∧
        (final.epolls 0).Lists [⟨0, 1, 7⟩] := by
  have listed : ListsSets epollMade epollMade fun _ => [] := by
    refine
      ⟨rfl, fun _ => rfl, fun id =>
        ⟨?_, fun _ inside => absurd inside (Nat.not_lt_zero _), List.nodup_nil,
          by decide⟩⟩
    by_cases isFirst : id = 0
    · rw [isFirst]
      rfl
    · have others : epollMade.epolls id = EpollState.empty :=
        Function.update_of_ne isFirst _ _
      rw [others]
      rfl
  obtain ⟨follows, _⟩ :=
    epollCtl_follows listed [⟨3, epollCtlAdd, 0, some (1, 7)⟩]
  have added :
      listsCtl epollMade ⟨3, epollCtlAdd, 0, some (1, 7)⟩ (fun _ => []) =
        .ok () (Function.update (fun _ => []) 0 [⟨0, 1, 7⟩]) :=
    rfl
  rw [added] at follows
  generalize result :
    epollCtl ⟨3, epollCtlAdd, 0, some (1, 7)⟩ epollMade = outcome at follows
  cases follows with
  | ok _ related =>
      exact ⟨_, rfl, related.sets 0⟩

end VibuxOS.Files
