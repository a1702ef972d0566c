import Mathlib.Data.List.Nodup
import StationLink.Proofs.SortedMap
import StationLink.TimerQueue

namespace StationLink

/-- What is due earlier has its turn first, and of what is due at once what was linked first. -/
theorem Turn.lt_iff
    {one other : Turn} :
    one < other ↔
      one.expires < other.expires ∨
        (one.expires = other.expires ∧ one.linking < other.linking) :=
  Iff.rfl

/-- Turns are totally ordered. -/
instance : IsStrictTotalOrder Turn (· < ·) where
  irrefl one := by
    rw [Turn.lt_iff]
    omega
  trans one other third := by
    simp only [Turn.lt_iff]
    omega
  trichotomous := by
    rintro ⟨expires, linking⟩ ⟨otherExpires, otherLinking⟩
    simp only [Turn.lt_iff, Turn.mk.injEq]
    omega

namespace TimerQueue

open AssociationList

/-!
# What a timer queue holds

Every operation is described by what is found under each handle afterwards.

`WellFormed` says that handles are given out once and that the schedule lists
exactly the linked timers, each by its turn. Every operation keeps that, so that
nothing is handed over but timers that are due, and all of these
(`WellFormed.mem_dueHandles_iff`).
-/

variable {α : Type}

/--
No handle was given out twice, the next one has not been given out, and the
schedule lists the linked timers by growing turns.
-/
structure WellFormed (queue : TimerQueue α) : Prop where
  nodup : (queue.timers.map (·.1)).Nodup
  lt_nextHandle : ∀ entry ∈ queue.timers, entry.1 < queue.nextHandle
  growing : queue.schedule.Growing
  scheduled :
    ∀ turn handle, queue.schedule.get? turn = some handle ↔
      ∃ timer, queue.get? handle = some timer ∧ timer.linked = true ∧ timer.turn = turn
  lt_nextLinking :
    ∀ {handle timer}, queue.get? handle = some timer →
      timer.linked = true → timer.linking < queue.nextLinking

/-- A timer is linked if it is there and says so. -/
theorem isLinked_eq
    (queue : TimerQueue α)
    (handle : TimerHandle) :
    queue.isLinked handle = (queue.get? handle).any (·.linked) := by
  unfold isLinked
  cases queue.get? handle <;> rfl

/-! ## What is found after an operation -/

/-- A change of a timer changes what is found under its handle only. -/
theorem get?_modify
    (queue : TimerQueue α)
    (handle other : TimerHandle)
    (change : Timer α → Timer α) :
    (queue.modify handle change).get? other =
      if other = handle then
        (queue.get? other).map change
      else
        queue.get? other := by
  have pointwise :
      (queue.modify handle change).timers =
        queue.timers.map fun entry =>
          (entry.1, if entry.1 = handle then change entry.2 else entry.2) := by
    apply List.map_congr_left
    intro entry _
    split <;> rfl
  rw [get?, pointwise, lookup_map_value fun key timer =>
    if key = handle then change timer else timer]
  by_cases same : other = handle
  · simp [same, get?]
  · simp [same, get?]

/-- A timer that is unlinked is detached, if there is one. -/
theorem get?_unlink
    (queue : TimerQueue α)
    (handle other : TimerHandle) :
    (queue.unlink handle).1.get? other =
      if other = handle then
        (queue.get? other).map Timer.detached
      else
        queue.get? other := by
  unfold unlink
  cases found : queue.get? handle with
  | none =>
      by_cases same : other = handle
      · simp [same, found]
      · simp [same]
  | some timer =>
      cases linked : timer.linked with
      | true =>
          simp only [linked, if_true]
          exact get?_modify queue handle other Timer.detached
      | false =>
          have isDetached : timer.detached = timer := by
            simp [Timer.detached, ← linked]
          by_cases same : other = handle
          · simp [same, found, linked, isDetached]
          · simp [same, linked]

/-- The timer is linked as the latest one, if there is one. -/
theorem get?_change
    (queue : TimerQueue α)
    (handle other : TimerHandle)
    (expires : Nat) :
    (queue.change handle expires).1.get? other =
      if other = handle then
        (queue.get? other).map (·.relinked expires queue.nextLinking)
      else
        queue.get? other := by
  unfold change
  cases found : queue.get? handle with
  | none =>
      by_cases same : other = handle
      · simp [same, found]
      · simp [same]
  | some timer =>
      exact get?_modify queue handle other (·.relinked expires queue.nextLinking)

/-- A linked timer is left alone and a detached one is linked as the latest one. -/
theorem get?_insert
    (queue : TimerQueue α)
    (handle other : TimerHandle)
    (expires : Nat) :
    (queue.insert handle expires).1.get? other =
      if other = handle then
        (queue.get? other).map fun timer =>
          if timer.linked then timer else timer.relinked expires queue.nextLinking
      else
        queue.get? other := by
  unfold insert
  by_cases same : other = handle
  · subst other
    cases found : queue.get? handle with
    | none =>
        simp [found]
    | some timer =>
        by_cases linked : timer.linked
        · simp [linked, found]
        · simp [linked, get?_change, found]
  · cases found : queue.get? handle with
    | none =>
        simp [same]
    | some timer =>
        by_cases linked : timer.linked
        · simp [same, linked]
        · simp [same, linked, get?_change]

/-- Nothing is found under the handle of a timer that was given up. -/
theorem get?_cancel
    (queue : TimerQueue α)
    (handle other : TimerHandle) :
    (queue.cancel handle).1.get? other =
      if other = handle then none else queue.get? other := by
  have found := lookup_filter_ne (queue.unlink handle).1.timers handle other
  have unlinked := get?_unlink queue handle other
  by_cases same : other = handle
  · rw [if_pos same] at found ⊢
    exact found
  · rw [if_neg same] at found unlinked ⊢
    exact found.trans unlinked

/-! ## Handles are given out once and the schedule lists the linked timers -/

@[simp] theorem handles_modify
    (queue : TimerQueue α)
    (handle : TimerHandle)
    (change : Timer α → Timer α) :
    (queue.modify handle change).timers.map (·.1) = queue.timers.map (·.1) := by
  simp only [modify, List.map_map]
  apply List.map_congr_left
  intro entry _
  simp only [Function.comp_apply]
  split <;> rfl

/-- Linking a timer gives out no handle and takes none back. -/
theorem handles_change
    (queue : TimerQueue α)
    (handle : TimerHandle)
    (expires : Nat) :
    (queue.change handle expires).1.timers.map (·.1) = queue.timers.map (·.1) := by
  unfold change
  split
  · exact handles_modify queue handle (·.relinked expires queue.nextLinking)
  · rfl

theorem nextHandle_unlink
    (queue : TimerQueue α)
    (handle : TimerHandle) :
    (queue.unlink handle).1.nextHandle = queue.nextHandle := by
  unfold unlink
  split
  · split <;> rfl
  · rfl

theorem nextLinking_unlink
    (queue : TimerQueue α)
    (handle : TimerHandle) :
    (queue.unlink handle).1.nextLinking = queue.nextLinking := by
  unfold unlink
  split
  · split <;> rfl
  · rfl

theorem nextHandle_change
    (queue : TimerQueue α)
    (handle : TimerHandle)
    (expires : Nat) :
    (queue.change handle expires).1.nextHandle = queue.nextHandle := by
  unfold change
  split <;> rfl

theorem nextHandle_insert
    (queue : TimerQueue α)
    (handle : TimerHandle)
    (expires : Nat) :
    (queue.insert handle expires).1.nextHandle = queue.nextHandle := by
  unfold insert
  split
  · split
    · rfl
    · exact nextHandle_change queue handle expires
  · rfl

theorem nextHandle_cancel
    (queue : TimerQueue α)
    (handle : TimerHandle) :
    (queue.cancel handle).1.nextHandle = queue.nextHandle :=
  nextHandle_unlink queue handle

/-- Every linking of a timer is counted. -/
theorem nextLinking_change
    {queue : TimerQueue α}
    {handle : TimerHandle}
    {timer : Timer α}
    (found : queue.get? handle = some timer)
    (expires : Nat) :
    (queue.change handle expires).1.nextLinking = queue.nextLinking + 1 := by
  simp only [change, found]

/-- A timer that is linked anew has lost its turn and gets the one of the next linking. -/
theorem schedule_change
    {queue : TimerQueue α}
    {handle : TimerHandle}
    {timer : Timer α}
    (found : queue.get? handle = some timer)
    (expires : Nat) :
    (queue.change handle expires).1.schedule =
      (if timer.linked then queue.schedule.erase timer.turn else queue.schedule).insert
        { expires, linking := queue.nextLinking } handle := by
  simp only [change, found]

namespace WellFormed

variable {queue : TimerQueue α}

/-- The next handle has not been given out. -/
theorem get?_nextHandle
    (wellFormed : queue.WellFormed) :
    queue.get? queue.nextHandle = none := by
  cases found : queue.get? queue.nextHandle with
  | none =>
      rfl
  | some timer =>
      have isOld := wellFormed.lt_nextHandle _ (mem_of_lookup found)
      exact (Nat.lt_irrefl _ isOld).elim

/-- Only the new handle leads to something else after a timer was allocated. -/
theorem get?_alloc
    (wellFormed : queue.WellFormed)
    (now : Nat)
    (data : α)
    (other : TimerHandle) :
    (queue.alloc now data).1.get? other =
      if other = queue.nextHandle then
        some { expires := now, linking := 0, linked := false, data }
      else
        queue.get? other := by
  have fresh := wellFormed.get?_nextHandle
  simp only [get?] at fresh
  simp only [get?, alloc, List.lookup_append, lookup_cons_eq_ite, List.lookup_nil]
  by_cases isNew : other = queue.nextHandle
  · simp [isNew, fresh]
  · simp [isNew]

/-- Two linked timers do not have the same turn. -/
theorem eq_of_sameTurn
    (wellFormed : queue.WellFormed)
    {one other : TimerHandle}
    {first second : Timer α}
    (foundFirst : queue.get? one = some first)
    (foundSecond : queue.get? other = some second)
    (firstLinked : first.linked = true)
    (secondLinked : second.linked = true)
    (sameTurn : first.turn = second.turn) :
    one = other := by
  have listed := (wellFormed.scheduled _ _).mpr ⟨first, foundFirst, firstLinked, sameTurn⟩
  have alsoListed := (wellFormed.scheduled _ _).mpr ⟨second, foundSecond, secondLinked, rfl⟩
  exact Option.some.inj (listed.symm.trans alsoListed)

/-- The schedule without a timer that may be linked lists the other linked timers. -/
theorem scheduled_others
    (wellFormed : queue.WellFormed)
    {handle : TimerHandle}
    {timer : Timer α}
    (found : queue.get? handle = some timer)
    (turn : Turn)
    (other : TimerHandle) :
    (if timer.linked then queue.schedule.erase timer.turn else queue.schedule).get? turn =
        some other ↔
      other ≠ handle ∧
        ∃ timer, queue.get? other = some timer ∧ timer.linked = true ∧ timer.turn = turn := by
  cases linked : timer.linked with
  | true =>
      rw [if_pos rfl, SortedMap.get?_erase]
      by_cases isOwn : turn = timer.turn
      · rw [if_pos isOwn]
        refine ⟨nofun, ?_⟩
        rintro ⟨isOther, second, foundSecond, secondLinked, hasTurn⟩
        exact (isOther (wellFormed.eq_of_sameTurn foundSecond found secondLinked linked
          (hasTurn.trans isOwn))).elim
      · rw [if_neg isOwn, wellFormed.scheduled]
        refine ⟨fun listed => ⟨?_, listed⟩, And.right⟩
        rintro rfl
        obtain ⟨second, foundSecond, _, hasTurn⟩ := listed
        cases found.symm.trans foundSecond
        exact isOwn hasTurn.symm
  | false =>
      rw [if_neg Bool.false_ne_true, wellFormed.scheduled]
      refine ⟨fun listed => ⟨?_, listed⟩, And.right⟩
      rintro rfl
      obtain ⟨second, foundSecond, secondLinked, _⟩ := listed
      cases found.symm.trans foundSecond
      rw [linked] at secondLinked
      cases secondLinked

/-- Changes that give out no handle and take none back keep handles given out once. -/
theorem of_sameHandles
    {other : TimerQueue α}
    (wellFormed : queue.WellFormed)
    (sameHandles : other.timers.map (·.1) = queue.timers.map (·.1))
    (sameNext : other.nextHandle = queue.nextHandle)
    (growing : other.schedule.Growing)
    (scheduled :
      ∀ turn handle, other.schedule.get? turn = some handle ↔
        ∃ timer, other.get? handle = some timer ∧ timer.linked = true ∧ timer.turn = turn)
    (lt_nextLinking :
      ∀ {handle timer}, other.get? handle = some timer →
        timer.linked = true → timer.linking < other.nextLinking) :
    other.WellFormed := by
  refine ⟨?_, ?_, growing, scheduled, lt_nextLinking⟩
  · rw [sameHandles]
    exact wellFormed.nodup
  · intro entry member
    have known : entry.1 ∈ queue.timers.map (·.1) := by
      rw [← sameHandles]
      exact List.mem_map_of_mem member
    obtain ⟨old, oldMember, sameHandle⟩ := List.mem_map.mp known
    rw [sameNext, ← sameHandle]
    exact wellFormed.lt_nextHandle old oldMember

theorem empty : (TimerQueue.empty : TimerQueue α).WellFormed where
  nodup := List.nodup_nil
  lt_nextHandle := nofun
  growing := .empty
  scheduled := fun _ _ => ⟨nofun, nofun⟩
  lt_nextLinking := nofun

/-- Detaching a timer keeps a queue well-formed. -/
theorem unlink
    (wellFormed : queue.WellFormed)
    (handle : TimerHandle) :
    (queue.unlink handle).1.WellFormed := by
  have after := get?_unlink queue handle
  unfold TimerQueue.unlink at after ⊢
  cases found : queue.get? handle with
  | none =>
      exact wellFormed
  | some timer =>
      cases linked : timer.linked with
      | false =>
          simpa [linked] using wellFormed
      | true =>
          simp only [found, linked, if_true] at after ⊢
          apply wellFormed.of_sameHandles
          · exact handles_modify queue handle Timer.detached
          · rfl
          · exact wellFormed.growing.erase timer.turn
          · intro turn other
            have others := wellFormed.scheduled_others found turn other
            rw [linked, if_pos rfl] at others
            rw [others, after]
            by_cases same : other = handle
            · simp [same, found, Timer.detached]
            · simp [same]
          · intro other second foundSecond secondLinked
            rw [after] at foundSecond
            split at foundSecond
            · obtain ⟨_, _, rfl⟩ := Option.map_eq_some_iff.mp foundSecond
              cases secondLinked
            · exact wellFormed.lt_nextLinking foundSecond secondLinked

/-- A timer that is linked anew is entered under the turn of the next linking. -/
theorem scheduled_change
    (wellFormed : queue.WellFormed)
    {handle : TimerHandle}
    {timer : Timer α}
    (found : queue.get? handle = some timer)
    (expires : Nat)
    (turn : Turn)
    (other : TimerHandle) :
    (queue.change handle expires).1.schedule.get? turn = some other ↔
      ∃ second, (queue.change handle expires).1.get? other = some second ∧
        second.linked = true ∧ second.turn = turn := by
  rw [schedule_change found, SortedMap.get?_insert, get?_change]
  by_cases isNew : turn = { expires, linking := queue.nextLinking }
  · rw [if_pos isNew, isNew]
    by_cases same : other = handle
    · simp [same, found, Timer.relinked, Timer.turn]
    · rw [if_neg same]
      refine ⟨fun isHandle => (same (Option.some.inj isHandle).symm).elim, ?_⟩
      rintro ⟨second, foundSecond, secondLinked, hasTurn⟩
      -- No timer that is linked already has the turn of the new linking.
      have isOlder := wellFormed.lt_nextLinking foundSecond secondLinked
      exact (Nat.ne_of_lt isOlder (congrArg Turn.linking hasTurn)).elim
  · rw [if_neg isNew, wellFormed.scheduled_others found turn other]
    by_cases same : other = handle
    · rw [if_pos same]
      refine ⟨fun isOther => (isOther.1 same).elim, ?_⟩
      rintro ⟨second, foundSecond, _, hasTurn⟩
      obtain ⟨_, _, rfl⟩ := Option.map_eq_some_iff.mp foundSecond
      exact (isNew hasTurn.symm).elim
    · rw [if_neg same]
      exact ⟨And.right, fun listed => ⟨same, listed⟩⟩

/-- Linking a timer keeps a queue well-formed. -/
theorem change
    (wellFormed : queue.WellFormed)
    (handle : TimerHandle)
    (expires : Nat) :
    (queue.change handle expires).1.WellFormed := by
  cases found : queue.get? handle with
  | none =>
      simpa only [TimerQueue.change, found] using wellFormed
  | some timer =>
      apply wellFormed.of_sameHandles
      · exact handles_change queue handle expires
      · exact nextHandle_change queue handle expires
      · rw [schedule_change found]
        apply SortedMap.Growing.insert
        split
        · exact wellFormed.growing.erase timer.turn
        · exact wellFormed.growing
      · exact wellFormed.scheduled_change found expires
      · intro other second foundSecond secondLinked
        rw [nextLinking_change found]
        rw [get?_change] at foundSecond
        split at foundSecond
        · obtain ⟨_, _, rfl⟩ := Option.map_eq_some_iff.mp foundSecond
          exact Nat.lt_succ_self _
        · exact Nat.lt_succ_of_lt (wellFormed.lt_nextLinking foundSecond secondLinked)

/-- Linking a detached timer keeps a queue well-formed. -/
theorem insert
    (wellFormed : queue.WellFormed)
    (handle : TimerHandle)
    (expires : Nat) :
    (queue.insert handle expires).1.WellFormed := by
  unfold TimerQueue.insert
  split
  · split
    · exact wellFormed
    · exact wellFormed.change handle expires
  · exact wellFormed

/-- Allocating a timer keeps a queue well-formed. -/
theorem alloc
    (wellFormed : queue.WellFormed)
    (now : Nat)
    (data : α) :
    (queue.alloc now data).1.WellFormed := by
  have sameLinked : ∀ handle timer, timer.linked = true →
      ((queue.alloc now data).1.get? handle = some timer ↔ queue.get? handle = some timer) := by
    intro handle timer linked
    rw [wellFormed.get?_alloc]
    split
    · next isNew =>
        rw [isNew, wellFormed.get?_nextHandle]
        refine ⟨fun found => ?_, nofun⟩
        rw [← Option.some.inj found] at linked
        cases linked
    · exact Iff.rfl
  constructor
  · simp only [TimerQueue.alloc, List.map_append, List.map_cons, List.map_nil]
    apply List.nodup_append.mpr
    refine ⟨wellFormed.nodup, by simp, ?_⟩
    intro old oldMember new newMember
    obtain ⟨entry, member, sameHandle⟩ := List.mem_map.mp oldMember
    have isOld := wellFormed.lt_nextHandle entry member
    rw [List.mem_singleton] at newMember
    rw [newMember, ← sameHandle]
    exact Nat.ne_of_lt isOld
  · intro entry member
    simp only [TimerQueue.alloc, List.mem_append, List.mem_singleton] at member ⊢
    rcases member with isOld | isNew
    · exact Nat.lt_succ_of_lt (wellFormed.lt_nextHandle entry isOld)
    · subst entry
      exact Nat.lt_succ_self _
  · exact wellFormed.growing
  · intro turn handle
    rw [show (queue.alloc now data).1.schedule = queue.schedule from rfl, wellFormed.scheduled]
    refine exists_congr fun timer => ?_
    constructor
    · rintro ⟨found, linked, hasTurn⟩
      exact ⟨(sameLinked handle timer linked).mpr found, linked, hasTurn⟩
    · rintro ⟨found, linked, hasTurn⟩
      exact ⟨(sameLinked handle timer linked).mp found, linked, hasTurn⟩
  · intro handle timer found linked
    exact wellFormed.lt_nextLinking ((sameLinked handle timer linked).mp found) linked

/-- Giving up a timer keeps a queue well-formed. -/
theorem cancel
    (wellFormed : queue.WellFormed)
    (handle : TimerHandle) :
    (queue.cancel handle).1.WellFormed := by
  have unlinked := wellFormed.unlink handle
  have sameLinked : ∀ other timer, timer.linked = true →
      ((queue.cancel handle).1.get? other = some timer ↔
        (queue.unlink handle).1.get? other = some timer) := by
    intro other timer linked
    rw [get?_cancel, get?_unlink]
    split
    · refine ⟨nofun, fun found => ?_⟩
      obtain ⟨_, _, rfl⟩ := Option.map_eq_some_iff.mp found
      cases linked
    · exact Iff.rfl
  constructor
  · exact unlinked.nodup.sublist (List.filter_sublist.map _)
  · intro entry member
    exact unlinked.lt_nextHandle entry (List.mem_filter.mp member).1
  · exact unlinked.growing
  · intro turn other
    refine (unlinked.scheduled turn other).trans (exists_congr fun timer => ?_)
    constructor
    · rintro ⟨found, linked, hasTurn⟩
      exact ⟨(sameLinked other timer linked).mpr found, linked, hasTurn⟩
    · rintro ⟨found, linked, hasTurn⟩
      exact ⟨(sameLinked other timer linked).mp found, linked, hasTurn⟩
  · intro other timer found linked
    exact unlinked.lt_nextLinking ((sameLinked other timer linked).mp found) linked

/-! ## The schedule -/

/-- The schedule holds the linked timers, each at the turn of its last linking. -/
theorem mem_schedule_iff
    (wellFormed : queue.WellFormed)
    (turn : Turn)
    (handle : TimerHandle) :
    (turn, handle) ∈ queue.schedule.entries ↔
      ∃ timer, queue.get? handle = some timer ∧ timer.linked = true ∧ timer.turn = turn := by
  rw [wellFormed.growing.mem_entries_iff, wellFormed.scheduled]

/-- A timer is linked exactly if it is somewhere in the schedule. -/
theorem exists_mem_schedule_iff
    (wellFormed : queue.WellFormed)
    {handle : TimerHandle}
    {timer : Timer α}
    (found : queue.get? handle = some timer) :
    (∃ turn, (turn, handle) ∈ queue.schedule.entries) ↔ timer.linked = true := by
  simp only [wellFormed.mem_schedule_iff]
  constructor
  · rintro ⟨_, other, foundOther, linked, _⟩
    cases found.symm.trans foundOther
    exact linked
  · exact fun linked => ⟨timer.turn, timer, found, linked, rfl⟩

/-- Nothing that is linked is due before the next expiry. -/
theorem exists_nextExpiry?_le
    (wellFormed : queue.WellFormed)
    {turn : Turn}
    {handle : TimerHandle}
    (listed : (turn, handle) ∈ queue.schedule.entries) :
    ∃ next, queue.nextExpiry? = some next ∧ next ≤ turn.expires := by
  have growing := wellFormed.growing
  unfold SortedMap.Growing at growing
  cases isSchedule : queue.schedule.entries with
  | nil =>
      rw [isSchedule] at listed
      cases listed
  | cons first rest =>
      rw [isSchedule] at growing listed
      refine ⟨first.1.expires, by simp [nextExpiry?, SortedMap.keys, isSchedule], ?_⟩
      rcases List.mem_cons.mp listed with isFirst | isLater
      · exact Nat.le_of_eq (congrArg (·.1.expires) isFirst.symm)
      · have before := Turn.lt_iff.mp ((List.pairwise_cons.mp growing).1 _ isLater)
        simp only at before
        omega

/-! ## Taking the timers that are due -/

/-- What is due stands in front of the schedule, and behind it what is not. -/
theorem schedule_takeWhile
    (wellFormed : queue.WellFormed)
    (now : Nat) :
    (queue.schedule.entries.takeWhile fun entry => entry.1.expires ≤ now) =
        (queue.schedule.entries.filter fun entry => entry.1.expires ≤ now) ∧
      (queue.schedule.entries.dropWhile fun entry => entry.1.expires ≤ now) =
        (queue.schedule.entries.filter fun entry => !decide (entry.1.expires ≤ now)) := by
  apply wellFormed.growing.takeWhile_eq_filter fun turn => decide (turn.expires ≤ now)
  intro one other before isDue
  rw [Turn.lt_iff] at before
  simp only [decide_eq_true_eq] at isDue ⊢
  omega

/-- No timer is in the schedule twice. -/
theorem nodup_scheduled
    (wellFormed : queue.WellFormed) :
    (queue.schedule.entries.map (·.2)).Nodup := by
  refine List.pairwise_map.mpr (wellFormed.growing.imp_of_mem ?_)
  rintro ⟨one, handle⟩ ⟨other, otherHandle⟩ isOne isOther before same
  simp only at same before
  subst same
  rw [wellFormed.mem_schedule_iff] at isOne isOther
  obtain ⟨first, foundFirst, _, rfl⟩ := isOne
  obtain ⟨second, foundSecond, _, rfl⟩ := isOther
  cases foundFirst.symm.trans foundSecond
  exact Std.Irrefl.irrefl (r := (· < ·)) _ before

/-- The timers in front of the schedule are those that are due. -/
theorem mem_dueHandles_iff
    (wellFormed : queue.WellFormed)
    (now : Nat)
    (handle : TimerHandle) :
    handle ∈ queue.dueHandles now ↔
      ∃ timer, queue.get? handle = some timer ∧ timer.isDue now = true := by
  simp only [dueHandles, (wellFormed.schedule_takeWhile now).1, List.mem_map, List.mem_filter,
    decide_eq_true_eq, Prod.exists]
  constructor
  · rintro ⟨turn, _, ⟨listed, isDue⟩, rfl⟩
    obtain ⟨timer, found, linked, rfl⟩ := (wellFormed.mem_schedule_iff turn _).mp listed
    exact ⟨timer, found, Bool.and_eq_true_iff.mpr ⟨linked, decide_eq_true isDue⟩⟩
  · rintro ⟨timer, found, isDue⟩
    obtain ⟨linked, hasExpired⟩ := Bool.and_eq_true_iff.mp isDue
    have listed := (wellFormed.mem_schedule_iff _ handle).mpr ⟨timer, found, linked, rfl⟩
    exact ⟨timer.turn, handle, ⟨listed, of_decide_eq_true hasExpired⟩, rfl⟩

/-- The timers that are due are detached and all others are left alone. -/
theorem get?_takeDue
    (wellFormed : queue.WellFormed)
    (now : Nat)
    (handle : TimerHandle) :
    (queue.takeDue now).2.get? handle =
      (queue.get? handle).map fun timer =>
        if timer.isDue now then timer.detached else timer := by
  have pointwise :
      (queue.takeDue now).2.timers =
        queue.timers.map fun entry =>
          (entry.1, if entry.1 ∈ queue.dueHandles now then entry.2.detached else entry.2) := by
    apply List.map_congr_left
    intro entry _
    split <;> rfl
  have changed := lookup_map_value
    (fun handle timer => if handle ∈ queue.dueHandles now then timer.detached else timer)
    queue.timers handle
  rw [get?, pointwise, changed]
  refine Option.map_congr fun timer found => ?_
  have isDue : handle ∈ queue.dueHandles now ↔ timer.isDue now = true := by
    rw [wellFormed.mem_dueHandles_iff]
    constructor
    · rintro ⟨other, foundOther, isDue⟩
      cases found.symm.trans foundOther
      exact isDue
    · exact fun isDue => ⟨timer, found, isDue⟩
  simp only [isDue]

/-- What is linked afterwards was linked before and is not due. -/
theorem get?_takeDue_of_linked
    (wellFormed : queue.WellFormed)
    (now : Nat)
    {handle : TimerHandle}
    {timer : Timer α}
    (linked : timer.linked = true) :
    (queue.takeDue now).2.get? handle = some timer ↔
      queue.get? handle = some timer ∧ ¬ timer.expires ≤ now := by
  rw [wellFormed.get?_takeDue, Option.map_eq_some_iff]
  constructor
  · rintro ⟨before, found, isTimer⟩
    split at isTimer
    · rw [← isTimer] at linked
      cases linked
    · next notDue =>
        subst isTimer
        simp only [Timer.isDue, linked, Bool.true_and, decide_eq_true_eq] at notDue
        exact ⟨found, notDue⟩
  · rintro ⟨found, notDue⟩
    exact ⟨timer, found, by simp [Timer.isDue, notDue]⟩

/-- Taking the timers that are due keeps a queue well-formed. -/
theorem takeDue
    (wellFormed : queue.WellFormed)
    (now : Nat) :
    (queue.takeDue now).2.WellFormed := by
  have entries : (queue.takeDue now).2.schedule.entries = _ :=
    (wellFormed.schedule_takeWhile now).2
  apply wellFormed.of_sameHandles
  · simp only [TimerQueue.takeDue, List.map_map]
    apply List.map_congr_left
    intro entry _
    simp only [Function.comp_apply]
    split <;> rfl
  · rfl
  · rw [SortedMap.Growing, entries]
    exact wellFormed.growing.sublist List.filter_sublist
  · intro turn handle
    have rest := lookup_filter_key queue.schedule.entries
      (fun turn => !decide (turn.expires ≤ now)) turn
    rw [SortedMap.get?, entries, rest]
    by_cases isDue : turn.expires ≤ now
    · simp only [isDue, decide_true, Bool.not_true, Bool.false_eq_true, if_false]
      refine ⟨nofun, ?_⟩
      rintro ⟨timer, found, linked, rfl⟩
      exact (((wellFormed.get?_takeDue_of_linked now linked).mp found).2 isDue).elim
    · simp only [isDue, decide_false, Bool.not_false, if_true]
      refine (wellFormed.scheduled turn handle).trans (exists_congr fun timer => ?_)
      constructor
      · rintro ⟨found, linked, rfl⟩
        exact ⟨(wellFormed.get?_takeDue_of_linked now linked).mpr ⟨found, isDue⟩, linked, rfl⟩
      · rintro ⟨found, linked, hasTurn⟩
        exact ⟨((wellFormed.get?_takeDue_of_linked now linked).mp found).1, linked, hasTurn⟩
  · intro handle timer found linked
    exact wellFormed.lt_nextLinking
      ((wellFormed.get?_takeDue_of_linked now linked).mp found).1 linked

/-- A timer that is due is handed over with its data. -/
theorem mem_due
    (wellFormed : queue.WellFormed)
    {now : Nat}
    {handle : TimerHandle}
    {timer : Timer α}
    (found : queue.get? handle = some timer)
    (isDue : timer.isDue now = true) :
    (handle, timer.data) ∈ (queue.takeDue now).1 := by
  refine List.mem_filterMap.mpr ⟨handle, ?_, by rw [found]; rfl⟩
  exact (wellFormed.mem_dueHandles_iff now handle).mpr ⟨timer, found, isDue⟩

/-- Only timers that are due are handed over. -/
theorem exists_of_mem_due
    (wellFormed : queue.WellFormed)
    {now : Nat}
    {handle : TimerHandle}
    {data : α}
    (member : (handle, data) ∈ (queue.takeDue now).1) :
    ∃ timer, queue.get? handle = some timer ∧ timer.isDue now = true ∧ timer.data = data := by
  obtain ⟨listed, isListed, isEntry⟩ := List.mem_filterMap.mp member
  obtain ⟨timer, found, isDue⟩ := (wellFormed.mem_dueHandles_iff now listed).mp isListed
  rw [found] at isEntry
  cases isEntry
  exact ⟨timer, found, isDue, rfl⟩

/-- No timer is handed over twice. -/
theorem nodup_due
    (wellFormed : queue.WellFormed)
    (now : Nat) :
    ((queue.takeDue now).1.map (·.1)).Nodup := by
  have nodup : (queue.dueHandles now).Nodup :=
    wellFormed.nodup_scheduled.sublist ((List.takeWhile_sublist _).map _)
  simp only [TimerQueue.takeDue, due, List.map_filterMap, Option.map_map]
  refine nodup.filterMap fun one other handle isOne isOther => ?_
  obtain ⟨_, _, sameOne⟩ := Option.map_eq_some_iff.mp isOne
  obtain ⟨_, _, sameOther⟩ := Option.map_eq_some_iff.mp isOther
  exact sameOne.trans sameOther.symm

end WellFormed

end TimerQueue

end StationLink
