import StationLink.Proofs.LinkHistories

namespace StationLink

/-!
# Timers that are handled too late

A sweep takes timers out of the queue before it handles them, and an interface may be
removed in between. It may also be registered again, and be made eligible again, before
the timer that it had is handled. Then it has a timer with another handle, because the
queue gives out every handle once (`LinkTable.nextHandle_le_perform`), and the old one is
ignored: nothing changes and nothing is done (`LinkTable.onTimer_of_removed`).
-/

/-! ## Handles are given out once -/

namespace LinkTable

section NextHandle

variable (table : LinkTable)

/-- The handle that the next timer is given. -/
def nextHandle : TimerHandle :=
  table.timers.nextHandle

@[simp] theorem nextHandle_set
    (id : InterfaceId)
    (record : LinkRecord) :
    (table.set id record).nextHandle = table.nextHandle :=
  rfl

@[simp] theorem nextHandle_setTimer
    (handle : TimerHandle)
    (expires : Nat) :
    (table.setTimer handle expires).nextHandle = table.nextHandle :=
  TimerQueue.nextHandle_change table.timers handle expires

@[simp] theorem nextHandle_stopTimer
    (handle : TimerHandle) :
    (table.stopTimer handle).nextHandle = table.nextHandle :=
  TimerQueue.nextHandle_unlink table.timers handle

@[simp] theorem nextHandle_resumeTimer
    (handle : TimerHandle)
    (expires : Nat) :
    (table.resumeTimer handle expires).nextHandle = table.nextHandle :=
  TimerQueue.nextHandle_insert table.timers handle expires

/-- Taking an interface down gives out no handle. -/
@[simp] theorem nextHandle_shut
    (id : InterfaceId) :
    (table.shut id).1.nextHandle = table.nextHandle := by
  unfold shut
  split <;> simp

@[simp] theorem nextHandle_shutPolitely
    (id : InterfaceId) :
    (table.shutPolitely id).1.nextHandle = table.nextHandle := by
  rw [← nextHandle_shut table id, shutPolitely]
  rcases table.shut id with ⟨after, _ | report⟩ <;> rfl

/-- Taking interfaces down gives out no handle. -/
@[simp] theorem nextHandle_shutAll
    (ids : List InterfaceId) :
    (table.shutAll ids).1.nextHandle = table.nextHandle := by
  induction ids generalizing table with
  | nil =>
      rfl
  | cons id rest inductionHypothesis =>
      exact (inductionHypothesis (table.shut id).1).trans (nextHandle_shut table id)

/-- Forgetting an interface gives out no handle. -/
@[simp] theorem nextHandle_forget
    (id : InterfaceId) :
    (table.forget id).nextHandle = table.nextHandle := by
  unfold forget
  split
  · next record _ =>
      exact TimerQueue.nextHandle_cancel table.timers record.timer
  · rfl

/-- Removing interfaces gives out no handle. -/
@[simp] theorem nextHandle_removeAll
    (ids : List InterfaceId) :
    (table.removeAll ids).1.nextHandle = table.nextHandle := by
  induction ids generalizing table with
  | nil =>
      rfl
  | cons id rest inductionHypothesis =>
      have forgotten : ((table.shutPolitely id).1.forget id).nextHandle = table.nextHandle := by
        simp
      exact (inductionHypothesis _).trans forgotten

@[simp] theorem nextHandle_promote
    (id : InterfaceId)
    (record : LinkRecord)
    (now : Nat) :
    (table.promote id record now).1.nextHandle = table.nextHandle := by
  simp [promote]

@[simp] theorem nextHandle_demote
    (id : InterfaceId)
    (record : LinkRecord)
    (now : Nat) :
    (table.demote id record now).1.nextHandle = table.nextHandle := by
  unfold demote
  split <;> simp

/-- Handling a timer gives out no handle. -/
@[simp] theorem nextHandle_onTimer
    (handle : TimerHandle)
    (id : InterfaceId)
    (now : Nat) :
    (table.onTimer handle id now).1.nextHandle = table.nextHandle := by
  unfold onTimer
  cases table.get? id with
  | none =>
      rfl
  | some record =>
      simp only
      split
      · rfl
      · split
        · split <;> simp
        · split <;> simp

@[simp] theorem nextHandle_onTimers
    (now : Nat)
    (due : List (TimerHandle × InterfaceId)) :
    (table.onTimers now due).1.nextHandle = table.nextHandle := by
  induction due generalizing table with
  | nil =>
      rfl
  | cons entry rest inductionHypothesis =>
      exact (inductionHypothesis _).trans (nextHandle_onTimer table entry.1 entry.2 now)

/-- A sweep gives out no handle. -/
@[simp] theorem nextHandle_sweep
    (now : Nat) :
    (table.sweep now).1.nextHandle = table.nextHandle :=
  nextHandle_onTimers _ now (table.timers.takeDue now).1

/-- A frame that arrives gives out no handle. -/
@[simp] theorem nextHandle_onFrame
    (frame : Frame)
    (now : Nat) :
    (table.onFrame frame now).1.nextHandle = table.nextHandle := by
  unfold onFrame
  cases table.get? frame.id with
  | none =>
      rfl
  | some silent =>
      cases frame.kind with
      | probe =>
          simp only
          split
          · rfl
          · split <;> simp
      | ack | disconnect | data =>
          simp only
          split <;> simp [onBlock]

/-- Raising an interface gives out no handle. -/
theorem nextHandle_up
    {after : LinkTable}
    {id : InterfaceId}
    {now : Nat}
    {started : Bool}
    (raised : table.up id now = .ok (after, started)) :
    after.nextHandle = table.nextHandle := by
  unfold up at raised
  split at raised
  · split at raised
    · cases raised
      rfl
    · cases raised
      simp
  · cases raised

/-- Only a new interface takes a handle. -/
theorem nextHandle_le_add
    (id : InterfaceId)
    (params? : Option InterfaceParams)
    (now : Nat) :
    table.nextHandle ≤ (table.add id params? now).nextHandle := by
  unfold add
  cases table.get? id with
  | none =>
      exact Nat.le_succ table.nextHandle
  | some record =>
      exact Nat.le_refl table.nextHandle

/-- No operation takes back a handle that was given out. -/
theorem nextHandle_le_perform
    (operation : Operation) :
    table.nextHandle ≤ (table.perform operation).1.nextHandle := by
  cases operation with
  | add id params? now =>
      exact nextHandle_le_add table id params? now
  | up id now =>
      simp only [perform]
      split
      · next raised =>
          exact Nat.le_of_eq (nextHandle_up table raised).symm
      · exact Nat.le_refl _
  | down id | remove id =>
      simp [perform_down, perform_remove]
  | teardown | frame frame now | writeFailed id | transportLost | sweep now =>
      simp [perform, teardown, transportLost]
  | setFilter filter? =>
      exact Nat.le_refl table.nextHandle

/-- No happening takes a handle back. -/
theorem nextHandle_le_undergo
    (happening : Happening) :
    table.nextHandle ≤ (table.undergo happening).1.nextHandle := by
  cases happening with
  | performed operation =>
      exact nextHandle_le_perform table operation
  | taken now =>
      exact Nat.le_refl table.nextHandle
  | handled handle id now =>
      exact Nat.le_of_eq (nextHandle_onTimer table handle id now).symm

/-- No history takes a handle back. -/
theorem nextHandle_le_undergoAll
    (happenings : List Happening) :
    table.nextHandle ≤ (table.undergoAll happenings).1.nextHandle := by
  induction happenings generalizing table with
  | nil =>
      exact Nat.le_refl table.nextHandle
  | cons happening rest inductionHypothesis =>
      exact Nat.le_trans (nextHandle_le_undergo table happening) (inductionHypothesis _)

end NextHandle

/-! ## Handles that an interface does not have any more -/

/-- The handle was given out, and it is not the one that the interface has. -/
structure IsStale
    (table : LinkTable)
    (handle : TimerHandle)
    (id : InterfaceId) : Prop where
  given : handle < table.nextHandle
  notOwn : Holds (fun record => record.timer ≠ handle) table id

/-- An interface keeps its timer until it is forgotten. -/
theorem aboutRegistration_notOwn
    (handle : TimerHandle)
    (id : InterfaceId) :
    AboutRegistration fun table => Holds (fun record => record.timer ≠ handle) table id where
  of_same := by
    intro table after same notOwn record found
    have sameTimer := congrArg (Option.map Registration.timer) (same.registration id)
    simp only [found, Option.map_some, Option.map_map] at sameTimer
    obtain ⟨before, foundBefore, isTimer⟩ := Option.map_eq_some_iff.mp sameTimer.symm
    have isOwn : before.timer = record.timer := isTimer
    exact isOwn ▸ notOwn before foundBefore
  forget := fun other notOwn => notOwn.forget other

namespace IsStale

variable {table : LinkTable} {handle : TimerHandle} {id : InterfaceId}

/-- The handle is compared with the one that the interface has. -/
theorem onTimer_eq
    (stale : table.IsStale handle id)
    (now : Nat) :
    table.onTimer handle id now = (table, []) := by
  unfold onTimer
  split
  · rfl
  · next record found =>
      exact if_pos (stale.notOwn record found)

/-- An interface that is registered again is given a timer that nobody had before. -/
theorem add
    (stale : table.IsStale handle id)
    (other : InterfaceId)
    (params? : Option InterfaceParams)
    (now : Nat) :
    Holds (fun record => record.timer ≠ handle) (table.add other params? now) id := by
  by_cases same : id = other
  · subst other
    unfold LinkTable.add
    cases found : table.get? id with
    | none =>
        exact Holds.set _ (Nat.ne_of_gt stale.given)
    | some record =>
        exact Holds.set _ (stale.notOwn record found)
  · exact stale.notOwn.of_same (get?_add_of_ne table same params? now)

/-- A stale handle stays stale whatever happens. -/
theorem undergo
    (stale : table.IsStale handle id)
    (happening : Happening) :
    (table.undergo happening).1.IsStale handle id where
  given := Nat.lt_of_lt_of_le stale.given (nextHandle_le_undergo table happening)
  notOwn := by
    have about := aboutRegistration_notOwn handle id
    cases happening with
    | performed operation =>
        exact about.perform stale.notOwn operation fun other params? now _ =>
          stale.add other params? now
    | taken now =>
        exact stale.notOwn
    | handled handled other now =>
        exact about.of_same (.onTimer table handled other now) stale.notOwn

/-- A handle that an interface has lost is never given back to it. -/
theorem undergoAll
    (stale : table.IsStale handle id)
    (happenings : List Happening) :
    (table.undergoAll happenings).1.IsStale handle id := by
  induction happenings generalizing table with
  | nil =>
      exact stale
  | cons happening rest inductionHypothesis =>
      exact inductionHypothesis (stale.undergo happening)

end IsStale

/-- Whatever is said of a record holds of an interface that has none. -/
theorem holds_of_unregistered
    {table : LinkTable}
    {id : InterfaceId}
    (unregistered : table.isRegistered id = false)
    (P : LinkRecord → Prop) :
    Holds P table id := by
  intro record found
  simp [isRegistered, found] at unregistered

/--
A timer that a sweep has taken out is ignored once its interface was removed, by itself or
with all others, whatever has happened before, in between and since: nothing changes and
nothing is done. If the interface is registered again it has another timer.
-/
theorem onTimer_of_removed
    (settings : LinkSettings)
    (earlier between later : List Happening)
    (now time : Nat)
    {handle : TimerHandle}
    {id : InterfaceId}
    (taken : (handle, id) ∈ (((ofSettings settings).undergoAll earlier).1.timers.takeDue now).1)
    {removal : Operation}
    (removes : removal = .remove id ∨ removal = .teardown) :
    let happenings := earlier ++ .taken now :: between ++ .performed removal :: later
    let table := ((ofSettings settings).undergoAll happenings).1
    table.onTimer handle id time = (table, []) ∧
      ∀ record, table.get? id = some record → record.timer ≠ handle := by
  intro happenings table
  obtain ⟨_, inStep⟩ := exists_inStep_undergoAll settings earlier
  obtain ⟨timer, found, _⟩ := inStep.wellFormed.exists_of_mem_due taken
  have given : handle < ((ofSettings settings).undergoAll earlier).1.nextHandle :=
    inStep.wellFormed.lt_nextHandle _ (AssociationList.mem_of_lookup found)
  -- The handle is given out when it is taken, which is all that is needed of the sweep.
  let before := ((ofSettings settings).undergoAll (earlier ++ .taken now :: between)).1
  have givenBefore : handle < before.nextHandle := by
    simp only [before, undergoAll_append]
    exact Nat.lt_of_lt_of_le given (nextHandle_le_undergoAll _ _)
  have stale : (before.perform removal).1.IsStale handle id := by
    refine ⟨Nat.lt_of_lt_of_le givenBefore (nextHandle_le_perform before removal), ?_⟩
    apply holds_of_unregistered
    rw [isRegistered_perform]
    rcases removes with rfl | rfl
    · simp [Operation.leavesRegistered]
    · rfl
  have isLast : table = ((before.perform removal).1.undergoAll later).1 :=
    undergoAll_append _ (earlier ++ .taken now :: between) (.performed removal :: later)
  have staleAfter := stale.undergoAll later
  rw [isLast]
  exact ⟨staleAfter.onTimer_eq time, staleAfter.notOwn⟩

/-- The interface is registered and made eligible again, and its new timer is not ignored. -/
theorem onTimer_of_readded :
    let earlier : List Happening := [.performed (.add 1 none 0), .performed (.up 1 0)]
    let later : List Happening := [.performed (.add 1 none 5), .performed (.up 1 5)]
    let happenings := earlier ++ .taken 0 :: [] ++ .performed (.remove 1) :: later
    let table := ((ofSettings {}).undergoAll happenings).1
    (0, 1) ∈ (((ofSettings {}).undergoAll earlier).1.timers.takeDue 0).1 ∧
      table.onTimer 0 1 6 = (table, []) ∧
      (table.onTimer 1 1 6).2 = [.transmit (.probe 1 1)] := by
  intro earlier later happenings table
  have taken : (0, 1) ∈ (((ofSettings {}).undergoAll earlier).1.timers.takeDue 0).1 := by
    decide +kernel
  obtain ⟨ignored, _⟩ := onTimer_of_removed {} earlier [] later 0 6 taken (Or.inl rfl)
  exact ⟨taken, ignored, by decide +kernel⟩

end LinkTable

end StationLink
