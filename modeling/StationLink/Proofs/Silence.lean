import StationLink.Proofs.Isolation

namespace StationLink

/-!
# Silence

A running link is lost when nothing was heard for longer than the dead interval, but
this is looked into only when its timer is handled. The timer is set anew whenever it
is handled, and never for later than the dead and the keepalive interval after the
last frame (`Link.Watched`). So silence is noticed neither early nor late
(`LinkTable.silence_noticed`).
-/

/-- When an operation happens, if that makes a difference. -/
def LinkTable.Operation.time? : LinkTable.Operation → Option Nat
  | .add _ _ now | .up _ now | .frame _ now | .sweep now => some now
  | .down _ | .remove _ | .teardown | .writeFailed _ | .transportLost | .setFilter _ => none

/-- When a frame for an interface arrives, if that is what an operation is. -/
def LinkTable.Operation.heardAt? (id : InterfaceId) : LinkTable.Operation → Option Nat
  | .frame arrived now => if arrived.id = id then some now else none
  | _ => none

/-- An interface does not hear what it is not concerned by. -/
theorem LinkTable.Operation.heardAt?_of_unconcerned
    {id : InterfaceId}
    {operation : LinkTable.Operation}
    (unconcerned : ¬ operation.concerns id = true) :
    operation.heardAt? id = none := by
  cases operation with
  | frame arrived now =>
      exact if_neg fun isOwn => unconcerned (decide_eq_true isOwn)
  | add | up | down | remove | teardown | writeFailed | transportLost | setFilter | sweep =>
      rfl

/-- When the last frame for an interface arrived during a run. -/
def LinkTable.lastHeard? (id : InterfaceId) (operations : List LinkTable.Operation) :
    Option Nat :=
  (operations.filterMap (·.heardAt? id)).getLast?

/-- What is heard later is heard last. -/
theorem LinkTable.lastHeard?_cons
    (id : InterfaceId)
    (operation : Operation)
    (rest : List Operation) :
    lastHeard? id (operation :: rest) = (lastHeard? id rest).or (operation.heardAt? id) := by
  simp only [lastHeard?]
  cases heard : operation.heardAt? id with
  | none =>
      rw [List.filterMap_cons_none heard, Option.or_none]
  | some now =>
      rw [List.filterMap_cons_some heard, List.getLast?_cons]
      cases (rest.filterMap (·.heardAt? id)).getLast? <;> rfl

namespace Link

/--
The link is eligible, its last frame was the one heard at the given time, and its timer
is due before it was silent for too long.
-/
structure OnWatch
    (settings : LinkSettings)
    (clock : Nat)
    (heard? : Option Nat)
    (link : Link) : Prop where
  eligible : link.eligible = true
  heard : heard? = some link.lastHeard
  notLater : link.lastHeard ≤ clock
  due : ∃ due, link.due? = some due ∧
    due ≤ link.lastHeard + settings.deadInterval + settings.keepaliveInterval

/-- The link is watched as long as it is running. -/
def Watched
    (settings : LinkSettings)
    (clock : Nat)
    (heard? : Option Nat)
    (link : Link) : Prop :=
  link.running = true → link.OnWatch settings clock heard?

namespace Watched

variable {settings : LinkSettings} {clock now : Nat} {heard? : Option Nat} {link : Link}

/-- A link that is down need not be watched. -/
theorem of_notRunning
    (notRunning : link.running = false) :
    link.Watched settings clock heard? := by
  intro running
  rw [notRunning] at running
  cases running

/-- A link that is watched still is when time has passed. -/
theorem later
    (watched : link.Watched settings clock heard?)
    (isLater : clock ≤ now) :
    link.Watched settings now heard? := by
  intro running
  obtain ⟨eligible, heard, notLater, due⟩ := watched running
  exact ⟨eligible, heard, Nat.le_trans notLater isLater, due⟩

/-- A link that was registered, or registered anew, is watched. -/
theorem added
    {link? : Option Link}
    (watched : ∀ link, link? = some link → link.Watched settings clock heard?)
    (id : InterfaceId)
    (params? : Option InterfaceParams)
    (now : Nat) :
    (Link.added settings id params? now link?).Watched settings clock heard? := by
  cases link? with
  | none =>
      exact of_notRunning rfl
  | some link =>
      intro running
      obtain ⟨eligible, heard, notLater, due⟩ := watched link rfl running
      exact ⟨eligible, heard, notLater, due⟩

/-- A link that is running is eligible already. -/
theorem raised
    (watched : link.Watched settings clock heard?)
    (now : Nat) :
    (link.raised now).Watched settings clock heard? := by
  intro running
  by_cases eligible : link.eligible = true
  · have unchanged : link.raised now = link := if_pos eligible
    rw [unchanged] at running ⊢
    exact watched running
  · have stillRunning : link.running = true := by
      rw [Link.raised, if_neg eligible] at running
      exact running
    exact (eligible (watched stillRunning).eligible).elim

/-- The timer is set for the keepalive interval after the frame that brought the link up. -/
theorem promoted
    (eligible : link.eligible = true)
    (heard : link.lastHeard = now) :
    (link.promoted (now + settings.keepaliveInterval)).Watched settings now (some now) := by
  intro _
  refine ⟨eligible, congrArg some heard.symm, Nat.le_of_eq heard, _, rfl, ?_⟩
  change now + _ ≤ link.lastHeard + _ + _
  omega

/-- A frame that arrives on a running link gives it more time. -/
theorem hearing
    (watched : link.Watched settings clock heard?)
    (isLater : clock ≤ now) :
    { link with lastHeard := now }.Watched settings now (some now) := by
  intro running
  obtain ⟨eligible, _, notLater, due, linked, dueInTime⟩ := watched running
  refine ⟨eligible, rfl, Nat.le_refl now, due, linked, ?_⟩
  change due ≤ now + _ + _
  omega

/-- A link that has heard a frame is watched from then on. -/
theorem onFrame
    (watched : link.Watched settings clock heard?)
    (isLater : clock ≤ now)
    (interpret : String → Bool → List UInt8 → Option Report)
    (frame : Frame) :
    (link.onFrame settings interpret frame now).1.Watched settings now (some now) := by
  have heard := watched.hearing isLater
  unfold Link.onFrame
  cases frame.kind with
  | probe =>
      simp only
      split
      · exact heard
      · next eligible =>
          split
          · exact heard
          · exact promoted (Decidable.of_not_not eligible) rfl
  | ack =>
      simp only
      split
      · next ready =>
          exact promoted ready.1 rfl
      · exact heard
  | disconnect =>
      simp only
      split
      · exact of_notRunning rfl
      · exact heard
  | data =>
      simp only
      split
      · intro running
        obtain ⟨eligible, isHeard, notLater, due⟩ := heard running
        exact ⟨eligible, isHeard, notLater, due⟩
      · exact heard

/-- The timer is set anew while the silence is not too long. -/
theorem sweep
    (watched : link.Watched settings clock heard?)
    (id : InterfaceId)
    (now : Nat) :
    (link.sweep settings id now).1.Watched settings clock heard? := by
  unfold Link.sweep Link.onTimer
  split
  · simp only
    split
    · next running =>
        obtain ⟨eligible, heard, notLater, _⟩ := watched running
        split
        · exact of_notRunning rfl
        · next notSilent =>
            intro _
            refine ⟨eligible, heard, notLater, _, rfl, ?_⟩
            change now + _ ≤ link.lastHeard + _ + _
            omega
    · next notRunning =>
        split
        · exact of_notRunning (Bool.eq_false_iff.mpr notRunning)
        · exact of_notRunning (Bool.eq_false_iff.mpr notRunning)
  · exact watched

end Watched

variable {settings : LinkSettings} {link : Link} {id : InterfaceId} {now : Nat}

/-- A sweep does not give a running link up before it was silent for too long. -/
theorem silent_of_lost
    (running : link.running = true)
    (lost : (link.sweep settings id now).1.running = false) :
    link.lastHeard + settings.deadInterval < now := by
  unfold sweep onTimer at lost
  rw [if_pos running] at lost
  split at lost
  · split at lost
    · next silent =>
        have isSilent : settings.deadInterval < now - link.lastHeard := silent
        omega
    · cases running.symm.trans lost
  · cases running.symm.trans lost

/-- A link that is still running after a sweep was not due, or was not silent for too long. -/
theorem heard_of_running
    (watched : link.Watched settings clock heard?)
    (running : link.running = true)
    (still : (link.sweep settings id now).1.running = true) :
    now ≤ link.lastHeard + settings.deadInterval + settings.keepaliveInterval := by
  obtain ⟨_, _, _, due, linked, dueInTime⟩ := watched running
  unfold sweep onTimer at still
  rw [if_pos running] at still
  split at still
  · split at still
    · cases still
    · next notSilent =>
        have isHeard : ¬ settings.deadInterval < now - link.lastHeard := notSilent
        omega
  · next notDue =>
      have isLater : now < due := by
        simpa [isDue, linked] using notDue
      omega

/-- What is due when a sweep happens is handled by it. -/
theorem due_of_sweep
    {due : Nat}
    (linked : (link.sweep settings id now).1.due? = some due) :
    now ≤ due := by
  unfold sweep onTimer at linked
  split at linked
  · simp only at linked
    split at linked
    · split at linked
      · simp only [demoted] at linked
        split at linked
        · cases linked
          exact Nat.le_add_right now _
        · cases linked
      · cases linked
        exact Nat.le_add_right now _
    · split at linked
      · cases linked
        exact Nat.le_add_right now _
      · cases linked
  · next notDue =>
      change link.due? = some due at linked
      simp only [isDue, linked, Option.any_some, decide_eq_true_eq] at notDue
      omega

end Link

namespace LinkView

open LinkTable (Operation)

variable {view : LinkView} {clock : Nat} {heard? : Option Nat}

/-- The link is watched, if there is one. -/
def Watched (clock : Nat) (heard? : Option Nat) (view : LinkView) : Prop :=
  ∀ link, view.link? = some link → link.Watched view.settings clock heard?

namespace Watched

/-- A view that is watched still is when time has passed. -/
theorem later
    {now : Nat}
    (watched : view.Watched clock heard?)
    (isLater : clock ≤ now) :
    view.Watched now heard? :=
  fun link linked => (watched link linked).later isLater

/-- A view is watched if its link is. -/
theorem of_link
    {link : Link}
    (watched : link.Watched view.settings clock heard?) :
    (view.withLink (some link)).Watched clock heard? := by
  intro other linked
  cases linked
  exact watched

/-- A link that was shut need not be watched. -/
theorem shut
    (view : LinkView) :
    (view.withLink (view.link?.map .shut)).Watched clock heard? := by
  intro link isShut
  obtain ⟨_, _, rfl⟩ := Option.map_eq_some_iff.mp isShut
  exact .of_notRunning rfl

/-- A step that leaves each link watched leaves the view so. -/
theorem advance
    {step : Link → Link × List Action}
    (watched : ∀ link, view.link? = some link →
      (step link).1.Watched view.settings clock heard?) :
    (view.advance step).1.Watched clock heard? := by
  cases found : view.link? with
  | none =>
      rw [advance_of_missing found]
      intro link linked
      rw [found] at linked
      cases linked
  | some link =>
      rw [advance_of_found found]
      exact of_link (watched link found)

/-- An operation about an interface leaves it watched. -/
theorem performOwn
    (watched : view.Watched clock heard?)
    {id : InterfaceId}
    {operation : Operation}
    (isAbout : operation.concerns id = true)
    (isLater : ∀ now, operation.time? = some now → clock ≤ now) :
    (view.performOwn id operation).1.Watched (operation.time?.getD clock)
      ((operation.heardAt? id).or heard?) := by
  cases operation with
  | add owner params? now =>
      exact of_link ((Link.Watched.added watched id params? now).later (isLater now rfl))
  | up owner now =>
      intro link isRaised
      obtain ⟨before, found, rfl⟩ := Option.map_eq_some_iff.mp isRaised
      exact ((watched before found).raised now).later (isLater now rfl)
  | down owner | writeFailed owner | transportLost =>
      exact shut view
  | remove owner | teardown =>
      nofun
  | frame arrived now =>
      have heardNow : Operation.heardAt? id (.frame arrived now) = some now :=
        if_pos (of_decide_eq_true isAbout)
      rw [heardNow]
      exact advance fun link found =>
        (watched link found).onFrame (isLater now rfl) (view.interpret id) arrived
  | setFilter filter? =>
      exact watched
  | sweep now =>
      exact advance fun link found =>
        ((watched link found).sweep id now).later (isLater now rfl)

/-- Any operation leaves an interface watched. -/
theorem perform
    (watched : view.Watched clock heard?)
    (id : InterfaceId)
    (operation : Operation)
    (isLater : ∀ now, operation.time? = some now → clock ≤ now) :
    (view.perform id operation).1.Watched (operation.time?.getD clock)
      ((operation.heardAt? id).or heard?) := by
  by_cases isAbout : operation.concerns id = true
  · rw [LinkView.perform, if_pos isAbout]
    exact watched.performOwn isAbout isLater
  · rw [LinkView.perform, if_neg isAbout, Operation.heardAt?_of_unconcerned isAbout]
    cases time : operation.time? with
    | none =>
        exact watched
    | some now =>
        exact watched.later (isLater now time)

/-- The clock never goes back during a run, so a link is watched all the time. -/
theorem run
    (watched : view.Watched clock heard?)
    (id : InterfaceId)
    (operations : List Operation)
    (inOrder : (clock :: operations.filterMap (·.time?)).Pairwise (· ≤ ·)) :
    ∃ later, (view.run id operations).1.Watched later
      ((LinkTable.lastHeard? id operations).or heard?) := by
  induction operations generalizing view clock heard? with
  | nil =>
      exact ⟨clock, watched⟩
  | cons operation rest inductionHypothesis =>
      rw [LinkTable.lastHeard?_cons, Option.or_assoc]
      cases time : operation.time? with
      | none =>
          rw [List.filterMap_cons_none time] at inOrder
          have first := watched.perform id operation fun now isTime =>
            nomatch time.symm.trans isTime
          rw [time] at first
          exact inductionHypothesis first inOrder
      | some now =>
          rw [List.filterMap_cons_some time] at inOrder
          obtain ⟨clockFirst, restInOrder⟩ := List.pairwise_cons.mp inOrder
          have first := watched.perform id operation fun other isTime => by
            rw [time] at isTime
            cases isTime
            exact clockFirst now List.mem_cons_self
          rw [time] at first
          exact inductionHypothesis first restInOrder

end Watched

end LinkView

namespace LinkTable

variable {table : LinkTable} {id : InterfaceId}

/-- What is due at a time is the timer that is linked for it. -/
theorem timer_of_due
    {handle : TimerHandle}
    {due : Nat}
    (isDue : table.due? handle = some due) :
    ∃ timer, table.timers.get? handle = some timer ∧ timer.linked = true ∧
      timer.expires = due := by
  obtain ⟨timer, slot, isDue⟩ := Option.bind_eq_some_iff.mp isDue
  rw [Timer.due?] at isDue
  split at isDue
  · next linked =>
      exact ⟨timer, slot, linked, Option.some.inj isDue⟩
  · cases isDue

/-- A sweep makes of the link of an interface what it makes of a link alone. -/
theorem link?_sweep
    (inStep : table.InStep [])
    (id : InterfaceId)
    (now : Nat) :
    (table.sweep now).1.link? id =
      (table.link? id).map fun link => (link.sweep table.settings id now).1 := by
  have seen := congrArg LinkView.link? (Shows.sweep inStep now id).view
  refine seen.trans ?_
  change ((table.view id).advance _).1.link? = _
  cases found : table.link? id with
  | none =>
      rw [LinkView.advance_of_missing found]
      exact found
  | some link =>
      rw [LinkView.advance_of_found found]
      rfl

/-- No timer is overdue: those that were due earlier have been handled. -/
def OnTime (table : LinkTable) (now : Nat) : Prop :=
  ∀ handle timer, table.timers.get? handle = some timer → timer.linked = true →
    now ≤ timer.expires

/-- A sweep leaves no timer behind that is overdue. -/
theorem onTime_sweep
    (inStep : table.InStep [])
    (now : Nat) :
    (table.sweep now).1.OnTime now := by
  intro handle timer slot linked
  obtain ⟨record, found, hasTimer⟩ := (inStep.sweep now).record_of_timer slot
  have isDue : (table.sweep now).1.due? record.timer = some timer.expires := by
    rw [due?, hasTimer, slot]
    exact if_pos linked
  have isLink := link?_of_found found
  rw [link?_sweep inStep] at isLink
  obtain ⟨link, _, isSwept⟩ := Option.map_eq_some_iff.mp isLink
  exact Link.due_of_sweep ((congrArg Link.due? isSwept).trans isDue)

/-- After any operations in the order of time every interface is watched. -/
theorem watched_run
    (settings : LinkSettings)
    (operations : List Operation)
    (inOrder : (operations.filterMap (·.time?)).Pairwise (· ≤ ·))
    (id : InterfaceId) :
    ∃ clock, (((ofSettings settings).run operations).1.view id).Watched clock
      (lastHeard? id operations) := by
  have fresh : ((ofSettings settings).view id).Watched 0 none := nofun
  have startsFirst : (0 :: operations.filterMap (·.time?)).Pairwise (· ≤ ·) :=
    List.pairwise_cons.mpr ⟨fun now _ => Nat.zero_le now, inOrder⟩
  obtain ⟨clock, watched⟩ := fresh.run id operations startsFirst
  rw [Option.or_none, ← (Shows.run (inStep_ofSettings settings) operations id).view] at watched
  exact ⟨clock, watched⟩

/--
A running link has a timer that is due before the link was silent for longer than the
dead and the keepalive interval. A sweep gives it up only if it was silent for longer
than the dead interval, and it is not running any more after the sum of both, be it that
a sweep has just happened or that no timer is overdue.
-/
theorem silence_noticed
    (settings : LinkSettings)
    (operations : List Operation)
    (inOrder : (operations.filterMap (·.time?)).Pairwise (· ≤ ·))
    {id : InterfaceId}
    {record : LinkRecord}
    (found : ((ofSettings settings).run operations).1.get? id = some record)
    (running : record.running = true) :
    let table := ((ofSettings settings).run operations).1
    let limit := record.lastHeard + settings.deadInterval + settings.keepaliveInterval
    lastHeard? id operations = some record.lastHeard ∧
      (∃ timer, table.timers.get? record.timer = some timer ∧ timer.linked = true ∧
        timer.expires ≤ limit) ∧
      (∀ now, (table.sweep now).1.isRunning id = false →
        record.lastHeard + settings.deadInterval < now) ∧
      (∀ now, (table.sweep now).1.isRunning id = true → now ≤ limit) ∧
      ∀ now, table.OnTime now → now ≤ limit := by
  intro table limit
  let link := record.link (table.due? record.timer)
  have isLink : table.link? id = some link := link?_of_found found
  have isRunning : link.running = true := running
  have inStep : table.InStep [] := (inStep_ofSettings settings).run operations
  have sameSettings : table.settings = settings := by
    have seen := (Shows.run (inStep_ofSettings settings) operations id).view
    exact (congrArg LinkView.settings seen).trans (LinkView.settings_run id _ operations)
  obtain ⟨clock, viewWatched⟩ := watched_run settings operations inOrder id
  have watched : link.Watched table.settings clock (lastHeard? id operations) :=
    viewWatched link isLink
  rw [sameSettings] at watched
  obtain ⟨_, heard, _, due, isDue, dueInTime⟩ := watched isRunning
  obtain ⟨timer, slot, linked, expires⟩ := timer_of_due isDue
  have swept : ∀ now, (table.sweep now).1.isRunning id =
      (link.sweep settings id now).1.running := by
    intro now
    rw [isRunning_eq_any, link?_sweep inStep, isLink, sameSettings]
    rfl
  rw [← expires] at dueInTime
  refine ⟨heard, ⟨timer, slot, linked, dueInTime⟩, ?_, ?_, ?_⟩
  · intro now lost
    rw [swept] at lost
    exact Link.silent_of_lost isRunning lost
  · intro now still
    rw [swept] at still
    exact Link.heard_of_running watched isRunning still
  · intro now onTime
    exact Nat.le_trans (onTime _ timer slot linked) dueInTime

/-- Nothing is heard after the first answer, and the sweeps are late. -/
theorem silence_noticed_after_answer :
    let operations : List Operation :=
      [.add 1 none 0, .up 1 0, .frame (.ack 1) 100, .sweep 5200, .sweep 10700]
    let table := ((ofSettings {}).run operations).1
    (operations.filterMap (·.time?)).Pairwise (· ≤ ·) ∧ table.isRunning 1 = true ∧
      lastHeard? 1 operations = some 100 ∧
      (∀ now, (table.sweep now).1.isRunning 1 = false → 15100 < now) ∧
      ∀ now, table.OnTime now → now ≤ 20100 := by
  intro operations table
  have inOrder : (operations.filterMap (·.time?)).Pairwise (· ≤ ·) := by
    decide
  have found : table.get? 1 = some
      { channel := 1, hardwareName := defaultHardwareName 1, running := true,
        eligible := true, timer := 0, lastHeard := 100 } := by
    decide +kernel
  obtain ⟨heard, _, notEarly, _, notLate⟩ := silence_noticed {} operations inOrder found rfl
  have isRunning : table.isRunning 1 = true := by
    rw [isRunning, found]
    rfl
  exact ⟨inOrder, isRunning, heard, notEarly, notLate⟩

end LinkTable

end StationLink
