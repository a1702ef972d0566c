import StationLink.Proofs.DisabledInterface
import StationLink.Proofs.Isolation
import StationLink.Proofs.LinkedPair
import StationLink.Proofs.Silence

namespace StationLink

/-!
# What changes a link

Nothing but a frame brings a link up (`LinkTable.isRunning_of_own`), and what a frame does
to a link depends on its kind, on whether the interface is eligible and on whether the link
was up (`LinkTable.isRunning_onFrame`). Only a probe on an eligible interface is answered,
by a single frame (`LinkTable.frames_onFrame`).

Every operation announces of an interface just the change of its link, if there is one
(`LinkTable.statuses_perform`). Nothing is done about an interface that is disabled
(`LinkTable.about_perform_of_disabled`), and only making it eligible ends that
(`LinkTable.Disabled.perform`).
-/

/-- Whether the link of an eligible interface is up once a frame has arrived. -/
def Frame.linkAfter (frame : Frame) (up : Bool) : Bool :=
  match frame.kind with
  | .probe | .ack => true
  | .disconnect => false
  | .data => up

/-- The frames of some actions are those that are to be transmitted. -/
theorem Action.mem_frames_iff
    {actions : List Action}
    {frame : Frame} :
    frame ∈ frames actions ↔ .transmit frame ∈ actions := by
  constructor
  · intro member
    obtain ⟨action, isAction, isFrame⟩ := List.mem_filterMap.mp member
    cases action with
    | transmit other =>
        cases isFrame
        exact isAction
    | emit report =>
        cases isFrame
  · intro member
    exact List.mem_filterMap.mpr ⟨_, member, rfl⟩

/-- If nothing is done about any interface, nothing is done. -/
theorem Action.eq_nil_of_about
    {actions : List Action}
    (nothing : ∀ id, about id actions = []) :
    actions = [] := by
  refine List.eq_nil_iff_forall_not_mem.mpr fun action member => ?_
  exact List.filter_eq_nil_iff.mp (nothing action.id) action member (decide_eq_true rfl)

/-- A report carries no frame. -/
theorem Action.frames_toList_emit
    (report? : Option Report) :
    frames (report?.map .emit).toList = [] := by
  cases report? <;> rfl

/-- The status of an interface is told by the reports about it. -/
theorem Report.statuses_about
    (id : InterfaceId)
    (reports : List Report) :
    statuses id (about id reports) = statuses id reports := by
  rw [statuses, about, List.filterMap_filter, statuses]
  congr 1
  funext report
  by_cases isOwn : report.id = id
  · simp [isOwn]
  · simp [isOwn, statusOf?]

/-- The reports about an interface are those among the actions about it. -/
theorem Action.reports_about
    (id : InterfaceId)
    (actions : List Action) :
    reports (about id actions) = Report.about id (reports actions) := by
  rw [reports, about, List.filterMap_filter, Report.about, reports, List.filter_filterMap]
  congr 1
  funext action
  cases action with
  | transmit frame =>
      exact ite_self none
  | emit report =>
      rfl

/-- The frames of the actions about an interface are the frames that carry its number. -/
theorem Action.frames_about
    (id : InterfaceId)
    (actions : List Action) :
    frames (about id actions) = (frames actions).filter (·.id = id) := by
  rw [frames, about, List.filterMap_filter, frames, List.filter_filterMap]
  congr 1
  funext action
  cases action with
  | transmit frame =>
      rfl
  | emit report =>
      exact ite_self none

/-- What actions announce of an interface is announced by the actions about it. -/
theorem Action.statuses_about
    (id : InterfaceId)
    (actions : List Action) :
    Report.statuses id (reports (about id actions)) =
      Report.statuses id (reports actions) := by
  rw [reports_about, Report.statuses_about]

/-- A single announcement is that of what the link has become. -/
theorem LinkStatus.eq_of_replay?
    {before after : Bool}
    {statuses : List LinkStatus}
    (replayed : replay? before statuses = some after)
    (single : statuses.length ≤ 1) :
    statuses = if before = after then [] else [if after then .up else .lost] := by
  cases statuses with
  | nil =>
      cases replayed
      rw [if_pos rfl]
  | cons status rest =>
      obtain rfl : rest = [] := by
        simpa using single
      cases before <;> cases status <;> cases replayed <;> rfl

/-! ## A link by itself -/

namespace Link

/-- The link is down, and it is not to be trained. -/
def IsDisabled (link : Link) : Prop :=
  link.eligible = false ∧ link.running = false

variable {settings : LinkSettings} {link : Link} {id : InterfaceId} {now : Nat}

/-- A frame that arrives makes no difference to what the owner chose, and it is heard. -/
theorem eligible_and_lastHeard_onFrame
    (settings : LinkSettings)
    (link : Link)
    (now : Nat)
    (interpret : String → Bool → List UInt8 → Option Report)
    (frame : Frame) :
    (link.onFrame settings interpret frame now).1.eligible = link.eligible ∧
      (link.onFrame settings interpret frame now).1.lastHeard = now := by
  unfold onFrame
  cases frame.kind with
  | probe =>
      simp only
      split
      · exact ⟨rfl, rfl⟩
      · split <;> exact ⟨rfl, rfl⟩
  | ack | disconnect | data =>
      simp only
      split <;> exact ⟨rfl, rfl⟩

/-- A link is up after a frame if it is eligible and the frame brings it up or leaves it up. -/
theorem running_onFrame
    (interpret : String → Bool → List UInt8 → Option Report)
    (frame : Frame)
    (eligible : link.running = true → link.eligible = true) :
    (link.onFrame settings interpret frame now).1.running =
      (link.eligible && frame.linkAfter link.running) := by
  unfold onFrame Frame.linkAfter
  cases frame.kind <;> cases isEligible : link.eligible <;>
    cases isRunning : link.running <;> simp_all [promoted, demoted]

/-- A sweep neither changes what the owner chose nor counts as having heard something. -/
theorem eligible_and_lastHeard_sweep
    (settings : LinkSettings)
    (link : Link)
    (id : InterfaceId)
    (now : Nat) :
    (link.sweep settings id now).1.eligible = link.eligible ∧
      (link.sweep settings id now).1.lastHeard = link.lastHeard := by
  unfold sweep onTimer
  split
  · simp only
    split
    · split <;> exact ⟨rfl, rfl⟩
    · split <;> exact ⟨rfl, rfl⟩
  · exact ⟨rfl, rfl⟩

/-- A sweep brings no link up, and gives none up that was heard of lately. -/
theorem running_sweep
    (heard : link.running = true → now ≤ link.lastHeard + settings.deadInterval) :
    (link.sweep settings id now).1.running = link.running := by
  cases running : link.running with
  | false =>
      unfold sweep onTimer
      split
      · rw [if_neg (Bool.eq_false_iff.mp running)]
        split <;> exact running
      · exact running
  | true =>
      cases after : (link.sweep settings id now).1.running with
      | true =>
          rfl
      | false =>
          have silent := silent_of_lost running after
          have inTime := heard running
          omega

/-! At most one report is made of a link at a time. -/

theorem length_reports_loss
    (link : Link)
    (id : InterfaceId) :
    (Action.reports (link.loss id)).length ≤ 1 := by
  unfold loss
  split
  · exact Nat.le_refl 1
  · exact Nat.zero_le 1

/-- A farewell reports no more than a loss does. -/
theorem reports_farewell
    (link : Link)
    (id : InterfaceId) :
    Action.reports (link.farewell id) = Action.reports (link.loss id) := by
  rw [farewell_eq_loss_append, Action.reports_append]
  cases link.running <;> exact List.append_nil _

theorem length_reports_farewell
    (link : Link)
    (id : InterfaceId) :
    (Action.reports (link.farewell id)).length ≤ 1 := by
  rw [reports_farewell]
  exact link.length_reports_loss id

/-- Handling a timer reports nothing or the loss of the link. -/
theorem length_reports_onTimer
    (link : Link) :
    (Action.reports (link.onTimer settings id now).2).length ≤ 1 := by
  unfold onTimer
  split
  · split
    · exact Nat.le_refl 1
    · exact Nat.zero_le 1
  · split <;> exact Nat.zero_le 1

/-- A sweep reports nothing or the loss of the link. -/
theorem length_reports_sweep
    (link : Link) :
    (Action.reports (link.sweep settings id now).2).length ≤ 1 := by
  unfold sweep
  split
  · exact length_reports_onTimer _
  · exact Nat.zero_le 1

/-- A frame reports nothing, a change of the link or the message that it completes. -/
theorem length_reports_onFrame
    (interpret : String → Bool → List UInt8 → Option Report)
    (frame : Frame) :
    (Action.reports (link.onFrame settings interpret frame now).2).length ≤ 1 := by
  unfold onFrame
  cases frame.kind with
  | probe =>
      simp only
      split
      · exact Nat.zero_le 1
      · split
        · exact Nat.zero_le 1
        · exact Nat.le_refl 1
  | ack | disconnect =>
      simp only
      split
      · exact Nat.le_refl 1
      · exact Nat.zero_le 1
  | data =>
      simp only
      split
      · rw [Action.reports_toList_emit, Option.length_toList]
        split
        · exact Nat.le_refl 1
        · exact Nat.zero_le 1
      · exact Nat.zero_le 1

/-! Nothing is done about a disabled link. -/

theorem farewell_of_isDisabled
    (disabled : link.IsDisabled) :
    link.farewell id = [] :=
  if_neg (Bool.eq_false_iff.mp disabled.2)

theorem loss_of_isDisabled
    (disabled : link.IsDisabled) :
    link.loss id = [] :=
  if_neg (Bool.eq_false_iff.mp disabled.2)

/-- The timer of a disabled link has no effect that can be seen. -/
theorem onTimer_of_isDisabled
    (disabled : link.IsDisabled) :
    (link.onTimer settings id now).2 = [] := by
  have notRunning : ¬ link.running = true := Bool.eq_false_iff.mp disabled.2
  have notEligible : ¬ link.eligible = true := Bool.eq_false_iff.mp disabled.1
  rw [onTimer, if_neg notRunning, if_neg notEligible]

theorem sweep_of_isDisabled
    (disabled : link.IsDisabled) :
    (link.sweep settings id now).2 = [] := by
  unfold sweep
  split
  · exact onTimer_of_isDisabled disabled
  · rfl

/-- A disabled link answers no frame. -/
theorem onFrame_of_isDisabled
    (interpret : String → Bool → List UInt8 → Option Report)
    (frame : Frame)
    (disabled : link.IsDisabled) :
    (link.onFrame settings interpret frame now).2 = [] := by
  obtain ⟨notEligible, notRunning⟩ := disabled
  unfold onFrame
  cases frame.kind <;> simp [notEligible, notRunning]

end Link

namespace LinkView

open LinkTable (Operation)

/--
What holds of no action, and of what is done when the link is taken away, when a frame
arrives and when timers are swept, holds of what any operation does about an interface.
-/
theorem of_perform
    {P : List Action → Prop}
    {id : InterfaceId}
    {view : LinkView}
    (operation : Operation)
    (nothing : P [])
    (farewell : ∀ link, view.link? = some link → P (link.farewell id))
    (loss : ∀ link, view.link? = some link → P (link.loss id))
    (onFrame : ∀ link, view.link? = some link → ∀ frame now,
      P (link.onFrame view.settings (view.interpret id) frame now).2)
    (sweep : ∀ link, view.link? = some link → ∀ now,
      P (link.sweep view.settings id now).2) :
    P (view.perform id operation).2 := by
  have ofLink : ∀ done : Link → List Action,
      (∀ link, view.link? = some link → P (done link)) → P (view.link?.elim [] done) := by
    intro done each
    cases found : view.link? with
    | none =>
        exact nothing
    | some link =>
        exact each link found
  have ofStep : ∀ step : Link → Link × List Action,
      (∀ link, view.link? = some link → P (step link).2) → P (view.advance step).2 := by
    intro step each
    cases found : view.link? with
    | none =>
        rw [advance_of_missing found]
        exact nothing
    | some link =>
        rw [advance_of_found found]
        exact each link found
  unfold perform
  split
  · cases operation with
    | add | up | setFilter =>
        exact nothing
    | down | remove | teardown =>
        exact ofLink _ farewell
    | writeFailed | transportLost =>
        exact ofLink _ loss
    | frame frame now =>
        exact ofStep _ fun link found => onFrame link found frame now
    | sweep now =>
        exact ofStep _ fun link found => sweep link found now
  · exact nothing

/-- An operation makes at most one report of an interface. -/
theorem length_reports_perform
    (id : InterfaceId)
    (view : LinkView)
    (operation : Operation) :
    (Action.reports (view.perform id operation).2).length ≤ 1 :=
  of_perform (P := fun actions => (Action.reports actions).length ≤ 1) operation
    (Nat.zero_le 1)
    (fun link _ => link.length_reports_farewell id)
    (fun link _ => link.length_reports_loss id)
    (fun link _ frame _ => link.length_reports_onFrame _ frame)
    (fun link _ _ => link.length_reports_sweep)

/-- No operation has anything to do or to report about an interface that is out of use. -/
theorem perform_of_isDisabled
    {id : InterfaceId}
    {view : LinkView}
    (disabled : ∀ link, view.link? = some link → link.IsDisabled)
    (operation : Operation) :
    (view.perform id operation).2 = [] :=
  of_perform (P := (· = [])) operation rfl
    (fun link found => Link.farewell_of_isDisabled (disabled link found))
    (fun link found => Link.loss_of_isDisabled (disabled link found))
    (fun link found frame _ => Link.onFrame_of_isDisabled _ frame (disabled link found))
    (fun link found _ => Link.sweep_of_isDisabled (disabled link found))

end LinkView

/-! ## Interfaces of a table -/

namespace LinkTable

variable {table : LinkTable} {id : InterfaceId}
variable {pending : List (TimerHandle × InterfaceId)}

/-- An interface is eligible exactly if it has a link that is. -/
theorem isEligible_eq_any
    (table : LinkTable)
    (id : InterfaceId) :
    table.isEligible id = (table.link? id).any (·.eligible) := by
  rw [isEligible, link?, Option.any_map]
  rfl

/-- A link that is up is that of an eligible interface. -/
theorem InStep.eligible_of_link
    (inStep : table.InStep pending)
    {link : Link}
    (found : table.link? id = some link)
    (running : link.running = true) :
    link.eligible = true := by
  obtain ⟨record, foundRecord, rfl⟩ := Option.map_eq_some_iff.mp found
  exact inStep.eligible_of_running foundRecord running

/-- The link after a frame is what the frame makes of the link. -/
theorem link?_onFrame
    (inStep : table.InStep pending)
    (frame : Frame)
    (now : Nat) :
    (table.onFrame frame now).1.link? frame.id =
      (table.link? frame.id).map fun link =>
        (link.onFrame table.settings (table.interpret frame.id) frame now).1 := by
  have seen := congrArg LinkView.link? (Shows.onFrame inStep frame now frame.id).view
  rw [LinkView.perform_frame, interpret_view] at seen
  refine seen.trans ?_
  cases found : table.link? frame.id with
  | none =>
      rw [LinkView.advance_of_missing found]
      exact found
  | some link =>
      rw [LinkView.advance_of_found found]
      rfl

/-- What is not about an interface leaves it as it is, its timer included. -/
theorem link?_perform_of_unconcerned
    (inStep : table.InStep pending)
    {operation : Operation}
    (unconcerned : operation.concerns id = false) :
    (table.perform operation).1.link? id = table.link? id := by
  have unchanged : (table.view id).perform id operation = (table.view id, []) :=
    if_neg (Bool.eq_false_iff.mp unconcerned)
  have seen := congrArg LinkView.link? (Shows.perform inStep operation id).view
  rwa [unchanged] at seen

/-- A frame makes an interface neither eligible nor the opposite. -/
theorem isEligible_onFrame
    (inStep : table.InStep pending)
    (frame : Frame)
    (now : Nat)
    (id : InterfaceId) :
    (table.onFrame frame now).1.isEligible id = table.isEligible id := by
  by_cases isOwn : id = frame.id
  · subst id
    rw [isEligible_eq_any, link?_onFrame inStep, Option.any_map, isEligible_eq_any]
    exact congrArg (fun eligible => (table.link? frame.id).any eligible)
      (funext fun link => (link.eligible_and_lastHeard_onFrame _ now _ frame).1)
  · rw [isEligible, get?_onFrame_of_ne table isOwn, isEligible]

/--
A frame brings up the link of an eligible interface if it is a probe or an answer, and
takes it down if it is a disconnect.
-/
theorem isRunning_onFrame
    (inStep : table.InStep pending)
    (frame : Frame)
    (now : Nat) :
    (table.onFrame frame now).1.isRunning frame.id =
      (table.isEligible frame.id && frame.linkAfter (table.isRunning frame.id)) := by
  rw [isRunning_eq_any, link?_onFrame inStep, isEligible_eq_any, isRunning_eq_any]
  cases found : table.link? frame.id with
  | none =>
      rfl
  | some link =>
      exact link.running_onFrame _ frame (inStep.eligible_of_link found)

/-- A frame changes the state of its own interface only. -/
theorem isRunning_onFrame_of_ne
    (table : LinkTable)
    {frame : Frame}
    (differs : id ≠ frame.id)
    (now : Nat) :
    (table.onFrame frame now).1.isRunning id = table.isRunning id := by
  rw [isRunning, get?_onFrame_of_ne table differs, isRunning]

/-- Only a probe on an eligible interface is answered. -/
theorem frames_onFrame
    (table : LinkTable)
    (frame : Frame)
    (now : Nat) :
    Action.frames (table.onFrame frame now).2 =
      if frame.kind = .probe ∧ table.isEligible frame.id = true then
        [.ack frame.id]
      else
        [] := by
  unfold onFrame isEligible
  cases table.get? frame.id with
  | none =>
      exact (if_neg fun answered => Bool.false_ne_true answered.2).symm
  | some silent =>
      cases frame.kind with
      | probe =>
          simp only [Option.any_some, true_and]
          split
          · rfl
          · next eligible =>
              rw [if_pos (Decidable.not_not.mp eligible)]
              split <;> rfl
      | ack | disconnect =>
          simp only
          split <;> rfl
      | data =>
          simp only
          split
          · rw [onBlock_eq]
            exact Action.frames_toList_emit _
          · rfl

/-- All that handling a timer transmits are probes. -/
theorem kind_of_transmit_onTimer
    {handle : TimerHandle}
    {now : Nat}
    {frame : Frame}
    (transmitted : .transmit frame ∈ (table.onTimer handle id now).2) :
    frame.kind = .probe := by
  unfold onTimer at transmitted
  cases found : table.get? id with
  | none =>
      rw [found] at transmitted
      cases transmitted
  | some record =>
      simp only [found] at transmitted
      split at transmitted
      · cases transmitted
      · split at transmitted
        · split at transmitted
          · cases List.mem_singleton.mp transmitted
          · cases List.mem_singleton.mp transmitted
            rfl
        · split at transmitted
          · cases List.mem_singleton.mp transmitted
            rfl
          · cases transmitted

/-- A sweep transmits nothing but probes. -/
theorem kind_of_transmit_sweep
    {now : Nat}
    {frame : Frame}
    (transmitted : .transmit frame ∈ (table.sweep now).2) :
    frame.kind = .probe := by
  have ofTimers : ∀ due (table : LinkTable),
      .transmit frame ∈ (table.onTimers now due).2 → frame.kind = .probe := by
    intro due
    induction due with
    | nil =>
        nofun
    | cons entry rest inductionHypothesis =>
        intro table member
        rcases List.mem_append.mp member with isFirst | isLater
        · exact kind_of_transmit_onTimer isFirst
        · exact inductionHypothesis _ isLater
  exact ofTimers _ _ transmitted

/-- No operation changes the settings. -/
theorem settings_perform
    (inStep : table.InStep pending)
    (operation : Operation) :
    (table.perform operation).1.settings = table.settings :=
  (congrArg LinkView.settings (Shows.perform inStep operation 0).view).trans
    (LinkView.settings_perform 0 _ operation)

/-- An operation announces of an interface the change of its link, if there is one. -/
theorem statuses_perform
    (inStep : table.InStep pending)
    (operation : Operation)
    (id : InterfaceId) :
    Report.statuses id (Action.reports (table.perform operation).2) =
      if table.isRunning id = (table.perform operation).1.isRunning id then
        []
      else
        [if (table.perform operation).1.isRunning id then .up else .lost] := by
  apply LinkStatus.eq_of_replay? (announces_perform table operation id)
  rw [← Action.statuses_about, (Shows.perform inStep operation id).actions]
  exact Nat.le_trans (List.length_filterMap_le _ _) (LinkView.length_reports_perform id _ operation)

/-- What a table does of its own accord brings no link up. -/
theorem isRunning_of_own
    {operation : Operation}
    (own : ∀ frame now, operation ≠ .frame frame now)
    (running : (table.perform operation).1.isRunning id = true) :
    table.isRunning id = true := by
  by_contra notRunning
  have kept : LinkRecord.Kept fun record => record.running = false :=
    { registered := fun _ _ _ _ => rfl
      renamed := fun down _ _ => down
      shut := fun _ => rfl
      demoted := fun _ _ => rfl }
  have down : Holds (fun record => record.running = false) table id := by
    intro record found
    rw [isRunning_of_found found] at notRunning
    exact Bool.eq_false_iff.mpr notRunning
  obtain ⟨record, found, isUp⟩ := exists_of_isRunning running
  have isDown := down.perform_of_own kept own (fun _ _ _ has => has) record found
  exact Bool.false_ne_true (isDown.symm.trans isUp)

/-! ## Disabled interfaces -/

/-- An interface that is taken down is out of use, also if there is none. -/
theorem disabled_down
    (table : LinkTable)
    (id : InterfaceId) :
    (table.perform (.down id)).1.Disabled id := by
  rw [perform_down]
  exact disabled_of_shut ((get?_shutPolitely table id id).trans (if_pos rfl))

/-- The link of an interface that is out of use is disabled. -/
theorem Disabled.isDisabled_of_link
    (disabled : table.Disabled id)
    {link : Link}
    (found : table.link? id = some link) :
    link.IsDisabled := by
  obtain ⟨record, foundRecord, rfl⟩ := Option.map_eq_some_iff.mp found
  exact disabled record foundRecord

/-- Nothing is done about a disabled interface. -/
theorem about_perform_of_disabled
    (inStep : table.InStep pending)
    (disabled : table.Disabled id)
    (operation : Operation) :
    Action.about id (table.perform operation).2 = [] := by
  rw [(Shows.perform inStep operation id).actions]
  exact LinkView.perform_of_isDisabled (fun _ found => disabled.isDisabled_of_link found) operation

/-- Where all interfaces are disabled nothing is done. -/
theorem perform_of_disabled
    (inStep : table.InStep pending)
    (disabled : ∀ id, table.Disabled id)
    (operation : Operation) :
    (table.perform operation).2 = [] :=
  Action.eq_nil_of_about fun id => about_perform_of_disabled inStep (disabled id) operation

/-- Nothing is done either in a run in which none is made eligible. -/
theorem run_of_disabled
    (inStep : table.InStep pending)
    (disabled : ∀ id, table.Disabled id)
    {operations : List Operation}
    (noneRaised : ∀ id now, .up id now ∉ operations) :
    (table.run operations).2 = [] := by
  induction operations generalizing table with
  | nil =>
      rfl
  | cons operation rest inductionHypothesis =>
      have nothing := perform_of_disabled inStep disabled operation
      have stays : ∀ id, (table.perform operation).1.Disabled id :=
        fun id => (disabled id).perform_head (noneRaised id)
      have nothingLater := inductionHypothesis (inStep.perform operation) stays
        fun id now isLater => noneRaised id now (List.mem_cons_of_mem operation isLater)
      simp only [run, nothing, nothingLater, List.append_nil]

/-- No frame about a disabled interface is transmitted. -/
theorem id_ne_of_mem_frames
    (inStep : table.InStep pending)
    (disabled : table.Disabled id)
    (operation : Operation) :
    ∀ frame ∈ Action.frames (table.perform operation).2, frame.id ≠ id := by
  intro frame member isOwn
  have isAbout : .transmit frame ∈ Action.about id (table.perform operation).2 :=
    List.mem_filter.mpr ⟨Action.mem_frames_iff.mp member, decide_eq_true isOwn⟩
  rw [about_perform_of_disabled inStep disabled operation] at isAbout
  cases isAbout

/-! ## Taking links away -/

/-- The report that the link of an interface is lost, if it is up. -/
def losses (table : LinkTable) (id : InterfaceId) : List Report :=
  match table.get? id with
  | some record =>
      if record.running then [.ofLinkStatus id record.hardwareName .lost] else []
  | none => []

/-- The frame that ends the link of an interface, if it is up. -/
def farewells (table : LinkTable) (id : InterfaceId) : List Frame :=
  if table.isRunning id then [.disconnect id] else []

/-- A link that is down cannot be lost. -/
theorem losses_of_notRunning
    (notRunning : table.isRunning id = false) :
    table.losses id = [] := by
  unfold losses
  cases found : table.get? id with
  | none =>
      rfl
  | some record =>
      rw [isRunning_of_found found] at notRunning
      simp [notRunning]

/-- What is reported when links are taken away is that those that are up are lost. -/
theorem reports_loss
    (table : LinkTable)
    (id : InterfaceId) :
    Action.reports ((table.link? id).elim [] (·.loss id)) = table.losses id := by
  unfold losses
  cases found : table.get? id with
  | none =>
      rw [link?_of_missing found]
      rfl
  | some record =>
      rw [link?_of_found found]
      cases running : record.running <;> simp [Link.loss, LinkRecord.link, running] <;> rfl

/-- What is reported at a farewell is that the links that are up are lost. -/
theorem reports_farewell
    (table : LinkTable)
    (id : InterfaceId) :
    Action.reports ((table.link? id).elim [] (·.farewell id)) = table.losses id := by
  rw [← reports_loss]
  cases table.link? id with
  | none =>
      rfl
  | some link =>
      exact link.reports_farewell id

/-- What is transmitted at a farewell is one disconnect for each link that is up. -/
theorem frames_farewell
    (table : LinkTable)
    (id : InterfaceId) :
    Action.frames ((table.link? id).elim [] (·.farewell id)) = table.farewells id := by
  rw [farewells, isRunning_eq_any]
  cases table.link? id with
  | none =>
      rfl
  | some link =>
      rw [Option.elim_some, Option.any_some, Link.farewell]
      split <;> rfl

/-- What is done about every registered interface is done about none that is missing. -/
theorem elim_link?_of_keys
    (table : LinkTable)
    (id : InterfaceId)
    (done : Link → List Action) :
    (if id ∈ table.records.keys then (table.link? id).elim [] done else []) =
      (table.link? id).elim [] done := by
  split
  · rfl
  · next notKey =>
      rw [mem_keys_iff, not_exists] at notKey
      rw [link?_of_missing (Option.eq_none_iff_forall_not_mem.mpr notKey)]
      rfl

/-- When the transport is lost each link that was up is reported lost, and nothing else. -/
theorem reports_transportLost
    (inStep : table.InStep pending)
    (id : InterfaceId) :
    Report.about id (Action.reports table.transportLost.2) = table.losses id := by
  rw [← Action.reports_about, ← reports_loss, ← elim_link?_of_keys]
  exact congrArg Action.reports (about_shutAll inStep table.records.keys id)

/-- Nothing is transmitted when the transport is lost, as nobody can be told. -/
theorem frames_transportLost
    (table : LinkTable) :
    Action.frames table.transportLost.2 = [] := by
  refine List.filterMap_eq_nil_iff.mpr fun action member => ?_
  obtain ⟨report, _, rfl⟩ := List.mem_map.mp member
  rfl

/-- With the teardown each link that was up is reported lost, and its peer is told. -/
theorem reports_teardown
    (inStep : table.InStep pending)
    (id : InterfaceId) :
    Report.about id (Action.reports table.teardown.2) = table.losses id := by
  rw [← Action.reports_about, ← reports_farewell, ← elim_link?_of_keys]
  exact congrArg Action.reports (about_removeAll inStep table.records.keys id)

/-- At a teardown the peer of each link that was up is told once, and no other is. -/
theorem frames_teardown
    (inStep : table.InStep pending)
    (id : InterfaceId) :
    (Action.frames table.teardown.2).filter (·.id = id) = table.farewells id := by
  rw [← Action.frames_about, ← frames_farewell, ← elim_link?_of_keys]
  exact congrArg Action.frames (about_removeAll inStep table.records.keys id)

/-- There is nothing to be shut in a table without interfaces. -/
theorem shutAll_of_missing
    (missing : ∀ id, table.get? id = none)
    (ids : List InterfaceId) :
    table.shutAll ids = (table, []) := by
  induction ids with
  | nil =>
      rfl
  | cons id rest inductionHypothesis =>
      simp only [shutAll, shut, missing, inductionHypothesis]
      rfl

end LinkTable

end StationLink
