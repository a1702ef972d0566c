import StationLink.Proofs.ControlTraffic

namespace StationLink

/-!
# A link by itself

Interfaces share a table, a queue of timers and a transport, and yet what becomes of
one of them is decided by itself alone. A `Link` is an interface with the time for
which its timer is set, but without the handle of the timer, which tells only how many
interfaces were registered before. `LinkView` adds the settings and the filter, and
`LinkView.perform` is what an operation makes of a single interface.
-/

/-- An interface and the time for which its timer is linked. -/
structure Link where
  channel : UInt8
  hardwareName : String
  running : Bool := false
  eligible : Bool := false
  reception : Reception := { command := false }
  lastHeard : Nat
  /-- When the timer is due, if it is linked. -/
  due? : Option Nat := none

/-- A link table as it is seen from one of its interfaces. -/
structure LinkView where
  settings : LinkSettings
  filter? : Option Filter
  /-- The interface, if it is registered. -/
  link? : Option Link

/-- Whether an operation is about an interface, alone or among others. -/
def LinkTable.Operation.concerns (id : InterfaceId) : LinkTable.Operation → Bool
  | .add other _ _ | .up other _ | .down other | .remove other | .writeFailed other =>
      other = id
  | .frame arrived _ => arrived.id = id
  | .teardown | .transportLost | .setFilter _ | .sweep _ => true

/-- An operation installs no filter. -/
def LinkTable.Operation.InstallsNone (operation : LinkTable.Operation) : Prop :=
  ∀ filter, operation ≠ .setFilter (some filter)

/-- The interface that an action is about. -/
def Action.id : Action → InterfaceId
  | .transmit frame => frame.id
  | .emit report => report.id

/-- The actions about an interface, in order. -/
def Action.about (id : InterfaceId) (actions : List Action) : List Action :=
  actions.filter fun action => action.id = id

/-- No train is being received any more. -/
def Reception.cleared (reception : Reception) : Reception :=
  { reception with reassembler := .empty }

namespace Link

/-- The link of an interface that was registered, or registered anew. -/
def added
    (settings : LinkSettings)
    (id : InterfaceId)
    (params? : Option InterfaceParams)
    (now : Nat)
    (link? : Option Link) :
    Link :=
  let params := params?.getD { channel := settings.defaultChannel }
  let hardwareName := params.hardwareName?.getD (defaultHardwareName id)
  match link? with
  | some link => { link with channel := params.channel, hardwareName }
  | none => { channel := params.channel, hardwareName, lastHeard := now }

/-- The link made eligible: it is due for its first probe. -/
def raised (link : Link) (now : Nat) : Link :=
  if link.eligible then link else { link with eligible := true, due? := some now }

/-- The link without any activity. -/
def shut (link : Link) : Link :=
  { link with
    running := false
    eligible := false
    reception := link.reception.cleared
    due? := none }

/-- The link that has just come up, to be probed at a time. -/
def promoted (link : Link) (due : Nat) : Link :=
  { link with running := true, reception := link.reception.cleared, due? := some due }

/-- The link that has just been lost, to be trained at a time if it is eligible. -/
def demoted (link : Link) (due : Nat) : Link :=
  { link with
    running := false
    reception := link.reception.cleared
    due? := if link.eligible then some due else none }

/-- The link with its timer set for a time, unless the timer is linked already. -/
def resumed (link : Link) (due : Nat) : Link :=
  { link with due? := link.due?.or (some due) }

/-- Whether the timer is due. -/
def isDue (link : Link) (now : Nat) : Bool :=
  link.due?.any (· ≤ now)

/-- The report that the status of the link changed. -/
def announcement (link : Link) (id : InterfaceId) (status : LinkStatus) : Action :=
  .emit (.ofLinkStatus id link.hardwareName status)

/-- What is reported when the link is taken away. -/
def loss (link : Link) (id : InterfaceId) : List Action :=
  if link.running then [link.announcement id .lost] else []

/-- What is done when the link is taken away and the peer can be told. -/
def farewell (link : Link) (id : InterfaceId) : List Action :=
  if link.running then [link.announcement id .lost, .transmit (.disconnect id)] else []

/-- At a farewell the loss is reported and then the peer is told. -/
theorem farewell_eq_loss_append
    (link : Link)
    (id : InterfaceId) :
    link.farewell id =
      link.loss id ++ if link.running then [.transmit (.disconnect id)] else [] := by
  cases running : link.running <;> simp [farewell, loss, running]

theorem id_of_mem_loss
    (link : Link)
    (id : InterfaceId) :
    ∀ action ∈ link.loss id, action.id = id := by
  unfold loss
  split
  · exact List.forall_mem_singleton.mpr rfl
  · nofun

theorem id_of_mem_farewell
    (link : Link)
    (id : InterfaceId) :
    ∀ action ∈ link.farewell id, action.id = id := by
  rw [farewell_eq_loss_append, List.forall_mem_append]
  refine ⟨link.id_of_mem_loss id, ?_⟩
  split
  · exact List.forall_mem_singleton.mpr rfl
  · nofun

/-- The timer is handled. -/
def onTimer
    (settings : LinkSettings)
    (link : Link)
    (id : InterfaceId)
    (now : Nat) :
    Link × List Action :=
  if link.running then
    if settings.deadInterval < now - link.lastHeard then
      (link.demoted (now + settings.retryInterval), [link.announcement id .lost])
    else
      (link.resumed (now + settings.keepaliveInterval), [.transmit (.probe id link.channel)])
  else if link.eligible then
    (link.resumed (now + settings.retryInterval), [.transmit (.probe id link.channel)])
  else
    (link, [])

/-- The timer is taken out of the queue and handled if it is due. -/
def sweep
    (settings : LinkSettings)
    (link : Link)
    (id : InterfaceId)
    (now : Nat) :
    Link × List Action :=
  if link.isDue now then { link with due? := none }.onTimer settings id now else (link, [])

/-- Handling the timer of a link is about its interface only. -/
theorem id_of_mem_onTimer
    (settings : LinkSettings)
    (link : Link)
    (id : InterfaceId)
    (now : Nat) :
    ∀ action ∈ (link.onTimer settings id now).2, action.id = id := by
  unfold onTimer
  split
  · split
    · exact List.forall_mem_singleton.mpr rfl
    · exact List.forall_mem_singleton.mpr rfl
  · split
    · exact List.forall_mem_singleton.mpr rfl
    · nofun

/-- A frame arrived. -/
def onFrame
    (settings : LinkSettings)
    (interpret : String → Bool → List UInt8 → Option Report)
    (silent : Link)
    (frame : Frame)
    (now : Nat) :
    Link × List Action :=
  let link := { silent with lastHeard := now }
  match frame.kind with
  | .probe =>
      if ¬ link.eligible then
        (link, [])
      else if link.running then
        (link, [.transmit (.ack frame.id)])
      else
        (link.promoted (now + settings.keepaliveInterval),
          [.transmit (.ack frame.id), link.announcement frame.id .up])
  | .ack =>
      if link.eligible ∧ ¬ link.running then
        (link.promoted (now + settings.keepaliveInterval), [link.announcement frame.id .up])
      else
        (link, [])
  | .disconnect =>
      if link.running then
        (link.demoted (now + settings.retryInterval), [link.announcement frame.id .lost])
      else
        (link, [])
  | .data =>
      if link.running then
        let (reception, message?) := link.reception.take frame.command frame.block
        ({ link with reception },
          ((message?.bind (interpret link.hardwareName frame.command)).map .emit).toList)
      else
        (link, [])

/-- A frame is about the interface that its number names only. -/
theorem id_of_mem_onFrame
    (settings : LinkSettings)
    {interpret : String → Bool → List UInt8 → Option Report}
    (link : Link)
    {frame : Frame}
    (now : Nat)
    (isOwn : ∀ hardwareName command message report,
      interpret hardwareName command message = some report → report.id = frame.id) :
    ∀ action ∈ (link.onFrame settings interpret frame now).2, action.id = frame.id := by
  unfold onFrame
  cases frame.kind with
  | probe =>
      simp only
      split
      · nofun
      · split
        · exact List.forall_mem_singleton.mpr rfl
        · exact List.forall_mem_cons.mpr ⟨rfl, List.forall_mem_singleton.mpr rfl⟩
  | ack =>
      simp only
      split
      · exact List.forall_mem_singleton.mpr rfl
      · nofun
  | disconnect =>
      simp only
      split
      · exact List.forall_mem_singleton.mpr rfl
      · nofun
  | data =>
      simp only
      split
      · intro action member
        rw [Option.mem_toList, Option.map_eq_some_iff] at member
        obtain ⟨report, interpreted, rfl⟩ := member
        obtain ⟨message, _, isReport⟩ := Option.bind_eq_some_iff.mp interpreted
        exact isOwn _ _ message report isReport
      · nofun

end Link

namespace LinkView

/-- The view with another link, or none. -/
def withLink (view : LinkView) (link? : Option Link) : LinkView :=
  { view with link? }

/-- What is reported of a message that arrives. -/
def interpret (view : LinkView) (id : InterfaceId) : String → Bool → List UInt8 → Option Report :=
  ((LinkTable.ofSettings view.settings).setFilter view.filter?).interpret id

open LinkTable (Operation)

/-- The link goes on to another one and asks for actions, if there is a link. -/
def advance (view : LinkView) (step : Link → Link × List Action) : LinkView × List Action :=
  match view.link? with
  | some link => (view.withLink (some (step link).1), (step link).2)
  | none => (view, [])

theorem withLink_self
    {view : LinkView}
    {link? : Option Link}
    (same : view.link? = link?) :
    view.withLink link? = view := by
  rw [← same]
  rfl

theorem advance_of_found
    {view : LinkView}
    {link : Link}
    (found : view.link? = some link)
    (step : Link → Link × List Action) :
    view.advance step = (view.withLink (some (step link).1), (step link).2) := by
  simp only [advance, found]

theorem advance_of_missing
    {view : LinkView}
    (missing : view.link? = none)
    (step : Link → Link × List Action) :
    view.advance step = (view, []) := by
  simp only [advance, missing]

/-- What an operation makes of an interface that it is about, and what it does about it. -/
def performOwn (id : InterfaceId) (view : LinkView) : Operation → LinkView × List Action
  | .add _ params? now =>
      (view.withLink (some (.added view.settings id params? now view.link?)), [])
  | .up _ now =>
      (view.withLink (view.link?.map (·.raised now)), [])
  | .down _ =>
      (view.withLink (view.link?.map .shut), view.link?.elim [] (·.farewell id))
  | .remove _ | .teardown =>
      (view.withLink none, view.link?.elim [] (·.farewell id))
  | .frame frame now =>
      view.advance fun link => link.onFrame view.settings (view.interpret id) frame now
  | .writeFailed _ | .transportLost =>
      (view.withLink (view.link?.map .shut), view.link?.elim [] (·.loss id))
  | .setFilter filter? =>
      ({ view with filter? }, [])
  | .sweep now =>
      view.advance fun link => link.sweep view.settings id now

/-- What an operation makes of an interface, and what it does about it. -/
def perform (id : InterfaceId) (view : LinkView) (operation : Operation) :
    LinkView × List Action :=
  if operation.concerns id then view.performOwn id operation else (view, [])

/-- A frame is about the interface on which it arrives. -/
theorem perform_frame
    (view : LinkView)
    (frame : Frame)
    (now : Nat) :
    view.perform frame.id (.frame frame now) =
      view.advance fun link =>
        link.onFrame view.settings (view.interpret frame.id) frame now :=
  if_pos (decide_eq_true rfl)

/-- What operations make of an interface one after another. -/
def run (id : InterfaceId) (view : LinkView) : List Operation → LinkView × List Action
  | [] => (view, [])
  | operation :: rest =>
      let (view, actions) := view.perform id operation
      let (view, others) := view.run id rest
      (view, actions ++ others)

theorem settings_advance
    (view : LinkView)
    (step : Link → Link × List Action) :
    (view.advance step).1.settings = view.settings := by
  unfold advance
  split <;> rfl

/-- No operation changes the settings that an interface sees. -/
theorem settings_perform
    (id : InterfaceId)
    (view : LinkView)
    (operation : Operation) :
    (view.perform id operation).1.settings = view.settings := by
  unfold perform
  split
  · cases operation with
    | frame | sweep =>
        exact settings_advance view _
    | add | up | down | remove | teardown | writeFailed | transportLost | setFilter =>
        rfl
  · rfl

/-- Where no filter is installed there is none afterwards. -/
theorem filter?_perform
    (id : InterfaceId)
    {view : LinkView}
    (noFilter : view.filter? = none)
    {operation : Operation}
    (installsNone : operation.InstallsNone) :
    (view.perform id operation).1.filter? = none := by
  unfold perform
  split
  · cases operation with
    | frame | sweep =>
        simp only [performOwn, advance]
        split <;> exact noFilter
    | setFilter filter? =>
        cases filter? with
        | none =>
            rfl
        | some filter =>
            exact (installsNone filter rfl).elim
    | add | up | down | remove | teardown | writeFailed | transportLost =>
        exact noFilter
  · exact noFilter

/-- Operations choose no other settings. -/
theorem settings_run
    (id : InterfaceId)
    (view : LinkView)
    (operations : List Operation) :
    (view.run id operations).1.settings = view.settings := by
  induction operations generalizing view with
  | nil =>
      rfl
  | cons operation rest inductionHypothesis =>
      exact (inductionHypothesis _).trans (settings_perform id view operation)

/-- Operations that are not about an interface make no difference to it. -/
theorem run_filter_concerns
    (id : InterfaceId)
    (view : LinkView)
    (operations : List Operation) :
    view.run id (operations.filter (·.concerns id)) = view.run id operations := by
  induction operations generalizing view with
  | nil =>
      rfl
  | cons operation rest inductionHypothesis =>
      by_cases isAbout : operation.concerns id
      · rw [List.filter_cons_of_pos isAbout, run, run]
        simp only [inductionHypothesis]
      · have nothing : view.perform id operation = (view, []) := if_neg isAbout
        rw [List.filter_cons_of_neg isAbout, run, nothing]
        simp only [inductionHypothesis, List.nil_append]

end LinkView

end StationLink
