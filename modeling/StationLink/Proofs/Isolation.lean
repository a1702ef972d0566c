import StationLink.Proofs.SideBySide

namespace StationLink

/-!
# Isolation

Whatever is done to a link table, each of its interfaces becomes what it would become
by itself, and what is done about it is what would be done if it were alone
(`LinkTable.Shows.perform`, `LinkTable.Shows.run`). So operations on other interfaces
can be left out without any difference to it (`LinkTable.run_isolated`), although they
shift the handles of timers, the order of sweeps and the names that are taken.
-/

namespace LinkTable

variable {table changed : LinkTable}
variable {pending later : List (TimerHandle × InterfaceId)}
variable {id : InterfaceId} {record : LinkRecord}

/-! ## Frames and timers -/

/-- An outcome amounts to what became of one interface and what there is to do about it. -/
structure Yields
    (id : InterfaceId)
    (table : LinkTable)
    (outcome : LinkTable × List Action)
    (alone : Link × List Action) : Prop where
  replaces : Replaces id (some alone.1) table outcome.1
  actions : outcome.2 = alone.2

namespace Yields

/-- Where a table and a link by itself tell two cases apart in the same way. -/
theorem ite
    {condition : Prop}
    [Decidable condition]
    {outcome other : LinkTable × List Action}
    {alone otherAlone : Link × List Action}
    (yes : condition → Yields id table outcome alone)
    (no : ¬ condition → Yields id table other otherAlone) :
    Yields id table (if condition then outcome else other)
      (if condition then alone else otherAlone) := by
  split
  · next holds =>
      exact yes holds
  · next fails =>
      exact no fails

/-- A frame makes of its interface what it makes of the link alone. -/
theorem onFrame
    {frame : Frame}
    (inStep : table.InStep pending)
    (found : table.get? frame.id = some record)
    (now : Nat) :
    Yields frame.id table (table.onFrame frame now)
      ((record.link (table.due? record.timer)).onFrame table.settings
        (table.interpret frame.id) frame now) := by
  let heard := table.set frame.id (record.hearing now)
  have hears : Replaces frame.id
      (some ((record.hearing now).link (table.due? record.timer))) table heard :=
    .set inStep found _ rfl
  have heardInStep : heard.InStep pending :=
    inStep.set found (record.hearing now) rfl rfl rfl
  have foundHeard : heard.get? frame.id = some (record.hearing now) := by
    rw [get?_set, if_pos rfl]
  have promoted := hears.trans (.promote heardInStep foundHeard now)
  have demoted := hears.trans (.demote heardInStep foundHeard now)
  unfold LinkTable.onFrame Link.onFrame
  simp only [found]
  cases frame.kind with
  | probe =>
      refine ite (fun _ => ⟨hears, rfl⟩) fun _ => ?_
      exact ite (fun _ => ⟨hears, rfl⟩) fun _ => ⟨promoted, rfl⟩
  | ack =>
      exact ite (fun _ => ⟨promoted, rfl⟩) fun _ => ⟨hears, rfl⟩
  | disconnect =>
      exact ite (fun _ => ⟨demoted, rfl⟩) fun _ => ⟨hears, rfl⟩
  | data =>
      refine ite (fun _ => ?_) fun _ => ⟨hears, rfl⟩
      let outcome := (record.hearing now).reception.take frame.command frame.block
      have taken := hears.trans
        (.set heardInStep foundHeard ((record.hearing now).receiving outcome.1) rfl)
      have sameInterpret : heard.interpret = table.interpret := interpret_of_sameFilter rfl
      have sameReport :
          outcome.2.bind (heard.interpret frame.id record.hardwareName frame.command) =
            outcome.2.bind (table.interpret frame.id record.hardwareName frame.command) := by
        rw [sameInterpret]
      rw [onBlock_eq]
      exact ⟨taken, congrArg (fun report? => (report?.map Action.emit).toList) sameReport⟩

/-- A timer that is handled makes of its interface what it makes of the link alone. -/
theorem onTimer
    (inStep : table.InStep pending)
    (found : table.get? id = some record)
    (now : Nat) :
    Yields id table (table.onTimer record.timer id now)
      ((record.link (table.due? record.timer)).onTimer table.settings id now) := by
  unfold LinkTable.onTimer Link.onTimer
  simp only [found, ne_eq, not_true_eq_false, if_false]
  refine ite (fun _ => ?_) fun _ => ?_
  · refine ite (fun _ => ?_) fun _ => ?_
    · exact ⟨.demote inStep found now, rfl⟩
    · exact ⟨.resumeTimer inStep found _, rfl⟩
  · refine ite (fun _ => ?_) fun _ => ?_
    · exact ⟨.resumeTimer inStep found _, rfl⟩
    · exact ⟨.nothing (link?_of_found found), rfl⟩

end Yields

/-! ## Sweeps -/

/-- An entry of the list of due timers is that of an interface. -/
def Waits (table : LinkTable) (id : InterfaceId) (entry : TimerHandle × InterfaceId) : Prop :=
  ∃ record, table.get? id = some record ∧ entry = (record.timer, id)

/-- Handling the timer of another interface, or one that is not current, is not noticed. -/
theorem unnoticed_onTimer
    {entry : TimerHandle × InterfaceId}
    (inStep : table.InStep (entry :: later))
    (notOwn : ¬ table.Waits id entry)
    (now : Nat) :
    let outcome := table.onTimer entry.1 entry.2 now
    outcome.1.view id = table.view id ∧ outcome.1.get? id = table.get? id ∧
      Action.about id outcome.2 = [] := by
  obtain ⟨handle, owner⟩ := entry
  cases found : table.get? owner with
  | none =>
      have nothing : table.onTimer handle owner now = (table, []) := by
        simp only [onTimer, found]
      rw [nothing]
      exact ⟨rfl, rfl, rfl⟩
  | some record =>
      by_cases current : record.timer = handle
      · subst handle
        have differs : id ≠ owner := by
          intro isOwner
          exact notOwn ⟨record, isOwner ▸ found, by rw [isOwner]⟩
        have yields := Yields.onTimer inStep found now
        refine ⟨?_, get?_onTimer_of_ne table differs record.timer now, ?_⟩
        · rw [yields.replaces.view_eq, if_neg differs]
        · rw [yields.actions, Action.about_eq_ite (Link.id_of_mem_onTimer _ _ owner now),
            if_neg differs]
      · have nothing : table.onTimer handle owner now = (table, []) := by
          simp only [onTimer, found, ne_eq, current, not_false_eq_true, if_true]
        rw [nothing]
        exact ⟨rfl, rfl, rfl⟩

/-- Handling the timers of others goes unnoticed by an interface. -/
theorem unnoticed_onTimers
    (inStep : table.InStep (pending ++ later))
    (notOwn : ∀ entry ∈ pending, ¬ table.Waits id entry)
    (now : Nat) :
    (table.onTimers now pending).1.view id = table.view id ∧
      Action.about id (table.onTimers now pending).2 = [] := by
  induction pending generalizing table with
  | nil =>
      exact ⟨rfl, rfl⟩
  | cons entry rest inductionHypothesis =>
      obtain ⟨sameView, sameRecord, nothing⟩ :=
        unnoticed_onTimer inStep (notOwn entry List.mem_cons_self) now
      have restNotOwn : ∀ other ∈ rest,
          ¬ (table.onTimer entry.1 entry.2 now).1.Waits id other := by
        rintro other member ⟨record, found, isOwn⟩
        rw [sameRecord] at found
        exact notOwn other (List.mem_cons_of_mem _ member) ⟨record, found, isOwn⟩
      obtain ⟨sameViewAfter, nothingAfter⟩ :=
        inductionHypothesis (inStep.onTimer now) restNotOwn
      simp only [onTimers, Action.about_append, nothing, nothingAfter, List.append_nil,
        and_true]
      exact sameViewAfter.trans sameView

/-- Once the timer of an interface is handled, no other entry of the list is its own. -/
theorem not_waits_onTimer
    {rest : List (TimerHandle × InterfaceId)}
    (found : table.get? id = some record)
    (notLater : record.timer ∉ rest.map (·.1))
    (now : Nat) :
    ∀ other ∈ rest, ¬ (table.onTimer record.timer id now).1.Waits id other := by
  rintro other isLater ⟨after, foundAfter, isOwn⟩
  have same := (SameRegistration.onTimer table record.timer id now).registration id
  rw [found, foundAfter] at same
  have sameTimer : after.timer = record.timer :=
    congrArg Registration.timer (Option.some.inj same)
  rw [isOwn, sameTimer] at isLater
  exact notLater (List.mem_map_of_mem isLater)

/-- Tables that look the same to an interface set its timer for the same time. -/
theorem due?_of_sameView
    (sameView : changed.view id = table.view id)
    (found : table.get? id = some record)
    (foundAfter : changed.get? id = some record) :
    changed.due? record.timer = table.due? record.timer := by
  have sameLink : changed.link? id = table.link? id := congrArg LinkView.link? sameView
  rw [link?_of_found foundAfter, link?_of_found found] at sameLink
  exact congrArg Link.due? (Option.some.inj sameLink)

/-- An interface whose timer is among those to be handled notices its own only. -/
theorem noticed_onTimers
    (inStep : table.InStep (pending ++ later))
    (handlesNodup : (pending.map (·.1)).Nodup)
    (found : table.get? id = some record)
    (member : (record.timer, id) ∈ pending)
    (now : Nat) :
    let alone := (record.link (table.due? record.timer)).onTimer table.settings id now
    (table.onTimers now pending).1.view id = (table.view id).withLink (some alone.1) ∧
      Action.about id (table.onTimers now pending).2 = alone.2 := by
  intro alone
  induction pending generalizing table with
  | nil =>
      cases member
  | cons entry rest inductionHypothesis =>
      obtain ⟨notLater, restNodup⟩ := List.nodup_cons.mp handlesNodup
      simp only [onTimers, Action.about_append]
      rcases List.mem_cons.mp member with isFirst | isLater
      · subst entry
        have yields := Yields.onTimer inStep found now
        obtain ⟨sameView, nothing⟩ := unnoticed_onTimers (inStep.onTimer now)
          (not_waits_onTimer found notLater now) now
        rw [sameView, nothing, yields.replaces.view_eq, if_pos rfl, yields.actions,
          Action.about_eq_ite (Link.id_of_mem_onTimer _ _ id now), if_pos rfl,
          List.append_nil]
        exact ⟨rfl, rfl⟩
      · have notOwn : ¬ table.Waits id entry := by
          rintro ⟨other, foundOther, isOwn⟩
          cases found.symm.trans foundOther
          rw [isOwn] at notLater
          exact notLater (List.mem_map_of_mem isLater)
        obtain ⟨sameView, sameRecord, nothing⟩ := unnoticed_onTimer inStep notOwn now
        have foundAfter := sameRecord.trans found
        have sameSettings : (table.onTimer entry.1 entry.2 now).1.settings = table.settings :=
          congrArg LinkView.settings sameView
        have later := inductionHypothesis (inStep.onTimer now) restNodup foundAfter isLater
        simp only [due?_of_sameView sameView found foundAfter, sameView, sameSettings] at later
        rw [nothing, List.nil_append]
        exact later

/-- A link is due exactly if its timer is. -/
theorem isDue_link
    (record : LinkRecord)
    (timer : Timer InterfaceId)
    (now : Nat) :
    (record.link timer.due?).isDue now = timer.isDue now := by
  cases linked : timer.linked <;>
    simp [Link.isDue, LinkRecord.link, Timer.due?, Timer.isDue, linked]

/-- A link whose timer was taken out of the queue if it was due. -/
theorem link?_takeDue
    (wellFormed : table.timers.WellFormed)
    (now : Nat)
    (id : InterfaceId) :
    { table with timers := (table.timers.takeDue now).2 }.link? id =
      (table.link? id).map fun link =>
        if link.isDue now then { link with due? := none } else link := by
  simp only [link?, Option.map_map]
  refine Option.map_congr fun record _ => ?_
  simp only [Function.comp_apply, due?, wellFormed.get?_takeDue]
  cases table.timers.get? record.timer with
  | none =>
      rfl
  | some timer =>
      simp only [Option.map_some, Option.bind_some, isDue_link]
      split <;> rfl

/-- A sweep does to each interface what handling its timer does, if it is due. -/
theorem noticed_sweep
    (inStep : table.InStep pending)
    (found : table.get? id = some record)
    (now : Nat) :
    let alone := (record.link (table.due? record.timer)).sweep table.settings id now
    (table.sweep now).1.view id = (table.view id).withLink (some alone.1) ∧
      Action.about id (table.sweep now).2 = alone.2 := by
  intro alone
  let taken := { table with timers := (table.timers.takeDue now).2 }
  let link := record.link (table.due? record.timer)
  have takenInStep : taken.InStep ((table.timers.takeDue now).1 ++ pending) :=
    inStep.takeDue now
  have foundTaken : taken.get? id = some record := found
  have linkTaken := link?_takeDue inStep.wellFormed now id
  rw [link?_of_found found, Option.map_some] at linkTaken
  obtain ⟨timer, slot, owner, _⟩ := inStep.timer_of_record found
  have sameDue : link.isDue now = timer.isDue now := by
    simp only [link, due?, slot, Option.bind_some, isDue_link]
  by_cases isDue : link.isDue now
  · have handled : alone = { link with due? := none }.onTimer table.settings id now :=
      if_pos isDue
    have member := inStep.wellFormed.mem_due slot (sameDue.symm.trans isDue)
    rw [owner] at member
    have noticed := noticed_onTimers takenInStep
      (inStep.wellFormed.nodup_due now) foundTaken member now
    rw [if_pos isDue, link?_of_found foundTaken] at linkTaken
    rw [Option.some.inj linkTaken] at noticed
    rw [handled]
    exact noticed
  · have untouched : alone = (link, []) := if_neg isDue
    have notOwn : ∀ entry ∈ (table.timers.takeDue now).1, ¬ taken.Waits id entry := by
      rintro entry member ⟨other, foundOther, isOwn⟩
      rw [foundTaken] at foundOther
      cases foundOther
      rw [isOwn] at member
      obtain ⟨other, otherSlot, otherDue, _⟩ :=
        inStep.wellFormed.exists_of_mem_due member
      rw [slot] at otherSlot
      cases otherSlot
      exact isDue (sameDue.trans otherDue)
    obtain ⟨sameView, nothing⟩ := unnoticed_onTimers takenInStep notOwn now
    rw [if_neg isDue] at linkTaken
    rw [untouched]
    refine ⟨sameView.trans ?_, nothing⟩
    exact congrArg (table.view id).withLink linkTaken

/-- A sweep leaves an interface that is not registered unregistered. -/
theorem unnoticed_sweep
    (inStep : table.InStep pending)
    (missing : table.get? id = none)
    (now : Nat) :
    (table.sweep now).1.view id = table.view id ∧
      Action.about id (table.sweep now).2 = [] := by
  have notOwn : ∀ entry ∈ (table.timers.takeDue now).1,
      ¬ { table with timers := (table.timers.takeDue now).2 }.Waits id entry := by
    rintro entry _ ⟨record, found, _⟩
    cases missing.symm.trans found
  obtain ⟨sameView, nothing⟩ := unnoticed_onTimers (inStep.takeDue now) notOwn now
  refine ⟨sameView.trans ?_, nothing⟩
  have linkTaken := link?_takeDue inStep.wellFormed now id
  rw [link?_of_missing missing] at linkTaken
  have sameLink := linkTaken.trans (link?_of_missing missing).symm
  exact congrArg (table.view id).withLink sameLink

/-! ## Runs -/

/-- Messages are interpreted from what the interface sees of the table. -/
theorem interpret_view
    (table : LinkTable)
    (id : InterfaceId) :
    (table.view id).interpret id = table.interpret id := by
  have sameFilter :
      ((ofSettings table.settings).setFilter table.filter?).interpret = table.interpret :=
    interpret_of_sameFilter rfl
  exact congrFun sameFilter id

/-- Lowering an interface takes it down politely, if there is one. -/
theorem perform_down
    (table : LinkTable)
    (id : InterfaceId) :
    table.perform (.down id) = table.shutPolitely id := by
  simp only [perform, down]
  cases found : table.get? id with
  | none =>
      simp only [shutPolitely, shut, found]
  | some record =>
      rfl

/-- Removing an interface takes it down politely and forgets it, if there is one. -/
theorem perform_remove
    (table : LinkTable)
    (id : InterfaceId) :
    table.perform (.remove id) =
      ((table.shutPolitely id).1.forget id, (table.shutPolitely id).2) := by
  simp only [perform, remove, down]
  cases found : table.get? id with
  | none =>
      simp only [shutPolitely, shut, forget, found]
  | some record =>
      rfl

/-- Making an interface eligible replaces it, whether or not it is registered. -/
theorem replaces_perform_up
    (inStep : table.InStep pending)
    (owner : InterfaceId)
    (now : Nat) :
    Replaces owner ((table.link? owner).map (·.raised now)) table
      (table.perform (.up owner now)).1 := by
  simp only [perform]
  cases raised : table.up owner now with
  | ok outcome =>
      exact .up inStep raised
  | error error =>
      have missing : table.get? owner = none := by
        unfold LinkTable.up at raised
        cases found : table.get? owner with
        | none =>
            rfl
        | some record =>
            simp only [found] at raised
            split at raised <;> cases raised
      rw [link?_of_missing missing]
      exact .nothing (link?_of_missing missing)

/-- An outcome shows itself to an interface as the given view and actions. -/
structure Shows
    (id : InterfaceId)
    (outcome : LinkTable × List Action)
    (seen : LinkView × List Action) : Prop where
  view : outcome.1.view id = seen.1
  actions : Action.about id outcome.2 = seen.2

namespace Shows

/-- What replaces an interface shows itself to that interface and to no other. -/
theorem of_replaces
    {owner : InterfaceId}
    {link? : Option Link}
    {actions own : List Action}
    {operation : Operation}
    (replaces : Replaces owner link? table changed)
    (areAbout : Action.about id actions = if id = owner then own else [])
    (isOwn : operation.concerns id = decide (owner = id))
    (alone : owner = id →
      (table.view id).performOwn id operation = ((table.view id).withLink link?, own)) :
    Shows id (changed, actions) ((table.view id).perform id operation) := by
  have seen := replaces.view_eq id
  simp only [LinkView.perform, isOwn, decide_eq_true_eq]
  by_cases same : owner = id
  · rw [if_pos same.symm] at seen areAbout
    rw [if_pos same, alone same]
    exact ⟨seen, areAbout⟩
  · rw [if_neg (Ne.symm same)] at seen areAbout
    rw [if_neg same]
    exact ⟨seen, areAbout⟩

/-- Where nothing is done, nothing is done about any interface. -/
theorem about_nil (owner : InterfaceId) :
    Action.about id [] = if id = owner then [] else [] :=
  (ite_self []).symm

/-- A frame shows an interface what its view makes of the frame. -/
theorem onFrame
    (inStep : table.InStep pending)
    (frame : Frame)
    (now : Nat)
    (id : InterfaceId) :
    Shows id (table.onFrame frame now) ((table.view id).perform id (.frame frame now)) := by
  cases found : table.get? frame.id with
  | none =>
      have nothing : table.onFrame frame now = (table, []) := by
        simp only [LinkTable.onFrame, found]
      have missing := link?_of_missing found
      rw [nothing]
      refine of_replaces (.nothing missing) (about_nil frame.id) rfl ?_
      rintro rfl
      rw [LinkView.withLink_self missing]
      exact LinkView.advance_of_missing missing _
  | some record =>
      have yields := Yields.onFrame inStep found now
      have isOwn : ∀ hardwareName command message report,
          table.interpret frame.id hardwareName command message = some report →
            report.id = frame.id :=
        fun _ _ _ _ => id_of_interpret
      have ownOnly := Link.id_of_mem_onFrame table.settings
        (record.link (table.due? record.timer)) now isOwn
      have areAbout : Action.about id (table.onFrame frame now).2 = _ :=
        (congrArg (Action.about id) yields.actions).trans (Action.about_eq_ite ownOnly id)
      refine of_replaces yields.replaces areAbout rfl ?_
      rintro rfl
      rw [← interpret_view]
      exact LinkView.advance_of_found (link?_of_found found) _

/-- A sweep shows an interface what its view makes of the sweep. -/
theorem sweep
    (inStep : table.InStep pending)
    (now : Nat)
    (id : InterfaceId) :
    Shows id (table.sweep now) ((table.view id).perform id (.sweep now)) := by
  cases found : table.get? id with
  | none =>
      obtain ⟨sameView, nothing⟩ := unnoticed_sweep inStep found now
      have alone : (table.view id).perform id (.sweep now) = (table.view id, []) :=
        LinkView.advance_of_missing (link?_of_missing found) _
      rw [alone]
      exact ⟨sameView, nothing⟩
  | some record =>
      obtain ⟨newView, actions⟩ := noticed_sweep inStep found now
      have linked : (table.view id).link? = some _ := link?_of_found found
      have alone := LinkView.advance_of_found linked
        fun link => link.sweep table.settings id now
      exact ⟨newView.trans (congrArg Prod.fst alone).symm,
        actions.trans (congrArg Prod.snd alone).symm⟩

/-- What is done to every registered interface is not noticed by one that is not. -/
theorem of_everywhere
    {after : LinkTable}
    {actions : List Action}
    {operation : Operation}
    (change : Option Link → Option Link)
    {done : Link → List Action}
    (newView : after.view id =
      if id ∈ table.records.keys then
        (table.view id).withLink (change (table.link? id))
      else
        table.view id)
    (areAbout : Action.about id actions =
      if id ∈ table.records.keys then (table.link? id).elim [] done else [])
    (missing : change none = none)
    (alone : (table.view id).perform id operation =
      ((table.view id).withLink (change (table.link? id)), (table.link? id).elim [] done)) :
    Shows id (after, actions) ((table.view id).perform id operation) := by
  rw [alone]
  by_cases isKey : id ∈ table.records.keys
  · rw [if_pos isKey] at newView areAbout
    exact ⟨newView, areAbout⟩
  · have notFound : table.get? id = none := by
      rw [mem_keys_iff, not_exists] at isKey
      exact Option.eq_none_iff_forall_not_mem.mpr isKey
    have noLink := link?_of_missing notFound
    rw [if_neg isKey] at newView areAbout
    rw [noLink, missing, LinkView.withLink_self noLink]
    exact ⟨newView, areAbout⟩

/-- Every operation shows itself to each interface as it would if there were no other. -/
theorem perform
    (inStep : table.InStep pending)
    (operation : Operation)
    (id : InterfaceId) :
    Shows id (table.perform operation) ((table.view id).perform id operation) := by
  cases operation with
  | add owner params? now =>
      refine of_replaces (.add inStep owner params? now) (about_nil owner) rfl ?_
      rintro rfl
      rfl
  | up owner now =>
      have outcome : table.perform (.up owner now) =
          ((table.perform (.up owner now)).1, []) := by
        simp only [LinkTable.perform]
        split <;> rfl
      rw [outcome]
      refine of_replaces (replaces_perform_up inStep owner now) (about_nil owner) rfl ?_
      rintro rfl
      rfl
  | down owner =>
      rw [perform_down]
      refine of_replaces (.shutPolitely inStep owner) (about_shutPolitely table owner id) rfl ?_
      rintro rfl
      rfl
  | remove owner =>
      have removed := (Replaces.shutPolitely inStep owner).trans
        (.forget (inStep.shutPolitely owner) owner)
      rw [perform_remove]
      refine of_replaces removed (about_shutPolitely table owner id) rfl ?_
      rintro rfl
      rfl
  | teardown =>
      exact of_everywhere (fun _ => none) (view_removeAll inStep _ id)
        (about_removeAll inStep _ id) rfl rfl
  | frame received now =>
      exact onFrame inStep received now id
  | writeFailed owner =>
      refine of_replaces (.shut inStep owner) (about_shut table owner id) rfl ?_
      rintro rfl
      rfl
  | transportLost =>
      exact of_everywhere (Option.map Link.shut) (view_shutAll inStep _ id)
        (about_shutAll inStep _ id) rfl rfl
  | setFilter filter? =>
      exact ⟨rfl, rfl⟩
  | sweep now =>
      exact sweep inStep now id

/-- So does every run. -/
theorem run
    (inStep : table.InStep pending)
    (operations : List Operation)
    (id : InterfaceId) :
    Shows id (table.run operations) ((table.view id).run id operations) := by
  induction operations generalizing table with
  | nil =>
      exact ⟨rfl, rfl⟩
  | cons operation rest inductionHypothesis =>
      have first := perform inStep operation id
      have later := inductionHypothesis (inStep.perform operation)
      rw [first.view] at later
      constructor
      · exact later.view
      · simp only [LinkTable.run, LinkView.run, Action.about_append, first.actions,
          later.actions]

end Shows

/-! ## Leaving out other interfaces -/

/-- What the owner is told about an operation. -/
def answer (table : LinkTable) : Operation → Except LinkError (Option Bool)
  | .up id now => (table.up id now).map fun outcome => some outcome.2
  | .down id => (table.down id).map fun _ => none
  | .remove id => (table.remove id).map fun _ => none
  | .add .. | .teardown | .frame .. | .writeFailed _ | .transportLost | .setFilter _
  | .sweep _ => .ok none

/-- The state of an interface is that of its link. -/
theorem state_eq_elim
    (table : LinkTable)
    (id : InterfaceId) :
    table.state id =
      (table.link? id).elim .notFound fun link =>
        if link.running then .running else .inactive := by
  simp only [state, link?]
  cases table.get? id <;> rfl

/-- An interface is up exactly if it has a link that is. -/
theorem isRunning_eq_any
    (table : LinkTable)
    (id : InterfaceId) :
    table.isRunning id = (table.link? id).any (·.running) := by
  rw [isRunning, link?, Option.any_map]
  rfl

/-- Whether raising an interface succeeds, and starts training, depends on its link only. -/
theorem answer_up
    (table : LinkTable)
    (id : InterfaceId)
    (now : Nat) :
    table.answer (.up id now) =
      (table.link? id).elim (.error (.interfaceNotFound id)) fun link =>
        .ok (some !link.eligible) := by
  simp only [answer, up, link?]
  cases table.get? id with
  | none =>
      rfl
  | some record =>
      cases eligible : record.eligible <;>
        simp [eligible, Except.map, LinkRecord.link]

/-- Whether lowering an interface succeeds depends on whether it has a link. -/
theorem answer_down
    (table : LinkTable)
    (id : InterfaceId) :
    table.answer (.down id) =
      (table.link? id).elim (.error (.interfaceNotFound id)) fun _ => .ok none := by
  simp only [answer, down, link?]
  cases table.get? id <;> rfl

/-- Whether removing an interface succeeds depends on whether it has a link. -/
theorem answer_remove
    (table : LinkTable)
    (id : InterfaceId) :
    table.answer (.remove id) =
      (table.link? id).elim (.error (.interfaceNotFound id)) fun _ => .ok none := by
  simp only [answer, remove, down, link?]
  cases table.get? id <;> rfl

/-- What the owner is told depends on nothing but the interface that is concerned. -/
theorem answer_of_sameLink
    {other : LinkTable}
    (sameLink : table.link? id = other.link? id)
    {operation : Operation}
    (isAbout : operation.concerns id = true) :
    table.answer operation = other.answer operation := by
  cases operation with
  | up owner now =>
      obtain rfl := of_decide_eq_true isAbout
      rw [answer_up, answer_up, sameLink]
  | down owner =>
      obtain rfl := of_decide_eq_true isAbout
      rw [answer_down, answer_down, sameLink]
  | remove owner =>
      obtain rfl := of_decide_eq_true isAbout
      rw [answer_remove, answer_remove, sameLink]
  | add | teardown | frame | writeFailed | transportLost | setFilter | sweep =>
      rfl

/--
Operations on other interfaces make no difference to an interface, neither to what
becomes of it, its channel, hardware name, train and timer included, nor to what is done
about it or what its owner is told next. This holds at every point of a run, since every
part of a run up to some point is a run.
-/
theorem run_isolated
    (settings : LinkSettings)
    (operations : List Operation)
    (id : InterfaceId) :
    let shared := (ofSettings settings).run operations
    let alone := (ofSettings settings).run (operations.filter (·.concerns id))
    shared.1.state id = alone.1.state id ∧
      shared.1.link? id = alone.1.link? id ∧
      Action.about id shared.2 = Action.about id alone.2 ∧
      ∀ next : Operation, next.concerns id = true →
        shared.1.answer next = alone.1.answer next := by
  intro shared alone
  have inStep := inStep_ofSettings settings
  have sharedShows := Shows.run inStep operations id
  have aloneShows := Shows.run inStep (operations.filter (·.concerns id)) id
  rw [LinkView.run_filter_concerns] at aloneShows
  have sameLink : shared.1.link? id = alone.1.link? id :=
    congrArg LinkView.link? (sharedShows.view.trans aloneShows.view.symm)
  refine ⟨?_, sameLink, sharedShows.actions.trans aloneShows.actions.symm, ?_⟩
  · rw [state_eq_elim, state_eq_elim, sameLink]
  · intro next isAbout
    exact answer_of_sameLink sameLink isAbout

end LinkTable

end StationLink
