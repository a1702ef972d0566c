import StationLink.Proofs.Registration
import StationLink.Proofs.SingleLink

namespace StationLink

/-!
# Interfaces side by side

A link table is nothing but its links side by side. What is done to one interface
replaces that interface and leaves every other one as it was, down to the time for
which its timer is set (`LinkTable.Replaces`). It takes that every interface has a
timer of its own, which is what `InStep` says.
-/

/-- When a timer is due, if it is linked. -/
def Timer.due? {α : Type} (timer : Timer α) : Option Nat :=
  if timer.linked then some timer.expires else none

/-- The interface by itself, with when its timer is due. -/
def LinkRecord.link (record : LinkRecord) (due? : Option Nat) : Link where
  channel := record.channel
  hardwareName := record.hardwareName
  running := record.running
  eligible := record.eligible
  reception := record.reception
  lastHeard := record.lastHeard
  due?

/-- A link that is lost is left with a timer only if its interface is eligible. -/
theorem LinkRecord.demoted_link
    (record : LinkRecord)
    (due? : Option Nat)
    (due : Nat) :
    (record.link due?).demoted due =
      record.demoted.link (if record.eligible then some due else none) :=
  rfl

@[simp] theorem Action.about_append
    (id : InterfaceId)
    (first second : List Action) :
    about id (first ++ second) = about id first ++ about id second :=
  List.filter_append first second

/-- Where all actions are about one interface, none is about another. -/
theorem Action.about_eq_ite
    {id : InterfaceId}
    {actions : List Action}
    (areAbout : ∀ action ∈ actions, action.id = id)
    (other : InterfaceId) :
    about other actions = if other = id then actions else [] := by
  split
  · next isId =>
      apply List.filter_eq_self.mpr
      intro action member
      exact decide_eq_true ((areAbout action member).trans isId.symm)
  · next notId =>
      apply List.filter_eq_nil_iff.mpr
      intro action member isOther
      exact notId ((of_decide_eq_true isOther).symm.trans (areAbout action member))

namespace LinkTable

/-- When the timer of a handle is due, if it is linked. -/
def due? (table : LinkTable) (handle : TimerHandle) : Option Nat :=
  (table.timers.get? handle).bind Timer.due?

/-- An interface by itself. -/
def link? (table : LinkTable) (id : InterfaceId) : Option Link :=
  (table.get? id).map fun record => record.link (table.due? record.timer)

/-- What there is to be seen of a table from one of its interfaces. -/
def view (table : LinkTable) (id : InterfaceId) : LinkView where
  settings := table.settings
  filter? := table.filter?
  link? := table.link? id

/-- The link of an interface is its record with the time of its timer. -/
theorem link?_of_found
    {table : LinkTable}
    {id : InterfaceId}
    {record : LinkRecord}
    (found : table.get? id = some record) :
    table.link? id = some (record.link (table.due? record.timer)) := by
  rw [link?, found, Option.map_some]

/-- An interface that is not registered has no link. -/
theorem link?_of_missing
    {table : LinkTable}
    {id : InterfaceId}
    (missing : table.get? id = none) :
    table.link? id = none := by
  rw [link?, missing, Option.map_none]

/-- An interface is the same link where its timer is set for the same time. -/
theorem link?_of_same
    {table changed : LinkTable}
    {id : InterfaceId}
    (sameRecord : changed.get? id = table.get? id)
    (sameDue : ∀ record, table.get? id = some record →
      changed.due? record.timer = table.due? record.timer) :
    changed.link? id = table.link? id := by
  cases found : table.get? id with
  | none =>
      rw [link?_of_missing (sameRecord.trans found), link?_of_missing found]
  | some record =>
      rw [link?_of_found (sameRecord.trans found), link?_of_found found, sameDue record found]

/-- In place of one interface there is now the given link, and nothing else changed. -/
structure Replaces
    (id : InterfaceId)
    (link? : Option Link)
    (table changed : LinkTable) : Prop where
  settings : changed.settings = table.settings
  filter? : changed.filter? = table.filter?
  own : changed.link? id = link?
  others : ∀ other, other ≠ id → changed.link? other = table.link? other

variable {table between changed : LinkTable}
variable {pending later : List (TimerHandle × InterfaceId)}
variable {id : InterfaceId} {record : LinkRecord}

namespace Replaces

/-- What leaves a link as it is replaces it by itself. -/
theorem nothing
    {link? : Option Link}
    (same : table.link? id = link?) :
    Replaces id link? table table :=
  ⟨rfl, rfl, same, fun _ _ => rfl⟩

/-- Of two replacements the second one counts. -/
theorem trans
    {first second : Option Link}
    (replacesFirst : Replaces id first table between)
    (replacesSecond : Replaces id second between changed) :
    Replaces id second table changed where
  settings := replacesSecond.settings.trans replacesFirst.settings
  filter? := replacesSecond.filter?.trans replacesFirst.filter?
  own := replacesSecond.own
  others := fun other differs =>
    (replacesSecond.others other differs).trans (replacesFirst.others other differs)

/-- A replacement is seen from its own interface and from no other. -/
theorem view_eq
    {link? : Option Link}
    (replaces : Replaces id link? table changed)
    (other : InterfaceId) :
    changed.view other =
      if other = id then (table.view other).withLink link? else table.view other := by
  rw [view, replaces.settings, replaces.filter?]
  split
  · next isId =>
      rw [isId, replaces.own]
      rfl
  · next notId =>
      rw [replaces.others other notId]
      rfl

/-- A change of one interface and of its timer is seen from no other interface. -/
theorem of_update
    (inStep : table.InStep pending)
    (found : table.get? id = some record)
    (updated : LinkRecord)
    (change : Timer InterfaceId → Timer InterfaceId)
    (sameSettings : changed.settings = table.settings)
    (sameFilter : changed.filter? = table.filter?)
    (records : ∀ other, changed.get? other =
      if other = id then some updated else table.get? other)
    (timers : ∀ handle, changed.timers.get? handle =
      if handle = record.timer then
        (table.timers.get? handle).map change
      else
        table.timers.get? handle)
    (sameTimer : updated.timer = record.timer) :
    Replaces id
      (some (updated.link (((table.timers.get? record.timer).map change).bind Timer.due?)))
      table changed where
  settings := sameSettings
  filter? := sameFilter
  own := by
    have foundAfter : changed.get? id = some updated := by
      rw [records, if_pos rfl]
    rw [link?_of_found foundAfter, due?, sameTimer, timers, if_pos rfl]
  others := by
    intro other differs
    apply link?_of_same
    · rw [records, if_neg differs]
    · intro otherRecord foundOther
      have otherTimer : otherRecord.timer ≠ record.timer := by
        intro same
        exact differs (inStep.eq_of_sameTimer found foundOther same)
      rw [due?, timers, if_neg otherTimer, due?]

/-! ## Changes of one interface -/

/-- Setting the timer of an interface replaces its link by one that is due then. -/
theorem setTimer
    (inStep : table.InStep pending)
    (found : table.get? id = some record)
    (updated : LinkRecord)
    (sameTimer : updated.timer = record.timer)
    (expires : Nat) :
    Replaces id (some (updated.link (some expires))) table
      ((table.set id updated).setTimer record.timer expires) := by
  obtain ⟨timer, slot, _⟩ := inStep.timer_of_record found
  have replaces : Replaces id _ table
      ((table.set id updated).setTimer record.timer expires) :=
    of_update inStep found updated (·.relinked expires table.timers.nextLinking) rfl rfl
      (fun other => by rw [get?_setTimer, get?_set])
      (fun handle => TimerQueue.get?_change table.timers record.timer handle expires)
      sameTimer
  rw [slot] at replaces
  exact replaces

/-- Stopping the timer of an interface replaces its link by one that is never due. -/
theorem stopTimer
    (inStep : table.InStep pending)
    (found : table.get? id = some record)
    (updated : LinkRecord)
    (sameTimer : updated.timer = record.timer) :
    Replaces id (some (updated.link none)) table
      ((table.set id updated).stopTimer record.timer) := by
  obtain ⟨timer, slot, _⟩ := inStep.timer_of_record found
  have replaces : Replaces id _ table ((table.set id updated).stopTimer record.timer) :=
    of_update inStep found updated Timer.detached rfl rfl
      (fun other => by rw [get?_stopTimer, get?_set])
      (fun handle => TimerQueue.get?_unlink table.timers record.timer handle)
      sameTimer
  rw [slot] at replaces
  exact replaces

/-- A timer that is not linked is linked for the time. -/
theorem resumeTimer
    (inStep : table.InStep pending)
    (found : table.get? id = some record)
    (expires : Nat) :
    Replaces id (some ((record.link (table.due? record.timer)).resumed expires)) table
      (table.resumeTimer record.timer expires) := by
  obtain ⟨timer, slot, _⟩ := inStep.timer_of_record found
  have sameRecords : ∀ other, (table.resumeTimer record.timer expires).get? other =
      if other = id then some record else table.get? other := by
    intro other
    rw [get?_resumeTimer]
    split
    · next isId =>
        rw [isId, found]
    · rfl
  have replaces : Replaces id _ table (table.resumeTimer record.timer expires) :=
    of_update inStep found record
      (fun timer =>
        if timer.linked then timer else timer.relinked expires table.timers.nextLinking)
      rfl rfl sameRecords
      (fun handle => TimerQueue.get?_insert table.timers record.timer handle expires)
      rfl
  rw [slot] at replaces
  rw [due?, slot]
  cases linked : timer.linked <;>
    simpa [linked, Timer.due?, Timer.relinked, Link.resumed, LinkRecord.link] using replaces

/-- What was chosen or heard about an interface may change, but not its timer. -/
theorem set
    (inStep : table.InStep pending)
    (found : table.get? id = some record)
    (updated : LinkRecord)
    (sameTimer : updated.timer = record.timer) :
    Replaces id (some (updated.link (table.due? record.timer))) table
      (table.set id updated) := by
  have replaces : Replaces id _ table (table.set id updated) :=
    of_update inStep found updated (fun timer => timer)
      rfl rfl
      (fun other => get?_set table id other updated)
      (fun handle => by
        rw [Option.map_id']
        split <;> rfl)
      sameTimer
  rw [Option.map_id'] at replaces
  exact replaces

/-- Taking an interface down replaces its link by one without any activity. -/
theorem shut
    (inStep : table.InStep pending)
    (id : InterfaceId) :
    Replaces id ((table.link? id).map Link.shut) table (table.shut id).1 := by
  unfold LinkTable.shut
  cases found : table.get? id with
  | none =>
      rw [link?_of_missing found]
      exact nothing (link?_of_missing found)
  | some record =>
      rw [link?_of_found found]
      exact stopTimer inStep found record.shut rfl

/-- Telling the peer makes no difference to what taking an interface down replaces. -/
theorem shutPolitely
    (inStep : table.InStep pending)
    (id : InterfaceId) :
    Replaces id ((table.link? id).map Link.shut) table (table.shutPolitely id).1 := by
  have stopped := shut inStep id
  rw [LinkTable.shutPolitely]
  rcases outcome : table.shut id with ⟨after, _ | report⟩
  · rw [outcome] at stopped
    exact stopped
  · rw [outcome] at stopped
    exact stopped

/-- A link that comes up is replaced by one that is up and due for its next probe. -/
theorem promote
    (inStep : table.InStep pending)
    (found : table.get? id = some record)
    (now : Nat) :
    Replaces id
      (some ((record.link (table.due? record.timer)).promoted
        (now + table.settings.keepaliveInterval)))
      table (table.promote id record now).1 :=
  setTimer inStep found record.promoted rfl _

/-- A link that was lost is replaced by one that is down and due for training. -/
theorem demote
    (inStep : table.InStep pending)
    (found : table.get? id = some record)
    (now : Nat) :
    Replaces id
      (some ((record.link (table.due? record.timer)).demoted
        (now + table.settings.retryInterval)))
      table (table.demote id record now).1 := by
  rw [LinkRecord.demoted_link, LinkTable.demote]
  by_cases eligible : record.eligible = true
  · rw [if_pos eligible, if_pos eligible]
    exact setTimer inStep found record.demoted rfl _
  · rw [if_neg eligible, if_neg eligible]
    exact stopTimer inStep found record.demoted rfl

/-- An interface that is forgotten takes its timer with it. -/
theorem forget
    (inStep : table.InStep pending)
    (id : InterfaceId) :
    Replaces id none table (table.forget id) := by
  have recordsAfter := get?_forget table id
  cases found : table.get? id with
  | none =>
      have same : table.forget id = table := by
        simp only [LinkTable.forget, found]
      rw [same]
      exact nothing (link?_of_missing found)
  | some record =>
      have timersAfter : (table.forget id).timers = (table.timers.cancel record.timer).1 := by
        simp only [LinkTable.forget, found]
      constructor
      · simp only [LinkTable.forget, found]
      · simp only [LinkTable.forget, found]
      · apply link?_of_missing
        rw [recordsAfter, if_pos rfl]
      · intro other differs
        apply link?_of_same
        · rw [recordsAfter, if_neg differs]
        · intro otherRecord foundOther
          have otherTimer : otherRecord.timer ≠ record.timer := by
            intro same
            exact differs (inStep.eq_of_sameTimer found foundOther same)
          rw [due?, timersAfter, TimerQueue.get?_cancel, if_neg otherTimer, due?]

/-- A new interface gets a new timer, and one that is registered anew keeps its own. -/
theorem add
    (inStep : table.InStep pending)
    (id : InterfaceId)
    (params? : Option InterfaceParams)
    (now : Nat) :
    Replaces id (some (Link.added table.settings id params? now (table.link? id))) table
      (table.add id params? now) := by
  let params := params?.getD { channel := table.settings.defaultChannel }
  let hardwareName := params.hardwareName?.getD (defaultHardwareName id)
  cases found : table.get? id with
  | some record =>
      have renamed := set inStep found
        { record with channel := params.channel, hardwareName } rfl
      rw [link?_of_found found]
      simp only [LinkTable.add, found]
      exact ⟨renamed.settings, renamed.filter?, renamed.own, renamed.others⟩
  | none =>
      let record : LinkRecord :=
        { channel := params.channel, hardwareName, timer := table.timers.nextHandle,
          lastHeard := now }
      have records : ∀ other, (table.add id params? now).get? other =
          if other = id then some record else table.get? other := by
        intro other
        simp only [LinkTable.add, found]
        exact get?_set _ id other record
      have timers : ∀ handle, (table.add id params? now).due? handle =
          if handle = table.timers.nextHandle then none else table.due? handle := by
        intro handle
        have allocated := inStep.wellFormed.get?_alloc now id handle
        simp only [LinkTable.add, found, LinkTable.due?, LinkTable.set, allocated]
        split <;> rfl
      rw [link?_of_missing found]
      constructor
      · simp only [LinkTable.add, found]
        rfl
      · simp only [LinkTable.add, found]
        rfl
      · rw [link?_of_found ((records id).trans (if_pos rfl)), timers, if_pos rfl]
        rfl
      · intro other differs
        apply link?_of_same
        · rw [records, if_neg differs]
        · intro otherRecord foundOther
          have notNext : otherRecord.timer ≠ table.timers.nextHandle := by
            intro isNext
            obtain ⟨timer, slot, _⟩ := inStep.timer_of_record foundOther
            rw [isNext, inStep.wellFormed.get?_nextHandle] at slot
            cases slot
          rw [timers, if_neg notNext]

/-- Raising an interface replaces its link by one that is due at once. -/
theorem up
    (inStep : table.InStep pending)
    {started : Bool}
    {now : Nat}
    (raised : table.up id now = .ok (changed, started)) :
    Replaces id ((table.link? id).map (·.raised now)) table changed := by
  unfold LinkTable.up at raised
  cases found : table.get? id with
  | none =>
      rw [found] at raised
      cases raised
  | some record =>
      rw [link?_of_found found, Option.map_some]
      simp only [found] at raised
      split at raised
      · next eligible =>
          cases raised
          have unchanged : (record.link (table.due? record.timer)).raised now =
              record.link (table.due? record.timer) :=
            if_pos eligible
          rw [unchanged]
          exact nothing (link?_of_found found)
      · next notEligible =>
          cases raised
          have isRaised : (record.link (table.due? record.timer)).raised now =
              { record with eligible := true }.link (some now) :=
            if_neg notEligible
          rw [isRaised]
          exact setTimer inStep found { record with eligible := true } rfl now

end Replaces

/-! ## What is done about an interface -/

/-- What is reported when a link is taken away is about that link. -/
theorem toList_shut
    (table : LinkTable)
    (id : InterfaceId) :
    (table.shut id).2.toList.map .emit = (table.link? id).elim [] (·.loss id) := by
  unfold shut
  cases found : table.get? id with
  | none =>
      rw [link?_of_missing found]
      rfl
  | some record =>
      rw [link?_of_found found, Option.elim_some, Link.loss]
      cases running : record.running <;> simp [LinkRecord.link, running, Link.announcement]

/-- What is reported when an interface is taken down is about that one only. -/
theorem about_shut
    (table : LinkTable)
    (id other : InterfaceId) :
    Action.about other ((table.shut id).2.toList.map .emit) =
      if other = id then (table.link? id).elim [] (·.loss id) else [] := by
  rw [toList_shut]
  apply Action.about_eq_ite
  cases table.link? id with
  | none =>
      nofun
  | some link =>
      exact link.id_of_mem_loss id

/-- What is done when an interface is taken down politely is the farewell of its link. -/
theorem snd_shutPolitely
    (table : LinkTable)
    (id : InterfaceId) :
    (table.shutPolitely id).2 = (table.link? id).elim [] (·.farewell id) := by
  unfold shutPolitely shut
  cases found : table.get? id with
  | none =>
      rw [link?_of_missing found]
      rfl
  | some record =>
      rw [link?_of_found found, Option.elim_some, Link.farewell]
      cases running : record.running <;> simp [LinkRecord.link, running, Link.announcement]

/-! ## Several interfaces at once -/

/-- Removing interfaces takes the links of those away and leaves all others alone. -/
theorem view_removeAll
    (inStep : table.InStep pending)
    (ids : List InterfaceId)
    (id : InterfaceId) :
    (table.removeAll ids).1.view id =
      if id ∈ ids then (table.view id).withLink none else table.view id := by
  induction ids generalizing table with
  | nil =>
      rfl
  | cons first rest inductionHypothesis =>
      have stopped := inStep.shutPolitely first
      have removed := (Replaces.shutPolitely inStep first).trans (.forget stopped first)
      simp only [LinkTable.removeAll]
      rw [inductionHypothesis (stopped.forget first), removed.view_eq]
      by_cases isFirst : id = first
      · simp [isFirst, LinkView.withLink]
      · simp [isFirst]

/-- The farewell of a link is about its own interface only. -/
theorem about_shutPolitely
    (table : LinkTable)
    (id other : InterfaceId) :
    Action.about other (table.shutPolitely id).2 =
      if other = id then (table.link? id).elim [] (·.farewell id) else [] := by
  rw [snd_shutPolitely]
  apply Action.about_eq_ite
  cases table.link? id with
  | none =>
      nofun
  | some link =>
      exact link.id_of_mem_farewell id

/-- When interfaces are removed, each of these is bidden farewell, and no other. -/
theorem about_removeAll
    (inStep : table.InStep pending)
    (ids : List InterfaceId)
    (id : InterfaceId) :
    Action.about id (table.removeAll ids).2 =
      if id ∈ ids then (table.link? id).elim [] (·.farewell id) else [] := by
  induction ids generalizing table with
  | nil =>
      rfl
  | cons first rest inductionHypothesis =>
      have stopped := inStep.shutPolitely first
      have removed := (Replaces.shutPolitely inStep first).trans (.forget stopped first)
      simp only [LinkTable.removeAll, Action.about_append]
      rw [about_shutPolitely, inductionHypothesis (stopped.forget first)]
      by_cases isFirst : id = first
      · simp [isFirst, removed.own]
      · simp [isFirst, removed.others id isFirst]

/-- Taking interfaces down shuts the links of those and leaves all others alone. -/
theorem view_shutAll
    (inStep : table.InStep pending)
    (ids : List InterfaceId)
    (id : InterfaceId) :
    (table.shutAll ids).1.view id =
      if id ∈ ids then
        (table.view id).withLink ((table.link? id).map Link.shut)
      else
        table.view id := by
  induction ids generalizing table with
  | nil =>
      rfl
  | cons first rest inductionHypothesis =>
      have stopped := Replaces.shut inStep first
      simp only [LinkTable.shutAll]
      rw [inductionHypothesis (inStep.shut first), stopped.view_eq]
      by_cases isFirst : id = first
      · subst first
        have again : (Link.shut ∘ Link.shut) = Link.shut := rfl
        simp [stopped.own, again, LinkView.withLink]
      · simp [isFirst, stopped.others id isFirst]

/-- When links are taken away, the loss of each of these is reported, and no other. -/
theorem about_shutAll
    (inStep : table.InStep pending)
    (ids : List InterfaceId)
    (id : InterfaceId) :
    Action.about id ((table.shutAll ids).2.map .emit) =
      if id ∈ ids then (table.link? id).elim [] (·.loss id) else [] := by
  induction ids generalizing table with
  | nil =>
      rfl
  | cons first rest inductionHypothesis =>
      have stopped := Replaces.shut inStep first
      simp only [LinkTable.shutAll, List.map_append, Action.about_append]
      rw [about_shut, inductionHypothesis (inStep.shut first)]
      by_cases isFirst : id = first
      · subst first
        have quiet : ((table.link? id).map Link.shut).elim [] (·.loss id) = [] := by
          cases table.link? id <;> rfl
        simp [stopped.own, quiet]
      · simp [isFirst, stopped.others id isFirst]

/-- In whatever order all interfaces are removed, each sees and is told the same. -/
theorem removeAll_of_perm
    (inStep : table.InStep pending)
    {ids : List InterfaceId}
    (perm : ids.Perm table.records.keys)
    (id : InterfaceId) :
    (table.removeAll ids).1.view id = table.teardown.1.view id ∧
      Action.about id (table.removeAll ids).2 = Action.about id table.teardown.2 := by
  simp only [teardown, view_removeAll inStep, about_removeAll inStep, perm.mem_iff,
    and_self]

/-- In whatever order the links are lost, each interface sees and is told the same. -/
theorem shutAll_of_perm
    (inStep : table.InStep pending)
    {ids : List InterfaceId}
    (perm : ids.Perm table.records.keys)
    (id : InterfaceId) :
    (table.shutAll ids).1.view id = table.transportLost.1.view id ∧
      Action.about id ((table.shutAll ids).2.map .emit) =
        Action.about id table.transportLost.2 := by
  simp only [transportLost, view_shutAll inStep, about_shutAll inStep, perm.mem_iff,
    and_self]

end LinkTable

end StationLink
