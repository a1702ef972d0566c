import StationLink.Proofs.LinkOperations

namespace StationLink

/-!
# What is left to the owner

An interface is registered with a channel and a hardware name and is given a
timer. Whatever happens on the link, and whether or not the interface may be
used, these stay as they are, and so does the name index (`SameRegistration`).
Only registering and forgetting interfaces changes them, so a property that rests
on them is kept by a run if it is kept by those two (`AboutRegistration.run`).
-/

/-- What an interface was registered with. -/
structure Registration where
  channel : UInt8
  hardwareName : String
  timer : TimerHandle

def LinkRecord.registration (record : LinkRecord) : Registration where
  channel := record.channel
  hardwareName := record.hardwareName
  timer := record.timer

namespace LinkTable

/-- The same interfaces are registered in the same way. -/
structure SameRegistration (table after : LinkTable) : Prop where
  names : after.names = table.names
  registration :
    ∀ id, (after.get? id).map LinkRecord.registration =
      (table.get? id).map LinkRecord.registration

namespace SameRegistration

variable {table between after : LinkTable}
variable {id : InterfaceId} {record : LinkRecord}

theorem refl
    (table : LinkTable) :
    SameRegistration table table :=
  ⟨rfl, fun _ => rfl⟩

/-- What is registered the same after each of two steps is so after both. -/
theorem trans
    (first : SameRegistration table between)
    (second : SameRegistration between after) :
    SameRegistration table after where
  names := second.names.trans first.names
  registration := fun id => (second.registration id).trans (first.registration id)

/-- An interface keeps its hardware name while the registration is the same. -/
theorem hardwareName?
    (same : SameRegistration table after)
    (id : InterfaceId) :
    after.hardwareName? id = table.hardwareName? id := by
  have sameName := congrArg (Option.map Registration.hardwareName) (same.registration id)
  simp only [Option.map_map] at sameName
  exact sameName

/-! ## Changes of one interface -/

/-- A record may be changed as long as it is registered the same. -/
theorem set
    (found : table.get? id = some record)
    {updated : LinkRecord}
    (same : updated.registration = record.registration) :
    SameRegistration table (table.set id updated) := by
  refine ⟨rfl, fun other => ?_⟩
  rw [get?_set]
  split
  · next isId =>
      rw [isId, found, Option.map_some, Option.map_some, same]
  · rfl

/-- Timers have nothing to do with what an interface was registered with. -/
theorem withTimers
    (same : SameRegistration table after)
    (timers : TimerQueue InterfaceId) :
    SameRegistration table { after with timers } :=
  ⟨same.names, same.registration⟩

/-- Taking an interface down does not change how anything is registered. -/
theorem shut
    (table : LinkTable)
    (id : InterfaceId) :
    SameRegistration table (table.shut id).1 := by
  unfold LinkTable.shut
  cases found : table.get? id with
  | none =>
      exact refl table
  | some record =>
      have stopped : SameRegistration table (table.set id record.shut) := set found rfl
      exact stopped.withTimers _

/-- Telling the peer does not change how anything is registered. -/
theorem shutPolitely
    (table : LinkTable)
    (id : InterfaceId) :
    SameRegistration table (table.shutPolitely id).1 := by
  have stopped := shut table id
  rw [LinkTable.shutPolitely]
  rcases outcome : table.shut id with ⟨after, _ | report⟩
  · rw [outcome] at stopped
    exact stopped
  · rw [outcome] at stopped
    exact stopped

/-- Taking links away does not change how anything is registered. -/
theorem shutAll
    (table : LinkTable)
    (ids : List InterfaceId) :
    SameRegistration table (table.shutAll ids).1 := by
  induction ids generalizing table with
  | nil =>
      exact refl table
  | cons id rest inductionHypothesis =>
      exact (shut table id).trans (inductionHypothesis (table.shut id).1)

/-- An interface that comes up is registered as before. -/
theorem promote
    (found : table.get? id = some record)
    (now : Nat) :
    SameRegistration table (table.promote id record now).1 := by
  have running : SameRegistration table (table.set id record.promoted) := set found rfl
  exact running.withTimers _

/-- An interface that was lost is registered as before. -/
theorem demote
    (found : table.get? id = some record)
    (now : Nat) :
    SameRegistration table (table.demote id record now).1 := by
  have stopped : SameRegistration table (table.set id record.demoted) := set found rfl
  simp only [LinkTable.demote]
  split
  · exact stopped.withTimers _
  · exact stopped.withTimers _

/-- An interface that is raised is registered as before. -/
theorem up
    {now : Nat}
    {started : Bool}
    (raised : table.up id now = .ok (after, started)) :
    SameRegistration table after := by
  unfold LinkTable.up at raised
  cases found : table.get? id with
  | none =>
      rw [found] at raised
      cases raised
  | some record =>
      simp only [found] at raised
      split at raised
      · cases raised
        exact refl table
      · cases raised
        have eligible : SameRegistration table (table.set id { record with eligible := true }) :=
          set found rfl
        exact eligible.withTimers _

theorem setFilter
    (table : LinkTable)
    (filter? : Option Filter) :
    SameRegistration table (table.setFilter filter?) :=
  ⟨rfl, fun _ => rfl⟩

/-! ## Events on the link -/

/-- Handling a timer does not change how anything is registered. -/
theorem onTimer
    (table : LinkTable)
    (handle : TimerHandle)
    (id : InterfaceId)
    (now : Nat) :
    SameRegistration table (table.onTimer handle id now).1 := by
  unfold LinkTable.onTimer
  cases found : table.get? id with
  | none =>
      exact refl table
  | some record =>
      have resumed : ∀ expires, SameRegistration table (table.resumeTimer handle expires) :=
        fun _ => (refl table).withTimers _
      simp only
      split
      · exact refl table
      · split
        · split
          · exact demote found now
          · exact resumed _
        · split
          · exact resumed _
          · exact refl table

/-- Handling timers does not change how anything is registered. -/
theorem onTimers
    (table : LinkTable)
    (now : Nat)
    (due : List (TimerHandle × InterfaceId)) :
    SameRegistration table (table.onTimers now due).1 := by
  induction due generalizing table with
  | nil =>
      exact refl table
  | cons entry rest inductionHypothesis =>
      exact (onTimer table entry.1 entry.2 now).trans (inductionHypothesis _)

/-- A sweep does not change how anything is registered. -/
theorem sweep
    (table : LinkTable)
    (now : Nat) :
    SameRegistration table (table.sweep now).1 :=
  ((refl table).withTimers (table.timers.takeDue now).2).trans
    (onTimers _ now (table.timers.takeDue now).1)

/-- A frame does not change how anything is registered. -/
theorem onFrame
    (table : LinkTable)
    (frame : Frame)
    (now : Nat) :
    SameRegistration table (table.onFrame frame now).1 := by
  unfold LinkTable.onFrame
  cases found : table.get? frame.id with
  | none =>
      exact refl table
  | some silent =>
      have heard : SameRegistration table (table.set frame.id (silent.hearing now)) :=
        set found rfl
      have foundHeard :
          (table.set frame.id (silent.hearing now)).get? frame.id =
            some (silent.hearing now) := by
        rw [get?_set, if_pos rfl]
      cases frame.kind with
      | probe =>
          simp only
          split
          · exact heard
          · split
            · exact heard
            · exact heard.trans (promote foundHeard now)
      | ack =>
          simp only
          split
          · exact heard.trans (promote foundHeard now)
          · exact heard
      | disconnect =>
          simp only
          split
          · exact heard.trans (demote foundHeard now)
          · exact heard
      | data =>
          simp only
          split
          · exact heard.trans (set foundHeard rfl)
          · exact heard

end SameRegistration

/-! ## Runs -/

/--
A property of tables that rests on how interfaces are registered and that is not
lost when an interface is forgotten.
-/
structure AboutRegistration (P : LinkTable → Prop) : Prop where
  of_same : ∀ {table after : LinkTable}, SameRegistration table after → P table → P after
  forget : ∀ {table : LinkTable} (id : InterfaceId), P table → P (table.forget id)

namespace AboutRegistration

variable {P : LinkTable → Prop} {table : LinkTable}

/-- What only depends on the registration lasts when interfaces are removed. -/
theorem removeAll
    (about : AboutRegistration P)
    (holds : P table)
    (ids : List InterfaceId) :
    P (table.removeAll ids).1 := by
  induction ids generalizing table with
  | nil =>
      exact holds
  | cons id rest inductionHypothesis =>
      have stopped := about.of_same (.shutPolitely table id) holds
      exact inductionHypothesis (about.forget id stopped)

/-- An operation keeps such a property, if registering the interface does. -/
theorem perform
    (about : AboutRegistration P)
    (holds : P table)
    (operation : Operation)
    (added : ∀ id params? now, operation = .add id params? now →
      P (table.add id params? now)) :
    P (table.perform operation).1 := by
  cases operation with
  | add id params? now =>
      exact added id params? now rfl
  | up id now =>
      simp only [LinkTable.perform]
      split
      · next raised =>
          exact about.of_same (.up raised) holds
      · exact holds
  | down id =>
      simp only [LinkTable.perform, LinkTable.down]
      cases table.get? id with
      | none =>
          exact holds
      | some record =>
          exact about.of_same (.shutPolitely table id) holds
  | remove id =>
      simp only [LinkTable.perform, LinkTable.remove, LinkTable.down]
      cases table.get? id with
      | none =>
          exact holds
      | some record =>
          exact about.forget id (about.of_same (.shutPolitely table id) holds)
  | teardown =>
      exact about.removeAll holds table.records.keys
  | frame frame now =>
      exact about.of_same (.onFrame table frame now) holds
  | writeFailed id =>
      exact about.of_same (.shut table id) holds
  | transportLost =>
      exact about.of_same (.shutAll table table.records.keys) holds
  | setFilter filter? =>
      exact about.of_same (.setFilter table filter?) holds
  | sweep now =>
      exact about.of_same (.sweep table now) holds

/-- A run keeps such a property, if registering the interfaces of the run does. -/
theorem run
    (about : AboutRegistration P)
    (holds : P table)
    (operations : List Operation)
    (added : ∀ id params? now, .add id params? now ∈ operations →
      ∀ {between : LinkTable}, P between → P (between.add id params? now)) :
    P (table.run operations).1 := by
  induction operations generalizing table with
  | nil =>
      exact holds
  | cons operation rest inductionHypothesis =>
      have performed : P (table.perform operation).1 := by
        apply about.perform holds operation
        intro id params? now isAdd
        exact added id params? now (isAdd ▸ List.mem_cons_self) holds
      apply inductionHypothesis performed
      intro id params? now isLater
      exact added id params? now (List.mem_cons_of_mem operation isLater)

end AboutRegistration

end LinkTable

end StationLink
