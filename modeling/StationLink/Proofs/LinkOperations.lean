import StationLink.LinkTable
import StationLink.Proofs.SortedMap

namespace StationLink

/-!
# Operations of a link table

A run of a link table is a list of operations: requests of the owner, received
frames, failed writes and sweeps of the timers, in any order. What an operation
does to the interfaces is told by what is found under each number afterwards.
-/

/-- An interface without any activity. -/
def LinkRecord.shut (record : LinkRecord) : LinkRecord :=
  { record with eligible := false, running := false, reassembler := .empty }

/-- An interface whose link has just come up. -/
def LinkRecord.promoted (record : LinkRecord) : LinkRecord :=
  { record with running := true, reassembler := .empty }

/-- An interface whose link has just been lost. -/
def LinkRecord.demoted (record : LinkRecord) : LinkRecord :=
  { record with running := false, reassembler := .empty }

/-- An interface on which a frame has just been heard. -/
def LinkRecord.hearing (record : LinkRecord) (now : Nat) : LinkRecord :=
  { record with lastHeard := now }

namespace LinkTable

/-- Whether the link of an interface is up. -/
def isRunning (table : LinkTable) (id : InterfaceId) : Bool :=
  (table.get? id).any (·.running)

/-- The state of an interface says running exactly if its link is up. -/
theorem state_eq_running_iff
    (table : LinkTable)
    (id : InterfaceId) :
    table.state id = .running ↔ table.isRunning id = true := by
  unfold state isRunning
  cases found : table.get? id with
  | none =>
      simp
  | some record =>
      cases running : record.running <;> simp [running]

/-- A link that is up is that of a registered interface. -/
theorem exists_of_isRunning
    {table : LinkTable}
    {id : InterfaceId}
    (running : table.isRunning id = true) :
    ∃ record, table.get? id = some record ∧ record.running = true := by
  unfold isRunning at running
  cases found : table.get? id with
  | none =>
      rw [found] at running
      cases running
  | some record =>
      rw [found] at running
      exact ⟨record, rfl, running⟩

/-- Something that happens to a link table. -/
inductive Operation where
  | add (id : InterfaceId) (params? : Option InterfaceParams) (now : Nat)
  | up (id : InterfaceId) (now : Nat)
  | down (id : InterfaceId)
  | remove (id : InterfaceId)
  | teardown
  | frame (frame : Frame) (now : Nat)
  | writeFailed (id : InterfaceId)
  | transportLost
  | setFilter (filter? : Option Filter)
  | sweep (now : Nat)

/-- Perform an operation; one that is refused does nothing. -/
def perform (table : LinkTable) : Operation → LinkTable × List Action
  | .add id params? now => (table.add id params? now, [])
  | .up id now =>
      match table.up id now with
      | .ok (table, _) => (table, [])
      | .error _ => (table, [])
  | .down id =>
      match table.down id with
      | .ok outcome => outcome
      | .error _ => (table, [])
  | .remove id =>
      match table.remove id with
      | .ok outcome => outcome
      | .error _ => (table, [])
  | .teardown => table.teardown
  | .frame frame now => table.onFrame frame now
  | .writeFailed id =>
      let (table, report?) := table.shut id
      (table, report?.toList.map .emit)
  | .transportLost => table.transportLost
  | .setFilter filter? => (table.setFilter filter?, [])
  | .sweep now => table.sweep now

/-- Perform operations one after another. -/
def run (table : LinkTable) : List Operation → LinkTable × List Action
  | [] => (table, [])
  | operation :: rest =>
      let (table, actions) := table.perform operation
      let (table, others) := table.run rest
      (table, actions ++ others)

variable (table : LinkTable)

/-- Operations are done one after another. -/
theorem run_append
    (first second : List Operation) :
    (table.run (first ++ second)).1 = ((table.run first).1.run second).1 := by
  induction first generalizing table with
  | nil =>
      rfl
  | cons operation rest inductionHypothesis =>
      exact inductionHypothesis (table.perform operation).1

theorem shutAll_singleton
    (id : InterfaceId) :
    table.shutAll [id] = ((table.shut id).1, (table.shut id).2.toList) := by
  simp only [shutAll, List.append_nil]

/-- Links are taken away one after another. -/
theorem shutAll_append
    (first second : List InterfaceId) :
    table.shutAll (first ++ second) =
      (((table.shutAll first).1.shutAll second).1,
        (table.shutAll first).2 ++ ((table.shutAll first).1.shutAll second).2) := by
  induction first generalizing table with
  | nil =>
      rfl
  | cons id rest inductionHypothesis =>
      simp only [List.cons_append, shutAll, inductionHypothesis, List.append_assoc]

/-- Links are taken away as if a write had failed on each of them. -/
theorem shutAll_eq_run
    (ids : List InterfaceId) :
    (table.shutAll ids).1 = (table.run (ids.map .writeFailed)).1 := by
  induction ids generalizing table with
  | nil =>
      rfl
  | cons id rest inductionHypothesis =>
      exact inductionHypothesis (table.shut id).1

theorem run_singleton
    (operation : Operation) :
    table.run [operation] = table.perform operation := by
  simp only [run, List.append_nil]

/-- Frames that are received together are operations of their own. -/
theorem onFrames_eq_run
    (now : Nat)
    (frames : List Frame) :
    table.onFrames now frames = table.run (frames.map fun frame => .frame frame now) := by
  induction frames generalizing table with
  | nil =>
      rfl
  | cons frame rest inductionHypothesis =>
      simp only [onFrames, List.map_cons, run, perform, inductionHypothesis]

/-! ## Interfaces after a change -/

@[simp] theorem get?_set
    (id other : InterfaceId)
    (record : LinkRecord) :
    (table.set id record).get? other =
      if other = id then some record else table.get? other :=
  SortedMap.get?_insert table.records id other record

@[simp] theorem get?_setTimer
    (handle : TimerHandle)
    (expires : Nat)
    (other : InterfaceId) :
    (table.setTimer handle expires).get? other = table.get? other :=
  rfl

@[simp] theorem get?_stopTimer
    (handle : TimerHandle)
    (other : InterfaceId) :
    (table.stopTimer handle).get? other = table.get? other :=
  rfl

@[simp] theorem get?_resumeTimer
    (handle : TimerHandle)
    (expires : Nat)
    (other : InterfaceId) :
    (table.resumeTimer handle expires).get? other = table.get? other :=
  rfl

@[simp] theorem get?_setFilter
    (filter? : Option Filter)
    (id : InterfaceId) :
    (table.setFilter filter?).get? id = table.get? id :=
  rfl

/-- The interfaces that can be listed are those that are found. -/
theorem mem_keys_iff
    (id : InterfaceId) :
    id ∈ table.records.keys ↔ ∃ record, table.get? id = some record :=
  SortedMap.mem_keys_iff table.records id

/-- An interface is shut when it is taken down, and others are left alone. -/
theorem get?_shut
    (id other : InterfaceId) :
    (table.shut id).1.get? other =
      if other = id then (table.get? other).map .shut else table.get? other := by
  unfold shut
  cases found : table.get? id with
  | none =>
      by_cases same : other = id
      · simp [same, found]
      · simp [same]
  | some record =>
      by_cases same : other = id
      · simp [same, found, LinkRecord.shut]
      · simp [same]

/-- Telling the peer makes no difference to what is found afterwards. -/
theorem get?_shutPolitely
    (id other : InterfaceId) :
    (table.shutPolitely id).1.get? other =
      if other = id then (table.get? other).map .shut else table.get? other := by
  rw [← get?_shut, shutPolitely]
  rcases table.shut id with ⟨after, _ | report⟩ <;> rfl

/-- An interface that is forgotten is not found any more, and others are left alone. -/
theorem get?_forget
    (id other : InterfaceId) :
    (table.forget id).get? other =
      if other = id then none else table.get? other := by
  unfold forget
  cases found : table.get? id with
  | none =>
      by_cases same : other = id
      · simp [same, found]
      · simp [same]
  | some record =>
      exact SortedMap.get?_erase table.records id other

/-- The link of an interface that comes up is promoted, and others are left alone. -/
theorem get?_promote
    (id other : InterfaceId)
    (record : LinkRecord)
    (now : Nat) :
    (table.promote id record now).1.get? other =
      if other = id then some record.promoted else table.get? other := by
  simp only [promote, get?_setTimer, get?_set, LinkRecord.promoted]

/-- The link of an interface that is lost is demoted, and others are left alone. -/
theorem get?_demote
    (id other : InterfaceId)
    (record : LinkRecord)
    (now : Nat) :
    (table.demote id record now).1.get? other =
      if other = id then some record.demoted else table.get? other := by
  simp only [demote]
  split
  · simp only [get?_setTimer, get?_set, LinkRecord.demoted]
  · simp only [get?_stopTimer, get?_set, LinkRecord.demoted]

/-! ## Interfaces that are not concerned -/

/-- A frame changes nothing about other interfaces than its own. -/
theorem get?_onFrame_of_ne
    {frame : Frame}
    {other : InterfaceId}
    (differs : other ≠ frame.id)
    (now : Nat) :
    (table.onFrame frame now).1.get? other = table.get? other := by
  unfold onFrame
  cases table.get? frame.id with
  | none =>
      rfl
  | some silent =>
      have heard : ∀ record : LinkRecord,
          (table.set frame.id record).get? other = table.get? other := by
        intro record
        rw [get?_set, if_neg differs]
      cases frame.kind with
      | probe =>
          simp only
          split
          · exact heard _
          · split
            · exact heard _
            · rw [get?_promote, if_neg differs, heard]
      | ack =>
          simp only
          split
          · rw [get?_promote, if_neg differs, heard]
          · exact heard _
      | disconnect =>
          simp only
          split
          · rw [get?_demote, if_neg differs, heard]
          · exact heard _
      | data =>
          simp only
          split
          · rw [onBlock, get?_set, if_neg differs, heard]
          · exact heard _

/-- A timer that is due changes nothing about other interfaces than its own. -/
theorem get?_onTimer_of_ne
    {id other : InterfaceId}
    (differs : other ≠ id)
    (handle : TimerHandle)
    (now : Nat) :
    (table.onTimer handle id now).1.get? other = table.get? other := by
  unfold onTimer
  cases table.get? id with
  | none =>
      rfl
  | some record =>
      simp only
      split
      · rfl
      · split
        · split
          · rw [get?_demote, if_neg differs]
          · rw [get?_resumeTimer]
        · split
          · rw [get?_resumeTimer]
          · rfl

/-- Registering an interface changes nothing about others. -/
theorem get?_add_of_ne
    {id other : InterfaceId}
    (differs : other ≠ id)
    (params? : Option InterfaceParams)
    (now : Nat) :
    (table.add id params? now).get? other = table.get? other := by
  unfold add
  cases table.get? id with
  | none =>
      rw [get?_set, if_neg differs]
      rfl
  | some record =>
      rw [get?_set, if_neg differs]
      rfl

end LinkTable

end StationLink
