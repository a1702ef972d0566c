import StationLink.Proofs.Reception

namespace StationLink

/-!
# Lasting properties of interfaces

An interface changes in a few ways only: it is renamed, shut, made eligible, its
link comes up or is lost, it hears a frame or takes in a block. A property that
a new interface has and that none of these changes ends is lasting; whatever is
done to a table, the interface has it as long as it is registered.
-/

/--
A property of an interface from its registration on, whatever happens to it but
for received frames, and perhaps not once it is made eligible.
-/
structure LinkRecord.Kept (P : LinkRecord → Prop) : Prop where
  registered : ∀ channel hardwareName timer now,
    P { channel, hardwareName, timer, lastHeard := now }
  renamed : ∀ {record}, P record → ∀ channel hardwareName,
    P { record with channel, hardwareName }
  shut : ∀ {record}, P record → P record.shut
  demoted : ∀ {record}, P record → record.running = true → P record.demoted

/-- Such a property that no frame without a message ends either. -/
structure LinkRecord.Trained (P : LinkRecord → Prop) : Prop extends LinkRecord.Kept P where
  hearing : ∀ {record}, P record → ∀ now, P (record.hearing now)
  promoted : ∀ {record}, P record → record.eligible = true → P record.promoted

/-- Such a property that no received frame ends at all. -/
structure LinkRecord.Lasting (P : LinkRecord → Prop) : Prop extends LinkRecord.Trained P where
  receiving : ∀ {record}, P record → record.running = true → ∀ command block,
    P (record.receiving (record.reception.take command block).1)

namespace LinkTable

/-- An interface has a property, or is not registered. -/
def Holds (P : LinkRecord → Prop) (table : LinkTable) (id : InterfaceId) : Prop :=
  ∀ record, table.get? id = some record → P record

namespace Holds

variable {P : LinkRecord → Prop} {table after : LinkTable} {id : InterfaceId}

theorem ofSettings
    (settings : LinkSettings) :
    Holds P (LinkTable.ofSettings settings) id := by
  intro record found
  cases found

/-- What holds of an interface lasts while its record is the same. -/
theorem of_same
    (holds : Holds P table id)
    (same : after.get? id = table.get? id) :
    Holds P after id := by
  intro record found
  rw [same] at found
  exact holds record found

/-- An interface has a property if it is entered with a record that has it. -/
theorem set
    (table : LinkTable)
    {record : LinkRecord}
    (has : P record) :
    Holds P (table.set id record) id := by
  intro other found
  rw [get?_set, if_pos rfl] at found
  cases found
  exact has

/-- What holds of an interface lasts when interfaces are forgotten. -/
theorem forget
    (holds : Holds P table id)
    (other : InterfaceId) :
    Holds P (table.forget other) id := by
  intro record found
  rw [get?_forget] at found
  split at found
  · cases found
  · exact holds record found

/-- Raising another interface makes no difference to what holds of one. -/
theorem up
    (holds : Holds P table id)
    {other : InterfaceId}
    {now : Nat}
    {changed : Bool}
    (result : table.up other now = .ok (after, changed))
    (raised : ∀ record, other = id → P record → P { record with eligible := true }) :
    Holds P after id := by
  unfold LinkTable.up at result
  cases found : table.get? other with
  | none =>
      rw [found] at result
      cases result
  | some record =>
      simp only [found] at result
      split at result
      · cases result
        exact holds
      · cases result
        by_cases same : other = id
        · subst other
          exact (set table (raised record rfl (holds record found))).of_same rfl
        · have unchanged :
              (table.set other { record with eligible := true }).get? id =
                table.get? id := by
            rw [get?_set, if_neg (Ne.symm same)]
          exact holds.of_same unchanged

section Kept

variable (kept : LinkRecord.Kept P)
include kept

/-- What holds of an interface lasts when links are taken away. -/
theorem shut
    (holds : Holds P table id)
    (other : InterfaceId) :
    Holds P (table.shut other).1 id := by
  intro record found
  rw [get?_shut] at found
  split at found
  · obtain ⟨before, foundBefore, isShut⟩ := Option.map_eq_some_iff.mp found
    rw [← isShut]
    exact kept.shut (holds before foundBefore)
  · exact holds record found

/-- What holds of an interface lasts when links are taken away politely. -/
theorem shutPolitely
    (holds : Holds P table id)
    (other : InterfaceId) :
    Holds P (table.shutPolitely other).1 id := by
  apply (holds.shut kept other).of_same
  rw [get?_shutPolitely, get?_shut]

/-- What holds of an interface lasts when interfaces are removed. -/
theorem removeAll
    (holds : Holds P table id)
    (ids : List InterfaceId) :
    Holds P (table.removeAll ids).1 id := by
  induction ids generalizing table with
  | nil =>
      exact holds
  | cons other rest inductionHypothesis =>
      exact inductionHypothesis ((holds.shutPolitely kept other).forget other)

/-- What holds of an interface lasts when several links are taken away. -/
theorem shutAll
    (holds : Holds P table id)
    (ids : List InterfaceId) :
    Holds P (table.shutAll ids).1 id := by
  induction ids generalizing table with
  | nil =>
      exact holds
  | cons other rest inductionHypothesis =>
      exact inductionHypothesis (holds.shut kept other)

/-- What holds of an interface lasts when interfaces are registered. -/
theorem add
    (holds : Holds P table id)
    (other : InterfaceId)
    (params? : Option InterfaceParams)
    (now : Nat) :
    Holds P (table.add other params? now) id := by
  by_cases same : id = other
  · subst other
    unfold LinkTable.add
    cases before : table.get? id with
    | none =>
        exact set _ (kept.registered _ _ _ now)
    | some old =>
        exact set _ (kept.renamed (holds old before) _ _)
  · exact holds.of_same (get?_add_of_ne table same params? now)

/-- What holds of an interface lasts when its link is lost. -/
theorem demote
    (table : LinkTable)
    {record : LinkRecord}
    (has : P record)
    (running : record.running = true)
    (now : Nat) :
    Holds P (table.demote id record now).1 id := by
  intro after found
  rw [get?_demote, if_pos rfl] at found
  cases found
  exact kept.demoted has running

/-- What holds of an interface lasts when a timer is handled. -/
theorem onTimer
    (holds : Holds P table id)
    (handle : TimerHandle)
    (other : InterfaceId)
    (now : Nat) :
    Holds P (table.onTimer handle other now).1 id := by
  by_cases same : id = other
  · subst other
    unfold LinkTable.onTimer
    cases found : table.get? id with
    | none =>
        exact holds
    | some record =>
        simp only
        split
        · exact holds
        · split
          · next isUp =>
              split
              · exact demote kept _ (holds record found) isUp now
              · exact holds
          · split <;> exact holds
  · exact holds.of_same (get?_onTimer_of_ne table same handle now)

/-- What holds of an interface lasts when timers are handled. -/
theorem onTimers
    (holds : Holds P table id)
    (now : Nat)
    (due : List (TimerHandle × InterfaceId)) :
    Holds P (table.onTimers now due).1 id := by
  induction due generalizing table with
  | nil =>
      exact holds
  | cons entry rest inductionHypothesis =>
      exact inductionHypothesis (holds.onTimer kept entry.1 entry.2 now)

/-- What holds of an interface lasts through a sweep. -/
theorem sweep
    (holds : Holds P table id)
    (now : Nat) :
    Holds P (table.sweep now).1 id := by
  have taken : Holds P { table with timers := (table.timers.takeDue now).2 } id :=
    holds.of_same rfl
  exact taken.onTimers kept now (table.timers.takeDue now).1

/--
An operation that is not a received frame keeps such a property, if making the
interface eligible does.
-/
theorem perform_of_own
    (holds : Holds P table id)
    {operation : Operation}
    (own : ∀ frame now, operation ≠ .frame frame now)
    (raised : ∀ now record, operation = .up id now → P record →
      P { record with eligible := true }) :
    Holds P (table.perform operation).1 id := by
  cases operation with
  | add other params? now =>
      exact holds.add kept other params? now
  | up other now =>
      simp only [LinkTable.perform]
      split
      · next result =>
          apply holds.up result
          intro record same
          rw [same] at raised
          exact raised now record rfl
      · exact holds
  | down other =>
      simp only [LinkTable.perform, LinkTable.down]
      cases table.get? other with
      | none =>
          exact holds
      | some record =>
          exact holds.shutPolitely kept other
  | remove other =>
      simp only [LinkTable.perform, LinkTable.remove, LinkTable.down]
      cases table.get? other with
      | none =>
          exact holds
      | some record =>
          exact (holds.shutPolitely kept other).forget other
  | teardown =>
      exact holds.removeAll kept table.records.keys
  | frame frame now =>
      exact (own frame now rfl).elim
  | writeFailed other =>
      exact holds.shut kept other
  | transportLost =>
      exact holds.shutAll kept table.records.keys
  | setFilter filter? =>
      exact holds
  | sweep now =>
      exact holds.sweep kept now

end Kept

section Trained

variable (trained : LinkRecord.Trained P)
include trained

/-- What training keeps holds of a link that has come up. -/
theorem promote
    (table : LinkTable)
    {record : LinkRecord}
    (has : P record)
    (eligible : record.eligible = true)
    (now : Nat) :
    Holds P (table.promote id record now).1 id := by
  intro after found
  rw [get?_promote, if_pos rfl] at found
  cases found
  exact trained.promoted has eligible

/-- What training keeps lasts when a control frame arrives. -/
theorem onFrame_of_control
    (holds : Holds P table id)
    {frame : Frame}
    (notData : frame.kind ≠ .data)
    (now : Nat) :
    Holds P (table.onFrame frame now).1 id := by
  by_cases same : id = frame.id
  · subst id
    cases found : table.get? frame.id with
    | none =>
        simpa only [LinkTable.onFrame, found] using holds
    | some silent =>
        have has : P (silent.hearing now) := trained.hearing (holds silent found) now
        have heard : Holds P (table.set frame.id (silent.hearing now)) frame.id :=
          set table has
        unfold LinkTable.onFrame
        rw [found]
        cases kind : frame.kind with
        | probe =>
            simp only
            split
            · exact heard
            · next canTrain =>
                split
                · exact heard
                · exact promote trained _ has (Decidable.not_not.mp canTrain) now
        | ack =>
            simp only
            split
            · next training =>
                exact promote trained _ has training.1 now
            · exact heard
        | disconnect =>
            simp only
            split
            · next isUp =>
                exact demote trained.toKept _ has isUp now
            · exact heard
        | data =>
            exact (notData kind).elim
  · exact holds.of_same (get?_onFrame_of_ne table same now)

end Trained

variable (lasting : LinkRecord.Lasting P)
include lasting

/-- What all frames keep lasts whichever of them arrives. -/
theorem onFrame
    (holds : Holds P table id)
    (frame : Frame)
    (now : Nat) :
    Holds P (table.onFrame frame now).1 id := by
  by_cases isData : frame.kind = .data
  · by_cases same : id = frame.id
    · subst id
      cases found : table.get? frame.id with
      | none =>
          simpa only [LinkTable.onFrame, found] using holds
      | some silent =>
          have has : P (silent.hearing now) := lasting.hearing (holds silent found) now
          unfold LinkTable.onFrame
          simp only [found, isData]
          split
          · next isUp =>
              rw [onBlock_eq]
              exact set _ (lasting.receiving has isUp _ _)
          · exact set table has
    · exact holds.of_same (get?_onFrame_of_ne table same now)
  · exact holds.onFrame_of_control lasting.toTrained isData now

/-- An operation keeps a lasting property, if making the interface eligible does. -/
theorem perform
    (holds : Holds P table id)
    (operation : Operation)
    (raised : ∀ now record, operation = .up id now → P record →
      P { record with eligible := true }) :
    Holds P (table.perform operation).1 id := by
  by_cases isFrame : ∃ frame now, operation = .frame frame now
  · rcases isFrame with ⟨frame, now, isFrame⟩
    subst operation
    exact holds.onFrame lasting frame now
  · have own : ∀ frame now, operation ≠ .frame frame now := by
      intro frame now same
      exact isFrame ⟨frame, now, same⟩
    exact holds.perform_of_own lasting.toKept own raised

/-- What lasts through operations lasts through a run. -/
theorem run
    (raised : ∀ {record}, P record → P { record with eligible := true })
    (holds : Holds P table id)
    (operations : List Operation) :
    Holds P (table.run operations).1 id := by
  induction operations generalizing table with
  | nil =>
      exact holds
  | cons operation rest inductionHypothesis =>
      exact inductionHypothesis
        (holds.perform lasting operation fun _ _ _ has => raised has)

end Holds

/-- Between trains a reassembler is as good as new, whatever has happened so far. -/
theorem reassembler_eq_empty
    {settings : LinkSettings}
    {operations : List Operation}
    {id : InterfaceId}
    {record : LinkRecord}
    (found : ((ofSettings settings).run operations).1.get? id = some record)
    (idle : record.reassembler.isPending = false) :
    record.reassembler = .empty := by
  have lasting : LinkRecord.Lasting fun record => record.reassembler.WellFormed :=
    { registered := fun _ _ _ _ => .empty
      renamed := fun has _ _ => has
      shut := fun _ => .empty
      hearing := fun has _ => has
      promoted := fun _ _ => .empty
      demoted := fun _ _ => .empty
      receiving := by
        intro record has running command block
        have turned : (record.reception.turned command).reassembler.WellFormed := by
          simp only [Reception.turned]
          split
          · exact .empty
          · exact has
        exact turned.push block }
  have wellFormed : record.reassembler.WellFormed :=
    Holds.run lasting (fun has => has) (Holds.ofSettings settings) operations
      record found
  exact wellFormed.eq_empty idle

end LinkTable

end StationLink
