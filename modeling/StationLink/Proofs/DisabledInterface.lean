import StationLink.Proofs.LastingProperty

namespace StationLink.LinkTable

/-!
# Interfaces that were not made eligible

An interface that is neither eligible nor running is disabled, and so is one
that is not registered. Nothing but making it eligible changes that: neither
frames for it, of whatever kind, nor its timer, nor anything done to others.
-/

/-- The interface is not registered, or it is neither eligible nor running. -/
def Disabled (table : LinkTable) (id : InterfaceId) : Prop :=
  Holds (fun record => record.eligible = false ∧ record.running = false) table id

namespace Disabled

variable {table : LinkTable} {id : InterfaceId}

theorem isRunning_eq_false
    (disabled : table.Disabled id) :
    table.isRunning id = false := by
  unfold isRunning
  cases found : table.get? id with
  | none =>
      rfl
  | some record =>
      exact (disabled record found).2

theorem kept :
    LinkRecord.Kept fun record =>
      record.eligible = false ∧ record.running = false where
  registered := fun _ _ _ _ => ⟨rfl, rfl⟩
  renamed := fun disabled _ _ => disabled
  shut := fun _ => ⟨rfl, rfl⟩
  demoted := fun disabled _ => ⟨disabled.1, rfl⟩

/-- What an interface needs to leave this state is that it is eligible or running. -/
theorem lasting :
    LinkRecord.Lasting fun record =>
      record.eligible = false ∧ record.running = false where
  toKept := kept
  hearing := fun disabled _ => disabled
  promoted := fun disabled eligible =>
    (Bool.false_ne_true (disabled.1.symm.trans eligible)).elim
  receiving := fun disabled _ _ _ => disabled

end Disabled

/-! ## Taking interfaces away -/

/-- After all interfaces of a list were removed none of them is found. -/
theorem get?_removeAll
    (table : LinkTable)
    (ids : List InterfaceId)
    (id : InterfaceId) :
    (table.removeAll ids).1.get? id = if id ∈ ids then none else table.get? id := by
  induction ids generalizing table with
  | nil =>
      rfl
  | cons first rest inductionHypothesis =>
      simp only [LinkTable.removeAll]
      rw [inductionHypothesis, get?_forget, get?_shutPolitely]
      by_cases isFirst : id = first
      · simp [isFirst]
      · simp [isFirst]

/-- After the teardown no interface is left. -/
theorem get?_teardown
    (table : LinkTable)
    (id : InterfaceId) :
    table.teardown.1.get? id = none := by
  rw [teardown, get?_removeAll]
  split
  · rfl
  · next notKey =>
      cases found : table.get? id with
      | none =>
          rfl
      | some record =>
          exact (notKey ((mem_keys_iff table id).mpr ⟨record, found⟩)).elim

variable {table : LinkTable} {id : InterfaceId}

theorem disabled_of_missing
    (missing : table.get? id = none) :
    table.Disabled id := by
  intro record found
  cases missing.symm.trans found

/-- Once a link is taken away its interface is disabled. -/
theorem disabled_of_shut
    {after : LinkTable}
    (isShut : after.get? id = (table.get? id).map .shut) :
    after.Disabled id := by
  intro record found
  rw [isShut] at found
  obtain ⟨before, _, rfl⟩ := Option.map_eq_some_iff.mp found
  exact ⟨rfl, rfl⟩

theorem disabled_shut
    (table : LinkTable)
    (id : InterfaceId) :
    (table.shut id).1.Disabled id :=
  disabled_of_shut ((get?_shut table id id).trans (if_pos rfl))

theorem disabled_shutAll
    {ids : List InterfaceId}
    (member : id ∈ ids) :
    (table.shutAll ids).1.Disabled id := by
  induction ids generalizing table with
  | nil =>
      cases member
  | cons first rest inductionHypothesis =>
      rcases List.mem_cons.mp member with isFirst | isLater
      · subst isFirst
        exact (disabled_shut table id).shutAll Disabled.kept rest
      · exact inductionHypothesis isLater

/-- When the transport is lost every interface becomes disabled. -/
theorem disabled_transportLost
    (table : LinkTable)
    (id : InterfaceId) :
    table.transportLost.1.Disabled id := by
  by_cases isKey : id ∈ table.records.keys
  · exact disabled_shutAll isKey
  · have missing : table.get? id = none := by
      rw [mem_keys_iff, not_exists] at isKey
      exact Option.eq_none_iff_forall_not_mem.mpr isKey
    exact (disabled_of_missing missing).shutAll Disabled.kept table.records.keys

/-! ## Operations -/

/-- Only making a disabled interface eligible changes that it is disabled. -/
theorem Disabled.perform
    (disabled : table.Disabled id)
    {operation : Operation}
    (notRaised : ∀ now outcome, operation = .up id now → table.up id now ≠ .ok outcome) :
    (table.perform operation).1.Disabled id := by
  by_cases isUp : ∃ now, operation = .up id now
  · obtain ⟨now, rfl⟩ := isUp
    cases raised : table.up id now with
    | ok outcome =>
        exact (notRaised now outcome rfl raised).elim
    | error error =>
        simpa only [LinkTable.perform, raised] using disabled
  · exact Holds.perform Disabled.lasting disabled operation
      fun now _ same _ => (isUp ⟨now, same⟩).elim

/-- The first of some operations leaves an interface disabled that none of them raises. -/
theorem Disabled.perform_head
    (disabled : table.Disabled id)
    {operation : Operation}
    {rest : List Operation}
    (noneRaised : ∀ now, .up id now ∉ operation :: rest) :
    (table.perform operation).1.Disabled id :=
  disabled.perform fun now _ isUp => (noneRaised now (isUp ▸ List.mem_cons_self)).elim

/-- An interface that is out of use stays so through any run that does not raise it. -/
theorem Disabled.run
    (disabled : table.Disabled id)
    {operations : List Operation}
    (noneRaised : ∀ now, .up id now ∉ operations) :
    (table.run operations).1.Disabled id := by
  induction operations generalizing table with
  | nil =>
      exact disabled
  | cons operation rest inductionHypothesis =>
      exact inductionHypothesis (disabled.perform_head noneRaised)
        fun now isLater => noneRaised now (List.mem_cons_of_mem operation isLater)

end StationLink.LinkTable
