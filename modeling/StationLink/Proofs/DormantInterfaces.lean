import StationLink.Proofs.LinkHistories

namespace StationLink.LinkTable

/-!
# Dormant interfaces

An interface that is not eligible is dormant: its link is down, its timer is not linked,
and nothing is transmitted or reported about it (`silent_until_raised`). Late frames,
timers that were taken out of the queue while it was still eligible, registering it anew
and whatever is done to other interfaces do not wake it. Only making it eligible does.
-/

/-- An interface is not eligible, its link is down, and no timer of it is linked. -/
structure Dormant (table : LinkTable) (id : InterfaceId) : Prop where
  ineligible : table.isEligible id = false
  notRunning : table.isRunning id = false
  own_unlinked :
    ∀ record, table.get? id = some record →
      table.timers.isLinked record.timer = false
  unlinked :
    ∀ handle timer, table.timers.get? handle = some timer → timer.data = id →
      timer.linked = false

/-- An operation that leaves an interface ineligible, as far as it was not registered. -/
def Operation.disables (id : InterfaceId) (registered : Bool) : Operation → Bool
  | .add other _ _ => other = id ∧ registered = false
  | .down other | .remove other | .writeFailed other => other = id
  | .teardown | .transportLost => true
  | .up .. | .frame .. | .setFilter _ | .sweep _ => false

variable {table : LinkTable} {id : InterfaceId}
variable {pending : List (TimerHandle × InterfaceId)}

theorem isEligible_of_found
    {record : LinkRecord}
    (found : table.get? id = some record) :
    table.isEligible id = record.eligible := by
  rw [isEligible, found, Option.any_some]

theorem state_of_notRunning
    (notRunning : table.isRunning id = false) :
    table.state id = if table.isRegistered id then .inactive else .notFound := by
  unfold state isRegistered
  cases found : table.get? id with
  | none =>
      rfl
  | some record =>
      rw [isRunning_of_found found] at notRunning
      simp [notRunning]

/-! ## Disabled interfaces -/

/-- Where links are up on eligible interfaces only, an ineligible one is disabled. -/
theorem InStep.disabled_iff
    (inStep : table.InStep pending) :
    table.Disabled id ↔ table.isEligible id = false := by
  constructor
  · intro disabled
    cases found : table.get? id with
    | none =>
        rw [isEligible, found, Option.any_none]
    | some record =>
        rw [isEligible_of_found found]
        exact (disabled record found).1
  · intro ineligible record found
    rw [isEligible_of_found found] at ineligible
    refine ⟨ineligible, Bool.eq_false_iff.mpr fun running => ?_⟩
    have eligible := inStep.eligible_of_running found running
    exact Bool.false_ne_true (ineligible.symm.trans eligible)

theorem InStep.dormant
    (inStep : table.InStep pending)
    (disabled : table.Disabled id) :
    table.Dormant id where
  ineligible := inStep.disabled_iff.mp disabled
  notRunning := disabled.isRunning_eq_false
  own_unlinked := by
    intro record found
    obtain ⟨timer, slot, _, eligible, _⟩ := inStep.timer_of_record found
    rw [TimerQueue.isLinked_eq, slot]
    refine Bool.eq_false_iff.mpr fun linked => ?_
    exact Bool.false_ne_true ((disabled record found).1.symm.trans (eligible linked))
  unlinked := by
    intro handle timer slot isOwn
    obtain ⟨record, found, hasTimer⟩ := inStep.record_of_timer slot
    obtain ⟨owned, ownSlot, _, eligible, _⟩ := inStep.timer_of_record found
    rw [hasTimer, slot] at ownSlot
    cases ownSlot
    subst isOwn
    refine Bool.eq_false_iff.mpr fun linked => ?_
    exact Bool.false_ne_true ((disabled record found).1.symm.trans (eligible linked))

/-- What disables an interface leaves it out of use. -/
theorem disabled_of_disables
    {operation : Operation}
    (disables : operation.disables id (table.isRegistered id) = true) :
    (table.perform operation).1.Disabled id := by
  cases operation with
  | add other params? now =>
      obtain ⟨rfl, notRegistered⟩ := of_decide_eq_true disables
      have missing := Option.isSome_eq_false_iff.mp notRegistered
      exact (disabled_of_missing (Option.isNone_iff_eq_none.mp missing)).add Disabled.kept other
        params? now
  | down other =>
      obtain rfl := of_decide_eq_true disables
      exact disabled_down table other
  | remove other =>
      obtain rfl := of_decide_eq_true disables
      rw [perform_remove]
      exact disabled_of_missing ((get?_forget _ other other).trans (if_pos rfl))
  | writeFailed other =>
      obtain rfl := of_decide_eq_true disables
      exact disabled_shut table other
  | teardown =>
      exact disabled_of_missing (get?_teardown table id)
  | transportLost =>
      exact disabled_transportLost table id
  | up | frame | setFilter | sweep =>
      cases disables

/-! ## Silence -/

/-- A timer that is handled does nothing about a disabled interface. -/
theorem about_onTimer_of_disabled
    (inStep : table.InStep pending)
    (disabled : table.Disabled id)
    (handle : TimerHandle)
    (owner : InterfaceId)
    (now : Nat) :
    Action.about id (table.onTimer handle owner now).2 = [] := by
  cases found : table.get? owner with
  | none =>
      simp only [onTimer, found]
      rfl
  | some record =>
      by_cases isCurrent : record.timer = handle
      · subst isCurrent
        rw [(Yields.onTimer inStep found now).actions,
          Action.about_eq_ite (Link.id_of_mem_onTimer _ _ owner now)]
        split
        · next isOwn =>
            subst isOwn
            exact Link.onTimer_of_isDisabled (disabled record found)
        · rfl
      · simp only [onTimer, found, ne_eq, isCurrent, not_false_eq_true, if_true]
        rfl

/-- Nothing is done about a disabled interface, whatever happens. -/
theorem about_undergo_of_disabled
    (inStep : table.InStep pending)
    (disabled : table.Disabled id)
    (happening : Happening) :
    Action.about id (table.undergo happening).2 = [] := by
  cases happening with
  | performed operation =>
      exact about_perform_of_disabled inStep disabled operation
  | taken now =>
      rfl
  | handled handle owner now =>
      exact about_onTimer_of_disabled inStep disabled handle owner now

/-- Nothing but making a disabled interface eligible ends that it is disabled. -/
theorem Disabled.undergo
    (disabled : table.Disabled id)
    {happening : Happening}
    (notRaised : ∀ now outcome, happening = .performed (.up id now) →
      table.up id now ≠ .ok outcome) :
    (table.undergo happening).1.Disabled id := by
  cases happening with
  | performed operation =>
      exact disabled.perform fun now outcome isUp =>
        notRaised now outcome (congrArg Happening.performed isUp)
  | taken now =>
      exact disabled.of_same rfl
  | handled handle owner now =>
      exact disabled.onTimer Disabled.kept handle owner now

/-- No request to make an interface eligible succeeds in the course of some happenings. -/
def NeverRaised (table : LinkTable) (id : InterfaceId) (happenings : List Happening) : Prop :=
  ∀ passed now rest outcome, happenings = passed ++ .performed (.up id now) :: rest →
    (table.undergoAll passed).1.up id now ≠ .ok outcome

theorem NeverRaised.tail
    {happening : Happening}
    {rest : List Happening}
    (neverRaised : table.NeverRaised id (happening :: rest)) :
    (table.undergo happening).1.NeverRaised id rest :=
  fun passed now later outcome isSplit =>
    neverRaised (happening :: passed) now later outcome
      (congrArg (happening :: ·) isSplit)

/-- An interface that is out of use stays so, and nothing is done about it, until it is raised. -/
theorem Disabled.undergoAll
    (disabled : table.Disabled id)
    (inStep : table.InStep pending)
    {happenings : List Happening}
    (neverRaised : table.NeverRaised id happenings) :
    (table.undergoAll happenings).1.Disabled id ∧
      Action.about id (table.undergoAll happenings).2 = [] := by
  induction happenings generalizing table pending with
  | nil =>
      exact ⟨disabled, rfl⟩
  | cons happening rest inductionHypothesis =>
      have first := about_undergo_of_disabled inStep disabled happening
      have stays : (table.undergo happening).1.Disabled id :=
        disabled.undergo fun now outcome isUp =>
          neverRaised [] now rest outcome (congrArg (· :: rest) isUp)
      obtain ⟨_, inStepAfter⟩ := inStep.exists_undergo happening
      obtain ⟨staysLonger, later⟩ := inductionHypothesis stays inStepAfter neverRaised.tail
      refine ⟨staysLonger, ?_⟩
      rw [LinkTable.undergoAll, Action.about_append, first, later, List.append_nil]

/--
At any point of any history an interface that is newly registered, or that was made
ineligible, is not eligible. From a point where it is not eligible until a request to
make it so succeeds, nothing is transmitted or reported about it, none of its timers is
linked, and it is inactive as long as it is registered.
-/
theorem silent_until_raised
    (settings : LinkSettings)
    (earlier : List Happening)
    (id : InterfaceId) :
    let point := ((ofSettings settings).undergoAll earlier).1
    (∀ operation : Operation, operation.disables id (point.isRegistered id) = true →
      (point.perform operation).1.isEligible id = false) ∧
    ∀ later, point.isEligible id = false → point.NeverRaised id later →
      let outcome := point.undergoAll later
      Action.about id outcome.2 = [] ∧
        outcome.1.Dormant id ∧
        outcome.1.state id =
          if later.foldl (Happening.leavesRegistered id) (point.isRegistered id) then
            .inactive
          else
            .notFound := by
  intro point
  obtain ⟨_, inStep⟩ := exists_inStep_undergoAll settings earlier
  constructor
  · intro operation disables
    exact (inStep.perform operation).disabled_iff.mp (disabled_of_disables disables)
  · intro later ineligible neverRaised outcome
    obtain ⟨disabled, silent⟩ :=
      (inStep.disabled_iff.mpr ineligible).undergoAll inStep neverRaised
    obtain ⟨_, inStepAfter⟩ := inStep.exists_undergoAll later
    have dormant := inStepAfter.dormant disabled
    refine ⟨silent, dormant, ?_⟩
    rw [state_of_notRunning dormant.notRunning, isRegistered_undergoAll]

/--
A timer is taken out of the queue before its interface is made ineligible. Neither it nor
the answer to a probe nor anything else that comes late has any effect.
-/
theorem silent_after_down :
    let ack : Frame := .ack 7
    let earlier : List Happening :=
      [.performed (.add 7 none 0), .performed (.up 7 0), .performed (.frame ack 1),
        .taken 6000, .performed (.down 7)]
    let later : List Happening :=
      [.handled 0 7 6000, .performed (.frame ack 6001), .performed (.frame (.probe 7 1) 6002),
        .performed (.add 8 none 6003), .performed (.up 8 6003), .performed (.remove 7),
        .performed (.add 7 none 6004), .handled 0 7 6005, .performed (.sweep 7000),
        .performed (.writeFailed 7)]
    let point := ((ofSettings {}).undergoAll earlier).1
    let outcome := point.undergoAll later
    point.isEligible 7 = false ∧ point.NeverRaised 7 later ∧
      Action.about 7 outcome.2 = [] ∧ outcome.1.Dormant 7 ∧ outcome.1.state 7 = .inactive := by
  intro ack earlier later point outcome
  have ineligible : point.isEligible 7 = false := by
    decide +kernel
  have neverRaised : point.NeverRaised 7 later := by
    intro passed now rest _ isSplit
    have isLater : Happening.performed (.up 7 now) ∈ later := by
      rw [isSplit]
      exact List.mem_append_right passed List.mem_cons_self
    simp [later] at isLater
  obtain ⟨_, untilRaised⟩ := silent_until_raised {} earlier 7
  obtain ⟨silent, dormant, state⟩ := untilRaised later ineligible neverRaised
  refine ⟨ineligible, neverRaised, silent, dormant, state.trans ?_⟩
  decide +kernel

end StationLink.LinkTable
