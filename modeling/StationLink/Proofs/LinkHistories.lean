import StationLink.Proofs.LinkChanges

namespace StationLink.LinkTable

/-!
# Histories of a link table

A sweep takes the timers that are due out of the queue and handles them one after
another, and anything may happen in between. A history is a list of happenings, among
which the two halves of a sweep stand apart: a timer may be handled late, more than
once or not at all, and so may one that nobody has any more. Interfaces and timers
stay in step all the same, if the timers that were taken out are counted as waiting
(`exists_inStep_undergoAll`).
-/

/-- Something that happens to a link table. -/
inductive Happening where
  | performed (operation : Operation)
  /-- Timers are taken out of the queue because they are due. -/
  | taken (now : Nat)
  /-- A timer is handled, whether or not it has been taken out. -/
  | handled (handle : TimerHandle) (id : InterfaceId) (now : Nat)

/-- What a happening makes of a table, and what is to be done about it. -/
def undergo (table : LinkTable) : Happening → LinkTable × List Action
  | .performed operation => table.perform operation
  | .taken now => ({ table with timers := (table.timers.takeDue now).2 }, [])
  | .handled handle id now => table.onTimer handle id now

/-- What happenings make of a table one after another. -/
def undergoAll (table : LinkTable) : List Happening → LinkTable × List Action
  | [] => (table, [])
  | happening :: rest =>
      let (table, actions) := table.undergo happening
      let (table, others) := table.undergoAll rest
      (table, actions ++ others)

theorem undergoAll_append
    (table : LinkTable)
    (first second : List Happening) :
    (table.undergoAll (first ++ second)).1 =
      ((table.undergoAll first).1.undergoAll second).1 := by
  induction first generalizing table with
  | nil =>
      rfl
  | cons happening rest inductionHypothesis =>
      exact inductionHypothesis (table.undergo happening).1

/-! ## Timers -/

variable {table : LinkTable}
variable {pending : List (TimerHandle × InterfaceId)}

/-- Interfaces and timers stay in step whatever happens, with what waits to be handled. -/
theorem InStep.exists_undergo
    (inStep : table.InStep pending)
    (happening : Happening) :
    ∃ later, (table.undergo happening).1.InStep later := by
  cases happening with
  | performed operation =>
      exact ⟨pending, inStep.perform operation⟩
  | taken now =>
      exact ⟨_, inStep.takeDue now⟩
  | handled handle id now =>
      -- A timer that does not wait may be handled as if it did.
      have waiting : table.InStep ((handle, id) :: pending) :=
        inStep.weaken fun _ _ member => List.mem_cons_of_mem _ member
      exact ⟨pending, waiting.onTimer now⟩

theorem InStep.exists_undergoAll
    (inStep : table.InStep pending)
    (happenings : List Happening) :
    ∃ later, (table.undergoAll happenings).1.InStep later := by
  induction happenings generalizing table pending with
  | nil =>
      exact ⟨pending, inStep⟩
  | cons happening rest inductionHypothesis =>
      obtain ⟨_, inStepAfter⟩ := inStep.exists_undergo happening
      exact inductionHypothesis inStepAfter

/-- Interfaces and timers are in step after any history. -/
theorem exists_inStep_undergoAll
    (settings : LinkSettings)
    (happenings : List Happening) :
    ∃ pending, ((ofSettings settings).undergoAll happenings).1.InStep pending :=
  (inStep_ofSettings settings).exists_undergoAll happenings

/-! ## Registration -/

/-- Whether an interface is registered after an operation. -/
def Operation.leavesRegistered
    (id : InterfaceId)
    (registered : Bool) :
    Operation → Bool
  | .add other _ _ => registered || other = id
  | .remove other => registered && other ≠ id
  | .teardown => false
  | .up .. | .down _ | .frame .. | .writeFailed _ | .transportLost | .setFilter _
  | .sweep _ => registered

/-- Whether an interface is registered after a happening. -/
def Happening.leavesRegistered (id : InterfaceId) (registered : Bool) : Happening → Bool
  | .performed operation => operation.leavesRegistered id registered
  | .taken _ | .handled .. => registered

/-- Whether an interface is registered. -/
def isRegistered (table : LinkTable) (id : InterfaceId) : Bool :=
  (table.get? id).isSome

theorem SameRegistration.isRegistered
    {after : LinkTable}
    (same : SameRegistration table after)
    (id : InterfaceId) :
    after.isRegistered id = table.isRegistered id := by
  have sameRegistration := congrArg Option.isSome (same.registration id)
  rwa [Option.isSome_map, Option.isSome_map] at sameRegistration

/-- Whether an interface is registered depends on the operations about it only. -/
theorem isRegistered_perform
    (table : LinkTable)
    (operation : Operation)
    (id : InterfaceId) :
    (table.perform operation).1.isRegistered id =
      operation.leavesRegistered id (table.isRegistered id) := by
  cases operation with
  | add other params? now =>
      by_cases isOwn : id = other
      · subst other
        have found : ∃ record, (table.add id params? now).get? id = some record := by
          unfold LinkTable.add
          cases table.get? id <;> exact ⟨_, (get?_set _ id id _).trans (if_pos rfl)⟩
        obtain ⟨record, found⟩ := found
        simp [perform, Operation.leavesRegistered, isRegistered, found]
      · simp [perform, Operation.leavesRegistered, isRegistered,
          get?_add_of_ne table isOwn, Ne.symm isOwn]
  | up other now =>
      simp only [perform, Operation.leavesRegistered]
      split
      · next raised =>
          exact (SameRegistration.up raised).isRegistered id
      · rfl
  | down other =>
      rw [perform_down]
      exact (SameRegistration.shutPolitely table other).isRegistered id
  | remove other =>
      rw [perform_remove, isRegistered, get?_forget, get?_shutPolitely]
      by_cases isOwn : id = other
      · simp [Operation.leavesRegistered, isOwn]
      · simp [Operation.leavesRegistered, isRegistered, isOwn, Ne.symm isOwn]
  | teardown =>
      exact congrArg Option.isSome (get?_teardown table id)
  | frame frame now =>
      exact (SameRegistration.onFrame table frame now).isRegistered id
  | writeFailed other =>
      exact (SameRegistration.shut table other).isRegistered id
  | transportLost =>
      exact (SameRegistration.shutAll table table.records.keys).isRegistered id
  | setFilter filter? =>
      rfl
  | sweep now =>
      exact (SameRegistration.sweep table now).isRegistered id

theorem isRegistered_undergo
    (table : LinkTable)
    (happening : Happening)
    (id : InterfaceId) :
    (table.undergo happening).1.isRegistered id =
      happening.leavesRegistered id (table.isRegistered id) := by
  cases happening with
  | performed operation =>
      exact isRegistered_perform table operation id
  | taken now =>
      rfl
  | handled handle other now =>
      exact (SameRegistration.onTimer table handle other now).isRegistered id

/-- Whether an interface is registered after a history is told by its happenings. -/
theorem isRegistered_undergoAll
    (table : LinkTable)
    (happenings : List Happening)
    (id : InterfaceId) :
    (table.undergoAll happenings).1.isRegistered id =
      happenings.foldl (Happening.leavesRegistered id) (table.isRegistered id) := by
  induction happenings generalizing table with
  | nil =>
      rfl
  | cons happening rest inductionHypothesis =>
      rw [undergoAll, List.foldl_cons, ← isRegistered_undergo]
      exact inductionHypothesis (table.undergo happening).1

end StationLink.LinkTable
