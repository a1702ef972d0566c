import Mathlib.Data.List.Basic
import Mathlib.Data.List.Nodup
import Mathlib.Logic.Function.Basic
import StationLink.Proofs.TimerQueue

namespace StationLink

/-!
# Timer queues as agendas

An agenda tells what there is to know of a timer queue and nothing of how the queue
finds it: under each handle the data of a live timer and, while it is linked, its turn.
What is due is found by looking through all timers and sorting.

A queue keeps a schedule instead, which every operation has to keep in step with the
timers. `TimerQueue.answers_eq_agenda` says that it does: whatever is asked of a new
queue is answered as an agenda answers it, and a timer that was given up stays unknown.
-/

/-! ## Agendas -/

/-- What there is to know of a timer. -/
@[ext] structure AgendaEntry (α : Type) where
  data : α
  /-- The turn of the timer while it is linked. -/
  turn? : Option Turn

/-- The live timers by their handles. -/
@[ext] structure Agenda (α : Type) where
  find? : TimerHandle → Option (AgendaEntry α)
  /-- How many handles were given out. -/
  handles : Nat
  /-- How many linkings there were. -/
  linkings : Nat

namespace Agenda

variable {α : Type}

/-- The agenda without timers. -/
def empty : Agenda α where
  find? := fun _ => none
  handles := 0
  linkings := 0

/-- Put an entry under a handle, or take away the one there is. -/
def update (agenda : Agenda α) (handle : TimerHandle) (found? : Option (AgendaEntry α)) :
    Agenda α :=
  { agenda with find? := Function.update agenda.find? handle found? }

/-- A new detached timer has the next handle. -/
def alloc (agenda : Agenda α) (data : α) : Agenda α × TimerHandle :=
  let handle := agenda.handles
  ({ agenda.update handle (some { data, turn? := none }) with handles := handle + 1 }, handle)

/-- Give a timer the turn of the next linking. -/
def link
    (agenda : Agenda α)
    (handle : TimerHandle)
    (data : α)
    (expires : Nat) :
    Agenda α :=
  let linking := agenda.linkings
  { agenda.update handle (some { data, turn? := some { expires, linking } }) with
    linkings := linking + 1 }

/-- Every live timer can be linked. -/
def change (agenda : Agenda α) (handle : TimerHandle) (expires : Nat) : Agenda α × Bool :=
  match agenda.find? handle with
  | some entry => (agenda.link handle entry.data expires, true)
  | none => (agenda, false)

/-- Only a live detached timer can be inserted. -/
def insert (agenda : Agenda α) (handle : TimerHandle) (expires : Nat) : Agenda α × Bool :=
  match agenda.find? handle with
  | some { data, turn? := none } => (agenda.link handle data expires, true)
  | _ => (agenda, false)

/-- A new timer that is linked at once. -/
def add (agenda : Agenda α) (expires : Nat) (data : α) : Agenda α × TimerHandle :=
  let (agenda, handle) := agenda.alloc data
  (agenda.link handle data expires, handle)

/-- Only a linked timer can be unlinked. -/
def unlink (agenda : Agenda α) (handle : TimerHandle) : Agenda α × Bool :=
  match agenda.find? handle with
  | some { data, turn? := some _ } =>
      (agenda.update handle (some { data, turn? := none }), true)
  | _ => (agenda, false)

/-- A timer that is given up hands back its data. -/
def cancel (agenda : Agenda α) (handle : TimerHandle) : Agenda α × Option α :=
  (agenda.update handle none, (agenda.find? handle).map (·.data))

/-- Whether a timer is linked. -/
def isLinked (agenda : Agenda α) (handle : TimerHandle) : Bool :=
  (agenda.find? handle).any (·.turn?.isSome)

/-- The linked timers and their turns, in the order of their handles. -/
def linked (agenda : Agenda α) : List (Turn × TimerHandle) :=
  (List.range agenda.handles).filterMap fun handle =>
    ((agenda.find? handle).bind (·.turn?)).map fun turn => (turn, handle)

/-- The least time of a linked timer. -/
def nextExpiry? (agenda : Agenda α) : Option Nat :=
  (agenda.linked.map (·.1.expires)).min?

/-- How long it is until the least time of a linked timer; zero if there is none. -/
def remaining (agenda : Agenda α) (now : Nat) : Nat :=
  (agenda.nextExpiry?.map (· - now)).getD 0

/-- The linked timers whose time has come, sorted by their turns. -/
def due (agenda : Agenda α) (now : Nat) : List (Turn × TimerHandle) :=
  (agenda.linked.filter fun entry => entry.1.expires ≤ now).mergeSort
    fun one other => ¬ other.1 < one.1

/-- The timers whose time has come are handed over with their data and stay, detached. -/
def expire (agenda : Agenda α) (now : Nat) : Agenda α × List (TimerHandle × α) :=
  ({ agenda with
      find? := fun handle => (agenda.find? handle).map fun entry =>
        { entry with turn? := entry.turn?.filter fun turn => now < turn.expires } },
    (agenda.due now).filterMap fun (_, handle) =>
      (agenda.find? handle).map fun entry => (handle, entry.data))

/-- What is due is sorted. -/
theorem pairwise_due
    (agenda : Agenda α)
    (now : Nat) :
    (agenda.due now).Pairwise fun one other => ¬ other.1 < one.1 := by
  refine (List.pairwise_mergeSort ?_ ?_ _).imp of_decide_eq_true
  · intro one other third
    simp only [decide_eq_true_eq, Turn.lt_iff]
    omega
  · intro one other
    simp only [Bool.or_eq_true, decide_eq_true_eq, Turn.lt_iff]
    omega

end Agenda

/-! ## Calls and answers -/

/-- What can be asked of a timer queue. -/
inductive TimerCall (α : Type) where
  | alloc (now : Nat) (data : α)
  | add (now expires : Nat) (data : α)
  | insert (handle : TimerHandle) (expires : Nat)
  | append (handle : TimerHandle) (expires : Nat)
  | change (handle : TimerHandle) (expires : Nat)
  | unlink (handle : TimerHandle)
  | cancel (handle : TimerHandle)
  | isLinked (handle : TimerHandle)
  | size
  | isEmpty
  | nextExpiry
  | remaining (now : Nat)
  /-- Hand over the timers that are due, to a handler that does nothing to the queue. -/
  | expire (now : Nat)

/-- What a timer queue answers. -/
inductive TimerAnswer (α : Type) where
  | handle (handle : TimerHandle)
  | truth (holds : Bool)
  | data (data? : Option α)
  | number (count : Nat)
  | time (expires? : Option Nat)
  | wait (milliseconds : Nat)
  | due (timers : List (TimerHandle × α)) (wait : Nat)
  deriving DecidableEq

namespace TimerCall

variable {α σ : Type}

/-- Make calls one after another and collect the answers. -/
def run
    (perform : σ → TimerCall α → σ × TimerAnswer α)
    (state : σ) :
    List (TimerCall α) → σ × List (TimerAnswer α)
  | [] => (state, [])
  | call :: rest =>
      let (next, answer) := perform state call
      let (last, answers) := run perform next rest
      (last, answer :: answers)

/-- Calls are made one after another. -/
theorem run_append
    (perform : σ → TimerCall α → σ × TimerAnswer α)
    (state : σ)
    (first second : List (TimerCall α)) :
    (run perform state (first ++ second)).1 =
      (run perform (run perform state first).1 second).1 := by
  induction first generalizing state with
  | nil =>
      rfl
  | cons call rest inductionHypothesis =>
      exact inductionHypothesis (perform state call).1

/-- The handle that a call is about. -/
def handle? : TimerCall α → Option TimerHandle
  | .insert handle _ => some handle
  | .append handle _ => some handle
  | .change handle _ => some handle
  | .unlink handle => some handle
  | .cancel handle => some handle
  | .isLinked handle => some handle
  | _ => none

/-- What is answered to a call about a timer that there is not. -/
def unknown : TimerCall α → TimerAnswer α
  | .cancel _ => .data none
  | _ => .truth false

end TimerCall

/-- The handles that an answer gives out or hands over. -/
def TimerAnswer.handles {α : Type} : TimerAnswer α → List TimerHandle
  | .handle given => [given]
  | .due timers _ => timers.map (·.1)
  | _ => []

/-- Make a call to a timer queue. -/
def TimerQueue.perform {α : Type} (queue : TimerQueue α) :
    TimerCall α → TimerQueue α × TimerAnswer α
  | .alloc now data => (queue.alloc now data).map id .handle
  | .add now expires data => (queue.add now expires data).map id .handle
  | .insert handle expires => (queue.insert handle expires).map id .truth
  | .append handle expires => (queue.append handle expires).map id .truth
  | .change handle expires => (queue.change handle expires).map id .truth
  | .unlink handle => (queue.unlink handle).map id .truth
  | .cancel handle => (queue.cancel handle).map id .data
  | .isLinked handle => (queue, .truth (queue.isLinked handle))
  | .size => (queue, .number queue.size)
  | .isEmpty => (queue, .truth queue.isEmpty)
  | .nextExpiry => (queue, .time queue.nextExpiry?)
  | .remaining now => (queue, .wait (queue.remaining now))
  | .expire now =>
      let record (handle : TimerHandle) (data : α) (state : List (TimerHandle × α) × TimerQueue α) :=
        (state.1 ++ [(handle, data)], state.2)
      let ((timers, queue), wait) := queue.expire now record []
      (queue, .due timers wait)

/-- Make a call to an agenda. -/
def Agenda.perform {α : Type} (agenda : Agenda α) :
    TimerCall α → Agenda α × TimerAnswer α
  | .alloc _ data => (agenda.alloc data).map id .handle
  | .add _ expires data => (agenda.add expires data).map id .handle
  | .insert handle expires => (agenda.insert handle expires).map id .truth
  | .append handle expires => (agenda.insert handle expires).map id .truth
  | .change handle expires => (agenda.change handle expires).map id .truth
  | .unlink handle => (agenda.unlink handle).map id .truth
  | .cancel handle => (agenda.cancel handle).map id .data
  | .isLinked handle => (agenda, .truth (agenda.isLinked handle))
  | .size => (agenda, .number agenda.linked.length)
  | .isEmpty => (agenda, .truth agenda.linked.isEmpty)
  | .nextExpiry => (agenda, .time agenda.nextExpiry?)
  | .remaining now => (agenda, .wait (agenda.remaining now))
  | .expire now =>
      let (agenda, timers) := agenda.expire now
      (agenda, .due timers (agenda.remaining now))

/-! ## The agenda of a queue -/

/-- What an agenda says of a timer. -/
def Timer.entry {α : Type} (timer : Timer α) : AgendaEntry α where
  data := timer.data
  turn? := if timer.linked then some timer.turn else none

namespace TimerQueue

variable {α : Type}

/-- The agenda of a queue. -/
def agenda (queue : TimerQueue α) : Agenda α where
  find? := fun handle => (queue.get? handle).map Timer.entry
  handles := queue.nextHandle
  linkings := queue.nextLinking

@[simp] theorem find?_agenda
    (queue : TimerQueue α)
    (handle : TimerHandle) :
    queue.agenda.find? handle = (queue.get? handle).map Timer.entry :=
  rfl

@[simp] theorem handles_agenda
    (queue : TimerQueue α) :
    queue.agenda.handles = queue.nextHandle :=
  rfl

@[simp] theorem linkings_agenda
    (queue : TimerQueue α) :
    queue.agenda.linkings = queue.nextLinking :=
  rfl

/-- The agenda of a queue without timers is empty. -/
theorem agenda_empty :
    (TimerQueue.empty : TimerQueue α).agenda = .empty :=
  rfl

/-! ## Changes of a queue are changes of its agenda -/

variable {queue : TimerQueue α}

/-- A queue that differs from another under one handle only differs so in its agenda. -/
theorem agenda_eq_update
    {changed : TimerQueue α}
    (handle : TimerHandle)
    (found? : Option (AgendaEntry α))
    (isEntry : (changed.get? handle).map Timer.entry = found?)
    (others : ∀ other, other ≠ handle → changed.get? other = queue.get? other) :
    changed.agenda.find? = Function.update queue.agenda.find? handle found? := by
  funext other
  by_cases same : other = handle
  · simp [same, isEntry]
  · simp [same, others other same]

/-- A timer that is allocated in a queue is allocated in its agenda, under the same handle. -/
theorem WellFormed.agenda_alloc
    (wellFormed : queue.WellFormed)
    (now : Nat)
    (data : α) :
    queue.agenda.alloc data = ((queue.alloc now data).1.agenda, (queue.alloc now data).2) := by
  have after := wellFormed.get?_alloc now data
  refine Prod.ext (Agenda.ext (Eq.symm ?_) rfl rfl) rfl
  apply agenda_eq_update queue.nextHandle
  · rw [after, if_pos rfl]
    rfl
  · intro other isOther
    rw [after, if_neg isOther]

/-- A timer that is there and is linked anew is linked anew in the agenda. -/
theorem agenda_change_of_found
    {handle : TimerHandle}
    {timer : Timer α}
    (found : queue.get? handle = some timer)
    (expires : Nat) :
    (queue.change handle expires).1.agenda = queue.agenda.link handle timer.data expires ∧
      (queue.change handle expires).2 = true := by
  have after := fun other => get?_change queue handle other expires
  have isChanged : (queue.change handle expires).2 = true := by
    simp only [TimerQueue.change, found]
  refine ⟨Agenda.ext ?_ (nextHandle_change queue handle expires)
    (nextLinking_change found expires), isChanged⟩
  apply agenda_eq_update
  · rw [after, if_pos rfl, found]
    rfl
  · intro other isOther
    rw [after, if_neg isOther]

/-- Linking a timer at a time does the same to a queue and to its agenda. -/
theorem agenda_change
    (queue : TimerQueue α)
    (handle : TimerHandle)
    (expires : Nat) :
    queue.agenda.change handle expires =
      ((queue.change handle expires).1.agenda, (queue.change handle expires).2) := by
  cases found : queue.get? handle with
  | none =>
      simp [Agenda.change, TimerQueue.change, found]
  | some timer =>
      obtain ⟨linked, isChanged⟩ := agenda_change_of_found found expires
      simp [Agenda.change, found, linked, isChanged, Timer.entry]

/-- Linking a detached timer does the same to a queue and to its agenda. -/
theorem agenda_insert
    (queue : TimerQueue α)
    (handle : TimerHandle)
    (expires : Nat) :
    queue.agenda.insert handle expires =
      ((queue.insert handle expires).1.agenda, (queue.insert handle expires).2) := by
  cases found : queue.get? handle with
  | none =>
      simp [Agenda.insert, TimerQueue.insert, found]
  | some timer =>
      obtain ⟨linked, isChanged⟩ := agenda_change_of_found found expires
      cases isLinked : timer.linked <;>
        simp [Agenda.insert, TimerQueue.insert, found, linked, isChanged, Timer.entry, isLinked]

/-- Adding a linked timer does the same to a queue and to its agenda. -/
theorem WellFormed.agenda_add
    (wellFormed : queue.WellFormed)
    (now expires : Nat)
    (data : α) :
    queue.agenda.add expires data =
      ((queue.add now expires data).1.agenda, (queue.add now expires data).2) := by
  have isNew := wellFormed.get?_alloc now data queue.nextHandle
  rw [if_pos rfl] at isNew
  obtain ⟨linked, _⟩ := agenda_change_of_found isNew expires
  simp only [Agenda.add, wellFormed.agenda_alloc now data, TimerQueue.add]
  exact Prod.ext linked.symm rfl

/-- Detaching a timer does the same to a queue and to its agenda. -/
theorem agenda_unlink
    (queue : TimerQueue α)
    (handle : TimerHandle) :
    queue.agenda.unlink handle =
      ((queue.unlink handle).1.agenda, (queue.unlink handle).2) := by
  cases found : queue.get? handle with
  | none =>
      simp [Agenda.unlink, TimerQueue.unlink, found]
  | some timer =>
      cases isLinked : timer.linked with
      | false =>
          simp [Agenda.unlink, TimerQueue.unlink, found, isLinked, Timer.entry]
      | true =>
          have after := get?_unlink queue handle
          have changed : (queue.unlink handle).1.agenda =
              queue.agenda.update handle (some { data := timer.data, turn? := none }) := by
            refine Agenda.ext ?_ (nextHandle_unlink queue handle) (nextLinking_unlink queue handle)
            apply agenda_eq_update
            · rw [after, if_pos rfl, found]
              rfl
            · intro other isOther
              rw [after, if_neg isOther]
          rw [changed]
          simp [Agenda.unlink, TimerQueue.unlink, found, isLinked, Timer.entry]

/-- Giving up a timer does the same to a queue and to its agenda. -/
theorem agenda_cancel
    (queue : TimerQueue α)
    (handle : TimerHandle) :
    queue.agenda.cancel handle =
      ((queue.cancel handle).1.agenda, (queue.cancel handle).2) := by
  have after := get?_cancel queue handle
  refine Prod.ext (Agenda.ext (Eq.symm ?_) ?_ ?_) ?_
  · apply agenda_eq_update
    · rw [after, if_pos rfl]
      rfl
    · intro other isOther
      rw [after, if_neg isOther]
  · exact (nextHandle_unlink queue handle).symm
  · exact (nextLinking_unlink queue handle).symm
  · have found := get?_unlink queue handle handle
    rw [if_pos rfl] at found
    simp only [Agenda.cancel, TimerQueue.cancel, find?_agenda, found, Option.map_map]
    rfl

theorem agenda_isLinked
    (queue : TimerQueue α)
    (handle : TimerHandle) :
    queue.agenda.isLinked handle = queue.isLinked handle := by
  rw [isLinked_eq]
  cases found : queue.get? handle with
  | none =>
      simp [Agenda.isLinked, found]
  | some timer =>
      cases isLinked : timer.linked <;>
        simp [Agenda.isLinked, found, Timer.entry, isLinked]

/-- Taking the timers that are due does the same to a queue and to its agenda. -/
theorem WellFormed.agenda_takeDue
    (wellFormed : queue.WellFormed)
    (now : Nat) :
    (queue.agenda.expire now).1 = (queue.takeDue now).2.agenda := by
  refine Agenda.ext ?_ rfl rfl
  funext handle
  simp only [Agenda.expire, find?_agenda, wellFormed.get?_takeDue, Option.map_map]
  refine Option.map_congr fun timer _ => AgendaEntry.ext ?_ ?_
  · cases isDue : timer.isDue now <;> simp [Timer.entry, Timer.detached, isDue]
  · cases isLinked : timer.linked with
    | false =>
        simp [Timer.entry, Timer.detached, Timer.isDue, isLinked]
    | true =>
        rcases Nat.lt_or_ge now timer.expires with isEarly | isLate
        · simp [Timer.entry, Timer.isDue, Timer.turn, isLinked, isEarly,
            Nat.not_le_of_lt isEarly]
        · simp [Timer.entry, Timer.detached, Timer.isDue, Timer.turn, isLinked, isLate]

/-! ## The schedule of a queue lists what its agenda says is linked -/

/-- The agenda lists what is linked in the queue, by the turns of the last linkings. -/
theorem WellFormed.mem_linked_iff
    (wellFormed : queue.WellFormed)
    (turn : Turn)
    (handle : TimerHandle) :
    (turn, handle) ∈ queue.agenda.linked ↔
      ∃ timer, queue.get? handle = some timer ∧ timer.linked = true ∧ timer.turn = turn := by
  simp only [Agenda.linked, List.mem_filterMap, List.mem_range, Option.map_eq_some_iff,
    Option.bind_eq_some_iff, find?_agenda]
  constructor
  · rintro ⟨_, _, _, ⟨_, ⟨timer, found, rfl⟩, isTurn⟩, same⟩
    cases same
    simp only [Timer.entry, Option.ite_none_right_eq_some, Option.some.injEq] at isTurn
    exact ⟨timer, found, isTurn⟩
  · rintro ⟨timer, found, linked, rfl⟩
    have isGiven := wellFormed.lt_nextHandle _ (AssociationList.mem_of_lookup found)
    exact ⟨handle, isGiven, timer.turn, ⟨timer.entry, ⟨timer, found, rfl⟩, if_pos linked⟩, rfl⟩

/-- The schedule of a queue lists what its agenda says is linked. -/
theorem WellFormed.entries_perm
    (wellFormed : queue.WellFormed) :
    queue.schedule.entries.Perm queue.agenda.linked := by
  have nodup : queue.agenda.linked.Nodup := by
    refine List.nodup_range.filterMap ?_
    rintro one other ⟨turn, handle⟩ isOne isOther
    obtain ⟨_, _, sameOne⟩ := Option.map_eq_some_iff.mp isOne
    obtain ⟨_, _, sameOther⟩ := Option.map_eq_some_iff.mp isOther
    exact (congrArg Prod.snd (sameOne.trans sameOther.symm))
  rw [List.perm_ext_iff_of_nodup wellFormed.nodup_scheduled.of_map nodup]
  rintro ⟨turn, handle⟩
  rw [wellFormed.mem_schedule_iff, wellFormed.mem_linked_iff]

/-- The first entry of a schedule has the least time. -/
theorem WellFormed.agenda_nextExpiry?
    (wellFormed : queue.WellFormed) :
    queue.agenda.nextExpiry? = queue.nextExpiry? := by
  have perm := wellFormed.entries_perm
  cases isSchedule : queue.schedule.entries with
  | nil =>
      rw [isSchedule, List.nil_perm] at perm
      simp [Agenda.nextExpiry?, nextExpiry?, SortedMap.keys, isSchedule, perm]
  | cons entry rest =>
      have isNext : queue.nextExpiry? = some entry.1.expires := by
        simp [nextExpiry?, SortedMap.keys, isSchedule]
      rw [isNext]
      refine List.min?_eq_some_iff.mpr ⟨?_, ?_⟩
      · have listed : entry ∈ queue.schedule.entries := by
          simp [isSchedule]
        exact List.mem_map_of_mem (perm.mem_iff.mp listed)
      · intro expires member
        obtain ⟨other, isOther, rfl⟩ := List.mem_map.mp member
        obtain ⟨next, found, isLeast⟩ :=
          wellFormed.exists_nextExpiry?_le (perm.mem_iff.mpr isOther)
        cases isNext.symm.trans found
        exact isLeast

/-- A queue and its agenda agree on how long it is until a timer is due. -/
theorem WellFormed.agenda_remaining
    (wellFormed : queue.WellFormed)
    (now : Nat) :
    queue.agenda.remaining now = queue.remaining now := by
  rw [Agenda.remaining, wellFormed.agenda_nextExpiry?, remaining]
  cases queue.nextExpiry? <;> rfl

/-- The front of a schedule is what is due, sorted by turns. -/
theorem WellFormed.agenda_due
    (wellFormed : queue.WellFormed)
    (now : Nat) :
    queue.agenda.due now =
      queue.schedule.entries.takeWhile fun entry => entry.1.expires ≤ now := by
  rw [(wellFormed.schedule_takeWhile now).1]
  have perm : (queue.agenda.due now).Perm
      (queue.schedule.entries.filter fun entry => entry.1.expires ≤ now) :=
    (List.mergeSort_perm _ _).trans (wellFormed.entries_perm.symm.filter _)
  have growing :
      (queue.schedule.entries.filter fun entry => entry.1.expires ≤ now).Pairwise
        fun one other => ¬ other.1 < one.1 := by
    refine (wellFormed.growing.sublist List.filter_sublist).imp fun {one other} before => ?_
    rw [Turn.lt_iff] at before ⊢
    omega
  refine perm.eq_of_pairwise ?_ (Agenda.pairwise_due _ now) growing
  rintro ⟨turn, handle⟩ ⟨otherTurn, otherHandle⟩ isDue isOtherDue notBefore notBehind
  have sameTurn : turn = otherTurn :=
    Std.Trichotomous.trichotomous (r := (· < ·)) _ _ notBehind notBefore
  have listed := (List.mem_filter.mp (perm.mem_iff.mp isDue)).1
  have otherListed := (List.mem_filter.mp isOtherDue).1
  rw [wellFormed.growing.mem_entries_iff] at listed otherListed
  rw [sameTurn, otherListed] at listed
  rw [sameTurn, Option.some.inj listed]

/-! ## Calls -/

/-- A handler that only records what it is handed records all that was due. -/
theorem foldl_record
    (timers recorded : List (TimerHandle × α))
    (queue : TimerQueue α) :
    (timers.foldl (fun state entry => (state.1 ++ [(entry.1, entry.2)], state.2))
        (recorded, queue)) =
      (recorded ++ timers, queue) := by
  induction timers generalizing recorded with
  | nil =>
      simp
  | cons entry rest inductionHypothesis =>
      simp [inductionHypothesis]

/-- A sweep with a handler that only records hands over what is due. -/
theorem perform_expire
    (queue : TimerQueue α)
    (now : Nat) :
    queue.perform (.expire now) =
      ((queue.takeDue now).2,
        .due (queue.takeDue now).1 ((queue.takeDue now).2.remaining now)) := by
  simp only [perform, expire, foldl_record, List.nil_append]

/-- Calls keep queues well-formed. -/
theorem WellFormed.perform
    (wellFormed : queue.WellFormed)
    (call : TimerCall α) :
    (queue.perform call).1.WellFormed := by
  cases call with
  | alloc now data =>
      exact wellFormed.alloc now data
  | add now expires data =>
      exact (wellFormed.alloc now data).change queue.nextHandle expires
  | insert handle expires =>
      exact wellFormed.insert handle expires
  | append handle expires =>
      exact wellFormed.insert handle expires
  | change handle expires =>
      exact wellFormed.change handle expires
  | unlink handle =>
      exact wellFormed.unlink handle
  | cancel handle =>
      exact wellFormed.cancel handle
  | isLinked handle | size | isEmpty | nextExpiry | remaining now =>
      exact wellFormed
  | expire now =>
      rw [perform_expire]
      exact wellFormed.takeDue now

/-- Every call does to the agenda of a queue what it does to the queue, with the same answer. -/
theorem WellFormed.agenda_perform
    (wellFormed : queue.WellFormed)
    (call : TimerCall α) :
    queue.agenda.perform call =
      ((queue.perform call).1.agenda, (queue.perform call).2) := by
  cases call with
  | alloc now data =>
      simp [Agenda.perform, TimerQueue.perform, wellFormed.agenda_alloc now]
  | add now expires data =>
      simp [Agenda.perform, TimerQueue.perform, wellFormed.agenda_add now]
  | insert handle expires =>
      simp [Agenda.perform, TimerQueue.perform, agenda_insert]
  | append handle expires =>
      simp [Agenda.perform, TimerQueue.perform, TimerQueue.append, agenda_insert]
  | change handle expires =>
      simp [Agenda.perform, TimerQueue.perform, agenda_change]
  | unlink handle =>
      simp [Agenda.perform, TimerQueue.perform, agenda_unlink]
  | cancel handle =>
      simp [Agenda.perform, TimerQueue.perform, agenda_cancel]
  | isLinked handle =>
      simp [Agenda.perform, TimerQueue.perform, agenda_isLinked]
  | size =>
      simp [Agenda.perform, TimerQueue.perform, size, wellFormed.entries_perm.length_eq]
  | isEmpty =>
      simp [Agenda.perform, TimerQueue.perform, isEmpty, wellFormed.entries_perm.isEmpty_eq]
  | nextExpiry =>
      simp [Agenda.perform, TimerQueue.perform, wellFormed.agenda_nextExpiry?]
  | remaining now =>
      simp [Agenda.perform, TimerQueue.perform, wellFormed.agenda_remaining]
  | expire now =>
      have handedOver : (queue.agenda.expire now).2 = (queue.takeDue now).1 := by
        simp only [Agenda.expire, wellFormed.agenda_due, TimerQueue.takeDue, due, dueHandles,
          List.filterMap_map, find?_agenda, Option.map_map]
        rfl
      rw [perform_expire]
      simp only [Agenda.perform, wellFormed.agenda_takeDue, handedOver,
        (wellFormed.takeDue now).agenda_remaining]

/-- A run of calls does to the agenda of a queue what it does to the queue. -/
theorem WellFormed.agenda_run
    (wellFormed : queue.WellFormed)
    (calls : List (TimerCall α)) :
    let outcome := TimerCall.run TimerQueue.perform queue calls
    outcome.1.WellFormed ∧
      TimerCall.run Agenda.perform queue.agenda calls = (outcome.1.agenda, outcome.2) := by
  induction calls generalizing queue with
  | nil =>
      exact ⟨wellFormed, rfl⟩
  | cons call rest inductionHypothesis =>
      obtain ⟨lastWellFormed, sameRun⟩ := inductionHypothesis (wellFormed.perform call)
      refine ⟨lastWellFormed, ?_⟩
      simp only [TimerCall.run, wellFormed.agenda_perform, sameRun]

end TimerQueue

/-! ## Timers that were given up -/

namespace Agenda

variable {α : Type} {agenda : Agenda α} {handle : TimerHandle}

/-- A handle was given out and its timer given up. -/
structure GaveUp (agenda : Agenda α) (handle : TimerHandle) : Prop where
  find? : agenda.find? handle = none
  lt_handles : handle < agenda.handles

namespace GaveUp

/-- What is found in an agenda has not been given up. -/
theorem ne_of_found
    (gaveUp : agenda.GaveUp handle)
    {other : TimerHandle}
    {entry : AgendaEntry α}
    (found : agenda.find? other = some entry) :
    other ≠ handle := by
  rintro rfl
  rw [gaveUp.find?] at found
  cases found

/-- A timer that was given up stays so unless an entry is made under its handle. -/
theorem update
    (gaveUp : agenda.GaveUp handle)
    {other : TimerHandle}
    {found? : Option (AgendaEntry α)}
    (keeps : other = handle → found? = none) :
    (agenda.update other found?).GaveUp handle := by
  refine ⟨?_, gaveUp.lt_handles⟩
  simp only [Agenda.update, Function.update_apply]
  split
  · next same =>
      exact keeps same.symm
  · exact gaveUp.find?

theorem link
    (gaveUp : agenda.GaveUp handle)
    {other : TimerHandle}
    (isOther : other ≠ handle)
    (data : α)
    (expires : Nat) :
    (agenda.link other data expires).GaveUp handle :=
  ⟨(gaveUp.update fun same => (isOther same).elim).find?, gaveUp.lt_handles⟩

/-- No handle that was given up is given out again. -/
theorem alloc
    (gaveUp : agenda.GaveUp handle)
    (data : α) :
    (agenda.alloc data).1.GaveUp handle := by
  have isOther : agenda.handles ≠ handle := Nat.ne_of_gt gaveUp.lt_handles
  exact ⟨(gaveUp.update fun same => (isOther same).elim).find?,
    Nat.lt_succ_of_lt gaveUp.lt_handles⟩

/-- Linking a timer brings none back that was given up. -/
theorem change
    (gaveUp : agenda.GaveUp handle)
    (other : TimerHandle)
    (expires : Nat) :
    (agenda.change other expires).1.GaveUp handle := by
  unfold Agenda.change
  split
  · next entry found =>
      exact gaveUp.link (gaveUp.ne_of_found found) entry.data expires
  · exact gaveUp

theorem insert
    (gaveUp : agenda.GaveUp handle)
    (other : TimerHandle)
    (expires : Nat) :
    (agenda.insert other expires).1.GaveUp handle := by
  unfold Agenda.insert
  split
  · next data found =>
      exact gaveUp.link (gaveUp.ne_of_found found) data expires
  · exact gaveUp

theorem unlink
    (gaveUp : agenda.GaveUp handle)
    (other : TimerHandle) :
    (agenda.unlink other).1.GaveUp handle := by
  unfold Agenda.unlink
  split
  · next data turn found =>
      exact gaveUp.update fun same => (gaveUp.ne_of_found found same).elim
  · exact gaveUp

/-- No call brings back a timer that was given up. -/
theorem perform
    (gaveUp : agenda.GaveUp handle)
    (call : TimerCall α) :
    (agenda.perform call).1.GaveUp handle := by
  cases call with
  | alloc now data =>
      exact gaveUp.alloc data
  | add now expires data =>
      exact (gaveUp.alloc data).link (Nat.ne_of_gt gaveUp.lt_handles) data expires
  | insert other expires | append other expires =>
      exact gaveUp.insert other expires
  | change other expires =>
      exact gaveUp.change other expires
  | unlink other =>
      exact gaveUp.unlink other
  | cancel other =>
      exact gaveUp.update fun _ => rfl
  | isLinked other | size | isEmpty | nextExpiry | remaining now =>
      exact gaveUp
  | expire now =>
      refine ⟨?_, gaveUp.lt_handles⟩
      simp only [Agenda.perform, Agenda.expire, gaveUp.find?, Option.map_none]

/-- What was given up stays so whatever is called. -/
theorem run
    (gaveUp : agenda.GaveUp handle)
    (calls : List (TimerCall α)) :
    (TimerCall.run Agenda.perform agenda calls).1.GaveUp handle := by
  induction calls generalizing agenda with
  | nil =>
      exact gaveUp
  | cons call rest inductionHypothesis =>
      exact inductionHypothesis (gaveUp.perform call)

/-- A call about a timer that was given up is answered as for a handle never given out. -/
theorem answer_eq_unknown
    (gaveUp : agenda.GaveUp handle)
    {call : TimerCall α}
    (isAbout : call.handle? = some handle) :
    (agenda.perform call).2 = call.unknown := by
  have missing := gaveUp.find?
  cases call with
  | insert other expires | append other expires =>
      cases isAbout
      simp [Agenda.perform, Agenda.insert, missing, TimerCall.unknown]
  | change other expires =>
      cases isAbout
      simp [Agenda.perform, Agenda.change, missing, TimerCall.unknown]
  | unlink other =>
      cases isAbout
      simp [Agenda.perform, Agenda.unlink, missing, TimerCall.unknown]
  | cancel other =>
      cases isAbout
      simp [Agenda.perform, Agenda.cancel, missing, TimerCall.unknown]
  | isLinked other =>
      cases isAbout
      simp [Agenda.perform, Agenda.isLinked, missing, TimerCall.unknown]
  | alloc | add | size | isEmpty | nextExpiry | remaining | expire =>
      cases isAbout

/-- The handle is neither given out again nor handed over. -/
theorem notMem_handles
    (gaveUp : agenda.GaveUp handle)
    (call : TimerCall α) :
    handle ∉ (agenda.perform call).2.handles := by
  cases call with
  | alloc now data | add now expires data =>
      exact fun isNew => Nat.ne_of_lt gaveUp.lt_handles (List.mem_singleton.mp isNew)
  | expire now =>
      intro member
      obtain ⟨⟨_, data⟩, handedOver, rfl⟩ := List.mem_map.mp member
      obtain ⟨⟨turn, listed⟩, _, isEntry⟩ := List.mem_filterMap.mp handedOver
      obtain ⟨entry, found, same⟩ := Option.map_eq_some_iff.mp isEntry
      exact gaveUp.ne_of_found found (congrArg Prod.fst same)
  | insert | append | change | unlink | cancel | isLinked | size | isEmpty | nextExpiry
    | remaining =>
      exact List.not_mem_nil

end GaveUp

end Agenda

namespace TimerQueue

variable {α : Type}

/-- A timer whose data was handed back has been given up. -/
theorem WellFormed.gaveUp_of_cancel
    {queue : TimerQueue α}
    (wellFormed : queue.WellFormed)
    {handle : TimerHandle}
    {data : α}
    (isData : (queue.cancel handle).2 = some data) :
    (queue.cancel handle).1.agenda.GaveUp handle := by
  have cancelled := agenda_cancel queue handle
  have handedBack : (queue.agenda.cancel handle).2 = some data :=
    (congrArg Prod.snd cancelled).trans isData
  obtain ⟨_, isEntry, _⟩ := Option.map_eq_some_iff.mp handedBack
  obtain ⟨timer, found, _⟩ := Option.map_eq_some_iff.mp isEntry
  have isUpdate : (queue.cancel handle).1.agenda = queue.agenda.update handle none :=
    (congrArg Prod.fst cancelled).symm
  rw [isUpdate]
  refine ⟨by simp [Agenda.update], ?_⟩
  exact wellFormed.lt_nextHandle _ (AssociationList.mem_of_lookup found)

/--
Whatever is asked of a new queue is answered as an agenda answers it. A timer that
was given up is unknown to every later call, and its handle never appears again.
-/
theorem answers_eq_agenda
    (calls : List (TimerCall α)) :
    let outcome := TimerCall.run TimerQueue.perform .empty calls
    outcome.2 = (TimerCall.run Agenda.perform .empty calls).2 ∧
      ∀ handle data, (outcome.1.perform (.cancel handle)).2 = .data (some data) →
        ∀ later call,
          let given := (outcome.1.perform (.cancel handle)).1
          let answer := ((TimerCall.run TimerQueue.perform given later).1.perform call).2
          (call.handle? = some handle → answer = call.unknown) ∧ handle ∉ answer.handles := by
  intro outcome
  obtain ⟨wellFormed, sameRun⟩ := (WellFormed.empty (α := α)).agenda_run calls
  rw [agenda_empty] at sameRun
  refine ⟨(congrArg Prod.snd sameRun).symm, ?_⟩
  intro handle data isData later call given answer
  have gaveUp : given.agenda.GaveUp handle :=
    wellFormed.gaveUp_of_cancel (TimerAnswer.data.inj isData)
  have givenWellFormed : given.WellFormed := wellFormed.perform _
  obtain ⟨lastWellFormed, sameLater⟩ := givenWellFormed.agenda_run later
  let last := (TimerCall.run TimerQueue.perform given later).1
  have stillGaveUp : last.agenda.GaveUp handle := by
    simpa only [sameLater] using gaveUp.run later
  have sameAnswer : (last.agenda.perform call).2 = answer := by
    rw [lastWellFormed.agenda_perform]
  rw [← sameAnswer]
  exact ⟨stillGaveUp.answer_eq_unknown, stillGaveUp.notMem_handles call⟩

/-- A timer that was linked again is handed over behind an older one of the same time. -/
theorem answers_of_relinked_timer :
    let calls : List (TimerCall String) :=
      [.add 0 10 "lamp", .add 0 10 "ringer", .change 0 10, .alloc 3 "display", .append 2 25,
        .unlink 1, .insert 1 10, .expire 20]
    let outcome := TimerCall.run TimerQueue.perform .empty calls
    let given := (outcome.1.perform (.cancel 0)).1
    outcome.2.getLast? = some (.due [(0, "lamp"), (1, "ringer")] 5) ∧
      outcome.2 = (TimerCall.run Agenda.perform .empty calls).2 ∧
      (outcome.1.perform (.cancel 0)).2 = .data (some "lamp") ∧
      ((TimerCall.run TimerQueue.perform given [.alloc 4 "lamp"]).1.perform (.change 0 30)).2 =
        .truth false := by
  intro calls outcome given
  have isData : (outcome.1.perform (.cancel 0)).2 = .data (some "lamp") := rfl
  obtain ⟨sameAnswers, staysUnknown⟩ := answers_eq_agenda calls
  exact ⟨rfl, sameAnswers, isData,
    (staysUnknown 0 "lamp" isData [.alloc 4 "lamp"] (.change 0 30)).1 rfl⟩

end TimerQueue

end StationLink
