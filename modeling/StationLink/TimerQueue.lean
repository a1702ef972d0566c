import StationLink.SortedMap

namespace StationLink

/-!
# Timer queues

A queue holds timers, each with data of its own. A timer is known by a handle
that is never given out again. It is either linked, waiting for its turn, or
detached. Timers that are due are handed over in the order of their times, and
of equal times in the order in which they were linked.

The timers are kept by their handles, and beside them a schedule lists the
handles of the linked timers by their turns. Every operation changes both.

`TimerQueue.takeDue` detaches the timers that are due and lists them first;
what a handler then does to the queue, also to other timers of that list, does
not change which timers are handed over.

Handles and linkings are counted without bound. A machine counts them in 64 bits,
which no queue in use comes near to exhausting.
-/

/-- What a timer is known by: the number of its allocation, which has no bound. -/
abbrev TimerHandle : Type := Nat

/-- When a linked timer has its turn. Every linking gives a turn of its own. -/
structure Turn where
  /-- When the timer is due, in milliseconds. -/
  expires : Nat
  /-- The number of the linking; numbers grow with every linking. -/
  linking : Nat
  deriving Repr, DecidableEq

/-- Turns are ordered by time, and those of equal times by linking. -/
instance : LT Turn where
  lt one other :=
    one.expires < other.expires ∨
      (one.expires = other.expires ∧ one.linking < other.linking)

instance : DecidableLT Turn := fun one other =>
  inferInstanceAs (Decidable
    (one.expires < other.expires ∨
      (one.expires = other.expires ∧ one.linking < other.linking)))

/-- One timer. -/
structure Timer (α : Type) where
  /-- When the timer is due, in milliseconds. -/
  expires : Nat
  /-- The number of its last linking, which has no bound. -/
  linking : Nat
  /-- Whether it waits for its time. -/
  linked : Bool
  data : α
  deriving Repr, DecidableEq

namespace Timer

variable {α : Type}

/-- The turn of the last linking of a timer. -/
def turn (timer : Timer α) : Turn where
  expires := timer.expires
  linking := timer.linking

/-- The timer linked for a time, by a linking of the given number. -/
def relinked (timer : Timer α) (expires linking : Nat) : Timer α :=
  { timer with expires, linking, linked := true }

/-- The timer when it does not wait for its time. -/
def detached (timer : Timer α) : Timer α :=
  { timer with linked := false }

/-- Whether a timer is linked and its time has come. -/
def isDue (timer : Timer α) (now : Nat) : Bool :=
  timer.linked && timer.expires ≤ now

end Timer

/-- A set of timers. -/
structure TimerQueue (α : Type) where
  /-- The timers in the order in which their handles were given out. -/
  timers : List (TimerHandle × Timer α) := []
  /-- The handles of the linked timers by their turns. -/
  schedule : SortedMap Turn TimerHandle := .empty
  /-- The handle of the next timer; a count without bound where a machine has 64 bits. -/
  nextHandle : TimerHandle := 0
  /-- The number of the next linking; a count without bound where a machine has 64 bits. -/
  nextLinking : Nat := 0
  deriving Repr, DecidableEq

namespace TimerQueue

variable {α : Type}

/-- The queue without timers. -/
def empty : TimerQueue α := {}

/-- The timer of a handle. -/
def get? (queue : TimerQueue α) (handle : TimerHandle) : Option (Timer α) :=
  queue.timers.lookup handle

/-- Change the timer of a handle. -/
def modify
    (queue : TimerQueue α)
    (handle : TimerHandle)
    (change : Timer α → Timer α) :
    TimerQueue α :=
  { queue with
    timers := queue.timers.map fun entry =>
      if entry.1 = handle then (entry.1, change entry.2) else entry }

/-- The handle of a new detached timer that counts as due since now. -/
def alloc (queue : TimerQueue α) (now : Nat) (data : α) : TimerQueue α × TimerHandle :=
  let timer : Timer α := { expires := now, linking := 0, linked := false, data }
  ({ queue with
      timers := queue.timers ++ [(queue.nextHandle, timer)]
      nextHandle := queue.nextHandle + 1 },
    queue.nextHandle)

/-- Link a timer for a time, whether or not it is linked already. -/
def change (queue : TimerQueue α) (handle : TimerHandle) (expires : Nat) : TimerQueue α × Bool :=
  match queue.get? handle with
  | some timer =>
      let linking := queue.nextLinking
      let others :=
        if timer.linked then queue.schedule.erase timer.turn else queue.schedule
      ({ queue.modify handle (·.relinked expires linking) with
          schedule := others.insert { expires, linking } handle
          nextLinking := linking + 1 },
        true)
  | none => (queue, false)

/-- Link a timer for a time, provided that it is detached. -/
def insert (queue : TimerQueue α) (handle : TimerHandle) (expires : Nat) : TimerQueue α × Bool :=
  match queue.get? handle with
  | some timer => if timer.linked then (queue, false) else queue.change handle expires
  | none => (queue, false)

/--
Link a detached timer behind all timers of the same time, as every linking does.
Timers that are linked again and again are linked under this name.
-/
def append (queue : TimerQueue α) (handle : TimerHandle) (expires : Nat) : TimerQueue α × Bool :=
  queue.insert handle expires

/-- The handle of a new timer, linked for a time. -/
def add
    (queue : TimerQueue α)
    (now expires : Nat)
    (data : α) :
    TimerQueue α × TimerHandle :=
  let (queue, handle) := queue.alloc now data
  ((queue.change handle expires).1, handle)

/-- Whether a timer is linked. -/
def isLinked (queue : TimerQueue α) (handle : TimerHandle) : Bool :=
  match queue.get? handle with
  | some timer => timer.linked
  | none => false

/-- Detach a timer; says whether it was linked. -/
def unlink (queue : TimerQueue α) (handle : TimerHandle) : TimerQueue α × Bool :=
  match queue.get? handle with
  | some timer =>
      if timer.linked then
        ({ queue.modify handle Timer.detached with
            schedule := queue.schedule.erase timer.turn },
          true)
      else
        (queue, false)
  | none => (queue, false)

/-- Give up a timer, detached first, and hand back its data. -/
def cancel (queue : TimerQueue α) (handle : TimerHandle) : TimerQueue α × Option α :=
  let (queue, _) := queue.unlink handle
  ({ queue with timers := queue.timers.filter fun entry => entry.1 ≠ handle },
    (queue.get? handle).map (·.data))

/-- Whether the time of a timer has come, linked or not. -/
def isExpired? (queue : TimerQueue α) (handle : TimerHandle) (now : Nat) : Option Bool :=
  (queue.get? handle).map fun timer => timer.expires ≤ now

/-- The number of linked timers. -/
def size (queue : TimerQueue α) : Nat :=
  queue.schedule.entries.length

/-- Whether no timer is linked. -/
def isEmpty (queue : TimerQueue α) : Bool :=
  queue.schedule.entries.isEmpty

/-- The earliest time of a linked timer. -/
def nextExpiry? (queue : TimerQueue α) : Option Nat :=
  queue.schedule.keys.head?.map (·.expires)

/-- How long until a timer is due; zero if one is, or if none is linked. -/
def remaining (queue : TimerQueue α) (now : Nat) : Nat :=
  match queue.nextExpiry? with
  | some expires => expires - now
  | none => 0

/-- The handles of the timers that are due, in the order of their turns. -/
def dueHandles (queue : TimerQueue α) (now : Nat) : List TimerHandle :=
  (queue.schedule.entries.takeWhile fun entry => entry.1.expires ≤ now).map (·.2)

/-- The timers that are due, in the order in which they are handed over. -/
def due (queue : TimerQueue α) (now : Nat) : List (TimerHandle × α) :=
  (queue.dueHandles now).filterMap fun handle =>
    (queue.get? handle).map fun timer => (handle, timer.data)

/-- Detach the timers that are due and list them. -/
def takeDue (queue : TimerQueue α) (now : Nat) : List (TimerHandle × α) × TimerQueue α :=
  let handles := queue.dueHandles now
  (queue.due now,
    { queue with
      timers := queue.timers.map fun entry =>
        if entry.1 ∈ handles then (entry.1, entry.2.detached) else entry
      schedule :=
        { entries :=
            queue.schedule.entries.dropWhile fun entry => entry.1.expires ≤ now } })

/--
Hand every timer that is due to a handler, which may change the queue. Also
says how long until a timer is due in the queue that the handlers leave.
-/
def expire
    {σ : Type}
    (queue : TimerQueue α)
    (now : Nat)
    (handler : TimerHandle → α → σ × TimerQueue α → σ × TimerQueue α)
    (state : σ) :
    (σ × TimerQueue α) × Nat :=
  let (due, queue) := queue.takeDue now
  let last := due.foldl (fun state entry => handler entry.1 entry.2 state) (state, queue)
  (last, last.2.remaining now)

end TimerQueue

end StationLink
