import Mathlib.Data.Finmap
import StationLink.Proofs.BucketMap

namespace StationLink

/-!
# A bucket map is a finite map

Whatever is asked of a new bucket map is answered as a finite map from byte
strings to values answers it (`BucketMap.answers_eq_finmap`). A finite map has no
buckets, so that their number makes no difference. The entries of the bucket map
are those of the finite map, each listed once, and a visitor sees them in the
order of the list, up to the first after which it does not want to go on
(`Visit`).
-/

/-- Something that is asked of a map over byte strings. -/
inductive MapCall (α : Type) where
  | put (key : MapKey) (value? : Option α)
  | get (key : MapKey)
  | update (key : MapKey) (change : α → α)
  | contains (key : MapKey)
  | size
  | isEmpty

/-- What a map answers. -/
inductive MapAnswer (α : Type) where
  | value (value? : Option α)
  | truth (truth : Bool)
  | number (number : Nat)
  deriving Repr, DecidableEq

/-- Make calls one after another and collect the answers. -/
def MapCall.run
    {α Map : Type}
    (perform : Map → MapCall α → Map × MapAnswer α)
    (map : Map) :
    List (MapCall α) → Map × List (MapAnswer α)
  | [] => (map, [])
  | call :: rest =>
      let (next, answer) := perform map call
      let (last, answers) := MapCall.run perform next rest
      (last, answer :: answers)

/-- A finite map from byte strings to values, with nothing said about how it is kept. -/
abbrev IdealMap (α : Type) : Type :=
  Finmap fun _ : MapKey => α

/-- What a finite map becomes by a call, and its answer. -/
def IdealMap.perform
    {α : Type}
    (ideal : IdealMap α) :
    MapCall α → IdealMap α × MapAnswer α
  | .put key (some value) => (ideal.insert key value, .value (ideal.lookup key))
  | .put key none => (ideal.erase key, .value (ideal.lookup key))
  | .get key => (ideal, .value (ideal.lookup key))
  | .update key change =>
      match ideal.lookup key with
      | some value => (ideal.insert key (change value), .value (some value))
      | none => (ideal, .value none)
  | .contains key => (ideal, .truth (decide (key ∈ ideal)))
  | .size => (ideal, .number ideal.keys.card)
  | .isEmpty => (ideal, .truth (decide (ideal.keys = ∅)))

/-- What a bucket map becomes by a call, and its answer. -/
def BucketMap.perform
    {α : Type}
    (map : BucketMap α) :
    MapCall α → BucketMap α × MapAnswer α
  | .put key value? => ((map.put key value?).1, .value (map.put key value?).2)
  | .get key => (map, .value (map.get? key))
  | .update key change => ((map.update key change).1, .value (map.update key change).2)
  | .contains key => (map, .truth (map.contains key))
  | .size => (map, .number map.size)
  | .isEmpty => (map, .truth map.isEmpty)

namespace BucketMap

variable {α : Type}

/-! ## Calls -/

/-- A well-formed map under whose keys the values of a finite map are found. -/
structure Represents (map : BucketMap α) (ideal : IdealMap α) : Prop extends WellFormed map where
  get?_eq : ∀ key, map.get? key = ideal.lookup key

namespace Represents

variable {map : BucketMap α} {ideal : IdealMap α}

theorem contains_eq
    (represents : map.Represents ideal)
    (key : MapKey) :
    map.contains key = decide (key ∈ ideal) := by
  rw [contains, represents.get?_eq, Bool.eq_iff_iff, decide_eq_true_iff, Finmap.lookup_isSome]

/-- The keys that are listed are those of the ideal map. -/
theorem mem_keys_iff
    (represents : map.Represents ideal)
    (key : MapKey) :
    key ∈ map.toList.map (·.1) ↔ key ∈ ideal.keys := by
  rw [Finmap.mem_keys, Finmap.mem_iff, List.mem_map]
  constructor
  · rintro ⟨⟨_, value⟩, isListed, rfl⟩
    have found := (represents.mem_toList_iff _ value).mp isListed
    exact ⟨value, (represents.get?_eq _).symm.trans found⟩
  · rintro ⟨value, found⟩
    have isListed :=
      (represents.mem_toList_iff key value).mpr ((represents.get?_eq key).trans found)
    exact ⟨(key, value), isListed, rfl⟩

/-- The counter says how many keys there are, since none is listed twice. -/
theorem size_eq
    (represents : map.Represents ideal) :
    map.size = ideal.keys.card := by
  have sameKeys : (map.toList.map (·.1)).toFinset = ideal.keys := by
    ext key
    rw [List.mem_toFinset, represents.mem_keys_iff]
  calc
    map.size
    _ = (map.toList.map (·.1)).length := by rw [size, represents.counted, List.length_map]
    _ = ideal.keys.card := by rw [← sameKeys, List.toFinset_card_of_nodup represents.nodup_keys]

theorem isEmpty_eq
    (represents : map.Represents ideal) :
    map.isEmpty = decide (ideal.keys = ∅) := by
  rw [isEmpty, Bool.eq_iff_iff, beq_iff_eq, decide_eq_true_iff, ← Finset.card_eq_zero,
    ← represents.size_eq, size]

/-- Inserting a value does the same to a map and to what it represents. -/
theorem insert
    (represents : map.Represents ideal)
    (key : MapKey)
    (value : α) :
    (map.insert key value).Represents (ideal.insert key value) := by
  refine ⟨represents.toWellFormed.insert key value, ?_⟩
  intro other
  rw [get?_insert]
  split
  · next isKey =>
      rw [isKey, Finmap.lookup_insert]
  · next isOther =>
      rw [Finmap.lookup_insert_of_ne _ isOther, represents.get?_eq]

/-- Erasing a key does the same to a map and to what it represents. -/
theorem erase
    (represents : map.Represents ideal)
    (key : MapKey) :
    (map.erase key).Represents (ideal.erase key) := by
  refine ⟨represents.toWellFormed.erase key, ?_⟩
  intro other
  rw [get?_erase represents.toPlaced]
  split
  · next isKey =>
      rw [isKey, Finmap.lookup_erase]
  · next isOther =>
      rw [Finmap.lookup_erase_ne isOther, represents.get?_eq]

/-- Every call is answered alike, and what it leaves is represented again. -/
theorem perform
    (represents : map.Represents ideal)
    (call : MapCall α) :
    (map.perform call).1.Represents (ideal.perform call).1 ∧
      (map.perform call).2 = (ideal.perform call).2 := by
  cases call with
  | put key value? =>
      have sameAnswer := congrArg MapAnswer.value (represents.get?_eq key)
      cases value? with
      | some value =>
          exact ⟨represents.insert key value, sameAnswer⟩
      | none =>
          exact ⟨represents.erase key, sameAnswer⟩
  | get key =>
      exact ⟨represents, congrArg MapAnswer.value (represents.get?_eq key)⟩
  | update key change =>
      simp only [BucketMap.perform, IdealMap.perform, BucketMap.update, represents.get?_eq key]
      cases ideal.lookup key with
      | some value =>
          exact ⟨represents.insert key (change value), rfl⟩
      | none =>
          exact ⟨represents, rfl⟩
  | contains key =>
      exact ⟨represents, congrArg MapAnswer.truth (represents.contains_eq key)⟩
  | size =>
      exact ⟨represents, congrArg MapAnswer.number represents.size_eq⟩
  | isEmpty =>
      exact ⟨represents, congrArg MapAnswer.truth represents.isEmpty_eq⟩

/-- Calls do the same to a map and to what it represents, and are answered alike. -/
theorem run
    (represents : map.Represents ideal)
    (calls : List (MapCall α)) :
    let outcome := MapCall.run BucketMap.perform map calls
    let idealOutcome := MapCall.run IdealMap.perform ideal calls
    outcome.1.Represents idealOutcome.1 ∧ outcome.2 = idealOutcome.2 := by
  induction calls generalizing map ideal with
  | nil =>
      exact ⟨represents, rfl⟩
  | cons call rest inductionHypothesis =>
      obtain ⟨nextRepresents, sameAnswer⟩ := represents.perform call
      obtain ⟨lastRepresents, sameAnswers⟩ := inductionHypothesis nextRepresents
      exact ⟨lastRepresents, by simp only [MapCall.run, sameAnswer, sameAnswers]⟩

end Represents

/-- A map without entries is the empty map. -/
theorem Vacant.represents
    {map : BucketMap α}
    (isVacant : map.Vacant) :
    map.Represents ∅ := by
  refine ⟨isVacant.wellFormed, ?_⟩
  intro key
  rw [isVacant.get?, Finmap.lookup_empty]

/-! ## The number of buckets -/

@[simp] theorem capacity_insert
    (map : BucketMap α)
    (key : MapKey)
    (value : α) :
    (map.insert key value).capacity = map.capacity := by
  simp [capacity, insert, modifyBucket]

@[simp] theorem capacity_erase
    (map : BucketMap α)
    (key : MapKey) :
    (map.erase key).capacity = map.capacity := by
  simp [capacity, erase, modifyBucket]

theorem capacity_perform
    (map : BucketMap α)
    (call : MapCall α) :
    (map.perform call).1.capacity = map.capacity := by
  cases call with
  | put key value? =>
      cases value? with
      | some value =>
          exact capacity_insert map key value
      | none =>
          exact capacity_erase map key
  | update key change =>
      simp only [perform, update]
      split
      · exact capacity_insert map key _
      · rfl
  | get key | contains key | size | isEmpty =>
      rfl

/-- No call changes the capacity. -/
theorem capacity_run
    (map : BucketMap α)
    (calls : List (MapCall α)) :
    (MapCall.run perform map calls).1.capacity = map.capacity := by
  induction calls generalizing map with
  | nil =>
      rfl
  | cons call rest inductionHypothesis =>
      exact (inductionHypothesis (map.perform call).1).trans (capacity_perform map call)

/-! ## Visits -/

section Visitor

variable {σ : Type} (visitor : σ → MapKey × α → σ × Bool)

/-- What a visitor has become when it has been shown some entries. -/
def shown
    (entries : List (MapKey × α))
    (state : σ) :
    σ :=
  entries.foldl (fun state entry => (visitor state entry).1) state

/-- A visitor wants to go on after each of some entries. -/
def GoesOn : List (MapKey × α) → σ → Prop
  | [], _ => True
  | entry :: rest, state =>
      (visitor state entry).2 = true ∧ GoesOn rest (visitor state entry).1

/-- The ways in which a visit of a list of entries can go. -/
inductive Visit
    (entries : List (MapKey × α))
    (state : σ) :
    σ × VisitStatus → Prop where
  | completed
      (goesOn : GoesOn visitor entries state) :
      Visit entries state (shown visitor entries state, .completed)
  | stopped
      (before : List (MapKey × α))
      (last : MapKey × α)
      (unseen : List (MapKey × α))
      (isSplit : entries = before ++ last :: unseen)
      (goesOn : GoesOn visitor before state)
      (stops : (visitor (shown visitor before state) last).2 = false) :
      Visit entries state (shown visitor (before ++ [last]) state, .stopped)

/-- A visitor is shown entries until it has seen enough or there are none left. -/
theorem visit_visitEntries
    (entries : List (MapKey × α))
    (state : σ) :
    Visit visitor entries state (visitEntries visitor entries state) := by
  induction entries generalizing state with
  | nil =>
      exact .completed trivial
  | cons entry rest inductionHypothesis =>
      rcases response : visitor state entry with ⟨next, _ | _⟩
      · have seen : shown visitor ([] ++ [entry]) state = next := congrArg Prod.fst response
        have stops := congrArg Prod.snd response
        simp only [visitEntries, response]
        rw [← seen]
        exact .stopped [] entry rest rfl trivial stops
      · have isNext : (visitor state entry).1 = next := congrArg Prod.fst response
        have wantsMore := congrArg Prod.snd response
        have later := inductionHypothesis next
        simp only [visitEntries, response]
        generalize visitEntries visitor rest next = outcome at later ⊢
        cases later with
        | completed goesOn =>
            subst next
            exact .completed ⟨wantsMore, goesOn⟩
        | stopped before last unseen isSplit goesOn stops =>
            subst next
            exact .stopped (entry :: before) last unseen (congrArg (entry :: ·) isSplit)
              ⟨wantsMore, goesOn⟩ stops

end Visitor

/--
Whatever is asked of a new map is answered as a finite map answers it, for every
number of buckets, which stays as chosen. In the end every key that is in use is
listed once, with its value, and every visitor is shown the entries of that list
from the first to the one that it stops at.
-/
theorem answers_eq_finmap
    {capacity : Nat}
    (positive : 0 < capacity)
    (calls : List (MapCall α)) :
    ∃ new : BucketMap α, ofCapacity? capacity = some new ∧
      let outcome := MapCall.run perform new calls
      let ideal := MapCall.run IdealMap.perform ∅ calls
      outcome.2 = ideal.2 ∧
        outcome.1.capacity = capacity ∧
        (outcome.1.toList.map (·.1)).Nodup ∧
        (∀ key value, (key, value) ∈ outcome.1.toList ↔ ideal.1.lookup key = some value) ∧
        ∀ {σ : Type} (visitor : σ → MapKey × α → σ × Bool) (state : σ),
          Visit visitor outcome.1.toList state (outcome.1.visit visitor state) := by
  obtain ⟨new, isNew, isCapacity⟩ :
      ∃ new : BucketMap α, ofCapacity? capacity = some new ∧ new.capacity = capacity :=
    ⟨_, dif_pos positive, Array.size_replicate⟩
  have isVacant : new.Vacant := by
    simpa only [isNew, Option.getD_some] using vacant_of_capacity (α := α) capacity
  obtain ⟨represents, sameAnswers⟩ := isVacant.represents.run calls
  refine ⟨new, isNew, sameAnswers, (capacity_run new calls).trans isCapacity,
    represents.nodup_keys, ?_, ?_⟩
  · intro key value
    rw [represents.mem_toList_iff, represents.get?_eq]
  · intro σ visitor state
    exact visit_visitEntries visitor _ state

/--
Of three keys that share a bucket the first is removed, so that the last one is
shown before the second, where the visitor stops.
-/
theorem answers_of_colliding_keys :
    let calls : List (MapCall Nat) :=
      [.put [1] (some 10), .put [2] (some 20), .put [3] (some 30), .put [5] (some 40),
        .put [5] (some 50), .put [1] none, .update [3] (· + 1), .update [1] (· + 1),
        .contains [1], .get [3], .size, .isEmpty]
    let visitor (seen : List MapKey) (entry : MapKey × Nat) : List MapKey × Bool :=
      (seen ++ [entry.1], decide (entry.2 ≠ 31))
    0 < 2 ∧ ∃ new : BucketMap Nat, ofCapacity? 2 = some new ∧
      let outcome := MapCall.run perform new calls
      outcome.2 = (MapCall.run IdealMap.perform ∅ calls).2 ∧
        outcome.2 = [.value none, .value none, .value none, .value none, .value (some 40),
          .value (some 10), .value (some 30), .value none, .truth false, .value (some 31),
          .number 3, .truth false] ∧
        outcome.1.toList = [([5], 50), ([3], 31), ([2], 20)] ∧
        outcome.1.visit visitor [] = ([[5], [3]], .stopped) := by
  intro calls visitor
  obtain ⟨new, isNew, sameAnswers, _⟩ := answers_eq_finmap Nat.two_pos calls
  obtain rfl := Option.some.inj isNew
  exact ⟨Nat.two_pos, _, isNew, sameAnswers, by decide, by decide, by decide⟩

end BucketMap

end StationLink
