import Mathlib.Data.List.Duplicate
import Mathlib.Order.Bounds.Defs
import StationLink.Gateway.Settings

namespace StationLink

/-!
# Settings that are refused

Settings are refused if the number of an interface is repeated or an interval is
zero. Repetition is looked for in the sorted numbers, where equal ones are next to
each other, so that the first twin is the smallest number that occurs more than
once, however often and in whatever order the numbers were given
(`GatewaySettings.repeated?_eq_some_iff`). A repeated number is named before any
interval, and the intervals are looked at in a fixed order
(`GatewaySettings.validate_exact`).
-/

namespace GatewaySettings

variable {ids : List InterfaceId} {id next : InterfaceId} {rest : List InterfaceId}

/-! ## Repeated numbers -/

/-- A number that differs from the next one in growing order does not occur again. -/
theorem notMem_of_ne
    (growing : (id :: next :: rest).Pairwise (· ≤ ·))
    (different : id ≠ next) :
    id ∉ next :: rest := by
  obtain ⟨isFirst, restGrowing⟩ := List.pairwise_cons.mp growing
  have before : id ≤ next := isFirst next List.mem_cons_self
  intro again
  rcases List.mem_cons.mp again with isNext | isLater
  · exact different isNext
  · have behind : next ≤ id := List.rel_of_pairwise_cons restGrowing isLater
    exact different (UInt16.le_antisymm before behind)

theorem duplicate_iff_of_notMem
    (once : id ∉ rest)
    (other : InterfaceId) :
    (id :: rest).Duplicate other ↔ rest.Duplicate other := by
  rw [List.duplicate_cons_iff]
  constructor
  · rintro (⟨rfl, again⟩ | isLater)
    · exact (once again).elim
    · exact isLater
  · exact Or.inr

/-- In growing order the first twin is the smallest number that occurs more than once. -/
theorem isLeast_of_firstTwin?
    (growing : ids.Pairwise (· ≤ ·))
    (found : firstTwin? ids = some id) :
    IsLeast {other | ids.Duplicate other} id := by
  induction ids using firstTwin?.induct with
  | case1 first rest =>
      rw [firstTwin?, if_pos rfl] at found
      cases found
      refine ⟨List.Mem.duplicate_cons_self List.mem_cons_self, ?_⟩
      intro other repeated
      rcases List.mem_cons.mp repeated.mem with isFirst | isLater
      · exact UInt16.le_of_eq isFirst.symm
      · exact List.rel_of_pairwise_cons growing isLater
  | case2 first next rest different inductionHypothesis =>
      rw [firstTwin?, if_neg different] at found
      have later := inductionHypothesis (List.pairwise_cons.mp growing).2 found
      have same := duplicate_iff_of_notMem (notMem_of_ne growing different)
      simpa only [same] using later
  | case3 ids notTwo =>
      rw [firstTwin?] at found
      · cases found
      · exact notTwo

/-- In growing order no number occurs more than once if there is no twin. -/
theorem nodup_of_firstTwin?
    (growing : ids.Pairwise (· ≤ ·))
    (nothing : firstTwin? ids = none) :
    ids.Nodup := by
  induction ids using firstTwin?.induct with
  | case1 first rest =>
      rw [firstTwin?, if_pos rfl] at nothing
      cases nothing
  | case2 first next rest different inductionHypothesis =>
      rw [firstTwin?, if_neg different] at nothing
      have later := inductionHypothesis (List.pairwise_cons.mp growing).2 nothing
      exact List.nodup_cons.mpr ⟨notMem_of_ne growing different, later⟩
  | case3 ids notTwo =>
      rcases ids with _ | ⟨first, _ | ⟨next, rest⟩⟩
      · exact List.nodup_nil
      · exact List.nodup_singleton first
      · exact (notTwo first next rest rfl).elim

/-- Sorting brings numbers into growing order and keeps how often each occurs. -/
theorem growing_and_perm_mergeSort
    (ids : List InterfaceId) :
    (ids.mergeSort fun id other => decide (id ≤ other)).Pairwise (· ≤ ·) ∧
      (ids.mergeSort fun id other => decide (id ≤ other)).Perm ids := by
  have transitive : ∀ one other third : InterfaceId,
      decide (one ≤ other) = true → decide (other ≤ third) = true →
        decide (one ≤ third) = true := by
    intro one other third before behind
    exact decide_eq_true (UInt16.le_trans (of_decide_eq_true before) (of_decide_eq_true behind))
  have total : ∀ one other : InterfaceId,
      (decide (one ≤ other) || decide (other ≤ one)) = true := by
    intro one other
    rw [Bool.or_eq_true, decide_eq_true_eq, decide_eq_true_eq]
    exact UInt16.le_total one other
  have sorted := List.pairwise_mergeSort transitive total ids
  exact ⟨sorted.imp of_decide_eq_true, List.mergeSort_perm ids _⟩

theorem duplicate_iff_of_perm
    {others : List InterfaceId}
    (same : ids.Perm others)
    (id : InterfaceId) :
    ids.Duplicate id ↔ others.Duplicate id := by
  rw [List.duplicate_iff_two_le_count, List.duplicate_iff_two_le_count, same.count_eq]

theorem repeated?_eq_none_iff
    (ids : List InterfaceId) :
    repeated? ids = none ↔ ids.Nodup := by
  obtain ⟨growing, isPerm⟩ := growing_and_perm_mergeSort ids
  constructor
  · intro nothing
    exact isPerm.nodup_iff.mp (nodup_of_firstTwin? growing nothing)
  · intro distinct
    cases found : repeated? ids with
    | none =>
        rfl
    | some id =>
        have twice := (isLeast_of_firstTwin? growing found).1
        exact (twice.not_nodup (isPerm.nodup_iff.mpr distinct)).elim

/-- The number that is named is the smallest one that occurs more than once. -/
theorem repeated?_eq_some_iff
    (ids : List InterfaceId)
    (id : InterfaceId) :
    repeated? ids = some id ↔ IsLeast {other | ids.Duplicate other} id := by
  obtain ⟨growing, isPerm⟩ := growing_and_perm_mergeSort ids
  have named : ∀ {id}, repeated? ids = some id → IsLeast {other | ids.Duplicate other} id := by
    intro id found
    have isLeast := isLeast_of_firstTwin? growing found
    simpa only [duplicate_iff_of_perm isPerm] using isLeast
  refine ⟨named, fun isLeast => ?_⟩
  cases found : repeated? ids with
  | none =>
      exact (isLeast.1.not_nodup ((repeated?_eq_none_iff ids).mp found)).elim
  | some other =>
      have otherLeast := named found
      rw [UInt16.le_antisymm (otherLeast.2 isLeast.1) (isLeast.2 otherLeast.1)]

end GatewaySettings

/-! ## Intervals -/

/-- If an interval is zero, the first such is named. -/
theorem LinkSettings.exists_refused_of_zero
    (settings : LinkSettings)
    (someZero : ¬ ∀ interval, 0 < settings.length interval) :
    ∃ front interval back,
      [Interval.retry, .keepalive, .dead] = front ++ interval :: back ∧
        settings.length interval = 0 ∧
        (∀ earlier ∈ front, 0 < settings.length earlier) ∧
        settings.validate = .error (.invalidInterval interval) := by
  cases found : [Interval.retry, .keepalive, .dead].find? (settings.length · == 0) with
  | none =>
      have valid : settings.validate = .ok () := by
        rw [validate, found]
      exact (someZero (settings.validate_eq_ok_iff.mp valid)).elim
  | some interval =>
      obtain ⟨isZero, front, back, isSplit, notZero⟩ :=
        List.find?_eq_some_iff_append.mp found
      refine ⟨front, interval, back, isSplit, beq_iff_eq.mp isZero, ?_, ?_⟩
      · intro earlier member
        have differs := notZero earlier member
        simp only [Bool.not_eq_true', beq_eq_false_iff_ne] at differs
        exact Nat.pos_of_ne_zero differs
      · rw [validate, found]

namespace GatewaySettings

/--
Settings are accepted if and only if no number is repeated and no interval is zero. If
numbers are repeated, the smallest of them is named, whatever the intervals are. Otherwise
the first interval that is zero is named.
-/
theorem validate_exact
    (settings : GatewaySettings) :
    let ids := settings.interfaces.map (·.id)
    let length := settings.link.length
    (settings.validate = .ok () ↔ ids.Nodup ∧ ∀ interval, 0 < length interval) ∧
      (¬ ids.Nodup →
        ∃ id, IsLeast {other | ids.Duplicate other} id ∧
          settings.validate = .error (.repeatedInterface id)) ∧
      (ids.Nodup → (¬ ∀ interval, 0 < length interval) →
        ∃ front interval back,
          [Interval.retry, .keepalive, .dead] = front ++ interval :: back ∧
            length interval = 0 ∧
            (∀ earlier ∈ front, 0 < length earlier) ∧
            settings.validate = .error (.link (.invalidInterval interval))) := by
  intro ids length
  cases found : repeated? ids with
  | some id =>
      have isLeast := (repeated?_eq_some_iff ids id).mp found
      have isRepeated : ¬ ids.Nodup := isLeast.1.not_nodup
      have refused : settings.validate = .error (.repeatedInterface id) := by
        simp only [validate, ids] at found ⊢
        rw [found]
      refine ⟨?_, fun _ => ⟨id, isLeast, refused⟩, fun distinct => (isRepeated distinct).elim⟩
      rw [refused]
      constructor
      · intro accepted
        cases accepted
      · intro valid
        exact (isRepeated valid.1).elim
  | none =>
      have distinct : ids.Nodup := (repeated?_eq_none_iff ids).mp found
      have isLink : settings.validate = settings.link.validate.mapError .link := by
        simp only [validate, ids] at found ⊢
        rw [found]
        cases settings.link.validate <;> rfl
      refine ⟨?_, fun isRepeated => (isRepeated distinct).elim, fun _ someZero => ?_⟩
      · have linkValid := settings.link.validate_eq_ok_iff
        rw [isLink, ← linkValid]
        cases settings.link.validate with
        | error error =>
            constructor
            · intro accepted
              cases accepted
            · intro valid
              cases valid.2
        | ok _ =>
            exact ⟨fun _ => ⟨distinct, rfl⟩, fun _ => rfl⟩
      · obtain ⟨front, interval, back, isSplit, isZero, positive, refused⟩ :=
          settings.link.exists_refused_of_zero someZero
        refine ⟨front, interval, back, isSplit, isZero, positive, ?_⟩
        rw [isLink, refused]
        rfl

end GatewaySettings

end StationLink
