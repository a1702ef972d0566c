import Mathlib.Data.List.Induction
import Mathlib.Order.Defs.Unbundled
import StationLink.Proofs.AssociationList
import StationLink.SortedMap

namespace StationLink.SortedMap

open AssociationList

/-!
# What a sorted map holds

Looking up after a change gives what the change put there, and anything else as
it was before. Where keys are totally ordered, every change keeps the entries
growing (`Growing`), so that those up to a key stand in front.
-/

variable {κ α : Type}

/-! ## Entries by growing key -/

/-- Every entry has a larger key than those before it. -/
def Growing [LT κ] (map : SortedMap κ α) : Prop :=
  map.entries.Pairwise fun one other => one.1 < other.1

namespace Growing

variable [LT κ] {map : SortedMap κ α}

theorem empty :
    (SortedMap.empty : SortedMap κ α).Growing :=
  List.Pairwise.nil

/-- No key occurs twice. -/
theorem nodup_keys
    [Std.Irrefl (α := κ) (· < ·)]
    (growing : map.Growing) :
    map.keys.Nodup := by
  refine List.Pairwise.map _ ?_ growing
  intro one other less same
  rw [same] at less
  exact Std.Irrefl.irrefl (r := (· < ·)) _ less

/-- If a test holds up to some key, the entries in front are all those that meet it. -/
theorem takeWhile_eq_filter
    (growing : map.Growing)
    (test : κ → Bool)
    (downward : ∀ {one other}, one < other → test other = true → test one = true) :
    (map.entries.takeWhile fun entry => test entry.1) =
        (map.entries.filter fun entry => test entry.1) ∧
      (map.entries.dropWhile fun entry => test entry.1) =
        (map.entries.filter fun entry => !test entry.1) := by
  obtain ⟨entries⟩ := map
  simp only
  induction entries with
  | nil =>
      exact ⟨rfl, rfl⟩
  | cons entry rest inductionHypothesis =>
      obtain ⟨isFirst, restGrowing⟩ := List.pairwise_cons.mp growing
      cases meets : test entry.1 with
      | true =>
          obtain ⟨front, back⟩ := inductionHypothesis restGrowing
          simp [meets, front, back]
      | false =>
          have noneLater : ∀ other ∈ rest, test other.1 = false := by
            intro other member
            rw [Bool.eq_false_iff]
            intro later
            rw [downward (isFirst other member) later] at meets
            cases meets
          have front : (rest.filter fun other => test other.1) = [] :=
            List.filter_eq_nil_iff.mpr fun other member => by simp [noneLater other member]
          have back : (rest.filter fun other => !test other.1) = rest :=
            List.filter_eq_self.mpr fun other member => by simp [noneLater other member]
          simp [meets, front, back]

end Growing

variable [DecidableEq κ]

/-! ## Looking up -/

/-- Inserting an entry changes what is found under its key only. -/
theorem lookup_insertEntry
    [LT κ]
    [DecidableLT κ]
    (key other : κ)
    (value : α)
    (entries : List (κ × α)) :
    (insertEntry key value entries).lookup other =
      if other = key then some value else entries.lookup other := by
  induction entries with
  | nil =>
      rw [insertEntry, lookup_cons_eq_ite]
  | cons entry rest inductionHypothesis =>
      obtain ⟨first, held⟩ := entry
      rw [insertEntry]
      split
      · next isFirst =>
          simp only at isFirst
          subst first
          simp only [lookup_cons_eq_ite]
          split <;> rfl
      · next notFirst =>
          simp only at notFirst
          split
          · rw [lookup_cons_eq_ite]
          · rw [lookup_cons_eq_ite, inductionHypothesis, lookup_cons_eq_ite]
            by_cases isFirst : other = first
            · have notKey : other ≠ key := isFirst ▸ notFirst
              simp [isFirst, notFirst]
            · simp [isFirst]

/-- Inserting a value changes what is found under its key only. -/
@[simp] theorem get?_insert
    [LT κ]
    [DecidableLT κ]
    (map : SortedMap κ α)
    (key other : κ)
    (value : α) :
    (map.insert key value).get? other =
      if other = key then some value else map.get? other :=
  lookup_insertEntry key other value map.entries

/-- Erasing a key changes what is found under that key only. -/
@[simp] theorem get?_erase
    (map : SortedMap κ α)
    (key other : κ) :
    (map.erase key).get? other =
      if other = key then none else map.get? other :=
  lookup_filter_ne map.entries key other

/-- Of several values given for a key the last one is found. -/
theorem get?_ofList
    [LT κ]
    [DecidableLT κ]
    (entries : List (κ × α))
    (key : κ) :
    (ofList entries).get? key = entries.reverse.lookup key := by
  induction entries using List.reverseRecOn with
  | nil =>
      rfl
  | append_singleton entries entry inductionHypothesis =>
      rw [ofList, List.foldl_append, ← ofList, List.foldl_cons, List.foldl_nil, get?_insert,
        inductionHypothesis, List.reverse_append, List.reverse_singleton, List.singleton_append,
        lookup_cons_eq_ite]

/-- The keys of a map are those under which something is found. -/
theorem mem_keys_iff
    (map : SortedMap κ α)
    (key : κ) :
    key ∈ map.keys ↔ ∃ value, map.get? key = some value := by
  simp only [keys, List.mem_map, Prod.exists, exists_and_right, exists_eq_right]
  constructor
  · rintro ⟨value, member⟩
    exact exists_lookup_of_mem member
  · rintro ⟨value, found⟩
    exact ⟨value, mem_of_lookup found⟩

/-! ## Changes keep the entries growing -/

theorem mem_of_mem_insertEntry
    [LT κ]
    [DecidableLT κ]
    {key : κ}
    {value : α}
    {entry : κ × α}
    {entries : List (κ × α)}
    (member : entry ∈ insertEntry key value entries) :
    entry = (key, value) ∨ entry ∈ entries := by
  induction entries with
  | nil =>
      exact Or.inl (List.mem_singleton.mp member)
  | cons first rest inductionHypothesis =>
      simp only [insertEntry] at member
      split at member
      · exact (List.mem_cons.mp member).imp_right (List.mem_cons_of_mem first)
      · split at member
        · exact List.mem_cons.mp member
        · rcases List.mem_cons.mp member with isFirst | isLater
          · exact Or.inr (isFirst ▸ List.mem_cons_self)
          · exact (inductionHypothesis isLater).imp_right (List.mem_cons_of_mem first)

namespace Growing

variable [LT κ] {map : SortedMap κ α}

theorem erase
    (growing : map.Growing)
    (key : κ) :
    (map.erase key).Growing :=
  growing.sublist List.filter_sublist

theorem insert
    [DecidableLT κ]
    [IsStrictTotalOrder κ (· < ·)]
    (growing : map.Growing)
    (key : κ)
    (value : α) :
    (map.insert key value).Growing := by
  obtain ⟨entries⟩ := map
  change (insertEntry key value entries).Pairwise _
  induction entries with
  | nil =>
      exact List.pairwise_singleton _ _
  | cons entry rest inductionHypothesis =>
      obtain ⟨isFirst, restGrowing⟩ := List.pairwise_cons.mp growing
      simp only [insertEntry]
      split
      · next isKey =>
          refine List.pairwise_cons.mpr ⟨?_, restGrowing⟩
          intro other member
          exact isKey ▸ isFirst other member
      · next notKey =>
          split
          · next before =>
              refine List.pairwise_cons.mpr ⟨?_, growing⟩
              intro other member
              rcases List.mem_cons.mp member with isEntry | isLater
              · exact isEntry ▸ before
              · exact IsTrans.trans (r := (· < ·)) _ _ _ before (isFirst other isLater)
          · next notBefore =>
              have behind : entry.1 < key := Decidable.byContradiction fun notBehind =>
                notKey (Std.Trichotomous.trichotomous (r := (· < ·)) _ _ notBehind notBefore)
              refine List.pairwise_cons.mpr ⟨?_, inductionHypothesis restGrowing⟩
              intro other member
              rcases mem_of_mem_insertEntry member with isNew | isLater
              · exact isNew ▸ behind
              · exact isFirst other isLater

theorem ofList
    [DecidableLT κ]
    [IsStrictTotalOrder κ (· < ·)]
    (entries : List (κ × α)) :
    (SortedMap.ofList entries).Growing := by
  induction entries using List.reverseRecOn with
  | nil =>
      exact empty
  | append_singleton entries entry inductionHypothesis =>
      rw [SortedMap.ofList, List.foldl_append]
      exact inductionHypothesis.insert entry.1 entry.2

/-- The entries of a map are what is found in it. -/
theorem mem_entries_iff
    [Std.Irrefl (α := κ) (· < ·)]
    (growing : map.Growing)
    (key : κ)
    (value : α) :
    (key, value) ∈ map.entries ↔ map.get? key = some value :=
  (lookup_eq_some_iff_mem growing.nodup_keys key value).symm

end Growing

end StationLink.SortedMap
