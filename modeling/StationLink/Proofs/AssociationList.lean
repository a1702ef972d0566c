namespace StationLink.AssociationList

/-!
# Lists of keys and values

Several tables keep their entries as a list of pairs in which the first entry of
a key counts. These are the rules by which such a list is searched after it was
changed.
-/

variable {κ α : Type} [BEq κ] [LawfulBEq κ]

/-- What is found under a key is in the list. -/
theorem mem_of_lookup
    {entries : List (κ × α)}
    {key : κ}
    {value : α}
    (found : entries.lookup key = some value) :
    (key, value) ∈ entries := by
  obtain ⟨before, after, shape, _⟩ := List.lookup_eq_some_iff.mp found
  simp [shape]

/-- Something is found under every key in the list. -/
theorem exists_lookup_of_mem
    {entries : List (κ × α)}
    {key : κ}
    {value : α}
    (member : (key, value) ∈ entries) :
    ∃ found, entries.lookup key = some found := by
  rw [← Option.isSome_iff_exists, List.lookup_isSome_iff]
  exact ⟨(key, value), member, beq_self_eq_true key⟩

/-- A list in which nothing is found is empty. -/
theorem eq_nil_of_lookup
    {entries : List (κ × α)}
    (nothing : ∀ key, entries.lookup key = none) :
    entries = [] := by
  cases entries with
  | nil =>
      rfl
  | cons entry rest =>
      have isFirst : (entry.1, entry.2) ∈ entry :: rest := List.mem_cons_self
      obtain ⟨_, found⟩ := exists_lookup_of_mem isFirst
      cases (nothing entry.1).symm.trans found

variable [DecidableEq κ]

/-- The first entry counts if it has the key looked for. -/
theorem lookup_cons_eq_ite
    (key first : κ)
    (held : α)
    (rest : List (κ × α)) :
    ((first, held) :: rest).lookup key =
      if key = first then some held else rest.lookup key := by
  rw [List.lookup_cons]
  by_cases same : key = first
  · simp [same]
  · simp [same, beq_eq_false_iff_ne.mpr same]

/-- Where no key occurs twice, what is found under a key is what is in the list. -/
theorem lookup_eq_some_iff_mem
    {entries : List (κ × α)}
    (nodup : (entries.map (·.1)).Nodup)
    (key : κ)
    (value : α) :
    entries.lookup key = some value ↔ (key, value) ∈ entries := by
  refine ⟨mem_of_lookup, fun member => ?_⟩
  induction entries with
  | nil =>
      cases member
  | cons entry rest inductionHypothesis =>
      obtain ⟨first, held⟩ := entry
      obtain ⟨notLater, restNodup⟩ := List.nodup_cons.mp nodup
      rw [lookup_cons_eq_ite]
      rcases List.mem_cons.mp member with isFirst | isLater
      · cases isFirst
        exact if_pos rfl
      · have differs : key ≠ first := by
          intro same
          exact notLater (same ▸ List.mem_map.mpr ⟨(key, value), isLater, rfl⟩)
        rw [if_neg differs]
        exact inductionHypothesis restNodup isLater

/-- Where no key occurs twice, the order of a list makes no difference. -/
theorem lookup_eq_of_perm
    {first second : List (κ × α)}
    (sameEntries : first.Perm second)
    (nodup : (first.map (·.1)).Nodup)
    (key : κ) :
    first.lookup key = second.lookup key := by
  have secondNodup : (second.map (·.1)).Nodup :=
    (sameEntries.map (·.1)).nodup_iff.mp nodup
  ext value
  simp only [lookup_eq_some_iff_mem nodup, sameEntries.mem_iff,
    lookup_eq_some_iff_mem secondNodup]

/-- Keeping the entries of some keys leaves what is found under these keys. -/
theorem lookup_filter_key
    (entries : List (κ × α))
    (keeps : κ → Bool)
    (key : κ) :
    (entries.filter fun entry => keeps entry.1).lookup key =
      if keeps key then entries.lookup key else none := by
  induction entries with
  | nil =>
      simp
  | cons entry rest inductionHypothesis =>
      obtain ⟨first, held⟩ := entry
      by_cases isFirst : key = first
      · subst first
        cases kept : keeps key with
        | true =>
            simp [kept]
        | false =>
            simp [kept, inductionHypothesis]
      · cases kept : keeps first with
        | true =>
            simp [kept, lookup_cons_eq_ite, isFirst, inductionHypothesis]
        | false =>
            simp [kept, lookup_cons_eq_ite, isFirst, inductionHypothesis]

/-- Dropping the entries of a key leaves what is found under other keys. -/
theorem lookup_filter_ne
    (entries : List (κ × α))
    (key other : κ) :
    (entries.filter fun entry => entry.1 ≠ key).lookup other =
      if other = key then none else entries.lookup other := by
  rw [lookup_filter_key entries (fun found => found ≠ key) other]
  by_cases isKey : other = key
  · simp [isKey]
  · simp [isKey]

/-- Changing the values of a list changes what is found under each key. -/
theorem lookup_map_value
    {β : Type}
    (change : κ → α → β)
    (entries : List (κ × α))
    (key : κ) :
    (entries.map fun entry => (entry.1, change entry.1 entry.2)).lookup key =
      (entries.lookup key).map (change key) := by
  induction entries with
  | nil =>
      rfl
  | cons entry rest inductionHypothesis =>
      obtain ⟨first, held⟩ := entry
      rw [List.map_cons, lookup_cons_eq_ite, lookup_cons_eq_ite, inductionHypothesis]
      by_cases isFirst : key = first
      · simp [isFirst]
      · simp [isFirst]

end StationLink.AssociationList
