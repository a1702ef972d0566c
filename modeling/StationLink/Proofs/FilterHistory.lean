import Mathlib.Data.Finset.Card
import StationLink.Filter
import StationLink.Proofs.BucketMap

namespace StationLink

/-!
# Filters and their history

A filter keeps two indexes, one of the entries by hardware name and one of the hardware
names by alias, and every change has to bring both up to date. `Filter.Reflects` says
what they amount to in terms of the history alone: a name leads to the entry last
inserted for it, and an alias to the entry that took it last, as long as nothing was done
under the hardware name of that entry since. A former owner of an alias can neither take
it away from the present one nor bring it back (`Filter.indexes_reflect_edits`).
-/

/-! ## Histories -/

/-- A change of the entries of a filter. -/
inductive FilterEdit where
  | insert (entry : FilterEntry)
  | remove (hardwareName : String)
  deriving Repr, DecidableEq

namespace FilterEdit

/-- The hardware name under which something is done. -/
def hardwareName : FilterEdit → String
  | .insert entry => entry.hardwareName
  | .remove hardwareName => hardwareName

/-- The entry that is inserted, if one is. -/
def entry? : FilterEdit → Option FilterEntry
  | .insert entry => some entry
  | .remove _ => none

/-- The alias of the entry that is inserted, if one is. -/
def alias? (edit : FilterEdit) : Option String :=
  edit.entry?.map (·.alias)

/-- The entry last inserted for a hardware name, unless it was removed since. -/
def standing? (edits : List FilterEdit) (hardwareName : String) : Option FilterEntry :=
  (edits.reverse.find? fun edit => edit.hardwareName = hardwareName).bind entry?

/-- The hardware names that have an entry. -/
def standingNames (edits : List FilterEdit) : Finset String :=
  (edits.map hardwareName).toFinset.filter fun name => (standing? edits name).isSome

/--
Of all entries with an alias this one was inserted last, and nothing was done under its
hardware name since.
-/
def HoldsAlias (edits : List FilterEdit) (aliasName : String) (entry : FilterEntry) : Prop :=
  ∃ earlier later, edits = earlier ++ .insert entry :: later ∧ entry.alias = aliasName ∧
    (∀ edit ∈ later, edit.alias? ≠ some aliasName) ∧
    ∀ edit ∈ later, edit.hardwareName ≠ entry.hardwareName

/-- Only an insertion gives an alias, which is that of its entry. -/
theorem alias?_eq_some_iff
    {edit : FilterEdit}
    {aliasName : String} :
    edit.alias? = some aliasName ↔ ∃ entry, edit = .insert entry ∧ entry.alias = aliasName := by
  cases edit <;> simp [alias?, entry?]

/-- The last edit decides about its own hardware name and about no other. -/
theorem standing?_concat
    (edits : List FilterEdit)
    (last : FilterEdit)
    (hardwareName : String) :
    standing? (edits ++ [last]) hardwareName =
      if hardwareName = last.hardwareName then
        last.entry?
      else
        standing? edits hardwareName := by
  by_cases isLast : last.hardwareName = hardwareName
  · simp [standing?, isLast]
  · simp [standing?, isLast, Ne.symm isLast]

/-- An entry that stands was inserted under its hardware name. -/
theorem hardwareName_of_standing?
    {edits : List FilterEdit}
    {hardwareName : String}
    {entry : FilterEntry}
    (standing : standing? edits hardwareName = some entry) :
    .insert entry ∈ edits ∧ entry.hardwareName = hardwareName := by
  obtain ⟨edit, found, isInsertion⟩ := Option.bind_eq_some_iff.mp standing
  have member := List.mem_of_find?_eq_some found
  have isNamed := List.find?_some found
  cases edit with
  | insert other =>
      cases isInsertion
      exact ⟨List.mem_reverse.mp member, of_decide_eq_true isNamed⟩
  | remove other =>
      cases isInsertion

/-- The names with an entry are those under which one stands. -/
theorem mem_standingNames_iff
    (edits : List FilterEdit)
    (hardwareName : String) :
    hardwareName ∈ standingNames edits ↔ ∃ entry, standing? edits hardwareName = some entry := by
  rw [standingNames, Finset.mem_filter, Option.isSome_iff_exists, and_iff_right_iff_imp]
  rintro ⟨entry, standing⟩
  obtain ⟨member, isNamed⟩ := hardwareName_of_standing? standing
  exact List.mem_toFinset.mpr (List.mem_map.mpr ⟨_, member, isNamed⟩)

/-- The last edit may let its entry hold an alias; otherwise the holder must survive it. -/
theorem holdsAlias_concat_iff
    (edits : List FilterEdit)
    (last : FilterEdit)
    (aliasName : String)
    (entry : FilterEntry) :
    HoldsAlias (edits ++ [last]) aliasName entry ↔
      (last = .insert entry ∧ entry.alias = aliasName) ∨
        (HoldsAlias edits aliasName entry ∧ last.alias? ≠ some aliasName ∧
          last.hardwareName ≠ entry.hardwareName) := by
  constructor
  · rintro ⟨earlier, later, isSplit, hasAlias, noneTook, noneTouched⟩
    rcases List.eq_nil_or_concat later with rfl | ⟨between, edit, rfl⟩
    · obtain ⟨_, isLast⟩ := List.append_inj' isSplit rfl
      exact .inl ⟨List.head_eq_of_cons_eq isLast, hasAlias⟩
    · rw [List.concat_eq_append, ← List.cons_append, ← List.append_assoc] at isSplit
      obtain ⟨isBefore, isLast⟩ := List.append_inj' isSplit rfl
      cases isLast
      simp only [List.concat_eq_append, List.forall_mem_append, List.forall_mem_singleton]
        at noneTook noneTouched
      exact .inr ⟨⟨earlier, between, isBefore, hasAlias, noneTook.1, noneTouched.1⟩,
        noneTook.2, noneTouched.2⟩
  · rintro (⟨rfl, hasAlias⟩ | ⟨⟨earlier, later, rfl, hasAlias, noneTook, noneTouched⟩,
      notTaken, notTouched⟩)
    · exact ⟨edits, [], rfl, hasAlias, by simp, by simp⟩
    · refine ⟨earlier, later ++ [last], by simp, hasAlias, ?_, ?_⟩
      · exact List.forall_mem_append.mpr ⟨noneTook, List.forall_mem_singleton.mpr notTaken⟩
      · exact List.forall_mem_append.mpr ⟨noneTouched, List.forall_mem_singleton.mpr notTouched⟩

/-- The entry that holds an alias is the one its hardware name leads to. -/
theorem HoldsAlias.standing?_eq
    {edits : List FilterEdit}
    {aliasName : String}
    {entry : FilterEntry}
    (holds : HoldsAlias edits aliasName entry) :
    standing? edits entry.hardwareName = some entry := by
  induction edits using List.reverseRecOn with
  | nil =>
      obtain ⟨earlier, later, isSplit, _⟩ := holds
      simp at isSplit
  | append_singleton edits last inductionHypothesis =>
      rw [standing?_concat]
      rcases (holdsAlias_concat_iff edits last aliasName entry).mp holds with
        ⟨rfl, _⟩ | ⟨heldBefore, _, notTouched⟩
      · exact if_pos rfl
      · rw [if_neg (Ne.symm notTouched)]
        exact inductionHypothesis heldBefore

end FilterEdit

/-! ## Changes of a filter -/

namespace Filter

/-- The hardware name that an alias leads to. -/
def owner? (filter : Filter) (aliasName : String) : Option String :=
  filter.byAlias.get? (Text.utf8 aliasName)

/--
Both indexes are in order, entries are found under their own hardware names, and an alias
leads only to an entry that has it.
-/
structure WellFormed (filter : Filter) : Prop where
  byName : filter.byName.WellFormed
  byAlias : filter.byAlias.WellFormed
  named :
    ∀ {key entry}, filter.byName.get? key = some entry →
      key = Text.utf8 entry.hardwareName
  owned :
    ∀ {aliasName hardwareName}, filter.owner? aliasName = some hardwareName →
      aliasName ≠ "" ∧
        ∃ entry, filter.findName? hardwareName = some entry ∧ entry.alias = aliasName

/-- Make a change of the entries. -/
def edit (filter : Filter) : FilterEdit → Filter
  | .insert entry => filter.insert entry
  | .remove hardwareName => (filter.remove hardwareName).1

/-- Make changes of the entries one after another. -/
def edited (filter : Filter) (edits : List FilterEdit) : Filter :=
  edits.foldl edit filter

/-- Edits are made one after another. -/
theorem edited_concat
    (filter : Filter)
    (edits : List FilterEdit)
    (last : FilterEdit) :
    filter.edited (edits ++ [last]) = (filter.edited edits).edit last := by
  simp [edited]

/-- A filter that settings describe is a new one into which their entries were inserted. -/
theorem ofSettings_eq_edited
    (settings : FilterSettings) :
    ofSettings settings =
      (withDefaults settings.name settings.sendEvents settings.receiveCommands).edited
        (settings.entries.map .insert) := by
  rw [edited, List.foldl_map]
  rfl

variable {filter : Filter}

/-- Forgetting an alias keeps the table of aliases well-formed. -/
theorem byAlias_forgetAlias
    (wellFormed : filter.byAlias.WellFormed)
    (aliasName hardwareName : String) :
    (filter.forgetAlias aliasName hardwareName).byAlias.WellFormed := by
  unfold forgetAlias
  split
  · exact wellFormed.erase _
  · exact wellFormed

/-- An alias is forgotten only if it leads to the hardware name that gives it up. -/
theorem owner?_forgetAlias
    (wellFormed : filter.byAlias.WellFormed)
    (aliasName hardwareName other : String) :
    (filter.forgetAlias aliasName hardwareName).owner? other =
      if aliasName ≠ "" ∧ other = aliasName ∧ filter.owner? other = some hardwareName then
        none
      else
        filter.owner? other := by
  unfold forgetAlias owner?
  split
  · next isOwned =>
      obtain ⟨isAlias, leads⟩ := isOwned
      rw [BucketMap.get?_erase wellFormed.toPlaced]
      by_cases same : other = aliasName
      · simp [same, isAlias, leads]
      · simp [same, Text.utf8_injective.eq_iff]
  · next notOwned =>
      rw [if_neg]
      rintro ⟨isAlias, rfl, leads⟩
      exact notOwned ⟨isAlias, leads⟩

/-- Forgetting an alias leaves the entries alone. -/
theorem byName_forgetAlias
    (filter : Filter)
    (aliasName hardwareName : String) :
    (filter.forgetAlias aliasName hardwareName).byName = filter.byName := by
  unfold forgetAlias
  split <;> rfl

/-- Claiming an alias keeps the table of aliases well-formed. -/
theorem byAlias_claimAlias
    (wellFormed : filter.byAlias.WellFormed)
    (aliasName hardwareName : String) :
    (filter.claimAlias aliasName hardwareName).byAlias.WellFormed := by
  unfold claimAlias
  split
  · exact wellFormed
  · exact wellFormed.insert _ _

/-- An alias that is claimed leads to the hardware name that claims it. -/
theorem owner?_claimAlias
    (filter : Filter)
    (aliasName hardwareName other : String) :
    (filter.claimAlias aliasName hardwareName).owner? other =
      if aliasName ≠ "" ∧ other = aliasName then some hardwareName else filter.owner? other := by
  unfold claimAlias owner?
  split
  · next isEmpty =>
      simp [isEmpty]
  · next isAlias =>
      simp [isAlias, Text.utf8_injective.eq_iff]

/-- Claiming an alias leaves the entries alone. -/
theorem byName_claimAlias
    (filter : Filter)
    (aliasName hardwareName : String) :
    (filter.claimAlias aliasName hardwareName).byName = filter.byName := by
  unfold claimAlias
  split <;> rfl

/-! ### What is found afterwards -/

/-- What leads elsewhere is not lost when what leads to a hardware name is. -/
theorem owner?_filter_of_ne
    {aliasName hardwareName : String}
    (elsewhere : filter.owner? aliasName ≠ some hardwareName) :
    (filter.owner? aliasName).filter (· ≠ hardwareName) = filter.owner? aliasName := by
  rcases leads : filter.owner? aliasName with _ | owner
  · rfl
  · have isOther : owner ≠ hardwareName := by
      rintro rfl
      exact elsewhere leads
    simp [isOther]

/-- Forgetting the only alias that may lead to a hardware name leaves none that does. -/
theorem owner?_forgetAlias_of_only
    (wellFormed : filter.byAlias.WellFormed)
    {aliasName hardwareName : String}
    (only : ∀ other, filter.owner? other = some hardwareName → other ≠ "" ∧ other = aliasName)
    (other : String) :
    (filter.forgetAlias aliasName hardwareName).owner? other =
      (filter.owner? other).filter (· ≠ hardwareName) := by
  rw [owner?_forgetAlias wellFormed]
  by_cases leads : filter.owner? other = some hardwareName
  · obtain ⟨isAlias, rfl⟩ := only other leads
    simp [leads, isAlias, Option.filter_some]
  · rw [owner?_filter_of_ne leads, if_neg fun isOwned => leads isOwned.2.2]

/-- The aliases that lead to the hardware name of an entry are the one of that entry. -/
theorem WellFormed.only_alias
    (wellFormed : filter.WellFormed)
    {hardwareName : String}
    {entry : FilterEntry}
    (found : filter.findName? hardwareName = some entry)
    (other : String)
    (leads : filter.owner? other = some hardwareName) :
    other ≠ "" ∧ other = entry.alias := by
  obtain ⟨isAlias, former, foundFormer, hasAlias⟩ := wellFormed.owned leads
  cases found.symm.trans foundFormer
  exact ⟨isAlias, hasAlias.symm⟩

/-- No alias leads to a hardware name without an entry. -/
theorem WellFormed.owner?_ne_of_missing
    (wellFormed : filter.WellFormed)
    {hardwareName : String}
    (missing : filter.findName? hardwareName = none)
    (other : String) :
    filter.owner? other ≠ some hardwareName := by
  intro leads
  obtain ⟨_, entry, found, _⟩ := wellFormed.owned leads
  cases missing.symm.trans found

/--
Before an entry that is inserted takes its alias, no other alias leads to its hardware
name any more.
-/
theorem WellFormed.exists_released
    (wellFormed : filter.WellFormed)
    (entry : FilterEntry) :
    ∃ released : Filter,
      filter.insert entry = released.claimAlias entry.alias entry.hardwareName ∧
        released.byName = filter.byName.insert (Text.utf8 entry.hardwareName) entry ∧
        released.byAlias.WellFormed ∧
        ∀ other, ¬ (entry.alias ≠ "" ∧ other = entry.alias) →
          released.owner? other = (filter.owner? other).filter (· ≠ entry.hardwareName) := by
  let withEntry : Filter :=
    { filter with byName := filter.byName.insert (Text.utf8 entry.hardwareName) entry }
  have orderly : withEntry.byAlias.WellFormed := wellFormed.byAlias
  unfold Filter.insert
  rcases found : filter.byName.get? (Text.utf8 entry.hardwareName) with _ | old
  · refine ⟨withEntry, by simp only [BucketMap.put, found]; rfl, rfl, orderly, ?_⟩
    intro other _
    exact (owner?_filter_of_ne (wellFormed.owner?_ne_of_missing found other)).symm
  · have only := wellFormed.only_alias found
    by_cases keepsAlias : old.alias = entry.alias
    · refine ⟨withEntry, by simp only [BucketMap.put, found, if_pos keepsAlias]; rfl, rfl,
        orderly, ?_⟩
      intro other notNew
      refine (owner?_filter_of_ne fun leads => ?_).symm
      obtain ⟨isAlias, isOld⟩ := only other leads
      have isNew : other = entry.alias := isOld.trans keepsAlias
      exact notNew ⟨isNew ▸ isAlias, isNew⟩
    · refine ⟨withEntry.forgetAlias old.alias entry.hardwareName,
        by simp only [BucketMap.put, found, if_neg keepsAlias]; rfl,
        byName_forgetAlias withEntry _ _, byAlias_forgetAlias orderly _ _, ?_⟩
      intro other _
      exact owner?_forgetAlias_of_only orderly only other

/-- Removing an entry gives up its alias, if the alias still leads to it. -/
theorem WellFormed.remove
    (wellFormed : filter.WellFormed)
    (hardwareName : String) :
    (∀ key, (filter.remove hardwareName).1.byName.get? key =
        if key = Text.utf8 hardwareName then none else filter.byName.get? key) ∧
      (filter.remove hardwareName).1.byName.WellFormed ∧
      (filter.remove hardwareName).1.byAlias.WellFormed ∧
      ∀ other, (filter.remove hardwareName).1.owner? other =
        (filter.owner? other).filter (· ≠ hardwareName) := by
  have erased := BucketMap.get?_erase wellFormed.byName.toPlaced (Text.utf8 hardwareName)
  unfold Filter.remove
  rcases found : filter.byName.get? (Text.utf8 hardwareName) with _ | old
  · simp only [BucketMap.put, found]
    refine ⟨?_, wellFormed.byName, wellFormed.byAlias, ?_⟩
    · intro key
      split
      · next isName =>
          rw [isName, found]
      · rfl
    · intro other
      exact (owner?_filter_of_ne (wellFormed.owner?_ne_of_missing found other)).symm
  · let without : Filter :=
      { filter with byName := filter.byName.erase (Text.utf8 hardwareName) }
    have orderly : without.byAlias.WellFormed := wellFormed.byAlias
    simp only [BucketMap.put, found, byName_forgetAlias]
    exact ⟨erased, wellFormed.byName.erase _, byAlias_forgetAlias orderly _ _,
      owner?_forgetAlias_of_only orderly (wellFormed.only_alias found)⟩

/-- Only what is found under the hardware name of a change changes. -/
theorem WellFormed.get?_byName_edit
    (wellFormed : filter.WellFormed)
    (edit : FilterEdit)
    (key : MapKey) :
    (filter.edit edit).byName.get? key =
      if key = Text.utf8 edit.hardwareName then edit.entry? else filter.byName.get? key := by
  cases edit with
  | insert entry =>
      obtain ⟨released, isInsertion, isName, _⟩ := wellFormed.exists_released entry
      rw [Filter.edit, isInsertion, byName_claimAlias, isName, BucketMap.get?_insert]
      rfl
  | remove hardwareName =>
      exact (wellFormed.remove hardwareName).1 key

/-- An edit decides what is found under its own hardware name and under no other. -/
theorem WellFormed.findName?_edit
    (wellFormed : filter.WellFormed)
    (edit : FilterEdit)
    (hardwareName : String) :
    (filter.edit edit).findName? hardwareName =
      if hardwareName = edit.hardwareName then
        edit.entry?
      else
        filter.findName? hardwareName := by
  refine (wellFormed.get?_byName_edit edit _).trans ?_
  simp only [Text.utf8_injective.eq_iff]
  rfl

/--
A change lets the alias of its entry lead to its hardware name, and no other alias leads
there any more. Aliases that lead elsewhere are left alone.
-/
theorem WellFormed.owner?_edit
    (wellFormed : filter.WellFormed)
    (edit : FilterEdit)
    (aliasName : String) :
    (filter.edit edit).owner? aliasName =
      if aliasName ≠ "" ∧ edit.alias? = some aliasName then
        some edit.hardwareName
      else
        (filter.owner? aliasName).filter (· ≠ edit.hardwareName) := by
  cases edit with
  | insert entry =>
      obtain ⟨released, isInsertion, _, _, others⟩ := wellFormed.exists_released entry
      rw [Filter.edit, isInsertion, owner?_claimAlias]
      by_cases isNew : entry.alias ≠ "" ∧ aliasName = entry.alias
      · obtain ⟨isAlias, rfl⟩ := isNew
        simp [isAlias, FilterEdit.alias?, FilterEdit.entry?, FilterEdit.hardwareName]
      · rw [if_neg isNew, others aliasName isNew, if_neg]
        · rfl
        · rintro ⟨isAlias, isOwn⟩
          obtain rfl := Option.some.inj isOwn
          exact isNew ⟨isAlias, rfl⟩
  | remove hardwareName =>
      have noAlias : (FilterEdit.remove hardwareName).alias? ≠ some aliasName := nofun
      rw [if_neg fun isOwn => noAlias isOwn.2]
      exact (wellFormed.remove hardwareName).2.2.2 aliasName

/-! ### Filters stay well-formed -/

section WithDefaults

variable (name : String) (sendEvents receiveCommands : Bool)

theorem get?_byName_withDefaults
    (key : MapKey) :
    (Filter.withDefaults name sendEvents receiveCommands).byName.get? key = none :=
  (BucketMap.vacant_of_capacity 0).get? key

theorem owner?_withDefaults
    (aliasName : String) :
    (Filter.withDefaults name sendEvents receiveCommands).owner? aliasName = none :=
  (BucketMap.vacant_of_capacity 0).get? (Text.utf8 aliasName)

theorem WellFormed.withDefaults :
    (Filter.withDefaults name sendEvents receiveCommands).WellFormed where
  byName := (BucketMap.vacant_of_capacity 0).wellFormed
  byAlias := (BucketMap.vacant_of_capacity 0).wellFormed
  named := by
    intro key entry found
    cases (get?_byName_withDefaults name sendEvents receiveCommands key).symm.trans found
  owned := by
    intro aliasName hardwareName leads
    cases (owner?_withDefaults name sendEvents receiveCommands aliasName).symm.trans leads

end WithDefaults

/-- Edits keep filters well-formed. -/
theorem WellFormed.edit
    (wellFormed : filter.WellFormed)
    (edit : FilterEdit) :
    (filter.edit edit).WellFormed := by
  have indexed : (filter.edit edit).byName.WellFormed ∧
      (filter.edit edit).byAlias.WellFormed := by
    cases edit with
    | insert entry =>
        obtain ⟨released, isInsertion, isName, orderly, _⟩ := wellFormed.exists_released entry
        rw [Filter.edit, isInsertion, byName_claimAlias, isName]
        exact ⟨wellFormed.byName.insert _ _, byAlias_claimAlias orderly _ _⟩
    | remove hardwareName =>
        obtain ⟨_, byName, byAlias, _⟩ := wellFormed.remove hardwareName
        exact ⟨byName, byAlias⟩
  refine ⟨indexed.1, indexed.2, ?_, ?_⟩
  · intro key entry found
    rw [wellFormed.get?_byName_edit] at found
    split at found
    · next isName =>
        cases edit with
        | insert other =>
            cases found
            exact isName
        | remove other =>
            cases found
    · exact wellFormed.named found
  · intro aliasName hardwareName leads
    rw [wellFormed.owner?_edit] at leads
    rw [wellFormed.findName?_edit]
    split at leads
    · next isNew =>
        obtain ⟨isAlias, isOwn⟩ := isNew
        obtain ⟨entry, isInserted, hasAlias⟩ := Option.map_eq_some_iff.mp isOwn
        exact ⟨isAlias, entry, by rw [← Option.some.inj leads, if_pos rfl, isInserted], hasAlias⟩
    · obtain ⟨leadsBefore, isOther⟩ := Option.filter_eq_some_iff.mp leads
      obtain ⟨isAlias, entry, found, hasAlias⟩ := wellFormed.owned leadsBefore
      exact ⟨isAlias, entry, by rw [if_neg (of_decide_eq_true isOther), found], hasAlias⟩

/-! ## Filters after a history -/

/--
A filter answers what its history says. It finds the entry last inserted for a hardware
name unless it was removed since, and under an alias the entry that took it last unless
something was done under the hardware name of that entry since. Names without an entry
fall under the defaults.
-/
structure Reflects
    (filter : Filter)
    (sendEvents receiveCommands : Bool)
    (edits : List FilterEdit) : Prop where
  findName : ∀ hardwareName, filter.findName? hardwareName = FilterEdit.standing? edits hardwareName
  findAlias :
    ∀ aliasName entry, filter.findAlias? aliasName = some entry ↔
      aliasName ≠ "" ∧ FilterEdit.HoldsAlias edits aliasName entry
  findAlias_none :
    ∀ aliasName, filter.findAlias? aliasName = none ↔
      aliasName = "" ∨ ∀ entry, ¬ FilterEdit.HoldsAlias edits aliasName entry
  sendsEvents :
    ∀ hardwareName, filter.sendsEvents hardwareName =
      ((FilterEdit.standing? edits hardwareName).map (·.sendEvents)).getD sendEvents
  receivesCommands :
    ∀ hardwareName, filter.receivesCommands hardwareName =
      ((FilterEdit.standing? edits hardwareName).map (·.receiveCommands)).getD receiveCommands
  size : filter.size = (FilterEdit.standingNames edits).card

/-- The indexes hold what a history says they do. -/
structure Indexes (filter : Filter) (edits : List FilterEdit) : Prop extends WellFormed filter where
  standing :
    ∀ hardwareName, filter.findName? hardwareName = FilterEdit.standing? edits hardwareName
  holder :
    ∀ aliasName hardwareName, filter.owner? aliasName = some hardwareName ↔
      aliasName ≠ "" ∧ ∃ entry, FilterEdit.HoldsAlias edits aliasName entry ∧
        entry.hardwareName = hardwareName

namespace Indexes

variable {edits : List FilterEdit}

/-- A filter without entries indexes the history without edits. -/
theorem withDefaults
    (name : String)
    (sendEvents receiveCommands : Bool) :
    (Filter.withDefaults name sendEvents receiveCommands).Indexes [] where
  toWellFormed := .withDefaults name sendEvents receiveCommands
  standing := fun hardwareName =>
    get?_byName_withDefaults name sendEvents receiveCommands (Text.utf8 hardwareName)
  holder := by
    intro aliasName hardwareName
    constructor
    · intro leads
      cases (owner?_withDefaults name sendEvents receiveCommands aliasName).symm.trans leads
    · rintro ⟨_, _, ⟨earlier, later, isSplit, _⟩, _⟩
      simp at isSplit

/-- A change of the entries is followed by both indexes. -/
theorem edit
    (indexes : filter.Indexes edits)
    (last : FilterEdit) :
    (filter.edit last).Indexes (edits ++ [last]) := by
  refine ⟨indexes.toWellFormed.edit last, ?_, ?_⟩
  · intro hardwareName
    rw [indexes.findName?_edit, FilterEdit.standing?_concat, indexes.standing]
  · intro aliasName hardwareName
    rw [indexes.owner?_edit]
    simp only [FilterEdit.holdsAlias_concat_iff]
    split
    · next isNew =>
        obtain ⟨isAlias, isOwn⟩ := isNew
        obtain ⟨entry, rfl, hasAlias⟩ := FilterEdit.alias?_eq_some_iff.mp isOwn
        constructor
        · intro isName
          exact ⟨isAlias, entry, .inl ⟨rfl, hasAlias⟩, Option.some.inj isName⟩
        · rintro ⟨_, other, ⟨same, _⟩ | ⟨_, notTaken, _⟩, rfl⟩
          · cases same
            rfl
          · exact (notTaken isOwn).elim
    · next notNew =>
        rw [Option.filter_eq_some_iff, indexes.holder, decide_eq_true_iff]
        constructor
        · rintro ⟨⟨isAlias, entry, holds, rfl⟩, isOther⟩
          exact ⟨isAlias, entry,
            .inr ⟨holds, fun isOwn => notNew ⟨isAlias, isOwn⟩, Ne.symm isOther⟩, rfl⟩
        · rintro ⟨isAlias, entry, ⟨rfl, hasAlias⟩ | ⟨holds, _, notTouched⟩, rfl⟩
          · exact (notNew ⟨isAlias, FilterEdit.alias?_eq_some_iff.mpr ⟨entry, rfl, hasAlias⟩⟩).elim
          · exact ⟨⟨isAlias, entry, holds, rfl⟩, Ne.symm notTouched⟩

/-- A filter indexes the edits that it was given. -/
theorem edited
    (indexes : filter.Indexes [])
    (edits : List FilterEdit) :
    (filter.edited edits).Indexes edits := by
  induction edits using List.reverseRecOn with
  | nil =>
      exact indexes
  | append_singleton edits last inductionHypothesis =>
      rw [edited_concat]
      exact inductionHypothesis.edit last

/-- An alias leads to the entry that holds it after the edits, and to none if none does. -/
theorem findAlias?_eq_some_iff
    (indexes : filter.Indexes edits)
    (aliasName : String)
    (entry : FilterEntry) :
    filter.findAlias? aliasName = some entry ↔
      aliasName ≠ "" ∧ FilterEdit.HoldsAlias edits aliasName entry := by
  have throughName : filter.findAlias? aliasName = some entry ↔
      ∃ owner, filter.owner? aliasName = some owner ∧ filter.findName? owner = some entry :=
    Option.bind_eq_some_iff
  simp only [throughName, indexes.holder, indexes.standing]
  constructor
  · rintro ⟨_, ⟨isAlias, holder, holds, rfl⟩, standing⟩
    cases holds.standing?_eq.symm.trans standing
    exact ⟨isAlias, holds⟩
  · rintro ⟨isAlias, holds⟩
    exact ⟨entry.hardwareName, ⟨isAlias, entry, holds, rfl⟩, holds.standing?_eq⟩

/-- Every name with an entry has been counted once. -/
theorem size_eq
    (indexes : filter.Indexes edits) :
    filter.size = (FilterEdit.standingNames edits).card := by
  have sameKeys :
      (filter.byName.toList.map (·.1)).toFinset =
        (FilterEdit.standingNames edits).image Text.utf8 := by
    ext key
    simp only [List.mem_toFinset, List.mem_map, Prod.exists, exists_and_right, exists_eq_right,
      Finset.mem_image, FilterEdit.mem_standingNames_iff, ← indexes.standing,
      indexes.byName.mem_toList_iff]
    constructor
    · rintro ⟨entry, found⟩
      obtain rfl := indexes.named found
      exact ⟨entry.hardwareName, ⟨entry, found⟩, rfl⟩
    · rintro ⟨hardwareName, ⟨entry, found⟩, rfl⟩
      exact ⟨entry, found⟩
  calc
    filter.size
    _ = (filter.byName.toList.map (·.1)).length := by
        rw [size, BucketMap.size, indexes.byName.counted, List.length_map]
    _ = (FilterEdit.standingNames edits).card := by
        rw [← List.toFinset_card_of_nodup indexes.byName.nodup_keys, sameKeys,
          Finset.card_image_of_injective _ Text.utf8_injective]

/-- A filter that indexes a history reflects it. -/
theorem reflects
    (indexes : filter.Indexes edits) :
    filter.Reflects filter.defaultSendEvents filter.defaultReceiveCommands edits where
  findName := indexes.standing
  findAlias := indexes.findAlias?_eq_some_iff
  findAlias_none := by
    intro aliasName
    simp only [Option.eq_none_iff_forall_ne_some, ne_eq, indexes.findAlias?_eq_some_iff, not_and,
      or_iff_not_imp_left]
    exact ⟨fun noEntry isAlias entry => noEntry entry isAlias,
      fun noHolder entry isAlias => noHolder isAlias entry⟩
  sendsEvents := by
    intro hardwareName
    rw [← indexes.standing, Filter.sendsEvents]
    rcases filter.findName? hardwareName with _ | entry <;> rfl
  receivesCommands := by
    intro hardwareName
    rw [← indexes.standing, Filter.receivesCommands]
    rcases filter.findName? hardwareName with _ | entry <;> rfl
  size := indexes.size_eq

end Indexes

/-- A change of the entries leaves the defaults alone. -/
theorem defaults_edit
    (filter : Filter)
    (edit : FilterEdit) :
    (filter.edit edit).defaultSendEvents = filter.defaultSendEvents ∧
      (filter.edit edit).defaultReceiveCommands = filter.defaultReceiveCommands := by
  cases edit
  all_goals
    simp only [Filter.edit, Filter.insert, Filter.remove, forgetAlias, claimAlias]
    repeat' split
  all_goals exact ⟨rfl, rfl⟩

/-- Edits leave the defaults alone. -/
theorem defaults_edited
    (filter : Filter)
    (edits : List FilterEdit) :
    (filter.edited edits).defaultSendEvents = filter.defaultSendEvents ∧
      (filter.edited edits).defaultReceiveCommands = filter.defaultReceiveCommands := by
  induction edits using List.reverseRecOn with
  | nil =>
      exact ⟨rfl, rfl⟩
  | append_singleton edits last inductionHypothesis =>
      obtain ⟨sameSend, sameReceive⟩ := defaults_edit (filter.edited edits) last
      rw [edited_concat]
      exact ⟨sameSend.trans inductionHypothesis.1, sameReceive.trans inductionHypothesis.2⟩

/--
Whatever entries are inserted and removed, a filter answers what the history says, and so
does one that settings describe, where the history is the list of their entries.
-/
theorem indexes_reflect_edits :
    (∀ name sendEvents receiveCommands edits,
      ((withDefaults name sendEvents receiveCommands).edited edits).Reflects
        sendEvents receiveCommands edits) ∧
    ∀ settings : FilterSettings,
      (ofSettings settings).Reflects settings.sendEvents settings.receiveCommands
        (settings.entries.map .insert) := by
  have reflects : ∀ name sendEvents receiveCommands edits,
      ((withDefaults name sendEvents receiveCommands).edited edits).Reflects
        sendEvents receiveCommands edits := by
    intro name sendEvents receiveCommands edits
    have indexes := (Indexes.withDefaults name sendEvents receiveCommands).edited edits
    obtain ⟨sameSend, sameReceive⟩ :=
      defaults_edited (withDefaults name sendEvents receiveCommands) edits
    have follows := indexes.reflects
    rwa [sameSend, sameReceive] at follows
  refine ⟨reflects, ?_⟩
  intro settings
  rw [ofSettings_eq_edited]
  exact reflects _ _ _ _

/-- An alias that was taken over outlives its former owner and goes with its last one. -/
example :
    let filter := (withDefaults "reception" true false).edited
      [.insert ⟨"dcp1", "desk", true, true⟩, .insert ⟨"dcp2", "desk", true, false⟩,
        .insert ⟨"dcp1", "lobby", false, true⟩, .remove "dcp1"]
    (filter.findAlias? "desk").map (·.hardwareName) = some "dcp2" ∧
      filter.findAlias? "lobby" = none ∧
      (filter.edit (.remove "dcp2")).findAlias? "desk" = none := by
  decide +kernel

end Filter

end StationLink
