import StationLink.Proofs.BucketMap
import StationLink.Proofs.Registration

namespace StationLink.LinkTable

/-!
# The name index

Interfaces may be registered under the same hardware name; the index leads to the
one that took it last. Whatever is done to a table, the index leads to registered
interfaces only and to each under the name it has (`namesAgree_run`).

The way back does not hold. An interface that is forgotten leaves the entry of a
name that another one has taken, but an interface that is renamed erases whatever
is found under its old name (`findName?_add`). So an interface is no longer found
once a former holder of its name is renamed (`unfound_after_renaming`).
-/

variable {table : LinkTable}

/-- The hardware name of an interface that is registered with these parameters. -/
def chosenName (id : InterfaceId) (params? : Option InterfaceParams) : String :=
  (params?.bind (·.hardwareName?)).getD (defaultHardwareName id)

theorem hardwareName_of_params
    (id : InterfaceId)
    (params? : Option InterfaceParams)
    (channel : UInt8) :
    (params?.getD { channel }).hardwareName?.getD (defaultHardwareName id) =
      chosenName id params? := by
  cases params? <;> rfl

/-! ## Registering -/

/-- An interface has the name that was last chosen for it, and others keep theirs. -/
theorem hardwareName?_add
    (table : LinkTable)
    (id other : InterfaceId)
    (params? : Option InterfaceParams)
    (now : Nat) :
    (table.add id params? now).hardwareName? other =
      if other = id then some (chosenName id params?) else table.hardwareName? other := by
  by_cases same : other = id
  · subst other
    rw [if_pos rfl, ← hardwareName_of_params id params? table.settings.defaultChannel]
    unfold add
    cases table.get? id with
    | none =>
        rw [hardwareName?, get?_set, if_pos rfl, Option.map_some]
    | some record =>
        rw [hardwareName?, get?_set, if_pos rfl, Option.map_some]
  · rw [if_neg same, hardwareName?, get?_add_of_ne table same, hardwareName?]

/--
An interface that takes a name is found under it, and nothing is found any more
under the name that it had.
-/
theorem get?_names_add
    (wellFormed : table.names.WellFormed)
    (id : InterfaceId)
    (params? : Option InterfaceParams)
    (now : Nat)
    (key : MapKey) :
    (table.add id params? now).names.get? key =
      if table.hardwareName? id = some (chosenName id params?) then
        table.names.get? key
      else if key = Text.utf8 (chosenName id params?) then
        some id
      else if (table.hardwareName? id).map Text.utf8 = some key then
        none
      else
        table.names.get? key := by
  rw [← hardwareName_of_params id params? table.settings.defaultChannel]
  unfold add
  cases found : table.get? id with
  | none =>
      simp only [hardwareName?, found, Option.map_none, reduceCtorEq, if_false]
      exact BucketMap.get?_insert table.names _ key id
  | some record =>
      simp only [hardwareName?, found, Option.map_some, Option.some.injEq]
      split
      · rfl
      · refine (BucketMap.get?_insert _ _ key id).trans ?_
        rw [BucketMap.get?_erase wellFormed.toPlaced]
        simp only [eq_comm]

/-- The same for the names of texts. -/
theorem findName?_add
    (wellFormed : table.names.WellFormed)
    (id : InterfaceId)
    (params? : Option InterfaceParams)
    (now : Nat)
    (name : String) :
    (table.add id params? now).findName? name =
      if table.hardwareName? id = some (chosenName id params?) then
        table.findName? name
      else if name = chosenName id params? then
        some id
      else if table.hardwareName? id = some name then
        none
      else
        table.findName? name := by
  rw [findName?, get?_names_add wellFormed]
  simp only [Text.utf8_injective.eq_iff, Option.map_eq_some_iff, exists_eq_right]
  rfl

/-! ## Forgetting -/

/-- An interface that is forgotten has no name, and others keep theirs. -/
theorem hardwareName?_forget
    (table : LinkTable)
    (id other : InterfaceId) :
    (table.forget id).hardwareName? other =
      if other = id then none else table.hardwareName? other := by
  rw [hardwareName?, get?_forget]
  split <;> rfl

/-- An interface that is forgotten is not found any more; others are found as before. -/
theorem get?_names_forget
    (wellFormed : table.names.WellFormed)
    (id : InterfaceId)
    (key : MapKey) :
    (table.forget id).names.get? key =
      if (table.hardwareName? id).map Text.utf8 = some key ∧
          table.names.get? key = some id then
        none
      else
        table.names.get? key := by
  unfold forget
  cases found : table.get? id with
  | none =>
      simp [hardwareName?, found]
  | some record =>
      simp only [hardwareName?, found, Option.map_some, Option.some.injEq]
      by_cases isOwn : table.names.get? (Text.utf8 record.hardwareName) = some id
      · rw [if_pos isOwn, BucketMap.get?_erase wellFormed.toPlaced]
        by_cases isName : key = Text.utf8 record.hardwareName
        · simp [isName, isOwn]
        · simp [isName, Ne.symm isName]
      · rw [if_neg isOwn, if_neg]
        rintro ⟨isName, isFound⟩
        exact isOwn (isName ▸ isFound)

/-! ## Agreement -/

/--
The index is a map, and what it leads to under some bytes is a registered
interface whose hardware name is spelled by these bytes.
-/
structure Indexed (table : LinkTable) : Prop where
  wellFormed : table.names.WellFormed
  named :
    ∀ {key id}, table.names.get? key = some id →
      (table.hardwareName? id).map Text.utf8 = some key

namespace Indexed

variable {after : LinkTable}

theorem ofSettings
    (settings : LinkSettings) :
    (LinkTable.ofSettings settings).Indexed := by
  have vacant := @BucketMap.vacant_of_capacity InterfaceId settings.nameBuckets
  constructor
  · exact vacant.wellFormed
  · intro key id found
    rw [LinkTable.ofSettings, vacant.get?] at found
    cases found

theorem of_sameRegistration
    (indexed : table.Indexed)
    (same : SameRegistration table after) :
    after.Indexed := by
  constructor
  · rw [same.names]
    exact indexed.wellFormed
  · intro key id found
    rw [same.names] at found
    rw [same.hardwareName?]
    exact indexed.named found

/-- Registering an interface keeps the index of names right. -/
theorem add
    (indexed : table.Indexed)
    (id : InterfaceId)
    (params? : Option InterfaceParams)
    (now : Nat) :
    (table.add id params? now).Indexed := by
  constructor
  · unfold LinkTable.add
    cases table.get? id with
    | none =>
        exact indexed.wellFormed.insert _ id
    | some record =>
        simp only [LinkTable.set]
        split
        · exact indexed.wellFormed
        · exact (indexed.wellFormed.erase _).insert _ id
  · intro key holder found
    rw [get?_names_add indexed.wellFormed] at found
    rw [hardwareName?_add]
    split at found
    · next unchanged =>
        have named := indexed.named found
        split
        · next isId =>
            rw [isId, unchanged] at named
            exact named
        · exact named
    · split at found
      · next isChosen =>
          cases found
          rw [if_pos rfl, Option.map_some, isChosen]
      · split at found
        · cases found
        · next notFormer =>
            have named := indexed.named found
            have notId : holder ≠ id := by
              intro isId
              exact notFormer (isId ▸ named)
            rw [if_neg notId]
            exact named

/-- Forgetting an interface keeps the index of names right. -/
theorem forget
    (indexed : table.Indexed)
    (id : InterfaceId) :
    (table.forget id).Indexed := by
  constructor
  · unfold LinkTable.forget
    cases table.get? id with
    | none =>
        exact indexed.wellFormed
    | some record =>
        simp only
        split
        · exact indexed.wellFormed.erase _
        · exact indexed.wellFormed
  · intro key holder found
    rw [get?_names_forget indexed.wellFormed] at found
    split at found
    · cases found
    · next notForgotten =>
        have named := indexed.named found
        have notId : holder ≠ id := by
          intro isId
          subst holder
          exact notForgotten ⟨named, found⟩
        rw [hardwareName?_forget, if_neg notId]
        exact named

theorem aboutRegistration : AboutRegistration Indexed where
  of_same := fun same indexed => indexed.of_sameRegistration same
  forget := fun id indexed => indexed.forget id

/-- The index of names is right after any operations. -/
theorem run
    (settings : LinkSettings)
    (operations : List Operation) :
    ((LinkTable.ofSettings settings).run operations).1.Indexed :=
  aboutRegistration.run (ofSettings settings) operations
    fun id params? now _ _ indexed => indexed.add id params? now

/-- What a name leads to is registered under that name. -/
theorem hardwareName?_of_findName?
    (indexed : table.Indexed)
    {name : String}
    {id : InterfaceId}
    (found : table.findName? name = some id) :
    table.hardwareName? id = some name := by
  have named := indexed.named found
  obtain ⟨hardwareName, registered, sameBytes⟩ := Option.map_eq_some_iff.mp named
  rw [registered, Text.utf8_injective sameBytes]

/-- Where no interface is registered the index is empty. -/
theorem toList_eq_nil
    (indexed : table.Indexed)
    (noInterface : ∀ id, table.get? id = none) :
    table.names.toList = [] := by
  refine List.eq_nil_iff_forall_not_mem.mpr fun entry member => ?_
  obtain ⟨key, id⟩ := entry
  have named := indexed.named ((indexed.wellFormed.mem_toList_iff key id).mp member)
  rw [hardwareName?, noInterface] at named
  cases named

end Indexed

/-- Only this interface is registered under the name, and it is found there. -/
structure SoleHolder (name : String) (id : InterfaceId) (table : LinkTable) : Prop where
  indexed : table.Indexed
  alone : ∀ {other}, table.hardwareName? other = some name → other = id
  isFound : table.hardwareName? id = some name → table.findName? name = some id

namespace SoleHolder

variable {name : String} {id : InterfaceId}

theorem aboutRegistration : AboutRegistration (SoleHolder name id) where
  of_same := by
    intro table after same sole
    refine ⟨sole.indexed.of_sameRegistration same, ?_, ?_⟩
    · intro other registered
      rw [same.hardwareName?] at registered
      exact sole.alone registered
    · intro registered
      rw [same.hardwareName?] at registered
      rw [findName?, same.names]
      exact sole.isFound registered
  forget := by
    intro table forgotten sole
    refine ⟨sole.indexed.forget forgotten, ?_, ?_⟩
    · intro other registered
      rw [hardwareName?_forget] at registered
      split at registered
      · cases registered
      · exact sole.alone registered
    · intro registered
      rw [hardwareName?_forget] at registered
      split at registered
      · cases registered
      · next isKept =>
          have isFound := sole.isFound registered
          rw [findName?] at isFound
          rw [findName?, get?_names_forget sole.indexed.wellFormed, if_neg]
          · exact isFound
          · rintro ⟨_, isForgotten⟩
            rw [isFound] at isForgotten
            exact isKept (Option.some.inj isForgotten)

/-- Other interfaces may be registered under other names. -/
theorem add
    (sole : SoleHolder name id table)
    (other : InterfaceId)
    (params? : Option InterfaceParams)
    (now : Nat)
    (uncontested : chosenName other params? = name → other = id) :
    SoleHolder name id (table.add other params? now) := by
  refine ⟨sole.indexed.add other params? now, ?_, ?_⟩
  · intro holder registered
    rw [hardwareName?_add] at registered
    split at registered
    · next isOther =>
        rw [isOther]
        exact uncontested (Option.some.inj registered)
    · exact sole.alone registered
  · intro registered
    rw [hardwareName?_add] at registered
    rw [findName?_add sole.indexed.wellFormed]
    split
    · next unchanged =>
        apply sole.isFound
        split at registered
        · next isOther =>
            rw [isOther, unchanged]
            exact registered
        · exact registered
    · split
      · next isChosen =>
          rw [uncontested isChosen.symm]
      · next notChosen =>
          have notOther : id ≠ other := by
            intro isOther
            rw [if_pos isOther] at registered
            exact notChosen (Option.some.inj registered).symm
          rw [if_neg notOther] at registered
          rw [if_neg]
          · exact sole.isFound registered
          · intro alsoOther
            exact notOther (sole.alone alsoOther).symm

end SoleHolder

/-- No other interface is ever registered under the name. -/
def Uncontested (name : String) (id : InterfaceId) (operations : List Operation) : Prop :=
  ∀ other params? now, .add other params? now ∈ operations →
    chosenName other params? = name → other = id

/-- The index leads to registered interfaces only, and to each under its name. -/
structure NamesAgree (table : LinkTable) : Prop where
  registered :
    ∀ {name id}, table.findName? name = some id → table.hardwareName? id = some name
  name_unique :
    ∀ {one other id}, table.findName? one = some id → table.findName? other = some id →
      one = other
  empty_of_no_interface :
    (∀ id, table.get? id = none) → table.names.toList = []

/--
After any operations the index and the interfaces agree, and an interface is
found under its name if no other one ever had it.
-/
theorem namesAgree_run
    (settings : LinkSettings)
    (operations : List Operation) :
    let table := ((ofSettings settings).run operations).1
    table.NamesAgree ∧
      ∀ name id, Uncontested name id operations → table.hardwareName? id = some name →
        table.findName? name = some id := by
  intro table
  have indexed : table.Indexed := .run settings operations
  refine ⟨⟨indexed.hardwareName?_of_findName?, ?_, indexed.toList_eq_nil⟩, ?_⟩
  · intro one other id foundOne foundOther
    have isOne := indexed.hardwareName?_of_findName? foundOne
    rw [indexed.hardwareName?_of_findName? foundOther] at isOne
    exact (Option.some.inj isOne).symm
  · intro name id uncontested registered
    have empty : SoleHolder name id (ofSettings settings) :=
      ⟨.ofSettings settings, nofun, nofun⟩
    have sole := SoleHolder.aboutRegistration.run empty operations
      fun other params? now isAdd _ sole =>
        sole.add other params? now (uncontested other params? now isAdd)
    exact sole.isFound registered

/--
What is found under a name is still found there after another interface was
forgotten or was registered under another name, unless that one had the name too
and is renamed: then nothing is found there any more.
-/
theorem findName?_after_other
    (settings : LinkSettings)
    (operations : List Operation)
    {name : String}
    {holder other : InterfaceId}
    (found : ((ofSettings settings).run operations).1.findName? name = some holder)
    (differs : other ≠ holder) :
    let table := ((ofSettings settings).run operations).1
    (∀ params? now, (table.add other params? now).hardwareName? other ≠ some name →
      (table.add other params? now).findName? name =
        if table.hardwareName? other = some name then none else some holder) ∧
      (table.perform (.remove other)).1.findName? name = some holder := by
  intro table
  have indexed : table.Indexed := .run settings operations
  constructor
  · intro params? now notChosen
    rw [hardwareName?_add, if_pos rfl] at notChosen
    rw [findName?_add indexed.wellFormed, found]
    have differsFromChosen : name ≠ chosenName other params? :=
      fun isChosen => notChosen (congrArg some isChosen.symm)
    by_cases unchanged : table.hardwareName? other = some (chosenName other params?)
    · rw [if_pos unchanged, unchanged, if_neg notChosen]
    · rw [if_neg unchanged, if_neg differsFromChosen]
  · have kept : ∀ {after}, SameRegistration table after →
        (after.forget other).findName? name = some holder := by
      intro after same
      have foundAfter : after.names.get? (Text.utf8 name) = some holder := by
        rw [same.names]
        exact found
      rw [findName?, get?_names_forget (indexed.of_sameRegistration same).wellFormed,
        foundAfter, if_neg]
      rintro ⟨_, isOther⟩
      exact differs (Option.some.inj isOther).symm
    simp only [perform, remove, down]
    cases table.get? other with
    | none =>
        exact found
    | some record =>
        exact kept (.shutPolitely table other)

/-- The desk is renamed, or forgotten, after another interface has taken its name. -/
theorem findName?_after_desk_and_lobby :
    let desk : Option InterfaceParams := some { channel := 1, hardwareName? := some "desk" }
    let lobby : Option InterfaceParams := some { channel := 1, hardwareName? := some "lobby" }
    let table := ((ofSettings {}).run [.add 1 desk 0, .add 2 desk 0]).1
    table.findName? "desk" = some 2 ∧ (1 : InterfaceId) ≠ 2 ∧
      (table.add 1 lobby 0).hardwareName? 1 ≠ some "desk" ∧
      (table.add 1 lobby 0).findName? "desk" = none ∧
      (table.perform (.remove 1)).1.findName? "desk" = some 2 := by
  intro desk lobby table
  have found : table.findName? "desk" = some 2 := by
    decide +kernel
  have differs : (1 : InterfaceId) ≠ 2 := by
    decide
  have notChosen : (table.add 1 lobby 0).hardwareName? 1 ≠ some "desk" := by
    decide +kernel
  have hadName : table.hardwareName? 1 = some "desk" := by
    decide +kernel
  rcases findName?_after_other {} [.add 1 desk 0, .add 2 desk 0] found differs with
    ⟨renamed, removed⟩
  exact ⟨found, differs, notChosen, (renamed lobby 0 notChosen).trans (if_pos hadName), removed⟩

/-- Another interface is still called desk, but nothing is found under that name. -/
theorem unfound_after_renaming :
    let desk : Option InterfaceParams := some { channel := 1, hardwareName? := some "desk" }
    let lobby : Option InterfaceParams := some { channel := 1, hardwareName? := some "lobby" }
    let table := ((ofSettings {}).run [.add 1 desk 0, .add 2 desk 0]).1
    let after := table.add 1 lobby 0
    table.findName? "desk" = some 2 ∧ after.hardwareName? 1 = some "lobby" ∧
      after.hardwareName? 2 = some "desk" ∧ after.findName? "desk" = none := by
  decide +kernel

end StationLink.LinkTable
