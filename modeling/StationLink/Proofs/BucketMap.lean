import Mathlib.Data.List.Nodup
import StationLink.BucketMap
import StationLink.Proofs.AssociationList

namespace StationLink

/-!
# What a bucket map holds

A bucket map is described by what is found under each key. Where an entry is
erased the last one of its bucket takes its place, so that later entries may come
to stand in front of earlier ones. That makes no difference as long as no key
occurs twice in a bucket and every entry is in the bucket of its key
(`BucketMap.Placed`). Every change keeps that, and keeps the counter right
(`BucketMap.WellFormed`).
-/

namespace Bucket

open AssociationList

variable {α : Type}

/-- The keys of a bucket, in order. -/
def keys (bucket : Bucket α) : List MapKey :=
  bucket.map (·.1)

/-- Inserting a value changes what is found under its key only. -/
theorem get?_insert
    (bucket : Bucket α)
    (key other : MapKey)
    (value : α) :
    (bucket.insert key value).get? other =
      if other = key then some value else bucket.get? other := by
  induction bucket with
  | nil =>
      exact lookup_cons_eq_ite other key value []
  | cons entry rest inductionHypothesis =>
      obtain ⟨first, held⟩ := entry
      by_cases isKey : first = key
      · subst first
        simp only [insert, if_true, get?, lookup_cons_eq_ite]
        split <;> rfl
      · simp only [get?] at inductionHypothesis
        simp only [insert, if_neg isKey, get?, lookup_cons_eq_ite, inductionHypothesis]
        by_cases isFirst : other = first
        · simp [isFirst, isKey]
        · simp [isFirst]

/-- What is in a bucket after a value was put there is the new entry or was there before. -/
theorem mem_insert
    {bucket : Bucket α}
    {key : MapKey}
    {value : α}
    {entry : MapKey × α}
    (member : entry ∈ bucket.insert key value) :
    entry.1 = key ∨ entry ∈ bucket := by
  induction bucket with
  | nil =>
      exact Or.inl (congrArg Prod.fst (List.mem_singleton.mp member))
  | cons first rest inductionHypothesis =>
      simp only [insert] at member
      split at member
      · rcases List.mem_cons.mp member with isNew | isLater
        · exact Or.inl (congrArg Prod.fst isNew)
        · exact Or.inr (List.mem_cons_of_mem first isLater)
      · rcases List.mem_cons.mp member with isFirst | isLater
        · exact Or.inr (isFirst ▸ List.mem_cons_self)
        · exact (inductionHypothesis isLater).imp_right (List.mem_cons_of_mem first)

/-- A bucket grows if there was no value under the key. -/
theorem length_insert
    (bucket : Bucket α)
    (key : MapKey)
    (value : α) :
    (bucket.insert key value).length =
      bucket.length + if (bucket.get? key).isSome then 0 else 1 := by
  induction bucket with
  | nil =>
      rfl
  | cons entry rest inductionHypothesis =>
      obtain ⟨first, held⟩ := entry
      by_cases isKey : first = key
      · simp [insert, get?, isKey]
      · simp only [get?] at inductionHypothesis
        simp only [insert, if_neg isKey, get?, lookup_cons_eq_ite, if_neg (Ne.symm isKey),
          List.length_cons, inductionHypothesis]
        exact Nat.add_right_comm _ _ 1

/-- Inserting a value leaves every key in a bucket once. -/
theorem nodup_keys_insert
    {bucket : Bucket α}
    (nodup : bucket.keys.Nodup)
    (key : MapKey)
    (value : α) :
    (bucket.insert key value).keys.Nodup := by
  induction bucket with
  | nil =>
      exact List.nodup_cons.mpr ⟨List.not_mem_nil, List.nodup_nil⟩
  | cons first rest inductionHypothesis =>
      obtain ⟨notLater, restNodup⟩ := List.nodup_cons.mp nodup
      simp only [insert]
      split
      · next isKey =>
          rw [← isKey]
          exact nodup
      · next notKey =>
          refine List.nodup_cons.mpr ⟨?_, inductionHypothesis restNodup⟩
          intro isLater
          obtain ⟨entry, member, sameKey⟩ := List.mem_map.mp isLater
          rcases mem_insert member with isKey | wasLater
          · exact notKey (sameKey.symm.trans isKey)
          · exact notLater (List.mem_map.mpr ⟨entry, wasLater, sameKey⟩)

/-- A bucket shrinks if there was a value under the key. -/
theorem length_erase
    (bucket : Bucket α)
    (key : MapKey) :
    (bucket.erase key).length + (if (bucket.get? key).isSome then 1 else 0) =
      bucket.length := by
  induction bucket with
  | nil =>
      rfl
  | cons entry rest inductionHypothesis =>
      obtain ⟨first, held⟩ := entry
      by_cases isKey : first = key
      · simp only [erase, if_pos isKey, get?, lookup_cons_eq_ite, if_pos isKey.symm,
          Option.isSome_some, if_true, List.length_cons]
        cases ends : rest.getLast? with
        | none =>
            rw [List.getLast?_eq_none_iff.mp ends]
        | some last =>
            obtain ⟨others, shape⟩ := List.getLast?_eq_some_iff.mp ends
            rw [shape, List.dropLast_concat, List.length_append]
            rfl
      · simp only [get?] at inductionHypothesis
        simp only [erase, if_neg isKey, get?, lookup_cons_eq_ite, if_neg (Ne.symm isKey),
          List.length_cons, ← inductionHypothesis]
        exact Nat.add_right_comm _ 1 _

/-- Erasing leaves the entries of other keys, in some order. -/
theorem perm_erase
    {bucket : Bucket α}
    (nodup : bucket.keys.Nodup)
    (key : MapKey) :
    (bucket.erase key).Perm (bucket.filter fun entry => entry.1 ≠ key) := by
  induction bucket with
  | nil =>
      exact List.Perm.refl []
  | cons first rest inductionHypothesis =>
      obtain ⟨notLater, restNodup⟩ := List.nodup_cons.mp nodup
      simp only [erase]
      split
      · next isKey =>
          have othersKept :
              (first :: rest).filter (fun entry => entry.1 ≠ key) = rest := by
            rw [List.filter_cons_of_neg (by simpa using isKey), List.filter_eq_self]
            intro entry member
            simp only [decide_not, Bool.not_eq_true', decide_eq_false_iff_not]
            intro sameKey
            exact notLater
              (List.mem_map.mpr ⟨entry, member, sameKey.trans isKey.symm⟩)
          rw [othersKept]
          -- The last entry moves to the front; nothing else changes.
          cases ends : rest.getLast? with
          | none =>
              rw [List.getLast?_eq_none_iff.mp ends]
          | some last =>
              obtain ⟨others, shape⟩ := List.getLast?_eq_some_iff.mp ends
              rw [shape, List.dropLast_concat]
              exact (List.perm_append_singleton last others).symm
      · next notKey =>
          rw [List.filter_cons_of_pos (by simpa using notKey)]
          exact (inductionHypothesis restNodup).cons first

/-- Erasing a key leaves every other key in a bucket once. -/
theorem nodup_keys_erase
    {bucket : Bucket α}
    (nodup : bucket.keys.Nodup)
    (key : MapKey) :
    (bucket.erase key).keys.Nodup := by
  have sameKeys := (perm_erase nodup key).map Prod.fst
  have areKeys :
      ((bucket.filter fun entry => entry.1 ≠ key).map Prod.fst).Sublist bucket.keys :=
    List.filter_sublist.map Prod.fst
  exact sameKeys.nodup_iff.mpr (areKeys.nodup nodup)

/-- Erasing a key changes what is found under that key only. -/
theorem get?_erase
    {bucket : Bucket α}
    (nodup : bucket.keys.Nodup)
    (key other : MapKey) :
    (bucket.erase key).get? other =
      if other = key then none else bucket.get? other := by
  rw [get?, lookup_eq_of_perm (perm_erase nodup key) (nodup_keys_erase nodup key) other,
    lookup_filter_ne]
  rfl

end Bucket

namespace BucketMap

open AssociationList

variable {α : Type}

/-- No key occurs twice, and every entry is in the bucket of its key. -/
structure Placed (map : BucketMap α) : Prop where
  nodup :
    ∀ index (isBelow : index < map.buckets.size), (map.buckets[index].keys).Nodup
  inPlace :
    ∀ index (isBelow : index < map.buckets.size), ∀ entry ∈ map.buckets[index],
      (map.bucketOf entry.1).val = index

/-- The entries are where they are looked for, and they have been counted. -/
structure WellFormed (map : BucketMap α) : Prop extends Placed map where
  counted : map.count = map.toList.length

/-- The entries are what is found. -/
theorem Placed.mem_toList_iff
    {map : BucketMap α}
    (placed : map.Placed)
    (key : MapKey)
    (value : α) :
    (key, value) ∈ map.toList ↔ map.get? key = some value := by
  have found : map.get? key = some value ↔ (key, value) ∈ map.buckets[(map.bucketOf key).val] :=
    lookup_eq_some_iff_mem (placed.nodup _ (map.bucketOf key).isLt) key value
  rw [found, toList, List.mem_flatten]
  constructor
  · rintro ⟨bucket, isBucket, member⟩
    obtain ⟨index, isBelow, isIndex⟩ := List.mem_iff_getElem.mp isBucket
    subst bucket
    have samePlace := placed.inPlace index isBelow (key, value) member
    simp only [← samePlace] at member
    exact member
  · intro member
    exact ⟨_, Array.getElem_mem_toList _, member⟩

/-- No key is listed twice, since a key has only one bucket. -/
theorem Placed.nodup_keys
    {map : BucketMap α}
    (placed : map.Placed) :
    (map.toList.map (·.1)).Nodup := by
  rw [toList, List.map_flatten, List.nodup_flatten]
  constructor
  · intro keys areKeys
    obtain ⟨bucket, isBucket, rfl⟩ := List.mem_map.mp areKeys
    obtain ⟨index, isBelow, isIndex⟩ := List.mem_iff_getElem.mp isBucket
    subst bucket
    exact placed.nodup index isBelow
  · rw [List.pairwise_map, List.pairwise_iff_getElem]
    intro first second isBelow isBelowToo isEarlier key inFirst inSecond
    obtain ⟨one, isOne, rfl⟩ := List.mem_map.mp inFirst
    obtain ⟨other, isOther, sameKey⟩ := List.mem_map.mp inSecond
    have firstPlace := placed.inPlace first isBelow one isOne
    have secondPlace := placed.inPlace second isBelowToo other isOther
    rw [sameKey, firstPlace] at secondPlace
    exact Nat.ne_of_lt isEarlier secondPlace

/-! ## Changes -/

/-- Only the keys that share the bucket that is changed are concerned. -/
theorem get?_modifyBucket
    (map : BucketMap α)
    (key : MapKey)
    {other : MapKey}
    (change : Bucket α → Bucket α)
    {index : Nat}
    (isBelow : index < map.buckets.size)
    (isPlace : (map.bucketOf other).val = index) :
    (map.modifyBucket key change).get? other =
      if (map.bucketOf key).val = index then
        (change map.buckets[index]).get? other
      else
        map.get? other := by
  subst index
  simp only [get?, modifyBucket, bucketOf, Array.size_set, Fin.getElem_fin, Array.getElem_set]
  by_cases same :
      (fnv1a key).toNat % map.buckets.size = (fnv1a other).toNat % map.buckets.size
  · simp [same]
  · simp [same]

/-- In the list of entries nothing but the bucket that is changed is replaced. -/
theorem exists_toList_modifyBucket
    (map : BucketMap α)
    (key : MapKey)
    (change : Bucket α → Bucket α)
    {index : Nat}
    (isBelow : index < map.buckets.size)
    (isPlace : (map.bucketOf key).val = index) :
    ∃ before after, map.toList = before ++ map.buckets[index] ++ after ∧
      (map.modifyBucket key change).toList =
        before ++ change map.buckets[index] ++ after := by
  subst index
  refine ⟨(map.buckets.toList.take (map.bucketOf key).val).flatten,
    (map.buckets.toList.drop ((map.bucketOf key).val + 1)).flatten, ?_, ?_⟩
  · rw [toList]
    have split := List.take_append_drop (map.bucketOf key).val map.buckets.toList
    rw [List.drop_eq_getElem_cons isBelow] at split
    rw [← congrArg List.flatten split, List.flatten_append, List.flatten_cons,
      ← List.append_assoc]
    rfl
  · have isListed : (map.bucketOf key).val < map.buckets.toList.length := isBelow
    simp only [toList, modifyBucket, Array.toList_set, Fin.getElem_fin]
    rw [List.set_eq_take_append_cons_drop, if_pos isListed, List.flatten_append,
      List.flatten_cons, ← List.append_assoc]

/-- Entries stay in their places when a bucket is changed under the key of its place. -/
theorem Placed.modifyBucket
    {map : BucketMap α}
    (placed : map.Placed)
    (key : MapKey)
    {change : Bucket α → Bucket α}
    (nodup : ∀ bucket : Bucket α, bucket.keys.Nodup → (change bucket).keys.Nodup)
    (members : ∀ bucket : Bucket α, bucket.keys.Nodup → ∀ entry ∈ change bucket,
      entry.1 = key ∨ entry ∈ bucket) :
    (map.modifyBucket key change).Placed := by
  constructor
  · intro index isBelow
    simp only [BucketMap.modifyBucket, Array.size_set] at isBelow
    simp only [BucketMap.modifyBucket, Array.getElem_set]
    split
    · exact nodup _ (placed.nodup _ (map.bucketOf key).isLt)
    · exact placed.nodup index isBelow
  · intro index isBelow entry member
    simp only [BucketMap.modifyBucket, Array.size_set] at isBelow
    simp only [BucketMap.modifyBucket, Array.getElem_set] at member
    simp only [BucketMap.modifyBucket, bucketOf, Array.size_set]
    split at member
    · next isChanged =>
        have changedNodup := placed.nodup _ (map.bucketOf key).isLt
        rcases members _ changedNodup entry member with isKey | wasThere
        · rw [isKey]
          exact isChanged
        · have samePlace := placed.inPlace _ (map.bucketOf key).isLt entry wasThere
          exact samePlace.trans isChanged
    · exact placed.inPlace index isBelow entry member

/-- Inserting a value into a map changes what is found under its key only. -/
@[simp] theorem get?_insert
    (map : BucketMap α)
    (key other : MapKey)
    (value : α) :
    (map.insert key value).get? other =
      if other = key then some value else map.get? other := by
  have ofPlace := get?_modifyBucket map key
    (fun bucket => bucket.insert key value) (map.bucketOf other).isLt rfl
  rw [Bucket.get?_insert] at ofPlace
  refine ofPlace.trans ?_
  by_cases same : other = key
  · simp [same]
  · simp [same, get?]

/-- A key is contained if it is found in the bucket of its place. -/
theorem isSome_get?_place
    (map : BucketMap α)
    (key : MapKey)
    {index : Nat}
    (isBelow : index < map.buckets.size)
    (isPlace : (map.bucketOf key).val = index) :
    (map.buckets[index].get? key).isSome = map.contains key := by
  subst index
  rfl

/-- Inserting a value keeps a map well-formed. -/
theorem WellFormed.insert
    {map : BucketMap α}
    (wellFormed : map.WellFormed)
    (key : MapKey)
    (value : α) :
    (map.insert key value).WellFormed := by
  let change := fun bucket : Bucket α => bucket.insert key value
  have placed : (map.modifyBucket key change).Placed :=
    wellFormed.modifyBucket key
      (fun _ nodup => Bucket.nodup_keys_insert nodup key value)
      (fun _ _ _ member => Bucket.mem_insert member)
  refine ⟨⟨placed.nodup, placed.inPlace⟩, ?_⟩
  have isBelow := (map.bucketOf key).isLt
  obtain ⟨before, after, wasList, isList⟩ := exists_toList_modifyBucket map key change isBelow rfl
  have counted := wellFormed.counted
  have grown := Bucket.length_insert map.buckets[(map.bucketOf key).val] key value
  rw [isSome_get?_place map key isBelow rfl] at grown
  calc
    (map.insert key value).count
    _ = map.toList.length + if map.contains key then 0 else 1 := by
        rw [← counted, BucketMap.insert]
        split <;> rfl
    _ = (map.modifyBucket key change).toList.length := by
        rw [wasList, isList]
        simp only [List.length_append, change, grown]
        omega

/-- Erasing a key of a map changes what is found under that key only. -/
theorem get?_erase
    {map : BucketMap α}
    (placed : map.Placed)
    (key other : MapKey) :
    (map.erase key).get? other =
      if other = key then none else map.get? other := by
  have placeNodup := placed.nodup _ (map.bucketOf other).isLt
  have ofPlace := get?_modifyBucket map key
    (fun bucket => bucket.erase key) (map.bucketOf other).isLt rfl
  rw [Bucket.get?_erase placeNodup] at ofPlace
  refine ofPlace.trans ?_
  by_cases same : other = key
  · simp [same]
  · simp [same, get?]

/-- Erasing a key keeps a map well-formed. -/
theorem WellFormed.erase
    {map : BucketMap α}
    (wellFormed : map.WellFormed)
    (key : MapKey) :
    (map.erase key).WellFormed := by
  let change := fun bucket : Bucket α => bucket.erase key
  have placed : (map.modifyBucket key change).Placed := by
    apply wellFormed.modifyBucket key
    · intro bucket nodup
      exact Bucket.nodup_keys_erase nodup key
    · intro bucket nodup entry member
      have kept := (Bucket.perm_erase nodup key).mem_iff.mp member
      exact Or.inr (List.mem_filter.mp kept).1
  refine ⟨⟨placed.nodup, placed.inPlace⟩, ?_⟩
  have isBelow := (map.bucketOf key).isLt
  obtain ⟨before, after, wasList, isList⟩ := exists_toList_modifyBucket map key change isBelow rfl
  have counted := wellFormed.counted
  have shrunk := Bucket.length_erase map.buckets[(map.bucketOf key).val] key
  rw [isSome_get?_place map key isBelow rfl] at shrunk
  calc
    (map.erase key).count
    _ = map.toList.length - if map.contains key then 1 else 0 := by
        rw [← counted, BucketMap.erase]
        split <;> rfl
    _ = (map.modifyBucket key change).toList.length := by
        rw [wasList, isList]
        simp only [List.length_append, change, ← shrunk]
        omega

/-! ## Maps without entries -/

/-- No bucket holds an entry, and none was counted. -/
structure Vacant (map : BucketMap α) : Prop where
  vacant : ∀ index (isBelow : index < map.buckets.size), map.buckets[index] = []
  uncounted : map.count = 0

/-- A new map is vacant, whatever the number of buckets chosen for it. -/
theorem vacant_of_capacity
    (capacity : Nat) :
    ((ofCapacity? capacity).getD (empty : BucketMap α)).Vacant := by
  by_cases positive : 0 < capacity
  · constructor
    · simp [ofCapacity?, positive]
    · simp [ofCapacity?, positive]
  · constructor
    · simp [ofCapacity?, positive, empty]
    · simp [ofCapacity?, positive, empty]

namespace Vacant

variable {map : BucketMap α}

/-- A vacant map lists no entry. -/
theorem toList
    (isVacant : map.Vacant) :
    map.toList = [] := by
  rw [BucketMap.toList, List.flatten_eq_nil_iff]
  intro bucket isBucket
  obtain ⟨index, isBelow, rfl⟩ := List.mem_iff_getElem.mp isBucket
  exact isVacant.vacant index isBelow

/-- A vacant map is well-formed, whatever its capacity. -/
theorem wellFormed
    (isVacant : map.Vacant) :
    map.WellFormed := by
  refine ⟨⟨?_, ?_⟩, ?_⟩
  · intro index isBelow
    rw [isVacant.vacant index isBelow]
    exact List.nodup_nil
  · intro index isBelow entry member
    rw [isVacant.vacant index isBelow] at member
    cases member
  · rw [isVacant.uncounted, isVacant.toList]
    rfl

/-- Nothing is found in a vacant map. -/
theorem get?
    (isVacant : map.Vacant)
    (key : MapKey) :
    map.get? key = none := by
  rw [BucketMap.get?, Fin.getElem_fin, isVacant.vacant]
  rfl

end Vacant

end BucketMap

end StationLink
