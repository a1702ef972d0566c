import StationLink.Text.Utf8

namespace StationLink

/-!
# Maps over byte strings

A `BucketMap` is a finite map whose keys are byte strings. Entries are spread
over a fixed number of buckets by the 64-bit FNV-1a hash of their key. Within a
bucket a new entry goes last, and a removed entry's place is taken by the last
one. The entries of a map are listed bucket by bucket. How many there are is not
found by listing them: a counter goes with every entry that comes or goes.
-/

/-- A byte string that a map is searched by. -/
abbrev MapKey : Type := List UInt8

/-- The 64-bit FNV-1a hash of a byte string. -/
def fnv1a (key : MapKey) : UInt64 :=
  key.foldl (fun hash byte => (hash ^^^ byte.toUInt64) * 0x100000001b3) 0xcbf29ce484222325

/-- One bucket: entries whose keys share a hash remainder. -/
abbrev Bucket (α : Type) : Type :=
  List (MapKey × α)

namespace Bucket

variable {α : Type}

/-- The value under a key. -/
def get? (bucket : Bucket α) (key : MapKey) : Option α :=
  List.lookup key bucket

/-- Put a value under a key, in the place of the old one or else at the end. -/
def insert (bucket : Bucket α) (key : MapKey) (value : α) : Bucket α :=
  match bucket with
  | [] => [(key, value)]
  | entry :: rest =>
      if entry.1 = key then
        (key, value) :: rest
      else
        entry :: insert rest key value

/-- Remove the entry under a key and put the last entry in its place. -/
def erase (bucket : Bucket α) (key : MapKey) : Bucket α :=
  match bucket with
  | [] => []
  | entry :: rest =>
      if entry.1 = key then
        match rest.getLast? with
        | none => []
        | some last => last :: rest.dropLast
      else
        entry :: erase rest key

end Bucket

/-- A finite map over byte strings. -/
structure BucketMap (α : Type) where
  buckets : Array (Bucket α)
  buckets_nonempty : 0 < buckets.size
  /-- How many entries have come and not gone. -/
  count : Nat

namespace BucketMap

variable {α : Type}

/-- The number of buckets of a map for which none was chosen. -/
def defaultCapacity : Nat := 64

/-- The empty map with a given number of buckets, of which there must be one. -/
def ofCapacity? (capacity : Nat) : Option (BucketMap α) :=
  if positive : 0 < capacity then
    some {
      buckets := Array.replicate capacity []
      buckets_nonempty := by simpa using positive
      count := 0
    }
  else
    none

/-- The empty map with the default number of buckets. -/
def empty : BucketMap α where
  buckets := Array.replicate defaultCapacity []
  buckets_nonempty := by simp [defaultCapacity]
  count := 0

/-- The number of buckets. -/
def capacity (map : BucketMap α) : Nat :=
  map.buckets.size

/-- The bucket that a key belongs to. -/
def bucketOf (map : BucketMap α) (key : MapKey) : Fin map.buckets.size :=
  ⟨(fnv1a key).toNat % map.buckets.size, Nat.mod_lt _ map.buckets_nonempty⟩

/-- The value under a key. -/
def get? (map : BucketMap α) (key : MapKey) : Option α :=
  map.buckets[map.bucketOf key].get? key

/-- Whether there is a value under a key. -/
def contains (map : BucketMap α) (key : MapKey) : Bool :=
  (map.get? key).isSome

/-- Change the bucket that a key belongs to. -/
def modifyBucket
    (map : BucketMap α)
    (key : MapKey)
    (change : Bucket α → Bucket α) :
    BucketMap α :=
  let index := map.bucketOf key
  { map with
    buckets := map.buckets.set index (change map.buckets[index])
    buckets_nonempty := by simpa using map.buckets_nonempty }

/-- Put a value under a key; an entry comes if there was none. -/
def insert (map : BucketMap α) (key : MapKey) (value : α) : BucketMap α :=
  { map.modifyBucket key fun bucket => bucket.insert key value with
    count := if map.contains key then map.count else map.count + 1 }

/-- Remove the value under a key; an entry goes if there was one. -/
def erase (map : BucketMap α) (key : MapKey) : BucketMap α :=
  { map.modifyBucket key fun bucket => bucket.erase key with
    count := if map.contains key then map.count - 1 else map.count }

/-- Put a value under a key, or remove it, and hand back the old value. -/
def put (map : BucketMap α) (key : MapKey) : Option α → BucketMap α × Option α
  | some value => (map.insert key value, map.get? key)
  | none => (map.erase key, map.get? key)

/-- Change the value under a key if there is one, and hand back the old value. -/
def update
    (map : BucketMap α)
    (key : MapKey)
    (change : α → α) :
    BucketMap α × Option α :=
  match map.get? key with
  | some value => (map.insert key (change value), some value)
  | none => (map, none)

/-- Every entry, bucket by bucket. -/
def toList (map : BucketMap α) : List (MapKey × α) :=
  map.buckets.toList.flatten

/-- The number of entries. -/
def size (map : BucketMap α) : Nat :=
  map.count

/-- Whether there is no entry. -/
def isEmpty (map : BucketMap α) : Bool :=
  map.count == 0

/-- How a visit of the entries ended. -/
inductive VisitStatus where
  | completed
  | stopped
  deriving Repr, DecidableEq

/-- Show entries to a visitor one by one until it has seen enough. -/
def visitEntries
    {σ : Type}
    (visitor : σ → MapKey × α → σ × Bool) :
    List (MapKey × α) → σ → σ × VisitStatus
  | [], state => (state, .completed)
  | entry :: rest, state =>
      match visitor state entry with
      | (next, true) => visitEntries visitor rest next
      | (next, false) => (next, .stopped)

/-- Show the entries to a visitor, which says after each whether to go on. -/
def visit
    {σ : Type}
    (map : BucketMap α)
    (visitor : σ → MapKey × α → σ × Bool)
    (state : σ) :
    σ × VisitStatus :=
  visitEntries visitor map.toList state

end BucketMap

end StationLink
