/-!
# Maps in order of insertion

A map lists its entries in the order in which their keys were first inserted. Writing to a key that
is present replaces its value and keeps its position, so no key occurs twice; the type carries that
fact. The lemmas give the keys and the entries that each operation leaves.
-/

namespace FilterSql

/-- Entries with pairwise distinct keys, in order of insertion. -/
structure OrderedMap (κ α : Type) where
  entries : List (κ × α)
  distinct : (entries.map Prod.fst).Nodup

namespace OrderedMap

variable {κ α : Type}

def keys (map : OrderedMap κ α) : List κ :=
  map.entries.map Prod.fst

def size (map : OrderedMap κ α) : Nat :=
  map.entries.length

def isEmpty (map : OrderedMap κ α) : Bool :=
  map.entries.isEmpty

/-- Maps are equal when they hold equal entries in the same order. -/
instance [BEq κ] [BEq α] : BEq (OrderedMap κ α) :=
  ⟨fun left right => left.entries == right.entries⟩

/-- Maps with the same entries are the same map. -/
@[ext] theorem ext_entries {left right : OrderedMap κ α}
    (same : left.entries = right.entries) : left = right := by
  cases left
  cases right
  cases same
  rfl

theorem keys_nodup (map : OrderedMap κ α) : map.keys.Nodup :=
  map.distinct

/-- The map without entries. -/
def empty : OrderedMap κ α :=
  ⟨[], List.nodup_nil⟩

instance : EmptyCollection (OrderedMap κ α) := ⟨empty⟩

instance : Inhabited (OrderedMap κ α) := ⟨empty⟩

@[simp] theorem entries_empty : (∅ : OrderedMap κ α).entries = [] := rfl

/-- The entries for which a condition holds, in their order. -/
def filter (keep : κ → α → Bool) (map : OrderedMap κ α) : OrderedMap κ α where
  entries := map.entries.filter fun entry => keep entry.1 entry.2
  distinct := map.distinct.sublist (List.filter_sublist.map Prod.fst)

@[simp] theorem entries_filter (keep : κ → α → Bool) (map : OrderedMap κ α) :
    (map.filter keep).entries = map.entries.filter fun entry => keep entry.1 entry.2 := rfl

variable [DecidableEq κ]

/-- Replaces the value of the entry with this key, or appends an entry when there is none. -/
def writeEntry (key : κ) (value : α) : List (κ × α) → List (κ × α)
  | [] => [(key, value)]
  | entry :: rest =>
      if entry.1 = key then (key, value) :: rest
      else entry :: writeEntry key value rest

/-- A write keeps the keys, and appends its own when it is new. -/
theorem keys_writeEntry (key : κ) (value : α) (entries : List (κ × α)) :
    (writeEntry key value entries).map Prod.fst =
      if key ∈ entries.map Prod.fst then entries.map Prod.fst
      else entries.map Prod.fst ++ [key] := by
  induction entries with
  | nil => simp [writeEntry]
  | cons entry rest ih =>
    by_cases found : entry.1 = key
    · simp [writeEntry, found]
    · have other : key ≠ entry.1 := Ne.symm found
      by_cases later : key ∈ rest.map Prod.fst
      · rw [if_pos later] at ih
        rw [writeEntry, if_neg found, List.map_cons, List.map_cons, ih,
          if_pos (List.mem_cons_of_mem _ later)]
      · rw [if_neg later] at ih
        rw [writeEntry, if_neg found, List.map_cons, List.map_cons, ih,
          if_neg (by simp [other, later]), List.cons_append]

theorem nodup_writeEntry {entries : List (κ × α)}
    (distinct : (entries.map Prod.fst).Nodup) (key : κ) (value : α) :
    ((writeEntry key value entries).map Prod.fst).Nodup := by
  rw [keys_writeEntry]
  split
  · exact distinct
  · next absent =>
    rw [List.nodup_append]
    refine ⟨distinct, by simp, ?_⟩
    intro present member appended single equality
    rw [List.mem_singleton] at single
    exact absent (single ▸ equality ▸ member)

/-- Binds a key to a value, in place when the key is present and at the end when it is not. -/
def insert (map : OrderedMap κ α) (key : κ) (value : α) : OrderedMap κ α where
  entries := writeEntry key value map.entries
  distinct := nodup_writeEntry map.distinct key value

theorem keys_insert (map : OrderedMap κ α) (key : κ) (value : α) :
    (map.insert key value).keys =
      if key ∈ map.keys then map.keys else map.keys ++ [key] :=
  keys_writeEntry key value map.entries

/-- Inserts entries from left to right. -/
def insertMany (map : OrderedMap κ α) (entries : List (κ × α)) : OrderedMap κ α :=
  entries.foldl (fun written entry => written.insert entry.1 entry.2) map

@[simp] theorem insertMany_nil (map : OrderedMap κ α) : map.insertMany [] = map := rfl

@[simp] theorem insertMany_cons (map : OrderedMap κ α) (entry : κ × α) (rest : List (κ × α)) :
    map.insertMany (entry :: rest) = (map.insert entry.1 entry.2).insertMany rest := rfl

/-- The map that results from inserting entries from left to right. -/
def ofList (entries : List (κ × α)) : OrderedMap κ α :=
  empty.insertMany entries

/-- This map with the entries of a second one written over it. -/
def merge (map later : OrderedMap κ α) : OrderedMap κ α :=
  map.insertMany later.entries

/-- The value that a key is bound to. -/
def get? (map : OrderedMap κ α) (key : κ) : Option α :=
  map.entries.lookup key

def contains (map : OrderedMap κ α) (key : κ) : Bool :=
  (map.get? key).isSome

/-- A write changes what its own key is bound to and nothing else. -/
theorem lookup_writeEntry (key : κ) (value : α) (entries : List (κ × α)) (sought : κ) :
    (writeEntry key value entries).lookup sought =
      if sought = key then some value else entries.lookup sought := by
  induction entries with
  | nil =>
    by_cases same : sought = key
    · simp [writeEntry, same]
    · simp [writeEntry, List.lookup_cons, same, beq_false_of_ne same]
  | cons entry rest ih =>
    obtain ⟨present, bound⟩ := entry
    by_cases found : present = key
    · by_cases same : sought = key
      · simp [writeEntry, found, same]
      · simp [writeEntry, List.lookup_cons, found, same, beq_false_of_ne same]
    · by_cases here : sought = present
      · simp [writeEntry, here, found]
      · simp [writeEntry, List.lookup_cons, found, ih, beq_false_of_ne here]

theorem get?_insert (map : OrderedMap κ α) (key : κ) (value : α) (sought : κ) :
    (map.insert key value).get? sought =
      if sought = key then some value else map.get? sought :=
  lookup_writeEntry key value map.entries sought

end OrderedMap

end FilterSql
