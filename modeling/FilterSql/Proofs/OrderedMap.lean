import Mathlib.Data.List.Forall2
import Mathlib.Data.List.TakeWhile
import FilterSql.OrderedMap

/-!
# Looking up in ordered maps

A map is determined by its keys in order and by what each key is bound to. The lemmas here say both
of repeated insertion and of merging, so that no later proof opens the list of entries.
-/

namespace FilterSql

/-- Removing repetitions from a list without any changes nothing. -/
theorem eraseDups_of_nodup {α : Type} [DecidableEq α] {items : List α}
    (distinct : items.Nodup) : items.eraseDups = items := by
  induction items with
  | nil => rfl
  | cons first rest inductionHypothesis =>
      obtain ⟨absent, restDistinct⟩ := List.nodup_cons.mp distinct
      have kept : (rest.filter fun other => !other == first) = rest := by
        apply List.filter_eq_self.mpr
        intro other member
        simpa using fun same : other = first => absent (same ▸ member)
      rw [List.eraseDups_cons, kept, inductionHypothesis restDistinct]

namespace OrderedMap

variable {κ α : Type} [DecidableEq κ]

omit [DecidableEq κ] in
@[simp]
theorem keys_empty : (∅ : OrderedMap κ α).keys = [] := rfl

@[simp]
theorem get?_empty (key : κ) : (∅ : OrderedMap κ α).get? key = none := rfl

theorem get?_eq_none_iff {map : OrderedMap κ α} {key : κ} :
    map.get? key = none ↔ key ∉ map.keys := by
  rw [get?, List.lookup_eq_none_iff, keys, List.mem_map]
  constructor
  · rintro absent ⟨entry, member, rfl⟩
    simpa using absent entry member
  · intro absent entry member
    simpa using fun same : key = entry.1 => absent ⟨entry, member, same.symm⟩

theorem mem_keys_iff {map : OrderedMap κ α} {key : κ} :
    key ∈ map.keys ↔ ∃ value, map.get? key = some value := by
  rw [← Option.isSome_iff_exists, ← Option.ne_none_iff_isSome, Ne, get?_eq_none_iff,
    Decidable.not_not]

omit [DecidableEq κ] in
/-- The key of an entry occurs neither before nor after it. -/
theorem absent_of_split {map : OrderedMap κ α} {before after : List (κ × α)} {entry : κ × α}
    (shape : map.entries = before ++ entry :: after) :
    entry.1 ∉ before.map Prod.fst ∧ entry.1 ∉ after.map Prod.fst := by
  have distinct := map.distinct
  rw [shape, List.map_append, List.map_cons, List.nodup_append] at distinct
  obtain ⟨_, tailDistinct, separate⟩ := distinct
  constructor
  · intro earlier
    exact separate _ earlier _ (List.Mem.head _) rfl
  · exact (List.nodup_cons.mp tailDistinct).1

omit [DecidableEq κ] in
theorem ne_of_mem_before {map : OrderedMap κ α} {before after : List (κ × α)}
    {entry earlier : κ × α} (shape : map.entries = before ++ entry :: after)
    (member : earlier ∈ before) : earlier.1 ≠ entry.1 := by
  intro same
  have present : earlier.1 ∈ before.map Prod.fst := List.mem_map_of_mem member
  exact (absent_of_split shape).1 (same ▸ present)

theorem get?_eq_some_iff {map : OrderedMap κ α} {key : κ} {value : α} :
    map.get? key = some value ↔ (key, value) ∈ map.entries := by
  rw [get?, List.lookup_eq_some_iff]
  constructor
  · rintro ⟨before, after, shape, _⟩
    rw [shape]
    exact List.mem_append_right before (List.Mem.head after)
  · intro member
    obtain ⟨before, after, shape⟩ := List.append_of_mem member
    refine ⟨before, after, shape, ?_⟩
    intro entry present
    simpa using (ne_of_mem_before shape present).symm

theorem get?_of_entries_cons {map : OrderedMap κ α} {key : κ} {value : α}
    {later : List (κ × α)} (shape : map.entries = (key, value) :: later) :
    map.get? key = some value := by
  rw [get?_eq_some_iff, shape]
  exact List.Mem.head later

/-- The entries that stand before a key. -/
def before (map : OrderedMap κ α) (key : κ) : OrderedMap κ α where
  entries := map.entries.takeWhile fun entry => entry.1 ≠ key
  distinct := map.distinct.sublist ((List.takeWhile_sublist _).map Prod.fst)

theorem get?_before (map : OrderedMap κ α) (key : κ) : (map.before key).get? key = none := by
  rw [get?_eq_none_iff]
  intro present
  obtain ⟨entry, member, same⟩ := List.mem_map.mp present
  have other := List.mem_takeWhile_imp member
  exact of_decide_eq_true other same

theorem entries_before_of_split {map : OrderedMap κ α} {initial after : List (κ × α)}
    {entry : κ × α} (shape : map.entries = initial ++ entry :: after) :
    (map.before entry.1).entries = initial := by
  have others : ∀ earlier ∈ initial, decide (earlier.1 ≠ entry.1) = true := by
    intro earlier member
    exact decide_eq_true (ne_of_mem_before shape member)
  change map.entries.takeWhile _ = initial
  rw [shape, List.takeWhile_append_of_pos others,
    List.takeWhile_cons_of_neg (by simp), List.append_nil]

theorem exists_entries_eq_before {map : OrderedMap κ α} {key : κ} {value : α}
    (found : map.get? key = some value) :
    ∃ after, map.entries = (map.before key).entries ++ (key, value) :: after := by
  obtain ⟨initial, after, shape⟩ := List.append_of_mem (get?_eq_some_iff.mp found)
  exact ⟨after, by rw [entries_before_of_split shape, shape]⟩

/-- Names are bound in the order in which they first occur. -/
theorem keys_insertMany (map : OrderedMap κ α) (entries : List (κ × α)) :
    (map.insertMany entries).keys = (map.keys ++ entries.map Prod.fst).eraseDups := by
  induction entries generalizing map with
  | nil =>
      rw [insertMany_nil, List.map_nil, List.append_nil, eraseDups_of_nodup map.keys_nodup]
  | cons entry rest inductionHypothesis =>
      rw [insertMany_cons, inductionHypothesis, keys_insert, List.map_cons]
      split
      · next present =>
        rw [List.eraseDups_append, List.eraseDups_append, List.cons_removeAll]
        simp [present]
      · rw [List.append_assoc, List.singleton_append]

theorem get?_insertMany_of_not_mem {map : OrderedMap κ α} {entries : List (κ × α)} {key : κ}
    (absent : key ∉ entries.map Prod.fst) :
    (map.insertMany entries).get? key = map.get? key := by
  induction entries generalizing map with
  | nil => rfl
  | cons entry rest inductionHypothesis =>
      rw [List.map_cons, List.mem_cons, not_or] at absent
      rw [insertMany_cons, inductionHypothesis absent.2, get?_insert, if_neg absent.1]

theorem get?_insertMany_of_mem {map : OrderedMap κ α} {entries : List (κ × α)}
    {key : κ} {value : α} (distinct : (entries.map Prod.fst).Nodup)
    (member : (key, value) ∈ entries) :
    (map.insertMany entries).get? key = some value := by
  induction entries generalizing map with
  | nil => exact absurd member List.not_mem_nil
  | cons entry rest inductionHypothesis =>
      obtain ⟨absent, restDistinct⟩ := List.nodup_cons.mp distinct
      rw [insertMany_cons]
      rcases List.mem_cons.mp member with rfl | later
      · rw [get?_insertMany_of_not_mem absent, get?_insert, if_pos rfl]
      · exact inductionHypothesis restDistinct later

theorem mem_of_get?_insertMany {map : OrderedMap κ α} {entries : List (κ × α)}
    {key : κ} {value : α} (found : (map.insertMany entries).get? key = some value) :
    (key, value) ∈ entries ∨ map.get? key = some value := by
  induction entries generalizing map with
  | nil => exact Or.inr found
  | cons entry rest inductionHypothesis =>
      rcases inductionHypothesis found with later | earlier
      · exact Or.inl (List.Mem.tail entry later)
      · rw [get?_insert] at earlier
        split at earlier
        · next same =>
          have here : (key, value) = entry := Prod.ext same (Option.some.inj earlier).symm
          exact Or.inl (here ▸ List.Mem.head rest)
        · exact Or.inr earlier

theorem entries_insert_of_not_mem {map : OrderedMap κ α} {key : κ} (absent : key ∉ map.keys)
    (value : α) : (map.insert key value).entries = map.entries ++ [(key, value)] := by
  obtain ⟨entries, distinct⟩ := map
  change key ∉ entries.map Prod.fst at absent
  change writeEntry key value entries = entries ++ [(key, value)]
  clear distinct
  induction entries with
  | nil => rfl
  | cons entry rest inductionHypothesis =>
      rw [List.map_cons, List.mem_cons, not_or] at absent
      rw [writeEntry, if_neg (Ne.symm absent.1), inductionHypothesis absent.2, List.cons_append]

/-- Entries with new keys are appended. -/
theorem entries_insertMany_of_disjoint {map : OrderedMap κ α} {entries : List (κ × α)}
    (distinct : (entries.map Prod.fst).Nodup)
    (disjoint : ∀ key ∈ map.keys, key ∉ entries.map Prod.fst) :
    (map.insertMany entries).entries = map.entries ++ entries := by
  induction entries generalizing map with
  | nil => exact (List.append_nil _).symm
  | cons entry rest inductionHypothesis =>
      obtain ⟨absent, restDistinct⟩ := List.nodup_cons.mp distinct
      have fresh : entry.1 ∉ map.keys := fun present =>
        disjoint entry.1 present (List.Mem.head _)
      rw [insertMany_cons, inductionHypothesis restDistinct, entries_insert_of_not_mem fresh,
        List.append_assoc, List.singleton_append]
      intro key present later
      rw [keys_insert, if_neg fresh, List.mem_append, List.mem_singleton] at present
      rcases present with earlier | rfl
      · exact disjoint key earlier (List.Mem.tail _ later)
      · exact absent later

/-- Insertions at the same keys keep related maps related. -/
theorem rel_get?_insertMany {β : Type} {related : α → β → Prop} {left : OrderedMap κ α}
    {right : OrderedMap κ β} {lefts : List (κ × α)} {rights : List (κ × β)}
    (entries : List.Forall₂ (fun first second => first.1 = second.1 ∧ related first.2 second.2)
      lefts rights)
    (maps : ∀ key, Option.Rel related (left.get? key) (right.get? key)) (key : κ) :
    Option.Rel related ((left.insertMany lefts).get? key) ((right.insertMany rights).get? key) := by
  induction entries generalizing left right with
  | nil => exact maps key
  | cons pair _ inductionHypothesis =>
      rw [insertMany_cons, insertMany_cons]
      apply inductionHypothesis
      intro other
      rw [get?_insert, get?_insert, pair.1]
      split
      · exact .some pair.2
      · exact maps other

theorem keys_merge (map later : OrderedMap κ α) :
    (map.merge later).keys = (map.keys ++ later.keys).eraseDups :=
  keys_insertMany map later.entries

theorem entries_merge_of_disjoint {map later : OrderedMap κ α}
    (disjoint : ∀ key ∈ map.keys, key ∉ later.keys) :
    (map.merge later).entries = map.entries ++ later.entries :=
  entries_insertMany_of_disjoint later.distinct disjoint

theorem get?_merge_of_get? {map later : OrderedMap κ α} {key : κ} {value : α}
    (found : later.get? key = some value) :
    (map.merge later).get? key = some value :=
  get?_insertMany_of_mem later.distinct (get?_eq_some_iff.mp found)

theorem get?_merge_of_not_mem {map later : OrderedMap κ α} {key : κ}
    (absent : key ∉ later.keys) :
    (map.merge later).get? key = map.get? key :=
  get?_insertMany_of_not_mem absent

/-- Merging keeps the first key where it is. -/
theorem exists_entries_merge {map later : OrderedMap κ α} {key : κ} {value : α}
    {rest : List (κ × α)} (shape : map.entries = (key, value) :: rest) :
    ∃ written tail, (map.merge later).entries = (key, written) :: tail := by
  have keys : (map.merge later).keys =
      key :: (((rest.map Prod.fst) ++ later.keys).filter fun other => !other == key).eraseDups := by
    rw [keys_merge, OrderedMap.keys, shape, List.map_cons, List.cons_append, List.eraseDups_cons]
  cases entries : (map.merge later).entries with
  | nil =>
      rw [OrderedMap.keys, entries] at keys
      cases keys
  | cons entry tail =>
      rw [OrderedMap.keys, entries, List.map_cons] at keys
      refine ⟨entry.2, tail, ?_⟩
      rw [← (List.cons.inj keys).1]

theorem mem_keys_merge_iff {map later : OrderedMap κ α} {key : κ} :
    key ∈ (map.merge later).keys ↔ key ∈ map.keys ∨ key ∈ later.keys := by
  rw [keys_merge, List.mem_eraseDups, List.mem_append]

end OrderedMap

end FilterSql
