import FilterSql.Json.Filters
import FilterSql.Proofs.OrderedMap

/-!
# Merged maps

A merge keeps the keys of the first map in front, puts the new keys of the second behind them, and
binds a key as the second map does wherever the second binds it. A map is determined by its keys in
order and by what they are bound to, so the laws of merging follow from these two facts.

Filters and parameters come about by inserting, collecting, merging and leaving out entries. The
last part says what they then hold on plain lists of entries, which carry no proof that their keys
are distinct. These lists are the entries of the maps, so no key occurs twice in them.
-/

namespace FilterSql

namespace OrderedMap

variable {κ α : Type} [DecidableEq κ]

/-- The entry under a key, if there is one. -/
def entryAt (map : OrderedMap κ α) (key : κ) : Option (κ × α) :=
  (map.get? key).map fun value => (key, value)

theorem entryAt_of_mem {map : OrderedMap κ α} {entry : κ × α} (member : entry ∈ map.entries) :
    map.entryAt entry.1 = some entry := by
  rw [entryAt, get?_eq_some_iff.mpr member, Option.map_some]

theorem filterMap_entryAt {map : OrderedMap κ α} {entries : List (κ × α)}
    (held : ∀ entry ∈ entries, entry ∈ map.entries) :
    (entries.map Prod.fst).filterMap map.entryAt = entries := by
  induction entries with
  | nil => rfl
  | cons entry rest inductionHypothesis =>
      obtain ⟨here, later⟩ := List.forall_mem_cons.mp held
      simp [entryAt_of_mem here, inductionHypothesis later]

/-- The entries are the keys with their values. -/
theorem entries_eq_filterMap_keys (map : OrderedMap κ α) :
    map.entries = map.keys.filterMap map.entryAt :=
  (filterMap_entryAt fun _ member => member).symm

theorem ext_get? {left right : OrderedMap κ α} (keys : left.keys = right.keys)
    (values : ∀ key, left.get? key = right.get? key) : left = right := by
  have sameEntry : left.entryAt = right.entryAt := by
    funext key
    rw [entryAt, entryAt, values key]
  apply ext_entries
  rw [entries_eq_filterMap_keys left, entries_eq_filterMap_keys right, keys, sameEntry]

/-- The keys of the second map that are new stand behind those of the first. -/
theorem keys_merge_eq_append (first second : OrderedMap κ α) :
    (first.merge second).keys =
      first.keys ++ second.keys.filter fun key => key ∉ first.keys := by
  have newKeys : second.keys.removeAll first.keys =
      second.keys.filter fun key => key ∉ first.keys := by
    simp [List.removeAll]
  have newDistinct : (second.keys.filter fun key => key ∉ first.keys).Nodup :=
    second.keys_nodup.sublist List.filter_sublist
  rw [keys_merge, List.eraseDups_append, newKeys, eraseDups_of_nodup first.keys_nodup,
    eraseDups_of_nodup newDistinct]

/-- The value of the second map counts wherever there is one. -/
theorem get?_merge (first second : OrderedMap κ α) (key : κ) :
    (first.merge second).get? key = (second.get? key).or (first.get? key) := by
  cases found : second.get? key with
  | none =>
      rw [get?_merge_of_not_mem (get?_eq_none_iff.mp found), Option.none_or]
  | some value =>
      rw [get?_merge_of_get? found, Option.some_or]

theorem merge_assoc (first second third : OrderedMap κ α) :
    (first.merge second).merge third = first.merge (second.merge third) := by
  apply ext_get?
  · -- On either side, the third map brings the keys that are in neither of the others.
    simp only [keys_merge_eq_append, List.filter_append, List.filter_filter, List.append_assoc]
    congr 2
    apply List.filter_congr
    intro key _
    by_cases inFirst : key ∈ first.keys <;> simp [inFirst]
  · intro key
    simp only [get?_merge, Option.or_assoc]

theorem empty_merge (map : OrderedMap κ α) : (∅ : OrderedMap κ α).merge map = map := by
  apply ext_get?
  · simp [keys_merge_eq_append]
  · simp [get?_merge]

theorem merge_empty (map : OrderedMap κ α) : map.merge ∅ = map := rfl

/-- Merging the same map again changes nothing. -/
theorem merge_merge_self (first second : OrderedMap κ α) :
    (first.merge second).merge second = first.merge second := by
  apply ext_get?
  · have nothingNew : (second.keys.filter fun key => key ∉ (first.merge second).keys) = [] := by
      simp +contextual [mem_keys_merge_iff]
    rw [keys_merge_eq_append (first.merge second), nothingNew, List.append_nil]
  · intro key
    simp [get?_merge, ← Option.or_assoc]

/-- What merging comes to for three maps: the order of the keys, the value of each key, the laws of
a monoid, and that a second merge of the same map is without effect. -/
structure MergeLaws (first second third : OrderedMap κ α) : Prop where
  keys : (first.merge second).keys =
    first.keys ++ second.keys.filter fun key => key ∉ first.keys
  taken : ∀ key ∈ second.keys, (first.merge second).get? key = second.get? key
  kept : ∀ key, key ∉ second.keys → (first.merge second).get? key = first.get? key
  assoc : ((first.merge second).merge third).entries = (first.merge (second.merge third)).entries
  empty_merge : ((∅ : OrderedMap κ α).merge first).entries = first.entries
  merge_empty : (first.merge ∅).entries = first.entries
  again : ((first.merge second).merge second).entries = (first.merge second).entries

theorem mergeLaws (first second third : OrderedMap κ α) : MergeLaws first second third where
  keys := keys_merge_eq_append first second
  taken := by
    intro key present
    obtain ⟨value, found⟩ := mem_keys_iff.mp present
    rw [get?_merge, found, Option.some_or]
  kept := by
    intro key absent
    rw [get?_merge, get?_eq_none_iff.mpr absent, Option.none_or]
  assoc := congrArg entries (merge_assoc first second third)
  empty_merge := congrArg entries (OrderedMap.empty_merge first)
  merge_empty := congrArg entries (OrderedMap.merge_empty first)
  again := congrArg entries (merge_merge_self first second)

/-- Entries with later ones written over them. A key that is there keeps its place and takes the
later value, if there is one; the other later entries follow. -/
def overlay (entries later : List (κ × α)) : List (κ × α) :=
  (entries.map fun entry => (entry.1, (later.lookup entry.1).getD entry.2)) ++
    later.filter fun entry => entry.1 ∉ entries.map Prod.fst

/-- Each key where it stands first, with the value that stands last under it. -/
def settle (entries : List (κ × α)) : List (κ × α) :=
  (entries.map Prod.fst).eraseDups.filterMap fun key =>
    (entries.reverse.lookup key).map fun value => (key, value)

theorem entries_merge (first second : OrderedMap κ α) :
    (first.merge second).entries = overlay first.entries second.entries := by
  rw [entries_eq_filterMap_keys, keys_merge_eq_append, List.filterMap_append, overlay]
  congr 1
  -- The keys of the first map keep their places, with the values of the second where it has them.
  · rw [keys, List.filterMap_map, ← List.filterMap_eq_map]
    apply List.filterMap_congr
    intro entry member
    have found : first.get? entry.1 = some entry.2 := get?_eq_some_iff.mpr member
    change (first.merge second).entryAt entry.1 =
      some (entry.1, (second.get? entry.1).getD entry.2)
    rw [entryAt, get?_merge, found]
    simp
  · have newEntries : second.keys.filter (fun key => key ∉ first.keys) =
        (second.entries.filter fun entry => entry.1 ∉ first.keys).map Prod.fst := by
      simp only [keys, List.filter_map]
      rfl
    rw [newEntries]
    apply filterMap_entryAt
    intro entry member
    obtain ⟨inSecond, _⟩ := List.mem_filter.mp member
    apply get?_eq_some_iff.mp
    rw [get?_merge, get?_eq_some_iff.mpr inSecond, Option.some_or]

theorem entries_insert (map : OrderedMap κ α) (key : κ) (value : α) :
    (map.insert key value).entries = overlay map.entries [(key, value)] :=
  map.entries_merge ((∅ : OrderedMap κ α).insert key value)

theorem get?_insertMany (map : OrderedMap κ α) (entries : List (κ × α)) (key : κ) :
    (map.insertMany entries).get? key = (entries.reverse.lookup key).or (map.get? key) := by
  induction entries generalizing map with
  | nil => rfl
  | cons entry rest inductionHypothesis =>
      obtain ⟨written, value⟩ := entry
      rw [insertMany_cons, inductionHypothesis, get?_insert, List.reverse_cons, List.lookup_append,
        Option.or_assoc]
      by_cases same : key = written
      · simp [same]
      · simp [same, List.lookup_cons, beq_false_of_ne same]

theorem entries_ofList (entries : List (κ × α)) : (ofList entries).entries = settle entries := by
  have values : (ofList entries).entryAt =
      fun key => (entries.reverse.lookup key).map fun value => (key, value) := by
    funext key
    have unbound : (empty : OrderedMap κ α).get? key = none := rfl
    rw [entryAt, ofList, get?_insertMany, unbound, Option.or_none]
  rw [entries_eq_filterMap_keys, values, ofList, keys_insertMany]
  rfl

end OrderedMap

/-! ## Histories -/

/-- How a map of values came about. Filters come about in all of these ways; parameters are only
inserted into, collected and merged. -/
inductive History where
  | empty
  | insert (earlier : History) (key : String) (value : Value)
  | collect (entries : List (String × Value))
  | merge (earlier later : History)
  | retain (earlier : History) (keep : String → Value → Bool)
  | restrictTo (earlier : History) (columns : List String)
  | document (read : Json.Document)

namespace History

/-- The map that a history leads to, unless a document in it does not stand for filters. -/
def outcome : History → Except ParseError (OrderedMap String Value)
  | empty => .ok ∅
  | insert earlier key value => earlier.outcome.map fun map => map.insert key value
  | collect entries => .ok (.ofList entries)
  | merge earlier later => earlier.outcome.bind fun map => later.outcome.map map.merge
  | retain earlier keep => earlier.outcome.map fun map => map.filter keep
  | restrictTo earlier columns => earlier.outcome.map (Filters.restrictTo columns)
  | document read => read.filters

/-- The entries that a document stands for, as a plain list. -/
def plainMembers : Json.Document → Except ParseError (List (String × Value))
  | .object members => (members.mapM Json.memberFilter).map OrderedMap.settle
  | _ => .error .notAnObject

/-- The entries that a history leads to when each operation is done on plain lists. -/
def plain : History → Except ParseError (List (String × Value))
  | empty => .ok []
  | insert earlier key value =>
      earlier.plain.map fun entries => OrderedMap.overlay entries [(key, value)]
  | collect entries => .ok (OrderedMap.settle entries)
  | merge earlier later =>
      earlier.plain.bind fun entries => later.plain.map (OrderedMap.overlay entries)
  | retain earlier keep =>
      earlier.plain.map fun entries => entries.filter fun entry => keep entry.1 entry.2
  | restrictTo earlier columns =>
      earlier.plain.map fun entries => entries.filter fun entry => entry.1 ∈ columns
  | document read => plainMembers read

theorem map_entries_map {outcome : Except ParseError (OrderedMap String Value)}
    {change : OrderedMap String Value → OrderedMap String Value}
    {plainly : List (String × Value) → List (String × Value)}
    (same : ∀ map, (change map).entries = plainly map.entries) :
    (outcome.map change).map OrderedMap.entries =
      (outcome.map OrderedMap.entries).map plainly := by
  cases outcome with
  | error reason => rfl
  | ok map => exact congrArg Except.ok (same map)

theorem map_entries_filters (document : Json.Document) :
    document.filters.map OrderedMap.entries = plainMembers document := by
  cases document with
  | object members =>
      rw [Json.Document.filters, plainMembers]
      cases members.mapM Json.memberFilter with
      | error reason => rfl
      | ok entries => exact congrArg Except.ok (OrderedMap.entries_ofList entries)
  | _ => rfl

/-- Maps hold what the same history makes of plain lists. -/
theorem map_entries_outcome (history : History) :
    history.outcome.map OrderedMap.entries = history.plain := by
  induction history with
  | empty => rfl
  | insert earlier key value inductionHypothesis =>
      rw [outcome, plain, ← inductionHypothesis]
      exact map_entries_map fun map => map.entries_insert key value
  | collect entries =>
      exact congrArg Except.ok (OrderedMap.entries_ofList entries)
  | merge earlier later earlierHypothesis laterHypothesis =>
      rw [outcome, plain, ← earlierHypothesis, ← laterHypothesis]
      cases earlier.outcome with
      | error reason => rfl
      | ok map => exact map_entries_map map.entries_merge
  | retain earlier keep inductionHypothesis =>
      rw [outcome, plain, ← inductionHypothesis]
      exact map_entries_map (OrderedMap.entries_filter keep)
  | restrictTo earlier columns inductionHypothesis =>
      rw [outcome, plain, ← inductionHypothesis]
      apply map_entries_map
      intro map
      simp [Filters.restrictTo]
  | document read => exact map_entries_filters read

theorem nodup_of_plain {history : History} {entries : List (String × Value)}
    (held : history.plain = .ok entries) : (entries.map Prod.fst).Nodup := by
  rw [← map_entries_outcome] at held
  cases result : history.outcome with
  | error reason =>
      rw [result] at held
      contradiction
  | ok map =>
      rw [result] at held
      cases held
      exact map.keys_nodup

/-- Whatever operations filters or parameters come from, they hold what the operations make of plain
lists, and no key occurs twice in these. Both are maps of values by texts, and such maps are merged
by the laws of a monoid in which the values of the later map count. -/
theorem nodup_plain_and_mergeLaws :
    (∀ history : History,
      history.outcome.map OrderedMap.entries = history.plain ∧
        ∀ entries, history.plain = .ok entries → (entries.map Prod.fst).Nodup) ∧
      ∀ first second third : OrderedMap String Value, first.MergeLaws second third := by
  constructor
  · intro history
    exact ⟨map_entries_outcome history, fun _ => nodup_of_plain⟩
  · exact OrderedMap.mergeLaws

/-- A key that is written three times keeps its first place and its last value. -/
theorem nodup_plain_and_mergeLaws_rewritten :
    let collected := collect [("b", .int 2), ("a", .int 1), ("b", .int 3)]
    let read := document (.object [("a", .null), ("c", .bool true), ("d", .array [])])
    let history := restrictTo (insert (merge collected read) "b" (.text "x")) ["d", "a", "b"]
    let entries := [("b", .text "x"), ("a", .null), ("d", .array [])]
    history.plain = .ok entries ∧ history.outcome.map OrderedMap.entries = .ok entries ∧
      (entries.map Prod.fst).Nodup := by
  intro collected read history entries
  have held : history.plain = .ok entries := rfl
  obtain ⟨same, distinct⟩ := nodup_plain_and_mergeLaws.1 history
  exact ⟨held, same.trans held, distinct entries held⟩

end History

end FilterSql
