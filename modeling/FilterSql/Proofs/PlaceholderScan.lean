import FilterSql.Proofs.CompiledClause

/-!
# Reading placeholders off a text

A placeholder is a dollar sign with the longest run of letters, digits and underscores that follows
it. Read off the text of a compiled clause over column names, the placeholders are exactly the names
that the clause binds: nothing is unbound and nothing bound is unused.
-/

namespace FilterSql

namespace Placeholder

/-- The names of the placeholders in a text, in order. -/
def scan : List Char → List String
  | [] => []
  | c :: rest =>
      if c = '$' then String.ofList (rest.takeWhile isIdentifierPart) :: scan rest
      else scan rest

/-- No name goes on into this text. -/
def Stops (text : List Char) : Prop :=
  text.takeWhile isIdentifierPart = []

theorem stops_nil : Stops [] := rfl

theorem stops_cons {c : Char} (other : isIdentifierPart c = false) (rest : List Char) :
    Stops (c :: rest) := by
  rw [Stops, List.takeWhile_cons, other]
  rfl

theorem scan_append_of_plain {text : List Char} (plain : '$' ∉ text) (rest : List Char) :
    scan (text ++ rest) = scan rest := by
  induction text with
  | nil => rfl
  | cons first text inductionHypothesis =>
      rw [List.mem_cons, not_or] at plain
      rw [List.cons_append, scan, if_neg (Ne.symm plain.1), inductionHypothesis plain.2]

theorem IsName.not_mem_dollar {name : String} (named : IsName name) : '$' ∉ name.toList := by
  intro member
  exact absurd (named '$' member) (by decide)

/-- The run after a dollar sign ends where the name does. -/
theorem scan_reference {name : String} (named : IsName name) {rest : List Char}
    (stops : Stops rest) :
    scan ((reference name).toList ++ rest) = name :: scan rest := by
  have run : (name.toList ++ rest).takeWhile isIdentifierPart = name.toList := by
    rw [List.takeWhile_append_of_pos named, stops, List.append_nil]
  rw [reference, String.toList_append, List.append_assoc]
  change scan ('$' :: (name.toList ++ rest)) = name :: scan rest
  rw [scan, if_pos rfl, run, String.ofList_toList, scan_append_of_plain named.not_mem_dollar]

/-- Joined texts are scanned one after the other when the separator ends every name. -/
theorem scan_intercalate {α : Type} {separator : String} {first : Char} {others : List Char}
    (shape : separator.toList = first :: others) (ends : isIdentifierPart first = false)
    (plain : '$' ∉ separator.toList) (text : α → String) (names : α → List String) :
    ∀ (items : List α),
      (∀ item ∈ items, ∀ {rest : List Char}, Stops rest →
        scan ((text item).toList ++ rest) = names item ++ scan rest) →
      ∀ {rest : List Char}, Stops rest →
        scan ((String.intercalate separator (items.map text)).toList ++ rest) =
          items.flatMap names ++ scan rest
  | [], _, rest, _ => by simp
  | [item], each, rest, stops => by
      simpa using each item (List.Mem.head _) stops
  | item :: next :: later, each, rest, stops => by
      have tail := scan_intercalate shape ends plain text names (next :: later)
        (fun other member => each other (List.Mem.tail item member)) stops
      have separated : ∀ text : List Char, Stops (separator.toList ++ text) := by
        intro text
        rw [shape]
        exact stops_cons ends _
      rw [List.map_cons, List.map_cons, String.intercalate_cons_cons, String.toList_append,
        String.toList_append, List.append_assoc, List.append_assoc,
        each item (List.Mem.head _) (separated _), scan_append_of_plain plain,
        ← List.map_cons, tail, List.flatMap_cons (x := item), List.append_assoc]

end Placeholder

namespace Condition

open Placeholder

def columns : Condition → List String
  | null _ column => [column]
  | nullText column _ => [column]
  | compare _ column _ => [column]
  | member _ column _ => [column]
  | noMember _ => []
  | atLeast column _ => [column]
  | atMost column _ => [column]
  | like _ column _ => [column]
  | anyLike columns _ => columns

/-- The names that a condition refers to, in the order of its text. -/
def references : Condition → List String
  | null _ _ => []
  | nullText _ _ => []
  | compare _ _ placeholder => [placeholder]
  | member _ _ placeholders => placeholders
  | noMember _ => []
  | atLeast _ placeholder => [placeholder]
  | atMost _ placeholder => [placeholder]
  | like _ _ placeholder => [placeholder]
  | anyLike columns placeholder => columns.map fun _ => placeholder

theorem scan_column_words {column words : String} (plainColumn : '$' ∉ column.toList)
    (plainWords : '$' ∉ words.toList) (rest : List Char) :
    scan ((column ++ words).toList ++ rest) = scan rest := by
  rw [String.toList_append, List.append_assoc, scan_append_of_plain plainColumn,
    scan_append_of_plain plainWords]

theorem scan_column_words_reference {column words name : String}
    (plainColumn : '$' ∉ column.toList) (plainWords : '$' ∉ words.toList)
    (named : IsName name) {rest : List Char} (stops : Stops rest) :
    scan ((column ++ words ++ reference name).toList ++ rest) = name :: scan rest := by
  rw [String.toList_append, List.append_assoc, scan_column_words plainColumn plainWords,
    scan_reference named stops]

/-- The placeholder of a range ends at the cast that follows it. -/
theorem scan_column_words_cast {column words name : String}
    (plainColumn : '$' ∉ column.toList) (plainWords : '$' ∉ words.toList)
    (named : IsName name) (rest : List Char) :
    scan ((column ++ words ++ reference name ++ "::timestamp").toList ++ rest) =
      name :: scan rest := by
  have stops : Stops ("::timestamp".toList ++ rest) := stops_cons (c := ':') (by decide) _
  rw [String.toList_append, List.append_assoc,
    scan_column_words_reference plainColumn plainWords named stops,
    scan_append_of_plain (by decide)]

theorem scan_column_list {column words : String} {names : List String}
    (plainColumn : '$' ∉ column.toList) (plainWords : '$' ∉ words.toList)
    (named : ∀ name ∈ names, IsName name) (rest : List Char) :
    scan ((column ++ words ++ String.intercalate ", " (names.map reference) ++ ")").toList ++
      rest) = names ++ scan rest := by
  have plainComma : '$' ∉ ", ".toList := by decide
  have list := scan_intercalate rfl (by decide) plainComma reference (fun name => [name]) names
    (fun name member _ stops => scan_reference (named name member) stops)
    (stops_cons (c := ')') (by decide) rest)
  rw [String.toList_append, List.append_assoc, String.toList_append, List.append_assoc,
    scan_column_words plainColumn plainWords]
  refine list.trans ?_
  rw [← List.map_eq_flatMap, List.map_id']
  congr 1

theorem scan_alternatives {columns : List String} {name : String}
    (plain : ∀ column ∈ columns, '$' ∉ column.toList) (named : columns ≠ [] → IsName name)
    (rest : List Char) :
    scan (("(" ++ String.intercalate " OR "
      (columns.map fun column => column ++ "::text ILIKE " ++ reference name) ++ ")").toList ++
        rest) = (columns.map fun _ => name) ++ scan rest := by
  have plainWord : '$' ∉ " OR ".toList := by decide
  have list := scan_intercalate rfl (by decide) plainWord
    (fun column => column ++ "::text ILIKE " ++ reference name) (fun _ => [name]) columns
    (fun column member _ stops => scan_column_words_reference (plain column member) (by decide)
      (named (List.ne_nil_of_mem member)) stops)
    (stops_cons (c := ')') (by decide) rest)
  rw [String.toList_append, List.append_assoc, String.toList_append, List.append_assoc,
    scan_append_of_plain (by decide)]
  refine list.trans ?_
  rw [← List.map_eq_flatMap]
  congr 1

/-- What is read off the text of a condition is what the condition refers to, whatever follows. -/
theorem scan_sql {condition : Condition}
    (plain : ∀ column ∈ condition.columns, '$' ∉ column.toList)
    (named : ∀ name ∈ condition.references, IsName name)
    {rest : List Char} (stops : Stops rest) :
    scan (condition.sql.toList ++ rest) = condition.references ++ scan rest := by
  cases condition with
  | null polarity column =>
      have plainColumn := plain column (List.Mem.head _)
      cases polarity with
      | positive => exact scan_column_words plainColumn (by decide) rest
      | negative => exact scan_column_words plainColumn (by decide) rest
  | nullText column test =>
      have plainTest : '$' ∉ test.text.toList := by cases test <;> decide
      rw [sql, String.toList_append, List.append_assoc,
        scan_column_words (plain column (List.Mem.head _)) (by decide),
        scan_append_of_plain plainTest]
      rfl
  | compare polarity column placeholder =>
      have plainColumn := plain column (List.Mem.head _)
      have name := named placeholder (List.Mem.head _)
      cases polarity with
      | positive => exact scan_column_words_reference plainColumn (by decide) name stops
      | negative => exact scan_column_words_reference plainColumn (by decide) name stops
  | member polarity column placeholders =>
      have plainColumn := plain column (List.Mem.head _)
      cases polarity with
      | positive => exact scan_column_list plainColumn (by decide) named rest
      | negative => exact scan_column_list plainColumn (by decide) named rest
  | noMember polarity =>
      cases polarity with
      | positive => exact scan_append_of_plain (by decide) rest
      | negative => exact scan_append_of_plain (by decide) rest
  | atLeast column placeholder =>
      exact scan_column_words_cast (plain column (List.Mem.head _)) (by decide)
        (named placeholder (List.Mem.head _)) rest
  | atMost column placeholder =>
      exact scan_column_words_cast (plain column (List.Mem.head _)) (by decide)
        (named placeholder (List.Mem.head _)) rest
  | like polarity column placeholder =>
      have plainColumn := plain column (List.Mem.head _)
      have name := named placeholder (List.Mem.head _)
      cases polarity with
      | positive => exact scan_column_words_reference plainColumn (by decide) name stops
      | negative => exact scan_column_words_reference plainColumn (by decide) name stops
  | anyLike columns placeholder =>
      apply scan_alternatives plain
      intro nonempty
      apply named placeholder
      obtain ⟨column, member⟩ := List.exists_mem_of_ne_nil columns nonempty
      exact List.mem_map.mpr ⟨column, member, rfl⟩

end Condition

open Placeholder

theorem not_mem_dollar_of_isColumnName {column : String}
    (valid : isColumnName column = true) : '$' ∉ column.toList := by
  intro member
  exact absurd (isColumnPart_of_mem valid member) (by decide)

theorem Polarity.isName_comparisonMark (polarity : Polarity) :
    IsName polarity.comparisonMark := by
  cases polarity <;> decide

theorem Polarity.isName_likeMark (polarity : Polarity) : IsName polarity.likeMark := by
  cases polarity <;> decide

namespace BoundCondition

variable {allowed : List String} {key : String} {value : Value} {bound : BoundCondition}

theorem AskedBy.plain_columns (asked : AskedBy allowed key value bound)
    (valid : ∀ column ∈ allowed, isColumnName column = true) :
    ∀ column ∈ bound.condition.columns, '$' ∉ column.toList := by
  have plain : ∀ column ∈ allowed, '$' ∉ column.toList := fun column listed =>
    not_mem_dollar_of_isColumnName (valid column listed)
  have single : ∀ {column : String}, column ∈ allowed →
      ∀ other ∈ [column], '$' ∉ other.toList := by
    intro column listed other member
    rw [List.mem_singleton.mp member]
    exact plain column listed
  cases asked with
  | null listed named => exact single listed
  | noMember listed named => exact fun _ member => absurd member List.not_mem_nil
  | member listed named nonempty => exact single listed
  | nullText listed named read => exact single listed
  | compare listed named plainValue => exact single listed
  | atLeast listed named => exact single listed
  | atMost listed named => exact single listed
  | like listed named => exact single listed
  | fullText searched named => exact plain

theorem AskedBy.isName_references (asked : AskedBy allowed key value bound)
    (valid : ∀ column ∈ allowed, isColumnName column = true) :
    ∀ name ∈ bound.condition.references, IsName name := by
  have single : ∀ {mark column : String}, IsName mark → column ∈ allowed →
      key = mark ++ column → ∀ name ∈ [Placeholder.ofKey key], IsName name := by
    intro mark column marked listed named name member
    rw [List.mem_singleton.mp member, named]
    exact isName_ofKey marked (valid column listed)
  cases asked with
  | null listed named => exact fun _ member => absurd member List.not_mem_nil
  | noMember listed named => exact fun _ member => absurd member List.not_mem_nil
  | @member polarity column items listed named nonempty =>
      intro name member
      change name ∈ (numbered key items).map Prod.fst at member
      rw [names_numbered] at member
      obtain ⟨index, _, rfl⟩ := List.mem_map.mp member
      apply isName_numbered
      exact single polarity.isName_comparisonMark listed named _ (List.Mem.head _)
  | nullText listed named read => exact fun _ member => absurd member List.not_mem_nil
  | @compare polarity column value listed named plain =>
      exact single polarity.isName_comparisonMark listed named
  | atLeast listed named => exact single (by decide) listed named
  | atMost listed named => exact single (by decide) listed named
  | @like polarity column value listed named =>
      exact single polarity.isName_likeMark listed named
  | fullText searched named =>
      intro name member
      obtain ⟨column, _, rfl⟩ := List.mem_map.mp member
      rw [named]
      decide

/-- A condition refers to what it binds. -/
theorem AskedBy.mem_references_iff (asked : AskedBy allowed key value bound) (name : String) :
    name ∈ bound.condition.references ↔ name ∈ bound.bindings.map Prod.fst := by
  cases asked with
  | null listed named => exact Iff.rfl
  | noMember listed named => exact Iff.rfl
  | member listed named nonempty => exact Iff.rfl
  | nullText listed named read => exact Iff.rfl
  | compare listed named plain => exact Iff.rfl
  | atLeast listed named => exact Iff.rfl
  | atMost listed named => exact Iff.rfl
  | like listed named => exact Iff.rfl
  | fullText searched named =>
      change name ∈ allowed.map (fun _ => Placeholder.ofKey key) ↔ name ∈ [Placeholder.ofKey key]
      rw [List.mem_map, List.mem_singleton]
      constructor
      · rintro ⟨_, _, same⟩
        exact same.symm
      · intro same
        obtain ⟨column, listed⟩ := List.exists_mem_of_ne_nil allowed searched
        exact ⟨column, listed, same.symm⟩

end BoundCondition

theorem Condition.scan_joined {conditions : List Condition}
    (plain : ∀ condition ∈ conditions, ∀ column ∈ condition.columns, '$' ∉ column.toList)
    (named : ∀ condition ∈ conditions, ∀ name ∈ condition.references, IsName name)
    {rest : List Char} (stops : Stops rest) :
    scan ((String.intercalate " AND " (conditions.map sql)).toList ++ rest) =
      conditions.flatMap references ++ scan rest := by
  have plainWord : '$' ∉ " AND ".toList := by decide
  exact scan_intercalate rfl (by decide) plainWord sql references conditions
    (fun condition member _ stops =>
      scan_sql (plain condition member) (named condition member) stops) stops

theorem Condition.scan_allSql {conditions : List Condition}
    (plain : ∀ condition ∈ conditions, ∀ column ∈ condition.columns, '$' ∉ column.toList)
    (named : ∀ condition ∈ conditions, ∀ name ∈ condition.references, IsName name) :
    scan (allSql conditions).toList = conditions.flatMap references := by
  rw [allSql]
  split
  · next empty =>
    rw [List.isEmpty_iff.mp empty]
    rfl
  · have joined := scan_joined plain named stops_nil
    rw [List.append_nil, scan, List.append_nil] at joined
    rw [String.toList_append, scan_append_of_plain (by decide), joined]

/-- The placeholders in the text of a compiled clause are the names that it binds, each once. -/
theorem Filters.mem_scan_compile_iff {allowed : List String}
    (valid : ∀ column ∈ allowed, isColumnName column = true) (filters : Filters) :
    (∀ name, name ∈ scan (filters.compile allowed).value.text.toList ↔
        name ∈ (filters.compile allowed).value.parameters.keys) ∧
      (filters.compile allowed).value.parameters.keys.Nodup := by
  refine ⟨fun name => ?_, OrderedMap.keys_nodup _⟩
  have settled := settledBy_choice allowed filters
  have scanned : scan (filters.compile allowed).value.text.toList =
      ((filters.choice allowed).kept.map BoundCondition.condition).flatMap
        Condition.references := by
    rw [Clause.text, settled.conditions]
    apply Condition.scan_allSql
    · intro condition member
      obtain ⟨bound, kept, rfl⟩ := List.mem_map.mp member
      obtain ⟨entry, _, asked⟩ := askedBy_of_mem_kept kept
      exact asked.plain_columns valid
    · intro condition member
      obtain ⟨bound, kept, rfl⟩ := List.mem_map.mp member
      obtain ⟨entry, _, asked⟩ := askedBy_of_mem_kept kept
      exact asked.isName_references valid
  rw [scanned, settled.names, List.mem_eraseDups, List.mem_flatMap, List.mem_flatMap]
  constructor
  · rintro ⟨condition, member, referred⟩
    obtain ⟨bound, kept, rfl⟩ := List.mem_map.mp member
    obtain ⟨entry, _, asked⟩ := askedBy_of_mem_kept kept
    exact ⟨bound, kept, (asked.mem_references_iff name).mp referred⟩
  · rintro ⟨bound, kept, binding⟩
    obtain ⟨entry, _, asked⟩ := askedBy_of_mem_kept kept
    exact ⟨bound.condition, List.mem_map_of_mem kept,
      (asked.mem_references_iff name).mpr binding⟩

/-- A list, a qualified column behind a marker and a search, next to one another. -/
theorem scan_compile_list_and_search :
    let allowed := ["id", "user.role"]
    let filters : Filters := OrderedMap.empty.insertMany
      [("id", .array [.int 1, .int 2]), ("not_user.role", .text "admin"), ("match", .text "%a%")]
    (∀ column ∈ allowed, isColumnName column = true) ∧
      (∀ name, name ∈ scan (filters.compile allowed).value.text.toList ↔
        name ∈ (filters.compile allowed).value.parameters.keys) ∧
      (filters.compile allowed).value.parameters.keys.Nodup ∧
      (filters.compile allowed).value.parameters.keys =
        ["id1", "id2", "not_user__role", "match"] := by
  intro allowed filters
  have valid : ∀ column ∈ allowed, isColumnName column = true := by decide
  obtain ⟨closed, distinct⟩ := Filters.mem_scan_compile_iff valid filters
  exact ⟨valid, closed, distinct, by decide⟩

end FilterSql
