import FilterSql.Proofs.FilterReport

/-!
# The grammar of keys

A key is accepted when it asks for the search, when it is an allowed column, and when it is a marker
before an allowed column. Classifying discards exactly the other keys, and the marker and the column
that it finds in a key make up the key. Since columns may start with a marker themselves, and one
marker starts with another one, a key may be read in several ways; over columns that start with no
marker every operation is found where its marker stands.
-/

namespace FilterSql

/-- The markers that may stand before a column. -/
def keyMarkers : List String :=
  ["not_", "from_", "to_", "like_", "not_like_"]

/-- The keys that filters over the allowed columns may have. -/
inductive AcceptedKey (allowed : List String) (key : String) : Prop where
  | search (named : key = "match") : AcceptedKey allowed key
  | column (listed : key ∈ allowed) : AcceptedKey allowed key
  | marked {marker column : String} (known : marker ∈ keyMarkers) (listed : column ∈ allowed)
      (named : key = marker ++ column) : AcceptedKey allowed key

/-- The column starts with no marker; the longest marker starts with one of these. -/
def Unmarked (column : String) : Prop :=
  ∀ marker ∈ ["not_", "from_", "to_", "like_"], ¬marker.toList <+: column.toList

instance (column : String) : Decidable (Unmarked column) :=
  inferInstanceAs (Decidable (∀ marker ∈ ["not_", "from_", "to_", "like_"],
    ¬marker.toList <+: column.toList))

namespace Operation

variable {allowed : List String} {key column : String} {operation : Operation}

theorem filterMap_marker?_marked : marked.filterMap marker? = keyMarkers := rfl

theorem mem_keyMarkers_iff {marker : String} :
    marker ∈ keyMarkers ↔ ∃ operation ∈ marked, operation.marker? = some marker := by
  rw [← filterMap_marker?_marked, List.mem_filterMap]

theorem marker?_of_mem_marked (selected : operation ∈ marked) :
    operation.marker? = some operation.mark := by
  simp only [marked, List.mem_cons, List.not_mem_nil, or_false] at selected
  rcases selected with rfl | rfl | rfl | rfl | rfl <;> rfl

theorem marks_of_marker {marker : String} (selected : operation.marker? = some marker)
    (listed : column ∈ allowed) : marks allowed (marker ++ column) operation = true := by
  have stripped : afterMarker? marker (marker ++ column) = some column :=
    afterMarker?_eq_some_iff.mpr rfl
  rw [marks, selected, Option.bind_some, stripped, Option.any_some]
  exact List.contains_iff_mem.mpr listed

theorem column_mark_append (selected : operation ∈ equal :: marked) :
    operation.column (operation.mark ++ column) = column := by
  rcases List.mem_cons.mp selected with rfl | marked
  · exact String.empty_append
  · have stripped : afterMarker? operation.mark (operation.mark ++ column) = some column :=
      afterMarker?_eq_some_iff.mpr rfl
    rw [Operation.column, marker?_of_mem_marked marked, Option.bind_some, stripped,
      Option.getD_some]

theorem ofKey_fullTextKey (nonempty : allowed ≠ []) :
    ofKey allowed fullTextKey = .pure fullText := by
  rw [ofKey, if_neg (by simpa using nonempty), if_pos rfl]

theorem value_ofKey_ne_discarded_of_marks (nonempty : allowed ≠ [])
    (selected : operation ∈ marked) (marks : marks allowed key operation = true) :
    (ofKey allowed key).value ≠ discarded := by
  rw [ofKey, if_neg (by simpa using nonempty)]
  split
  · decide
  · split
    · decide
    · split
      · next found foundMarks =>
        have foundSelected := List.mem_of_find?_eq_some foundMarks
        intro same
        rw [show found = discarded from same] at foundSelected
        exact absurd foundSelected (by decide)
      · next missing =>
        exact absurd marks (List.find?_eq_none.mp missing operation selected)

theorem value_ofKey_eq_discarded_iff (nonempty : allowed ≠ []) :
    (ofKey allowed key).value = discarded ↔ ¬AcceptedKey allowed key := by
  constructor
  · intro rejected accepted
    cases accepted with
    | search named =>
        have searched := congrArg Reported.value (ofKey_fullTextKey nonempty)
        rw [named] at rejected
        exact absurd (rejected.symm.trans searched) nofun
    | column listed =>
        by_cases search : key = fullTextKey
        · rw [search, ofKey_fullTextKey nonempty] at rejected
          exact absurd rejected nofun
        · rw [ofKey_of_mem listed search] at rejected
          exact absurd rejected nofun
    | marked known listed named =>
        obtain ⟨operation, selected, marker⟩ := mem_keyMarkers_iff.mp known
        rw [named] at rejected
        exact value_ofKey_ne_discarded_of_marks nonempty selected
          (marks_of_marker marker listed) rejected
  · intro unaccepted
    rcases ofKey_value_cases allowed key with rejected | ⟨_, named, _⟩ | ⟨selected, listed, named⟩
    · exact rejected
    · exact absurd (.search named) unaccepted
    · rcases List.mem_cons.mp selected with equality | marked
      · rw [equality] at listed
        exact absurd (.column listed) unaccepted
      · have known : (ofKey allowed key).value.mark ∈ keyMarkers :=
          mem_keyMarkers_iff.mpr ⟨_, marked, marker?_of_mem_marked marked⟩
        exact absurd (.marked known listed named) unaccepted

/-- Of two markers one starts with the other only if they are the markers of an inequality. -/
theorem eq_or_unequal_of_mark_starts : ∀ left ∈ marked, ∀ right ∈ marked,
    left.mark.toList <+: right.mark.toList → left = right ∨ left = unequal ∧ right = unlike := by
  decide

theorem not_unmarked_like (rest : String) : ¬Unmarked ("like_" ++ rest) := by
  intro unmarked
  apply unmarked "like_" (by decide)
  rw [String.toList_append]
  exact List.prefix_append _ _

theorem eq_of_mark_starts {left right : Operation} {other : String}
    (leftMarked : left ∈ marked) (rightMarked : right ∈ marked) (unmarked : Unmarked column)
    (same : left.mark ++ column = right.mark ++ other)
    (starts : left.mark.toList <+: right.mark.toList) : left = right := by
  rcases eq_or_unequal_of_mark_starts left leftMarked right rightMarked starts with
    equality | ⟨rfl, rfl⟩
  · exact equality
  · have longer : unlike.mark = unequal.mark ++ "like_" := rfl
    have rest : column = "like_" ++ other := by
      rw [longer, String.append_assoc] at same
      simpa using same
    rw [rest] at unmarked
    exact absurd unmarked (not_unmarked_like other)

/-- A key is read in one way as a marker and a column without one. -/
theorem eq_of_mark_append_eq {left right : Operation} {other : String}
    (leftMarked : left ∈ marked) (rightMarked : right ∈ marked) (columnUnmarked : Unmarked column)
    (otherUnmarked : Unmarked other) (same : left.mark ++ column = right.mark ++ other) :
    left = right := by
  have leftStarts : left.mark.toList <+: (left.mark ++ column).toList := by
    rw [String.toList_append]
    exact List.prefix_append _ _
  have rightStarts : right.mark.toList <+: (left.mark ++ column).toList := by
    rw [same, String.toList_append]
    exact List.prefix_append _ _
  rcases List.prefix_or_prefix_of_prefix leftStarts rightStarts with shorter | longer
  · exact eq_of_mark_starts leftMarked rightMarked columnUnmarked same shorter
  · exact (eq_of_mark_starts rightMarked leftMarked otherUnmarked same.symm longer).symm

theorem mark_append_ne_fullTextKey (selected : operation ∈ marked) :
    operation.mark ++ column ≠ fullTextKey := by
  intro same
  have starts : operation.mark.toList <+: fullTextKey.toList := by
    rw [← same, String.toList_append]
    exact List.prefix_append _ _
  have apart : ∀ operation ∈ marked, ¬operation.mark.toList <+: fullTextKey.toList := by decide
  exact apart operation selected starts

theorem not_unmarked_mark_append (selected : operation ∈ marked) :
    ¬Unmarked (operation.mark ++ column) := by
  have marks : ∀ operation ∈ marked, ¬Unmarked operation.mark := by decide
  intro unmarked
  apply marks operation selected
  intro marker known starts
  apply unmarked marker known
  rw [String.toList_append]
  exact starts.trans (List.prefix_append _ _)

/-- A marker before an allowed column is found when no allowed column starts with a marker. -/
theorem ofKey_mark_append (unmarked : ∀ column ∈ allowed, Unmarked column)
    (listed : column ∈ allowed) (selected : operation ∈ marked) :
    ofKey allowed (operation.mark ++ column) = .pure operation := by
  have nonempty : allowed ≠ [] := List.ne_nil_of_mem listed
  have unlisted : operation.mark ++ column ∉ allowed := fun member =>
    not_unmarked_mark_append selected (unmarked _ member)
  have marks : marks allowed (operation.mark ++ column) operation = true :=
    marks_of_marker (marker?_of_mem_marked selected) listed
  rw [ofKey, if_neg (by simpa using nonempty), if_neg (mark_append_ne_fullTextKey selected),
    if_neg (by simpa using unlisted)]
  cases found : marked.find? (Operation.marks allowed (operation.mark ++ column)) with
  | none => exact absurd marks (List.find?_eq_none.mp found operation selected)
  | some other =>
      obtain ⟨otherListed, named⟩ := column_of_marks (List.find?_some found)
      have same : operation = other :=
        eq_of_mark_append_eq selected (List.mem_of_find?_eq_some found) (unmarked _ listed)
          (unmarked _ otherListed) named
      rw [same]

/-- What classifying makes of a key over the allowed columns. -/
structure ReadsKey (allowed : List String) (key : String) (read : Reported Operation) : Prop where
  discarded_iff : read.value = discarded ↔ ¬AcceptedKey allowed key
  fullText_iff : read.value = fullText ↔ key = "match"
  report : read.diagnostics = if read.value = discarded then [.ignored key] else []
  split : read.value ≠ discarded → read.value ≠ fullText →
    read.value.column key ∈ allowed ∧ key = read.value.mark ++ read.value.column key

theorem readsKey_ofKey (nonempty : allowed ≠ []) (key : String) :
    ReadsKey allowed key (ofKey allowed key) where
  discarded_iff := value_ofKey_eq_discarded_iff nonempty
  fullText_iff := by
    constructor
    · intro searched
      rcases ofKey_value_cases allowed key with rejected | ⟨_, named, _⟩ | ⟨selected, _, _⟩
      · rw [searched] at rejected
        cases rejected
      · exact named
      · rw [searched] at selected
        exact absurd selected (by decide)
    · rintro rfl
      exact congrArg Reported.value (ofKey_fullTextKey nonempty)
  report := by
    rw [Filters.diagnostics_ofKey nonempty, Filters.isDiscarded]
    simp only [decide_eq_true_eq]
  split := by
    intro accepted compared
    rcases ofKey_value_cases allowed key with rejected | ⟨searched, _, _⟩ | ⟨_, listed, named⟩
    · exact absurd rejected accepted
    · exact absurd searched compared
    · exact ⟨listed, named⟩

/-- Classifying accepts exactly the keys of the grammar, and over columns that start with no marker
it finds every operation in the key that is made for it. -/
theorem ofKey_grammar (nonempty : allowed ≠ []) :
    (∀ key, ReadsKey allowed key (ofKey allowed key)) ∧
      ((∀ column ∈ allowed, Unmarked column) →
        ∀ column ∈ allowed, ∀ operation ∈ equal :: marked,
          (operation = equal → column ≠ fullTextKey) →
            ofKey allowed (operation.mark ++ column) = .pure operation ∧
              operation.column (operation.mark ++ column) = column) := by
  refine ⟨readsKey_ofKey nonempty, ?_⟩
  intro unmarked column listed operation selected other
  refine ⟨?_, column_mark_append selected⟩
  rcases List.mem_cons.mp selected with rfl | marked
  · have whole : equal.mark ++ column = column := String.empty_append
    rw [whole]
    exact ofKey_of_mem listed (other rfl)
  · exact ofKey_mark_append unmarked listed marked

/-- The markers overlap in `not_like_status`, and a qualified column is allowed as well. -/
theorem ofKey_grammar_overlapping :
    let allowed := ["status", "user.not_name"]
    allowed ≠ [] ∧
      ReadsKey allowed "from_status_x" (ofKey allowed "from_status_x") ∧
      (ofKey allowed "from_status_x").diagnostics = [⟨.ignored, "from_status_x"⟩] ∧
      (∀ column ∈ allowed, Unmarked column) ∧
      ofKey allowed "not_like_status" = .pure unlike ∧
      unlike.column "not_like_status" = "status" := by
  intro allowed
  have nonempty : allowed ≠ [] := by decide
  have unmarked : ∀ column ∈ allowed, Unmarked column := by decide
  obtain ⟨reads, finds⟩ := ofKey_grammar nonempty
  have found := finds unmarked "status" (by decide) unlike (by decide) nofun
  exact ⟨nonempty, reads "from_status_x", by decide, unmarked, found⟩

end Operation

end FilterSql
