import FilterSql.Proofs.ColumnName
import FilterSql.Proofs.OrderedMap
import FilterSql.Template.BatchDelete
import FilterSql.Template.Delete
import FilterSql.Template.Select
import FilterSql.Template.Update

/-!
# The names that a template holds

A template is set up by calls that may be refused. A call is accepted if the names that it is given
are plain; it then puts them in place of the names for one role, and keeps those for every other.
By induction on the calls, a template holds nothing but plain names.
-/

namespace FilterSql

/-- An outcome that is what was given if it was acceptable, and a refusal if it was not. -/
inductive Answer {α : Type} (acceptable : Prop) (given : α) : Except SetupError α → Prop
  | accepted : acceptable → Answer acceptable given (.ok given)
  | refused {error : SetupError} : ¬ acceptable → Answer acceptable given (.error error)

theorem Answer.of_ok {α : Type} {acceptable : Prop} {given value : α}
    (answer : Answer acceptable given (.ok value)) : acceptable ∧ value = given := by
  cases answer with
  | accepted acceptable => exact ⟨acceptable, rfl⟩

theorem Answer.of_error {α : Type} {acceptable : Prop} {given : α} {error : SetupError}
    (answer : Answer acceptable given (.error error)) : ¬ acceptable := by
  cases answer with
  | refused unacceptable => exact unacceptable

theorem Answer.map {α β γ τ : Type} {acceptable : Prop} {given : β}
    {outcome : Except SetupError α} {view : α → β} {build : α → τ} {whole : τ → γ}
    (extend : β → γ) (answer : Answer acceptable given (outcome.map view))
    (built : ∀ value, whole (build value) = extend (view value)) :
    Answer acceptable (extend given) ((outcome.map build).map whole) := by
  cases outcome with
  | error refusal => exact .refused answer.of_error
  | ok value =>
      cases answer with
      | accepted acceptable =>
          rw [← built value]
          exact .accepted acceptable

theorem Answer.of_iff {α : Type} {acceptable other : Prop} {given : α}
    {outcome : Except SetupError α} (answer : Answer acceptable given outcome)
    (same : acceptable ↔ other) : Answer other given outcome := by
  rwa [← propext same]

theorem Answer.isOk_iff {α β : Type} {acceptable : Prop} {given : β}
    {outcome : Except SetupError α} {view : α → β}
    (answer : Answer acceptable given (outcome.map view)) :
    outcome.isOk = true ↔ acceptable := by
  cases outcome with
  | error refusal => exact iff_of_false Bool.noConfusion answer.of_error
  | ok value => exact iff_of_true rfl answer.of_ok.1

theorem PlainName.lower {name : String} (plain : PlainName name) :
    PlainName (name.map lowerCase) :=
  isColumnName_iff_plainName.mp
    (isColumnName_map_lowerCase (isColumnName_iff_plainName.mpr plain))

namespace ColumnName

theorem answer_check (label name : String) :
    Answer (PlainName name) name ((check label name).map ColumnName.text) := by
  rw [check, ofString?]
  by_cases valid : isColumnName name = true
  · rw [dif_pos valid]
    exact .accepted (isColumnName_iff_plainName.mp valid)
  · rw [dif_neg valid]
    exact .refused fun plain => valid (isColumnName_iff_plainName.mpr plain)

/-- Names are let in together, and as they are. -/
theorem answer_checkAll (label : String) (names : List String) :
    Answer (∀ name ∈ names, PlainName name) names
      ((checkAll label names).map (List.map ColumnName.text)) := by
  rw [checkAll]
  induction names with
  | nil => exact .accepted fun name member => absurd member List.not_mem_nil
  | cons name rest inductionHypothesis =>
      rw [List.mapM_cons]
      have first := answer_check label name
      cases checked : check label name with
      | error refusal =>
          rw [checked] at first
          exact .refused fun plain => first.of_error (plain name (List.Mem.head _))
      | ok column =>
          rw [checked] at first
          cases first with
          | accepted plain =>
              cases others : rest.mapM (check label) with
              | error refusal =>
                  rw [others] at inductionHypothesis
                  exact .refused fun allPlain => inductionHypothesis.of_error
                    fun other member => allPlain other (List.Mem.tail _ member)
              | ok columns =>
                  rw [others] at inductionHypothesis
                  cases inductionHypothesis with
                  | accepted restPlain =>
                      exact .accepted (List.forall_mem_cons.mpr ⟨plain, restPlain⟩)

end ColumnName

theorem PermanentFilters.answer_check (filters : Filters) :
    Answer (∀ key ∈ filters.keys, PlainName key) filters.keys
      ((check filters).map fun permanent => permanent.filters.keys) := by
  rw [check]
  split
  · next key improper =>
    refine .refused fun plain => ?_
    have valid : isColumnName key = true :=
      isColumnName_iff_plainName.mpr (plain key (List.mem_of_find?_eq_some improper))
    have invalid := List.find?_some improper
    rw [valid] at invalid
    contradiction
  · next proper =>
    refine .accepted fun key member => isColumnName_iff_plainName.mp ?_
    simpa using List.find?_eq_none.mp proper key member

namespace Returning

/-- The names that stand in a statement for the returned columns. -/
def names : Returning → List String
  | columns names => names.map ColumnName.text
  | everything => ["*"]

theorem answer_check (given : List String) :
    Answer (given = ["*"] ∨ ∀ name ∈ given, PlainName name) given
      ((check given).map Returning.names) := by
  rw [check]
  by_cases star : given = ["*"]
  · rw [if_pos star, star]
    exact .accepted (Or.inl rfl)
  · rw [if_neg star]
    have answer := ColumnName.answer_checkAll "returning column" given
    cases checked : ColumnName.checkAll "returning column" given with
    | error refusal =>
        rw [checked] at answer
        exact .refused fun accepted => accepted.elim star answer.of_error
    | ok columns =>
        rw [checked] at answer
        cases answer with
        | accepted plain => exact .accepted (Or.inr plain)

end Returning

namespace Template

/-- What a template holds names for. -/
inductive Role where
  | primaryKey
  | returned
  | searchable
  | ranked
  | groups
  | writable
  | selecting
  | returning
  | permanent
  deriving DecidableEq

/-- The names for each role. -/
abbrev Names := Role → List String

namespace Names

/-- Puts names in place of those for one role. -/
def write (held : Names) (role : Role) (names : List String) : Names :=
  Function.update held role names

/-- Whether every name is plain, a list of returned columns that is a star apart. -/
def Plain (held : Names) : Prop :=
  ∀ role, (∀ name ∈ held role, PlainName name) ∨ role = .returning ∧ held role = ["*"]

theorem Plain.of_ne {held : Names} (plain : held.Plain) {role : Role} (other : role ≠ .returning) :
    ∀ name ∈ held role, PlainName name :=
  (plain role).resolve_right fun star => other star.1

theorem Plain.write {held : Names} (plain : held.Plain) {role : Role} {names : List String}
    (written : (∀ name ∈ names, PlainName name) ∨ role = .returning ∧ names = ["*"]) :
    (held.write role names).Plain := by
  intro other
  by_cases same : other = role
  · rw [same, Names.write, Function.update_self]
    exact written
  · rw [Names.write, Function.update_of_ne same]
    exact plain other

end Names

/-! ## Setters -/

/-- A call that sets a part of a template. -/
inductive Setter where
  | columns (role : Role) (names : List String)
  | returning (names : List String)
  | ranking (name : String) (values : List String)
  | permanent (filters : Filters)
  | wrapped (wrapped : Bool)
  | single (single : Bool)

namespace Setter

/-- Whether a setter is given plain names alone, or the star for the returned columns. -/
def Plain : Setter → Prop
  | columns _ names => ∀ name ∈ names, PlainName name
  | returning names => names = ["*"] ∨ ∀ name ∈ names, PlainName name
  | ranking name _ => PlainName name
  | permanent filters => ∀ key ∈ filters.keys, PlainName key
  | wrapped _ => True
  | single _ => True

/-- The names of a template after a setter was accepted. A ranked column is added in lower case,
unless it is among the ranked ones. -/
def leaves (held : Names) : Setter → Names
  | columns role names => held.write role names
  | returning names => held.write .returning names
  | ranking name _ =>
      let lowered := name.map lowerCase
      if lowered ∈ held .ranked then held
      else held.write .ranked (held .ranked ++ [lowered])
  | permanent filters => held.write .permanent filters.keys
  | wrapped _ => held
  | single _ => held

theorem leaves_of_ranked {held : Names} {name : String} {values : List String}
    (ranked : name.map lowerCase ∈ held .ranked) : leaves held (ranking name values) = held :=
  if_pos ranked

theorem leaves_of_unranked {held : Names} {name : String} {values : List String}
    (unranked : name.map lowerCase ∉ held .ranked) :
    leaves held (ranking name values) =
      held.write .ranked (held .ranked ++ [name.map lowerCase]) :=
  if_neg unranked

theorem plain_leaves {setter : Setter} {held : Names} (given : setter.Plain)
    (plain : held.Plain) : (setter.leaves held).Plain := by
  cases setter with
  | columns role names => exact plain.write (Or.inl given)
  | returning names =>
      rcases given with star | names
      · exact plain.write (Or.inr ⟨rfl, star⟩)
      · exact plain.write (Or.inl names)
  | ranking name values =>
      by_cases ranked : name.map lowerCase ∈ held .ranked
      · rw [leaves_of_ranked ranked]
        exact plain
      · rw [leaves_of_unranked ranked]
        refine plain.write (Or.inl (List.forall_mem_append.mpr ⟨?_, ?_⟩))
        · exact plain.of_ne (by decide)
        · exact List.forall_mem_singleton.mpr given.lower
  | permanent filters => exact plain.write (Or.inl given)
  | wrapped wrapped => exact plain
  | single single => exact plain

end Setter

namespace Select

def names (template : Select) : Names
  | .primaryKey => template.primaryKey.map ColumnName.text
  | .returned => template.returned.map ColumnName.text
  | .searchable => (template.searchable.getD []).map ColumnName.text
  | .ranked => template.rankings.keys.map ColumnName.text
  | .groups => template.groups.map ColumnName.text
  | .permanent => template.permanent.filters.keys
  | _ => []

def set? (template : Select) : Setter → Option (Except SetupError Select)
  | .columns .primaryKey names => some (template.withPrimaryKey names)
  | .columns .returned names => some (template.withReturned names)
  | .columns .searchable names => some (template.withSearchable names)
  | .columns .groups names => some (template.withGroups names)
  | .ranking name values => some (template.withRanking name values)
  | .permanent filters => some (template.withPermanent filters)
  | .wrapped wrapped => some (.ok { template with wrapped := some wrapped })
  | .single single => some (.ok { template with single })
  | _ => none

theorem map_text_keys_insert (rankings : OrderedMap ColumnName (List String)) (column : ColumnName)
    (values : List String) :
    (rankings.insert column values).keys.map ColumnName.text =
      if column.text ∈ rankings.keys.map ColumnName.text then rankings.keys.map ColumnName.text
      else rankings.keys.map ColumnName.text ++ [column.text] := by
  have same : column.text ∈ rankings.keys.map ColumnName.text ↔ column ∈ rankings.keys :=
    List.mem_map_of_injective ColumnName.text_injective
  rw [OrderedMap.keys_insert]
  by_cases ranked : column ∈ rankings.keys
  · rw [if_pos ranked, if_pos (same.mpr ranked)]
  · rw [if_neg ranked, if_neg (mt same.mp ranked), List.map_append, List.map_singleton]

theorem names_insert (template : Select) (column : ColumnName) (values : List String) :
    names { template with rankings := template.rankings.insert column.lower values } =
      Setter.leaves template.names (.ranking column.text values) := by
  have keys := map_text_keys_insert template.rankings column.lower values
  by_cases ranked : column.lower.text ∈ template.rankings.keys.map ColumnName.text
  · rw [if_pos ranked] at keys
    rw [Setter.leaves_of_ranked ranked]
    funext role
    cases role with
    | ranked => exact keys
    | _ => rfl
  · rw [if_neg ranked] at keys
    rw [Setter.leaves_of_unranked ranked]
    funext role
    cases role with
    | ranked => exact keys
    | _ => rfl

theorem answer_set? {template : Select} {setter : Setter} {outcome : Except SetupError Select}
    (called : template.set? setter = some outcome) :
    Answer setter.Plain (setter.leaves template.names) (outcome.map names) := by
  cases setter with
  | columns role given =>
      cases role with
      | primaryKey =>
          cases called
          exact (ColumnName.answer_checkAll _ given).map (template.names.write .primaryKey)
            fun columns => funext fun role => by cases role <;> rfl
      | returned =>
          cases called
          exact (ColumnName.answer_checkAll _ given).map (template.names.write .returned)
            fun columns => funext fun role => by cases role <;> rfl
      | searchable =>
          cases called
          exact (ColumnName.answer_checkAll _ given).map (template.names.write .searchable)
            fun columns => funext fun role => by cases role <;> rfl
      | groups =>
          cases called
          exact (ColumnName.answer_checkAll _ given).map (template.names.write .groups)
            fun columns => funext fun role => by cases role <;> rfl
      | _ => contradiction
  | ranking name values =>
      cases called
      exact (ColumnName.answer_check _ name).map
        (fun name => Setter.leaves template.names (.ranking name values))
        fun column => template.names_insert column values
  | permanent filters =>
      cases called
      exact (PermanentFilters.answer_check filters).map (template.names.write .permanent)
        fun permanent => funext fun role => by cases role <;> rfl
  | wrapped wrapped =>
      cases called
      exact .accepted trivial
  | single single =>
      cases called
      exact .accepted trivial
  | returning given => contradiction

end Select

namespace Update

def names (template : Update) : Names
  | .writable => template.writable.map ColumnName.text
  | .selecting => template.selecting.map ColumnName.text
  | .returning => template.returning.names
  | .permanent => template.permanent.filters.keys
  | _ => []

def set? (template : Update) : Setter → Option (Except SetupError Update)
  | .columns .writable names => some (template.withWritable names)
  | .columns .selecting names => some (template.withSelecting names)
  | .returning names => some (template.withReturning names)
  | .permanent filters => some (template.withPermanent filters)
  | _ => none

theorem answer_set? {template : Update} {setter : Setter} {outcome : Except SetupError Update}
    (called : template.set? setter = some outcome) :
    Answer setter.Plain (setter.leaves template.names) (outcome.map names) := by
  cases setter with
  | columns role given =>
      cases role with
      | writable =>
          cases called
          exact (ColumnName.answer_checkAll _ given).map (template.names.write .writable)
            fun columns => funext fun role => by cases role <;> rfl
      | selecting =>
          cases called
          exact (ColumnName.answer_checkAll _ given).map (template.names.write .selecting)
            fun columns => funext fun role => by cases role <;> rfl
      | _ => contradiction
  | returning given =>
      cases called
      exact (Returning.answer_check given).map (template.names.write .returning)
        fun returning => funext fun role => by cases role <;> rfl
  | permanent filters =>
      cases called
      exact (PermanentFilters.answer_check filters).map (template.names.write .permanent)
        fun permanent => funext fun role => by cases role <;> rfl
  | _ => contradiction

end Update

namespace Delete

def names (template : Delete) : Names
  | .selecting => template.selecting.map ColumnName.text
  | .returning => template.returning.names
  | .permanent => template.permanent.filters.keys
  | _ => []

def set? (template : Delete) : Setter → Option (Except SetupError Delete)
  | .columns .selecting names => some (template.withSelecting names)
  | .returning names => some (template.withReturning names)
  | .permanent filters => some (template.withPermanent filters)
  | _ => none

theorem answer_set? {template : Delete} {setter : Setter} {outcome : Except SetupError Delete}
    (called : template.set? setter = some outcome) :
    Answer setter.Plain (setter.leaves template.names) (outcome.map names) := by
  cases setter with
  | columns role given =>
      cases role with
      | selecting =>
          cases called
          exact (ColumnName.answer_checkAll _ given).map (template.names.write .selecting)
            fun columns => funext fun role => by cases role <;> rfl
      | _ => contradiction
  | returning given =>
      cases called
      exact (Returning.answer_check given).map (template.names.write .returning)
        fun returning => funext fun role => by cases role <;> rfl
  | permanent filters =>
      cases called
      exact (PermanentFilters.answer_check filters).map (template.names.write .permanent)
        fun permanent => funext fun role => by cases role <;> rfl
  | _ => contradiction

end Delete

namespace BatchDelete

def names (template : BatchDelete) : Names
  | .primaryKey => template.primaryKey.map ColumnName.text
  | .returning => template.returning.names
  | .permanent => template.permanent.filters.keys
  | _ => []

def set? (template : BatchDelete) : Setter → Option (Except SetupError BatchDelete)
  | .columns .primaryKey names => some (template.withPrimaryKey names)
  | .returning names => some (template.withReturning names)
  | .permanent filters => some (template.withPermanent filters)
  | _ => none

theorem answer_withPrimaryKey (template : BatchDelete) (given : List String) :
    Answer ((∀ name ∈ given, PlainName name) ∧ given ≠ [])
      (template.names.write .primaryKey given) ((template.withPrimaryKey given).map names) := by
  rw [withPrimaryKey]
  have answer := ColumnName.answer_checkAll "primary key" given
  cases checked : ColumnName.checkAll "primary key" given with
  | error refusal =>
      rw [checked] at answer
      exact .refused fun accepted => answer.of_error accepted.1
  | ok columns =>
      rw [checked] at answer
      cases answer with
      | accepted plain =>
          by_cases missing : columns = []
          · simp only [Except.bind, dif_pos missing]
            exact .refused fun accepted => accepted.2 (List.map_eq_nil_iff.mpr missing)
          · simp only [Except.bind, dif_neg missing]
            have stated : columns.map ColumnName.text ≠ [] := mt List.map_eq_nil_iff.mp missing
            have written : names { template with primaryKey := columns, keyed := missing } =
                template.names.write .primaryKey (columns.map ColumnName.text) :=
              funext fun role => by cases role <;> rfl
            rw [← written]
            exact .accepted ⟨plain, stated⟩

theorem answer_set? {template : BatchDelete} {setter : Setter}
    {outcome : Except SetupError BatchDelete} (called : template.set? setter = some outcome) :
    Answer (setter.Plain ∧ setter ≠ .columns .primaryKey []) (setter.leaves template.names)
      (outcome.map names) := by
  cases setter with
  | columns role given =>
      cases role with
      | primaryKey =>
          cases called
          refine (template.answer_withPrimaryKey given).of_iff (and_congr_right fun _ => ?_)
          rw [ne_eq, ne_eq, Setter.columns.injEq, eq_self_iff_true, true_and]
      | _ => contradiction
  | returning given =>
      cases called
      refine Answer.of_iff ?_ (and_iff_left Setter.noConfusion).symm
      exact (Returning.answer_check given).map (template.names.write .returning)
        fun returning => funext fun role => by cases role <;> rfl
  | permanent filters =>
      cases called
      refine Answer.of_iff ?_ (and_iff_left Setter.noConfusion).symm
      exact (PermanentFilters.answer_check filters).map (template.names.write .permanent)
        fun permanent => funext fun role => by cases role <;> rfl
  | _ => contradiction

end BatchDelete

/-! ## Setting up step by step -/

/-- A template of any kind. -/
inductive Draft where
  | select (template : Select)
  | update (template : Update)
  | delete (template : Delete)
  | batchDelete (template : BatchDelete)

namespace Draft

/-- The templates that setting up starts from. -/
inductive Fresh : Draft → Prop
  | select (table : String) : Fresh (.select { table })
  | update (table : String) : Fresh (.update { table })
  | updateOne (table : String) : Fresh (.update (.one table))
  | delete (table : String) : Fresh (.delete { table })
  | deleteOne (table : String) : Fresh (.delete (.one table))
  | batchDelete (table : String) : Fresh (.batchDelete { table })

def names : Draft → Names
  | select template => template.names
  | update template => template.names
  | delete template => template.names
  | batchDelete template => template.names

/-- The outcome of a setter, if there is one of this kind. -/
def set? : Draft → Setter → Option (Except SetupError Draft)
  | select template, setter => (template.set? setter).map (Except.map select)
  | update template, setter => (template.set? setter).map (Except.map update)
  | delete template, setter => (template.set? setter).map (Except.map delete)
  | batchDelete template, setter => (template.set? setter).map (Except.map batchDelete)

/-- The setters that are accepted: those that are given plain names, except that a batch delete
needs a key. -/
def Accepts : Draft → Setter → Prop
  | batchDelete _, setter => setter.Plain ∧ setter ≠ .columns .primaryKey []
  | _, setter => setter.Plain

/-- One call. When it is refused, the template stays as it was. -/
def step (draft : Draft) (setter : Setter) : Draft :=
  match draft.set? setter with
  | some (.ok changed) => changed
  | _ => draft

def run (draft : Draft) (setters : List Setter) : Draft :=
  setters.foldl step draft

theorem answer_set? {draft : Draft} {setter : Setter} {outcome : Except SetupError Draft}
    (called : draft.set? setter = some outcome) :
    Answer (draft.Accepts setter) (setter.leaves draft.names) (outcome.map names) := by
  cases draft with
  | select template =>
      obtain ⟨answered, set, rfl⟩ := Option.map_eq_some_iff.mp called
      exact (Select.answer_set? set).map id fun _ => rfl
  | update template =>
      obtain ⟨answered, set, rfl⟩ := Option.map_eq_some_iff.mp called
      exact (Update.answer_set? set).map id fun _ => rfl
  | delete template =>
      obtain ⟨answered, set, rfl⟩ := Option.map_eq_some_iff.mp called
      exact (Delete.answer_set? set).map id fun _ => rfl
  | batchDelete template =>
      obtain ⟨answered, set, rfl⟩ := Option.map_eq_some_iff.mp called
      exact (BatchDelete.answer_set? set).map id fun _ => rfl

theorem Accepts.plain {draft : Draft} {setter : Setter} (accepts : draft.Accepts setter) :
    setter.Plain := by
  cases draft with
  | select template => exact accepts
  | update template => exact accepts
  | delete template => exact accepts
  | batchDelete template => exact accepts.1

theorem names_of_fresh {draft : Draft} (fresh : draft.Fresh) (role : Role) :
    draft.names role = [] ∨ draft.names role = ["id"] := by
  cases fresh with
  | select table =>
      cases role with
      | primaryKey => exact Or.inr rfl
      | _ => exact Or.inl rfl
  | update table =>
      cases role with
      | _ => exact Or.inl rfl
  | updateOne table =>
      cases role with
      | selecting => exact Or.inr rfl
      | _ => exact Or.inl rfl
  | delete table =>
      cases role with
      | _ => exact Or.inl rfl
  | deleteOne table =>
      cases role with
      | selecting => exact Or.inr rfl
      | _ => exact Or.inl rfl
  | batchDelete table =>
      cases role with
      | primaryKey => exact Or.inr rfl
      | _ => exact Or.inl rfl

theorem plain_of_fresh {draft : Draft} (fresh : draft.Fresh) : draft.names.Plain := by
  intro role
  refine Or.inl fun name member => ?_
  rcases names_of_fresh fresh role with none | key
  · rw [none] at member
    exact absurd member List.not_mem_nil
  · rw [key, List.mem_singleton] at member
    rw [member]
    exact isColumnName_iff_plainName.mp ColumnName.defaultKey.valid

/-- No call lets in a name that is not plain. -/
theorem plain_step {draft : Draft} (plain : draft.names.Plain) (setter : Setter) :
    (draft.step setter).names.Plain := by
  rw [step]
  split
  · next changed called =>
    obtain ⟨accepts, left⟩ := (answer_set? called).of_ok
    rw [left]
    exact Setter.plain_leaves accepts.plain plain
  · exact plain

theorem plain_run {draft : Draft} (plain : draft.names.Plain) (setters : List Setter) :
    (draft.run setters).names.Plain := by
  induction setters generalizing draft with
  | nil => exact plain
  | cons setter rest inductionHypothesis => exact inductionHypothesis (plain_step plain setter)

/-- After any calls a template holds nothing but plain names, and every call is then accepted if it
is given plain names, except that a batch delete needs a key. -/
theorem plain_run_and_isOk_iff {draft : Draft} (fresh : draft.Fresh) (setters : List Setter) :
    (draft.run setters).names.Plain ∧
      ∀ setter outcome, (draft.run setters).set? setter = some outcome →
        (outcome.isOk = true ↔ (draft.run setters).Accepts setter) := by
  constructor
  · exact plain_run (plain_of_fresh fresh) setters
  · intro setter outcome called
    exact (answer_set? called).isOk_iff

/-- A batch delete refuses a key column that is not plain, and an empty key. -/
theorem plain_run_and_isOk_iff_batchDelete :
    let draft := Draft.run (.batchDelete { table := "tags" })
      [.columns .primaryKey ["tags.id", "lang"], .columns .primaryKey ["id;"], .returning ["*"]]
    draft.names.Plain ∧ draft.names .primaryKey = ["tags.id", "lang"] ∧
      ∃ outcome, draft.set? (.columns .primaryKey []) = some outcome ∧ outcome.isOk = false := by
  intro draft
  obtain ⟨plain, answers⟩ := plain_run_and_isOk_iff (.batchDelete "tags")
    [.columns .primaryKey ["tags.id", "lang"], .columns .primaryKey ["id;"], .returning ["*"]]
  have keyless := answers (.columns .primaryKey []) _ rfl
  exact ⟨plain, rfl, _, rfl, Bool.eq_false_iff.mpr fun accepted => (keyless.mp accepted).2 rfl⟩

end Draft

end Template

end FilterSql
