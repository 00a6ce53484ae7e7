import FilterSql.Proofs.BoundLists

/-!
# Filters of a document

A document stands for filters when it is an object and every member of it has a filter value. The
members are gone through in the byte order of their keys, so the least key whose member has none is
the one that is reported. Which documents have a value, and which one, is said here by relations on
the tree of the document; the main result is that a document yields by these relations what is
computed for it, and nothing else.
-/

namespace FilterSql

namespace Json

/-- The one text comes before the other in the order of their bytes in UTF-8. -/
def BytesBefore (left right : String) : Prop :=
  left.toUTF8.data.toList < right.toUTF8.data.toList

instance (left right : String) : Decidable (BytesBefore left right) :=
  inferInstanceAs (Decidable (left.toUTF8.data.toList < right.toUTF8.data.toList))

theorem BytesBefore.asymm {left right : String} (before : BytesBefore left right) :
    ¬BytesBefore right left :=
  List.lt_asymm before

theorem BytesBefore.trans {first second third : String} (left : BytesBefore first second)
    (right : BytesBefore second third) : BytesBefore first third :=
  List.lt_trans left right

theorem BytesBefore.ne {left right : String} (before : BytesBefore left right) :
    left ≠ right := by
  rintro rfl
  exact List.lt_irrefl _ before

namespace Document

/-- The keys of an object are distinct and stand in the order of their bytes. -/
def Ordered : Document → Prop
  | object members => members.Pairwise fun earlier later => BytesBefore earlier.1 later.1
  | _ => True

/-- A document without a filter value: an object, an integer beyond 64 signed bits, or an array that
has such a document at any depth. -/
inductive Unsupported : Document → Prop
  | object (members : List (String × Document)) : Unsupported (.object members)
  | beyond {number : UInt64} (large : Int64.maxValue.toInt < number.toNat) :
      Unsupported (.number (.unsigned number))
  | item {items : List Document} {item : Document} (member : item ∈ items)
      (unsupported : Unsupported item) : Unsupported (.array items)

/-- The value keeps the document: scalars are the same, integers as numbers, and arrays are the same
item by item. -/
inductive Converts : Document → Value → Prop
  | null : Converts .null .null
  | bool (truth : Bool) : Converts (.bool truth) (.bool truth)
  | signed (number : Int64) : Converts (.number (.signed number)) (.int number)
  | unsigned {number : UInt64} {whole : Int64} (same : whole.toInt = number.toNat) :
      Converts (.number (.unsigned number)) (.int whole)
  | float (number : Binary64) : Converts (.number (.float number)) (.float number)
  | text (content : String) : Converts (.text content) (.text content)
  | array {items : List Document} {values : List Value} (length : items.length = values.length)
      (each : ∀ index (inItems : index < items.length) (inValues : index < values.length),
        Converts items[index] values[index]) :
      Converts (.array items) (.array values)

end Document

variable {document : Document} {value : Value}

theorem toInt_toInt64 {number : UInt64} (small : number.toNat < 0x8000000000000000) :
    number.toInt64.toInt = number.toNat := by
  have half : 2 * number.toBitVec.toNat < 2 ^ 64 := by
    change 2 * number.toNat < 2 ^ 64
    omega
  exact BitVec.toInt_eq_toNat_of_lt half

theorem value?_unsigned_eq_some_iff {number : UInt64} :
    (Number.unsigned number).value? = some value ↔
      ∃ whole : Int64, whole.toInt = number.toNat ∧ value = .int whole := by
  rw [Number.value?, Option.ite_none_right_eq_some]
  constructor
  · rintro ⟨small, converted⟩
    exact ⟨number.toInt64, toInt_toInt64 small, (Option.some.inj converted).symm⟩
  · rintro ⟨whole, same, rfl⟩
    have bounded := whole.toInt_lt
    have small : number.toNat < 0x8000000000000000 := by omega
    have kept : number.toInt64 = whole := Int64.toInt_inj.mp ((toInt_toInt64 small).trans same.symm)
    exact ⟨small, by rw [kept]⟩

theorem value?_unsigned_eq_none_iff {number : UInt64} :
    (Number.unsigned number).value? = none ↔ Int64.maxValue.toInt < number.toNat := by
  have limit : Int64.maxValue.toInt = 0x7fffffffffffffff := by decide
  rw [Number.value?, ite_eq_right_iff, limit]
  constructor
  · intro large
    by_contra small
    cases large (by omega)
  · intro large small
    omega

theorem values?_eq_some_iff {items : List Document} {values : List Value} :
    Document.values? items = some values ↔
      List.Forall₂ (fun item value => item.value? = some value) items values := by
  induction items generalizing values with
  | nil => simp [Document.values?, eq_comm]
  | cons item rest inductionHypothesis =>
      rw [Document.values?, List.forall₂_cons_left_iff]
      cases item.value? with
      | none => simp
      | some first =>
          rw [Option.map_eq_some_iff]
          constructor
          · rintro ⟨later, others, rfl⟩
            exact ⟨first, later, rfl, inductionHypothesis.mp others, rfl⟩
          · rintro ⟨_, later, same, others, rfl⟩
            cases same
            exact ⟨later, inductionHypothesis.mpr others, rfl⟩

theorem values?_eq_none_iff {items : List Document} :
    Document.values? items = none ↔ ∃ item ∈ items, item.value? = none := by
  induction items with
  | nil => simp [Document.values?]
  | cons item rest inductionHypothesis =>
      rw [Document.values?]
      cases first : item.value? with
      | none => simp [first]
      | some value => simp [first, inductionHypothesis]

mutual

theorem converts_of_value? :
    ∀ {document : Document} {value : Value}, document.value? = some value →
      document.Converts value
  | .null, _, rfl => .null
  | .bool truth, _, rfl => .bool truth
  | .number (.signed number), _, rfl => .signed number
  | .number (.unsigned _), _, read => by
      obtain ⟨whole, same, rfl⟩ := value?_unsigned_eq_some_iff.mp read
      exact .unsigned same
  | .number (.float number), _, rfl => .float number
  | .text content, _, rfl => .text content
  | .array _, _, read => by
      obtain ⟨values, each, rfl⟩ := Option.map_eq_some_iff.mp read
      obtain ⟨length, converted⟩ := List.forall₂_iff_get.mp (forall₂_converts_of_values? each)
      exact .array length converted

theorem forall₂_converts_of_values? :
    ∀ {items : List Document} {values : List Value}, Document.values? items = some values →
      List.Forall₂ Document.Converts items values
  | [], _, rfl => .nil
  | _ :: _, _, read => by
      rw [Document.values?] at read
      split at read
      · cases read
      · next first =>
        obtain ⟨later, others, rfl⟩ := Option.map_eq_some_iff.mp read
        exact .cons (converts_of_value? first) (forall₂_converts_of_values? others)

end

/-- The value of a document is the one that keeps it. -/
theorem value?_eq_some_iff :
    document.value? = some value ↔ document.Converts value := by
  constructor
  · exact converts_of_value?
  · intro converted
    induction converted with
    | unsigned same => exact value?_unsigned_eq_some_iff.mpr ⟨_, same, rfl⟩
    | array length _ inductionHypothesis =>
        exact congrArg (Option.map Value.array)
          (values?_eq_some_iff.mpr (List.forall₂_iff_get.mpr ⟨length, inductionHypothesis⟩))
    | _ => rfl

mutual

theorem unsupported_of_value?_eq_none :
    ∀ {document : Document}, document.value? = none → document.Unsupported
  | .number (.unsigned _), unread => .beyond (value?_unsigned_eq_none_iff.mp unread)
  | .array _, unread => by
      obtain ⟨item, member, unsupported⟩ :=
        exists_unsupported_of_values?_eq_none (Option.map_eq_none_iff.mp unread)
      exact .item member unsupported
  | .object members, _ => .object members

theorem exists_unsupported_of_values?_eq_none :
    ∀ {items : List Document}, Document.values? items = none →
      ∃ item ∈ items, item.Unsupported
  | item :: rest, unread => by
      rw [Document.values?] at unread
      split at unread
      · next first =>
        exact ⟨item, List.Mem.head rest, unsupported_of_value?_eq_none first⟩
      · obtain ⟨other, member, unsupported⟩ :=
          exists_unsupported_of_values?_eq_none (Option.map_eq_none_iff.mp unread)
        exact ⟨other, List.Mem.tail item member, unsupported⟩

end

theorem value?_eq_none_iff :
    document.value? = none ↔ document.Unsupported := by
  constructor
  · exact unsupported_of_value?_eq_none
  · intro unsupported
    induction unsupported with
    | object members => rfl
    | beyond large => exact value?_unsigned_eq_none_iff.mpr large
    | item member _ inductionHypothesis =>
        exact congrArg (Option.map Value.array)
          (values?_eq_none_iff.mpr ⟨_, member, inductionHypothesis⟩)

theorem Document.Converts.not_unsupported (converted : document.Converts value) :
    ¬document.Unsupported := by
  intro unsupported
  rw [← value?_eq_some_iff, value?_eq_none_iff.mpr unsupported] at converted
  cases converted

/-! ## The outcome for a document -/

/-- The first key, in the order of bytes, whose member has no filter value. -/
def LeastUnsupported (members : List (String × Document)) (key : String) : Prop :=
  ∃ document, (key, document) ∈ members ∧ document.Unsupported ∧
    ∀ other ∈ members, other.2.Unsupported → other.1 = key ∨ BytesBefore key other.1

/-- What a document should lead to, said without going through its members in turn. -/
inductive Document.Yields : Document → Except ParseError Filters → Prop
  | notAnObject {document : Document} (other : ∀ members, document ≠ .object members) :
      Yields document (.error .notAnObject)
  | unsupported {members : List (String × Document)} {key : String}
      (least : LeastUnsupported members key) :
      Yields (.object members) (.error (.unsupportedValue key))
  | filters {members : List (String × Document)} {filters : Filters}
      (supported : ∀ member ∈ members, ¬member.2.Unsupported)
      (converted : List.Forall₂ (fun member entry =>
        member.1 = entry.1 ∧ member.2.Converts entry.2) members filters.entries) :
      Yields (.object members) (.ok filters)

theorem LeastUnsupported.unique {members : List (String × Document)} {left right : String}
    (first : LeastUnsupported members left) (second : LeastUnsupported members right) :
    left = right := by
  obtain ⟨leftDocument, leftMember, leftUnsupported, leftLeast⟩ := first
  obtain ⟨rightDocument, rightMember, rightUnsupported, rightLeast⟩ := second
  rcases leftLeast _ rightMember rightUnsupported with same | leftBefore
  · exact same.symm
  · rcases rightLeast _ leftMember leftUnsupported with same | rightBefore
    · exact same
    · exact absurd rightBefore leftBefore.asymm

theorem eq_of_forall₂_converts {members : List (String × Document)}
    {left right : List (String × Value)}
    (first : List.Forall₂ (fun member entry =>
      member.1 = entry.1 ∧ member.2.Converts entry.2) members left)
    (second : List.Forall₂ (fun member entry =>
      member.1 = entry.1 ∧ member.2.Converts entry.2) members right) :
    left = right := by
  induction first generalizing right with
  | nil => cases second; rfl
  | cons leftEntry _ inductionHypothesis =>
      cases second with
      | cons rightEntry others =>
          have keys := leftEntry.1.symm.trans rightEntry.1
          have values := (value?_eq_some_iff.mpr leftEntry.2).symm.trans
            (value?_eq_some_iff.mpr rightEntry.2)
          rw [Prod.ext keys (Option.some.inj values), inductionHypothesis others]

/-- A document yields one outcome at most. -/
theorem Document.Yields.unique {left right : Except ParseError Filters}
    (first : document.Yields left) (second : document.Yields right) : left = right := by
  cases first with
  | notAnObject other =>
      cases second with
      | notAnObject _ => rfl
      | _ => exact absurd rfl (other _)
  | unsupported least =>
      cases second with
      | notAnObject other => exact absurd rfl (other _)
      | unsupported otherLeast => rw [least.unique otherLeast]
      | filters supported _ =>
          obtain ⟨_, member, unsupported, _⟩ := least
          exact absurd unsupported (supported _ member)
  | filters supported converted =>
      cases second with
      | notAnObject other => exact absurd rfl (other _)
      | unsupported least =>
          obtain ⟨_, member, unsupported, _⟩ := least
          exact absurd unsupported (supported _ member)
      | filters _ otherConverted =>
          rw [OrderedMap.ext_entries (eq_of_forall₂_converts converted otherConverted)]

theorem memberFilter_eq_error_iff {member : String × Document} {reason : ParseError} :
    memberFilter member = .error reason ↔
      member.2.value? = none ∧ reason = .unsupportedValue member.1 := by
  rw [memberFilter]
  cases member.2.value? with
  | none => simp [eq_comm]
  | some value => simp

/-- Reading stops at the first member without a value. -/
theorem exists_of_mapM_memberFilter_eq_error {members : List (String × Document)}
    {reason : ParseError} (stopped : members.mapM memberFilter = .error reason) :
    ∃ earlier member later, members = earlier ++ member :: later ∧
      (∀ other ∈ earlier, ∃ value, other.2.value? = some value) ∧
      member.2.value? = none ∧ reason = .unsupportedValue member.1 := by
  induction members with
  | nil => cases stopped
  | cons member rest inductionHypothesis =>
      rw [List.mapM_cons] at stopped
      cases first : memberFilter member with
      | error early =>
          rw [first] at stopped
          cases stopped
          exact ⟨[], member, rest, rfl, nofun, memberFilter_eq_error_iff.mp first⟩
      | ok entry =>
          rw [first] at stopped
          cases others : rest.mapM memberFilter with
          | ok later => rw [others] at stopped; cases stopped
          | error late =>
              rw [others] at stopped
              cases stopped
              obtain ⟨earlier, found, later, split, read, unread⟩ := inductionHypothesis others
              refine ⟨member :: earlier, found, later, by rw [split, List.cons_append], ?_, unread⟩
              intro other inEarlier
              rcases List.mem_cons.mp inEarlier with rfl | inRest
              · exact ⟨entry.2, (memberFilter_eq_ok_iff.mp first).2⟩
              · exact read other inRest

theorem leastUnsupported_of_split {earlier later : List (String × Document)}
    {member : String × Document}
    (ordered : (Document.object (earlier ++ member :: later)).Ordered)
    (read : ∀ other ∈ earlier, ¬other.2.Unsupported) (unread : member.2.Unsupported) :
    LeastUnsupported (earlier ++ member :: later) member.1 := by
  refine ⟨member.2, List.mem_append_right earlier (List.Mem.head later), unread, ?_⟩
  intro other inMembers unsupported
  rcases List.mem_append.mp inMembers with inEarlier | notEarlier
  · exact absurd unsupported (read other inEarlier)
  · rcases List.mem_cons.mp notEarlier with rfl | inLater
    · exact Or.inl rfl
    · have behind := (List.pairwise_append.mp ordered).2.1
      exact Or.inr (List.rel_of_pairwise_cons behind inLater)

theorem nodup_keys_of_ordered {members : List (String × Document)}
    (ordered : (Document.object members).Ordered) : (members.map Prod.fst).Nodup :=
  List.pairwise_map.mpr (ordered.imp BytesBefore.ne)

theorem entries_ofList_of_forall₂ {members : List (String × Document)}
    {entries : List (String × Value)} (ordered : (Document.object members).Ordered)
    (sameKeys : List.Forall₂ (fun member entry => member.1 = entry.1) members entries) :
    (OrderedMap.ofList entries).entries = entries := by
  have keys : members.map Prod.fst = entries.map Prod.fst := by
    rw [← List.forall₂_eq_eq_eq, List.forall₂_map_left_iff, List.forall₂_map_right_iff]
    exact sameKeys
  have distinct : (entries.map Prod.fst).Nodup := keys ▸ nodup_keys_of_ordered ordered
  exact OrderedMap.entries_insertMany_of_disjoint distinct nofun

/-- A document yields what is computed for it. -/
theorem yields_filters (ordered : document.Ordered) : document.Yields document.filters := by
  cases document with
  | object members =>
      cases read : members.mapM memberFilter with
      | error reason =>
          rw [Document.filters, read]
          obtain ⟨earlier, member, later, rfl, readable, unread, rfl⟩ :=
            exists_of_mapM_memberFilter_eq_error read
          apply Document.Yields.unsupported
          apply leastUnsupported_of_split ordered _ (value?_eq_none_iff.mp unread)
          intro other inEarlier
          obtain ⟨value, found⟩ := readable other inEarlier
          exact (value?_eq_some_iff.mp found).not_unsupported
      | ok entries =>
          rw [Document.filters, read]
          have each := forall₂_of_mapM_memberFilter read
          have converted : List.Forall₂ (fun member entry => ¬member.2.Unsupported ∧
              member.1 = entry.1 ∧ member.2.Converts entry.2) members entries :=
            each.imp fun member entry same =>
              have kept := value?_eq_some_iff.mp same.2
              ⟨kept.not_unsupported, same.1, kept⟩
          obtain ⟨supported, converted⟩ := (List.forall₂_and_left _ _).mp converted
          apply Document.Yields.filters supported
          rw [entries_ofList_of_forall₂ ordered (each.imp fun _ _ same => same.1)]
          exact converted
  | _ =>
      apply Document.Yields.notAnObject
      intro members same
      cases same

/-- What is computed for a document is what it yields, and nothing else. -/
theorem filters_eq_iff_yields (ordered : document.Ordered)
    (outcome : Except ParseError Filters) :
    document.filters = outcome ↔ document.Yields outcome := by
  constructor
  · rintro rfl
    exact yields_filters ordered
  · exact (yields_filters ordered).unique

/-- Two members have no value, and the bytes of `U+FFFF` come before those of the other key. -/
theorem filters_eq_iff_yields_least_key :
    let document : Document := .object
      [("age", .array [.array [.number (.unsigned 5)], .array []]),
        ("\uffff", .array [.null, .array [.number (.unsigned 0x8000000000000000)]]),
        ("😀", .object [])]
    document.Ordered ∧ document.filters = .error (.unsupportedValue "\uffff") ∧
      document.Yields (.error (.unsupportedValue "\uffff")) := by
  intro document
  have ordered : document.Ordered := by
    change List.Pairwise _ _
    decide
  have stopped : document.filters = .error (.unsupportedValue "\uffff") := rfl
  exact ⟨ordered, stopped, (filters_eq_iff_yields ordered _).mp stopped⟩

end Json

end FilterSql
