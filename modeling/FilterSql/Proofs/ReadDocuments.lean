import FilterSql.Proofs.DocumentFilters

/-!
# Documents that are read

The reader puts the members of an object in the order of their keys as texts, that is, character by
character. This is the order of their bytes, since UTF-8 encodes a larger character by larger bytes.
So every document that is read is ordered, and the filters read from a text are determined without
an assumption on the document.
-/

namespace FilterSql

namespace Json

theorem toList_toUTF8 (text : String) :
    text.toUTF8.data.toList = text.toList.flatMap String.utf8EncodeChar := by
  rw [String.toUTF8, ← String.utf8Encode_toList, List.utf8Encode, List.data_toByteArray]

theorem ofNat_cons_lt_iff {first second : Nat} {left right : List UInt8}
    (firstByte : first < 256) (secondByte : second < 256) :
    UInt8.ofNat first :: left < UInt8.ofNat second :: right ↔
      first < second ∨ first = second ∧ left < right := by
  rw [List.cons_lt_cons_iff, UInt8.lt_iff_toNat_lt, ← UInt8.toNat_inj, UInt8.toNat_ofNat',
    UInt8.toNat_ofNat', Nat.mod_eq_of_lt firstByte, Nat.mod_eq_of_lt secondByte]

theorem toNat_char_lt (c : Char) : c.toNat < 0x110000 := by
  rcases c.valid with low | high
  · exact Nat.lt_trans low (by decide)
  · exact high.2

/-- The encodings differ before the first of them ends, so it does not matter what follows. -/
theorem utf8EncodeChar_append_lt {c d : Char} (smaller : c < d) (left right : List UInt8) :
    String.utf8EncodeChar c ++ left < String.utf8EncodeChar d ++ right := by
  have below : c.val.toNat < d.val.toNat := smaller
  have bounded : d.val.toNat < 0x110000 := toNat_char_lt d
  rw [String.utf8EncodeChar, String.utf8EncodeChar]
  generalize c.val.toNat = m at below ⊢
  generalize d.val.toNat = n at below bounded ⊢
  have digits : ∀ k : Nat, k / 64 / 64 = k / 4096 ∧ k / 4096 / 64 = k / 262144 := fun k =>
    ⟨Nat.div_div_eq_div_mul k 64 64, Nat.div_div_eq_div_mul k 4096 64⟩
  obtain ⟨lowM, highM⟩ := digits m
  obtain ⟨lowN, highN⟩ := digits n
  have leadM : m / 262144 % 8 = m / 262144 := Nat.mod_eq_of_lt (by omega)
  have leadN : n / 262144 % 8 = n / 262144 := Nat.mod_eq_of_lt (by omega)
  rw [leadM, leadN]
  clear leadM leadN
  -- One case for each pair of lengths; the first bytes already decide it where the lengths differ.
  split_ifs <;>
    simp (disch := omega) only [List.cons_append, List.nil_append, ofNat_cons_lt_iff] <;> omega

theorem flatMap_utf8EncodeChar_lt {left right : List Char} (smaller : left < right) :
    left.flatMap String.utf8EncodeChar < right.flatMap String.utf8EncodeChar := by
  induction left generalizing right with
  | nil =>
      cases right with
      | nil => exact absurd smaller (List.lt_irrefl [])
      | cons d rest =>
          rw [List.flatMap_nil, List.flatMap_cons]
          cases bytes : String.utf8EncodeChar d with
          | nil => exact absurd bytes String.utf8EncodeChar_ne_nil
          | cons first later => exact List.nil_lt_cons _ _
  | cons c initial inductionHypothesis =>
      cases right with
      | nil => exact absurd smaller (List.not_lt_nil _)
      | cons d rest =>
          rw [List.flatMap_cons, List.flatMap_cons]
          rcases List.cons_lt_cons_iff.mp smaller with differ | ⟨rfl, later⟩
          · exact utf8EncodeChar_append_lt differ _ _
          · exact List.append_left_lt (inductionHypothesis later)

/-- The byte order of UTF-8 is the order by characters. -/
theorem bytesBefore_iff_lt {left right : String} : BytesBefore left right ↔ left < right := by
  have before_of_lt : ∀ {first second : String}, first < second → BytesBefore first second := by
    intro first second smaller
    rw [BytesBefore, toList_toUTF8, toList_toUTF8]
    exact flatMap_utf8EncodeChar_lt smaller
  constructor
  · intro before
    by_contra atLeast
    have atMost : ¬right < left := fun larger => before.asymm (before_of_lt larger)
    exact before.ne (String.le_antisymm atMost atLeast)
  · exact before_of_lt

theorem mem_insertMember {key : String} {document : Document}
    {members : List (String × Document)} {member : String × Document}
    (inserted : member ∈ insertMember key document members) :
    member = (key, document) ∨ member ∈ members := by
  induction members with
  | nil => exact Or.inl (List.mem_singleton.mp inserted)
  | cons first rest inductionHypothesis =>
      rw [insertMember] at inserted
      split at inserted
      · exact List.mem_cons.mp inserted
      · split at inserted
        · exact (List.mem_cons.mp inserted).imp_right (List.mem_cons_of_mem first)
        · rcases List.mem_cons.mp inserted with rfl | later
          · exact Or.inr List.mem_cons_self
          · exact (inductionHypothesis later).imp_right (List.mem_cons_of_mem first)

theorem ordered_insertMember {members : List (String × Document)}
    (ordered : (Document.object members).Ordered) (key : String) (document : Document) :
    (Document.object (insertMember key document members)).Ordered := by
  induction members with
  | nil => exact List.pairwise_singleton _ _
  | cons first rest inductionHypothesis =>
      obtain ⟨before, restOrdered⟩ := List.pairwise_cons.mp ordered
      change List.Pairwise _ (insertMember key document (first :: rest))
      rw [insertMember]
      by_cases smaller : key < first.1
      · rw [if_pos smaller]
        have leads : BytesBefore key first.1 := bytesBefore_iff_lt.mpr smaller
        refine List.pairwise_cons.mpr ⟨?_, ordered⟩
        intro other member
        rcases List.mem_cons.mp member with rfl | later
        · exact leads
        · exact leads.trans (before other later)
      · rw [if_neg smaller]
        by_cases same : key = first.1
        · rw [if_pos same]
          exact List.pairwise_cons.mpr ⟨fun other later => same ▸ before other later, restOrdered⟩
        · rw [if_neg same]
          have larger : first.1 < key := by
            by_contra atMost
            exact same (String.le_antisymm atMost smaller)
          have follows : BytesBefore first.1 key := bytesBefore_iff_lt.mpr larger
          refine List.pairwise_cons.mpr ⟨?_, inductionHypothesis restOrdered⟩
          intro other inserted
          rcases mem_insertMember inserted with rfl | later
          · exact follows
          · exact before other later

/-- The members that a container has so far are in order. -/
def Frame.Ordered : Frame → Prop
  | array _ => True
  | object members _ => (Document.object members).Ordered

def Token.Ordered : Token → Prop
  | plain document => document.Ordered
  | _ => True

namespace Reading

/-- The objects that are being read, and the document that was read last, are in order. -/
def Ordered : Reading → Prop
  | value frames | firstItem frames | firstKey frames => ∀ frame ∈ frames, frame.Ordered
  | key frames members | colon frames members _ =>
      (∀ frame ∈ frames, frame.Ordered) ∧ (Document.object members).Ordered
  | complete frames document => (∀ frame ∈ frames, frame.Ordered) ∧ document.Ordered

variable {reading next : Reading} {frames : List Frame} {token : Token}

theorem ordered_of_beginValue? (framesOrdered : ∀ frame ∈ frames, frame.Ordered)
    (tokenOrdered : token.Ordered) (begun : beginValue? frames token = some next) :
    next.Ordered := by
  cases token with
  | mark mark =>
      cases mark with
      | beginArray => cases begun; exact framesOrdered
      | beginObject => cases begun; exact framesOrdered
      | _ => cases begun
  | text content => cases begun; exact ⟨framesOrdered, trivial⟩
  | plain document => cases begun; exact ⟨framesOrdered, tokenOrdered⟩

/-- A token keeps the order: only a member that has ended changes an object, and it is put in its
place by key. -/
theorem ordered_of_step? (ordered : reading.Ordered) (tokenOrdered : token.Ordered)
    (stepped : reading.step? token = some next) : next.Ordered := by
  rw [step?.eq_def] at stepped
  -- The cases are the transitions of the machine, in their order there.
  split at stepped
  · exact ordered_of_beginValue? ordered tokenOrdered stepped
  · cases stepped
    exact ⟨ordered, trivial⟩
  · apply ordered_of_beginValue? _ tokenOrdered stepped
    exact List.forall_mem_cons.mpr ⟨trivial, ordered⟩
  · cases stepped
    exact ⟨ordered, List.Pairwise.nil⟩
  · cases stepped
    exact ⟨ordered, List.Pairwise.nil⟩
  · cases stepped
    exact ordered
  · cases stepped
    exact List.forall_mem_cons.mpr ⟨ordered.2, ordered.1⟩
  · cases stepped
    exact List.forall_mem_cons.mpr ⟨trivial, (List.forall_mem_cons.mp ordered.1).2⟩
  · cases stepped
    exact ⟨(List.forall_mem_cons.mp ordered.1).2, trivial⟩
  · cases stepped
    obtain ⟨object, frames⟩ := List.forall_mem_cons.mp ordered.1
    exact ⟨frames, ordered_insertMember object _ _⟩
  · cases stepped
    obtain ⟨object, frames⟩ := List.forall_mem_cons.mp ordered.1
    exact ⟨frames, ordered_insertMember object _ _⟩
  · cases stepped

theorem ordered_of_foldlM {tokens : List Token} (ordered : reading.Ordered)
    (tokensOrdered : ∀ token ∈ tokens, token.Ordered)
    (run : tokens.foldlM step? reading = some next) : next.Ordered := by
  induction tokens generalizing reading with
  | nil => cases run; exact ordered
  | cons token rest inductionHypothesis =>
      rw [List.foldlM_cons] at run
      obtain ⟨middle, first, later⟩ := Option.bind_eq_some_iff.mp run
      obtain ⟨tokenOrdered, restOrdered⟩ := List.forall_mem_cons.mp tokensOrdered
      exact inductionHypothesis (ordered_of_step? ordered tokenOrdered first) restOrdered later

end Reading

theorem ordered_of_ofLexeme? {lexeme : Lexeme} {token : Token}
    (meaning : Token.ofLexeme? lexeme = some token) : token.Ordered := by
  cases lexeme with
  | mark found => cases meaning; trivial
  | quoted body =>
      obtain ⟨content, _, rfl⟩ := Option.map_eq_some_iff.mp meaning
      trivial
  | word body =>
      obtain ⟨document, read, rfl⟩ := Option.map_eq_some_iff.mp meaning
      change document.Ordered
      rw [wordDocument?] at read
      split_ifs at read
      · cases read; trivial
      · cases read; trivial
      · cases read; trivial
      · obtain ⟨number, _, rfl⟩ := Option.map_eq_some_iff.mp read
        trivial

theorem ordered_of_mapM_ofLexeme? {lexemes : List Lexeme} {tokens : List Token}
    (meaning : lexemes.mapM Token.ofLexeme? = some tokens) :
    ∀ token ∈ tokens, token.Ordered := by
  induction lexemes generalizing tokens with
  | nil => cases meaning; exact List.forall_mem_nil _
  | cons lexeme rest inductionHypothesis =>
      rw [List.mapM_cons] at meaning
      obtain ⟨token, first, meant⟩ := Option.bind_eq_some_iff.mp meaning
      obtain ⟨later, others, collected⟩ := Option.bind_eq_some_iff.mp meant
      cases collected
      exact List.forall_mem_cons.mpr ⟨ordered_of_ofLexeme? first, inductionHypothesis others⟩

/-- Every document that is read from a text is ordered. -/
theorem ordered_of_parse? {text : String} {document : Document}
    (read : Document.parse? text = some document) : document.Ordered := by
  obtain ⟨lexemes, _, meant⟩ := Option.bind_eq_some_iff.mp read
  obtain ⟨tokens, meaning, ran⟩ := Option.bind_eq_some_iff.mp meant
  obtain ⟨reading, run, ended⟩ := Option.bind_eq_some_iff.mp ran
  have start : (Reading.value []).Ordered := List.forall_mem_nil _
  have ordered : reading.Ordered :=
    Reading.ordered_of_foldlM start (ordered_of_mapM_ofLexeme? meaning) run
  cases reading with
  | complete frames last =>
      cases frames with
      | nil => cases ended; exact ordered.2
      | cons _ _ => cases ended
  | _ => cases ended

end Json

namespace Filters

/-- What is read from a text is what its document yields, if it is a JSON text at all. -/
theorem parse_eq_iff {text : String} {outcome : Except ParseError Filters} :
    parse text = outcome ↔
      Json.Document.parse? text = none ∧ outcome = .error .invalidJson ∨
        ∃ document, Json.Document.parse? text = some document ∧ document.Yields outcome := by
  rw [parse]
  cases read : Json.Document.parse? text with
  | none => simp [eq_comm]
  | some document =>
      have yields := Json.yields_filters (Json.ordered_of_parse? read)
      constructor
      · rintro rfl
        exact Or.inr ⟨document, rfl, yields⟩
      · rintro (⟨⟨⟩, _⟩ | ⟨other, same, otherYields⟩)
        cases same
        exact yields.unique otherYields

end Filters

end FilterSql
