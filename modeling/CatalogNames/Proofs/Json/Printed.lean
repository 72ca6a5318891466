import CatalogNames.Json.Printer
import CatalogNames.Json.Reader
import CatalogNames.Proofs.Fields
import CatalogNames.Proofs.Text.Split

/-! What is written is read back. Escaped characters are read one at a time, so a quoted text is read
up to its closing quote, whatever stands behind it. A record of texts is read back from every layout
that puts nothing but spaces between the marks. -/

namespace CatalogNames.Json

theorem hexValue?_digitChar (value : Nat) (small : value < 16) :
    hexValue? (Nat.digitChar value) = some value := by
  revert value
  decide

/-- Each letter stands for one character, and neither starts a code nor is the slash. -/
theorem find?_letters (pair : Char × Char) (listed : pair ∈ letters) :
    pair.1 ≠ 'u' ∧ pair.1 ≠ '/' ∧ letters.find? (fun other => other.1 = pair.1) = some pair := by
  revert pair
  decide

/-- The code of a control character is two zeros and two digits for the rest. -/
theorem readCode_control (value : Nat) (small : value < 0x20) (rest : Text) :
    readCode ('0' :: '0' :: Nat.digitChar (value / 16) :: Nat.digitChar (value % 16) :: rest) =
      some (value, rest) := by
  have zero : hexValue? '0' = some 0 := hexValue?_digitChar 0 (by decide)
  have high := hexValue?_digitChar (value / 16) (by omega)
  have low := hexValue?_digitChar (value % 16) (by omega)
  have whole : value / 16 * 16 + value % 16 = value := by omega
  simp [readCode, zero, high, low, whole]

theorem readChar_escape (char : Char) (rest : Text) :
    readChar (escape char ++ rest) = some (char, rest) := by
  unfold escape
  split
  next letter stood found =>
    have listed := List.mem_of_find?_eq_some found
    have same : stood = char := by simpa using List.find?_some found
    obtain ⟨noCode, noSlash, read⟩ := find?_letters (letter, stood) listed
    simp only [List.cons_append, List.nil_append, readChar, if_neg noCode, if_neg noSlash, read,
      Option.map_some, same]
  next unlettered =>
    split
    next control =>
      have below : char.toNat < 0xD800 := by omega
      simp [readChar, readCoded, readCode_control char.toNat control, below]
    next plain =>
      have unlisted := List.find?_eq_none.mp unlettered
      have noQuote : char ≠ '"' := fun same => unlisted ('"', '"') (by decide) (by simp [same])
      have noSlash : char ≠ '\\' := fun same => unlisted ('\\', '\\') (by decide) (by simp [same])
      rw [List.singleton_append]
      unfold readChar
      split
      all_goals simp_all

theorem escape_ne_nil (char : Char) : escape char ≠ [] := by
  intro empty
  have read := readChar_escape char []
  rw [empty] at read
  contradiction

theorem length_le_escaped (text : Text) : text.length ≤ (text.flatMap escape).length := by
  induction text with
  | nil => exact Nat.le_refl 0
  | cons char rest ih =>
      have filled := List.length_pos_of_ne_nil (escape_ne_nil char)
      rw [List.flatMap_cons, List.length_append, List.length_cons]
      omega

/-- A character that is read is no closing quote. -/
theorem readChars_of_readChar (bound : Nat) (text rest : Text) (char : Char)
    (read : readChar text = some (char, rest)) :
    readChars (bound + 1) text =
      (readChars bound rest).map fun read => (char :: read.1, read.2) := by
  conv_lhs => unfold readChars
  split
  next closed => simp [readChar] at read
  next =>
    rw [read]
    cases more : readChars bound rest with
    | none => simp [more]
    | some read => simp [more]

theorem readChars_escaped (text rest : Text) (bound : Nat) (enough : text.length < bound) :
    readChars bound (text.flatMap escape ++ '"' :: rest) = some (text, rest) := by
  induction text generalizing bound with
  | nil =>
      obtain ⟨bound, rfl⟩ := Nat.exists_eq_add_one_of_ne_zero (Nat.ne_of_gt enough)
      rfl
  | cons char more ih =>
      obtain ⟨bound, rfl⟩ := Nat.exists_eq_add_one_of_ne_zero (Nat.ne_zero_of_lt enough)
      rw [List.flatMap_cons, List.append_assoc,
        readChars_of_readChar bound _ _ char (readChar_escape char _),
        ih bound (Nat.lt_of_succ_lt_succ enough)]
      rfl

theorem readString_escaped (text rest : Text) :
    readString (text.flatMap escape ++ '"' :: rest) = some (text, rest) := by
  apply readChars_escaped
  have longer := length_le_escaped text
  rw [List.length_append, List.length_cons]
  omega

theorem quote_append (text rest : Text) :
    quote text ++ rest = '"' :: (text.flatMap escape ++ '"' :: rest) := by
  simp only [quote, List.cons_append, List.append_assoc, List.nil_append]

theorem skipSpace_append (spaces text : Text) (blank : ∀ char ∈ spaces, isSpace char) :
    skipSpace (spaces ++ text) = skipSpace text :=
  List.dropWhile_append_of_pos blank

theorem skipSpace_mark (mark : Char) (rest : Text) (visible : isSpace mark = false) :
    skipSpace (mark :: rest) = mark :: rest :=
  List.dropWhile_cons_of_neg (Bool.eq_false_iff.mp visible)

/-- Spaces before a text do not change what is read. -/
theorem readValue_append (depth : Nat) (spaces text : Text) (blank : ∀ char ∈ spaces, isSpace char) :
    readValue depth (spaces ++ text) = readValue depth text := by
  rw [readValue, readValue, skipSpace_append spaces text blank]

theorem readValue_quote (depth : Nat) (text rest : Text) :
    readValue depth (quote text ++ rest) = some (.string text, rest) := by
  rw [quote_append, readValue, skipSpace_mark '"' _ rfl]
  simp only [if_pos, readString_escaped, Option.map_some]

/-- Between the marks of the layout stand spaces and line ends only. -/
structure Layout.Spaced (layout : Layout) : Prop where
  gap : ∀ depth, ∀ char ∈ layout.gap depth, isSpace char
  afterColon : ∀ char ∈ layout.afterColon, isSpace char

theorem Layout.spaced_compact : Layout.compact.Spaced where
  gap := fun _ _ found => absurd found List.not_mem_nil
  afterColon := fun _ found => absurd found List.not_mem_nil

theorem Layout.spaced_indented : Layout.indented.Spaced where
  gap := by
    intro depth char found
    rcases List.mem_cons.mp found with rfl | inner
    · rfl
    · rw [List.eq_of_mem_replicate inner]
      rfl
  afterColon := by
    intro char found
    rw [List.mem_singleton.mp found]
    rfl

/-- A field of a text as the layout writes it. -/
def Layout.member (layout : Layout) (field : Text × Text) : Text :=
  quote field.1 ++ ':' :: (layout.afterColon ++ quote field.2)

theorem skipSpace_member (layout : Layout) (gap : Text) (blank : ∀ char ∈ gap, isSpace char)
    (field : Text × Text) (rest : Text) :
    skipSpace (gap ++ layout.member field ++ rest) =
      '"' :: (field.1.flatMap escape ++
        '"' :: ':' :: (layout.afterColon ++ (quote field.2 ++ rest))) := by
  rw [List.append_assoc, skipSpace_append gap _ blank, Layout.member, List.append_assoc,
    quote_append, skipSpace_mark '"' _ rfl]
  simp only [List.cons_append, List.append_assoc]

theorem readField_member (layout : Layout) (spaced : layout.Spaced) (depth : Nat) (gap : Text)
    (blank : ∀ char ∈ gap, isSpace char) (field : Text × Text) (rest : Text) :
    readField (readValue depth) (gap ++ layout.member field ++ rest) =
      some ((field.1, .string field.2), rest) := by
  simp only [readField, skipSpace_member layout gap blank, readString_escaped,
    Option.bind_eq_bind, Option.bind_some, skipSpace_mark ':' _ rfl,
    readValue_append depth _ _ spaced.afterColon, readValue_quote]

theorem writeFields_texts (layout : Layout) (depth : Nat) (record : Fields Text) :
    layout.writeFields depth (record.map fun field => (field.1, .string field.2)) =
      record.map layout.member := by
  induction record with
  | nil => rfl
  | cons field rest ih =>
      rw [List.map_cons, Layout.writeFields, ih, Layout.write, List.map_cons, Layout.member]

section
variable {α ι : Type} (readItem : Text → Option (α × Text)) (writeItem : ι → Text) (value : ι → α)
  (reads : ∀ item rest, readItem (writeItem item ++ rest) = some (value item, rest))
  (closing : Char) (visible : isSpace closing = false)
  (gap : Text) (blank : ∀ char ∈ gap, isSpace char) (rest : Text)
  (items : List ι) (filled : items ≠ [])
include reads visible blank filled

/-- Items that are read whatever stands behind them are read one after another. The bound counts the
items. -/
theorem readItems_join (noComma : closing ≠ ',') (bound : Nat) (enough : items.length ≤ bound) :
    readItems readItem closing bound
        (Text.join ',' (items.map writeItem) ++ (gap ++ closing :: rest)) =
      some (items.map value, rest) := by
  induction items generalizing bound with
  | nil => contradiction
  | cons item more ih =>
      obtain ⟨bound, rfl⟩ := Nat.exists_eq_add_one_of_ne_zero (Nat.ne_zero_of_lt enough)
      rw [List.map_cons, List.map_cons, readItems]
      cases more with
      | nil =>
          rw [List.map_nil, Text.join_singleton, reads]
          simp only [Option.bind_eq_bind, Option.bind_some, skipSpace_append gap _ blank,
            skipSpace_mark closing rest visible, if_neg noComma, if_pos, List.map_nil]
      | cons second others =>
          have later := ih (List.cons_ne_nil second others) bound (Nat.le_of_succ_le_succ enough)
          rw [Text.join_cons ',' _ _ (by simp), List.append_assoc, reads, List.cons_append]
          simp only [Option.bind_eq_bind, Option.bind_some, skipSpace_mark ',' _ rfl, if_pos, later]

/-- A container is read when no item may be taken for its closing mark. -/
theorem readContainer_join (noComma : closing ≠ ',')
    (starts : ∀ item rest, ∃ mark more, skipSpace (writeItem item ++ rest) = mark :: more ∧
      mark ≠ closing) :
    readContainer readItem closing
        (Text.join ',' (items.map writeItem) ++ (gap ++ closing :: rest)) =
      some (items.map value, rest) := by
  have start : ∃ mark more,
      skipSpace (Text.join ',' (items.map writeItem) ++ (gap ++ closing :: rest)) = mark :: more ∧
        mark ≠ closing := by
    obtain ⟨item, others, rfl⟩ := List.exists_cons_of_ne_nil filled
    rw [List.map_cons]
    cases others with
    | nil =>
        rw [List.map_nil, Text.join_singleton]
        exact starts item _
    | cons second others =>
        rw [Text.join_cons ',' _ _ (by simp), List.append_assoc]
        exact starts item _
  obtain ⟨mark, more, skipped, differs⟩ := start
  have long := Text.length_join ',' (items.map writeItem) (by simpa using filled)
  rw [readContainer, skipped]
  simp only [if_neg differs]
  apply readItems_join readItem writeItem value reads closing visible gap blank rest items filled noComma
  rw [List.length_map] at long
  rw [List.length_append, List.length_append, List.length_cons]
  omega

end

theorem readContainer_closed {α : Type} (readItem : Text → Option (α × Text)) (closing : Char)
    (visible : isSpace closing = false) (rest : Text) :
    readContainer readItem closing (closing :: rest) = some ([], rest) := by
  rw [readContainer, skipSpace_mark closing rest visible]
  simp only [if_pos]

/-- A record of texts is read back from a spaced layout, and the text after it is left as it is. -/
theorem readValue_ofRecord (layout : Layout) (spaced : layout.Spaced) (depth level : Nat)
    (record : Fields Text) (ascending : record.Ascending) (rest : Text) :
    readValue (depth + 1) (layout.write level (ofRecord record) ++ rest) =
      some (ofRecord record, rest) := by
  have body : ∃ body, layout.write level (ofRecord record) ++ rest = '\x7b' :: body ∧
      readContainer (readField (readValue depth)) '\x7d' body =
        some (record.map fun field => (field.1, .string field.2), rest) := by
    rw [ofRecord, Layout.write, writeFields_texts, Layout.enclose]
    cases record with
    | nil => exact ⟨'\x7d' :: rest, rfl, readContainer_closed _ '\x7d' rfl rest⟩
    | cons field more =>
        have inner := spaced.gap (level + 1)
        refine ⟨_, ?_, readContainer_join (readField (readValue depth))
          (fun field => layout.gap (level + 1) ++ layout.member field) _
          (readField_member layout spaced depth _ inner) '\x7d' rfl
          (layout.gap level) (spaced.gap level) rest (field :: more) (List.cons_ne_nil field more)
          (by decide) ?_⟩
        · simp [Function.comp_def]
        · intro field rest
          exact ⟨'"', _, skipSpace_member layout _ inner field rest, by decide⟩
  obtain ⟨body, written, read⟩ := body
  rw [written, readValue, skipSpace_mark '\x7b' body rfl]
  simp only [read, if_pos, Option.map_some,
    Fields.ofList_of_ascending _ (Fields.ascending_map record Json.string ascending), ofRecord]
  rfl

theorem read_ofRecord (layout : Layout) (spaced : layout.Spaced) (record : Fields Text)
    (ascending : record.Ascending) :
    read (layout.write 0 (ofRecord record)) = some (ofRecord record) := by
  have start := readValue_ofRecord layout spaced 126 0 record ascending []
  rw [List.append_nil] at start
  rw [read, readStart, maxDepth, start]
  rfl

end CatalogNames.Json
