import AskTable.File.Record
import AskTable.Question.Identifier

/-!
# Written records

What records look like when they are written plainly: fields between commas, a line for each
record, and any number of blank lines in between. A field stands as it is, or in quotes. The reader
is compared with this grammar, which knows nothing of its states.

* `FieldText`, `LineText`, `Written`: the texts of a field, a record and a list of records.
* `readFields_quotes`, `FieldText.readFields`: a field is read to its end.
* `Ends`, `LineText.readFields`: a record is read back, with any text after it.
* `findRecord_lineText`, `findRecord_blankLine`: records are found, and blank lines passed over.
* `records_written`: written records are read back.
-/

namespace AskTable.File

open AskTable.Question

/-! ## The grammar -/

/-- Text that stands in a field as it is. -/
def IsBare (s : List Char) : Prop := ∀ c ∈ s, c ≠ ',' ∧ c ≠ '\n' ∧ c ≠ '\r' ∧ c ≠ '\x00'

/-- The texts of a field. In quotes it may hold anything, a quote being written twice, and what
follows the quotes belongs to it. Spaces before it do not count. -/
inductive FieldText : List Char → List Char → Prop
  | bare {value : List Char} : IsBare value → value.head? ≠ some '"' → value.head? ≠ some ' ' →
      FieldText value value
  | quoted {value tail : List Char} : '\x00' ∉ value → IsBare tail → tail.head? ≠ some '"' →
      FieldText (value ++ tail) ('"' :: escapeQuotes value ++ '"' :: tail)
  | space {value text : List Char} : FieldText value text → FieldText value (' ' :: text)

/-- The texts of a record: fields between commas. -/
inductive LineText : List (List Char) → List Char → Prop
  | last {value text : List Char} : FieldText value text → LineText [value] text
  | cons {value text line : List Char} {fields : List (List Char)} : FieldText value text →
      LineText fields line → LineText (value :: fields) (text ++ ',' :: line)

inductive IsLineEnd : List Char → Prop
  | feed : IsLineEnd ['\n']
  | both : IsLineEnd ['\r', '\n']

def IsBlankLine (s : List Char) : Prop := ∀ c ∈ s, c = ' ' ∨ c = '\t'

/-- The texts of a list of records, each on lines of its own, with blank lines anywhere. -/
inductive Written : List (List (List Char)) → List Char → Prop
  | blank {s : List Char} : IsBlankLine s → Written [] s
  | blankLine {s e text : List Char} {records : List (List (List Char))} : IsBlankLine s →
      IsLineEnd e → Written records text → Written records (s ++ e ++ text)
  | last {line : List Char} {fields : List (List Char)} : LineText fields line →
      ¬ IsBlankLine line → Written [fields] line
  | line {line e text : List Char} {fields : List (List Char)}
      {records : List (List (List Char))} : LineText fields line → ¬ IsBlankLine line →
      IsLineEnd e → Written records text → Written (fields :: records) (line ++ e ++ text)

/-! ## Fields -/

variable {done : List (List Char)} {field : List Char}

theorem closeField_reverse {value : List Char} (h : '\x00' ∉ value) :
    closeField value.reverse = value := by
  have hall : ∀ c ∈ value, (c != '\x00') = true :=
    fun c hc => bne_iff_ne.mpr fun heq => h (heq ▸ hc)
  have htake : (value ++ []).takeWhile (· != '\x00') = value ++ [].takeWhile (· != '\x00') :=
    List.takeWhile_append_of_pos hall
  simpa [closeField] using htake

theorem IsBare.not_mem {s : List Char} (h : IsBare s) : '\x00' ∉ s := fun hc => (h _ hc).2.2.2 rfl

theorem FieldText.not_mem {value text : List Char} (h : FieldText value text) :
    '\x00' ∉ value := by
  induction h with
  | bare hbare => exact hbare.not_mem
  | quoted hvalue htail => exact fun hc => (List.mem_append.mp hc).elim hvalue htail.not_mem
  | space _ ih => exact ih

/-- One character of a field that is not within quotes. -/
theorem readFields_plain_cons {c : Char} (h : c ≠ ',' ∧ c ≠ '\n' ∧ c ≠ '\r' ∧ c ≠ '\x00')
    (s : List Char) :
    readFields .plain done field (c :: s) = readFields .plain done (c :: field) s := by
  simp [readFields, h]

theorem readFields_start_cons {c : Char} (h : c ≠ ',' ∧ c ≠ '\n' ∧ c ≠ '\r' ∧ c ≠ '\x00')
    (hquote : c ≠ '"') (hspace : c ≠ ' ') (s : List Char) :
    readFields .start done field (c :: s) = readFields .plain done (c :: field) s := by
  simp [readFields, h, hquote, hspace]

theorem readFields_quote_cons {c : Char} (h : c ≠ ',' ∧ c ≠ '\n' ∧ c ≠ '\r' ∧ c ≠ '\x00')
    (hquote : c ≠ '"') (s : List Char) :
    readFields .quote done field (c :: s) = readFields .plain done (c :: field) s := by
  simp [readFields, h, hquote]

/-- Spaces before a field are skipped. -/
theorem readFields_space (s : List Char) :
    readFields .start done field (' ' :: s) = readFields .start done field s := by
  simp [readFields]

/-- The quote that opens a field. -/
theorem readFields_open (s : List Char) :
    readFields .start done field ('"' :: s) = readFields .quotes done field s := by
  simp [readFields]

/-- One character within quotes. -/
theorem readFields_quotes_cons {c : Char} (h : c ≠ '"') (s : List Char) :
    readFields .quotes done field (c :: s) = readFields .quotes done (c :: field) s := by
  simp [readFields, h]

/-- A quote that is written twice within quotes. -/
theorem readFields_quotes_twice (s : List Char) :
    readFields .quotes done field ('"' :: '"' :: s) = readFields .quotes done ('"' :: field) s := by
  simp [readFields]

/-- The quote that closes a field. -/
theorem readFields_close (s : List Char) :
    readFields .quotes done field ('"' :: s) = readFields .quote done field s := by
  simp [readFields]

theorem readFields_plain {s : List Char} (h : IsBare s) (rest : List Char) :
    readFields .plain done field (s ++ rest) =
      readFields .plain done (s.reverse ++ field) rest := by
  induction s generalizing field with
  | nil => rfl
  | cons c s ih =>
    obtain ⟨hc, h⟩ := List.forall_mem_cons.mp h
    rw [List.cons_append, readFields_plain_cons hc, ih h, List.reverse_cons, List.append_assoc,
      List.singleton_append]

theorem readFields_quotes (value rest : List Char) :
    readFields .quotes done field (escapeQuotes value ++ '"' :: rest) =
      readFields .quote done (value.reverse ++ field) rest := by
  induction value generalizing field with
  | nil => exact readFields_close rest
  | cons c value ih =>
    rw [List.reverse_cons, List.append_assoc, List.singleton_append, ← ih, escapeQuotes]
    by_cases hc : c = '"'
    · rw [if_pos hc, hc, List.cons_append, List.cons_append, readFields_quotes_twice]
    · rw [if_neg hc, List.cons_append, readFields_quotes_cons hc]

/-- A field is read to its end, which is not within quotes. -/
theorem FieldText.readFields {value text : List Char} (h : FieldText value text)
    (rest : List Char) :
    ∃ place, place ≠ .quotes ∧ readFields .start done [] (text ++ rest) =
      File.readFields place done value.reverse rest := by
  induction h with
  | @bare value hbare hquote hspace =>
    cases value with
    | nil => exact ⟨.start, nofun, rfl⟩
    | cons c value =>
      obtain ⟨hc, hbare⟩ := List.forall_mem_cons.mp hbare
      refine ⟨.plain, nofun, ?_⟩
      rw [List.cons_append, readFields_start_cons hc (by simpa using hquote)
        (by simpa using hspace), readFields_plain hbare, List.reverse_cons]
  | @quoted value tail hvalue htail hquote =>
    rw [List.cons_append, List.cons_append, List.append_assoc, List.cons_append, readFields_open,
      readFields_quotes, List.append_nil, List.reverse_append]
    cases tail with
    | nil => exact ⟨.quote, nofun, rfl⟩
    | cons c tail =>
      obtain ⟨hc, htail⟩ := List.forall_mem_cons.mp htail
      refine ⟨.plain, nofun, ?_⟩
      rw [List.cons_append, readFields_quote_cons hc (by simpa using hquote),
        readFields_plain htail, List.reverse_cons, List.append_assoc, List.singleton_append]
  | space _ ih =>
    rw [List.cons_append, readFields_space]
    exact ih

/-! ## Records -/

/-- After a field outside quotes, this text ends its record so. -/
def Ends (rest : List Char) (e : RecordEnd) : Prop :=
  ∀ (place : Place) (done : List (List Char)) (field : List Char), place ≠ .quotes →
    readFields place done field rest = some ((closeField field :: done).reverse, e)

theorem ends_nil : Ends [] .file := by
  intro place done field hplace
  simp [readFields, hplace]

theorem ends_lineEnd {e : List Char} (h : IsLineEnd e) (rest : List Char) :
    Ends (e ++ rest) (.line rest) := by
  intro place done field hplace
  cases h with
  | feed => simp [readFields, hplace]
  | both => simp [readFields, hplace, afterReturn]

theorem readFields_comma {place : Place} (hplace : place ≠ .quotes) (rest : List Char) :
    readFields place done field (',' :: rest) =
      readFields .start (closeField field :: done) [] rest := by
  simp [readFields, hplace]

/-- The fields of a record are read back. -/
theorem LineText.readFields {fields : List (List Char)} {text : List Char}
    (h : LineText fields text) {rest : List Char} {e : RecordEnd} (hend : Ends rest e)
    (done : List (List Char)) :
    readFields .start done [] (text ++ rest) = some (done.reverse ++ fields, e) := by
  induction h generalizing done with
  | last hfield =>
    obtain ⟨place, hplace, hread⟩ := hfield.readFields rest
    rw [hread, hend place done _ hplace, closeField_reverse hfield.not_mem, List.reverse_cons]
  | @cons value text line fields hfield _ ih =>
    obtain ⟨place, hplace, hread⟩ := hfield.readFields (',' :: (line ++ rest))
    rw [List.append_assoc, List.cons_append, hread, readFields_comma hplace,
      closeField_reverse hfield.not_mem, ih]
    simp

/-! ## Lines -/

/-- The first character that is no blank does not end a line. -/
def Opens (s : List Char) : Prop :=
  ∃ blanks c rest, s = blanks ++ c :: rest ∧ IsBlankLine blanks ∧
    c ≠ ' ' ∧ c ≠ '\t' ∧ c ≠ '\n' ∧ c ≠ '\r'

theorem Opens.append {s : List Char} (h : Opens s) (t : List Char) : Opens (s ++ t) := by
  obtain ⟨blanks, c, rest, rfl, hopens⟩ := h
  exact ⟨blanks, c, rest ++ t, by simp, hopens⟩

theorem IsBlankLine.opens_append {s : List Char} (h : IsBlankLine s) {c : Char}
    (hc : c ≠ ' ' ∧ c ≠ '\t' ∧ c ≠ '\n' ∧ c ≠ '\r') (t : List Char) : Opens (s ++ c :: t) :=
  ⟨s, c, t, rfl, h, hc⟩

theorem IsBlankLine.cons {s : List Char} (h : IsBlankLine s) {c : Char}
    (hc : c = ' ' ∨ c = '\t') : IsBlankLine (c :: s) := List.forall_mem_cons.mpr ⟨hc, h⟩

theorem Opens.cons {s : List Char} (h : Opens s) {c : Char} (hc : c = ' ' ∨ c = '\t') :
    Opens (c :: s) := by
  obtain ⟨blanks, d, rest, rfl, hblanks, hd⟩ := h
  exact ⟨c :: blanks, d, rest, rfl, hblanks.cons hc, hd⟩

theorem IsBare.blank_or_opens {s : List Char} (h : IsBare s) : IsBlankLine s ∨ Opens s := by
  induction s with
  | nil => exact Or.inl nofun
  | cons c s ih =>
    obtain ⟨⟨-, hfeed, hreturn, -⟩, h⟩ := List.forall_mem_cons.mp h
    by_cases hc : c = ' ' ∨ c = '\t'
    · exact (ih h).imp (·.cons hc) (·.cons hc)
    · obtain ⟨hspace, htab⟩ := not_or.mp hc
      exact Or.inr ⟨[], c, s, rfl, nofun, hspace, htab, hfeed, hreturn⟩

theorem FieldText.blank_or_opens {value text : List Char} (h : FieldText value text) :
    IsBlankLine text ∨ Opens text := by
  induction h with
  | bare hbare => exact hbare.blank_or_opens
  | quoted => exact Or.inr ⟨[], '"', _, rfl, nofun, by decide⟩
  | space _ ih => exact ih.imp (·.cons (Or.inl rfl)) (·.cons (Or.inl rfl))

/-- A record that is not blank begins on its first line. -/
theorem LineText.blank_or_opens {fields : List (List Char)} {text : List Char}
    (h : LineText fields text) : IsBlankLine text ∨ Opens text := by
  cases h with
  | last hfield => exact hfield.blank_or_opens
  | cons hfield _ =>
    rcases hfield.blank_or_opens with hblank | hopens
    · exact Or.inr (hblank.opens_append (by decide) _)
    · exact Or.inr (hopens.append _)

theorem findRecord_blanks (anchor : List Char) (lines : Nat) {s : List Char}
    (h : IsBlankLine s) {c : Char} (hc : c ≠ ' ' ∧ c ≠ '\t' ∧ c ≠ '\n' ∧ c ≠ '\r')
    (rest : List Char) :
    findRecord anchor lines .blanks (s ++ c :: rest) = some (anchor, lines) := by
  induction s with
  | nil => simp [findRecord, hc]
  | cons d s ih =>
    obtain ⟨hd, hs⟩ := List.forall_mem_cons.mp h
    rw [List.cons_append, findRecord]
    rcases hd with rfl | rfl <;> simpa using ih hs

variable {anchor : List Char} {lines : Nat}

/-- A line that is not blank is where a record starts. -/
theorem findRecord_of_opens {s : List Char} (h : Opens s) :
    findRecord s lines .line s = some (s, lines) := by
  obtain ⟨blanks, c, rest, rfl, hblanks, hc⟩ := h
  cases blanks with
  | nil => simp [findRecord, hc]
  | cons d blanks =>
    obtain ⟨hd, hblanks⟩ := List.forall_mem_cons.mp hblanks
    have hfound := findRecord_blanks (d :: (blanks ++ c :: rest)) lines hblanks hc rest
    rw [List.cons_append, findRecord]
    rcases hd with rfl | rfl <;> simpa using hfound

theorem findRecord_blank {s : List Char} (h : IsBlankLine s) {gap : Gap}
    (hgap : gap ≠ .afterReturn) : findRecord anchor lines gap s = none := by
  induction s generalizing gap with
  | nil => rfl
  | cons c s ih =>
    obtain ⟨hc, hs⟩ := List.forall_mem_cons.mp h
    have hblanks := ih hs (show Gap.blanks ≠ .afterReturn by decide)
    rw [findRecord]
    rcases hc with rfl | rfl <;> simpa [hgap] using hblanks

/-- A blank line is passed over. -/
theorem findRecord_blankLine {s e : List Char} (h : IsBlankLine s) (he : IsLineEnd e)
    (rest : List Char) {gap : Gap} (hgap : gap ≠ .afterReturn) :
    findRecord anchor lines gap (s ++ e ++ rest) = findRecord rest (lines + 1) .line rest := by
  induction s generalizing gap with
  | nil => cases he <;> simp [findRecord, hgap]
  | cons c s ih =>
    obtain ⟨hc, hs⟩ := List.forall_mem_cons.mp h
    have hblanks := ih hs (show Gap.blanks ≠ .afterReturn by decide)
    rw [List.cons_append, List.cons_append, findRecord]
    rcases hc with rfl | rfl <;> simpa [hgap] using hblanks

/-! ## Lists of records -/

theorem recordsFrom_eq (lines : Nat) (opened : Bool) (s : List Char) :
    recordsFrom lines opened s =
      match recordStart lines opened s with
      | none => ⟨[], none⟩
      | some (start, before) =>
        match readFields .start (if opened then [[]] else []) [] start with
        | none => ⟨[], some before⟩
        | some (fields, .file) => ⟨[⟨fields, before⟩], none⟩
        | some (fields, .line rest) => .cons ⟨fields, before⟩ (recordsFrom (before + 1) false rest)
        | some (fields, .comma rest) =>
          .cons ⟨fields, before⟩ (recordsFrom (before + 1) true rest) := by
  rw [recordsFrom]
  split
  · rename_i hs
    rw [hs]
  · rename_i start before hs
    rw [hs]
    dsimp only
    split <;> rename_i hf <;> rw [hf]

theorem recordStart_false (lines : Nat) (s : List Char) :
    recordStart lines false s = findRecord s lines .line s := rfl

theorem LineText.opens {fields : List (List Char)} {text : List Char}
    (h : LineText fields text) (hblank : ¬ IsBlankLine text) : Opens text :=
  h.blank_or_opens.resolve_left hblank

/-- Written records are read back from any line on. -/
theorem Written.recordsFrom {recs : List (List (List Char))} {text : List Char}
    (h : Written recs text) (lines : Nat) :
    ∃ rs, File.recordsFrom lines false text = ⟨rs, none⟩ ∧ rs.map Record.fields = recs := by
  induction h generalizing lines with
  | blank hs =>
    rw [recordsFrom_eq, recordStart_false,
      findRecord_blank hs (show Gap.line ≠ .afterReturn by decide)]
    exact ⟨[], rfl, rfl⟩
  | @blankLine s e text recs hs he _ ih =>
    rw [recordsFrom_eq, recordStart_false,
      findRecord_blankLine hs he _ (show Gap.line ≠ .afterReturn by decide), ← recordStart_false,
      ← recordsFrom_eq]
    exact ih (lines + 1)
  | @last line fields hline hblank =>
    have hfields := hline.readFields ends_nil []
    rw [List.append_nil] at hfields
    rw [recordsFrom_eq, recordStart_false, findRecord_of_opens (hline.opens hblank)]
    simp only [Bool.false_eq_true, if_false, hfields]
    exact ⟨_, rfl, rfl⟩
  | @line line e text fields recs hline hblank he _ ih =>
    obtain ⟨rs, hrest, hrs⟩ := ih (lines + 1)
    have hfields := hline.readFields (ends_lineEnd he text) []
    rw [recordsFrom_eq, recordStart_false, List.append_assoc,
      findRecord_of_opens ((hline.opens hblank).append _)]
    simp only [Bool.false_eq_true, if_false, hfields, hrest]
    exact ⟨_, rfl, by rw [List.map_cons, hrs]; rfl⟩

/-- A text without the mark of the byte order at its front. -/
def unmarked : List Char → List Char
  | '\uFEFF' :: s => s
  | s => s

theorem records_eq (text : List Char) : records text = recordsFrom 0 false (unmarked text) := by
  unfold unmarked
  split
  · rfl
  · rename_i hmark
    rw [records]
    exact hmark

/-- Written records are read back. -/
theorem records_written {recs : List (List (List Char))} {text : List Char}
    (h : Written recs (unmarked text)) :
    ∃ rs, records text = ⟨rs, none⟩ ∧ rs.map Record.fields = recs := by
  rw [records_eq]
  exact h.recordsFrom 0

end AskTable.File
