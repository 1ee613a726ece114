/-!
# Records of comma-separated text

Text is cut into records, and records into fields. A field in double quotes may hold commas and line
breaks, and a quote in it is written twice. Spaces before a field are skipped. A line ends with a
line feed, a carriage return or both, and a line of blanks alone is no record. These rules are those
of the package that `read_rows` leaves the text to, and they are taken as given.

* `readFields`: the fields of one record, and how it ends.
* `findRecord`: the place where the next record starts.
* `records`: all records, each with the number of lines before it.
* `readFields_shorter`, `findRecord_shorter`: both leave less to read, so that reading ends.
-/

namespace AskTable.File

/-- A place within a record. -/
inductive Place where
  /-- Before the first character of a field. -/
  | start
  | plain
  | quotes
  /-- After a quote within quotes. -/
  | quote
  deriving DecidableEq, Repr

/-- How a record ends, with the text that is left. -/
inductive RecordEnd where
  | line (rest : List Char)
  /-- A comma right after a carriage return opens a record whose first field is empty. -/
  | comma (rest : List Char)
  | file
  deriving DecidableEq, Repr

/-- What follows a carriage return that ends a record. -/
def afterReturn : List Char → RecordEnd
  | '\n' :: s => .line s
  | ',' :: s => .comma s
  | s => .line s

/-- The characters of a field up to the first that is null. -/
def closeField (reversed : List Char) : List Char := reversed.reverse.takeWhile (· != '\x00')

/-- The fields of a record; none when quotes are left open. `done` are the fields before this one
and `field` its characters so far, both in reverse. -/
def readFields (place : Place) (done : List (List Char)) (field : List Char) :
    List Char → Option (List (List Char) × RecordEnd)
  | [] => if place = .quotes then none else some ((closeField field :: done).reverse, .file)
  | c :: s =>
    if place = .quotes then
      if c = '"' then readFields .quote done field s else readFields .quotes done (c :: field) s
    else if c = '\n' then some ((closeField field :: done).reverse, .line s)
    else if c = '\r' then some ((closeField field :: done).reverse, afterReturn s)
    else if c = ',' then readFields .start (closeField field :: done) [] s
    else match place with
      | .start =>
        if c = '"' then readFields .quotes done field s
        else if c = ' ' then readFields .start done field s
        else readFields .plain done (c :: field) s
      | .quote =>
        if c = '"' then readFields .quotes done (c :: field) s
        else readFields .plain done (c :: field) s
      | _ => readFields .plain done (c :: field) s

/-- Where a search for a record stands. -/
inductive Gap where
  /-- At the start of a line. -/
  | line
  /-- After the carriage return of a line without a record. -/
  | afterReturn
  /-- After blanks at the start of a line. -/
  | blanks
  deriving DecidableEq, Repr

/-- The text from the next record on, and the number of lines before it. A line that starts with
blanks and holds more is read from `anchor`, the place after the last line feed. -/
def findRecord (anchor : List Char) (lines : Nat) (gap : Gap) :
    List Char → Option (List Char × Nat)
  | [] => none
  | c :: s =>
    if gap = .afterReturn ∧ c = '\n' then findRecord s lines .line s
    else if gap = .afterReturn ∧ c = ',' then findRecord anchor lines .line s
    else if c = '\n' then findRecord s (lines + 1) .line s
    else if c = '\r' then findRecord anchor (lines + 1) .afterReturn s
    else if c = ' ' ∨ c = '\t' then findRecord anchor lines .blanks s
    else if gap = .blanks then some (anchor, lines)
    else some (c :: s, lines)

/-- What is left after a record's end. -/
def RecordEnd.rest : RecordEnd → List Char
  | .line rest => rest
  | .comma rest => rest
  | .file => []

theorem afterReturn_rest (s : List Char) : (afterReturn s).rest.length ≤ s.length := by
  unfold afterReturn
  split <;> simp [RecordEnd.rest]

theorem readFields_shorter {place : Place} {done fields : List (List Char)} {field s : List Char}
    {e : RecordEnd} (h : readFields place done field s = some (fields, e)) :
    e = .file ∨ e.rest.length < s.length := by
  induction s generalizing place done field with
  | nil =>
    simp only [readFields] at h
    split at h
    · simp at h
    · simp only [Option.some.injEq, Prod.mk.injEq] at h
      exact Or.inl h.2.symm
  | cons c s ih =>
    have step {p d f} (h : readFields p d f s = some (fields, e)) :
        e = .file ∨ e.rest.length < (c :: s).length := by
      rcases ih h with h | h
      · exact Or.inl h
      · exact Or.inr (Nat.lt_succ_of_lt h)
    simp only [readFields] at h
    split at h
    · split at h <;> exact step h
    · split at h
      · simp only [Option.some.injEq, Prod.mk.injEq] at h
        exact Or.inr (by simp [← h.2, RecordEnd.rest])
      · split at h
        · simp only [Option.some.injEq, Prod.mk.injEq] at h
          have := afterReturn_rest s
          exact Or.inr (by rw [← h.2, List.length_cons]; omega)
        · split at h
          · exact step h
          · split at h <;> (repeat' split at h) <;> exact step h

theorem findRecord_shorter {anchor s start : List Char} {lines n : Nat} {gap : Gap}
    (hs : s.length ≤ anchor.length) (h : findRecord anchor lines gap s = some (start, n)) :
    start.length ≤ anchor.length ∧ start ≠ [] := by
  induction s generalizing anchor lines gap with
  | nil => simp [findRecord] at h
  | cons c s ih =>
    have hs' : s.length ≤ anchor.length := Nat.le_of_succ_le hs
    simp only [findRecord] at h
    split at h
    · exact ⟨Nat.le_trans (ih (Nat.le_refl _) h).1 hs', (ih (Nat.le_refl _) h).2⟩
    · split at h
      · exact ih hs' h
      · split at h
        · exact ⟨Nat.le_trans (ih (Nat.le_refl _) h).1 hs', (ih (Nat.le_refl _) h).2⟩
        · split at h
          · exact ih hs' h
          · split at h
            · exact ih hs' h
            · split at h
              · simp only [Option.some.injEq, Prod.mk.injEq] at h
                obtain ⟨rfl, rfl⟩ := h
                exact ⟨Nat.le_refl _, fun ha => by simp [ha] at hs⟩
              · simp only [Option.some.injEq, Prod.mk.injEq] at h
                exact ⟨h.1 ▸ hs, by simp [← h.1]⟩

/-- A record: its fields, and the number of lines before it. -/
structure Record where
  fields : List (List Char)
  before : Nat
  deriving DecidableEq, Repr

/-- The records of a text, and the line on which quotes are left open. -/
structure Records where
  records : List Record
  openQuote : Option Nat
  deriving DecidableEq, Repr

def Records.cons (r : Record) (rs : Records) : Records := ⟨r :: rs.records, rs.openQuote⟩

/-- The start of the next record. A record that a comma opened starts at once. -/
def recordStart (lines : Nat) (opened : Bool) (s : List Char) : Option (List Char × Nat) :=
  if opened then some (s, lines) else findRecord s lines .line s

theorem recordStart_shorter {lines n : Nat} {opened : Bool} {s start : List Char}
    (h : recordStart lines opened s = some (start, n)) : start.length ≤ s.length := by
  unfold recordStart at h
  split at h
  · simp only [Option.some.injEq, Prod.mk.injEq] at h
    exact Nat.le_of_eq (by rw [h.1])
  · exact (findRecord_shorter (Nat.le_refl _) h).1

/-- The records from a place on. `opened` tells that a comma opened the first one. -/
def recordsFrom (lines : Nat) (opened : Bool) (s : List Char) : Records :=
  match _hs : recordStart lines opened s with
  | none => ⟨[], none⟩
  | some (start, before) =>
    match hf : readFields .start (if opened then [[]] else []) [] start with
    | none => ⟨[], some before⟩
    | some (fields, .file) => ⟨[⟨fields, before⟩], none⟩
    | some (fields, .line rest) => .cons ⟨fields, before⟩ (recordsFrom (before + 1) false rest)
    | some (fields, .comma rest) => .cons ⟨fields, before⟩ (recordsFrom (before + 1) true rest)
termination_by s.length
decreasing_by
  · have h1 := recordStart_shorter _hs
    have h2 := readFields_shorter hf
    simp only [RecordEnd.rest, reduceCtorEq, false_or] at h2
    omega
  · have h1 := recordStart_shorter _hs
    have h2 := readFields_shorter hf
    simp only [RecordEnd.rest, reduceCtorEq, false_or] at h2
    omega

/-- The records of a text. A mark of the byte order at its front does not count. -/
def records : List Char → Records
  | '\uFEFF' :: s => recordsFrom 0 false s
  | s => recordsFrom 0 false s

end AskTable.File
