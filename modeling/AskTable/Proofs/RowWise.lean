import AskTable.Proofs.Rows
import AskTable.Statement.Shape

/-!
# Answers row by row

Whatever a statement says, it is answered by some rows at the front of the table, each on its own.

* `evaluate`: the rows that a statement asks for, or the fault on the way to them.
* `execute_eq_evaluate`: a fault is answered with every row.
* `projection`: a row cut down to some tokens; `get?_projection`: what is under its labels.
* `execute_row_wise`: every statement has a bound and a function on rows, and for every table its
  answer is this function on the rows before the bound.
-/

namespace AskTable.Statement

open AskTable.Text

/-! ## Faults -/

/-- The rows that a text asks for. A limit may have too many digits to be a number. -/
def evaluateText (s : List Char) (rows : List Row) : Except Fault (List Row) :=
  if mentions "SELECT *" (upper s) then .ok rows
  else match columnsAsked? s with
    | some tokens => .ok (project tokens rows)
    | none =>
      if mentions "LIMIT" (upper s) then
        match limitCount s with
        | .ok (some count) => .ok (rows.take count)
        | .ok none => .ok rows
        | .error fault => .error (.whole fault)
      else .ok rows

/-- The rows that a statement asks for, or the fault on the way to them. A value that counts as
nothing is taken for an empty text, and any other value has no upper-case form to search in. -/
def evaluate : Cell → List Row → Except Fault (List Row)
  | .text s, rows => evaluateText s.toList rows
  | .bytes (_ :: _), _ => .error .textInBytes
  | c, rows => if c.truthy then .error (.lacks c.kindName "upper") else .ok rows

/-- What is found is the answer, and every row is the answer in place of a fault. -/
def orEvery (result : Except Fault (List Row)) (rows : List Row) : List Row :=
  match result with
  | .ok found => found
  | .error _ => rows

theorem apply_ofText (s : List Char) (rows : List Row) :
    (Shape.ofText s).apply rows = orEvery (evaluateText s rows) rows := by
  rw [Shape.ofText, evaluateText]
  by_cases hstar : mentions "SELECT *" (upper s) = true
  · rw [if_pos hstar, if_pos hstar]
    rfl
  · rw [if_neg hstar, if_neg hstar]
    rcases columnsAsked? s with - | tokens
    · by_cases hlimit : mentions "LIMIT" (upper s) = true
      · rw [countAsked?, if_pos hlimit]
        simp only [if_pos hlimit]
        rcases limitCount s with fault | count
        · rfl
        · cases count <;> rfl
      · simp [countAsked?, hlimit, Shape.apply, orEvery]
    · rfl

/-- **A statement never fails.** Its answer is what it asks for, and a fault on the way there is
answered with every row. -/
theorem execute_eq_evaluate (statement : Cell) (t : Table) :
    execute statement t = orEvery (evaluate statement t.rows) t.rows := by
  have hother (c : Cell) (hc : evaluate c t.rows =
      if c.truthy then .error (.lacks c.kindName "upper") else .ok t.rows) :
      t.rows = orEvery (evaluate c t.rows) t.rows := by
    rw [hc]
    split <;> rfl
  cases statement with
  | text s => exact apply_ofText s.toList t.rows
  | bytes b =>
    cases b with
    | nil => rfl
    | cons => rfl
  | _ => exact hother _ rfl

/-! ## Rows on their own -/

/-- The rows before a bound; all of them without one. -/
def rowsBefore (bound : Option Nat) (rows : List Row) : List Row :=
  match bound with
  | none => rows
  | some count => rows.take count

/-- A row cut down to the labels that tokens name in it. -/
def projection (tokens : List Token) (r : Row) : Row := r.select (expand tokens r)

theorem get?_projection (tokens : List Token) (r : Row) (l : Label) :
    (projection tokens r).get? l =
      if l.key ∈ (expand tokens r).map Label.key then some (r.get l) else none :=
  r.get?_select (expand tokens r) l

/-- What a projected row has under a label is what the row itself has there. -/
theorem get_of_get?_projection {tokens : List Token} {r : Row} {l : Label} {c : Cell}
    (h : (projection tokens r).get? l = some c) : r.get l = c := by
  rw [get?_projection] at h
  split at h
  · exact Option.some.inj h
  · cases h

/-- Every shape has a bound and a function on rows. No shape has both. -/
theorem Shape.exists_apply (shape : Shape) :
    ∃ (bound : Option Nat) (f : Row → Row),
      (f = id ∨ bound = none ∧ ∃ tokens, f = projection tokens) ∧
      ∀ rows, shape.apply rows = (rowsBefore bound rows).map f := by
  cases shape with
  | everything => exact ⟨none, id, Or.inl rfl, fun rows => (List.map_id rows).symm⟩
  | columns tokens => exact ⟨none, projection tokens, Or.inr ⟨rfl, tokens, rfl⟩, fun _ => rfl⟩
  | first count => exact ⟨some count, id, Or.inl rfl, fun rows => (List.map_id _).symm⟩

theorem getElem?_rowsBefore (bound : Option Nat) (rows : List Row) (i : Nat) :
    (rowsBefore bound rows)[i]? = if ∀ count ∈ bound, i < count then rows[i]? else none := by
  cases bound with
  | none => simp [rowsBefore]
  | some count => simp [rowsBefore, List.getElem?_take]

/-- **Answers row by row.** Every statement has a bound and a function on rows, the identity or a
projection, and its answer to any table is this function on the rows before the bound: in the place
of each of them stands what the function makes of this very row, with no cell of another one. A
fault on the way is answered with every row. -/
theorem execute_row_wise (statement : Cell) :
    ∃ (bound : Option Nat) (f : Row → Row),
      (f = id ∨ bound = none ∧ ∃ tokens, f = projection tokens) ∧
      (∀ r l c, (f r).get? l = some c → r.get l = c) ∧
      ∀ t : Table, execute statement t = (rowsBefore bound t.rows).map f ∧
        (∀ i : Nat, (execute statement t)[i]? =
          if ∀ count ∈ bound, i < count then t.rows[i]?.map f else none) ∧
        execute statement t = orEvery (evaluate statement t.rows) t.rows := by
  obtain ⟨bound, f, hf, happly⟩ := (Shape.read statement).exists_apply
  have hexecute (t : Table) : execute statement t = (rowsBefore bound t.rows).map f :=
    happly t.rows
  refine ⟨bound, f, hf, fun r l c hc => ?_, fun t =>
    ⟨hexecute t, fun i => ?_, execute_eq_evaluate statement t⟩⟩
  · rcases hf with rfl | ⟨-, tokens, rfl⟩
    · rw [Row.get, id_eq] at *
      rw [hc]
      rfl
    · exact get_of_get?_projection hc
  · rw [hexecute, List.getElem?_map, getElem?_rowsBefore]
    split <;> rfl

end AskTable.Statement
