import AskTable.Text.Keyword

/-!
# Quoted identifiers

An identifier in double quotes may hold any text; a quote inside it is written twice.

* `escapeQuotes`, `quoteIdentifier`: the quoted form of a name.
* `readIdentifier?`: the name at the front of a text, with what follows it.
* `readQuoted_escapeQuotes`, `readIdentifier?_quoteIdentifier`: a written name is read back, unless
  another quote follows.
-/

namespace AskTable.Question

/-- Every quote written twice. -/
def escapeQuotes : List Char → List Char
  | [] => []
  | c :: s => if c = '"' then '"' :: '"' :: escapeQuotes s else c :: escapeQuotes s

/-- A name in quotes (`escape_ident`). -/
def quoteIdentifier (name : List Char) : List Char := '"' :: escapeQuotes name ++ ['"']

/-- Reads up to the first quote that stands alone. -/
def readQuoted : List Char → Option (List Char × List Char)
  | [] => none
  | '"' :: '"' :: s => (readQuoted s).map fun (name, rest) => ('"' :: name, rest)
  | c :: s => if c = '"' then some ([], s) else
      (readQuoted s).map fun (name, rest) => (c :: name, rest)

/-- The quoted identifier at the front of a text, and what follows it. -/
def readIdentifier? : List Char → Option (List Char × List Char)
  | '"' :: s => readQuoted s
  | _ => none

theorem readQuoted_escapeQuotes (name rest : List Char) (h : rest.head? ≠ some '"') :
    readQuoted (escapeQuotes name ++ '"' :: rest) = some (name, rest) := by
  induction name with
  | nil =>
    cases rest with
    | nil => simp [escapeQuotes, readQuoted]
    | cons c rest =>
      simp only [List.head?_cons, ne_eq, Option.some.injEq] at h
      rw [escapeQuotes, List.nil_append, readQuoted]
      · simp
      · intro s _ hs
        exact h (List.cons.inj hs).1
  | cons c name ih =>
    by_cases hc : c = '"'
    · simp [escapeQuotes, hc, readQuoted, ih]
    · rw [escapeQuotes, if_neg hc, List.cons_append, readQuoted]
      · simp [hc, ih]
      · intro s hs _
        exact hc hs

theorem readIdentifier?_quoteIdentifier (name rest : List Char) (h : rest.head? ≠ some '"') :
    readIdentifier? (quoteIdentifier name ++ rest) = some (name, rest) := by
  simpa [quoteIdentifier, readIdentifier?] using readQuoted_escapeQuotes name rest h

end AskTable.Question
