import AskTable.Proofs.FirstLabels
import AskTable.Proofs.TrailingClauses

/-!
# Projected columns

A projection can be made token by token: a column writes one cell, and a star writes all cells of
the row over what is there. It does not matter that some are written more than once, because every
cell comes from the same row. So only the order of the labels is left to tell, and in it each label
stands where its key came first.

* `Row.writeAll`, `Token.write`: what a token writes into a row.
* `foldl_write`: what several tokens write; `projection_eq_foldl`: they make the projection.
* `entries_projection`: a projection has the first labels of the list in which stars are replaced,
  each with the cell of the row.
* `Row.beside`, `beside_projection`: one column more changes nothing beside it.
* `Starred`, `selectList?_of_starred`: a statement with a star alone, whatever blanks are around it.
* `project_looks_up`: projections are column lookup.
-/

namespace AskTable

open AskTable.Text

/-! ## Rows -/

namespace Row

/-- A row with all entries of another one written over it. -/
def writeAll (r other : Row) : Row :=
  ⟨Entries.putAll Label.key other.entries r.entries, Entries.nodup_putAll _ r.nodup⟩

/-- The entries of a row that are not under a label. -/
def beside (l : Label) (r : Row) : List (Label × Cell) := r.entries.filter fun e => !e.1.same l

/-- A selection has the first of the labels under each key, with the cells of the row. -/
theorem entries_select_eq (r : Row) (labels : List Label) :
    (r.select labels).entries = r.pairs (labels.eraseDupsBy Label.same) := by
  have hlabels : (r.select labels).entries.map (·.1) = labels.eraseDupsBy Label.same := by
    rw [select_entries, Entries.map_fst_putAll]
    simp [pairs, Entries.keys, Function.comp_def]
  have hcells : ∀ e ∈ (r.select labels).entries, e.2 = r.get e.1 := by
    refine Entries.forall_putAll (P := fun l c => c = r.get l) ?_ ?_ (by simp)
    · rintro l m c hkey rfl
      exact r.get_congr hkey
    · intro e he
      obtain ⟨l, -, rfl⟩ := List.mem_map.mp he
      rfl
  rw [pairs, ← hlabels, List.map_map]
  refine ((List.map_congr_left fun e he => ?_).trans (List.map_id _)).symm
  rw [Function.comp_apply, ← hcells e he]
  rfl

end Row

namespace Statement

/-! ## Tokens that write -/

/-- What a token writes into the row that is being made of a source. -/
def Token.write (source made : Row) : Token → Row
  | .star => made.writeAll source
  | .column l => made.put l (source.get l)

/-- A token writes the labels that it names, each with its cell. -/
theorem entries_write (source made : Row) (token : Token) :
    (token.write source made).entries =
      Entries.putAll Label.key (source.pairs (token.labels source)) made.entries := by
  cases token with
  | star => rw [Token.labels, Row.pairs_labels]; rfl
  | column l => rfl

theorem foldl_write (source : Row) (tokens : List Token) (made : Row) :
    (tokens.foldl (Token.write source) made).entries =
      Entries.putAll Label.key (source.pairs (expand tokens source)) made.entries := by
  induction tokens generalizing made with
  | nil => rfl
  | cons token tokens ih =>
    rw [List.foldl_cons, ih, entries_write, expand_cons, Row.pairs_append, Entries.putAll_append]

/-- Token by token, the projection is made. -/
theorem projection_eq_foldl (tokens : List Token) (r : Row) :
    projection tokens r = tokens.foldl (Token.write r) .empty :=
  Row.eq_of_entries (foldl_write r tokens .empty).symm

/-! ## Labels and cells -/

theorem entries_projection (tokens : List Token) (r : Row) :
    (projection tokens r).entries =
      ((expand tokens r).eraseDupsBy Label.same).map fun l => (l, r.get l) :=
  r.entries_select_eq (expand tokens r)

/-- What stands beside a label is told by the other labels that the tokens name. -/
theorem beside_eq (tokens : List Token) (r : Row) (l : Label) :
    (projection tokens r).beside l =
      r.pairs (((expand tokens r).filter fun m => !m.same l).eraseDupsBy Label.same) := by
  have hkey : ∀ m n : Label, m.key = n.key → (!m.same l) = (!n.same l) := by
    intro m n h
    rw [Label.same, Label.same, h]
  rw [Row.beside, entries_projection, List.filter_map, ← Label.filter_eraseDupsBy hkey]
  rfl

/-- One column more, wherever it is named, changes nothing beside it. -/
theorem beside_projection (before after : List Token) (l : Label) (r : Row) :
    (projection (before ++ .column l :: after) r).beside l =
      (projection (before ++ after) r).beside l := by
  have hown : (!l.same l) = false := by
    rw [Label.same_iff_key.mpr rfl]
    rfl
  have hlabels : (expand (before ++ .column l :: after) r).filter (fun m => !m.same l) =
      (expand (before ++ after) r).filter fun m => !m.same l := by
    rw [expand, expand, List.flatMap_append, List.flatMap_append, List.flatMap_cons,
      List.filter_append, List.filter_append, List.filter_append, Token.labels,
      List.filter_cons_of_neg (by simp [hown]), List.filter_nil, List.nil_append]
  rw [beside_eq, beside_eq, hlabels]

/-- A star alone leaves a row as it is. -/
theorem projection_star (r : Row) : projection [.star] r = r := by
  have hkeys : (r.labels.map Label.key).Nodup := by
    simpa [Row.labels, Entries.keys, Function.comp_def] using r.nodup
  have hexpand : expand [.star] r = r.labels := List.flatMap_singleton ..
  refine Row.eq_of_entries ?_
  rw [projection, hexpand, r.entries_select hkeys]
  exact r.pairs_labels

theorem project_star (rows : List Row) : project [.star] rows = rows :=
  (List.map_congr_left fun r _ => projection_star r).trans (List.map_id rows)

/-! ## A star between blanks -/

/-- `SELECT`, blanks, a star, blanks and `FROM`, with any text after it. -/
inductive Starred : List Char → Prop
  | intro {select blanks gap word rest : List Char} : Writes selectWord select → blanks ≠ [] →
      (∀ c ∈ blanks, isBlank c = true) → gap ≠ [] → (∀ c ∈ gap, isBlank c = true) →
      Writes fromWord word → Starred (select ++ (blanks ++ '*' :: (gap ++ (word ++ rest))))

/-- Of several blanks, the last one is behind all that stands before `FROM`. -/
theorem beforeFrom?_blanks {gap s : List Char} (hgap : gap ≠ [])
    (hblank : ∀ c ∈ gap, isBlank c = true) (hs : startsFrom s = true) :
    beforeFrom? (gap ++ s) = some gap.dropLast := by
  induction gap with
  | nil => exact absurd rfl hgap
  | cons c gap ih =>
    have hc := hblank c List.mem_cons_self
    have hrest : ∀ d ∈ gap, isBlank d = true := fun d hd => hblank d (List.mem_cons_of_mem _ hd)
    cases gap with
    | nil => simp [beforeFrom?, hc, hs]
    | cons d gap =>
      have hno : startsFrom (d :: gap ++ s) = false :=
        startsFrom_of_isBlank (hrest d List.mem_cons_self) _
      rw [List.cons_append, beforeFrom?_blank hc, hno, ih (List.cons_ne_nil d gap) hrest]
      rfl

theorem selectList?_of_starred {s : List Char} (h : Starred s) : selectList? s = some ["*"] := by
  cases h with
  | @intro select blanks gap word rest hselect hne hblanks hgapne hgap hword =>
    have hfrom : startsFrom (word ++ rest) = true := by
      rw [startsFrom, dropKeyword?_eq_some_iff.mpr ⟨word, hword, rfl⟩]
      rfl
    have hstar : ∀ c ∈ ['*'], isBlank c = false := List.forall_mem_singleton.mpr (by decide)
    have hbefore : beforeFrom? ('*' :: (gap ++ (word ++ rest))) = some ('*' :: gap.dropLast) := by
      have happend := beforeFrom?_append hstar (gap ++ (word ++ rest))
      rwa [beforeFrom?_blanks hgapne hgap hfrom] at happend
    have hbody : trimStart (blanks ++ '*' :: (gap ++ (word ++ rest))) =
        '*' :: (gap ++ (word ++ rest)) := by
      rw [trimStart, List.dropWhile_append_of_pos hblanks]
      exact trimStart_cons_of_not rfl _
    have hafter : afterSelect? (select ++ (blanks ++ '*' :: (gap ++ (word ++ rest)))) =
        some (blanks ++ '*' :: (gap ++ (word ++ rest))) := by
      rw [afterSelect?_eq]
      refine firstAt?_of_some (selectHere?_eq_some_iff.mpr
        ⟨dropKeyword?_eq_some_iff.mpr ⟨select, hselect, rfl⟩, ?_⟩)
      obtain ⟨c, blanks, rfl⟩ := List.exists_cons_of_ne_nil hne
      simp [hblanks c List.mem_cons_self]
    have hpieces : pieces ('*' :: gap.dropLast) = ["*"] :=
      pieces_append_blanks ['*'] fun c hc => hgap c (List.dropLast_subset gap hc)
    rw [selectList?, hafter]
    simp only [hbody, hbefore, hpieces]

/-- A statement with a star alone is answered with every row, by way of the projection unless it
mentions every column elsewhere. -/
theorem execute_of_starred {s : String} (h : Starred s.toList) (t : Table) :
    (mentions "SELECT *" (upper s.toList) = false →
      Shape.read (.text s) = .columns [.ofText "*"]) ∧ execute (.text s) t = t.rows := by
  have hlist := selectList?_of_starred h
  by_cases hstar : mentions "SELECT *" (upper s.toList) = true
  · refine ⟨fun hno => absurd hstar (by simp [hno]), ?_⟩
    rw [execute, Shape.read, Shape.ofText, if_pos hstar]
    rfl
  · rw [Bool.not_eq_true] at hstar
    have hread : Shape.read (.text s) = .columns [.ofText "*"] := ofText_of_selectList? hlist hstar
    refine ⟨fun _ => hread, ?_⟩
    rw [execute, hread]
    exact project_star t.rows

/-! ## Lookup -/

/-- **Projection is column lookup.** For every row there is one, with the labels that the tokens
name, stars replaced by all labels of the row, and of the labels under one key the first; under each
of them stands the cell of the row, or null if it has none. The tokens write it one after another. A
column more changes nothing beside it, a star alone nothing at all, and a statement with a star
alone is answered like one that begins with `SELECT *`, whatever blanks it has. -/
theorem project_looks_up (tokens : List Token) (rows : List Row) :
    (project tokens rows).map Row.entries =
        rows.map (fun r => ((expand tokens r).eraseDupsBy Label.same).map fun l => (l, r.get l)) ∧
      project tokens rows = rows.map (fun r => tokens.foldl (Token.write r) .empty) ∧
      (∀ before l after, tokens = before ++ .column l :: after →
        (project tokens rows).map (Row.beside l) =
          (project (before ++ after) rows).map (Row.beside l)) ∧
      project [.ofText "*"] rows = rows ∧
      ∀ s starred : String, Starred s.toList →
        mentions "SELECT *" (upper starred.toList) = true →
        (mentions "SELECT *" (upper s.toList) = false →
          Shape.read (.text s) = .columns [.ofText "*"]) ∧
        execute (.text s) ⟨rows⟩ = execute (.text starred) ⟨rows⟩ := by
  refine ⟨?_, ?_, ?_, project_star rows, fun s starred hs hstarred => ?_⟩
  · rw [project, List.map_map]
    exact List.map_congr_left fun r _ => entries_projection tokens r
  · exact List.map_congr_left fun r _ => projection_eq_foldl tokens r
  · rintro before l after rfl
    rw [project, project, List.map_map, List.map_map]
    exact List.map_congr_left fun r _ => beside_projection before after l r
  · obtain ⟨hread, hexecute⟩ := execute_of_starred hs ⟨rows⟩
    refine ⟨hread, hexecute.trans ?_⟩
    rw [execute, Shape.read, Shape.ofText, if_pos hstarred]
    rfl

/-- Two people, of whom different things are known. -/
def acquaintances : List Row :=
  [Row.ofList [(.ofText "id", .int 1), (.ofText "name", .text "Ada")],
    Row.ofList [(.ofText "name", .text "Eve"), (.ofText "age", .int 36)]]

/-- A name before a star that brings it again, and one that nobody has. Without the first one the
other columns are the same. A star between a wide space, a line feed and a tab asks for everything,
and a limit does not matter. -/
theorem project_looks_up_acquaintances :
    let name := Label.ofText "name"
    let zip := Label.ofText "zip"
    (project [.column name, .star, .column zip, .column name] acquaintances).map Row.entries =
        [[(name, .text "Ada"), (.ofText "id", .int 1), (zip, .null)],
          [(name, .text "Eve"), (.ofText "age", .int 36), (zip, .null)]] ∧
      (project [.column name, .star, .column zip, .column name] acquaintances).map
          (Row.beside name) =
        (project [.star, .column zip, .column name] acquaintances).map (Row.beside name) ∧
      execute (.text "select\u2003\n*\tFrom people LIMIT 1") ⟨acquaintances⟩ =
        execute (.text "select * from people") ⟨acquaintances⟩ := by
  intro name zip
  obtain ⟨hentries, -, hbeside, -, hstatement⟩ :=
    project_looks_up [.column name, .star, .column zip, .column name] acquaintances
  have hblanks : ∀ c ∈ ['\u2003', '\n'], isBlank c = true :=
    List.forall_mem_cons.mpr ⟨by decide, List.forall_mem_singleton.mpr (by decide)⟩
  have hgap : ∀ c ∈ ['\t'], isBlank c = true := List.forall_mem_singleton.mpr (by decide)
  have hstarred : Starred "select\u2003\n*\tFrom people LIMIT 1".toList :=
    @Starred.intro "select".toList ['\u2003', '\n'] ['\t'] "From".toList
      " people LIMIT 1".toList (by unfold Writes; decide) (by decide) hblanks (by decide) hgap
      (by unfold Writes; decide)
  exact ⟨hentries.trans rfl, hbeside [] name _ rfl,
    (hstatement _ "select * from people" hstarred (by decide +kernel)).2⟩

end Statement

end AskTable
