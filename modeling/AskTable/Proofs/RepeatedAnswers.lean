import AskTable.Proofs.RowWise

/-!
# Answers asked again

An answer is a list of rows, and a statement can be asked of it once more. A star then stands for
the columns of the answer, not for those of the table.

* `put_of_find?`, `putAll_of_find?`: what is there already can be put again.
* `putAll_of_prefix`: entries that are put over a part at their front give themselves.
* `putAll_pairs`: the cells of one row are put without changing those that were put before.
* `projection_projection`: a row that is cut down to some tokens stays as it is when they are asked
  of it again, with the same order of columns.
* `execute_execute`: every statement has its own answer to its answer.
-/

namespace AskTable

/-! ## Entries -/

namespace Entries

variable {α β κ : Type} [DecidableEq κ] {keyOf : α → κ}

/-- A value that is there already can be put again. -/
theorem put_of_find? {a : α} {v : β} {entries : List (α × β)}
    (h : find? keyOf (keyOf a) entries = some v) : put keyOf a v entries = entries := by
  induction entries with
  | nil => cases h
  | cons e entries ih =>
    rw [find?] at h
    rw [put]
    split at h
    · rename_i hkey
      cases h
      rw [if_pos hkey]
    · rename_i hkey
      rw [if_neg hkey, ih h]

/-- Values that are there already can be put again. -/
theorem putAll_of_find? {pairs entries : List (α × β)}
    (h : ∀ p ∈ pairs, find? keyOf (keyOf p.1) entries = some p.2) :
    putAll keyOf pairs entries = entries := by
  induction pairs with
  | nil => rfl
  | cons p pairs ih =>
    have hput : put keyOf p.1 p.2 entries = entries := put_of_find? (h p List.mem_cons_self)
    have hrest := ih fun q hq => h q (List.mem_cons_of_mem _ hq)
    rw [putAll, List.foldl_cons, hput]
    exact hrest

theorem putAll_append (pairs others entries : List (α × β)) :
    putAll keyOf (pairs ++ others) entries = putAll keyOf others (putAll keyOf pairs entries) :=
  List.foldl_append

/-- Entries with distinct keys that are put over a part at their front give themselves. -/
theorem putAll_of_prefix {entries part : List (α × β)} (h : (keys keyOf entries).Nodup)
    (hpart : part <+: entries) : putAll keyOf entries part = entries := by
  obtain ⟨rest, rfl⟩ := hpart
  have hkeys : (keys keyOf part).Nodup := by
    rw [keys, List.map_append] at h
    exact (List.nodup_append.mp h).1
  rw [putAll_append, putAll_of_find? fun p hp => find?_of_mem hkeys hp, putAll_of_nodup h]

end Entries

/-! ## Rows -/

namespace Row

/-- Some labels with the cells that a row has under them. -/
def pairs (r : Row) (labels : List Label) : List (Label × Cell) := labels.map fun l => (l, r.get l)

theorem eq_of_entries {r p : Row} (h : r.entries = p.entries) : r = p := by
  cases r
  cases p
  cases h
  rfl

theorem select_entries (r : Row) (labels : List Label) :
    (r.select labels).entries = Entries.putAll Label.key (r.pairs labels) [] := rfl

theorem get_congr (r : Row) {l m : Label} (h : l.key = m.key) : r.get l = r.get m := by
  rw [get, get, get?, get?, h]

/-- A row is made of its labels with its cells. -/
theorem pairs_labels (r : Row) : r.pairs r.labels = r.entries := by
  rw [pairs, labels, List.map_map]
  refine (List.map_congr_left fun e he => ?_).trans (List.map_id _)
  rw [Function.comp_apply, get, get?, Entries.find?_of_mem r.nodup he]
  rfl

theorem find?_pairs (r : Row) {labels : List Label} {l : Label} (h : l.key ∈ labels.map Label.key) :
    Entries.find? Label.key l.key (r.pairs labels) = some (r.get l) :=
  Entries.find?_map_of_mem (fun _ _ hm => r.get_congr hm) h

/-- A cell of the row comes to the end, or it is there already. -/
theorem put_pairs (r : Row) (l : Label) (there : List Label) :
    ∃ more, Entries.put Label.key l (r.get l) (r.pairs there) = r.pairs (there ++ more) := by
  by_cases h : l.key ∈ there.map Label.key
  · exact ⟨[], by rw [Entries.put_of_find? (r.find?_pairs h), List.append_nil]⟩
  · have hkeys : l.key ∉ Entries.keys Label.key (r.pairs there) := by
      simpa [Entries.keys, pairs] using h
    exact ⟨[l], by rw [Entries.put_of_not_mem hkeys, pairs, pairs, List.map_append]; rfl⟩

/-- Cells of the row are put without changing those that are there. -/
theorem putAll_pairs (r : Row) (labels there : List Label) :
    ∃ more, Entries.putAll Label.key (r.pairs labels) (r.pairs there) =
      r.pairs (there ++ more) := by
  induction labels generalizing there with
  | nil => exact ⟨[], by rw [List.append_nil]; rfl⟩
  | cons l labels ih =>
    obtain ⟨new, hnew⟩ := r.put_pairs l there
    obtain ⟨more, hmore⟩ := ih (there ++ new)
    refine ⟨new ++ more, ?_⟩
    rw [pairs, List.map_cons, Entries.putAll, List.foldl_cons, hnew, ← List.append_assoc]
    exact hmore

theorem pairs_append (r : Row) (labels others : List Label) :
    r.pairs (labels ++ others) = r.pairs labels ++ r.pairs others :=
  List.map_append

/-- Under the labels of a selection stand the cells of the row itself. -/
theorem get?_select_of_mem {r : Row} {labels : List Label} {l : Label}
    (h : l ∈ labels ∨ l ∈ (r.select labels).labels) :
    (r.select labels).get? l = some (r.get l) := by
  have hkey : l.key ∈ labels.map Label.key := by
    rcases h with h | h
    · exact List.mem_map_of_mem h
    · obtain ⟨e, he, rfl⟩ := List.mem_map.mp h
      have hput := Entries.mem_keys_putAll.mp
        (List.mem_map_of_mem (f := fun e : Label × Cell => e.1.key) he)
      simpa [Entries.keys, pairs] using hput
  rw [get?_select, if_pos hkey]

/-- Cells of the row itself can be taken in place of those of a selection. -/
theorem pairs_select {r : Row} {labels others : List Label}
    (h : ∀ l ∈ others, (r.select labels).get? l = some (r.get l)) :
    (r.select labels).pairs others = r.pairs others :=
  List.map_congr_left fun l hl => by rw [get, h l hl, Option.getD_some]

end Row

/-! ## Projections -/

namespace Statement

theorem expand_cons (token : Token) (tokens : List Token) (r : Row) :
    expand (token :: tokens) r = token.labels r ++ expand tokens r :=
  List.flatMap_cons

/-- A label that tokens name in one row they name in every row, or it comes from a star. -/
theorem mem_expand {tokens : List Token} (r : Row) {p : Row} {l : Label}
    (h : l ∈ expand tokens p) : l ∈ expand tokens r ∨ l ∈ p.labels := by
  obtain ⟨token, htoken, hl⟩ := List.mem_flatMap.mp h
  cases token with
  | star => exact Or.inr hl
  | column label => exact Or.inl (List.mem_flatMap.mpr ⟨_, htoken, hl⟩)

/-- Tokens are asked of a row `p` that they have made of `r`. The columns before the first star are
put in the same way, the star puts all of `p` in its order, and what follows is there already. -/
theorem putAll_expand {r p : Row} {tokens : List Token} (there : List Label)
    (hp : Entries.putAll Label.key (r.pairs (expand tokens r)) (r.pairs there) = p.entries)
    (hlabels : r.pairs p.labels = p.entries)
    (hcells : ∀ l ∈ expand tokens p, p.get? l = some (r.get l)) :
    Entries.putAll Label.key (r.pairs (expand tokens p)) (r.pairs there) = p.entries := by
  induction tokens generalizing there with
  | nil => exact hp
  | cons token tokens ih =>
    have hrest : ∀ l ∈ expand tokens p, p.get? l = some (r.get l) := fun l hl =>
      hcells l (expand_cons token tokens p ▸ List.mem_append_right _ hl)
    cases token with
    | column label =>
      obtain ⟨new, hnew⟩ := r.putAll_pairs [label] there
      rw [expand_cons, Row.pairs_append, Entries.putAll_append] at hp ⊢
      rw [Token.labels, hnew] at hp ⊢
      exact ih _ hp hrest
    | star =>
      obtain ⟨more, hmore⟩ := r.putAll_pairs (expand (.star :: tokens) r) there
      have hpart : r.pairs there <+: p.entries := by
        rw [← hp, hmore, Row.pairs_append]
        exact List.prefix_append _ _
      rw [expand_cons, Row.pairs_append, Entries.putAll_append, Token.labels, hlabels,
        Entries.putAll_of_prefix p.nodup hpart]
      refine Entries.putAll_of_find? fun e he => ?_
      obtain ⟨l, hl, rfl⟩ := List.mem_map.mp he
      exact hrest l hl

/-- **Cutting a row down twice** is cutting it down once. The columns keep their order, also when
stars stand for others the second time. -/
theorem projection_projection (tokens : List Token) (r : Row) :
    projection tokens (projection tokens r) = projection tokens r := by
  have hcells : ∀ l ∈ expand tokens (projection tokens r),
      (projection tokens r).get? l = some (r.get l) :=
    fun l hl => Row.get?_select_of_mem (mem_expand r hl)
  have hown : ∀ l ∈ (projection tokens r).labels, (projection tokens r).get? l = some (r.get l) :=
    fun l hl => Row.get?_select_of_mem (Or.inr hl)
  have hlabels : r.pairs (projection tokens r).labels = (projection tokens r).entries :=
    (Row.pairs_select hown).symm.trans (Row.pairs_labels _)
  refine Row.eq_of_entries ?_
  calc (projection tokens (projection tokens r)).entries
    _ = Entries.putAll Label.key
          ((projection tokens r).pairs (expand tokens (projection tokens r))) [] :=
        Row.select_entries ..
    _ = Entries.putAll Label.key (r.pairs (expand tokens (projection tokens r))) [] := by
        rw [show (projection tokens r).pairs _ = r.pairs _ from Row.pairs_select hcells]
    _ = (projection tokens r).entries := putAll_expand [] rfl hlabels hcells

/-! ## Statements -/

theorem apply_apply (shape : Shape) (rows : List Row) :
    shape.apply (shape.apply rows) = shape.apply rows := by
  cases shape with
  | everything => rfl
  | columns tokens =>
    have htwice : (rows.map (projection tokens)).map (projection tokens) =
        rows.map (projection tokens) := by
      rw [List.map_map]
      exact List.map_congr_left fun r _ => projection_projection tokens r
    exact htwice
  | first count =>
    have htwice : (rows.take count).take count = rows.take count := by
      rw [List.take_take, Nat.min_self]
    exact htwice

/-- **Every statement has its own answer to its answer**, row by row and with the columns of each
row in the same order. -/
theorem execute_execute (statement : Cell) (t : Table) :
    execute statement ⟨execute statement t⟩ = execute statement t :=
  apply_apply (Shape.read statement) t.rows

/-- The star brings the columns of a row that has them in another order, and it brings no more when
it is asked of the answer. -/
example :
    let t : Table := ⟨[Row.ofList [(.ofText "id", .int 1), (.ofText "name", .text "Ada")]]⟩
    let statement : Cell := .text "select name, *, age from PEOPLE"
    (execute statement ⟨execute statement t⟩).map (fun r => r.labels.map Label.text) =
      [["name", "id", "age"]] := by decide +kernel

end Statement

end AskTable
