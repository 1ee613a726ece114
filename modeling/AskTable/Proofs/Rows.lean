import AskTable.Table.Row

/-!
# Rows of distinct labels

* `putAll_of_nodup`: pairs with new and distinct keys are put at the end, in order.
* `mem_keys_putAll`: the keys after putting pairs are those of the pairs and those from before.
* `find?_putAll`: of the values that are put under a key the last counts.
* `find?_of_mem`: under distinct keys every entry is found, so that a row has its cells under its
  labels (`map_get_labels`).
* `entries_select`: the row of some distinct labels has exactly these, in order, each with its cell.
* `get?_select`: the row of any labels has exactly these, each with its cell.
-/

namespace AskTable

/-! ## Entries -/

namespace Entries

variable {α β κ : Type} [DecidableEq κ] {keyOf : α → κ}

theorem put_of_not_mem {a : α} {v : β} {entries : List (α × β)}
    (h : keyOf a ∉ keys keyOf entries) : put keyOf a v entries = entries ++ [(a, v)] := by
  induction entries with
  | nil => rfl
  | cons e entries ih =>
    simp only [keys, List.map_cons, List.mem_cons, not_or] at h
    rw [put, if_neg (Ne.symm h.1), ih h.2, List.cons_append]

theorem putAll_of_nodup {pairs entries : List (α × β)}
    (h : (keys keyOf (entries ++ pairs)).Nodup) :
    putAll keyOf pairs entries = entries ++ pairs := by
  induction pairs generalizing entries with
  | nil => simp [putAll]
  | cons p pairs ih =>
    have hp : keyOf p.1 ∉ keys keyOf entries := by
      simp only [keys, List.map_append, List.map_cons, List.nodup_append] at h
      intro hm
      exact h.2.2 _ hm _ List.mem_cons_self rfl
    have hput : putAll keyOf (p :: pairs) entries = putAll keyOf pairs (entries ++ [p]) := by
      rw [putAll, List.foldl_cons, put_of_not_mem hp, putAll]
    rw [hput, ih (by simpa using h), List.append_assoc, List.singleton_append]

theorem mem_keys_put {a : α} {v : β} {entries : List (α × β)} {k : κ} :
    k ∈ keys keyOf (put keyOf a v entries) ↔ k = keyOf a ∨ k ∈ keys keyOf entries := by
  by_cases h : keyOf a ∈ keys keyOf entries
  · rw [keys_put_of_mem h]
    constructor
    · exact Or.inr
    · rintro (rfl | hk)
      · exact h
      · exact hk
  · rw [keys_put_of_not_mem h, List.mem_append, List.mem_singleton, or_comm]

theorem mem_keys_putAll {pairs entries : List (α × β)} {k : κ} :
    k ∈ keys keyOf (putAll keyOf pairs entries) ↔
      k ∈ keys keyOf pairs ∨ k ∈ keys keyOf entries := by
  induction pairs generalizing entries with
  | nil => simp [putAll, keys]
  | cons p pairs ih =>
    have hput : putAll keyOf (p :: pairs) entries =
        putAll keyOf pairs (put keyOf p.1 p.2 entries) := rfl
    rw [hput, ih, mem_keys_put]
    simp only [keys, List.map_cons, List.mem_cons]
    rw [or_assoc, or_left_comm]

theorem find?_append (k : κ) (entries others : List (α × β)) :
    find? keyOf k (entries ++ others) = (find? keyOf k entries).or (find? keyOf k others) := by
  induction entries with
  | nil => rfl
  | cons e entries ih =>
    rw [List.cons_append, find?, find?, ih]
    split <;> rfl

/-- Of the values that are put under a key the last counts. -/
theorem find?_putAll (k : κ) (pairs entries : List (α × β)) :
    find? keyOf k (putAll keyOf pairs entries) =
      (find? keyOf k pairs.reverse).or (find? keyOf k entries) := by
  induction pairs generalizing entries with
  | nil => rfl
  | cons p pairs ih =>
    have hput : putAll keyOf (p :: pairs) entries =
        putAll keyOf pairs (put keyOf p.1 p.2 entries) := rfl
    rw [hput, ih, find?_put, List.reverse_cons, find?_append, Option.or_assoc]
    congr 1
    by_cases h : keyOf p.1 = k
    · simp [find?, h]
    · simp [find?, h]

theorem find?_of_not_mem {k : κ} {entries : List (α × β)} (h : k ∉ keys keyOf entries) :
    find? keyOf k entries = none := by
  induction entries with
  | nil => rfl
  | cons e entries ih =>
    simp only [keys, List.map_cons, List.mem_cons, not_or] at h
    rw [find?, if_neg (Ne.symm h.1), ih h.2]

theorem mem_of_find? {k : κ} {v : β} {entries : List (α × β)}
    (h : find? keyOf k entries = some v) : v ∈ entries.map (·.2) := by
  induction entries with
  | nil => cases h
  | cons e entries ih =>
    rw [find?] at h
    split at h
    · cases h
      exact List.mem_cons_self
    · exact List.mem_cons_of_mem _ (ih h)

/-- Under distinct keys every entry is found. -/
theorem find?_of_mem {entries : List (α × β)} (h : (keys keyOf entries).Nodup) {e : α × β}
    (he : e ∈ entries) : find? keyOf (keyOf e.1) entries = some e.2 := by
  induction entries with
  | nil => cases he
  | cons d entries ih =>
    simp only [keys, List.map_cons, List.nodup_cons] at h
    rw [find?]
    rcases List.mem_cons.mp he with rfl | he
    · rw [if_pos rfl]
    · have hne : keyOf d.1 ≠ keyOf e.1 :=
        fun hk => h.1 (hk ▸ List.mem_map_of_mem (f := fun e => keyOf e.1) he)
      rw [if_neg hne, ih h.2 he]

/-- A key of pairs in which the value depends on the key alone. -/
theorem find?_map_of_mem {k : κ} {as : List α} {g : α → β} {v : β}
    (hg : ∀ a ∈ as, keyOf a = k → g a = v) (h : k ∈ as.map keyOf) :
    find? keyOf k (as.map fun a => (a, g a)) = some v := by
  induction as with
  | nil => cases h
  | cons a as ih =>
    rw [List.map_cons, find?]
    by_cases ha : keyOf a = k
    · rw [if_pos ha, hg a List.mem_cons_self ha]
    · rw [List.map_cons, List.mem_cons] at h
      rw [if_neg ha, ih (fun b hb => hg b (List.mem_cons_of_mem _ hb))
        (h.resolve_left (Ne.symm ha))]

end Entries

/-! ## Rows -/

namespace Row

/-- Under its labels a row has its cells. -/
theorem map_get_labels (r : Row) : r.labels.map r.get = r.cells := by
  rw [labels, cells, List.map_map]
  refine List.map_congr_left fun e he => ?_
  rw [Function.comp_apply, get, get?, Entries.find?_of_mem r.nodup he, Option.getD_some]

/-- The row of some distinct labels has exactly these, in order, each with its own cell. -/
theorem entries_select (r : Row) {labels : List Label} (h : (labels.map Label.key).Nodup) :
    (r.select labels).entries = labels.map fun l => (l, r.get l) := by
  have hkeys : (Entries.keys Label.key ([] ++ labels.map fun l => (l, r.get l))).Nodup := by
    simpa [Entries.keys, Function.comp_def] using h
  exact Entries.putAll_of_nodup hkeys

theorem mem_keys_select {r : Row} {labels : List Label} {l : Label} (h : l ∈ labels) :
    l.key ∈ Entries.keys Label.key (r.select labels).entries := by
  refine Entries.mem_keys_putAll.mpr (Or.inl ?_)
  simpa [Entries.keys] using ⟨l, h, rfl⟩

/-- The row of any labels has exactly these, each with its own cell. -/
theorem get?_select (r : Row) (labels : List Label) (l : Label) :
    (r.select labels).get? l = if l.key ∈ labels.map Label.key then some (r.get l) else none := by
  rw [get?, select, ofList, Entries.find?_putAll, ← List.map_reverse]
  split
  · rename_i h
    rw [Entries.find?_map_of_mem (v := r.get l) _ (by simpa using h)]
    · rfl
    · intro m _ hm
      rw [get, get, get?, get?, hm]
  · rename_i h
    rw [Entries.find?_of_not_mem]
    · rfl
    · simpa [Entries.keys] using h

end Row

end AskTable
