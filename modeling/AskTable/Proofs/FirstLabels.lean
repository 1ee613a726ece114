import AskTable.Proofs.RepeatedAnswers
import Mathlib.Data.List.Basic

/-!
# First labels

Labels may name one column more than once. Entries that are put one after the other keep a label
where its key first came, and so they have the labels that are left when repeated ones are left out.

* `filter_eraseDupsBy`: repeated labels can be left out before or after a choice by key.
* `key_mem_eraseDupsBy`: one label is left under every key.
* `map_fst_putAll`: of labels that are put one after the other, the first ones stay.
* `forall_putAll`: what holds of all pairs that are put holds of the entries.
-/

namespace AskTable

/-! ## Labels -/

namespace Label

theorem same_iff_key {l m : Label} : l.same m = true ↔ l.key = m.key := beq_iff_eq

/-- A choice by key can be made before repeated labels are left out, or after it. -/
theorem filter_eraseDupsBy {p : Label → Bool} (hp : ∀ l m : Label, l.key = m.key → p l = p m) :
    ∀ labels : List Label,
      (labels.eraseDupsBy same).filter p = (labels.filter p).eraseDupsBy same
  | [] => rfl
  | l :: labels => by
    rw [List.eraseDupsBy_cons, List.filter_cons, List.filter_cons, filter_eraseDupsBy hp]
    cases hl : p l with
    | true =>
      rw [if_pos rfl, if_pos rfl, List.eraseDupsBy_cons, List.filter_comm]
    | false =>
      -- what has the key of the first label is not chosen either
      have hother : ∀ m ∈ labels, (p m && decide (m.same l = false)) = p m := by
        intro m _
        cases hm : p m with
        | false => rfl
        | true =>
          have hne : m.same l = false := by
            rw [Bool.eq_false_iff, ne_eq, same_iff_key]
            intro hkey
            rw [hp m l hkey, hl] at hm
            cases hm
          simp [hne]
      rw [if_neg Bool.false_ne_true, if_neg Bool.false_ne_true, List.filter_filter,
        List.filter_congr hother]
termination_by labels => labels.length
decreasing_by exact Nat.lt_succ_of_le (List.length_filter_le _ _)

/-- Of labels under one key one is left. -/
theorem key_mem_eraseDupsBy {l : Label} :
    ∀ {labels : List Label}, l ∈ labels → l.key ∈ (labels.eraseDupsBy same).map key
  | first :: labels, h => by
    rw [List.eraseDupsBy_cons, List.map_cons, List.mem_cons]
    by_cases hkey : l.key = first.key
    · exact Or.inl hkey
    · have hne : l ≠ first := fun heq => hkey (heq ▸ rfl)
      have hrest : l ∈ labels.filter fun m => m.same first = false := by
        rw [List.mem_filter, decide_eq_true_iff, Bool.eq_false_iff, ne_eq, same_iff_key]
        exact ⟨(List.mem_cons.mp h).resolve_left hne, hkey⟩
      exact Or.inr (key_mem_eraseDupsBy hrest)
termination_by labels => labels.length
decreasing_by exact Nat.lt_succ_of_le (List.length_filter_le _ _)

end Label

/-! ## Entries -/

namespace Entries

variable {α : Type}

theorem map_fst_put_of_mem {l : Label} {v : α} {entries : List (Label × α)}
    (h : l.key ∈ keys Label.key entries) :
    (put Label.key l v entries).map (·.1) = entries.map (·.1) := by
  induction entries with
  | nil => cases h
  | cons e entries ih =>
    rw [put]
    split
    · rfl
    · rename_i hne
      have hrest : l.key ∈ keys Label.key entries :=
        (List.mem_cons.mp h).resolve_left (Ne.symm hne)
      rw [List.map_cons, ih hrest, List.map_cons]

/-- The labels that are put: those from before, and of the new ones the first under each key. -/
theorem map_fst_putAll (pairs entries : List (Label × α)) :
    (putAll Label.key pairs entries).map (·.1) =
      entries.map (·.1) ++ ((pairs.map (·.1)).filter fun l =>
        l.key ∉ keys Label.key entries).eraseDupsBy Label.same := by
  induction pairs generalizing entries with
  | nil => simp [putAll, List.eraseDupsBy, List.eraseDupsBy.loop]
  | cons p pairs ih =>
    have hput : putAll Label.key (p :: pairs) entries =
        putAll Label.key pairs (put Label.key p.1 p.2 entries) := rfl
    rw [hput, ih, List.map_cons]
    by_cases hp : p.1.key ∈ keys Label.key entries
    · rw [map_fst_put_of_mem hp, keys_put_of_mem hp, List.filter_cons_of_neg (by simpa using hp)]
    · have hnew : ∀ l : Label, l.key ∉ keys Label.key (entries ++ [p]) ↔
          l.same p.1 = false ∧ l.key ∉ keys Label.key entries := by
        intro l
        rw [Bool.eq_false_iff, ne_eq, Label.same_iff_key, keys, List.map_append, List.mem_append,
          not_or, and_comm, List.map_singleton, List.mem_singleton]
        rfl
      rw [put_of_not_mem hp, List.filter_cons_of_pos (by simpa using hp), List.eraseDupsBy_cons,
        List.filter_filter, List.map_append, List.append_assoc]
      simp only [hnew, Bool.decide_and, List.map_singleton, List.singleton_append]

/-- What holds of all pairs that are put, whatever label of a key they have, holds of the entries. -/
theorem forall_putAll {P : Label → α → Prop} (hP : ∀ l m a, l.key = m.key → P l a → P m a)
    {pairs entries : List (Label × α)} (hpairs : ∀ p ∈ pairs, P p.1 p.2)
    (hentries : ∀ e ∈ entries, P e.1 e.2) :
    ∀ e ∈ putAll Label.key pairs entries, P e.1 e.2 := by
  have hput {l : Label} {a : α} (hla : P l a) {entries : List (Label × α)}
      (h : ∀ e ∈ entries, P e.1 e.2) : ∀ e ∈ put Label.key l a entries, P e.1 e.2 := by
    induction entries with
    | nil => simpa [put] using hla
    | cons d entries ih =>
      obtain ⟨hd, hrest⟩ := List.forall_mem_cons.mp h
      rw [put]
      split
      · rename_i hkey
        exact List.forall_mem_cons.mpr ⟨hP l d.1 a hkey.symm hla, hrest⟩
      · exact List.forall_mem_cons.mpr ⟨hd, ih hrest⟩
  induction pairs generalizing entries with
  | nil => exact hentries
  | cons p pairs ih =>
    obtain ⟨hp, hrest⟩ := List.forall_mem_cons.mp hpairs
    exact ih hrest (hput hp hentries)

end Entries

end AskTable
