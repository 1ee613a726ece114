/-!
# Ordered entries

Lists of keys and values in which a key keeps the place where it first came.

* `put`: gives a key a value, in its place or at the end.
* `find?`: the value of a key.
* `keys_put_of_mem`, `keys_put_of_not_mem`: what `put` does to the keys.
* `find?_put`: what it does to the values.
-/

namespace AskTable.Entries

variable {α β κ : Type} [DecidableEq κ]

/-- The keys of the entries, in order. -/
def keys (keyOf : α → κ) (entries : List (α × β)) : List κ := entries.map fun e => keyOf e.1

/-- Gives a key a value. The key that was there first stays. -/
def put (keyOf : α → κ) (a : α) (v : β) : List (α × β) → List (α × β)
  | [] => [(a, v)]
  | e :: entries =>
    if keyOf e.1 = keyOf a then (e.1, v) :: entries else e :: put keyOf a v entries

/-- The value of a key. -/
def find? (keyOf : α → κ) (k : κ) : List (α × β) → Option β
  | [] => none
  | e :: entries => if keyOf e.1 = k then some e.2 else find? keyOf k entries

/-- Puts pairs one after the other. -/
def putAll (keyOf : α → κ) (pairs entries : List (α × β)) : List (α × β) :=
  pairs.foldl (fun es p => put keyOf p.1 p.2 es) entries

theorem keys_put_of_mem {keyOf : α → κ} {a : α} {v : β} {entries : List (α × β)}
    (h : keyOf a ∈ keys keyOf entries) : keys keyOf (put keyOf a v entries) = keys keyOf entries := by
  induction entries with
  | nil => simp [keys] at h
  | cons e entries ih =>
    simp only [put]
    split
    · rfl
    · rename_i hne
      have h' : keyOf a ∈ keys keyOf entries := by
        simp only [keys, List.map_cons, List.mem_cons] at h
        rcases h with h | h
        · exact absurd h.symm hne
        · exact h
      simpa [keys] using ih h'

theorem keys_put_of_not_mem {keyOf : α → κ} {a : α} {v : β} {entries : List (α × β)}
    (h : keyOf a ∉ keys keyOf entries) :
    keys keyOf (put keyOf a v entries) = keys keyOf entries ++ [keyOf a] := by
  induction entries with
  | nil => rfl
  | cons e entries ih =>
    simp only [keys, List.map_cons, List.mem_cons, not_or] at h
    simp only [put, if_neg (Ne.symm h.1)]
    simpa [keys] using ih h.2

theorem nodup_put {keyOf : α → κ} (a : α) (v : β) {entries : List (α × β)}
    (h : (keys keyOf entries).Nodup) : (keys keyOf (put keyOf a v entries)).Nodup := by
  by_cases hm : keyOf a ∈ keys keyOf entries
  · rwa [keys_put_of_mem hm]
  · rw [keys_put_of_not_mem hm, List.nodup_append]
    exact ⟨h, by simp, by simp; intro x hx hxa; exact hm (hxa ▸ hx)⟩

theorem nodup_putAll {keyOf : α → κ} (pairs : List (α × β)) {entries : List (α × β)}
    (h : (keys keyOf entries).Nodup) : (keys keyOf (putAll keyOf pairs entries)).Nodup := by
  induction pairs generalizing entries with
  | nil => exact h
  | cons p pairs ih => exact ih (nodup_put p.1 p.2 h)

theorem find?_put (keyOf : α → κ) (a : α) (v : β) (k : κ) (entries : List (α × β)) :
    find? keyOf k (put keyOf a v entries) =
      if keyOf a = k then some v else find? keyOf k entries := by
  induction entries with
  | nil => simp [put, find?]
  | cons e entries ih =>
    simp only [put]
    split
    · rename_i h
      simp only [find?, h]
      split <;> rfl
    · rename_i h
      simp only [find?, ih]
      by_cases he : keyOf e.1 = k
      · have : keyOf a ≠ k := fun ha => h (he.trans ha.symm)
        simp [he, this]
      · simp [he]

end AskTable.Entries
