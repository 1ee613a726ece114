import AskTable.File.Header
import AskTable.Proofs.Rows

/-!
# Settled names

The names of a header are settled place by place. A place keeps its name unless a column before it
took that name, and gets a new text then.

* `settle_cases`: all that the settling of one name can do.
* `foldl_settle_of_nodup`, `distinctNames_of_nodup`: names that differ stay as they are.
* `Label.isText_iff_key`: the key of a label tells whether it is a text.
* `forall_distinctNames_isText`: all columns are called by texts exactly when all given names are
  texts.
-/

namespace AskTable

/-! ## Labels that are texts -/

theorem binaryAtom_ne_text (x : Number.Binary64) (s : String) : binaryAtom x ≠ .text s := by
  cases x <;> simp [binaryAtom]

theorem decimalAtom?_ne_text (d : Number.Decimal) (s : String) :
    decimalAtom? d ≠ some (.text s) := by
  unfold decimalAtom?
  split <;> simp

/-- Only a text has the key of a text. -/
theorem Cell.key_eq_text {c : Cell} {s : String} : c.key = .ok [.text s] ↔ c = .text s := by
  constructor
  · intro h
    rw [Cell.key.eq_def] at h
    split at h
    case h_8 => simpa using h
    all_goals (repeat' split at h) <;>
      simp_all [integerAtom, binaryAtom_ne_text, decimalAtom?_ne_text]
  · rintro rfl
    simp [Cell.key]

/-- The key of a label tells whether it is a text. -/
theorem Label.isText_iff_key (l : Label) :
    l.cell.isText = true ↔ ∃ s, l.key = [.text s] := by
  have hkey : (∃ s, l.key = [.text s]) ↔ ∃ s, l.cell = .text s := by
    refine exists_congr fun s => ?_
    rw [← Cell.key_eq_text, l.key_eq, Except.ok.injEq]
  rw [hkey]
  cases l.cell <;> simp [Cell.isText]

namespace File

namespace Naming

variable {n : Naming} {place : Nat}

/-! ## One name -/

/-- The name at a place has a successor with a number. -/
def renumber (n : Naming) (place : Nat) (name : Label) : Naming :=
  let number := n.freeNumber name (n.nextOf name)
  ({ n with names := n.names.set place (numbered name number) }.count name (number + 1)).count
    (numbered name number) 1

/-- All that the settling of one name can do: nothing where there is no column, a first count of a
name, or a new text in place of a name that was counted. -/
theorem settle_cases (n : Naming) (place : Nat) :
    n.names[place]? = none ∧ n.settle place = n ∨
      ∃ name, n.names[place]? = some name ∧
        (n.nextOf name = 0 ∧ n.settle place = n.count name 1 ∨
          n.nextOf name ≠ 0 ∧ n.settle place = n.renumber place name) := by
  unfold settle
  rcases hname : n.names[place]? with - | name
  · exact Or.inl ⟨rfl, rfl⟩
  · refine Or.inr ⟨name, rfl, ?_⟩
    rcases hnext : n.nextOf name with - | next
    · exact Or.inl ⟨rfl, by simp [hnext]⟩
    · exact Or.inr ⟨Nat.succ_ne_zero _, by simp [hnext, renumber]⟩

theorem nextOf_count (n : Naming) (name other : Label) (next : Nat) :
    (n.count name next).nextOf other = if name.key = other.key then next else n.nextOf other := by
  rw [nextOf, count, Entries.find?_put]
  split <;> rfl

theorem names_count (n : Naming) (name : Label) (next : Nat) :
    (n.count name next).names = n.names := rfl

/-- A name that was not counted yet is counted. -/
theorem settle_of_new {name : Label} (hname : n.names[place]? = some name)
    (hnew : n.nextOf name = 0) : n.settle place = n.count name 1 := by
  rcases settle_cases n place with ⟨hnone, -⟩ | ⟨other, hother, h⟩
  · cases hname.symm.trans hnone
  · cases hname.symm.trans hother
    exact (h.resolve_right fun h => h.1 hnew).2

/-- Other places keep their names. -/
theorem getElem?_settle_of_ne {other : Nat} (hne : other ≠ place) :
    (n.settle place).names[other]? = n.names[other]? := by
  rcases settle_cases n place with ⟨-, h⟩ | ⟨name, -, ⟨-, h⟩ | ⟨-, h⟩⟩
  · rw [h]
  · rw [h, names_count]
  · simp [h, renumber, names_count, List.getElem?_set_ne hne.symm]

/-- A place keeps its name or gets a text. -/
theorem getElem?_settle (n : Naming) (place other : Nat) :
    (n.settle place).names[other]? = n.names[other]? ∨
      ∃ s, (n.settle place).names[other]? = some (.ofText s) := by
  by_cases hne : other = place
  · subst hne
    rcases settle_cases n other with ⟨-, h⟩ | ⟨name, hname, ⟨-, h⟩ | ⟨-, h⟩⟩
    · exact Or.inl (by rw [h])
    · exact Or.inl (by rw [h, names_count])
    · have hlt : other < n.names.length := (List.getElem?_eq_some_iff.mp hname).1
      rw [h, renumber, names_count, names_count, List.getElem?_set_self hlt]
      exact Or.inr ⟨_, rfl⟩
  · exact Or.inl (getElem?_settle_of_ne hne)

/-- What is counted after a name is settled was counted before, or has that name, or is a text. -/
theorem nextOf_settle_ne_zero {other : Label} (h : (n.settle place).nextOf other ≠ 0) :
    n.nextOf other ≠ 0 ∨ (∃ name, n.names[place]? = some name ∧ name.key = other.key) ∨
      other.cell.isText = true := by
  rcases settle_cases n place with ⟨-, hs⟩ | ⟨name, hname, ⟨-, hs⟩ | ⟨-, hs⟩⟩
  · rw [hs] at h
    exact Or.inl h
  · rw [hs, nextOf_count] at h
    split at h
    · exact Or.inr (Or.inl ⟨name, hname, ‹_›⟩)
    · exact Or.inl h
  · rw [hs, renumber] at h
    simp only [nextOf_count] at h
    split at h
    · rename_i hkey
      exact Or.inr (Or.inr ((Label.isText_iff_key other).mpr ⟨_, hkey.symm⟩))
    · split at h
      · exact Or.inr (Or.inl ⟨name, hname, ‹_›⟩)
      · exact Or.inl h

/-! ## All names -/

/-- Places that are not settled keep their names. -/
theorem getElem?_foldl_settle_of_not_mem {places : List Nat} {other : Nat} (h : other ∉ places) :
    (places.foldl settle n).names[other]? = n.names[other]? := by
  induction places generalizing n with
  | nil => rfl
  | cons place places ih =>
    obtain ⟨hne, hmem⟩ := not_or.mp (mt List.mem_cons.mpr h)
    rw [List.foldl_cons, ih hmem, getElem?_settle_of_ne hne]

/-- Every place keeps its name or gets a text. -/
theorem getElem?_foldl_settle (places : List Nat) (n : Naming) (other : Nat) :
    (places.foldl settle n).names[other]? = n.names[other]? ∨
      ∃ s, (places.foldl settle n).names[other]? = some (.ofText s) := by
  induction places generalizing n with
  | nil => exact Or.inl rfl
  | cons place places ih =>
    rw [List.foldl_cons]
    rcases ih (n.settle place) with h | h
    · rw [h]
      exact getElem?_settle n place other
    · exact Or.inr h

/-- Names that differ, none of them counted yet, stay as they are. -/
theorem foldl_settle_of_nodup {places : List Nat}
    (hnodup : (places.filterMap fun p => n.names[p]?.map Label.key).Nodup)
    (hnew : ∀ p ∈ places, ∀ name, n.names[p]? = some name → n.nextOf name = 0) :
    (places.foldl settle n).names = n.names := by
  induction places generalizing n with
  | nil => rfl
  | cons place places ih =>
    rw [List.foldl_cons]
    rcases hname : n.names[place]? with - | name
    · have hs : n.settle place = n := by simp [settle, hname]
      rw [hs]
      refine ih ?_ fun p hp => hnew p (List.mem_cons_of_mem _ hp)
      simpa [hname] using hnodup
    · rw [settle_of_new hname (hnew place List.mem_cons_self name hname)]
      rw [List.filterMap_cons_some (by rw [hname]; rfl), List.nodup_cons] at hnodup
      refine ih (n := n.count name 1) hnodup.2 fun p hp other hother => ?_
      have hne : name.key ≠ other.key := fun hkey =>
        hnodup.1 (List.mem_filterMap.mpr ⟨p, hp, by
          rw [names_count] at hother
          rw [hother, hkey]
          rfl⟩)
      rw [nextOf_count, if_neg hne]
      exact hnew p (List.mem_cons_of_mem _ hp) other hother

/-- While only texts are counted, the first name that is no text stays. -/
theorem exists_not_isText_foldl_settle {places : List Nat} (hnodup : places.Nodup)
    (hcounted : ∀ other : Label, n.nextOf other ≠ 0 → other.cell.isText = true)
    (h : ∃ p ∈ places, ∃ name, n.names[p]? = some name ∧ name.cell.isText = false) :
    ∃ name ∈ (places.foldl settle n).names, name.cell.isText = false := by
  induction places generalizing n with
  | nil =>
    obtain ⟨p, hp, -⟩ := h
    cases hp
  | cons place places ih =>
    obtain ⟨hplace, hnodup⟩ := List.nodup_cons.mp hnodup
    rw [List.foldl_cons]
    by_cases hfirst : ∃ name, n.names[place]? = some name ∧ name.cell.isText = false
    · -- this name is not counted, and nothing comes back to its place
      obtain ⟨name, hname, htext⟩ := hfirst
      have hnew : n.nextOf name = 0 :=
        Decidable.byContradiction fun hne => by simp [hcounted name hne] at htext
      refine ⟨name, List.mem_of_getElem? (i := place) ?_, htext⟩
      rw [getElem?_foldl_settle_of_not_mem hplace, settle_of_new hname hnew, names_count, hname]
    · refine ih hnodup (fun other hother => ?_) ?_
      · rcases nextOf_settle_ne_zero hother with hother | ⟨name, hname, hkey⟩ | htext
        · exact hcounted other hother
        · have htext : name.cell.isText = true :=
            eq_true_of_ne_false fun hne => hfirst ⟨name, hname, hne⟩
          rw [Label.isText_iff_key, ← hkey, ← Label.isText_iff_key]
          exact htext
        · exact htext
      · obtain ⟨p, hp, name, hname, htext⟩ := h
        rcases List.mem_cons.mp hp with rfl | hp
        · exact absurd ⟨name, hname, htext⟩ hfirst
        · have hne : p ≠ place := fun heq => hplace (heq ▸ hp)
          exact ⟨p, hp, name, by rw [getElem?_settle_of_ne hne, hname], htext⟩

end Naming

/-! ## Headers -/

/-- The names before any is settled. -/
def placedNames (header : List (Option Label)) : List Label :=
  header.zipWith (fun name place => name.getD (placeName place)) (List.range header.length)

def isGiven (header : List (Option Label)) (place : Nat) : Bool := (header[place]?.bind id).isSome

/-- The places in the order in which they are settled. -/
def settlingOrder (header : List (Option Label)) : List Nat :=
  (List.range header.length).filter (isGiven header) ++
    (List.range header.length).filter fun place => !isGiven header place

theorem distinctNames_eq (header : List (Option Label)) :
    distinctNames header =
      ((settlingOrder header).foldl Naming.settle ⟨placedNames header, []⟩).names := rfl

theorem settlingOrder_perm (header : List (Option Label)) :
    (settlingOrder header).Perm (List.range header.length) :=
  List.filter_append_perm _ _

theorem getElem?_placedNames (header : List (Option Label)) (place : Nat) :
    (placedNames header)[place]? = header[place]?.map fun name => name.getD (placeName place) := by
  rw [placedNames, List.getElem?_zipWith]
  rcases hname : header[place]? with - | name
  · rfl
  · have hlt : place < header.length := (List.getElem?_eq_some_iff.mp hname).1
    simp [hlt]

theorem placedNames_map_some (labels : List Label) : placedNames (labels.map some) = labels := by
  refine List.ext_getElem? fun place => ?_
  rw [getElem?_placedNames, List.getElem?_map, Option.map_map]
  cases labels[place]? <;> rfl

theorem nextOf_start (names : List Label) (name : Label) : (Naming.mk names []).nextOf name = 0 :=
  rfl

/-- Names that differ stay as they are. -/
theorem distinctNames_of_nodup {labels : List Label} (h : (labels.map Label.key).Nodup) :
    distinctNames (labels.map some) = labels := by
  rw [distinctNames_eq, placedNames_map_some]
  refine Naming.foldl_settle_of_nodup ?_ fun _ _ _ _ => rfl
  have horder : (settlingOrder (labels.map some)).Nodup :=
    (settlingOrder_perm _).nodup_iff.mpr List.nodup_range
  refine List.pairwise_filterMap.mpr (horder.imp fun {p q} hne key hp other hq heq => hne ?_)
  rw [← List.getElem?_map] at hp hq
  exact (List.getElem?_inj (List.getElem?_eq_some_iff.mp hp).1 h).mp (by rw [hp, hq, heq])

/-- All columns are called by texts exactly when all given names are texts. -/
theorem forall_distinctNames_isText (header : List (Option Label)) :
    (∀ name ∈ distinctNames header, name.cell.isText = true) ↔
      ∀ name, some name ∈ header → name.cell.isText = true := by
  rw [distinctNames_eq]
  constructor
  · intro h name hname
    refine eq_true_of_ne_false fun htext => ?_
    obtain ⟨place, hplace⟩ := List.mem_iff_getElem?.mp hname
    have hlt : place < header.length := (List.getElem?_eq_some_iff.mp hplace).1
    have horder := settlingOrder_perm header
    obtain ⟨other, hother, hfalse⟩ := Naming.exists_not_isText_foldl_settle
      (n := ⟨placedNames header, []⟩) (horder.nodup_iff.mpr List.nodup_range)
      (fun other hne => absurd (nextOf_start _ other) hne)
      ⟨place, horder.mem_iff.mpr (List.mem_range.mpr hlt), name,
        by rw [getElem?_placedNames, hplace]; rfl, htext⟩
    rw [h other hother] at hfalse
    cases hfalse
  · intro h name hname
    obtain ⟨place, hplace⟩ := List.mem_iff_getElem?.mp hname
    rcases Naming.getElem?_foldl_settle (settlingOrder header) ⟨placedNames header, []⟩ place
      with hkept | ⟨s, htext⟩
    · rw [hplace, getElem?_placedNames] at hkept
      obtain ⟨given, hgiven, rfl⟩ := Option.map_eq_some_iff.mp hkept.symm
      cases given with
      | none => rfl
      | some name => exact h name (List.mem_of_getElem? hgiven)
    · cases hplace.symm.trans htext
      rfl

end File

end AskTable
