import AskTable.Proofs.PlainText
import Mathlib.Data.List.Forall2
import Mathlib.Data.List.TakeWhile

/-!
# Pieces of a text

A text falls into pieces at a separator, and a piece is stripped of the blanks at its ends. Both are
told without saying how they are found: the pieces joined by the separator are the text, and what is
stripped off are blanks and no more of them are left.

* `IsTrimmed`: no blank at either end; `isTrimmed_trim`.
* `trim_around`: the two sides of a trimmed part are trimmed on their own.
* `StripsTo`, `trim_eq_iff`: what a text is without the blanks at its ends.
* `splitOn_eq_iff`: the pieces between the separators.
* `ArePieces`: the stripped pieces between commas; `map_trim_splitOn_eq_iff`.
-/

namespace AskTable.Text

/-! ## Trimmed texts -/

/-- No blank at either end. -/
structure IsTrimmed (s : List Char) : Prop where
  front : ∀ c ∈ s.head?, isBlank c = false
  back : ∀ c ∈ s.getLast?, isBlank c = false

theorem head?_trimStart (s : List Char) : ∀ c ∈ (trimStart s).head?, isBlank c = false := by
  intro c hc
  have hnot := List.head?_dropWhile_not isBlank s
  rw [← trimStart, Option.mem_def.mp hc] at hnot
  exact hnot

theorem trimEnd_isPrefix (s : List Char) : trimEnd s <+: s := by
  rw [← List.reverse_suffix, trimEnd, List.reverse_reverse]
  exact List.dropWhile_suffix isBlank

theorem head?_of_isPrefix {s t : List Char} (h : s <+: t) {c : Char} (hc : c ∈ s.head?) :
    c ∈ t.head? := by
  obtain ⟨u, rfl⟩ := h
  rw [List.head?_append, Option.mem_def.mp hc]
  rfl

theorem isTrimmed_trim (s : List Char) : IsTrimmed (trim s) where
  front := fun c hc => head?_trimStart s c (head?_of_isPrefix (trimEnd_isPrefix _) hc)
  back := fun c hc => by
    rw [trim, trimEnd, List.getLast?_reverse] at hc
    exact head?_trimStart _ c hc

/-! ## Trimming around a part -/

theorem trimStart_append (s : List Char) {t : List Char} (h : ∀ c ∈ t.head?, isBlank c = false) :
    trimStart (s ++ t) = trimStart s ++ t := by
  have ht : t.dropWhile isBlank = t := by
    cases t with
    | nil => rfl
    | cons c t => exact trimStart_cons_of_not (h c rfl) t
  rw [trimStart, trimStart, List.dropWhile_append, ht]
  split
  · rename_i hnil
    rw [List.isEmpty_iff.mp hnil, List.nil_append]
  · rfl

theorem trimEnd_append {s : List Char} (h : ∀ c ∈ s.getLast?, isBlank c = false) (t : List Char) :
    trimEnd (s ++ t) = s ++ trimEnd t := by
  have hs : ∀ c ∈ s.reverse.head?, isBlank c = false := by rwa [List.head?_reverse]
  rw [trimEnd, trimEnd, List.reverse_append, trimStart_append _ hs, List.reverse_append,
    List.reverse_reverse]

theorem isTrimmed_iff {s : List Char} : IsTrimmed s ↔
    (∀ c ∈ s.head?, isBlank c = false) ∧ ∀ c ∈ s.getLast?, isBlank c = false :=
  ⟨fun h => ⟨h.front, h.back⟩, fun h => ⟨h.1, h.2⟩⟩

instance (s : List Char) : Decidable (IsTrimmed s) :=
  decidable_of_iff ((s.head?.all fun c => !isBlank c) = true ∧
    (s.getLast?.all fun c => !isBlank c) = true)
    (by simp [isTrimmed_iff, Option.all_eq_true])

theorem IsTrimmed.trim_eq {s : List Char} (h : IsTrimmed s) : trim s = s := by
  have hfront : trimStart s = s := trimStart_append [] h.front
  have hback : trimEnd (s ++ []) = s ++ trimEnd [] := trimEnd_append h.back []
  have hnil : trimEnd [] = [] := rfl
  rw [hnil, List.append_nil] at hback
  rw [trim, hfront, hback]

/-- Around a part without blanks at its ends, the two sides of a text are trimmed on their own. -/
theorem trim_around {part : List Char} (h : IsTrimmed part) (before after : List Char)
    (hne : part ≠ []) :
    trim (before ++ part ++ after) = trimStart before ++ part ++ trimEnd after := by
  have hfront : ∀ c ∈ (part ++ after).head?, isBlank c = false := by
    rw [List.head?_append_of_ne_nil _ hne]
    exact h.front
  have hback : ∀ c ∈ (trimStart before ++ part).getLast?, isBlank c = false := by
    rw [List.getLast?_append_of_ne_nil _ hne]
    exact h.back
  rw [trim, List.append_assoc, trimStart_append _ hfront, ← List.append_assoc,
    trimEnd_append hback]

/-! ## Blanks at the end -/

theorem trimEnd_of_blanks {s : List Char} (h : ∀ c ∈ s, isBlank c = true) : trimEnd s = [] := by
  have hnil : s.reverse.dropWhile isBlank = [] := by
    simpa [List.dropWhile_eq_nil_iff] using h
  rw [trimEnd, trimStart, hnil, List.reverse_nil]

/-- Blanks at the end of a text are cut off; what is before its last other character stays. -/
theorem trimEnd_cons (c : Char) (s : List Char) :
    trimEnd (c :: s) = if (c :: s).all isBlank then [] else c :: trimEnd s := by
  rw [trimEnd, trimStart, List.reverse_cons, List.dropWhile_append]
  by_cases hs : ∀ d ∈ s, isBlank d = true
  · have hnil : s.reverse.dropWhile isBlank = [] := by
      simpa [List.dropWhile_eq_nil_iff] using hs
    rw [hnil, List.isEmpty_nil, if_pos rfl, trimEnd_of_blanks hs]
    by_cases hc : isBlank c = true
    · simpa [hc] using hs
    · simp [hc]
  · have hne : s.reverse.dropWhile isBlank ≠ [] := by
      simpa [List.dropWhile_eq_nil_iff] using hs
    have hcons : ¬ (c :: s).all isBlank = true :=
      fun h => hs fun d hd => List.all_eq_true.mp h d (List.mem_cons_of_mem _ hd)
    rw [if_neg (by simpa using hne), if_neg hcons, List.reverse_append]
    rfl

/-- A text is what is left of it without the blanks at its end, and these blanks. -/
theorem exists_trimEnd_append (s : List Char) :
    ∃ blanks, (∀ c ∈ blanks, isBlank c = true) ∧ s = trimEnd s ++ blanks := by
  induction s with
  | nil => exact ⟨[], by simp, rfl⟩
  | cons c s ih =>
    rw [trimEnd_cons]
    split
    · rename_i h
      exact ⟨c :: s, List.all_eq_true.mp h, rfl⟩
    · obtain ⟨blanks, hblanks, hs⟩ := ih
      exact ⟨blanks, hblanks, congrArg (c :: ·) hs⟩

theorem trimEnd_append_blanks (s : List Char) {blanks : List Char}
    (h : ∀ c ∈ blanks, isBlank c = true) : trimEnd (s ++ blanks) = trimEnd s := by
  have hdrop : (blanks.reverse ++ s.reverse).dropWhile isBlank = s.reverse.dropWhile isBlank :=
    List.dropWhile_append_of_pos fun c hc => h c (List.mem_reverse.mp hc)
  rw [trimEnd, trimEnd, trimStart, trimStart, List.reverse_append, hdrop]

theorem trim_append_blanks (s : List Char) {blanks : List Char}
    (h : ∀ c ∈ blanks, isBlank c = true) : trim (s ++ blanks) = trim s := by
  rw [trim, trim, trimStart, trimStart, List.dropWhile_append]
  split
  · rename_i hs
    have hnil : blanks.dropWhile isBlank = [] := by simpa [List.dropWhile_eq_nil_iff] using h
    rw [hnil, List.isEmpty_iff.mp hs]
  · exact trimEnd_append_blanks _ h

/-- The text is the other one with blanks put at its two ends, and the other one has none there. -/
def StripsTo (s t : List Char) : Prop :=
  IsTrimmed t ∧ ∃ front back, s = front ++ t ++ back ∧
    (∀ c ∈ front, isBlank c = true) ∧ ∀ c ∈ back, isBlank c = true

theorem trim_eq_iff {s t : List Char} : trim s = t ↔ StripsTo s t := by
  constructor
  · rintro rfl
    obtain ⟨back, hback, hs⟩ := exists_trimEnd_append (trimStart s)
    refine ⟨isTrimmed_trim s, s.takeWhile isBlank, back, ?_, fun c hc => List.mem_takeWhile_imp hc,
      hback⟩
    rw [trim, List.append_assoc, ← hs, trimStart, List.takeWhile_append_dropWhile]
  · rintro ⟨ht, front, back, rfl, hfront, hback⟩
    by_cases hnil : t = []
    · subst hnil
      rw [List.append_nil, trim_append_blanks _ hback, trim, (trimStart_eq_nil_iff front).mpr hfront]
      rfl
    · rw [trim_around ht _ _ hnil, (trimStart_eq_nil_iff front).mpr hfront, trimEnd_of_blanks hback,
        List.nil_append, List.append_nil]

/-! ## Splitting -/

/-- Text without separators goes to the last piece. -/
theorem splitOn_append {separator : Char} {last : List Char} (h : separator ∉ last)
    (s : List Char) : List.Forall₂ (fun piece old => piece = old ∨ piece = old ++ last)
      (splitOn separator (s ++ last)) (splitOn separator s) := by
  induction s with
  | nil =>
    rw [List.nil_append, splitOn_of_not_mem h]
    exact .cons (Or.inr rfl) .nil
  | cons c s ih =>
    rw [List.cons_append, splitOn, splitOn]
    obtain ⟨old, olds, hold⟩ := List.exists_cons_of_ne_nil (splitOn_ne_nil separator s)
    obtain ⟨piece, pieces, hpiece⟩ :=
      List.exists_cons_of_ne_nil (splitOn_ne_nil separator (s ++ last))
    rw [hold, hpiece] at ih
    cases ih with
    | cons hfirst hrest =>
      rw [hold, hpiece]
      simp only
      split
      · exact .cons (Or.inl rfl) (.cons hfirst hrest)
      · exact .cons (hfirst.imp (congrArg (c :: ·)) (congrArg (c :: ·))) hrest

/-- Pieces without the separator are split apart again. -/
theorem splitOn_intercalate {separator : Char} {piece : List Char} {pieces : List (List Char)}
    (h : ∀ p ∈ piece :: pieces, separator ∉ p) :
    splitOn separator (List.intercalate [separator] (piece :: pieces)) = piece :: pieces := by
  induction pieces generalizing piece with
  | nil => rw [List.intercalate_singleton, splitOn_of_not_mem (h _ List.mem_cons_self)]
  | cons next pieces ih =>
    obtain ⟨hpiece, hrest⟩ := List.forall_mem_cons.mp h
    rw [List.intercalate_cons_cons, List.append_assoc, List.singleton_append,
      splitOn_append_cons hpiece, ih hrest]

/-- Joined by the separator, the pieces are the text again. -/
theorem intercalate_splitOn (separator : Char) (s : List Char) :
    List.intercalate [separator] (splitOn separator s) = s := by
  induction s with
  | nil => rfl
  | cons c s ih =>
    obtain ⟨piece, pieces, hpieces⟩ := List.exists_cons_of_ne_nil (splitOn_ne_nil separator s)
    rw [hpieces] at ih
    rw [splitOn, hpieces]
    simp only
    split
    · rename_i hc
      rw [List.intercalate_cons_cons, ih, eq_of_beq hc]
      rfl
    · cases pieces with
      | nil =>
        rw [List.intercalate_singleton] at ih ⊢
        rw [ih]
      | cons next pieces =>
        rw [List.intercalate_cons_cons] at ih ⊢
        rw [← ih]
        rfl

/-- The pieces of a text: joined by the separator they are the text, and none of them holds it. -/
theorem splitOn_eq_iff {separator : Char} {s : List Char} {parts : List (List Char)} :
    splitOn separator s = parts ↔
      parts ≠ [] ∧ List.intercalate [separator] parts = s ∧ ∀ part ∈ parts, separator ∉ part := by
  constructor
  · rintro rfl
    exact ⟨splitOn_ne_nil separator s, intercalate_splitOn separator s,
      fun part hpart => not_mem_of_mem_splitOn hpart⟩
  · rintro ⟨hne, rfl, hparts⟩
    obtain ⟨part, others, rfl⟩ := List.exists_cons_of_ne_nil hne
    exact splitOn_intercalate hparts

/-! ## Lists with commas -/

/-- The list holds what stands between the commas of the text, each piece stripped of the blanks at
its ends. -/
def ArePieces (text : List Char) (list : List String) : Prop :=
  ∃ parts : List (List Char), parts ≠ [] ∧ List.intercalate [','] parts = text ∧
    (∀ part ∈ parts, ',' ∉ part) ∧
    List.Forall₂ (fun part piece => StripsTo part piece.toList) parts list

theorem map_trim_splitOn_eq_iff {text : List Char} {list : List String} :
    (splitOn ',' text).map (fun part => String.ofList (trim part)) = list ↔
      ArePieces text list := by
  have hpiece (part : List Char) (piece : String) :
      String.ofList (trim part) = piece ↔ StripsTo part piece.toList := by
    rw [← trim_eq_iff, ← String.toList_inj, String.toList_ofList]
  have hmap (parts : List (List Char)) :
      parts.map (fun part => String.ofList (trim part)) = list ↔
        List.Forall₂ (fun part piece => StripsTo part piece.toList) parts list := by
    rw [← List.forall₂_eq_eq_eq, List.forall₂_map_left_iff]
    simp only [hpiece]
  constructor
  · intro h
    obtain ⟨hne, hjoin, hcommas⟩ := splitOn_eq_iff.mp (rfl : splitOn ',' text = _)
    exact ⟨splitOn ',' text, hne, hjoin, hcommas, (hmap _).mp h⟩
  · rintro ⟨parts, hne, hjoin, hcommas, hstrips⟩
    rw [splitOn_eq_iff.mpr ⟨hne, hjoin, hcommas⟩]
    exact (hmap parts).mpr hstrips

end AskTable.Text
