import AskTable.Text.Case
import AskTable.Text.Digit
import AskTable.Text.Keyword

/-!
# Plain text

A plain name consists of ASCII letters, digits and underscores and does not start with a digit, so
neither blanks nor separators nor quotes are in it. What keywords, trimming, splitting and the
upper-case form do to such text can be said exactly.

* `isPlain`, `isPlainName`: the characters and the names.
* `occurs_iff`: `occurs` finds exactly the infixes of a text.
* `dropKeyword?_append_isSome`: a character that writes no letter of a keyword cannot help to
  complete it.
* `splitOn_append_cons`, `trim_of_no_blank`: a piece is split off and kept as it is.
* `upper_append`, `star_not_mem_upper`: the upper-case form, piece by piece.
-/

namespace AskTable.Text

/-! ## Plain names -/

/-- An ASCII letter, digit or underscore. -/
def isPlain (c : Char) : Bool := c.isAlphanum || c == '_'

/-- A name that can stand in a statement as it is. -/
def isPlainName : List Char → Bool
  | [] => false
  | c :: s => (c.isAlpha || c == '_') && s.all isPlain

theorem isPlain_iff {c : Char} :
    isPlain c = true ↔ (48 ≤ c.toNat ∧ c.toNat ≤ 57) ∨ (65 ≤ c.toNat ∧ c.toNat ≤ 90) ∨
      c.toNat = 95 ∨ (97 ≤ c.toNat ∧ c.toNat ≤ 122) := by
  have h : c = '_' ↔ c.toNat = 95 := by rw [← Char.toNat_inj]; rfl
  have hupper : c.isUpper = decide (c.val ≥ 65 ∧ c.val ≤ 90) := rfl
  have hlower : c.isLower = (decide (c.val ≥ 97) && decide (c.val ≤ 122)) := rfl
  have halpha : c.isAlpha = (c.isUpper || c.isLower) := rfl
  simp [isPlain, Char.isAlphanum, halpha, hupper, hlower, Char.isDigit,
    UInt32.le_iff_toNat_le, h]
  omega

theorem isPlain_of_isPlainName {s : List Char} (h : isPlainName s = true) :
    ∀ c ∈ s, isPlain c = true := by
  cases s with
  | nil => simp
  | cons c s =>
    simp only [isPlainName, Bool.and_eq_true, Bool.or_eq_true, List.all_eq_true] at h
    intro d hd
    rcases List.mem_cons.mp hd with rfl | hd
    · rcases h.1 with h | h <;> simp [isPlain, Char.isAlphanum, h]
    · exact h.2 d hd

theorem ne_nil_of_isPlainName {s : List Char} (h : isPlainName s = true) : s ≠ [] := by
  rintro rfl
  simp [isPlainName] at h

theorem isBlank_of_isPlain {c : Char} (h : isPlain c = true) : isBlank c = false := by
  rw [isPlain_iff] at h
  simp [isBlank, inRanges, blankRanges]
  omega

theorem ne_of_isPlain {c d : Char} (h : isPlain c = true) (hd : isPlain d = false) : c ≠ d := by
  rintro rfl
  simp [hd] at h

/-! ## Searching -/

theorem occurs_iff (piece s : List Char) : occurs piece s = true ↔ piece <:+: s := by
  induction s with
  | nil => simp [occurs]
  | cons c s ih => simp [occurs, ih, List.infix_cons_iff]

/-- A keyword whose letters have no other forms stands at the front exactly when its letters do, in
either case. -/
theorem dropKeyword?_isSome {word : List Char}
    (h : ∀ k ∈ word, ∀ c, sameLetter k c = (c.toLower == k)) (s : List Char) :
    (dropKeyword? word s).isSome = ((s.take word.length).map Char.toLower == word) := by
  induction word generalizing s with
  | nil => simp [dropKeyword?]
  | cons k word ih =>
    have ih := ih fun k hk => h k (List.mem_cons_of_mem _ hk)
    cases s with
    | nil => simp [dropKeyword?]
    | cons c s =>
      rw [dropKeyword?, h k List.mem_cons_self, List.length_cons, List.take_succ_cons,
        List.map_cons, List.cons_beq_cons, ← ih]
      cases c.toLower == k <;> simp

theorem dropKeyword?_append_isSome {word : List Char} {x : Char}
    (hx : ∀ k ∈ word, sameLetter k x = false) (s rest : List Char) :
    (dropKeyword? word (s ++ x :: rest)).isSome = (dropKeyword? word s).isSome := by
  induction word generalizing s with
  | nil => rfl
  | cons k word ih =>
    have hk := hx k List.mem_cons_self
    cases s with
    | nil => simp [dropKeyword?, hk]
    | cons c s =>
      simp only [List.cons_append, dropKeyword?]
      split
      · exact ih (fun k hk => hx k (List.mem_cons_of_mem _ hk)) s
      · rfl

/-! ## Splitting and trimming -/

theorem splitOn_of_not_mem {separator : Char} {s : List Char} (h : separator ∉ s) :
    splitOn separator s = [s] := by
  induction s with
  | nil => rfl
  | cons c s ih =>
    simp only [List.mem_cons, not_or] at h
    simp [splitOn, ih h.2, Ne.symm h.1]

theorem splitOn_append_cons {separator : Char} {piece : List Char} (h : separator ∉ piece)
    (s : List Char) :
    splitOn separator (piece ++ separator :: s) = piece :: splitOn separator s := by
  induction piece with
  | nil =>
    obtain ⟨p, ps, hp⟩ := List.exists_cons_of_ne_nil (splitOn_ne_nil separator s)
    simp [splitOn, hp]
  | cons c piece ih =>
    simp only [List.mem_cons, not_or] at h
    simp [splitOn, ih h.2, Ne.symm h.1]

/-- The separator is in no piece. -/
theorem not_mem_of_mem_splitOn {separator : Char} {s piece : List Char}
    (h : piece ∈ splitOn separator s) : separator ∉ piece := by
  induction s generalizing piece with
  | nil =>
    cases List.mem_singleton.mp h
    exact List.not_mem_nil
  | cons c s ih =>
    obtain ⟨first, rest, hsplit⟩ := List.exists_cons_of_ne_nil (splitOn_ne_nil separator s)
    rw [splitOn, hsplit] at h
    rw [hsplit] at ih
    simp only at h
    split at h
    · rcases List.mem_cons.mp h with rfl | h
      · exact List.not_mem_nil
      · exact ih h
    · rename_i hc
      rcases List.mem_cons.mp h with rfl | h
      · rw [List.mem_cons, not_or]
        exact ⟨fun heq => hc (beq_iff_eq.mpr heq.symm), ih List.mem_cons_self⟩
      · exact ih (List.mem_cons_of_mem _ h)

theorem trimStart_of_no_blank {s : List Char} (h : ∀ c ∈ s, isBlank c = false) :
    trimStart s = s := by
  cases s with
  | nil => rfl
  | cons c s => exact trimStart_cons_of_not (h c List.mem_cons_self) s

theorem trim_of_no_blank {s : List Char} (h : ∀ c ∈ s, isBlank c = false) : trim s = s := by
  have hr : ∀ c ∈ s.reverse, isBlank c = false := fun c hc => h c (List.mem_reverse.mp hc)
  rw [trim, trimStart_of_no_blank h, trimEnd, trimStart_of_no_blank hr, List.reverse_reverse]

theorem trim_cons_blank {c : Char} (h : isBlank c = true) (s : List Char) :
    trim (c :: s) = trim s := by
  simp [trim, trimStart, h]

/-! ## Upper case -/

theorem upper_append (s t : List Char) : upper (s ++ t) = upper s ++ upper t := by
  simp [upper]

theorem upper_infix {s t : List Char} (h : s <:+: t) : upper s <:+: upper t := by
  obtain ⟨before, after, rfl⟩ := h
  exact ⟨upper before, upper after, by rw [upper_append, upper_append]⟩

/-- ASCII, and not the star. -/
def isStarless (c : Char) : Bool := c.toNat < 128 && c != '*'

theorem toUpper_ne_star {c : Char} (h : c ≠ '*') : c.toUpper ≠ '*' := by
  intro hu
  unfold Char.toUpper at hu
  split at hu
  · rename_i hc
    have hn := congrArg (·.val.toNat) hu
    simp [UInt32.le_iff_toNat_le] at hn hc
    omega
  · exact h hu

theorem star_not_mem_upper {s : List Char} (h : ∀ c ∈ s, isStarless c = true) :
    '*' ∉ upper s := by
  intro hm
  obtain ⟨c, hc, hu⟩ := List.mem_flatMap.mp hm
  have hs := h c hc
  simp only [isStarless, Bool.and_eq_true, decide_eq_true_eq, bne_iff_ne, ne_eq] at hs
  rw [upperChar, if_pos hs.1, List.mem_singleton] at hu
  exact toUpper_ne_star hs.2 hu.symm

theorem isStarless_of_isPlain {c : Char} (h : isPlain c = true) : isStarless c = true := by
  have hs : c ≠ '*' := ne_of_isPlain h (by decide)
  rw [isPlain_iff] at h
  simp [isStarless, hs]
  omega

theorem isStarless_of_mem_digitsOf {n : Nat} {c : Char} (h : c ∈ digitsOf n) :
    isStarless c = true := by
  have hd : c.isDigit = true := Nat.isDigit_of_mem_toDigits (by omega) (by omega) h
  exact isStarless_of_isPlain (by simp [isPlain, Char.isAlphanum, hd])

end AskTable.Text
