import AskTable.Proofs.DigitRuns
import AskTable.Text.Case
import AskTable.Text.Keyword
import Mathlib.Data.List.Forall2
import Mathlib.Order.Bounds.Defs

/-!
# Patterns and the ways to take them

A pattern can often be taken from the front of a text in more than one way: a run of blanks may end
early, and a list may go on past its first end. The ways are tried in order of preference until what
follows can be taken as well, and the places of a text are tried from left to right.

* `takeMost?`, `takeFewest?`: one or more characters of a class, as many or as few as possible
  first.
* `Pattern.take?`: the ways of a pattern, with what follows it.
* `GroupPattern.search?`: what stands in the middle of three patterns, at the first place at which
  they can be taken.
* `takeMost?_of_refused`, `takeMost?_of_taken`: only the longest run counts when what follows takes
  no character of the class, and when it takes everything.
* `firstAt?_eq_some_iff`: a search from left to right finds the least place.
* `mem_letterForms`: the characters that write a letter.
* `Writes`, `dropKeyword?_eq_some_iff`: the texts that write a word are those that a keyword takes.
-/

namespace AskTable.Text

variable {α : Type}

/-! ## Ways -/

/-- One or more characters of a class, as many as possible first. What follows is given the
characters that were taken and the text that is left. -/
def takeMost? (accepts : Char → Bool) (next : List Char → List Char → Option α) :
    List Char → Option α
  | [] => none
  | c :: s =>
    if accepts c then takeMost? accepts (fun taken => next (c :: taken)) s <|> next [c] s else none

/-- One or more characters of a class, as few as possible first. -/
def takeFewest? (accepts : Char → Bool) (next : List Char → List Char → Option α) :
    List Char → Option α
  | [] => none
  | c :: s =>
    if accepts c then next [c] s <|> takeFewest? accepts (fun taken => next (c :: taken)) s
    else none

inductive Pattern where
  /-- The letters of a word, in either case. -/
  | word (letters : List Char)
  /-- One or more characters of a class, as many as possible. -/
  | most (accepts : Char → Bool)
  /-- One or more characters of a class, as few as possible. -/
  | fewest (accepts : Char → Bool)
  /-- One pattern and another right after it. -/
  | chain (first second : Pattern)

/-- Tries the ways to take a pattern from the front of a text, in order of preference, until what
follows can be taken as well. -/
def Pattern.take? (next : List Char → List Char → Option α) : Pattern → List Char → Option α
  | .word letters, s => (dropKeyword? letters s).bind (next (s.take letters.length))
  | .most accepts, s => takeMost? accepts next s
  | .fewest accepts, s => takeFewest? accepts next s
  | .chain first second, s =>
    first.take? (fun taken => second.take? fun more => next (taken ++ more)) s

/-- A pattern of three parts. What the middle one takes is what is looked for. -/
structure GroupPattern where
  before : Pattern
  group : Pattern
  after : Pattern

/-- What the middle part takes at the front of a text. -/
def GroupPattern.here? (p : GroupPattern) (s : List Char) : Option (List Char) :=
  p.before.take? (fun _ => p.group.take? fun taken => p.after.take? fun _ _ => some taken) s

/-- What is found at the first place of a text at which anything is. -/
def firstAt? (here? : List Char → Option α) : List Char → Option α
  | [] => here? []
  | c :: s => here? (c :: s) <|> firstAt? here? s

/-- What the middle part takes at the first place of a text. -/
def GroupPattern.search? (p : GroupPattern) (s : List Char) : Option (List Char) :=
  firstAt? p.here? s

/-! ## The longest run -/

variable {accepts : Char → Bool} {next : List Char → List Char → Option α}

/-- When what follows takes no character of the class, the whole run is taken before it. -/
theorem takeMost?_of_refused
    (h : ∀ taken c s, accepts c = true → next taken (c :: s) = none) (s : List Char) :
    takeMost? accepts next s =
      if s.head?.any accepts then next (s.takeWhile accepts) (s.dropWhile accepts) else none := by
  induction s generalizing next with
  | nil => rfl
  | cons c s ih =>
    by_cases hc : accepts c = true
    · rw [takeMost?, if_pos hc, ih fun taken => h (c :: taken)]
      cases s with
      | nil => simp [hc]
      | cons d s =>
        by_cases hd : accepts d = true
        · simp [hc, hd, h [c] d s hd]
        · simp [hc, hd]
    · simp [takeMost?, hc]

/-- When what follows takes everything, the whole run is taken before it. -/
theorem takeMost?_of_taken (h : ∀ taken s, (next taken s).isSome = true) (s : List Char) :
    takeMost? accepts next s =
      if s.head?.any accepts then next (s.takeWhile accepts) (s.dropWhile accepts) else none := by
  induction s generalizing next with
  | nil => rfl
  | cons c s ih =>
    by_cases hc : accepts c = true
    · rw [takeMost?, if_pos hc, ih fun taken => h (c :: taken)]
      cases s with
      | nil => simp [hc]
      | cons d s =>
        by_cases hd : accepts d = true
        · obtain ⟨a, ha⟩ := Option.isSome_iff_exists.mp
            (h (c :: d :: s.takeWhile accepts) (s.dropWhile accepts))
          simp [hc, hd, ha]
        · simp [hc, hd]
    · simp [takeMost?, hc]

/-! ## The first place -/

variable {here? : List Char → Option α} {s : List Char}

theorem firstAt?_of_some {a : α} (h : here? s = some a) : firstAt? here? s = some a := by
  cases s with
  | nil => exact h
  | cons c s =>
    rw [firstAt?, h]
    rfl

theorem firstAt?_cons_of_none {c : Char} (h : here? (c :: s) = none) :
    firstAt? here? (c :: s) = firstAt? here? s := by
  rw [firstAt?, h]
  rfl

theorem isLeast_zero {P : Nat → Prop} (h : P 0) : IsLeast {i | P i} 0 :=
  ⟨h, fun i _ => Nat.zero_le i⟩

/-- The least place but the first one, told from the second one on. -/
theorem isLeast_succ_iff {P : Nat → Prop} (h : ¬ P 0) {i : Nat} :
    IsLeast {j | P j} (i + 1) ↔ IsLeast {j | P (j + 1)} i := by
  refine ⟨fun hi => ⟨hi.1, fun j hj => ?_⟩, fun hi => ⟨hi.1, fun j hj => ?_⟩⟩
  · exact Nat.le_of_succ_le_succ (hi.2 hj)
  · cases j with
    | zero => exact absurd hj h
    | succ j => exact Nat.succ_le_succ (hi.2 hj)

/-- A search from left to right finds what is at the least place. -/
theorem firstAt?_eq_some_iff {a : α} :
    firstAt? here? s = some a ↔
      ∃ i, IsLeast {i | (here? (s.drop i)).isSome = true} i ∧ here? (s.drop i) = some a := by
  induction s with
  | nil =>
    simp only [firstAt?, List.drop_nil]
    refine ⟨fun h => ⟨0, isLeast_zero (by simp [h]), h⟩, fun ⟨_, _, h⟩ => h⟩
  | cons c s ih =>
    cases hc : here? (c :: s) with
    | some b =>
      have hzero : (here? ((c :: s).drop 0)).isSome = true := by simp [hc]
      rw [firstAt?, hc]
      refine ⟨fun h => ⟨0, isLeast_zero hzero, hc.trans h⟩, fun ⟨i, hi, h⟩ => ?_⟩
      obtain rfl : i = 0 := Nat.le_zero.mp (hi.2 hzero)
      exact hc.symm.trans h
    | none =>
      have hzero : ¬ (here? ((c :: s).drop 0)).isSome = true := by simp [hc]
      rw [firstAt?_cons_of_none hc, ih]
      refine ⟨fun ⟨i, hi, h⟩ => ⟨i + 1, (isLeast_succ_iff hzero).mpr hi, h⟩, fun ⟨i, hi, h⟩ => ?_⟩
      cases i with
      | zero => exact absurd hi.1 hzero
      | succ i => exact ⟨i, (isLeast_succ_iff hzero).mp hi, h⟩

/-! ## Letters -/

/-- The characters that write a small letter. -/
def letterForms (letter : Char) : List Char :=
  letter :: Char.ofNat (letter.toNat - 32) :: otherForms letter

theorem mem_letterForms {letter c : Char} (hletter : letter.toLower = letter)
    (h : sameLetter letter c = true) : c ∈ letterForms letter := by
  rw [sameLetter, hletter, Bool.or_eq_true, beq_iff_eq, List.contains_iff_mem] at h
  rcases h with h | h
  · by_cases hc : c.val ≥ 'A'.val ∧ c.val ≤ 'Z'.val
    · have hcapital : letter.toNat - 32 = c.toNat := by
        rw [← h, toNat_toLower hc, Nat.add_sub_cancel]
      rw [letterForms, hcapital, Char.ofNat_toNat]
      exact List.mem_cons_of_mem _ List.mem_cons_self
    · have hsame : c.toLower = c := dif_neg hc
      rw [← h, hsame]
      exact List.mem_cons_self
  · exact List.mem_cons_of_mem _ (List.mem_cons_of_mem _ h)

/-- Do the characters write the letters of a word one by one? -/
def Writes (word written : List Char) : Prop :=
  List.Forall₂ (fun letter c => sameLetter letter c = true) word written

theorem Writes.exists_letter {word written : List Char} (h : Writes word written)
    (hsmall : ∀ letter ∈ word, letter.toLower = letter) :
    ∀ c ∈ written, ∃ letter ∈ word, c ∈ letterForms letter := by
  induction h with
  | nil => simp
  | @cons letter c word written hc _ ih =>
    intro d hd
    rcases List.mem_cons.mp hd with rfl | hd
    · exact ⟨letter, List.mem_cons_self, mem_letterForms (hsmall letter List.mem_cons_self) hc⟩
    · obtain ⟨other, hother, hform⟩ := ih (fun l hl => hsmall l (List.mem_cons_of_mem _ hl)) d hd
      exact ⟨other, List.mem_cons_of_mem _ hother, hform⟩

/-- Where every character has the capital of its letter as its upper-case form, so has the word. -/
theorem Writes.upper_eq {word written : List Char} (h : Writes word written)
    (hforms : ∀ letter ∈ word, ∀ c ∈ written, sameLetter letter c = true →
      upperChar c = [letter.toUpper]) : upper written = word.map Char.toUpper := by
  induction h with
  | nil => rfl
  | @cons letter c word written hc _ ih =>
    have hfirst := hforms letter List.mem_cons_self c List.mem_cons_self hc
    have hrest := ih fun l hl d hd =>
      hforms l (List.mem_cons_of_mem _ hl) d (List.mem_cons_of_mem _ hd)
    rw [upper] at hrest ⊢
    rw [List.flatMap_cons, hfirst, hrest]
    rfl

/-- A keyword is dropped from the front of a text exactly when the characters there write it. -/
theorem dropKeyword?_eq_some_iff {word s rest : List Char} :
    dropKeyword? word s = some rest ↔ ∃ written, Writes word written ∧ s = written ++ rest := by
  induction word generalizing s with
  | nil =>
    simp only [dropKeyword?, Option.some.injEq]
    constructor
    · intro h
      exact ⟨[], .nil, h⟩
    · rintro ⟨written, hw, h⟩
      cases hw
      exact h
  | cons letter word ih =>
    cases s with
    | nil =>
      rw [dropKeyword?]
      constructor
      · intro h
        cases h
      · rintro ⟨written, hw, h⟩
        cases hw
        cases h
    | cons c s =>
      rw [dropKeyword?, Option.ite_none_right_eq_some, ih]
      constructor
      · rintro ⟨hc, written, hw, rfl⟩
        exact ⟨c :: written, .cons hc hw, rfl⟩
      · rintro ⟨written, hw, h⟩
        cases hw with
        | cons hc hw =>
          cases h
          exact ⟨hc, _, hw, rfl⟩

end AskTable.Text
