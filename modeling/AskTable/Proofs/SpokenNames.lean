import AskTable.Proofs.GroundedPlans
import AskTable.Proofs.Pieces
import AskTable.Proofs.SmallForms

/-!
# Names spoken in a question

A question speaks a name that it holds between spaces, in letters of either case. A column whose
name begins and ends as words do is then mentioned. A name that begins or ends with another
character has no boundary there, so not even a question that is the name mentions it.

* `normalized_of_speaks`: what becomes of a name that a question speaks.
* `HasWordEnds`: a text begins and ends with word characters.
* `standsFree_of_hasWordEnds`, `standsFree_iff_of_length_eq`: such a text stands free between
  spaces, and only such a text stands free in itself.
* `shows_spoken_iff`: the columns that are shown whenever they are spoken of.
-/

namespace AskTable.Text

/-! ## Trimming -/

theorem EndsApart.trimStart {s : List Char} (h : EndsApart s) : EndsApart (trimStart s) := by
  intro c hc
  obtain ⟨front, hs⟩ := List.dropWhile_suffix (l := s) isBlank
  refine h c ?_
  rw [← hs, List.getLast?_append, ← Text.trimStart, Option.mem_def.mp hc]
  rfl

theorem StartsApart.trimEnd {s : List Char} (h : StartsApart s) : StartsApart (trimEnd s) :=
  fun c hc => h c (head?_of_isPrefix (trimEnd_isPrefix s) hc)

/-- The case of ASCII letters makes no difference to trimming. -/
theorem SameLetters.isTrimmed {s t : List Char} (h : SameLetters s t) (ht : IsTrimmed t) :
    IsTrimmed s := by
  have hblank {x y : Option Char} (hxy : x.map Char.toLower = y.map Char.toLower)
      (hy : ∀ c ∈ y, isBlank c = false) : ∀ c ∈ x, isBlank c = false := by
    rintro c rfl
    obtain ⟨d, rfl, hcd⟩ := Option.map_eq_some_iff.mp hxy.symm
    rw [(alike_of_toLower_eq hcd.symm).2.2.2.2]
    exact hy d rfl
  refine ⟨hblank ?_ ht.front, hblank ?_ ht.back⟩
  · rw [← List.head?_map, ← List.head?_map, h]
  · rw [← List.getLast?_map, ← List.getLast?_map, h]

/-! ## Texts that begin and end as words -/

/-- A word character at either end. -/
def HasWordEnds (s : List Char) : Prop := wordAt s.head? = true ∧ wordAt s.getLast? = true

instance (s : List Char) : Decidable (HasWordEnds s) :=
  inferInstanceAs (Decidable (wordAt s.head? = true ∧ wordAt s.getLast? = true))

theorem HasWordEnds.ne_nil {s : List Char} (h : HasWordEnds s) : s ≠ [] := by
  rintro rfl
  cases h.1

theorem wordAt_of_apart {x : Option Char} (h : ∀ c ∈ x, c = ' ') : wordAt x = false := by
  cases x with
  | none => rfl
  | some c =>
    obtain rfl := h c rfl
    decide

/-- Between spaces, a text with word characters at its ends stands free. -/
theorem standsFree_of_hasWordEnds {piece before after : List Char} (h : HasWordEnds piece)
    (hbefore : EndsApart before) (hafter : StartsApart after) :
    StandsFree piece (before ++ piece ++ after) := by
  refine ⟨before, after, rfl, ?_, ?_⟩
  · rw [List.head?_append_of_ne_nil _ h.ne_nil, boundary, wordAt_of_apart hbefore, h.1]
    rfl
  · rw [List.getLast?_append_of_ne_nil _ h.ne_nil, boundary, wordAt_of_apart hafter, h.2]
    rfl

/-- A piece as long as the text stands free in it only as the text itself. -/
theorem standsFree_iff_of_length_eq {piece s : List Char} (hlength : piece.length = s.length) :
    StandsFree piece s ↔ piece = s ∧ HasWordEnds s := by
  constructor
  · rintro ⟨before, after, rfl, hfront, hback⟩
    simp only [List.length_append] at hlength
    obtain rfl : before = [] := List.eq_nil_of_length_eq_zero (by omega)
    obtain rfl : after = [] := List.eq_nil_of_length_eq_zero (by omega)
    simp only [List.nil_append, List.append_nil, List.head?_nil, List.getLast?_nil, boundary,
      wordAt, Option.any_none, bne_iff_ne, ne_eq, Bool.not_eq_false, Bool.false_eq] at hfront hback
    simp [HasWordEnds, wordAt, hfront, hback]
  · rintro ⟨rfl, hends⟩
    simpa using standsFree_of_hasWordEnds hends endsApart_nil startsApart_nil

end AskTable.Text

namespace AskTable.Question

open AskTable.Text

/-! ## Names between spaces -/

/-- The question holds the name, its letters of ASCII in either case, between spaces or the ends of
the question. -/
def Speaks (question name : String) : Prop :=
  ∃ before spoken after, question.toList = before ++ spoken ++ after ∧
    SameLetters spoken name.toList ∧ EndsApart before ∧ StartsApart after

theorem speaks_self (name : String) : Speaks name name :=
  ⟨[], name.toList, [], by simp, Eq.refl (name.toList.map _), endsApart_nil, startsApart_nil⟩

/-- A name that a question speaks is there in small letters, still between spaces. -/
theorem normalized_of_speaks {question name : String} (hne : name ≠ "")
    (htrimmed : IsTrimmed name.toList) (h : Speaks question name) :
    ∃ before after, normalized question = before ++ small name ++ after ∧
      EndsApart before ∧ StartsApart after := by
  obtain ⟨before, spoken, after, hquestion, hspoken, hbefore, hafter⟩ := h
  have hspokenNe : spoken ≠ [] := by
    rintro rfl
    exact hne (String.toList_eq_nil_iff.mp (List.map_eq_nil_iff.mp hspoken.symm))
  refine ⟨_, _, ?_, hbefore.trimStart.lower, hafter.trimEnd.lower⟩
  rw [normalized, hquestion, trim_around (hspoken.isTrimmed htrimmed) _ _ hspokenNe,
    lower_append_of_startsApart _ hafter.trimEnd, lower_append_of_endsApart hbefore.trimStart,
    hspoken.lower_eq, small]

theorem normalized_self {name : String} (h : IsTrimmed name.toList) :
    normalized name = small name := by
  rw [normalized, h.trim_eq, small]

/-- A name mentions itself exactly when it begins and ends as words do. -/
theorem mentions_self_iff {name : String} :
    Mentions (small name) name ↔ HasWordEnds (small name) := by
  have hlength : (swapped '_' ' ' (small name)).length = (small name).length := List.length_map _
  rw [Mentions, standsFree_iff_of_length_eq rfl, standsFree_iff_of_length_eq hlength]
  constructor
  · rintro (⟨-, h⟩ | ⟨-, h⟩) <;> exact h
  · exact fun h => Or.inl ⟨rfl, h⟩

/-- **A column is shown for every question that speaks its name, unless it speaks of all columns,
exactly when the name begins and ends with word characters.** -/
theorem shows_spoken_iff {name : String} (htrimmed : IsTrimmed name.toList)
    (hall : ¬ SpeaksOfAll (small name)) (hlimit : LimitReadable (small name)) :
    (∀ (names : List String) (question : String), name ∈ names → Speaks question name →
      ((∃ p, Plan.ofQuestion question (names.map .text) = .ok p ∧ name ∈ p.columns) ↔
        LimitReadable (normalized question) ∧ ¬ SpeaksOfAll (normalized question))) ↔
      HasWordEnds (small name) := by
  have hshows (names : List String) (question : String) (hname : name ∈ names) :
      (∃ p, Plan.ofQuestion question (names.map .text) = .ok p ∧ name ∈ p.columns) ↔
        LimitReadable (normalized question) ∧
          ¬ SpeaksOfAll (normalized question) ∧ Mentions (normalized question) name := by
    refine exists_ofQuestion_iff fun p hp => ?_
    rw [(eq_of_ofQuestion hp).1, mem_shownOf_iff, and_iff_right hname]
  constructor
  · intro h
    have hself := (h [name] name (List.mem_singleton.mpr rfl) (speaks_self name)).mpr
    rw [normalized_self htrimmed] at hself
    obtain ⟨-, -, hmentions⟩ := (hshows _ _ (List.mem_singleton.mpr rfl)).mp (hself ⟨hlimit, hall⟩)
    rw [normalized_self htrimmed] at hmentions
    exact mentions_self_iff.mp hmentions
  · intro hends names question hname hspeaks
    have hne : name ≠ "" := by
      rintro rfl
      exact hends.ne_nil rfl
    obtain ⟨before, after, hquestion, hbefore, hafter⟩ := normalized_of_speaks hne htrimmed hspeaks
    have hmentions : Mentions (normalized question) name :=
      Or.inl (hquestion ▸ standsFree_of_hasWordEnds hends hbefore hafter)
    rw [hshows names question hname, and_iff_left hmentions]

/-- A name with spaces, brackets and letters beyond ASCII, in other letters between other words. -/
theorem shows_spoken_length : HasWordEnds (small "Länge (mm) max") ∧
    ∃ p, Plan.ofQuestion "top 3 by LäNGE (MM) Max please" (["id", "Länge (mm) max"].map .text) =
      .ok p ∧ "Länge (mm) max" ∈ p.columns := by
  have htrimmed : IsTrimmed "Länge (mm) max".toList := by decide
  have hall : ¬ SpeaksOfAll (small "Länge (mm) max") :=
    asksForAll_iff.not.mp (by decide +kernel)
  have hlimit : LimitReadable (small "Länge (mm) max") :=
    exists_limitOf_iff.mp ⟨none, by decide +kernel⟩
  have hends : HasWordEnds (small "Länge (mm) max") := by decide +kernel
  have hspeaks : Speaks "top 3 by LäNGE (MM) Max please" "Länge (mm) max" :=
    ⟨"top 3 by ".toList, "LäNGE (MM) Max".toList, " please".toList, by decide, by decide,
      by decide, by decide⟩
  refine ⟨hends, ((shows_spoken_iff htrimmed hall hlimit).mpr hends _ _ (by decide) hspeaks).mpr
    ⟨?_, asksForAll_iff.not.mp (by decide +kernel)⟩⟩
  exact exists_limitOf_iff.mp ⟨some 3, by decide +kernel⟩

/-- A question that speaks a name with a percent sign at its end shows no column. -/
theorem columns_of_percent : IsTrimmed "discount %".toList ∧ Speaks "show discount %" "discount %" ∧
    ¬ SpeaksOfAll (normalized "show discount %") ∧
    Plan.ofQuestion "show discount %" (["discount %"].map .text) = .ok ⟨[], none, false, none⟩ := by
  refine ⟨by decide, ?_, asksForAll_iff.not.mp (by decide +kernel),
    by decide +kernel⟩
  exact ⟨"show ".toList, "discount %".toList, [], by decide, by decide, by decide, by decide⟩

end AskTable.Question
