import AskTable.Model.Fence
import AskTable.Proofs.SelectLists
import AskTable.Proofs.SpokenNames

/-!
# Fenced replies as a pattern

What stands between the fences of a reply is what a pattern takes: a fence, the tag or none, blanks
or none, a text, blanks or none, a fence, the end. The text is as short as possible and may have
fences in it, so a reply can fit in several ways. Whichever comes first, it takes the outer fences
and nothing else.

* `Pattern.takeOrSkip?`, `Pattern.skipOrTake?`: a part of a pattern that may be left out.
* `fencedGroup?`: the text that the pattern takes.
* `closingFence?_eq`: after the text, blanks and a last fence.
* `untilFence?_append`: the shortest text before a last fence ends where the blanks before this
  fence begin.
* `blankedGroup?_append`, `taggedGroup?_append`: blanks and a tag before the text.
* `fencedGroup?_eq_unfenced?`: only one way has to be tried.
* `withoutFences_fenced`: what is fenced is found again, and nothing else is cut.
-/

namespace AskTable.Text

variable {α : Type}

/-! ## Parts that may be left out -/

/-- A pattern that may be left out, but is taken first. -/
def Pattern.takeOrSkip? (next : List Char → List Char → Option α) (p : Pattern) (s : List Char) :
    Option α :=
  p.take? next s <|> next [] s

/-- A pattern that may be left out, and is left out first. -/
def Pattern.skipOrTake? (next : List Char → List Char → Option α) (p : Pattern) (s : List Char) :
    Option α :=
  next [] s <|> p.take? next s

/-- When what follows takes no character of the class, all of a run is taken before it. -/
theorem takeOrSkip?_most {accepts : Char → Bool} {next : List Char → Option α}
    (h : ∀ c s, accepts c = true → next (c :: s) = none) (s : List Char) :
    (Pattern.most accepts).takeOrSkip? (fun _ => next) s = next (s.dropWhile accepts) := by
  rw [Pattern.takeOrSkip?, Pattern.take?, takeMost?_of_refused fun _ => h]
  cases s with
  | nil => rfl
  | cons c s =>
    cases hc : accepts c with
    | false => simp [hc]
    | true => simp [hc, h c s hc]

/-- No blank at the end, also of what is left of a text. -/
theorem getLast?_of_suffix {s t : List Char} (h : t <:+ s)
    (hs : ∀ c ∈ s.getLast?, isBlank c = false) : ∀ c ∈ t.getLast?, isBlank c = false := by
  obtain ⟨front, rfl⟩ := h
  intro c hc
  refine hs c ?_
  rw [List.getLast?_append, Option.mem_def.mp hc]
  rfl

theorem dropKeyword?_suffix {word s rest : List Char} (h : dropKeyword? word s = some rest) :
    rest <:+ s := by
  obtain ⟨written, -, rfl⟩ := dropKeyword?_eq_some_iff.mp h
  exact List.suffix_append _ _

end AskTable.Text

namespace AskTable.Model

open AskTable.Text

/-! ## The pattern -/

/-- Is this the end of a text, or a last line break? -/
def atEnd (s : List Char) : Bool := s.isEmpty || s == ['\n']

/-- After a text: blanks or none, a fence, the end. -/
def closingFence? (text : List Char) : List Char → Option (List Char) :=
  (Pattern.most isBlank).takeOrSkip? fun _ =>
    (Pattern.word fence).take? fun _ rest => if atEnd rest then some text else none

/-- A text, as short as possible, and a last fence. -/
def untilFence? : List Char → Option (List Char) :=
  (Pattern.fewest fun _ => true).skipOrTake? closingFence?

/-- Blanks or none before the text. -/
def blankedGroup? : List Char → Option (List Char) :=
  (Pattern.most isBlank).takeOrSkip? fun _ => untilFence?

/-- The tag or none before the blanks. -/
def taggedGroup? : List Char → Option (List Char) :=
  (Pattern.word tag).takeOrSkip? fun _ => blankedGroup?

/-- The text between a fence at the front and one at the end, as the pattern takes it. -/
def fencedGroup? : List Char → Option (List Char) :=
  (Pattern.word fence).take? fun _ => taggedGroup?

/-! ## Fences -/

/-- Only the backtick writes a backtick. -/
theorem sameLetter_backtick {c : Char} : sameLetter '\x60' c = true ↔ c = '\x60' := by
  constructor
  · intro h
    have hforms : c ∈ ['\x60', '@'] := mem_letterForms (by decide) h
    rcases List.mem_pair.mp hforms with rfl | rfl
    · rfl
    · exact absurd h (by decide)
  · rintro rfl
    decide

theorem backtick_of_mem_fence {c : Char} (h : c ∈ fence) : c = '\x60' :=
  List.eq_of_mem_replicate (show c ∈ List.replicate 3 '\x60' from h)

theorem eq_of_writes_backticks {word written : List Char} (h : Writes word written)
    (hword : ∀ letter ∈ word, letter = '\x60') : written = word := by
  induction h with
  | nil => rfl
  | cons hc _ ih =>
    obtain rfl := hword _ List.mem_cons_self
    obtain rfl := sameLetter_backtick.mp hc
    rw [ih fun letter hletter => hword letter (List.mem_cons_of_mem _ hletter)]

/-- A fence is taken from the texts that begin with one. -/
theorem dropKeyword?_fence {s rest : List Char} :
    dropKeyword? fence s = some rest ↔ s = fence ++ rest := by
  rw [dropKeyword?_eq_some_iff]
  constructor
  · rintro ⟨written, hwrites, rfl⟩
    rw [eq_of_writes_backticks hwrites fun _ h => backtick_of_mem_fence h]
  · rintro rfl
    have hwrites : Writes fence fence := List.forall₂_same.mpr fun c hc => by
      obtain rfl := backtick_of_mem_fence hc
      decide
    exact ⟨fence, hwrites, rfl⟩

theorem dropKeyword?_fence_of_not_backtick {c : Char} (h : c ≠ '\x60') (s : List Char) :
    dropKeyword? fence (c :: s) = none := by
  rw [Option.eq_none_iff_forall_ne_some]
  intro rest hrest
  exact h (List.cons.inj (dropKeyword?_fence.mp hrest)).1

theorem head?_fence_append (s : List Char) : ∀ c ∈ (fence ++ s).head?, isBlank c = false := by
  intro c hc
  obtain rfl : '\x60' = c := Option.some.inj hc
  decide

theorem fence_ne_nil : fence ≠ [] := by decide

/-! ## The last fence -/

/-- Do blanks or none stand here, with a last fence right after them? -/
def closesHere (s : List Char) : Bool :=
  trimStart s == fence || trimStart s == fence ++ ['\n']

/-- After a text, the pattern takes blanks and a last fence. -/
theorem closingFence?_eq (text s : List Char) :
    closingFence? text s = if closesHere s then some text else none := by
  have hrefused : ∀ c t, isBlank c = true →
      (Pattern.word fence).take? (fun _ rest => if atEnd rest then some text else none) (c :: t) =
        none := by
    intro c t hc
    have hne : c ≠ '\x60' := by
      rintro rfl
      exact absurd hc (by decide)
    rw [Pattern.take?, dropKeyword?_fence_of_not_backtick hne]
    rfl
  have htake := takeOrSkip?_most hrefused s
  rw [closingFence?, htake, ← trimStart, Pattern.take?, closesHere]
  cases hfence : dropKeyword? fence (trimStart s) with
  | none =>
    have hnot (rest : List Char) : trimStart s ≠ fence ++ rest := by
      intro h
      rw [dropKeyword?_fence.mpr h] at hfence
      cases hfence
    have hnil : trimStart s ≠ fence := by simpa using hnot []
    simp [hnil, hnot]
  | some rest =>
    rw [dropKeyword?_fence.mp hfence]
    simp [atEnd, List.isEmpty_iff]

/-- In front of a last fence, only blanks close a text. -/
theorem closesHere_append {s : List Char} :
    closesHere (s ++ fence) = true ↔ ∀ c ∈ s, isBlank c = true := by
  have htrim : trimStart (s ++ fence) = trimStart s ++ fence :=
    trimStart_append s (head?_fence_append [])
  have hbreak : trimStart s ++ fence ≠ fence ++ ['\n'] := by
    intro h
    have hlast : (trimStart s ++ fence).getLast? = (fence ++ ['\n']).getLast? := by rw [h]
    rw [List.getLast?_append] at hlast
    cases hlast
  rw [closesHere, htrim, Bool.or_eq_true, beq_iff_eq, beq_iff_eq, or_iff_left hbreak,
    List.append_left_eq_self, trimStart_eq_nil_iff]

/-- A text that ends in no fence and in no blank is not closed. -/
theorem closesHere_of_not_suffix {s : List Char} (hlast : ∀ c ∈ s.getLast?, isBlank c = false)
    (h : ¬ fence <:+ s) : closesHere s = false := by
  have htrim : trimStart s <:+ s := List.dropWhile_suffix isBlank
  rw [closesHere, Bool.or_eq_false_iff, beq_eq_false_iff_ne, beq_eq_false_iff_ne]
  constructor
  · intro heq
    exact h (heq ▸ htrim)
  · intro heq
    rw [heq] at htrim
    exact absurd (getLast?_of_suffix htrim hlast '\n' rfl) (by decide)

/-! ## The text -/

theorem takeFewest?_closingFence? (f : List Char → List Char) (s : List Char) :
    takeFewest? (fun _ => true) (fun text => closingFence? (f text)) s =
      (takeFewest? (fun _ => true) closingFence? s).map f := by
  induction s generalizing f with
  | nil => rfl
  | cons c s ih =>
    rw [takeFewest?, takeFewest?, if_pos rfl, if_pos rfl, ih fun text => f (c :: text),
      ih (c :: ·), closingFence?_eq, closingFence?_eq]
    cases closesHere s with
    | true => rfl
    | false => simp [Function.comp_def]

theorem untilFence?_of_closes {s : List Char} (h : closesHere s = true) :
    untilFence? s = some [] := by
  rw [untilFence?, Pattern.skipOrTake?, closingFence?_eq, h]
  rfl

/-- The text begins here, unless it is closed at once. -/
theorem untilFence?_cons {c : Char} {s : List Char} (h : closesHere (c :: s) = false) :
    untilFence? (c :: s) = (untilFence? s).map (c :: ·) := by
  rw [untilFence?, Pattern.skipOrTake?, Pattern.skipOrTake?, closingFence?_eq, h, Pattern.take?,
    Pattern.take?, takeFewest?, if_pos rfl, takeFewest?_closingFence? (c :: ·), closingFence?_eq,
    closingFence?_eq]
  cases closesHere s <;> rfl

/-- **The shortest text in front of a last fence** is all that is in front of it, fences included,
but for the blanks right before it. -/
theorem untilFence?_append (s : List Char) : untilFence? (s ++ fence) = some (trimEnd s) := by
  induction s with
  | nil => exact untilFence?_of_closes (by decide)
  | cons c s ih =>
    rw [trimEnd_cons]
    by_cases hblank : (c :: s).all isBlank = true
    · rw [if_pos hblank]
      exact untilFence?_of_closes (closesHere_append.mpr (List.all_eq_true.mp hblank))
    · have hopen : closesHere (c :: (s ++ fence)) = false := by
        rw [Bool.eq_false_iff, ne_eq, ← List.cons_append, closesHere_append, ← List.all_eq_true]
        exact hblank
      rw [if_neg hblank, List.cons_append, untilFence?_cons hopen, ih, Option.map_some]

theorem untilFence?_of_not_suffix {s : List Char} (hlast : ∀ c ∈ s.getLast?, isBlank c = false)
    (h : ¬ fence <:+ s) : untilFence? s = none := by
  induction s with
  | nil => decide
  | cons c s ih =>
    have hsuffix : s <:+ c :: s := List.suffix_cons c s
    rw [untilFence?_cons (closesHere_of_not_suffix hlast h),
      ih (getLast?_of_suffix hsuffix hlast) (fun hs => h (hs.trans hsuffix)), Option.map_none]

/-! ## Blanks and a tag before the text -/

theorem blankedGroup?_cons_of_blank {c : Char} (hc : isBlank c = true) (s : List Char) :
    blankedGroup? (c :: s) = (blankedGroup? s <|> untilFence? (c :: s)) := by
  rw [blankedGroup?, Pattern.takeOrSkip?, Pattern.takeOrSkip?, Pattern.take?, Pattern.take?,
    takeMost?, if_pos hc]

theorem blankedGroup?_of_not_blank {s : List Char} (hs : ∀ c ∈ s.head?, isBlank c = false) :
    blankedGroup? s = untilFence? s := by
  rw [blankedGroup?, Pattern.takeOrSkip?, Pattern.take?]
  cases s with
  | nil => rfl
  | cons c s => rw [takeMost?, if_neg (by simp [hs c rfl])]; rfl

/-- All blanks before the text are taken. -/
theorem blankedGroup?_append (s : List Char) : blankedGroup? (s ++ fence) = some (trim s) := by
  induction s with
  | nil => exact (blankedGroup?_of_not_blank (head?_fence_append [])).trans (untilFence?_append [])
  | cons c s ih =>
    cases hc : isBlank c with
    | true => rw [List.cons_append, blankedGroup?_cons_of_blank hc, ih, trim_cons_blank hc]; rfl
    | false =>
      rw [blankedGroup?_of_not_blank (by simpa using hc), untilFence?_append, trim,
        trimStart_cons_of_not hc]

theorem blankedGroup?_of_not_suffix {s : List Char} (hlast : ∀ c ∈ s.getLast?, isBlank c = false)
    (h : ¬ fence <:+ s) : blankedGroup? s = none := by
  induction s with
  | nil => decide
  | cons c s ih =>
    have hsuffix : s <:+ c :: s := List.suffix_cons c s
    cases hc : isBlank c with
    | true =>
      rw [blankedGroup?_cons_of_blank hc, untilFence?_of_not_suffix hlast h,
        ih (getLast?_of_suffix hsuffix hlast) fun hs => h (hs.trans hsuffix)]
      rfl
    | false =>
      rw [blankedGroup?_of_not_blank (by simpa using hc), untilFence?_of_not_suffix hlast h]

/-- No fence helps to write the tag. -/
theorem dropKeyword?_tag_append (s : List Char) :
    dropKeyword? tag (s ++ fence) = (dropKeyword? tag s).map (· ++ fence) := by
  have hall : (tag.all fun letter => !sameLetter letter '\x60') = true := by decide
  have hnot : ∀ letter ∈ tag, sameLetter letter '\x60' = false := by
    simpa using List.all_eq_true.mp hall
  cases hs : dropKeyword? tag s with
  | none =>
    have hsome := dropKeyword?_append_isSome hnot s ['\x60', '\x60']
    rwa [hs, Option.isSome_none, Option.isSome_eq_false_iff, Option.isNone_iff_eq_none] at hsome
  | some rest =>
    obtain ⟨written, hwrites, rfl⟩ := dropKeyword?_eq_some_iff.mp hs
    exact dropKeyword?_eq_some_iff.mpr ⟨written, hwrites, List.append_assoc _ _ _⟩

/-- A tag before the text is taken. -/
theorem taggedGroup?_append (s : List Char) :
    taggedGroup? (s ++ fence) = some (trim (dropTag s)) := by
  rw [taggedGroup?, Pattern.takeOrSkip?, Pattern.take?, dropKeyword?_tag_append, dropTag]
  cases dropKeyword? tag s with
  | none => exact blankedGroup?_append s
  | some rest =>
    rw [Option.map_some, Option.bind_some, blankedGroup?_append, Option.getD_some]
    rfl

theorem taggedGroup?_of_not_suffix {s : List Char} (hlast : ∀ c ∈ s.getLast?, isBlank c = false)
    (h : ¬ fence <:+ s) : taggedGroup? s = none := by
  rw [taggedGroup?, Pattern.takeOrSkip?, Pattern.take?, blankedGroup?_of_not_suffix hlast h]
  cases hs : dropKeyword? tag s with
  | none => rfl
  | some rest =>
    have hsuffix := dropKeyword?_suffix hs
    rw [Option.bind_some, blankedGroup?_of_not_suffix (getLast?_of_suffix hsuffix hlast)
      fun hrest => h (hrest.trans hsuffix)]
    rfl

/-! ## Only one way -/

/-- What is between two fences. -/
theorem unfenced?_eq_some_iff {s body : List Char} :
    unfenced? s = some body ↔ s = fence ++ (body ++ fence) := by
  constructor
  · intro h
    rw [unfenced?, dropEnd?, Option.ite_none_right_eq_some, Option.ite_none_right_eq_some,
      List.isPrefixOf_iff_prefix, List.isSuffixOf_iff_suffix, Option.some.injEq] at h
    obtain ⟨⟨rest, rfl⟩, ⟨front, hfront⟩, rfl⟩ := h
    rw [List.drop_left] at hfront ⊢
    rw [← hfront, List.length_append, Nat.add_sub_cancel, List.take_left]
  · rintro rfl
    rw [unfenced?, dropEnd?, if_pos (by simp), List.drop_left, if_pos (by simp),
      List.length_append, Nat.add_sub_cancel, List.take_left]

/-- **Of a text without blanks at its ends, the pattern takes what is between the two fences.** -/
theorem fencedGroup?_eq_unfenced? {s : List Char} (hs : IsTrimmed s) :
    fencedGroup? s = (unfenced? s).map fun body => trim (dropTag body) := by
  rw [fencedGroup?, Pattern.take?]
  cases hfence : dropKeyword? fence s with
  | none =>
    have hnone : unfenced? s = none := by
      rw [Option.eq_none_iff_forall_ne_some]
      intro body hbody
      rw [dropKeyword?_fence.mpr (unfenced?_eq_some_iff.mp hbody)] at hfence
      cases hfence
    rw [hnone]
    rfl
  | some rest =>
    obtain rfl := dropKeyword?_fence.mp hfence
    rw [Option.bind_some]
    by_cases hclosed : fence <:+ rest
    · obtain ⟨body, rfl⟩ := hclosed
      rw [taggedGroup?_append, unfenced?_eq_some_iff.mpr rfl, Option.map_some]
    · have hnone : unfenced? (fence ++ rest) = none := by
        rw [Option.eq_none_iff_forall_ne_some]
        intro body hbody
        obtain rfl := List.append_cancel_left (unfenced?_eq_some_iff.mp hbody)
        exact hclosed (List.suffix_append _ _)
      have hlast := getLast?_of_suffix (List.suffix_append fence rest) hs.back
      rw [taggedGroup?_of_not_suffix hlast hclosed, hnone, Option.map_none]

/-! ## What is fenced -/

/-- A text between two fences on lines of their own, the first one with what is written after it. -/
def fenced (written s : String) : String :=
  "\x60\x60\x60" ++ written ++ "\n" ++ s ++ "\n\x60\x60\x60"

theorem toList_fenced (written s : String) :
    (fenced written s).toList =
      fence ++ ((written.toList ++ ('\n' :: s.toList ++ ['\n'])) ++ fence) := by
  simp [fenced, fence]

theorem dropTag_append {written s : List Char} (h : Writes tag written) :
    dropTag (written ++ s) = s := by
  rw [dropTag, dropKeyword?_eq_some_iff.mpr ⟨written, h, rfl⟩, Option.getD_some]

/-- A line break is no part of a tag. -/
theorem dropTag_cons_lineBreak (s : List Char) : dropTag ('\n' :: s) = '\n' :: s := rfl

theorem trim_lineBreaks (s : List Char) : trim ('\n' :: s ++ ['\n']) = trim s := by
  have hbreak : ∀ c ∈ ['\n'], isBlank c = true := List.all_eq_true.mp (by decide)
  rw [trim_append_blanks _ hbreak, trim_cons_blank (by decide)]

theorem stripFences_eq_fencedGroup? (s : List Char) :
    stripFences s = ((fencedGroup? (trim s)).map trim).getD (trim s) := by
  rw [fencedGroup?_eq_unfenced? (isTrimmed_trim s), stripFences]
  cases unfenced? (trim s) with
  | none => rfl
  | some body =>
    rw [Option.map_some, Option.map_some, Option.getD_some, (isTrimmed_trim (dropTag body)).trim_eq]

/-- Blanks around a text between fences go. -/
theorem trim_around_fenced {before after : List Char} (hbefore : ∀ c ∈ before, isBlank c = true)
    (hafter : ∀ c ∈ after, isBlank c = true) (body : List Char) :
    trim (before ++ (fence ++ (body ++ fence)) ++ after) = fence ++ (body ++ fence) := by
  have hback : ∀ c ∈ (fence ++ (body ++ fence)).getLast?, isBlank c = false := by
    rw [← List.append_assoc, List.getLast?_append]
    intro c hc
    obtain rfl : '\x60' = c := Option.some.inj hc
    decide
  have htrimmed : IsTrimmed (fence ++ (body ++ fence)) := ⟨head?_fence_append _, hback⟩
  rw [trim_around htrimmed _ _ (by simp [fence_ne_nil]), (trimStart_eq_nil_iff before).mpr hbefore,
    trimEnd_of_blanks hafter, List.nil_append, List.append_nil]

/-- What is between the fences of a reply, blanks around it or not. -/
theorem stripFences_around {before after body : List Char}
    (hbefore : ∀ c ∈ before, isBlank c = true) (hafter : ∀ c ∈ after, isBlank c = true) :
    stripFences (before ++ (fence ++ (body ++ fence)) ++ after) = trim (dropTag body) := by
  rw [stripFences, trim_around_fenced hbefore hafter, unfenced?_eq_some_iff.mpr rfl]

/-- A text that does not have a fence at both ends has no outer fences. -/
theorem unfenced?_eq_none {s : List Char} (h : ¬ (fence <+: s ∧ fence <:+ s)) :
    unfenced? s = none := by
  rw [Option.eq_none_iff_forall_ne_some]
  intro body hbody
  rw [unfenced?_eq_some_iff.mp hbody] at h
  exact h ⟨List.prefix_append _ _, (List.suffix_append _ _).trans (List.suffix_append _ _)⟩

/-- **What is fenced is found again.** A reply is read as the pattern takes it. So a text that is
set between fences, with a tag or none and blanks around the whole, comes out again without the
blanks at its ends, whatever fences are in it; and a reply that does not have a fence at both ends
loses nothing but these blanks. -/
theorem withoutFences_fenced :
    (∀ text : String, (withoutFences text).toList =
      ((fencedGroup? (trim text.toList)).map trim).getD (trim text.toList)) ∧
    (∀ before written s after : String, allBlank before = true → allBlank after = true →
      written = "" ∨ Writes tag written.toList →
      withoutFences (before ++ fenced written s ++ after) = trimmed s) ∧
    ∀ text : String, ¬ (fence <+: trim text.toList ∧ fence <:+ trim text.toList) →
      withoutFences text = trimmed text := by
  refine ⟨fun text => ?_, fun before written s after hbefore hafter hwritten => ?_,
    fun text h => ?_⟩
  · rw [withoutFences, String.toList_ofList, stripFences_eq_fencedGroup?]
  · have hbody : dropTag (written.toList ++ ('\n' :: s.toList ++ ['\n'])) =
        '\n' :: s.toList ++ ['\n'] := by
      rcases hwritten with rfl | hwrites
      · exact dropTag_cons_lineBreak _
      · exact dropTag_append hwrites
    rw [withoutFences, String.toList_append, String.toList_append, toList_fenced,
      stripFences_around (List.all_eq_true.mp hbefore) (List.all_eq_true.mp hafter), hbody,
      trim_lineBreaks, trimmed]
  · rw [withoutFences, stripFences, unfenced?_eq_none h, trimmed]

/-- A tag in mixed case, and a text that is itself between fences and has blank lines in it. -/
theorem withoutFences_twice :
    withoutFences (" \n" ++ fenced "SqL" "\x60\x60\x60\nsql\n\n\x60\x60\x60\x60 " ++ "\t") =
        "\x60\x60\x60\nsql\n\n\x60\x60\x60\x60" ∧
      withoutFences " \x60\x60\x60sql\nSELECT 1 " = "\x60\x60\x60sql\nSELECT 1" := by
  obtain ⟨-, hfenced, hother⟩ := withoutFences_fenced
  have htag : Writes tag "SqL".toList :=
    .cons (by decide) (.cons (by decide) (.cons (by decide) .nil))
  exact ⟨hfenced _ _ _ _ (by decide) (by decide) (Or.inr htag), hother _ (by decide)⟩

end AskTable.Model
