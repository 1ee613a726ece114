import AskTable.Proofs.Rows
import AskTable.Report.Json

/-!
# Strict JSON

A strict document has finite numbers only, and no object in it has a name twice. Its text is JSON
without the extensions for numbers: outside of the quoted texts there is no name of a number that is
not one.

* `Json.IsStrict`: strict documents.
* `unquoted`: the characters of a JSON text outside of its quoted texts.
* `NamesNoSpecial`: what is unquoted has neither `NaN` nor `Infinity` in it.
* `Quiet`: a piece of JSON text that can stand between others and names neither; `quiet_quotedText`,
  `quiet_floatText`, `quiet_intText`, `quiet_enclose` for the pieces of a document.
* `IsStrict.namesNoSpecial`: the text of a strict document, with any layout.
-/

namespace AskTable

open AskTable.Number AskTable.Text

/-- A document with finite numbers only, and with distinct names in every object. -/
inductive Json.IsStrict : Json → Prop
  | null : IsStrict .null
  | bool (b : Bool) : IsStrict (.bool b)
  | int (n : Int) : IsStrict (.int n)
  | float {x : Binary64} : x.isFinite = true → IsStrict (.float x)
  | text (s : String) : IsStrict (.text s)
  | list {items : List Json} : (∀ j ∈ items, IsStrict j) → IsStrict (.list items)
  | fields {members : List (String × Json)} : (members.map (·.1)).Nodup →
      (∀ m ∈ members, IsStrict m.2) → IsStrict (.fields members)

namespace Json

@[simp]
theorem isStrict_null : IsStrict .null := .null

@[simp]
theorem isStrict_bool (b : Bool) : (Json.bool b).IsStrict := .bool b

@[simp]
theorem isStrict_int (n : Int) : (Json.int n).IsStrict := .int n

@[simp]
theorem isStrict_text (s : String) : (Json.text s).IsStrict := .text s

@[simp]
theorem isStrict_float_iff {x : Binary64} : (Json.float x).IsStrict ↔ x.isFinite = true := by
  constructor
  · rintro (_ | _)
    assumption
  · exact .float

@[simp]
theorem isStrict_list_iff {items : List Json} :
    (Json.list items).IsStrict ↔ ∀ j ∈ items, j.IsStrict := by
  constructor
  · rintro (_ | _)
    assumption
  · exact .list

@[simp]
theorem isStrict_fields_iff {members : List (String × Json)} :
    (Json.fields members).IsStrict ↔
      (members.map (·.1)).Nodup ∧ ∀ m ∈ members, m.2.IsStrict := by
  constructor
  · rintro (_ | _)
    exact ⟨‹_›, ‹_›⟩
  · exact fun h => .fields h.1 h.2

/-- An object has distinct names, whatever members it is made of. -/
theorem isStrict_object_iff {members : List (String × Json)} :
    (Json.object members).IsStrict ↔ ∀ m ∈ Entries.putAll id members [], m.2.IsStrict := by
  have hnames : (Entries.keys id (Entries.putAll id members [])).Nodup :=
    Entries.nodup_putAll members (by simp [Entries.keys])
  rw [object, isStrict_fields_iff]
  exact and_iff_right hnames

/-! ## Outside of quoted texts -/

/-- Where a character of a JSON text stands. -/
inductive Place where
  | outside
  | inside
  /-- In a quoted text, after a backslash. -/
  | escaped

/-- The characters outside of quoted texts. -/
def unquotedFrom : Place → List Char → List Char
  | _, [] => []
  | .outside, c :: s => if c = '"' then unquotedFrom .inside s else c :: unquotedFrom .outside s
  | .inside, c :: s =>
    if c = '"' then unquotedFrom .outside s
    else if c = '\\' then unquotedFrom .escaped s
    else unquotedFrom .inside s
  | .escaped, _ :: s => unquotedFrom .inside s

/-- The characters of a JSON text outside of its quoted texts. -/
def unquoted (text : String) : List Char := unquotedFrom .outside text.toList

/-- No number that is not one and no infinity is named outside of the quoted texts. -/
def NamesNoSpecial (text : String) : Prop :=
  ∀ name ∈ ["NaN", "Infinity"], ¬ name.toList <:+: unquoted text

/-- A piece of text after which one is outside again, and which names nothing special. -/
def Quiet (s : List Char) : Prop :=
  ∃ shown, (∀ rest, unquotedFrom .outside (s ++ rest) = shown ++ unquotedFrom .outside rest) ∧
    ∀ c ∈ shown, c ≠ 'N' ∧ c ≠ 'I'

theorem Quiet.append {s t : List Char} (hs : Quiet s) (ht : Quiet t) : Quiet (s ++ t) := by
  obtain ⟨shown, hs, hnone⟩ := hs
  obtain ⟨more, ht, hmore⟩ := ht
  refine ⟨shown ++ more, fun rest => ?_, fun c hc => ?_⟩
  · rw [List.append_assoc, hs, ht, List.append_assoc]
  · rcases List.mem_append.mp hc with hc | hc
    · exact hnone c hc
    · exact hmore c hc

theorem Quiet.namesNoSpecial {text : String} (h : Quiet text.toList) : NamesNoSpecial text := by
  obtain ⟨shown, hshown, hnone⟩ := h
  have hunquoted : unquoted text = shown := by
    have hend := hshown []
    rwa [List.append_nil, unquotedFrom, List.append_nil] at hend
  intro name hname hfound
  rw [hunquoted] at hfound
  simp only [List.mem_cons, List.not_mem_nil, or_false] at hname
  rcases hname with rfl | rfl
  · exact (hnone 'N' (hfound.subset (by decide))).1 rfl
  · exact (hnone 'I' (hfound.subset (by decide))).2 rfl

/-- A character that neither opens a quoted text nor begins a special name. -/
def isCalm (c : Char) : Bool := c != '"' && c != 'N' && c != 'I'

theorem quiet_of_isCalm {s : List Char} (h : s.all isCalm = true) : Quiet s := by
  have hcalm : ∀ c ∈ s, c ≠ '"' ∧ c ≠ 'N' ∧ c ≠ 'I' := by
    intro c hc
    have hcc := List.all_eq_true.mp h c hc
    simpa [isCalm, and_assoc] using hcc
  refine ⟨s, fun rest => ?_, fun c hc => (hcalm c hc).2⟩
  clear h
  induction s with
  | nil => rfl
  | cons c s ih =>
    rw [List.cons_append, unquotedFrom, if_neg (hcalm c List.mem_cons_self).1,
      ih fun d hd => hcalm d (List.mem_cons_of_mem _ hd), List.cons_append]

/-! ## Quoted texts -/

theorem hexDigit_ne (n : Nat) (h : n < 16) : hexDigit n ≠ '"' ∧ hexDigit n ≠ '\\' := by
  have hall : ∀ n < 16, hexDigit n ≠ '"' ∧ hexDigit n ≠ '\\' := by decide
  exact hall n h

theorem unquotedFrom_hexWidth (width n : Nat) (rest : List Char) :
    unquotedFrom .inside (hexWidth width n ++ rest) = unquotedFrom .inside rest := by
  induction width generalizing n rest with
  | zero => rfl
  | succ width ih =>
    have hdigit := hexDigit_ne (n % 16) (Nat.mod_lt n (by decide))
    rw [hexWidth, List.append_assoc, ih, List.singleton_append, unquotedFrom, if_neg hdigit.1,
      if_neg hdigit.2]

theorem unquotedFrom_unitEscape (n : Nat) (rest : List Char) :
    unquotedFrom .inside (unitEscape n ++ rest) = unquotedFrom .inside rest := by
  rw [unitEscape, List.cons_append, List.cons_append, unquotedFrom, if_neg (by decide),
    if_pos rfl, unquotedFrom, unquotedFrom_hexWidth]

/-- After an escaped character one is still in the quoted text. -/
theorem unquotedFrom_escaped (c : Char) (rest : List Char) :
    unquotedFrom .inside (escaped c ++ rest) = unquotedFrom .inside rest := by
  unfold escaped
  split
  case h_8 hquote hbackslash _ _ _ _ _ =>
    -- a character without a short form: as it is, one unit, or two units
    dsimp only
    split
    · rw [List.singleton_append, unquotedFrom, if_neg hquote, if_neg hbackslash]
    · split
      · exact unquotedFrom_unitEscape _ rest
      · rw [List.append_assoc, unquotedFrom_unitEscape, unquotedFrom_unitEscape]
  all_goals simp [unquotedFrom]

theorem quiet_quotedText (s : String) : Quiet (quotedText s).toList := by
  refine ⟨[], fun rest => ?_, by simp⟩
  have hbody : ∀ s : List Char, unquotedFrom .inside (s.flatMap escaped ++ '"' :: rest) =
      unquotedFrom .outside rest := by
    intro s
    induction s with
    | nil => simp [unquotedFrom]
    | cons c s ih => rw [List.flatMap_cons, List.append_assoc, unquotedFrom_escaped, ih]
  rw [quotedText, String.toList_ofList, List.cons_append, List.cons_append, List.append_assoc,
    List.singleton_append, unquotedFrom, if_pos rfl, hbody, List.nil_append]

/-! ## Numbers -/

theorem isCalm_of_isDigit {c : Char} (h : c.isDigit = true) : isCalm c = true := by
  have hne (d : Char) (hd : d.isDigit = false) : c ≠ d := by
    rintro rfl
    rw [h] at hd
    cases hd
  simp [isCalm, hne '"' rfl, hne 'N' rfl, hne 'I' rfl]

theorem all_isCalm_digitsOf (n : Nat) : (digitsOf n).all isCalm = true :=
  List.all_eq_true.mpr fun _ hc =>
    isCalm_of_isDigit (Nat.isDigit_of_mem_toDigits (by decide) (by decide) hc)

theorem quiet_intText (n : Int) : Quiet (intText n).toList := by
  refine quiet_of_isCalm ?_
  cases n with
  | ofNat n => simpa [intText] using all_isCalm_digitsOf n
  | negSucc n => simpa [intText, isCalm] using all_isCalm_digitsOf (n + 1)

theorem isCalm_of_subset {s t : List Char} (h : s ⊆ t) (ht : t.all isCalm = true) :
    s.all isCalm = true :=
  List.all_eq_true.mpr fun c hc => List.all_eq_true.mp ht c (h hc)

section

variable {digits : List Char} (h : digits.all isCalm = true)
include h

theorem all_isCalm_dropEndZeros : (dropEndZeros digits).all isCalm = true := by
  refine isCalm_of_subset (fun c hc => ?_) h
  rw [dropEndZeros, List.mem_reverse] at hc
  exact List.mem_reverse.mp ((List.dropWhile_suffix _).subset hc)

theorem all_isCalm_fraction : (fraction digits).all isCalm = true := by
  unfold fraction
  split
  · rfl
  · simpa [isCalm] using h

theorem all_isCalm_take (n : Nat) : (digits.take n).all isCalm = true :=
  isCalm_of_subset (List.take_subset n digits) h

theorem all_isCalm_drop (n : Nat) : (digits.drop n).all isCalm = true :=
  isCalm_of_subset (List.drop_subset n digits) h

end

theorem all_isCalm_exponentText (power : Int) : (exponentText power).all isCalm = true := by
  have hdigits := all_isCalm_digitsOf power.natAbs
  have hsign : isCalm (if power < 0 then '-' else '+') = true := by split <;> rfl
  simp only [exponentText]
  rw [List.all_cons, hsign, Bool.true_and]
  split
  · rwa [List.all_cons]
  · exact hdigits

theorem all_isCalm_withExponent {digits : List Char} (h : digits.all isCalm = true) (power : Int) :
    (withExponent digits power).all isCalm = true := by
  rw [withExponent, List.all_append, List.all_append, all_isCalm_take h,
    all_isCalm_fraction (all_isCalm_drop h 1), List.all_cons, all_isCalm_exponentText]
  rfl

theorem all_isCalm_replicate (n : Nat) : (List.replicate n '0').all isCalm = true :=
  List.all_eq_true.mpr fun _ hc => (List.eq_of_mem_replicate hc) ▸ rfl

theorem all_isCalm_aroundPoint {digits : List Char} (h : digits.all isCalm = true) (power : Int) :
    (aroundPoint digits power).1.all isCalm = true ∧
      (aroundPoint digits power).2.all isCalm = true := by
  unfold aroundPoint
  split
  · refine ⟨rfl, ?_⟩
    rw [List.all_append, all_isCalm_replicate, h]
    rfl
  · refine ⟨?_, all_isCalm_drop h _⟩
    rw [List.all_append, all_isCalm_take h, all_isCalm_replicate]
    rfl

theorem all_isCalm_significant (s : Scientific) : s.significant.1.all isCalm = true :=
  all_isCalm_dropEndZeros (all_isCalm_digitsOf s.digits)

theorem all_isCalm_shortestText (units : Nat) : (shortestText units).all isCalm = true := by
  unfold shortestText
  have hdigits := all_isCalm_significant (shortest units)
  generalize (shortest units).significant = significant at hdigits ⊢
  obtain ⟨digits, power⟩ := significant
  obtain ⟨hwhole, hrest⟩ := all_isCalm_aroundPoint hdigits power
  dsimp only at hwhole hrest ⊢
  split
  · rw [List.all_append, hwhole, List.all_cons]
    split
    · rfl
    · rw [hrest]
      rfl
  · exact all_isCalm_withExponent hdigits power

theorem all_isCalm_signText (negative : Bool) : (signText negative).all isCalm = true := by
  cases negative <;> rfl

/-- A finite number is written as a sign and a magnitude. -/
theorem floatText_finite (negative : Bool) (units : Nat) :
    ∃ magnitude : List Char, magnitude.all isCalm = true ∧
      floatText (.finite negative units) = String.ofList (signText negative ++ magnitude) := by
  by_cases hzero : units = 0
  · subst hzero
    exact ⟨"0.0".toList, by decide, rfl⟩
  · refine ⟨shortestText units, all_isCalm_shortestText units, ?_⟩
    rw [floatText, writtenWith]
    exact hzero

theorem quiet_numberText {x : Binary64} (h : x.isFinite = true) : Quiet (numberText x).toList := by
  cases x with
  | nan => cases h
  | infinite => cases h
  | finite negative units =>
    obtain ⟨magnitude, hmagnitude, hwritten⟩ := floatText_finite negative units
    have htext : numberText (.finite negative units) = floatText (.finite negative units) := rfl
    rw [htext, hwritten, String.toList_ofList]
    refine quiet_of_isCalm ?_
    rw [List.all_append, all_isCalm_signText, hmagnitude]
    rfl

/-! ## Lists and objects -/

theorem quiet_intercalate {separator : List Char} (hs : Quiet separator) {parts : List (List Char)}
    (h : ∀ part ∈ parts, Quiet part) : Quiet (List.intercalate separator parts) := by
  induction parts with
  | nil => exact quiet_of_isCalm rfl
  | cons part parts ih =>
    have hpart := h part List.mem_cons_self
    have hparts := ih fun p hp => h p (List.mem_cons_of_mem _ hp)
    cases parts with
    | nil => simpa using hpart
    | cons next parts =>
      rw [List.intercalate_cons_cons]
      exact (hpart.append hs).append hparts

theorem quiet_newline (l : Layout) (depth : Nat) : Quiet (l.newline depth).toList := by
  unfold Layout.newline
  split
  · exact quiet_of_isCalm rfl
  · refine quiet_of_isCalm ?_
    rw [String.toList_ofList, List.all_cons]
    exact List.all_eq_true.mpr fun _ hc => (List.eq_of_mem_replicate hc) ▸ rfl

theorem quiet_separator (l : Layout) (depth : Nat) : Quiet (l.separator depth).toList := by
  unfold Layout.separator
  split
  · exact quiet_of_isCalm (by decide)
  · rw [String.toList_append]
    exact (quiet_of_isCalm (by decide)).append (quiet_newline l depth)

theorem quiet_enclose (l : Layout) (depth : Nat) {opening closing : String}
    (ho : Quiet opening.toList) (hc : Quiet closing.toList) {parts : List String}
    (h : ∀ part ∈ parts, Quiet part.toList) :
    Quiet (l.enclose depth opening closing parts).toList := by
  unfold Layout.enclose
  split
  · rw [String.toList_append]
    exact ho.append hc
  · simp only [String.toList_append, String.toList_intercalate]
    have hparts : ∀ part ∈ parts.map String.toList, Quiet part := List.forall_mem_map.mpr h
    have hbody := quiet_intercalate (quiet_separator l (depth + 1)) hparts
    exact (((ho.append (quiet_newline l _)).append hbody).append (quiet_newline l _)).append hc

/-! ## Documents -/

theorem renderItems_eq_map (l : Layout) (depth : Nat) (items : List Json) :
    renderItems l depth items = items.map (renderAt l depth) := by
  induction items with
  | nil => rfl
  | cons j items ih => rw [renderItems, ih, List.map_cons]

theorem renderMembers_eq_map (l : Layout) (depth : Nat) (members : List (String × Json)) :
    renderMembers l depth members =
      members.map fun m => quotedText m.1 ++ ": " ++ renderAt l depth m.2 := by
  induction members with
  | nil => rfl
  | cons m members ih => rw [renderMembers, ih, renderMember, List.map_cons]

theorem IsStrict.quiet_renderAt {j : Json} (h : j.IsStrict) (l : Layout) (depth : Nat) :
    Quiet (renderAt l depth j).toList := by
  induction h generalizing depth with
  | null =>
    rw [renderAt]
    exact quiet_of_isCalm (by decide)
  | bool b =>
    rw [renderAt]
    refine quiet_of_isCalm ?_
    cases b <;> decide
  | int n => exact quiet_intText n
  | float hx => exact quiet_numberText hx
  | text s => exact quiet_quotedText s
  | list _ ih =>
    rw [renderAt, renderItems_eq_map]
    refine quiet_enclose l depth (quiet_of_isCalm (by decide)) (quiet_of_isCalm (by decide)) ?_
    intro part hpart
    obtain ⟨j, hj, rfl⟩ := List.mem_map.mp hpart
    exact ih j hj _
  | fields _ _ ih =>
    rw [renderAt, renderMembers_eq_map]
    refine quiet_enclose l depth (quiet_of_isCalm (by decide)) (quiet_of_isCalm (by decide)) ?_
    intro part hpart
    obtain ⟨m, hm, rfl⟩ := List.mem_map.mp hpart
    rw [String.toList_append, String.toList_append]
    exact ((quiet_quotedText m.1).append (quiet_of_isCalm (by decide))).append (ih m hm _)

/-- **The text of a strict document** names no number that is not one and no infinity. -/
theorem IsStrict.namesNoSpecial {j : Json} (h : j.IsStrict) (step : Option Int) :
    NamesNoSpecial (j.render step) :=
  (h.quiet_renderAt ⟨step⟩ 0).namesNoSpecial

end Json

end AskTable
