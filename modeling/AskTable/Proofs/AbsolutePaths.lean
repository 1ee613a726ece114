import AskTable.File.Path
import AskTable.Proofs.Pieces

/-!
# Absolute paths

A path that is seen from an absolute folder consists of one or two slashes and of names without
slashes, none of them empty or dotted. Seen from a folder again, it stays what it is.

* `IsName`: a part of a path that leads down.
* `forall_isName_foldl_stepInto`: below a root only names are taken.
* `rooted`, `normalize_of_isRoot`, `normalize_eq_rooted`: what an absolute path is normalized to.
* `normalize_rooted`: which is normal.
* `absolute_absolute`: a path that was seen from a folder stands for itself.
-/

namespace AskTable.File

open AskTable.Text

/-! ## The parts of a path -/

/-- A part of a path that leads down. -/
structure IsName (part : List Char) : Prop where
  ne_nil : part ≠ []
  ne_dot : part ≠ ['.']
  ne_dots : part ≠ ['.', '.']
  slash_not_mem : '/' ∉ part

theorem stepInto_of_isName {rooted : Bool} {taken : List (List Char)} {part : List Char}
    (h : IsName part) : stepInto rooted taken part = part :: taken := by
  simp [stepInto, h.ne_nil, h.ne_dot, h.ne_dots]

/-- Names are taken as they are. -/
theorem foldl_stepInto_of_isName {rooted : Bool} {names taken : List (List Char)}
    (h : ∀ name ∈ names, IsName name) :
    names.foldl (stepInto rooted) taken = names.reverse ++ taken := by
  induction names generalizing taken with
  | nil => rfl
  | cons name names ih =>
    obtain ⟨hname, hrest⟩ := List.forall_mem_cons.mp h
    rw [List.foldl_cons, stepInto_of_isName hname, ih hrest, List.reverse_cons, List.append_assoc,
      List.singleton_append]

theorem forall_isName_stepInto {taken : List (List Char)} {part : List Char}
    (hpart : '/' ∉ part) (h : ∀ name ∈ taken, IsName name) :
    ∀ name ∈ stepInto true taken part, IsName name := by
  unfold stepInto
  split
  · exact h
  · rename_i hshort
    split
    · rename_i hdots
      rw [Bool.or_eq_true, beq_iff_eq, beq_iff_eq, not_or] at hshort
      exact List.forall_mem_cons.mpr ⟨⟨hshort.1, hshort.2, bne_iff_ne.mp hdots, hpart⟩, h⟩
    · cases taken with
      | nil => exact h
      | cons last before =>
        obtain ⟨hlast, hbefore⟩ := List.forall_mem_cons.mp h
        simpa [hlast.ne_dots] using hbefore

/-- Below a root only names are taken. -/
theorem forall_isName_foldl_stepInto {ps taken : List (List Char)} (hps : ∀ p ∈ ps, '/' ∉ p)
    (h : ∀ name ∈ taken, IsName name) :
    ∀ name ∈ ps.foldl (stepInto true) taken, IsName name := by
  induction ps generalizing taken with
  | nil => exact h
  | cons p ps ih =>
    obtain ⟨hp, hrest⟩ := List.forall_mem_cons.mp hps
    exact ih hrest (forall_isName_stepInto hp h)

/-! ## Normal paths -/

/-- A root: one slash or two. -/
def IsRoot (root : List Char) : Prop := root = ['/'] ∨ root = ['/', '/']

/-- The path below a root that some names lead to. -/
def rooted (root : List Char) (names : List (List Char)) : String :=
  String.ofList (root ++ List.intercalate ['/'] names)

theorem isRoot_rootOf {path : String} (h : isAbsolute path = true) : IsRoot (rootOf path) := by
  unfold isAbsolute at h
  unfold rootOf
  split
  · exact Or.inl rfl
  · exact Or.inr rfl
  · exact Or.inl rfl
  · rename_i hslash
    cases hpath : path.toList with
    | nil => simp [hpath] at h
    | cons c s =>
      rw [hpath, List.head?_cons, beq_iff_eq, Option.some.injEq] at h
      exact absurd (h ▸ hpath) (hslash s)

/-- A path with a root is normalized to the root and what is taken below it. -/
theorem normalize_of_isRoot {path : String} (h : IsRoot (rootOf path)) :
    normalize path = rooted (rootOf path) ((parts path).foldl (stepInto true) []).reverse := by
  have hroot : (rootOf path).isEmpty = false := by rcases h with h | h <;> rw [h] <;> rfl
  have hpath (body : List Char) : (rootOf path ++ body).isEmpty = false := by
    rcases h with h | h <;> rw [h] <;> rfl
  simp only [normalize, hroot, hpath]
  rfl

/-- An absolute path leads from a root down some names. -/
theorem normalize_eq_rooted {path : String} (h : isAbsolute path = true) :
    ∃ root names, IsRoot root ∧ (∀ name ∈ names, IsName name) ∧
      normalize path = rooted root names := by
  have hroot := isRoot_rootOf h
  refine ⟨_, _, hroot, fun name hname => ?_, normalize_of_isRoot hroot⟩
  exact forall_isName_foldl_stepInto (fun p hp => not_mem_of_mem_splitOn hp) (by simp) name
    (List.mem_reverse.mp hname)

/-- What comes after the root of a path does not start with a slash. -/
theorem exists_intercalate_eq_cons {name : List Char} (h : IsName name)
    (names : List (List Char)) :
    ∃ c s, List.intercalate ['/'] (name :: names) = c :: s ∧ c ≠ '/' := by
  obtain ⟨c, s, rfl⟩ := List.exists_cons_of_ne_nil h.ne_nil
  have hc : c ≠ '/' := fun hc => h.slash_not_mem (hc ▸ List.mem_cons_self)
  cases names with
  | nil => exact ⟨c, s, List.intercalate_singleton, hc⟩
  | cons next names => exact ⟨c, _, List.intercalate_cons_cons, hc⟩

theorem rootOf_rooted {root : List Char} {names : List (List Char)} (hroot : IsRoot root)
    (h : ∀ name ∈ names, IsName name) : rootOf (rooted root names) = root := by
  rw [rootOf, rooted, String.toList_ofList]
  cases names with
  | nil => rcases hroot with rfl | rfl <;> rfl
  | cons name names =>
    obtain ⟨c, s, hbody, hc⟩ := exists_intercalate_eq_cons (h name List.mem_cons_self) names
    rw [hbody]
    rcases hroot with rfl | rfl
    · simp [hc]
    · simp [hc]

/-- The root has only empty parts, which are not taken. -/
theorem foldl_parts_rooted {root : List Char} {names : List (List Char)} (hroot : IsRoot root)
    (h : ∀ name ∈ names, IsName name) :
    (parts (rooted root names)).foldl (stepInto true) [] = names.reverse := by
  have hbody : (splitOn '/' (List.intercalate ['/'] names)).foldl (stepInto true) [] =
      names.reverse := by
    cases names with
    | nil => rfl
    | cons name names =>
      rw [splitOn_intercalate fun p hp => (h p hp).slash_not_mem, foldl_stepInto_of_isName h,
        List.append_nil]
  rw [parts, rooted, String.toList_ofList]
  rcases hroot with rfl | rfl
  · exact (congrArg _ (splitOn_append_cons List.not_mem_nil _)).trans hbody
  · exact (congrArg _ ((splitOn_append_cons List.not_mem_nil _).trans
      (congrArg _ (splitOn_append_cons List.not_mem_nil _)))).trans hbody

/-- What a path is normalized to is normal. -/
theorem normalize_rooted {root : List Char} {names : List (List Char)} (hroot : IsRoot root)
    (h : ∀ name ∈ names, IsName name) : normalize (rooted root names) = rooted root names := by
  have hsame := rootOf_rooted hroot h
  rw [normalize_of_isRoot (by rw [hsame]; exact hroot), hsame, foldl_parts_rooted hroot h,
    List.reverse_reverse]

/-! ## Paths seen from a folder -/

theorem isAbsolute_join {folder : String} (h : isAbsolute folder = true) (path : String) :
    isAbsolute (join folder path) = true := by
  have hfolder : folder.isEmpty = false := by
    cases hempty : folder.isEmpty with
    | false => rfl
    | true =>
      rw [String.isEmpty_iff.mp hempty] at h
      cases h
  have happend (s : String) : isAbsolute (folder ++ s) = true := by
    unfold isAbsolute at h ⊢
    rw [String.toList_append, List.head?_append]
    simp_all
  unfold join
  split
  · simp_all
  · split
    · exact happend _
    · rw [String.append_assoc]
      exact happend _

/-- A path that was seen from a folder stands for itself. -/
theorem absolute_absolute {folder : String} (h : isAbsolute folder = true) (path : String) :
    absolute folder (absolute folder path) = absolute folder path := by
  obtain ⟨root, names, hroot, hnames, hnormal⟩ := normalize_eq_rooted (isAbsolute_join h path)
  have hslash : isAbsolute (rooted root names) = true := by
    rw [isAbsolute, rooted, String.toList_ofList]
    rcases hroot with rfl | rfl <;> rfl
  have hjoin : join folder (rooted root names) = rooted root names := by
    rw [join, hslash, Bool.true_or, if_pos rfl]
  rw [absolute, absolute, hnormal, hjoin, normalize_rooted hroot hnames]

end AskTable.File
