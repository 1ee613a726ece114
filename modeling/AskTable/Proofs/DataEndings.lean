import AskTable.Proofs.SmallForms
import AskTable.Proofs.Failures

/-!
# Names of data files

A file is taken for one with data when its name, in small letters, has one of the endings. The
reader is told by the last dot of the name and what follows it, and dots that the name starts with
do not count there. So a name that has only dots before its ending is taken, and cannot be read.

* `dot_mem_lowerChar`: dots are in no other small form.
* `lowerAfter_eq_of_plain`: what has plain small letters has them wherever it stands.
* `dot_cons_suffix_iff`: a text ends in a dot and letters exactly when these follow its last dot.
* `HasStem`: something else than dots stands before the last dot.
* `isSupportedFile_iff`, `reader?_join_iff`: which names are taken, and which have a reader.
* `readRows_eq_fileKind_iff`: a kind of file is refused exactly without a reader.
* `dataFile?_eq_some`: which file is picked.
* `reader?_join_iff_supported`: the names that are taken and have a stem are those that can be read.
-/

namespace AskTable.Text

/-! ## Dots in small letters -/

theorem ofNat_eq_dot {n : Nat} (h : Char.ofNat n = '.') : n = 46 := by
  have hdot : (Char.ofNat n).toNat = 46 := congrArg Char.toNat h
  by_cases hn : n.isValidChar
  · rw [Char.ofNat, dif_pos hn] at hdot
    exact hdot
  · -- what is no code point becomes the character zero
    rw [Char.ofNat, dif_neg hn] at hdot
    cases hdot

/-- The partners in a run of the case table come after the dot. -/
theorem dot_lt_of_mem_lowerRuns : ∀ r ∈ lowerRuns, (46 : Int) < r.first + r.shift := by
  decide +kernel

theorem not_dot_of_mem_lowerExpansions :
    ∀ e ∈ lowerExpansions, ∀ n ∈ e.2, Char.ofNat n ≠ '.' := by decide +kernel

theorem toLower_eq_dot {c : Char} (h : c.toLower = '.') : c = '.' := by
  by_cases hc : c.val ≥ 'A'.val ∧ c.val ≤ 'Z'.val
  · have hsmall := toNat_toLower hc
    have hdot : c.toLower.toNat = 46 := congrArg Char.toNat h
    have hfirst : 65 ≤ c.toNat := hc.1
    omega
  · have hsame : c.toLower = c := dif_neg hc
    rw [← hsame, h]

/-- Dots are in no other small form. -/
theorem dot_mem_lowerChar {c : Char} (h : '.' ∈ lowerChar c) : c = '.' := by
  unfold lowerChar at h
  split at h
  · exact toLower_eq_dot (List.mem_singleton.mp h).symm
  · rw [caseForm] at h
    split at h
    · rename_i e form he
      obtain ⟨n, hn, hdot⟩ := List.mem_map.mp h
      exact absurd hdot (not_dot_of_mem_lowerExpansions _ (List.mem_of_find?_eq_some he) n hn)
    · rw [List.mem_singleton] at h
      cases hrun : lowerRuns.findSome? (·.partner? c.toNat) with
      | none => rw [hrun] at h; exact h.symm
      | some d =>
        obtain ⟨r, hr, hd⟩ := List.exists_of_findSome?_eq_some hrun
        obtain ⟨hfirst, -, rfl⟩ := CaseRun.partner?_eq_some hd
        rw [hrun, Option.getD_some] at h
        have hdot := ofNat_eq_dot h.symm
        have habove := dot_lt_of_mem_lowerRuns r hr
        omega

theorem lowerAfter_sigma (before s : List Char) :
    ∃ d, (d = 'ς' ∨ d = 'σ') ∧
      lowerAfter before ('Σ' :: s) = d :: lowerAfter ('Σ' :: before) s := by
  rw [lowerAfter]
  split
  · exact ⟨_, Or.inl rfl, rfl⟩
  · exact ⟨_, Or.inr rfl, rfl⟩

theorem lowerAfter_dot (before s : List Char) :
    lowerAfter before ('.' :: s) = '.' :: lowerAfter ('.' :: before) s :=
  lowerAfter_cons_of_ne (by decide) before s

/-- The small letters of a text have a dot only where the text has one. -/
theorem dot_mem_of_mem_lowerAfter {before s : List Char} (h : '.' ∈ lowerAfter before s) :
    '.' ∈ s := by
  induction s generalizing before with
  | nil => exact h
  | cons c s ih =>
    by_cases hsigma : c = 'Σ'
    · subst hsigma
      obtain ⟨d, hd, heq⟩ := lowerAfter_sigma before s
      rw [heq] at h
      rcases List.mem_cons.mp h with hdot | h
      · rcases hd with rfl | rfl <;> cases hdot
      · exact List.mem_cons_of_mem _ (ih h)
    · rw [lowerAfter_cons_of_ne hsigma] at h
      rcases List.mem_append.mp h with hdot | h
      · rw [dot_mem_lowerChar hdot]
        exact List.mem_cons_self
      · exact List.mem_cons_of_mem _ (ih h)

/-- The small letters of the front of a text come first. -/
theorem exists_lowerAfter_append (before s t : List Char) :
    ∃ front, lowerAfter before (s ++ t) = front ++ lowerAfter (s.reverse ++ before) t := by
  induction s generalizing before with
  | nil => exact ⟨[], rfl⟩
  | cons c s ih =>
    obtain ⟨front, hfront⟩ := ih (c :: before)
    rw [List.reverse_cons, List.append_assoc, List.singleton_append, List.cons_append]
    by_cases hsigma : c = 'Σ'
    · subst hsigma
      rw [lowerAfter, hfront]
      exact ⟨_ :: front, rfl⟩
    · rw [lowerAfter_cons_of_ne hsigma, hfront]
      exact ⟨lowerChar c ++ front, (List.append_assoc _ _ _).symm⟩

/-- What stands before matters to a capital sigma only, and its small forms are not plain. -/
theorem lowerAfter_eq_of_plain {small : List Char} (hplain : ∀ c ∈ small, isPlain c = true)
    {before s : List Char} (h : lowerAfter before s = small) (other : List Char) :
    lowerAfter other s = small := by
  induction s generalizing before other small with
  | nil => exact h
  | cons c s ih =>
    by_cases hsigma : c = 'Σ'
    · subst hsigma
      obtain ⟨d, hd, heq⟩ := lowerAfter_sigma before s
      have hno := hplain d (by rw [← h, heq]; exact List.mem_cons_self)
      rcases hd with rfl | rfl <;> exact absurd hno (by decide)
    · rw [lowerAfter_cons_of_ne hsigma] at h ⊢
      subst h
      rw [ih (fun d hd => hplain d (List.mem_append_right _ hd)) rfl]

end AskTable.Text

namespace AskTable

open AskTable.File AskTable.Text

/-! ## The last dot -/

/-- What follows the last dot. -/
def afterLastDot (s : List Char) : List Char := (s.reverse.takeWhile (· != '.')).reverse

theorem afterLastDot_append {after : List Char} (h : '.' ∉ after) (before : List Char) :
    afterLastDot (before ++ '.' :: after) = after := by
  have hne : ∀ c ∈ after.reverse, (c != '.') = true := by
    intro c hc
    rw [bne_iff_ne]
    rintro rfl
    exact h (List.mem_reverse.mp hc)
  rw [afterLastDot, List.reverse_append, List.reverse_cons, List.append_assoc,
    List.takeWhile_append_of_pos hne]
  simp

theorem exists_last_dot {s : List Char} (h : '.' ∈ s) :
    ∃ before after, s = before ++ '.' :: after ∧ '.' ∉ after := by
  obtain ⟨after, before, heq, hafter⟩ := List.eq_append_cons_of_mem (List.mem_reverse.mpr h)
  refine ⟨before.reverse, after.reverse, ?_, fun hmem => hafter (List.mem_reverse.mp hmem)⟩
  rw [← List.reverse_reverse s, heq]
  simp

/-- A text ends in a dot and what follows exactly when this follows its last dot. -/
theorem dot_cons_suffix_iff {e after : List Char} (he : '.' ∉ e) (hafter : '.' ∉ after)
    (before : List Char) : '.' :: e <:+ before ++ '.' :: after ↔ after = e := by
  constructor
  · rintro ⟨front, hfront⟩
    rw [← afterLastDot_append hafter before, ← hfront, afterLastDot_append he]
  · rintro rfl
    exact List.suffix_append _ _

/-! ## Endings -/

/-- The endings that a reader is meant for. -/
def File.Reader.endings : Reader → List String
  | .delimited => [".csv"]
  | .workbook => [".xlsx", ".xls"]
  | .columnFile => [".parquet"]

/-- The name ends, in small letters, as the files of a reader do. -/
def File.Reader.Ends (r : Reader) (name : String) : Prop :=
  ∃ ending ∈ r.endings, ending.toList <:+ lower name.toList

/-- Something else than dots stands before the last dot of a name. -/
def HasStem (name : String) : Prop :=
  ∃ stem ending, name.toList = stem ++ '.' :: ending ∧ '.' ∉ ending ∧ ∃ c ∈ stem, c ≠ '.'

theorem mem_dataEndings_iff {ending : String} :
    ending ∈ dataEndings ↔ ∃ r : Reader, ending ∈ r.endings := by
  have hendings : dataEndings = [.delimited, .workbook, .columnFile].flatMap Reader.endings := rfl
  rw [hendings, List.mem_flatMap]
  refine exists_congr fun r => and_iff_right ?_
  cases r <;> simp

theorem isSupportedFile_iff {name : String} :
    isSupportedFile name = true ↔ ∃ r : Reader, r.Ends name := by
  rw [isSupportedFile, List.any_eq_true]
  simp only [List.isPrefixOf_iff_prefix, List.reverse_prefix]
  constructor
  · rintro ⟨ending, hmem, hends⟩
    obtain ⟨r, hr⟩ := mem_dataEndings_iff.mp hmem
    exact ⟨r, ending, hr, hends⟩
  · rintro ⟨r, ending, hr, hends⟩
    exact ⟨ending, mem_dataEndings_iff.mpr ⟨r, hr⟩, hends⟩

theorem ofExtension?_eq_some_iff {ext : String} {r : Reader} :
    Reader.ofExtension? ext = some r ↔ ext ∈ r.endings := by
  unfold Reader.ofExtension?
  split <;> cases r <;> simp_all [Reader.endings]

/-- Every ending is a dot and plain letters. -/
theorem exists_plain_of_mem_endings {r : Reader} {ending : String} (h : ending ∈ r.endings) :
    ∃ letters, ending.toList = '.' :: letters ∧ ∀ c ∈ letters, isPlain c = true := by
  have hall : ∀ ending ∈ r.endings, ending.toList.head? = some '.' ∧
      ending.toList.tail.all isPlain = true := by cases r <;> decide
  obtain ⟨hdot, hplain⟩ := hall ending h
  obtain ⟨letters, hletters⟩ := List.head?_eq_some_iff.mp hdot
  rw [hletters] at hplain
  exact ⟨letters, hletters, List.all_eq_true.mp hplain⟩

/-- Whether a name with a dot ends as the files of a reader do is told by what follows its last
dot, and not by what stands before. -/
theorem ends_iff {r : Reader} {name : String} {stem after : List Char}
    (hname : name.toList = stem ++ '.' :: after) (hafter : '.' ∉ after) :
    r.Ends name ↔ String.ofList (lower ('.' :: after)) ∈ r.endings := by
  obtain ⟨front, hfront⟩ := exists_lowerAfter_append [] stem ('.' :: after)
  rw [lowerAfter_dot, ← lower, ← hname] at hfront
  have hsmall : lower ('.' :: after) = '.' :: lowerAfter ['.'] after := lowerAfter_dot [] after
  have hno (before : List Char) : '.' ∉ lowerAfter before after :=
    fun hmem => hafter (dot_mem_of_mem_lowerAfter hmem)
  constructor
  · rintro ⟨ending, hmem, hends⟩
    obtain ⟨letters, hletters, hplain⟩ := exists_plain_of_mem_endings hmem
    have hdot : '.' ∉ letters := fun hdot => absurd (hplain '.' hdot) (by decide)
    rw [hfront, hletters, dot_cons_suffix_iff hdot (hno _)] at hends
    rw [hsmall, lowerAfter_eq_of_plain hplain hends, ← hletters, String.ofList_toList]
    exact hmem
  · intro hmem
    refine ⟨_, hmem, ?_⟩
    obtain ⟨letters, hletters, hplain⟩ := exists_plain_of_mem_endings hmem
    rw [String.toList_ofList, hsmall] at hletters ⊢
    have hends := (List.cons.inj hletters).2
    rw [hfront, dot_cons_suffix_iff (hno _) (hno _), hends]
    exact lowerAfter_eq_of_plain hplain hends _

namespace File

/-! ## Paths -/

theorem splitOn_append_separator (separator : Char) (front s : List Char) :
    ∃ piece pieces, splitOn separator (front ++ separator :: s) =
      (piece :: pieces) ++ splitOn separator s := by
  induction front with
  | nil =>
    obtain ⟨p, ps, hp⟩ := List.exists_cons_of_ne_nil (splitOn_ne_nil separator s)
    exact ⟨[], [], by simp [splitOn, hp]⟩
  | cons c front ih =>
    obtain ⟨piece, pieces, heq⟩ := ih
    rw [List.cons_append, splitOn, heq]
    by_cases hc : c = separator
    · exact ⟨[], piece :: pieces, by simp [hc]⟩
    · exact ⟨c :: piece, pieces, by simp [hc]⟩

/-- What follows the last slash of a path is its last part. -/
theorem baseName_eq_of_slash {path name : String} {front : List Char}
    (hpath : path.toList = front ++ '/' :: name.toList) (hname : '/' ∉ name.toList) :
    baseName path = name := by
  obtain ⟨piece, pieces, hpieces⟩ := splitOn_append_separator '/' front name.toList
  rw [baseName, parts, hpath, hpieces, splitOn_of_not_mem hname, List.getLast?_concat,
    Option.getD_some, String.ofList_toList]

theorem baseName_of_no_slash {name : String} (hname : '/' ∉ name.toList) :
    baseName name = name := by
  rw [baseName, parts, splitOn_of_not_mem hname, List.getLast?_singleton, Option.getD_some,
    String.ofList_toList]

/-- The path of a name in a folder ends in this name. -/
theorem baseName_join {name : String} (hname : '/' ∉ name.toList) (folder : String) :
    baseName (join folder name) = name := by
  have hrelative : isAbsolute name = false := by
    rw [isAbsolute, beq_eq_false_iff_ne]
    exact fun hhead => hname (List.mem_of_mem_head? hhead)
  unfold join
  split
  · exact baseName_of_no_slash hname
  · split
    · rename_i hlast
      obtain ⟨front, hfront⟩ := List.getLast?_eq_some_iff.mp (eq_of_beq hlast)
      have hpath : (folder ++ name).toList = front ++ '/' :: name.toList := by
        rw [String.toList_append, hfront, List.append_assoc, List.singleton_append]
      exact baseName_eq_of_slash hpath hname
    · have hpath : (folder ++ "/" ++ name).toList = folder.toList ++ '/' :: name.toList := by
        rw [String.toList_append, String.toList_append, List.append_assoc]
        rfl
      exact baseName_eq_of_slash hpath hname

/-! ## Extensions -/

/-- With a stem, the last dot and what follows it tell the reader. -/
theorem extension_of_stem {path : String} {stem after : List Char}
    (hpath : (baseName path).toList = stem ++ '.' :: after) (hafter : '.' ∉ after)
    (hstem : ∃ c ∈ stem, c ≠ '.') : extension path = String.ofList (lower ('.' :: after)) := by
  have hrest : stem.dropWhile (· == '.') ≠ [] := by
    obtain ⟨c, hc, hne⟩ := hstem
    rw [ne_eq, List.dropWhile_eq_nil_iff]
    exact fun h => hne (eq_of_beq (h c hc))
  have hdrop : (baseName path).toList.dropWhile (· == '.') =
      stem.dropWhile (· == '.') ++ '.' :: after := by
    rw [hpath, List.dropWhile_append, if_neg (by simpa using hrest)]
  rw [extension, hdrop, if_pos (by simp), ← afterLastDot, afterLastDot_append hafter]

/-- Where only dots stand before it, nothing is left that could tell one. -/
theorem extension_of_dots {path : String} {dots rest : List Char}
    (hpath : (baseName path).toList = dots ++ rest) (hdots : ∀ c ∈ dots, c = '.')
    (hrest : '.' ∉ rest) : extension path = "" := by
  have hdrop : (baseName path).toList.dropWhile (· == '.') = rest := by
    rw [hpath, List.dropWhile_append_of_pos fun c hc => by simpa using hdots c hc]
    cases rest with
    | nil => rfl
    | cons c rest =>
      have hc : (c == '.') = false := by
        rw [beq_eq_false_iff_ne]
        rintro rfl
        exact hrest List.mem_cons_self
      rw [List.dropWhile_cons, hc]
      rfl
  rw [extension, hdrop, if_neg (by simpa using hrest)]

/-- A name without a stem has only dots before anything else. -/
theorem exists_dots_of_not_hasStem {name : String} (h : ¬ HasStem name) :
    ∃ dots rest, name.toList = dots ++ rest ∧ (∀ c ∈ dots, c = '.') ∧ '.' ∉ rest := by
  by_cases hdot : '.' ∈ name.toList
  · obtain ⟨stem, after, hname, hafter⟩ := exists_last_dot hdot
    refine ⟨stem ++ ['.'], after, by rw [hname, List.append_assoc, List.singleton_append], ?_,
      hafter⟩
    intro c hc
    by_contra hne
    rcases List.mem_append.mp hc with hc | hc
    · exact h ⟨stem, after, hname, hafter, c, hc, hne⟩
    · exact hne (List.mem_singleton.mp hc)
  · exact ⟨[], name.toList, rfl, nofun, hdot⟩

/-- A name in a folder has a reader exactly when it has a stem and ends as the files of the reader
do. -/
theorem reader?_join_iff {name : String} (hname : '/' ∉ name.toList) (folder : String)
    (r : Reader) : reader? (join folder name) = some r ↔ HasStem name ∧ r.Ends name := by
  rw [reader?, ofExtension?_eq_some_iff]
  by_cases hstem : HasStem name
  · obtain ⟨stem, after, heq, hafter, hother⟩ := hstem
    have hbase := baseName_join hname folder
    rw [extension_of_stem (by rw [hbase, heq]) hafter hother, ends_iff heq hafter]
    exact (and_iff_right ⟨stem, after, heq, hafter, hother⟩).symm
  · obtain ⟨dots, rest, heq, hdots, hrest⟩ := exists_dots_of_not_hasStem hstem
    have hbase := baseName_join hname folder
    rw [extension_of_dots (by rw [hbase, heq]) hdots hrest]
    refine iff_of_false ?_ fun h => hstem h.1
    cases r <;> decide

/-! ## Kinds of files -/

/-- Whatever fails, it is not the kind of file that is refused. -/
def AcceptsKind {α : Type} (x : Except Fault α) : Prop := ∀ kind, x ≠ .error (.fileKind kind)

theorem AcceptsKind.bind {α β : Type} {x : Except Fault α} {f : α → Except Fault β}
    (hx : AcceptsKind x) (hf : ∀ a, AcceptsKind (f a)) : AcceptsKind (x >>= f) := by
  cases x with
  | error fault => exact fun kind h => hx kind (congrArg Except.error (Except.error.inj h))
  | ok a => exact hf a

theorem acceptsKind_characters (content : Content) : AcceptsKind (characters content) := by
  intro kind h
  unfold characters at h
  split at h
  · cases h
  · split at h <;> cases h
  · cases h

theorem acceptsKind_widened (width : Nat) (rows : List Record) :
    AcceptsKind (widened width rows) := by
  induction rows with
  | nil => nofun
  | cons r rows ih =>
    rw [widened]
    split
    · nofun
    · exact ih.bind fun rest => nofun

theorem acceptsKind_delimitedRows (text : List Char) : AcceptsKind (delimitedRows text) := by
  unfold delimitedRows
  split
  · nofun
  · nofun
  · refine AcceptsKind.bind ?_ fun fields => nofun
    exact (acceptsKind_widened _ _).bind fun fields kind h => by split at h <;> cases h

theorem acceptsKind_rows (r : Reader) (path : String) (content : Content) :
    AcceptsKind (r.rows path content) := by
  cases r with
  | delimited => exact (acceptsKind_characters content).bind acceptsKind_delimitedRows
  | workbook =>
    cases content <;> simp [AcceptsKind, Reader.rows, workbookFault]
    all_goals intro kind; split <;> nofun
  | columnFile =>
    cases content <;> simp [AcceptsKind, Reader.rows, columnFileFault]
    all_goals intro kind; split <;> nofun

theorem acceptsKind_content (r : Reader) (disk : Disk) (path : String) :
    AcceptsKind (r.content disk path) := by
  have hread : AcceptsKind (disk.read path) := by
    intro kind h
    unfold Disk.read at h
    split at h
    · cases h
    · split at h <;> cases h
  unfold Reader.content
  split
  · nofun
  · exact hread

/-- A kind of file is refused exactly when there is no reader for it. -/
theorem readRows_eq_fileKind_iff {disk : Disk} {path : String} :
    (∃ kind, readRows disk path = .error (.fileKind kind)) ↔ reader? path = none := by
  unfold readRows
  cases reader? path with
  | none => exact iff_of_true ⟨_, rfl⟩ rfl
  | some r =>
    refine iff_of_false ?_ nofun
    rintro ⟨kind, h⟩
    exact (acceptsKind_content r disk path).bind (acceptsKind_rows r path) kind h

/-- Where no extension is found, the path itself is told. -/
theorem readRows_of_no_extension (disk : Disk) {path : String} (h : extension path = "") :
    readRows disk path = .error (.fileKind path) := by
  unfold readRows
  rw [reader?, h]
  rfl

/-! ## The file that is picked -/

/-- Names in a folder have no slashes. -/
theorem slash_not_mem_of_mem_names {disk : Disk} {folder name : String}
    (h : name ∈ disk.names folder) : '/' ∉ name.toList := by
  rw [Disk.names, List.mem_eraseDups] at h
  obtain ⟨e, -, he⟩ := List.mem_filterMap.mp h
  obtain ⟨pieces, hpieces, he⟩ := Option.bind_eq_some_iff.mp he
  obtain ⟨piece, hpiece, he⟩ := Option.bind_eq_some_iff.mp he
  rw [Disk.partsBelow?, Option.ite_none_right_eq_some] at hpieces
  rw [Option.ite_none_left_eq_some] at he
  rw [← Option.some.inj he.2, String.toList_ofList]
  rw [← Option.some.inj hpieces.2] at hpiece
  exact not_mem_of_mem_splitOn (List.mem_of_mem_head? hpiece)

end File

/-- A file that is picked has a name that is taken for one of a data file. -/
theorem dataFile?_eq_some {disk : Disk} {folder path : String}
    (h : dataFile? disk folder = some path) :
    ∃ name, path = join folder name ∧ '/' ∉ name.toList ∧ isSupportedFile name = true := by
  unfold dataFile? at h
  split at h
  · obtain ⟨name, hname, rfl⟩ := Option.map_eq_some_iff.mp h
    have hmem := List.mem_mergeSort.mp (List.mem_of_find?_eq_some hname)
    have hholds := List.find?_some hname
    rw [holdsData, Bool.and_eq_true] at hholds
    exact ⟨name, rfl, slash_not_mem_of_mem_names hmem, hholds.1⟩
  · cases h

/-- A file that cannot be read is no answer to any question. -/
theorem submit_of_unreadable {s : Setup} {a : Assistant} {question : Cell} {path : String}
    {fault : Fault} (hgiven : Inquiry.isBlank question = false)
    (hfile : dataFile? a.disk s.uploads = some path) (hrows : readRows a.disk path = .error fault) :
    (a.submit s question).1 =
      .error (Inquiry.internal "Failed to process data file" fault.message) := by
  have hload : loadTable a.disk path = .error (.fault fault) := by
    unfold loadTable
    rw [hrows]
  rw [(Assistant.Course.unread hgiven hfile hload).submit_eq]
  rfl

/-! ## Taken and read -/

theorem isSome_reader?_join_iff {name : String} (hname : '/' ∉ name.toList) (folder : String) :
    (reader? (join folder name)).isSome = true ↔ isSupportedFile name = true ∧ HasStem name := by
  rw [Option.isSome_iff_exists, isSupportedFile_iff, and_comm]
  simp only [reader?_join_iff hname, exists_and_left]

/-- **Which names are taken, and which can be read.** A file in a folder has a reader exactly when
its name is taken for one of a data file and has a stem, that is, something else than dots before
its last dot; the reader is the one that its ending speaks of. So every name that can be read is
taken, and of a file that is picked the kind is refused exactly when its name has no stem. -/
theorem reader?_join_iff_supported (disk : Disk) (folder : String) :
    (∀ name : String, '/' ∉ name.toList →
      ((reader? (join folder name)).isSome = true ↔
        isSupportedFile name = true ∧ HasStem name) ∧
      (∀ r, reader? (join folder name) = some r ↔ HasStem name ∧ r.Ends name) ∧
      ((∃ kind, readRows disk (join folder name) = .error (.fileKind kind)) ↔
        ¬ (isSupportedFile name = true ∧ HasStem name))) ∧
    ∀ path, dataFile? disk folder = some path →
      ∃ name, path = join folder name ∧ '/' ∉ name.toList ∧ isSupportedFile name = true ∧
        ((∃ kind, readRows disk path = .error (.fileKind kind)) ↔ ¬ HasStem name) := by
  have hkind (name : String) (hname : '/' ∉ name.toList) :
      (∃ kind, readRows disk (join folder name) = .error (.fileKind kind)) ↔
        ¬ (isSupportedFile name = true ∧ HasStem name) := by
    rw [readRows_eq_fileKind_iff, ← isSome_reader?_join_iff hname folder, Bool.not_eq_true,
      Option.isSome_eq_false_iff, Option.isNone_iff_eq_none]
  refine ⟨fun name hname => ⟨isSome_reader?_join_iff hname folder, reader?_join_iff hname folder,
    hkind name hname⟩, fun path hpath => ?_⟩
  obtain ⟨name, rfl, hname, hsupported⟩ := dataFile?_eq_some hpath
  refine ⟨name, rfl, hname, hsupported, ?_⟩
  rw [hkind name hname, and_iff_right hsupported]

/-- A folder in which the only file has a name that starts with a dot. -/
def dottedDisk : Disk := ⟨"/", [("/uploads/.sales.Csv", .file (.text "a\n1\n"))]⟩

/-- A dot at the start does no harm while something else stands before the ending. -/
theorem reader?_join_dottedDisk :
    '/' ∉ ".sales.Csv".toList ∧ dataFile? dottedDisk "/uploads" = some "/uploads/.sales.Csv" ∧
      isSupportedFile ".sales.Csv" = true ∧
      reader? (join "/uploads" ".sales.Csv") = some .delimited ∧
      ∀ kind, readRows dottedDisk "/uploads/.sales.Csv" ≠ .error (.fileKind kind) := by
  have hslash : '/' ∉ ".sales.Csv".toList := by decide
  have hpath : dataFile? dottedDisk "/uploads" = some "/uploads/.sales.Csv" := by decide +kernel
  have hjoin : join "/uploads" ".sales.Csv" = "/uploads/.sales.Csv" := by decide +kernel
  have hstem : HasStem ".sales.Csv" :=
    ⟨".sales".toList, "Csv".toList, rfl, by decide, 's', by decide, by decide⟩
  have hends : Reader.delimited.Ends ".sales.Csv" := ⟨".csv", by decide, by decide +kernel⟩
  obtain ⟨hnames, -⟩ := reader?_join_iff_supported dottedDisk "/uploads"
  obtain ⟨hsome, hreader, hkind⟩ := hnames _ hslash
  have hread := (hreader .delimited).mpr ⟨hstem, hends⟩
  have hsupported := hsome.mp (by rw [hread]; rfl)
  refine ⟨hslash, hpath, hsupported.1, hread, fun kind h => ?_⟩
  rw [← hjoin] at h
  exact hkind.mp ⟨kind, h⟩ hsupported

/-- A folder with a data file, and with one whose name is nothing but an ending. -/
def strayDisk : Disk := ⟨"/", [("/uploads/.csv", .file (.text "a\n1\n")),
  ("/uploads/data.csv", .file (.text "a\n1\n"))]⟩

theorem dataFile?_strayDisk : dataFile? strayDisk "/uploads" = some "/uploads/.csv" := by
  have hnames : strayDisk.names "/uploads" = [".csv", "data.csv"] := by decide +kernel
  have hsorted : sortedNames strayDisk "/uploads" = [".csv", "data.csv"] := by
    rw [sortedNames, hnames]
    exact List.mergeSort_of_pairwise (by decide +kernel)
  have hfolder : strayDisk.isFolder "/uploads" = true := by decide +kernel
  rw [dataFile?, if_pos hfolder, hsorted]
  decide +kernel

/-- The name is taken, and comes first, but cannot be read: no question has an answer. -/
theorem submit_strayDisk :
    '/' ∉ ".csv".toList ∧ isSupportedFile ".csv" = true ∧
      reader? (join "/uploads" ".csv") = none ∧
      dataFile? strayDisk "/uploads" = some "/uploads/.csv" ∧
      readRows strayDisk "/uploads/.csv" = .error (.fileKind "/uploads/.csv") ∧
      Fault.message (.fileKind "/uploads/.csv") = "Unsupported data file type: /uploads/.csv" ∧
      ∀ question, Inquiry.isBlank question = false →
        ((Assistant.start strayDisk).submit sampleSetup question).1 = .error
          (Inquiry.internal "Failed to process data file"
            (Fault.message (.fileKind "/uploads/.csv"))) := by
  have hreader : reader? "/uploads/.csv" = none := by decide +kernel
  have hjoin : join "/uploads" ".csv" = "/uploads/.csv" := by decide +kernel
  have hextension : extension "/uploads/.csv" = "" := by decide +kernel
  have hrows := readRows_of_no_extension strayDisk hextension
  exact ⟨by decide, by decide +kernel, by rw [hjoin, hreader], dataFile?_strayDisk, hrows,
    by decide +kernel, fun _ hgiven => submit_of_unreadable hgiven dataFile?_strayDisk hrows⟩

end AskTable
