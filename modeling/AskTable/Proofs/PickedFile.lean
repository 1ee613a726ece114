import AskTable.Assistant.Session
import AskTable.Proofs.Rows
import Mathlib.Data.List.Perm.Basic

/-!
# The file that is picked

A folder lists its names in any order. They are sorted, and then the first one is taken that is the
name of a data file; so the pick is the least of these names, and no other name matters.

* `find?_eq_some_iff_least`: what is found first in a sorted list is the least that can be found.
* `Precedes`, `le_iff_precedes`: names are compared by their code points.
* `IsDataFile`: the name is listed, has the ending of a data file and is that of a file.
* `dataFile?_eq_none_iff`, `dataFile?_eq_some_iff`: when nothing is picked, and what is.
* `Disk.Reorders`: the same entries in another order; `Disk.Reorders.isDataFile_iff`: they hold the
  same data files.
* `dataFile?_least`: the pick and all that it depends on.
-/

namespace AskTable

open AskTable.File

/-! ## Sorted names -/

/-- What is found first in a sorted list is the least that can be found. -/
theorem find?_eq_some_iff_least {names : List String} (h : names.Pairwise (· ≤ ·))
    {p : String → Bool} {name : String} :
    names.find? p = some name ↔
      (name ∈ names ∧ p name = true) ∧ ∀ other ∈ names, p other = true → name ≤ other := by
  induction names with
  | nil => simp
  | cons first names ih =>
    obtain ⟨hfirst, hrest⟩ := List.pairwise_cons.mp h
    cases hp : p first with
    | true =>
      rw [List.find?_cons_of_pos hp, Option.some.injEq]
      constructor
      · rintro rfl
        refine ⟨⟨List.mem_cons_self, hp⟩, fun other hother _ => ?_⟩
        rcases List.mem_cons.mp hother with rfl | hother
        · exact String.le_refl _
        · exact hfirst other hother
      · rintro ⟨⟨hname, -⟩, hleast⟩
        rcases List.mem_cons.mp hname with rfl | hname
        · rfl
        · exact String.le_antisymm (hfirst name hname) (hleast first List.mem_cons_self hp)
    | false =>
      have hne {other : String} (hother : p other = true) : other ∈ first :: names ↔
          other ∈ names := by
        rw [List.mem_cons, or_iff_right]
        rintro rfl
        rw [hp] at hother
        cases hother
      rw [List.find?_cons_of_neg (by simp [hp]), ih hrest]
      constructor
      · rintro ⟨⟨hname, hpname⟩, hleast⟩
        exact ⟨⟨(hne hpname).mpr hname, hpname⟩,
          fun other hother hpother => hleast other ((hne hpother).mp hother) hpother⟩
      · rintro ⟨⟨hname, hpname⟩, hleast⟩
        exact ⟨⟨(hne hpname).mp hname, hpname⟩,
          fun other hother hpother => hleast other ((hne hpother).mpr hother) hpother⟩

theorem pairwise_mergeSort_le (names : List String) :
    (names.mergeSort fun a b => a ≤ b).Pairwise (· ≤ ·) := by
  have hsorted : (names.mergeSort fun a b => a ≤ b).Pairwise fun a b => decide (a ≤ b) = true := by
    refine List.pairwise_mergeSort (fun a b c hab hbc => ?_) (fun a b => ?_) names
    · rw [decide_eq_true_eq] at hab hbc ⊢
      exact String.le_trans hab hbc
    · rw [Bool.or_eq_true, decide_eq_true_eq, decide_eq_true_eq]
      exact String.le_total a b
  exact hsorted.imp fun hle => of_decide_eq_true hle

theorem mem_sortedNames {disk : Disk} {folder name : String} :
    name ∈ sortedNames disk folder ↔ name ∈ disk.names folder :=
  List.mem_mergeSort

/-- The code points of a text. -/
def codePoints (s : String) : List Nat := s.toList.map Char.toNat

/-- The first of two names has the smaller code point at the first place at which they differ, or
it is the front of the second one. -/
def Precedes (s t : String) : Prop := List.Lex (· < ·) (codePoints s) (codePoints t)

theorem precedes_of_lt {s t : String} (h : s < t) : Precedes s t := List.map_lt (fun _ _ h => h) h

theorem Precedes.not_precedes {s t : String} (h : Precedes s t) : ¬ Precedes t s :=
  List.lt_asymm h

/-- Names are compared by their code points. -/
theorem le_iff_precedes {s t : String} : s ≤ t ↔ (t ≠ s → Precedes s t) := by
  constructor
  · intro hle hne
    by_cases h : s < t
    · exact precedes_of_lt h
    · exact absurd (String.le_antisymm (String.not_lt.mp h) hle) hne
  · intro hprecedes
    rw [← String.not_lt]
    intro h
    have hne : t ≠ s := fun heq => String.lt_irrefl s (heq ▸ h)
    exact (hprecedes hne).not_precedes (precedes_of_lt h)

/-! ## The pick -/

/-- A folder lists the name, it has the ending of a data file, and it is that of a file. -/
structure IsDataFile (disk : Disk) (folder name : String) : Prop where
  listed : name ∈ disk.names folder
  supported : isSupportedFile name = true
  isFile : disk.isFile (join folder name) = true

theorem isDataFile_iff {disk : Disk} {folder name : String} :
    IsDataFile disk folder name ↔ name ∈ disk.names folder ∧ holdsData disk folder name = true := by
  rw [holdsData, Bool.and_eq_true]
  exact ⟨fun h => ⟨h.listed, h.supported, h.isFile⟩, fun h => ⟨h.1, h.2.1, h.2.2⟩⟩

/-- Nothing is picked where there is no folder, or no data file in it. -/
theorem dataFile?_eq_none_iff {disk : Disk} {folder : String} :
    dataFile? disk folder = none ↔
      disk.isFolder folder = false ∨ ∀ name, ¬ IsDataFile disk folder name := by
  rw [dataFile?]
  cases hfolder : disk.isFolder folder with
  | false => simp
  | true =>
    rw [if_pos rfl, Option.map_eq_none_iff, List.find?_eq_none, or_iff_right (by simp)]
    simp only [mem_sortedNames, isDataFile_iff, not_and]

/-- In a folder, the least name of a data file is picked. -/
theorem dataFile?_eq_some_iff {disk : Disk} {folder path : String} :
    dataFile? disk folder = some path ↔ disk.isFolder folder = true ∧
      ∃ name, path = join folder name ∧ IsDataFile disk folder name ∧
        ∀ other, IsDataFile disk folder other → other ≠ name → Precedes name other := by
  rw [dataFile?]
  cases hfolder : disk.isFolder folder with
  | false => simp
  | true =>
    have hsorted : (sortedNames disk folder).Pairwise (· ≤ ·) := pairwise_mergeSort_le _
    rw [if_pos rfl, Option.map_eq_some_iff, and_iff_right rfl]
    simp only [find?_eq_some_iff_least hsorted, mem_sortedNames, ← le_iff_precedes,
      isDataFile_iff, and_imp]
    refine exists_congr fun name => ?_
    rw [and_comm, eq_comm]

/-! ## Entries in another order -/

theorem Entries.find?_perm {α β κ : Type} [DecidableEq κ] {keyOf : α → κ}
    {entries others : List (α × β)} (h : entries.Perm others) (hkeys : (keys keyOf entries).Nodup)
    (k : κ) : find? keyOf k entries = find? keyOf k others := by
  have hothers : (keys keyOf others).Nodup := (h.map _).nodup_iff.mp hkeys
  by_cases hk : k ∈ keys keyOf entries
  · obtain ⟨e, he, rfl⟩ := List.mem_map.mp hk
    rw [find?_of_mem hkeys he, find?_of_mem hothers (h.mem_iff.mp he)]
  · rw [find?_of_not_mem hk, find?_of_not_mem fun hk' => hk ((h.map _).mem_iff.mpr hk')]

namespace File.Disk

/-- Two disks have the same entries, one for each path, in any two orders. -/
structure Reorders (d d' : Disk) : Prop where
  workingFolder : d.workingFolder = d'.workingFolder
  entries : d.entries.Perm d'.entries
  distinct : (Entries.keys id d.entries).Nodup

variable {d d' : Disk}

theorem Reorders.entry?_eq (h : Reorders d d') (path : String) :
    d.entry? path = d'.entry? path := by
  unfold entry?
  rw [← h.workingFolder]
  exact Entries.find?_perm h.entries h.distinct _

theorem Reorders.below_eq (h : Reorders d d') (path : String) : d.below path = d'.below path := by
  rw [below, below, h.workingFolder]

theorem Reorders.isFile_eq (h : Reorders d d') (path : String) :
    d.isFile path = d'.isFile path := by
  rw [isFile, isFile, h.entry?_eq]

theorem Reorders.isFolder_eq (h : Reorders d d') (path : String) :
    d.isFolder path = d'.isFolder path := by
  have hany (p : String × Entry → Bool) : d.entries.any p = d'.entries.any p := h.entries.any_eq
  rw [isFolder, isFolder, h.entry?_eq, h.below_eq, hany]

theorem Reorders.mem_names_iff (h : Reorders d d') {folder name : String} :
    name ∈ d.names folder ↔ name ∈ d'.names folder := by
  rw [names, names, List.mem_eraseDups, List.mem_eraseDups, h.below_eq]
  exact (h.entries.filterMap _).mem_iff

/-- Disks with the same entries have the same data files. -/
theorem Reorders.isDataFile_iff (h : Reorders d d') {folder name : String} :
    IsDataFile d folder name ↔ IsDataFile d' folder name := by
  rw [AskTable.isDataFile_iff, AskTable.isDataFile_iff, h.mem_names_iff, holdsData, holdsData,
    h.isFile_eq]

end File.Disk

/-- Folders with the same data files have the same pick. -/
theorem dataFile?_congr {disk disk' : Disk} {folder : String}
    (hfolder : disk.isFolder folder = disk'.isFolder folder)
    (hnames : ∀ name, IsDataFile disk folder name ↔ IsDataFile disk' folder name) :
    dataFile? disk folder = dataFile? disk' folder := by
  refine Option.ext fun path => ?_
  rw [dataFile?_eq_some_iff, dataFile?_eq_some_iff, hfolder]
  simp only [hnames]

/-- **The pick does not depend on the listing.** Nothing is picked exactly where there is no folder
or no data file in it, and otherwise the path of the data file whose name is the least by its code
points. So any two folders with the same data files have the same pick, whatever else is in them,
and so have any two orders of the same entries. -/
theorem dataFile?_least (disk : Disk) (folder : String) :
    (dataFile? disk folder = none ↔
      disk.isFolder folder = false ∨ ∀ name, ¬ IsDataFile disk folder name) ∧
    (∀ path, dataFile? disk folder = some path ↔ disk.isFolder folder = true ∧
      ∃ name, path = join folder name ∧ IsDataFile disk folder name ∧
        ∀ other, IsDataFile disk folder other → other ≠ name → Precedes name other) ∧
    (∀ disk' : Disk, disk.isFolder folder = disk'.isFolder folder →
      (∀ name, IsDataFile disk folder name ↔ IsDataFile disk' folder name) →
        dataFile? disk folder = dataFile? disk' folder) ∧
    ∀ disk' : Disk, disk.Reorders disk' → dataFile? disk folder = dataFile? disk' folder :=
  ⟨dataFile?_eq_none_iff, fun _ => dataFile?_eq_some_iff, fun _ => dataFile?_congr,
    fun _ h => dataFile?_congr (h.isFolder_eq folder) fun _ => h.isDataFile_iff⟩

/-- Two data files, beside a folder and a file that come before both of them. -/
def mixedDisk : Disk := ⟨"/", [("/uploads/a.csv", .file (.text "x\n1\n")),
  ("/uploads/A.csv", .folder), ("/uploads/Z.CSV", .file (.text "x\n2\n")),
  ("/uploads/0.txt", .file (.text "x\n3\n"))]⟩

/-- The same entries the other way round. -/
def turnedDisk : Disk := ⟨"/", mixedDisk.entries.reverse⟩

/-- Capital letters come before small ones, and neither the folder nor the other file counts. -/
theorem dataFile?_mixedDisk :
    mixedDisk.isFolder "/uploads" = true ∧ IsDataFile mixedDisk "/uploads" "Z.CSV" ∧
      mixedDisk.Reorders turnedDisk ∧ mixedDisk.names "/uploads" ≠ turnedDisk.names "/uploads" ∧
      dataFile? mixedDisk "/uploads" = some "/uploads/Z.CSV" ∧
      dataFile? turnedDisk "/uploads" = some "/uploads/Z.CSV" := by
  have hfolder : mixedDisk.isFolder "/uploads" = true := by decide +kernel
  have hnames : mixedDisk.names "/uploads" = ["a.csv", "A.csv", "Z.CSV", "0.txt"] := by
    decide +kernel
  have hturned : turnedDisk.names "/uploads" = ["0.txt", "Z.CSV", "A.csv", "a.csv"] := by
    decide +kernel
  have hdata : IsDataFile mixedDisk "/uploads" "Z.CSV" :=
    ⟨by rw [hnames]; decide, by decide +kernel, by decide +kernel⟩
  have hreorders : mixedDisk.Reorders turnedDisk :=
    ⟨rfl, (List.reverse_perm _).symm, by decide⟩
  have hleast : ∀ other, IsDataFile mixedDisk "/uploads" other → other ≠ "Z.CSV" →
      Precedes "Z.CSV" other := by
    intro other hother hne
    have hmem := hother.listed
    have hfile := hother.isFile
    have hsupported := hother.supported
    rw [hnames] at hmem
    simp only [List.mem_cons, List.not_mem_nil, or_false] at hmem
    rcases hmem with rfl | rfl | rfl | rfl
    · exact precedes_of_lt (by decide)
    · exact absurd hfile (by decide +kernel)
    · exact absurd rfl hne
    · exact absurd hsupported (by decide +kernel)
  obtain ⟨-, hpick, -, hturn⟩ := dataFile?_least mixedDisk "/uploads"
  have hpicked : dataFile? mixedDisk "/uploads" = some "/uploads/Z.CSV" :=
    (hpick _).mpr ⟨hfolder, "Z.CSV", by decide +kernel, hdata, hleast⟩
  refine ⟨hfolder, hdata, hreorders, by rw [hnames, hturned]; decide, hpicked, ?_⟩
  rw [← hturn turnedDisk hreorders, hpicked]

end AskTable
