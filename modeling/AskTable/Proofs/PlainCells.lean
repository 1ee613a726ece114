import AskTable.Proofs.Plans
import AskTable.Proofs.StrictJson
import AskTable.Report.Plain
import Mathlib.Data.List.Forall2

/-!
# Documents of cells

A cell is turned into a document part by part. Every number but a decimal is looked at before it is
written, so whether there is a document, and a strict one, depends on the decimals alone.

* `Cell.parts`, `Cell.keptParts`: the parts of a cell that are turned into documents, and those of
  them that are kept; of values under one name the last is kept.
* `Within`: a decimal is somewhere among these parts; `Cell.induction` goes through them.
* `exists_plain_iff`: there is a document exactly when no decimal is a signalling one.
* `isStrict_iff`: it is strict exactly when all decimals that are kept are finite as binary numbers.
* `Cell.IsWritable`: no whole number in the cell is too long for a text; `HasWritableKeys`: this holds
  of every key in it.
* `Json.cell`: a document as a cell; `plain_cell`: a strict one is turned into itself.
* `Cell.IsConvertible`: all of this together; `strict_iff_isConvertible`.
-/

namespace AskTable

open AskTable.Number AskTable.Question

/-! ## Documents in sequence -/

theorem mapM_eq_ok {ε α β : Type} {f : α → Except ε β} {as : List α} {bs : List β} :
    as.mapM f = .ok bs ↔ List.Forall₂ (fun a b => f a = .ok b) as bs := by
  induction as generalizing bs with
  | nil => cases bs <;> simp [pure, Except.pure]
  | cons a as ih =>
    rw [List.mapM_cons, bind_eq_ok]
    constructor
    · rintro ⟨b, hb, hrest⟩
      obtain ⟨rest, hm, hr⟩ := bind_eq_ok.mp hrest
      cases hr
      exact .cons hb (ih.mp hm)
    · rintro (_ | ⟨hb, hrest⟩)
      exact ⟨_, hb, bind_eq_ok.mpr ⟨_, ih.mpr hrest, rfl⟩⟩

/-- What holds of all results is told by what is turned into them. -/
theorem forall_mem_iff_of_forall₂ {α β : Type} {R : α → β → Prop} {p : α → Prop} {q : β → Prop}
    {as : List α} {bs : List β} (h : List.Forall₂ R as bs)
    (hpq : ∀ a ∈ as, ∀ b, R a b → (q b ↔ p a)) : (∀ b ∈ bs, q b) ↔ ∀ a ∈ as, p a := by
  induction h with
  | nil => simp
  | cons hab _ ih =>
    rw [List.forall_mem_cons, List.forall_mem_cons, hpq _ List.mem_cons_self _ hab,
      ih fun a ha => hpq a (List.mem_cons_of_mem _ ha)]

namespace Entries

variable {α β γ κ : Type} [DecidableEq κ] {keyOf : α → κ} {R : β → γ → Prop}

/-- Entries with the same keys and related values. -/
abbrev Alike (R : β → γ → Prop) (entries : List (α × β)) (others : List (α × γ)) : Prop :=
  List.Forall₂ (fun e o => e.1 = o.1 ∧ R e.2 o.2) entries others

theorem Alike.put {entries : List (α × β)} {others : List (α × γ)} (h : Alike R entries others)
    {e : α × β} {o : α × γ} (heo : e.1 = o.1 ∧ R e.2 o.2) :
    Alike R (put keyOf e.1 e.2 entries) (put keyOf o.1 o.2 others) := by
  induction h with
  | nil => exact .cons heo .nil
  | cons hfirst hrest ih =>
    rw [Entries.put, Entries.put, hfirst.1, heo.1]
    split
    · exact .cons ⟨rfl, heo.2⟩ hrest
    · exact .cons hfirst (heo.1 ▸ ih)

/-- Which values are put in which places depends on the keys alone. -/
theorem Alike.putAll {pairs entries : List (α × β)} {others more : List (α × γ)}
    (h : Alike R pairs others) (hentries : Alike R entries more) :
    Alike R (putAll keyOf pairs entries) (putAll keyOf others more) := by
  induction h generalizing entries more with
  | nil => exact hentries
  | cons heo _ ih => exact ih (hentries.put heo)

theorem value_mem_of_mem_put {a : α} {v : β} {entries : List (α × β)} {e : α × β}
    (h : e ∈ put keyOf a v entries) : e.2 = v ∨ e.2 ∈ entries.map (·.2) := by
  induction entries with
  | nil => exact Or.inl (List.mem_singleton.mp h ▸ rfl)
  | cons o entries ih =>
    rw [put] at h
    rw [List.map_cons, List.mem_cons]
    split at h
    · rcases List.mem_cons.mp h with rfl | h
      · exact Or.inl rfl
      · exact Or.inr (Or.inr (List.mem_map_of_mem h))
    · rcases List.mem_cons.mp h with rfl | h
      · exact Or.inr (Or.inl rfl)
      · exact (ih h).imp_right Or.inr

/-- No value is put that was not there. -/
theorem value_mem_of_mem_putAll {pairs entries : List (α × β)} {e : α × β}
    (h : e ∈ putAll keyOf pairs entries) :
    e.2 ∈ pairs.map (·.2) ∨ e.2 ∈ entries.map (·.2) := by
  induction pairs generalizing entries with
  | nil => exact Or.inr (List.mem_map_of_mem h)
  | cons p pairs ih =>
    rw [List.map_cons, List.mem_cons]
    rcases ih h with h | h
    · exact Or.inl (Or.inr h)
    · obtain ⟨o, ho, heq⟩ := List.mem_map.mp h
      rcases value_mem_of_mem_put ho with hv | hv
      · exact Or.inl (Or.inl (heq ▸ hv))
      · exact Or.inr (heq ▸ hv)

end Entries

/-! ## The parts of a cell -/

namespace Cell

/-- The values of a dictionary by the texts of their keys; of several under one text, the last. -/
def members (entries : List (Cell × Cell)) : List (String × Cell) :=
  Entries.putAll id (entries.map fun e => (e.1.plainText, e.2)) []

/-- The parts of a cell that are turned into documents. -/
def parts : Cell → List Cell
  | .boxed c => [c]
  | .list cells | .tuple cells => cells
  | .dict entries => entries.map (·.2)
  | .frame f => (f.records.take previewRows).flatten.map (·.2)
  | _ => []

/-- The parts of a cell that are kept in its document. -/
def keptParts : Cell → List Cell
  | .boxed c => [c]
  | .list cells | .tuple cells => cells
  | .dict entries => (members entries).map (·.2)
  | .frame f => ((f.records.take previewRows).flatMap members).map (·.2)
  | _ => []

theorem value_mem_of_mem_members {entries : List (Cell × Cell)} {m : String × Cell}
    (h : m ∈ members entries) : m.2 ∈ entries.map (·.2) := by
  rcases Entries.value_mem_of_mem_putAll h with h | h
  · simpa using h
  · cases h

theorem keptParts_subset (c : Cell) : c.keptParts ⊆ c.parts := by
  intro p hp
  cases c with
  | dict entries =>
    obtain ⟨m, hm, rfl⟩ := List.mem_map.mp hp
    exact value_mem_of_mem_members hm
  | frame f =>
    obtain ⟨m, hm, rfl⟩ := List.mem_map.mp hp
    obtain ⟨r, hr, hm⟩ := List.mem_flatMap.mp hm
    obtain ⟨e, he, heq⟩ := List.mem_map.mp (value_mem_of_mem_members hm)
    exact List.mem_map.mpr ⟨e, List.mem_flatten.mpr ⟨r, hr, he⟩, heq⟩
  | _ => exact hp

theorem sizeOf_snd_lt {entries : List (Cell × Cell)} {e : Cell × Cell} (h : e ∈ entries) :
    sizeOf e.2 < sizeOf entries := by
  have hlt := List.sizeOf_lt_of_mem h
  have hpair : sizeOf e = 1 + sizeOf e.1 + sizeOf e.2 := rfl
  omega

theorem sizeOf_lt_of_mem_parts {c p : Cell} (h : p ∈ c.parts) : sizeOf p < sizeOf c := by
  cases c with
  | boxed c =>
    cases List.mem_singleton.mp h
    simp
  | list cells | tuple cells =>
    have hlt : sizeOf p < sizeOf cells := List.sizeOf_lt_of_mem h
    simp
    omega
  | dict entries =>
    obtain ⟨e, he, rfl⟩ := List.mem_map.mp h
    have hlt := sizeOf_snd_lt he
    simp
    omega
  | frame f =>
    obtain ⟨e, he, rfl⟩ := List.mem_map.mp h
    obtain ⟨r, hr, he⟩ := List.mem_flatten.mp he
    have hlt := sizeOf_snd_lt he
    have hrecord := List.sizeOf_lt_of_mem (List.mem_of_mem_take hr)
    have hframe : sizeOf f = 1 + sizeOf f.records + sizeOf f.text := rfl
    simp
    omega
  | _ => cases h

/-- What holds of a cell when it holds of its parts holds of every cell. -/
theorem induction {P : Cell → Prop} (h : ∀ c, (∀ p ∈ c.parts, P p) → P c) (c : Cell) : P c :=
  h c fun p _ => induction h p
termination_by sizeOf c
decreasing_by
  rename_i hp
  exact sizeOf_lt_of_mem_parts hp

end Cell

/-- A decimal is somewhere among the parts of a cell. -/
inductive Within (parts : Cell → List Cell) (d : Decimal) : Cell → Prop
  | here : Within parts d (.decimal d)
  | part {c p : Cell} : p ∈ parts c → Within parts d p → Within parts d c

theorem forall_within_iff {parts : Cell → List Cell} {P : Decimal → Prop} (c : Cell) :
    (∀ d, Within parts d c → P d) ↔
      (∀ d, c = .decimal d → P d) ∧ ∀ p ∈ parts c, ∀ d, Within parts d p → P d := by
  constructor
  · intro h
    refine ⟨?_, fun p hp d hd => h d (.part hp hd)⟩
    rintro d rfl
    exact h d .here
  · rintro ⟨hhere, hparts⟩ d (_ | ⟨hp, hd⟩)
    · exact hhere d rfl
    · exact hparts _ hp d hd

namespace Cell

/-! ## The document of a cell -/

theorem plains_eq_mapM (cells : List Cell) : plains cells = cells.mapM plain := by
  induction cells with
  | nil => rfl
  | cons c cells ih => rw [plains, ih, List.mapM_cons]

/-- The member for an entry of a dictionary. -/
def plainMember (e : Cell × Cell) : Except Fault (String × Json) :=
  return (e.1.plainText, ← e.2.plain)

theorem plainEntries_eq_mapM (entries : List (Cell × Cell)) :
    plainEntries entries = entries.mapM plainMember := by
  induction entries with
  | nil => rfl
  | cons e entries ih =>
    rw [plainEntries, ih, List.mapM_cons, plainEntry, plainMember]

/-- The object for a record of a frame. -/
def plainRecord (r : List (Cell × Cell)) : Except Fault Json :=
  return .object (← r.mapM plainMember)

theorem plainRecords_eq_mapM (count : Nat) (records : List (List (Cell × Cell))) :
    plainRecords count records = (records.take count).mapM plainRecord := by
  induction records generalizing count with
  | nil => simp [plainRecords, pure, Except.pure]
  | cons r records ih =>
    cases count with
    | zero => rfl
    | succ count =>
      rw [plainRecords, ih, List.take_succ_cons, List.mapM_cons, plainEntries_eq_mapM, plainRecord]
      cases r.mapM plainMember <;> rfl

theorem exists_return_iff {α β : Type} {x : Except Fault α} {f : α → β} :
    (∃ b, (do return f (← x)) = Except.ok (ε := Fault) b) ↔ ∃ a, x = .ok a := by
  simp only [bind_eq_ok]
  constructor
  · rintro ⟨b, a, ha, -⟩
    exact ⟨a, ha⟩
  · rintro ⟨a, ha⟩
    exact ⟨f a, a, ha, rfl⟩

theorem exists_plainMembers_iff (entries : List (Cell × Cell)) :
    (∃ ms, entries.mapM plainMember = .ok ms) ↔
      ∀ p ∈ entries.map (·.2), ∃ j, p.plain = .ok j := by
  rw [exists_mapM_eq_ok, List.forall_mem_map]
  simp only [plainMember, exists_return_iff]

/-- A cell has a document exactly when its parts have, unless it is a decimal. -/
theorem exists_plain_iff_parts (c : Cell) : (∃ j, c.plain = .ok j) ↔
    (∀ d, c = .decimal d → d.toBinary64? ≠ none) ∧ ∀ p ∈ c.parts, ∃ j, p.plain = .ok j := by
  cases c with
  | boxed c => simp [plain, parts]
  | list cells | tuple cells =>
    rw [plain, plains_eq_mapM, exists_return_iff, exists_mapM_eq_ok]
    simp [parts]
  | dict entries =>
    rw [plain, plainEntries_eq_mapM, exists_return_iff, exists_plainMembers_iff]
    simp [parts]
  | frame f =>
    rw [plain, plainRecords_eq_mapM, exists_return_iff, exists_mapM_eq_ok]
    simp only [plainRecord, exists_return_iff, exists_plainMembers_iff]
    constructor
    · intro h
      refine ⟨by simp, fun p hp => ?_⟩
      obtain ⟨e, he, rfl⟩ := List.mem_map.mp hp
      obtain ⟨r, hr, he⟩ := List.mem_flatten.mp he
      exact h r hr e.2 (List.mem_map_of_mem he)
    · rintro ⟨-, h⟩ r hr p hp
      obtain ⟨e, he, rfl⟩ := List.mem_map.mp hp
      exact h e.2 (List.mem_map.mpr ⟨e, List.mem_flatten.mpr ⟨r, hr, he⟩, rfl⟩)
  | decimal d =>
    simp only [plain, scalarPlain]
    cases h : d.toBinary64? with
    | none => simp [h]
    | some x => simp [parts, h]
  | stamp m => cases m <;> simp [plain, scalarPlain, parts]
  | _ => simp [plain, scalarPlain, parts]

/-- **There is a document** of a cell exactly when no decimal in it is a signalling one. -/
theorem exists_plain_iff (c : Cell) :
    (∃ j, c.plain = .ok j) ↔ ∀ d, Within parts d c → d.toBinary64? ≠ none := by
  induction c using Cell.induction with
  | h c ih =>
    rw [exists_plain_iff_parts, forall_within_iff]
    exact and_congr_right fun _ => forall₂_congr ih

/-! ## Strict documents -/

/-- A decimal that can be converted is a finite binary number then. -/
def IsFinite (d : Decimal) : Prop := ∀ x, d.toBinary64? = some x → x.isFinite = true

theorem isStrict_finiteOrNull (x : Binary64) : (finiteOrNull x).IsStrict := by
  unfold finiteOrNull
  split
  · exact .float ‹_›
  · exact .null

/-- Of the values without parts only a decimal may have a document that is not strict. -/
theorem isStrict_scalarPlain_iff {c : Cell} {j : Json} (h : c.scalarPlain = .ok j) :
    j.IsStrict ↔ ∀ d, c = .decimal d → IsFinite d := by
  cases c with
  | decimal d =>
    rw [scalarPlain] at h
    split at h
    · rename_i x hx
      cases h
      rw [Json.isStrict_float_iff]
      constructor
      · rintro hfinite _ hd y hy
        cases hd
        cases hx.symm.trans hy
        exact hfinite
      · exact fun hfinite => hfinite d rfl x hx
    · cases h
  | float x | wordFloat x =>
    cases h
    exact iff_of_true (isStrict_finiteOrNull x) (by simp)
  | bool b | wordBool b =>
    cases h
    exact iff_of_true (.bool b) (by simp)
  | int n | wordInt n =>
    cases h
    exact iff_of_true (.int n) (by simp)
  | null =>
    cases h
    exact iff_of_true .null (by simp)
  | stamp m =>
    cases m <;> cases h <;> exact iff_of_true (.text _) (by simp)
  | _ =>
    cases h
    exact iff_of_true (.text _) (by simp)

/-- The members of a record in its document stand for the ones that are kept. -/
theorem isStrict_object_iff_members {entries : List (Cell × Cell)} {ms : List (String × Json)}
    (h : entries.mapM plainMember = .ok ms)
    (ih : ∀ m ∈ members entries, ∀ j, m.2.plain = .ok j →
      (j.IsStrict ↔ ∀ d, Within keptParts d m.2 → IsFinite d)) :
    (Json.object ms).IsStrict ↔
      ∀ m ∈ members entries, ∀ d, Within keptParts d m.2 → IsFinite d := by
  have halike : Entries.Alike (fun c j => c.plain = .ok j)
      (entries.map fun e => (e.1.plainText, e.2)) ms := by
    refine List.forall₂_map_left_iff.mpr ((mapM_eq_ok.mp h).imp fun e m hm => ?_)
    obtain ⟨j, hj, hmember⟩ := bind_eq_ok.mp hm
    cases hmember
    exact ⟨rfl, hj⟩
  rw [Json.isStrict_object_iff]
  exact forall_mem_iff_of_forall₂ (halike.putAll .nil) fun m hm o ho => ih m hm o.2 ho.2

/-- A document is strict exactly when the decimals that are kept in it are finite. -/
theorem isStrict_iff {c : Cell} {j : Json} (h : c.plain = .ok j) :
    j.IsStrict ↔ ∀ d, Within keptParts d c → IsFinite d := by
  induction c using Cell.induction generalizing j with
  | h c ih =>
    -- the induction is on all parts, and only those that are kept have a place in the document
    have ihkept : ∀ p ∈ c.keptParts, ∀ i, p.plain = .ok i →
        (i.IsStrict ↔ ∀ d, Within keptParts d p → IsFinite d) :=
      fun p hp i hi => ih p (c.keptParts_subset hp) hi
    rw [forall_within_iff]
    cases c with
    | boxed c =>
      rw [plain] at h
      rw [ihkept c (List.mem_singleton_self c) j h]
      simp [keptParts]
    | list cells | tuple cells =>
      rw [plain, plains_eq_mapM] at h
      obtain ⟨items, hitems, hlist⟩ := bind_eq_ok.mp h
      cases hlist
      rw [Json.isStrict_list_iff, forall_mem_iff_of_forall₂ (mapM_eq_ok.mp hitems) ihkept]
      simp [keptParts]
    | dict entries =>
      rw [plain, plainEntries_eq_mapM] at h
      obtain ⟨ms, hms, hobject⟩ := bind_eq_ok.mp h
      cases hobject
      rw [isStrict_object_iff_members hms fun m hm => ihkept m.2 (List.mem_map_of_mem hm),
        and_iff_right (by simp), keptParts, List.forall_mem_map]
    | frame f =>
      rw [plain, plainRecords_eq_mapM] at h
      obtain ⟨items, hitems, hlist⟩ := bind_eq_ok.mp h
      cases hlist
      have hrecord : ∀ r ∈ f.records.take previewRows, ∀ i, plainRecord r = .ok i →
          (i.IsStrict ↔ ∀ m ∈ members r, ∀ d, Within keptParts d m.2 → IsFinite d) := by
        intro r hr i hi
        obtain ⟨ms, hms, hobject⟩ := bind_eq_ok.mp hi
        cases hobject
        refine isStrict_object_iff_members hms fun m hm => ihkept m.2 ?_
        exact List.mem_map_of_mem (List.mem_flatMap.mpr ⟨r, hr, hm⟩)
      rw [Json.isStrict_list_iff, forall_mem_iff_of_forall₂ (mapM_eq_ok.mp hitems) hrecord,
        and_iff_right (by simp), keptParts, List.forall_mem_map]
      simp only [List.mem_flatMap, forall_exists_index, and_imp]
      exact ⟨fun hall m r hr hm => hall r hr m hm, fun hall r hr m hm => hall m r hr hm⟩
    | _ =>
      simp only [plain] at h
      rw [isStrict_scalarPlain_iff h]
      simp [keptParts]

/-- Every decimal that is looked at can be converted, and those that are kept are finite then. -/
structure IsConvertible (c : Cell) : Prop where
  read : ∀ d, Within parts d c → d.toBinary64? ≠ none
  kept : ∀ d, Within keptParts d c → IsFinite d

/-! ## Cells with a text -/

/-- The entries of a dictionary, and those of the records of a frame. -/
def entries : Cell → List (Cell × Cell)
  | .dict entries => entries
  | .frame f => f.records.flatten
  | _ => []

/-- The cells that a cell is made of, its keys included. -/
def contents : Cell → List Cell
  | .boxed c => [c]
  | .list cells | .tuple cells => cells
  | c => c.entries.flatMap fun e => [e.1, e.2]

/-- A cell is another one, or it stands somewhere inside it. -/
inductive Occurs (d : Cell) : Cell → Prop
  | here : Occurs d d
  | inside {c e : Cell} : e ∈ c.contents → Occurs d e → Occurs d c

/-- No whole number in the cell has more digits than may be written. The text of any other cell is
refused, although `plainText` gives one, so what depends on texts is told of these. -/
def IsWritable (c : Cell) : Prop := ∀ n, Occurs (.int n) c → n.natAbs < tenTo maxDigits

/-- Every key in the cell is writable. -/
def HasWritableKeys (c : Cell) : Prop := ∀ d, Occurs d c → ∀ e ∈ d.entries, e.1.IsWritable

theorem Occurs.trans {c d e : Cell} (h : Occurs c d) (hd : Occurs d e) : Occurs c e := by
  induction hd with
  | here => exact h
  | inside hmem _ ih => exact .inside hmem ih

theorem isWritable_iff {c : Cell} : c.IsWritable ↔
    (∀ n, c = .int n → n.natAbs < tenTo maxDigits) ∧ ∀ d ∈ c.contents, d.IsWritable := by
  constructor
  · intro h
    refine ⟨?_, fun d hd n hn => h n (.inside hd hn)⟩
    rintro n rfl
    exact h n .here
  · rintro ⟨hint, hcontents⟩ n (_ | ⟨hd, hn⟩)
    · exact hint n rfl
    · exact hcontents _ hd n hn

/-- A writable cell has writable keys. -/
theorem IsWritable.hasWritableKeys {c : Cell} (h : c.IsWritable) : c.HasWritableKeys := by
  intro d hd e he n hn
  have hkey : e.1 ∈ d.contents := by
    cases d with
    | dict | frame => exact List.mem_flatMap.mpr ⟨e, he, List.mem_cons_self⟩
    | _ => cases he
  exact h n ((Occurs.inside hkey hn).trans hd)

@[simp]
theorem isWritable_text (s : String) : (Cell.text s).IsWritable :=
  isWritable_iff.mpr ⟨nofun, nofun⟩

@[simp]
theorem isWritable_float (x : Binary64) : (Cell.float x).IsWritable :=
  isWritable_iff.mpr ⟨nofun, nofun⟩

@[simp]
theorem isWritable_decimal (d : Decimal) : (Cell.decimal d).IsWritable :=
  isWritable_iff.mpr ⟨nofun, nofun⟩

theorem isWritable_list_iff {cells : List Cell} :
    (Cell.list cells).IsWritable ↔ ∀ d ∈ cells, d.IsWritable :=
  isWritable_iff.trans (and_iff_right nofun)

theorem isWritable_dict_iff {entries : List (Cell × Cell)} :
    (Cell.dict entries).IsWritable ↔ ∀ e ∈ entries, e.1.IsWritable ∧ e.2.IsWritable := by
  rw [isWritable_iff, and_iff_right nofun]
  simp only [contents, Cell.entries, List.mem_flatMap, List.mem_cons, List.not_mem_nil, or_false]
  constructor
  · exact fun h e he => ⟨h _ ⟨e, he, Or.inl rfl⟩, h _ ⟨e, he, Or.inr rfl⟩⟩
  · rintro h d ⟨e, he, rfl | rfl⟩
    · exact (h e he).1
    · exact (h e he).2

end Cell

/-! ## Documents as cells -/

namespace Json

mutual

/-- A document as a cell: an object is a dictionary with texts as its keys. -/
def cell : Json → Cell
  | .null => .null
  | .bool b => .bool b
  | .int n => .int n
  | .float x => .float x
  | .text s => .text s
  | .list items => .list (cells items)
  | .fields members => .dict (cellEntries members)

def cells : List Json → List Cell
  | [] => []
  | j :: items => cell j :: cells items

def cellEntries : List (String × Json) → List (Cell × Cell)
  | [] => []
  | m :: members => cellEntry m :: cellEntries members

def cellEntry : String × Json → Cell × Cell
  | (name, value) => (.text name, cell value)

end

theorem cells_eq_map (items : List Json) : cells items = items.map cell := by
  induction items with
  | nil => rfl
  | cons j items ih => rw [cells, ih, List.map_cons]

theorem cellEntries_eq_map (members : List (String × Json)) :
    cellEntries members = members.map fun m => (.text m.1, m.2.cell) := by
  induction members with
  | nil => rfl
  | cons m members ih => rw [cellEntries, ih, cellEntry, List.map_cons]

/-- **A strict document** is turned into itself. -/
theorem IsStrict.plain_cell {j : Json} (h : j.IsStrict) : j.cell.plain = .ok j := by
  induction h with
  | null | bool | int | text => rfl
  | @float x hx =>
    have hplain : (Json.float x).cell.plain = .ok (finiteOrNull x) := rfl
    rw [hplain, finiteOrNull, if_pos hx]
  | @list items _ ih =>
    have hitems : (items.map cell).mapM Cell.plain = .ok items := by
      refine mapM_eq_ok.mpr (List.forall₂_map_left_iff.mpr (List.forall₂_same.mpr ih))
    rw [cell, Cell.plain, cells_eq_map, Cell.plains_eq_mapM, hitems]
    rfl
  | @fields members hnodup _ ih =>
    have hmembers : (members.map fun m => (Cell.text m.1, m.2.cell)).mapM Cell.plainMember =
        .ok members := by
      refine mapM_eq_ok.mpr (List.forall₂_map_left_iff.mpr (List.forall₂_same.mpr fun m hm => ?_))
      rw [Cell.plainMember, ih m hm]
      rfl
    have hobject : object members = .fields members := by
      rw [object, Entries.putAll_of_nodup (by simpa [Entries.keys] using hnodup), List.nil_append]
    rw [cell, Cell.plain, cellEntries_eq_map, Cell.plainEntries_eq_mapM, hmembers]
    exact congrArg Except.ok hobject

end Json

/-- **Documents of cells.** A cell is turned into a strict document, which is turned into itself,
exactly when it is convertible. -/
theorem Cell.strict_iff_isConvertible (c : Cell) :
    (∃ j, c.plain = .ok j ∧ j.IsStrict ∧ j.cell.plain = .ok j) ↔ c.IsConvertible := by
  constructor
  · rintro ⟨j, hj, hstrict, -⟩
    exact ⟨c.exists_plain_iff.mp ⟨j, hj⟩, (isStrict_iff hj).mp hstrict⟩
  · rintro ⟨hread, hkept⟩
    obtain ⟨j, hj⟩ := c.exists_plain_iff.mpr hread
    have hstrict := (isStrict_iff hj).mpr hkept
    exact ⟨j, hj, hstrict, hstrict.plain_cell⟩

end AskTable
