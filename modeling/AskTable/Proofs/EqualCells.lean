import AskTable.Proofs.PlainCells
import AskTable.Proofs.Quantities

/-!
# Equal cells

Cells of different kinds can be equal: numbers when they denote the same, whatever their kind, and
moments when they are at one place on the time line. The keys of cells tell exactly this, but for
numbers that are none: these have a key and are equal to nothing.

* `Magnitude`, `Cell.magnitude?`: what numbers denote.
* `Cell.Equal`: which cells are equal.
* `Atom.Denotes`: the atoms of numbers; `Denotes.unique`: each number has one.
* `HasKey`, `hasKey_of_key`: the keys of all kinds of cells.
* `dropCells`: the cells that keys in sequence begin with are found again.
* `equal_iff`: two cells with keys are equal exactly when their keys are, and no number in them is
  none.
-/

namespace AskTable

open AskTable.Calendar AskTable.Number AskTable.Question

/-! ## What numbers denote -/

/-- A rational number or an infinity. -/
inductive Magnitude where
  | finite (q : ℚ)
  | infinite (negative : Bool)

namespace Number

def Binary64.magnitude? : Binary64 → Option Magnitude
  | .nan => none
  | .infinite negative => some (.infinite negative)
  | .finite negative units => some (.finite (withSign negative (units * 2 ^ (-1074 : ℤ))))

def Decimal.magnitude? : Decimal → Option Magnitude
  | .nan .. => none
  | .infinite negative => some (.infinite negative)
  | .finite negative digits exponent =>
    some (.finite (withSign negative (digits * 10 ^ exponent)))

end Number

namespace Cell

/-- What a number denotes; a complex number without an imaginary part is its real part. -/
def magnitude? : Cell → Option Magnitude
  | .bool b | .wordBool b => some (.finite b.toNat)
  | .int n | .wordInt n => some (.finite n)
  | .float x | .wordFloat x => x.magnitude?
  | .decimal d => d.magnitude?
  | .complex re im => if im.isZero then re.magnitude? else none
  | _ => none

def moment? : Cell → Option Moment
  | .moment m => some m
  | .stamp m => m
  | _ => none

/-! ## Equality -/

/-- Equal values. Nothing is said of lists, dictionaries and frames, which are not told apart as
values, and a number that is none is not even equal to itself. -/
inductive Equal : Cell → Cell → Prop
  | null : Equal .null .null
  | number {a b : Cell} {m : Magnitude} :
    a.magnitude? = some m → b.magnitude? = some m → Equal a b
  | complex {re im re' im' : Binary64} {m n : Magnitude} :
    re.magnitude? = some m → re'.magnitude? = some m →
    im.magnitude? = some n → im'.magnitude? = some n → Equal (.complex re im) (.complex re' im')
  | text (s : String) : Equal (.text s) (.text s)
  | date (d : Date) : Equal (.date d) (.date d)
  | moment {a b : Cell} {m m' : Moment} :
    a.moment? = some m → b.moment? = some m' →
    m.offset.isSome = m'.offset.isSome → m.instant = m'.instant → Equal a b
  | noMoment : Equal (.stamp none) (.stamp none)
  | time {t t' : Daytime} :
    t.offset.isSome = t'.offset.isSome → t.instant = t'.instant → Equal (.time t) (.time t')
  | span (s : Span) : Equal (.span s) (.span s)
  | bytes (b : List UInt8) : Equal (.bytes b) (.bytes b)
  | uuid (n : Nat) : Equal (.uuid n) (.uuid n)
  | boxed {c c' : Cell} : c ≠ .float .nan → c' ≠ .float .nan →
    literal (.boxed c) = literal (.boxed c') → Equal (.boxed c) (.boxed c')
  | tuple {cells cells' : List Cell} :
    List.Forall₂ Equal cells cells' → Equal (.tuple cells) (.tuple cells')

end Cell

/-! ## The atoms of numbers -/

/-- The atom of a number: its quantity in lowest terms, or its infinity. -/
inductive Atom.Denotes : Atom → Magnitude → Prop
  | finite {q : Quantity} : q.IsNormal → Denotes (.number q) (.finite q.value)
  | infinite (negative : Bool) : Denotes (.infinite negative) (.infinite negative)

theorem Atom.Denotes.unique {a b : Atom} {m : Magnitude} (ha : a.Denotes m) (hb : b.Denotes m) :
    a = b := by
  cases ha with
  | finite hp =>
    generalize hm : Magnitude.finite _ = m at hb
    cases hb with
    | finite hq => rw [hp.eq_of_value_eq hq (Magnitude.finite.inj hm)]
    | infinite => cases hm
  | infinite =>
    cases hb
    rfl

theorem Atom.Denotes.injective {a : Atom} {m n : Magnitude} (hm : a.Denotes m)
    (hn : a.Denotes n) : m = n := by
  cases hm <;> cases hn <;> rfl

theorem Atom.Denotes.ne_nan {a : Atom} {m : Magnitude} (h : a.Denotes m) : a ≠ .nan := by
  cases h <;> simp

theorem denotes_integerAtom (n : Int) : (integerAtom n).Denotes (.finite n) := by
  have hvalue : (Quantity.of (n < 0) n.natAbs 0 0).value = n := by
    rw [Quantity.value_of, zpow_zero, zpow_zero, mul_one, mul_one, withSign]
    rcases lt_or_ge n 0 with hn | hn
    · simp [hn, abs_of_neg]
    · simpa [Int.not_lt.mpr hn] using hn
  exact hvalue ▸ .finite (Quantity.isNormal_of _ _ _ _)

theorem denotes_binaryAtom {x : Binary64} {m : Magnitude} (h : x.magnitude? = some m) :
    (binaryAtom x).Denotes m := by
  cases x with
  | nan => cases h
  | infinite negative =>
    cases h
    exact .infinite negative
  | finite negative units =>
    cases h
    have hvalue := Quantity.value_of negative units (-1074) 0
    rw [zpow_zero, mul_one] at hvalue
    exact hvalue ▸ .finite (Quantity.isNormal_of _ _ _ _)

theorem denotes_decimalAtom {d : Decimal} {m : Magnitude} (h : d.magnitude? = some m) :
    ∃ atom, decimalAtom? d = some atom ∧ atom.Denotes m := by
  cases d with
  | nan => cases h
  | infinite negative =>
    cases h
    exact ⟨_, rfl, .infinite negative⟩
  | finite negative digits exponent =>
    cases h
    have hvalue := Quantity.value_of negative digits exponent exponent
    have hten : (2 : ℚ) ^ exponent * 5 ^ exponent = 10 ^ exponent := by
      rw [← mul_zpow]
      norm_num
    rw [mul_assoc, hten] at hvalue
    exact ⟨_, rfl, hvalue ▸ .finite (Quantity.isNormal_of _ _ _ _)⟩

/-! ## The keys of cells -/

namespace Cell

/-- Every number but one that is none has its atom for a key. -/
theorem key_of_magnitude {c : Cell} {m : Magnitude} (h : c.magnitude? = some m) :
    ∃ atom, c.key = .ok [atom] ∧ atom.Denotes m := by
  cases c with
  | bool b | wordBool b =>
    cases h
    exact ⟨_, by rw [key], by exact_mod_cast denotes_integerAtom b.toNat⟩
  | int n | wordInt n =>
    cases h
    exact ⟨_, by rw [key], denotes_integerAtom n⟩
  | float x | wordFloat x => exact ⟨_, by rw [key], denotes_binaryAtom h⟩
  | decimal d =>
    obtain ⟨atom, hatom, hdenotes⟩ := denotes_decimalAtom h
    exact ⟨atom, by rw [key, hatom], hdenotes⟩
  | complex re im =>
    rw [magnitude?] at h
    split at h
    · rename_i hzero
      exact ⟨_, by rw [key, if_pos hzero], denotes_binaryAtom h⟩
    · cases h
  | _ => cases h

theorem key_of_moment {c : Cell} {m : Moment} (h : c.moment? = some m) :
    c.key = .ok [.instant m.offset.isSome m.instant] := by
  cases c with
  | moment => cases h; rw [key]
  | stamp => cases h; rw [key]
  | _ => cases h

theorem key_boxed {c : Cell} (h : c ≠ .float .nan) :
    (Cell.boxed c).key = .ok [.boxed (literal (.boxed c))] := by
  rw [key]
  exact h

/-- Several cells and the key of each. -/
abbrev HaveKeys : List Cell → List Key → Prop := List.Forall₂ fun c k => c.key = .ok k

/-- The keys of all kinds of cells. What is computed in a key stands in an equation, so that two
cells with one key can be compared by cases. -/
inductive HasKey : Cell → Key → Prop
  | null : HasKey .null [.null]
  | number {c : Cell} {m : Magnitude} {atom : Atom} :
    c.magnitude? = some m → atom.Denotes m → HasKey c [atom]
  | notNumber {c : Cell} : HasKey c [.nan]
  | complex {re im : Binary64} {a b : Atom} : im.isZero = false →
    binaryAtom re = a → binaryAtom im = b → HasKey (.complex re im) [.imaginary, a, b]
  | text (s : String) : HasKey (.text s) [.text s]
  | date (d : Date) : HasKey (.date d) [.date d]
  | moment {c : Cell} {m : Moment} {anchored : Bool} {nanos : Int} : c.moment? = some m →
    m.offset.isSome = anchored → m.instant = nanos → HasKey c [.instant anchored nanos]
  | noMoment : HasKey (.stamp none) [.noMoment]
  | time {t : Daytime} {anchored : Bool} {nanos : Int} :
    t.offset.isSome = anchored → t.instant = nanos → HasKey (.time t) [.daytime anchored nanos]
  | span (s : Span) : HasKey (.span s) [.span s]
  | bytes (b : List UInt8) : HasKey (.bytes b) [.bytes b]
  | uuid (n : Nat) : HasKey (.uuid n) [.uuid n]
  | boxed {c : Cell} {s : String} :
    c ≠ .float .nan → literal (.boxed c) = s → HasKey (.boxed c) [.boxed s]
  | tuple {cells : List Cell} {ks : List Key} {size : Nat} {atoms : Key} :
    HaveKeys cells ks →
    cells.length = size → ks.flatten = atoms → HasKey (.tuple cells) (.tuple size :: atoms)

/-- The keys of several cells are the key of each after the other. -/
theorem keys_eq_ok {cells : List Cell} {atoms : Key} (h : keys cells = .ok atoms) :
    ∃ ks, HaveKeys cells ks ∧ ks.flatten = atoms := by
  induction cells generalizing atoms with
  | nil =>
    cases h
    exact ⟨[], .nil, rfl⟩
  | cons c cells ih =>
    rw [keys] at h
    split at h
    · cases h
    · rename_i k hk
      split at h
      · rename_i rest hrest
        cases h
        obtain ⟨ks, hks, rfl⟩ := ih hrest
        exact ⟨k :: ks, .cons hk hks, rfl⟩
      · cases h

theorem key_tuple {cells : List Cell} {k : Key} (h : (Cell.tuple cells).key = .ok k) :
    ∃ ks, HaveKeys cells ks ∧
      .tuple cells.length :: ks.flatten = k := by
  rw [key] at h
  split at h
  · rename_i atoms hatoms
    cases h
    obtain ⟨ks, hks, rfl⟩ := keys_eq_ok hatoms
    exact ⟨ks, hks, rfl⟩
  · cases h

theorem hasKey_of_key {c : Cell} {k : Key} (h : c.key = .ok k) : HasKey c k := by
  have hnumber {m : Magnitude} (hm : c.magnitude? = some m) : HasKey c k := by
    obtain ⟨atom, hk, hdenotes⟩ := key_of_magnitude hm
    cases h.symm.trans hk
    exact .number hm hdenotes
  cases c with
  | null => cases h; exact .null
  | bool | wordBool | int | wordInt => exact hnumber rfl
  | float x | wordFloat x =>
    cases x with
    | nan => cases h; exact .notNumber
    | infinite | finite => exact hnumber rfl
  | decimal d =>
    rcases d with _ | _ | ⟨_, _ | _, _⟩
    · exact hnumber rfl
    · exact hnumber rfl
    · cases h; exact .notNumber
    · cases h
  | complex re im =>
    rw [key, Except.ok.injEq] at h
    cases hzero : im.isZero with
    | false =>
      rw [hzero] at h
      exact h ▸ .complex hzero rfl rfl
    | true =>
      rw [hzero] at h
      cases re with
      | nan => exact h ▸ .notNumber
      | infinite | finite => exact hnumber (by rw [magnitude?, hzero]; rfl)
  | text => cases h; exact .text _
  | date => cases h; exact .date _
  | moment => cases h; exact .moment rfl rfl rfl
  | stamp m =>
    cases m with
    | none => cases h; exact .noMoment
    | some m => cases h; exact .moment rfl rfl rfl
  | time => cases h; exact .time rfl rfl
  | span => cases h; exact .span _
  | bytes => cases h; exact .bytes _
  | uuid => cases h; exact .uuid _
  | boxed c =>
    by_cases hnan : c = .float .nan
    · subst hnan
      cases h
      exact .notNumber
    · rw [key_boxed hnan] at h
      cases h
      exact .boxed hnan rfl
  | tuple cells =>
    obtain ⟨ks, hks, rfl⟩ := key_tuple h
    exact .tuple hks rfl rfl
  | list | dict | frame => cases h

/-! ## Keys in sequence -/

/-- What is left of a sequence of keys after those of so many cells. -/
def dropCells : Nat → Key → Key
  | 0, atoms => atoms
  | _ + 1, [] => []
  | n + 1, .tuple size :: atoms => dropCells (n + size) atoms
  | n + 1, .imaginary :: atoms => dropCells (n + 2) atoms
  | n + 1, _ :: atoms => dropCells n atoms

theorem dropCells_zero (atoms : Key) : dropCells 0 atoms = atoms := by
  cases atoms <;> rfl

theorem dropCells_number {atom : Atom} {m : Magnitude} (h : atom.Denotes m) (n : Nat)
    (rest : Key) : dropCells (n + 1) (atom :: rest) = dropCells n rest := by
  cases h <;> rfl

theorem dropCells_binaryAtom (x : Binary64) (n : Nat) (rest : Key) :
    dropCells (n + 1) (binaryAtom x :: rest) = dropCells n rest := by
  cases x <;> rfl

theorem dropCells_flatten {cells : List Cell} {ks : List Key} (hks : HaveKeys cells ks)
    (hdrop : ∀ c ∈ cells, ∀ {k : Key}, c.key = .ok k → ∀ (n : Nat) (rest : Key),
      dropCells (n + 1) (k ++ rest) = dropCells n rest) (n : Nat) (rest : Key) :
    dropCells (n + cells.length) (ks.flatten ++ rest) = dropCells n rest := by
  induction hks generalizing n with
  | nil => rfl
  | @cons c k cells ks hk _ ih =>
    obtain ⟨hfirst, hrest⟩ := List.forall_mem_cons.mp hdrop
    rw [List.flatten_cons, List.append_assoc, List.length_cons, ← Nat.add_assoc, hfirst hk]
    exact ih hrest n

/-- The key at the front of a sequence is left out as that of one cell. -/
theorem dropCells_key (c : Cell) : ∀ {k : Key}, c.key = .ok k → ∀ (n : Nat) (rest : Key),
    dropCells (n + 1) (k ++ rest) = dropCells n rest := by
  induction c using Cell.induction with
  | h c ih =>
    intro k hk n rest
    cases hasKey_of_key hk with
    | number _ hdenotes => exact dropCells_number hdenotes n rest
    | @complex re im _ _ _ hre him =>
      subst hre him
      exact (dropCells_binaryAtom re (n + 1) _).trans (dropCells_binaryAtom im n rest)
    | tuple hks hsize hatoms =>
      subst hsize hatoms
      exact dropCells_flatten hks ih n rest
    | _ => rfl

/-- Of two equal sequences of keys the first keys are equal, and what follows them. -/
theorem eq_of_append_eq {a b : Cell} {ka kb rest rest' : Key} (ha : a.key = .ok ka)
    (hb : b.key = .ok kb) (h : ka ++ rest = kb ++ rest') : ka = kb ∧ rest = rest' := by
  have hrest : rest = rest' :=
    calc rest = dropCells 1 (ka ++ rest) := by rw [dropCells_key a ha 0, dropCells_zero]
      _ = dropCells 1 (kb ++ rest') := by rw [h]
      _ = rest' := by rw [dropCells_key b hb 0, dropCells_zero]
  subst hrest
  exact ⟨List.append_cancel_right h, rfl⟩

/-- Sequences of equally many keys are equal when all keys are. -/
theorem eq_of_flatten_eq {as bs : List Cell} {ks ls : List Key} (ha : HaveKeys as ks)
    (hb : HaveKeys bs ls) (hlength : as.length = bs.length) (h : ks.flatten = ls.flatten) :
    ks = ls := by
  induction ha generalizing bs ls with
  | nil =>
    cases hb with
    | nil => rfl
    | cons => cases hlength
  | cons hk _ ih =>
    cases hb with
    | nil => cases hlength
    | cons hl hrest =>
      obtain ⟨rfl, hflatten⟩ := eq_of_append_eq hk hl h
      rw [ih hrest (Nat.succ.inj hlength) hflatten]

/-! ## Equal cells have equal keys -/

theorem isUnique_eq_false_iff (k : Key) : isUnique k = false ↔ .nan ∉ k := by
  simp [isUnique]

theorem isUnique_append (k l : Key) : isUnique (k ++ l) = (isUnique k || isUnique l) := by
  simp [isUnique]

theorem magnitude_of_binaryAtom {x : Binary64} (h : binaryAtom x ≠ .nan) :
    ∃ m, x.magnitude? = some m := by
  cases x with
  | nan => exact absurd rfl h
  | infinite | finite => exact ⟨_, rfl⟩

/-- Binary numbers with one atom denote one number. -/
theorem magnitude_congr {x y : Binary64} {m : Magnitude} (hx : x.magnitude? = some m)
    (h : binaryAtom x = binaryAtom y) : y.magnitude? = some m := by
  have hdenotes := denotes_binaryAtom hx
  rw [h] at hdenotes
  obtain ⟨n, hy⟩ : ∃ n, y.magnitude? = some n :=
    magnitude_of_binaryAtom (by rintro hnan; rw [hnan] at hdenotes; cases hdenotes)
  rw [hy, hdenotes.injective (denotes_binaryAtom hy)]

theorem isZero_iff {x : Binary64} {m : Magnitude} (h : x.magnitude? = some m) :
    x.isZero = true ↔ m = .finite 0 := by
  cases x with
  | nan => cases h
  | infinite negative =>
    cases h
    simp [Binary64.isZero]
  | finite negative units =>
    cases h
    have hvalue : withSign negative (units * 2 ^ (-1074 : ℤ)) = 0 ↔ units = 0 := by
      cases negative <;> simp [withSign]
    rw [Magnitude.finite.injEq, hvalue]
    cases units <;> simp [Binary64.isZero]

theorem isZero_congr {x y : Binary64} {m : Magnitude} (hx : x.magnitude? = some m)
    (hy : y.magnitude? = some m) : x.isZero = y.isZero := by
  rw [Bool.eq_iff_iff, isZero_iff hx, isZero_iff hy]

/-- A key of one atom that denotes a number is one of that number. -/
theorem magnitude_of_key {c : Cell} {atom : Atom} {m : Magnitude} (h : c.key = .ok [atom])
    (hm : atom.Denotes m) : c.magnitude? = some m := by
  cases hasKey_of_key h with
  | number hn hdenotes => rw [hn, hdenotes.injective hm]
  | _ => cases hm

/-- If equal cells have one key, tuples of them do. -/
theorem keys_eq_of_equal {as bs : List Cell} {ks ls : List Key} (h : List.Forall₂ Equal as bs)
    (hkey : ∀ a ∈ as, ∀ {b : Cell} {ka kb : Key}, Equal a b → a.key = .ok ka → b.key = .ok kb →
      ka = kb ∧ isUnique ka = false)
    (ha : HaveKeys as ks) (hb : HaveKeys bs ls) : ks = ls ∧ isUnique ks.flatten = false := by
  induction h generalizing ks ls with
  | nil =>
    cases ha
    cases hb
    exact ⟨rfl, rfl⟩
  | cons hequal _ ih =>
    obtain ⟨hfirst, hrest⟩ := List.forall_mem_cons.mp hkey
    cases ha with
    | cons hk hks =>
      cases hb with
      | cons hl hls =>
        obtain ⟨rfl, hunique⟩ := hfirst hequal hk hl
        obtain ⟨rfl, huniques⟩ := ih hrest hks hls
        rw [List.flatten_cons, isUnique_append, hunique, huniques]
        exact ⟨rfl, rfl⟩

/-- If cells with one key are equal, tuples of them are. -/
theorem forall₂_equal_of_keys_eq {as bs : List Cell} {ks : List Key}
    (hequal : ∀ a ∈ as, ∀ {b : Cell} {k : Key}, a.key = .ok k → b.key = .ok k →
      isUnique k = false → Equal a b)
    (ha : HaveKeys as ks) (hb : HaveKeys bs ks) (hunique : isUnique ks.flatten = false) :
    List.Forall₂ Equal as bs := by
  induction ha generalizing bs with
  | nil =>
    cases hb
    exact .nil
  | cons hk _ ih =>
    obtain ⟨hfirst, hrest⟩ := List.forall_mem_cons.mp hequal
    cases hb with
    | cons hl hls =>
      rw [List.flatten_cons, isUnique_append, Bool.or_eq_false_iff] at hunique
      exact .cons (hfirst hk hl hunique.1) (ih hrest hls hunique.2)

/-- Equal cells have one key, and no number in it is none. -/
theorem key_eq_of_equal (a : Cell) : ∀ {b : Cell} {ka kb : Key}, Equal a b → a.key = .ok ka →
    b.key = .ok kb → ka = kb ∧ isUnique ka = false := by
  induction a using Cell.induction with
  | h a ih =>
    intro b ka kb h ha hb
    cases h with
    | number hm hm' =>
      obtain ⟨atom, hatom, hdenotes⟩ := key_of_magnitude hm
      obtain ⟨atom', hatom', hdenotes'⟩ := key_of_magnitude hm'
      cases ha.symm.trans hatom
      cases hb.symm.trans hatom'
      obtain rfl := hdenotes.unique hdenotes'
      exact ⟨rfl, by cases hdenotes <;> rfl⟩
    | complex hre hre' him him' =>
      have hreAtom := (denotes_binaryAtom hre).unique (denotes_binaryAtom hre')
      have himAtom := (denotes_binaryAtom him).unique (denotes_binaryAtom him')
      have hreNan := (denotes_binaryAtom hre').ne_nan
      have himNan := (denotes_binaryAtom him').ne_nan
      rw [key, hreAtom, himAtom, isZero_congr him him'] at ha
      rw [key] at hb
      cases ha
      cases hb
      refine ⟨rfl, (isUnique_eq_false_iff _).mpr ?_⟩
      split <;> simp [hreNan.symm, himNan.symm]
    | moment hm hm' hoffset hinstant =>
      cases ha.symm.trans (key_of_moment hm)
      cases hb.symm.trans (key_of_moment hm')
      rw [hoffset, hinstant]
      exact ⟨rfl, rfl⟩
    | time hoffset hinstant =>
      cases ha
      cases hb
      rw [hoffset, hinstant]
      exact ⟨rfl, rfl⟩
    | boxed hc hc' hliteral =>
      cases ha.symm.trans (key_boxed hc)
      cases hb.symm.trans (key_boxed hc')
      rw [hliteral]
      exact ⟨rfl, rfl⟩
    | tuple hcells =>
      obtain ⟨ks, hks, rfl⟩ := key_tuple ha
      obtain ⟨ls, hls, rfl⟩ := key_tuple hb
      obtain ⟨rfl, hunique⟩ := keys_eq_of_equal hcells ih hks hls
      exact ⟨by rw [hcells.length_eq], hunique⟩
    | _ =>
      cases ha
      cases hb
      exact ⟨rfl, rfl⟩

/-- Cells with one key are equal, unless a number in it is none. -/
theorem equal_of_key_eq (a : Cell) : ∀ {b : Cell} {k : Key}, a.key = .ok k → b.key = .ok k →
    isUnique k = false → Equal a b := by
  induction a using Cell.induction with
  | h a ih =>
    intro b k ha hb hunique
    have hother := hasKey_of_key hb
    cases hasKey_of_key ha with
    | number hm hdenotes => exact .number hm (magnitude_of_key hb hdenotes)
    | notNumber => cases hunique
    | complex him hre himAtom =>
      cases hother with
      | complex _ hre' him'Atom =>
        subst hre himAtom
        simp only [isUnique_eq_false_iff, List.mem_cons, not_or] at hunique
        obtain ⟨-, hreNan, himNan, -⟩ := hunique
        obtain ⟨m, hm⟩ := magnitude_of_binaryAtom (Ne.symm hreNan)
        obtain ⟨n, hn⟩ := magnitude_of_binaryAtom (Ne.symm himNan)
        exact .complex hm (magnitude_congr hm hre'.symm) hn (magnitude_congr hn him'Atom.symm)
    | moment hm hoffset hinstant =>
      cases hother with
      | number _ hdenotes => cases hdenotes
      | moment hm' hoffset' hinstant' =>
        exact .moment hm hm' (hoffset.trans hoffset'.symm) (hinstant.trans hinstant'.symm)
    | time hoffset hinstant =>
      cases hother with
      | number _ hdenotes => cases hdenotes
      | time hoffset' hinstant' =>
        exact .time (hoffset.trans hoffset'.symm) (hinstant.trans hinstant'.symm)
    | boxed hc hliteral =>
      cases hother with
      | number _ hdenotes => cases hdenotes
      | boxed hc' hliteral' => exact .boxed hc hc' (hliteral.trans hliteral'.symm)
    | tuple hks hsize hatoms =>
      cases hother with
      | number _ hdenotes => cases hdenotes
      | tuple hks' hsize' hatoms' =>
        obtain rfl := eq_of_flatten_eq hks hks' (hsize.trans hsize'.symm)
          (hatoms.trans hatoms'.symm)
        exact .tuple (forall₂_equal_of_keys_eq ih hks hks' (hatoms ▸ hunique))
    | null =>
      cases hother with
      | number _ hdenotes => cases hdenotes
      | null => exact .null
    | noMoment =>
      cases hother with
      | number _ hdenotes => cases hdenotes
      | noMoment => exact .noMoment
    | text =>
      cases hother with
      | number _ hdenotes => cases hdenotes
      | text => exact .text _
    | date =>
      cases hother with
      | number _ hdenotes => cases hdenotes
      | date => exact .date _
    | span =>
      cases hother with
      | number _ hdenotes => cases hdenotes
      | span => exact .span _
    | bytes =>
      cases hother with
      | number _ hdenotes => cases hdenotes
      | bytes => exact .bytes _
    | uuid =>
      cases hother with
      | number _ hdenotes => cases hdenotes
      | uuid => exact .uuid _

/-- Two cells with keys are equal exactly when their keys are, and no number in them is none. -/
theorem equal_iff {a b : Cell} {ka kb : Key} (ha : a.key = .ok ka) (hb : b.key = .ok kb) :
    Equal a b ↔ ka = kb ∧ isUnique ka = false :=
  ⟨fun h => key_eq_of_equal a h ha hb, fun ⟨h, hunique⟩ => equal_of_key_eq a ha (h ▸ hb) hunique⟩

end Cell

end AskTable
