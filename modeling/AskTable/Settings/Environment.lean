import AskTable.Settings.Binding
import AskTable.Fault
import AskTable.Table.Entries

/-!
# The environment

* `Environment`: values by name.
* `resolve`: a text in which names in braces are replaced by values.
* `resolved`: the bindings of a file with their values resolved, one after another.
* `Environment.extend`: the environment with the values of a file that it lacks.
-/

namespace AskTable.Settings

open AskTable.Text

abbrev Environment := List (String × String)

def Environment.get? (e : Environment) (name : String) : Option String := Entries.find? id name e

/-- A name in braces after a dollar sign, with a default if one is given, and what follows it. -/
structure Variable where
  name : List Char
  fallback : List Char
  rest : List Char

/-- The variable whose brace was just opened. -/
def afterBrace? (s : List Char) : Option Variable :=
  let inName (c : Char) : Bool := c != '\x7d' && c != ':'
  let name := s.takeWhile inName
  match s.dropWhile inName with
  | '\x7d' :: rest => some ⟨name, [], rest⟩
  | ':' :: '-' :: s =>
    match s.dropWhile (· != '\x7d') with
    | _ :: rest => some ⟨name, s.takeWhile (· != '\x7d'), rest⟩
    | [] => none
  | _ => none

/-- The variable at the front of a text. -/
def readVariable? : List Char → Option Variable
  | '$' :: '\x7b' :: s => afterBrace? s
  | _ => none

/-- A text with its variables replaced; `value` gives the value of a name, or `none` for a name that
is not known. -/
def resolve (value : String → Option String) : List Char → List Char
  | [] => []
  | c :: s =>
    match readVariable? (c :: s) with
    | none => c :: resolve value s
    | some v =>
      let text := ((value (String.ofList v.name)).map String.toList).getD v.fallback
      if v.rest.length < s.length + 1 then text ++ resolve value v.rest else text
termination_by s => s.length

/-- Values by name, as a file gives them; a name may be given without a value. -/
abbrev Given := List (String × Option String)

/-- The value of a name while a file is read: that of the environment, or else the one that the file
has given so far. A name without a value counts as empty. -/
def lookUp (e : Environment) (given : Given) (name : String) : Option String :=
  e.get? name <|> (Entries.find? id name given).map fun value => value.getD ""

/-- Resolves one binding after those before it. -/
def giveValue (e : Environment) (given : Given) (b : Binding) : Given :=
  Entries.put id b.name
    (b.value.map fun v => String.ofList (resolve (lookUp e given) v.toList)) given

/-- The values that a file gives; the last one of a name counts. -/
def resolved (e : Environment) (bs : List Binding) : Given := bs.foldl (giveValue e) []

/-- Why a name and a value cannot be set. -/
def bindingFault? (name value : String) : Option Fault :=
  if name.toList.contains '\x00' || value.toList.contains '\x00' then some .nullCharacter
  else if name.toList.contains '=' then some .variableName
  else none

/-- The environment with the values that it lacks. -/
def Environment.extend (e : Environment) : Given → Except Fault Environment
  | [] => .ok e
  | (_, none) :: given => e.extend given
  | (name, some value) :: given =>
    if (e.get? name).isSome then e.extend given
    else match bindingFault? name value with
      | some fault => .error fault
      | none => (e ++ [(name, value)]).extend given

end AskTable.Settings
