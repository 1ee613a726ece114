import AskTable.Number.Written
import AskTable.Table.Entries
import AskTable.Text.Hex

/-!
# JSON documents

* `Json`: the documents. A number that is not one and the infinities can stand in them, and are
  written by name.
* `Json.render`: a document as ASCII text, on one line or indented.
* `Json.object`: an object in which the last value of a repeated name counts.
-/

namespace AskTable

open AskTable.Number AskTable.Text

inductive Json where
  | null
  | bool (b : Bool)
  | int (n : Int)
  | float (x : Binary64)
  | text (s : String)
  | list (items : List Json)
  | fields (members : List (String × Json))
  deriving Repr, Inhabited

namespace Json

/-- An object; a repeated name keeps its first place and takes its last value. -/
def object (members : List (String × Json)) : Json := .fields (Entries.putAll id members [])

/-- The escape of a code unit by its number. -/
def unitEscape (n : Nat) : List Char := '\\' :: 'u' :: hexWidth 4 n

/-- A character of a text: visible ASCII as it is, all else escaped, above U+FFFF as a pair. -/
def escaped (c : Char) : List Char :=
  match c with
  | '"' => ['\\', '"']
  | '\\' => ['\\', '\\']
  | '\n' => ['\\', 'n']
  | '\r' => ['\\', 'r']
  | '\t' => ['\\', 't']
  | '\x08' => ['\\', 'b']
  | '\x0c' => ['\\', 'f']
  | c =>
    let n := c.toNat
    if 0x20 ≤ n && n < 0x7F then [c]
    else if n < 0x10000 then unitEscape n
    else
      let m := n - 0x10000
      unitEscape (0xD800 + m / 0x400) ++ unitEscape (0xDC00 + m % 0x400)

def quotedText (s : String) : String := String.ofList ('"' :: s.toList.flatMap escaped ++ ['"'])

def numberText : Binary64 → String
  | .nan => "NaN"
  | .infinite false => "Infinity"
  | .infinite true => "-Infinity"
  | x => floatText x

/-- How the parts of a list or object are set apart: on one line, or each on its own line. -/
structure Layout where
  step : Option Int

/-- A new line at a depth; nothing where all stands on one line. -/
def Layout.newline (l : Layout) (depth : Nat) : String :=
  match l.step with
  | none => ""
  | some step => String.ofList ('\n' :: List.replicate (step.toNat * depth) ' ')

/-- What separates two parts. -/
def Layout.separator (l : Layout) (depth : Nat) : String :=
  match l.step with
  | none => ", "
  | some _ => "," ++ l.newline depth

/-- The parts between brackets; without parts the brackets touch. -/
def Layout.enclose (l : Layout) (depth : Nat) (opening closing : String) (parts : List String) :
    String :=
  if parts.isEmpty then opening ++ closing
  else opening ++ l.newline (depth + 1) ++ String.intercalate (l.separator (depth + 1)) parts ++
    l.newline depth ++ closing

mutual

/-- The text of a document that stands at a depth. -/
def renderAt (l : Layout) (depth : Nat) : Json → String
  | .null => "null"
  | .bool b => if b then "true" else "false"
  | .int n => intText n
  | .float x => numberText x
  | .text s => quotedText s
  | .list items => l.enclose depth "[" "]" (renderItems l (depth + 1) items)
  | .fields members => l.enclose depth "\x7b" "\x7d" (renderMembers l (depth + 1) members)

def renderItems (l : Layout) (depth : Nat) : List Json → List String
  | [] => []
  | j :: items => renderAt l depth j :: renderItems l depth items

def renderMembers (l : Layout) (depth : Nat) : List (String × Json) → List String
  | [] => []
  | m :: members => renderMember l depth m :: renderMembers l depth members

def renderMember (l : Layout) (depth : Nat) : String × Json → String
  | (name, value) => quotedText name ++ ": " ++ renderAt l depth value

end

/-- The text of a document, each level indented by `step`; all on one line without a step. -/
def render (step : Option Int) (j : Json) : String := renderAt ⟨step⟩ 0 j

end Json

end AskTable
