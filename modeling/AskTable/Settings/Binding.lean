import AskTable.Text.Blank

/-!
# Bindings of an environment file

A file of lines such as `export NAME="value" # remark`. A value stands in single quotes, in double
quotes or in none; quoted ones may go on over several lines. A line that breaks these rules is
skipped. The rules are those of `load_dotenv`, and they are taken as given.

* `closeQuote?`: the text up to a closing quote.
* `unescape`: a quoted text with its escapes resolved.
* `readBinding`: one binding, with what follows it.
* `bindings`: all bindings; a name without an equals sign has no value.
-/

namespace AskTable.Settings

open AskTable.Text

/-- A blank that does not end a line. -/
def isLineBlank (c : Char) : Bool := isBlank c && c != '\n' && c != '\r'

def skipLineBlanks (s : List Char) : List Char := s.dropWhile isLineBlank

def untilLineEnd (s : List Char) : List Char := s.takeWhile fun c => c != '\n' && c != '\r'

/-- What follows the line that the text starts in. -/
def skipLine (s : List Char) : List Char :=
  match s.dropWhile fun c => c != '\n' && c != '\r' with
  | '\r' :: rest => rest
  | '\n' :: rest => rest
  | rest => rest

/-- The text up to a closing quote, and what follows it. A quote after a backslash closes only if no
other quote does. -/
def closeQuote? (quote : Char) : List Char → Option (List Char × List Char)
  | [] => none
  | [c] => if c == quote then some ([], []) else none
  | c :: d :: s =>
    if c == '\\' && d == quote then
      match closeQuote? quote s with
      | some (body, rest) => some (c :: d :: body, rest)
      | none => some ([c], s)
    else if c == quote then some ([], d :: s)
    else (closeQuote? quote (d :: s)).map fun (body, rest) => (c :: body, rest)

/-- The escapes of a value in single quotes. -/
def singleEscape? : Char → Option Char
  | '\\' => some '\\'
  | '\'' => some '\''
  | _ => none

/-- The escapes of a value in double quotes. -/
def doubleEscape? : Char → Option Char
  | '\\' => some '\\'
  | '\'' => some '\''
  | '"' => some '"'
  | 'a' => some '\x07'
  | 'b' => some '\x08'
  | 'f' => some '\x0c'
  | 'n' => some '\n'
  | 'r' => some '\r'
  | 't' => some '\t'
  | 'v' => some '\x0b'
  | _ => none

/-- A text with its escapes resolved; a backslash that starts none stands for itself. -/
def unescape (escape? : Char → Option Char) : List Char → List Char
  | [] => []
  | [c] => [c]
  | c :: d :: s =>
    if c == '\\' then
      match escape? d with
      | some e => e :: unescape escape? s
      | none => c :: unescape escape? (d :: s)
    else c :: unescape escape? (d :: s)

/-- A value without the remark that follows a blank. -/
def dropRemark : List Char → List Char
  | [] => []
  | c :: s => if isBlank c && (trimStart s).head? == some '#' then [] else c :: dropRemark s

/-- The rest of a text, where reading broke off. -/
abbrev Broken := List Char

/-- A name; a remark has none. -/
def readName (s : List Char) : Except Broken (Option (List Char) × List Char) :=
  match s with
  | '#' :: _ => .ok (none, s)
  | '\'' :: rest =>
    match rest.takeWhile (· != '\''), rest.dropWhile (· != '\'') with
    | c :: name, _ :: rest => .ok (some (c :: name), rest)
    | _, _ => .error s
  | s =>
    let inName (c : Char) : Bool := c != '=' && c != '#' && !isBlank c
    match s.takeWhile inName with
    | [] => .error s
    | name => .ok (some name, s.dropWhile inName)

/-- The value after an equals sign and blanks. -/
def readValue (s : List Char) : Except Broken (List Char × List Char) :=
  match s with
  | '\'' :: rest =>
    match closeQuote? '\'' rest with
    | some (body, rest) => .ok (unescape singleEscape? body, rest)
    | none => .error s
  | '"' :: rest =>
    match closeQuote? '"' rest with
    | some (body, rest) => .ok (unescape doubleEscape? body, rest)
    | none => .error s
  | s =>
    let part := untilLineEnd s
    .ok (trimEnd (dropRemark part), s.drop part.length)

/-- A remark, if there is one, and the end of the line. -/
def readLineEnd (s : List Char) : Except Broken (List Char) :=
  let rest := match skipLineBlanks s with
    | '#' :: remark => remark.drop (untilLineEnd remark).length
    | _ => s
  match skipLineBlanks rest with
  | [] => .ok []
  | '\r' :: '\n' :: rest => .ok rest
  | '\r' :: rest => .ok rest
  | '\n' :: rest => .ok rest
  | _ => .error rest

/-- The text after the word `export` and blanks; the text itself when they are not there. -/
def skipExport (s : List Char) : List Char :=
  let word := "export".toList
  if word.isPrefixOf s && (s.drop word.length).head?.any isLineBlank then
    skipLineBlanks (s.drop word.length)
  else s

/-- A binding: a name, and a value if there is an equals sign. -/
structure Binding where
  name : String
  value : Option String
  deriving DecidableEq, Repr

/-- The binding on a line, if it has a name, and what follows the line. -/
def readLine (s : List Char) : Except Broken (Option Binding × List Char) := do
  let (name, s) ← readName (skipExport s)
  let s := skipLineBlanks s
  let (value, s) ← match s with
    | '=' :: s => do
      let (value, s) ← readValue (skipLineBlanks s)
      pure (some value, s)
    | s => pure (none, s)
  let s ← readLineEnd s
  return (name.map fun n => ⟨String.ofList n, value.map String.ofList⟩, s)

/-- The binding at the front of a text, and what follows it. After a line that breaks off, the rest
of that line is skipped. -/
def readBinding (s : List Char) : Option Binding × List Char :=
  match trimStart s with
  | [] => (none, [])
  | s =>
    match readLine s with
    | .ok (binding, rest) => (binding, rest)
    | .error rest => (none, skipLine rest)

/-- The bindings of a text. -/
def bindings (s : List Char) : List Binding :=
  if s.isEmpty then []
  else
    let (binding, rest) := readBinding s
    if rest.length < s.length then binding.toList ++ bindings rest else binding.toList
termination_by s.length

end AskTable.Settings
