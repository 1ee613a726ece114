import AskTable.Text.Digit

/-!
# Options of the command line

A long name may be cut short as long as it tells one option from the others, and one-letter names may
stand together behind one dash. A value follows its name as the next word, or in the same word after
an equals sign. Words that belong to no option are not allowed.

* `Options`: what the words ask for.
* `Word`, `Word.classify`: what a word is, seen on its own.
* `Options.read`: the options of a list of words, or the wish for help, or that they are wrong.
-/

namespace AskTable.Terminal

open AskTable.Text

structure Options where
  uploads : Option String
  model : Option String
  useModel : Bool
  query : Option String
  connect : Bool
  schema : Bool
  health : Bool
  json : Bool
  deriving DecidableEq, Repr

/-- The options without any word. -/
def Options.default : Options where
  uploads := none
  model := none
  useModel := true
  query := none
  connect := false
  schema := false
  health := false
  json := false

/-- Options that are on or off. -/
inductive Switch where
  | noModel
  | connect
  | schema
  | health
  | json
  | verbose
  deriving DecidableEq, Repr

/-- Options with a value. -/
inductive Setting where
  | uploads
  | model
  | query
  deriving DecidableEq, Repr

inductive Name where
  | help
  | switch (s : Switch)
  | setting (s : Setting)
  deriving DecidableEq, Repr

/-- The names of the options, as they are written. -/
def names : List (String × Name) := [
  ("-h", .help), ("--help", .help), ("--uploads-dir", .setting .uploads),
  ("--model", .setting .model), ("--no-llm", .switch .noModel), ("--query", .setting .query),
  ("--connect", .switch .connect), ("--schema", .switch .schema), ("--health", .switch .health),
  ("--json", .switch .json), ("-v", .switch .verbose), ("--verbose", .switch .verbose)]

def Options.turn (o : Options) : Switch → Options
  | .noModel => { o with useModel := false }
  | .connect => { o with connect := true }
  | .schema => { o with schema := true }
  | .health => { o with health := true }
  | .json => { o with json := true }
  | .verbose => o

def Options.give (o : Options) (value : String) : Setting → Options
  | .uploads => { o with uploads := some value }
  | .model => { o with model := some value }
  | .query => { o with query := some value }

/-! ## Words -/

/-- What a word is. -/
inductive Word where
  /-- A text; it may be the value of the option before it. -/
  | text (s : String)
  /-- An option, with the text after an equals sign. -/
  | option (name : Name) (value : Option (List Char))
  /-- An option of one letter, and further letters behind the same dash. -/
  | cluster (name : Name) (letters : List Char)
  /-- A name that fits several options. -/
  | ambiguous
  /-- It looks like an option and is none. -/
  | unknown
  deriving DecidableEq, Repr

/-- The option of a name. -/
def named? (s : List Char) : Option Name := (names.find? fun n => n.1.toList == s).map (·.2)

/-- The options whose names begin like this. -/
def startingWith (s : List Char) : List Name :=
  (names.filter fun n => s.isPrefixOf n.1.toList).map (·.2)

/-- The text without the line feed that it ends in. -/
def dropLineFeed (s : List Char) : List Char :=
  if s.getLast? == some '\n' then s.dropLast else s

/-- Is a dash followed by a whole number, or by one with a point? -/
def isNegativeNumber (s : List Char) : Bool :=
  match s with
  | '-' :: s =>
    let (whole, rest) := spanDigits (dropLineFeed s)
    match rest with
    | [] => !whole.isEmpty
    | '.' :: fraction => !fraction.isEmpty && fraction.all isDigit
    | _ => false
  | _ => false

/-- The text before the first equals sign, and the text after it if there is one. -/
def splitValue (s : List Char) : List Char × Option (List Char) :=
  let name := s.takeWhile (· != '=')
  match s.dropWhile (· != '=') with
  | [] => (name, none)
  | _ :: value => (name, some value)

/-- The options that a word which starts with a dash may mean. Only a long name may be cut short. -/
def candidates (s : List Char) : List Word :=
  if ['-', '-'].isPrefixOf s then
    let (name, value) := splitValue s
    (startingWith name).map fun n => .option n value
  else ((named? (s.take 2)).map fun n => Word.cluster n (s.drop 2)).toList

/-- What a word is that starts with a dash and is not the name of an option. -/
def classifyDashed (s : List Char) : Word :=
  match candidates s with
  | [word] => word
  | _ :: _ :: _ => .ambiguous
  | [] => if isNegativeNumber s || s.contains ' ' then .text (String.ofList s) else .unknown

/-- An option whose name is written in full. -/
def inFull? (s : List Char) : Option Word :=
  match named? s with
  | some n => some (.option n none)
  | none =>
    match splitValue s with
    | (name, some value) => (named? name).map fun n => .option n (some value)
    | (_, none) => none

/-- What a word is. A single dash is a text. -/
def Word.classify (word : String) : Word :=
  let s := word.toList
  if s.head? != some '-' || s == ['-'] then .text word else (inFull? s).getD (classifyDashed s)

/-- What the words are. No option comes after two dashes, and what does come there belongs to
none. -/
def classified (words : List String) : List Word :=
  (words.takeWhile (· != "--")).map Word.classify ++
    (if words.contains "--" then [.unknown] else [])

/-! ## Reading -/

/-- What a list of words comes to. -/
inductive Reading where
  | help
  | wrong
  | options (o : Options)
  deriving DecidableEq, Repr

/-- The options of further letters behind a dash, up to one that is unknown; it counts as a word
that belongs to no option. `none` when a dash or an equals sign is among them. -/
def cluster? : List Char → Option (List Name × Bool)
  | [] => some ([], false)
  | c :: letters =>
    if c == '-' then none
    else match named? ['-', c] with
      | none => some ([], true)
      | some n =>
        if letters.head? == some '=' then none
        else (cluster? letters).map fun (names, stray) => (n :: names, stray)

/-- Turns on several options; `none` if help is among them. -/
def Options.turnAll (o : Options) : List Name → Option Options
  | [] => some o
  | .switch s :: names => (o.turn s).turnAll names
  | _ :: _ => none

/-- Reads words; `stray` tells that one of those before belongs to no option. -/
def Options.readWords (o : Options) (stray : Bool) : List Word → Reading
  | [] => if stray then .wrong else .options o
  | .text _ :: words => o.readWords true words
  | .unknown :: words => o.readWords true words
  | .ambiguous :: _ => .wrong
  | .option .help none :: _ => .help
  | .option (.switch s) none :: words => (o.turn s).readWords stray words
  | .option (.setting s) (some value) :: words =>
    (o.give (String.ofList value) s).readWords stray words
  | .option (.setting s) none :: .text value :: words => (o.give value s).readWords stray words
  | .option _ _ :: _ => .wrong
  | .cluster name letters :: words =>
    match cluster? letters with
    | none => .wrong
    | some (names, unknown) =>
      match o.turnAll (name :: names) with
      | none => .help
      | some o => o.readWords (stray || unknown) words

/-- The options of a list of words (`main`). A name that fits several options is wrong wherever it
stands. -/
def Options.read (words : List String) : Reading :=
  let words := classified words
  if words.contains .ambiguous then .wrong else Options.default.readWords false words

end AskTable.Terminal
