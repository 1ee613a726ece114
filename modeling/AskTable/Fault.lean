import AskTable.Number.Numeral
import AskTable.Text.Utf8

/-!
# Faults

Why an operation cannot give an answer, apart from the errors that the assistant reports itself.

* `Fault`: the causes.
* `Fault.message`: what each one says.
-/

namespace AskTable

open AskTable.Number AskTable.Text

inductive Fault where
  /-- A value of some kind does not have the operation that a text has. -/
  | lacks (kind operation : String)
  /-- A text was expected, to look for a pattern in it. -/
  | noText (kind : String)
  /-- A pattern of a text was looked for in bytes. -/
  | bytesPattern
  /-- A piece of text was looked for in bytes. -/
  | textInBytes
  /-- A piece of a list that is to be joined is no text. -/
  | noPiece (position : Nat) (kind : String)
  /-- An integer beyond the greatest binary number. -/
  | tooLarge
  /-- A signalling number cannot be converted. -/
  | signalling
  /-- A signalling number cannot be told apart from others. -/
  | signallingKey
  /-- A value of some kind cannot be told apart from others. -/
  | noKey (kind : String)
  | whole (fault : WholeFault)
  | outOfRange
  /-- A statistic lacks a figure. -/
  | noFigure (name : String)
  | noDivision
  /-- A value of some kind has no text of a given form. -/
  | noForm (kind : String)
  /-- A value of some kind does not compare with a number. -/
  | noOrder (kind : String)
  /-- A text has no form that is meant for numbers. -/
  | numberForm (form : String)
  /-- A text is not UTF-8. -/
  | encoding (fault : Utf8Fault)
  | nullCharacter
  | variableName
  | missingFile (path : String)
  | directory (path : String)
  | fileKind (name : String)
  | fieldCount (expected line saw : Nat)
  | openQuote (row : Nat)
  | unknownWorkbook
  | brokenArchive
  | noColumnFile (path : String)
  | shortColumnFile (path : String)
  | noColumnMark (path : String)
  /-- A value of some kind has no JSON document. -/
  | noDocument (kind : String)
  /-- A value of some kind cannot name a member of a JSON document. -/
  | noMember (kind : String)
  /-- There is nothing more to read. -/
  | endOfInput
  /-- An error that a collaborator raised, by its own name. -/
  | raised (name text : String)
  deriving DecidableEq, Repr

namespace Fault

/-- What a fault says. -/
def message : Fault → String
  | .lacks kind operation => s!"'{kind}' object has no attribute '{operation}'"
  | .noText kind => s!"expected string or bytes-like object, got '{kind}'"
  | .bytesPattern => "cannot use a string pattern on a bytes-like object"
  | .textInBytes => "a bytes-like object is required, not 'str'"
  | .noPiece position kind => s!"sequence item {position}: expected str instance, {kind} found"
  | .tooLarge => "int too large to convert to float"
  | .signalling => "cannot convert signaling NaN to float"
  | .signallingKey => "Cannot hash a signaling NaN value"
  | .noKey kind => s!"unhashable type: '{kind}'"
  | .whole fault => fault.message
  | .outOfRange => "list index out of range"
  | .noFigure name => quoted name
  | .noDivision => "float division by zero"
  | .noForm kind => s!"unsupported format string passed to {kind}.__format__"
  | .noOrder kind => s!"'<=' not supported between instances of '{kind}' and 'int'"
  | .numberForm form => s!"Unknown format code '{form}' for object of type 'str'"
  | .encoding fault =>
    fault.message (String.ofList (hexWidth 2 fault.byte.toNat))
  | .nullCharacter => "embedded null byte"
  | .variableName => "illegal environment variable name"
  | .missingFile path => "[Errno 2] No such file or directory: " ++ quoted path
  | .directory path => "[Errno 21] Is a directory: " ++ quoted path
  | .fileKind name => "Unsupported data file type: " ++ name
  | .fieldCount expected line saw =>
    s!"Error tokenizing data. C error: Expected {expected} fields in line {line}, saw {saw}\n"
  | .openQuote row => s!"Error tokenizing data. C error: EOF inside string starting at row {row}"
  | .unknownWorkbook => "Excel file format cannot be determined, you must specify an engine manually."
  | .brokenArchive => "File is not a zip file"
  | .noColumnFile path => s!"IO Error: No files found that match the pattern \"{path}\""
  | .shortColumnFile path => s!"Invalid Input Error: File '{path}' too small to be a Parquet file"
  | .noColumnMark path => s!"Invalid Input Error: No magic bytes found at end of file '{path}'"
  | .noDocument kind => s!"Object of type {kind} is not JSON serializable"
  | .noMember kind => s!"keys must be str, int, float, bool or None, not {kind}"
  | .endOfInput => ""
  | .raised _ text => text

end Fault

end AskTable
