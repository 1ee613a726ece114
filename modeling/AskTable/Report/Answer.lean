import AskTable.Report.Chart

/-!
# The answer in one sentence

* `fixedFigure`, `compactFigure`: a figure with two decimal places, and with six significant digits.
* `conciseAnswer`: how many rows there are, the figures of the first column that has some, and the
  chart that suits them.
-/

namespace AskTable.Report

open AskTable.Number

/-- The two forms in which a figure is written. -/
inductive FigureForm where
  | fixed
  | compact
  deriving DecidableEq

def FigureForm.code : FigureForm → String
  | .fixed => "f"
  | .compact => "g"

def FigureForm.binary (form : FigureForm) (x : Binary64) : String :=
  match form with
  | .fixed => fixedText 2 x
  | .compact => compactText 6 x

/-- A decimal keeps its digits in the compact form, with a small letter before an exponent. -/
def FigureForm.decimal (form : FigureForm) (d : Decimal) : String :=
  match form, d with
  | .fixed, d => (d.quantize 2).text
  | .compact, .finite .. => String.ofList (d.text.toList.map Char.toLower)
  | .compact, d => d.text

/-- A figure in a form. A moment is written by a pattern, which the form is none of. -/
def FigureForm.write (form : FigureForm) : Cell → Except Fault String
  | .float x | .wordFloat x => .ok (form.binary x)
  | .int n | .wordInt n =>
    match Binary64.ofInt? n with
    | some x => .ok (form.binary x)
    | none => .error .tooLarge
  | .bool b | .wordBool b => .ok (form.binary (.ofRatio false b.toNat 1))
  | .decimal d => .ok (form.decimal d)
  | .complex re im => .ok (form.binary re ++ (if im.isNegative then "" else "+") ++
      form.binary im ++ "j")
  | .text _ => .error (.numberForm form.code)
  | .date _ | .moment _ | .time _ | .stamp _ =>
    .ok (match form with | .fixed => ".2f" | .compact => "g")
  | c => .error (.noForm c.kindName)

/-- A figure of a name, in a form; a missing one is a fault. -/
def figureText (form : FigureForm) (figures : Figures) (name : String) : Except Fault String :=
  match figures.find? name with
  | some c => form.write c
  | none => .error (.noFigure name)

/-- The sentence for a result of `fullCount` rows with `columnCount` columns
(`make_concise_answer`). -/
def conciseAnswer (fullCount columnCount : Int) (category : String)
    (statistics : List (Label × Figures)) : Except Fault String :=
  let rows := "Answer: " ++ Text.intText fullCount ++ " rows"
  let chart := " - suggested chart: " ++ category
  if fullCount == 0 then .ok "Answer: query returned no rows."
  else match statistics with
    | [] => .ok (rows ++ " across " ++ Text.intText columnCount ++ " columns" ++ chart)
    | (label, figures) :: _ => do
      let mean ← figureText .fixed figures "avg"
      let least ← figureText .compact figures "min"
      let greatest ← figureText .compact figures "max"
      return rows ++ "; " ++ label.text ++ " avg=" ++ mean ++ " (min=" ++ least ++ ", max=" ++
        greatest ++ ")" ++ chart

end AskTable.Report
