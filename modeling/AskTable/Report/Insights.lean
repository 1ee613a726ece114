import AskTable.Report.Quality
import AskTable.Report.Summary

/-!
# Insights

* `keyFindings`, `recommendations`: what a summary says about a result.
* `Insights`, `profile`: both, with the quality of the data.
-/

namespace AskTable.Report

/-- A remark that is made only if a condition holds. -/
def remark (holds : Bool) (text : String) : List String := if holds then [text] else []

/-- What a summary shows (`key_findings`). -/
def keyFindings (s : Summary) : List String :=
  remark s.hasNumbers "Dataset contains numeric data suitable for statistical analysis" ++
  remark s.hasDates "Date fields present - temporal analysis possible" ++
  remark (100 < s.rowCount) s!"Large dataset with {s.rowCount} records" ++
  remark (5 < s.columnCount) s!"Multi-dimensional data with {s.columnCount} attributes"

/-- What a summary suggests (`recommendations`). -/
def recommendations (s : Summary) : List String :=
  remark s.hasNumbers "Consider creating charts to visualize numeric trends" ++
  remark s.hasDates "Time-series analysis could reveal temporal patterns" ++
  remark (50 < s.rowCount) "Large dataset - consider sampling for quick analysis"

/-- The quality of a result, with remarks (`Insights`). -/
structure Insights where
  quality : Option Quality
  findings : List String
  recommendations : List String

/-- The insights into a result (`profile`). -/
def profile (rows : List Row) (summary : Summary) : Except Fault Insights :=
  return ⟨← Quality.assess rows, keyFindings summary, recommendations summary⟩

end AskTable.Report
