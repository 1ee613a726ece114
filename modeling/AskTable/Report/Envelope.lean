import AskTable.Error
import AskTable.Report.Answer
import AskTable.Report.Insights
import AskTable.Report.Plain
import AskTable.Statement.Complexity

/-!
# Envelopes

An envelope holds everything that is told about the result of one question.

* `analyze`: the envelope of a result, or why a value in it defeats the analysis.
* `Envelope.document`: the envelope as a JSON document.
* `Envelope.answer`: its answer in one sentence.
-/

namespace AskTable.Report

open AskTable.Statement

/-- A result with everything that is told of it (`ResponseEnvelope`). -/
structure Envelope where
  question : Cell
  statement : Cell
  time : String
  summary : Summary
  insights : Insights
  chart : Chart
  preview : List Row
  fullCount : Nat
  complexity : Complexity
  source : String

/-- The source of a result from a data file (`SOURCE_LOCAL`). -/
def localSource : String := "csv/excel"

/-- The source of a result from the warehouse (`SOURCE_REMOTE`). -/
def remoteSource : String := "snowflake"

/-- The parts of an envelope, or the first fault on the way to them (`compose`). -/
def compose (time : String) (question statement : Cell) (rows : List Row) (source : String) :
    Except Fault Envelope := do
  let summary := summarize rows
  let insights ← profile rows summary
  let chart ← recommend rows (firstColumns rows)
  let complexity ← Complexity.assess statement
  return ⟨question, statement, time, summary, insights, chart, rows.take previewRows, rows.length,
    complexity, source⟩

/-- The envelope of a result (`analyze`). -/
def analyze (time : String) (question statement : Cell) (rows : List Row) (source : String) :
    Except AssistantError Envelope :=
  match compose time question statement rows source with
  | .ok envelope => .ok envelope
  | .error fault => .error
      { kind := .internalProcessing, message := "Failed to process query results"
        details := some fault.message }

/-! ## Documents -/

def Summary.document (s : Summary) : Json :=
  .fields [("total_rows", .int s.rowCount), ("total_columns", .int s.columnCount),
    ("columns", .list (s.columnNames.map .text)),
    ("data_types", .fields [("numeric", .bool s.hasNumbers), ("date", .bool s.hasDates)])]

/-- An object with a member for each column. -/
def byColumn (f : α → Json) (columns : List (Label × α)) : Json :=
  .object (columns.map fun e => (e.1.text, f e.2))

def Variety.document (v : Variety) : Json :=
  .fields [("unique_count", .int v.distinct), ("total_count", .int v.total),
    ("variety_score", (v.score.map .float).getD .null)]

def qualityDocument : Option Quality → Json
  | none => .fields [("status", .text "error"), ("message", .text "No data available")]
  | some q => .fields [("status", .text "good"),
      ("metrics", .fields [("completeness", byColumn .float q.completeness),
        ("consistency", byColumn Variety.document q.consistency),
        ("uniqueness", byColumn .float q.uniqueness)]),
      ("sample_size", .int q.sampleSize), ("total_columns", .int q.columnCount)]

def Insights.document (i : Insights) : Json :=
  .fields [("data_quality", qualityDocument i.quality),
    ("key_findings", .list (i.findings.map .text)),
    ("recommendations", .list (i.recommendations.map .text))]

def Complexity.document (c : Complexity) : Json :=
  .fields [("level", .text c.level), ("features", .list (c.features.map .text))]

def textOrNull (s : Option String) : Json := (s.map .text).getD .null

/-- What a chart shows; `leaf` gives the document of a label or figure
(`ChartRecommendation.to_dict`). -/
def Chart.data (leaf : Cell → Except Fault Json) (c : Chart) : Except Fault Json :=
  match c.kind with
  | .summary => .ok (.fields [("type", .text "summary"), ("message", textOrNull c.message)])
  | _ => do
    let labels ← c.statistics.mapM fun e => leaf e.1.cell
    let figures ← c.statistics.mapM fun e =>
      return (e.1.text, Json.object (← e.2.mapM fun f => return (f.1, ← leaf f.2)))
    return .fields [("type", .text "aggregated"), ("numericColumns", .list labels),
      ("statistics", .object figures)]

/-- The settings to draw a chart with: one point, its mean, for each column with figures
(`build_chart_config`). -/
def Chart.configuration (leaf : Cell → Except Fault Json) (c : Chart) : Except Fault Json := do
  let start := [("type", Json.text c.category), ("options", .fields
    [("responsive", .bool true), ("maintainAspectRatio", .bool false)])]
  if c.kind != .aggregated then return .fields start
  let labels ← c.statistics.mapM fun e => leaf e.1.cell
  let points ← c.statistics.mapM fun e => leaf ((e.2.find? "avg").getD (.int 0))
  return .fields (start ++ [("data", .fields [("labels", .list labels),
    ("datasets", .list [.fields [("label", .text "Data Values"), ("data", .list points)]])])])

/-- The envelope as a document (`ResponseEnvelope.to_dict`). -/
def Envelope.document (e : Envelope) : Except Fault Json := do
  let question ← e.question.plain
  let statement ← e.statement.plain
  let data ← e.chart.data Cell.plain
  let configuration ← e.chart.configuration Cell.plain
  let preview ← e.preview.mapM Row.plain
  return .fields [
    ("query", .fields [("original", question), ("generated_sql", statement),
      ("timestamp", .text e.time)]),
    ("data_summary", e.summary.document),
    ("insights", e.insights.document),
    ("visualization", .fields [("suggested_chart_type", .text e.chart.category),
      ("chart_data", data), ("chart_config", configuration)]),
    ("results", .fields [("preview", .list preview), ("full_count", .int e.fullCount),
      ("sample_size", .int e.preview.length)]),
    ("metadata", .fields [("processing_time", .text e.time), ("data_source", .text e.source),
      ("query_complexity", Complexity.document e.complexity)])]

/-- The answer of an envelope in one sentence. -/
def Envelope.answer (e : Envelope) : Except Fault String :=
  conciseAnswer e.fullCount e.summary.columnCount e.chart.category e.chart.statistics

end AskTable.Report
