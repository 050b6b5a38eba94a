import WorkQuery.Cli.Format
import WorkQuery.Cli.Table
import WorkQuery.Data.JsonPrinter
import WorkQuery.Decimal.Shortest
import WorkQuery.Field.Registry
import WorkQuery.Filter.Text
import WorkQuery.Intent.Decision
import WorkQuery.Query.Statement

/-!
# WorkQuery.Cli.Output

What the commands print: tables for people, or JSON with sorted names.
-/

namespace WorkQuery

namespace Output

/-- JSON text with sorted names. -/
def json (d : Data) : String := d.sorted.prettyJsonText

def operatorTokens (f : FieldDef) : List String := f.valueType.operators.map Operator.token

def fields (format : OutputFormat) (fields : List FieldDef) : String :=
  match format with
  | .json =>
    json (.list (fields.map fun f =>
      .record [("reference", .string f.reference), ("value_type", .string f.valueType.name),
        ("operators", .ofStrings (operatorTokens f))]))
  | .table =>
    if fields.isEmpty then "No fields found."
    else
      Table.render ["Reference", "Type", "Operators"]
        (fields.map fun f => [f.reference, f.valueType.name, Text.join " " (operatorTokens f)])

def queryData (q : Query) : Data :=
  .record [("query", .string q.text), ("top", .ofNat q.cap), ("include", q.extras.toData)]

def query (format : OutputFormat) (q : Query) : String :=
  match format with
  | .json => json (queryData q)
  | .table =>
    let extras := (if q.extras.comments then ["comments"] else [])
      ++ (if q.extras.history then ["history"] else [])
    q.text ++ "\n\n-- " ++ q.topParameter
      ++ (if extras.isEmpty then "" else ", include " ++ Text.join " + " extras)

/-- A decision, and the query that its filter asks for, if it has one. -/
def decision (format : OutputFormat) (d : Decision) (q : Option Query) : String :=
  match format with
  | .json =>
    json (.record [("intent_type", .string d.kind.name), ("confidence", .float d.confidence),
      ("filter", Data.ofOption ItemFilter.toData d.action.filter?),
      ("analysis", Data.ofOption AnalysisRequest.toData d.action.request?),
      ("reasoning", .string d.reasoning), ("query", Data.ofOption queryData q)])
  | .table =>
    let row (name : String) (cell : Option String) : List (List String) :=
      (cell.map fun text => [name, text]).toList
    let request := d.action.request?
    Table.render ["Intent", d.kind.name]
      ([["Confidence", d.confidence.fixedText 2]]
        ++ row "Filter" (d.action.filter?.map ItemFilter.text)
        ++ row "Analysis" (request.map fun r => r.type.name)
        ++ row "Format" (request.bind AnalysisRequest.format)
        ++ row "Reasoning" (if d.reasoning.toList.isEmpty then none else some d.reasoning)
        ++ row "Query" (q.map Query.text))

def success (message : String) : String := "✓ " ++ message

end Output
end WorkQuery
