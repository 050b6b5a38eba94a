import WorkQuery.Data.Decode

/-!
# WorkQuery.Cli.Format

The forms in which commands print what they found.
-/

namespace WorkQuery

inductive OutputFormat where
  | table
  | json
  deriving DecidableEq, Repr

namespace OutputFormat

def all : List OutputFormat := [.table, .json]

def name : OutputFormat → String
  | .table => "table"
  | .json => "json"

/-- The format of exactly that name. -/
def ofName? (s : String) : Option OutputFormat := all.find? fun f => f.name == s

def ofData? (d : Data) : Option OutputFormat := d.choice?.bind ofName?

end OutputFormat
end WorkQuery
