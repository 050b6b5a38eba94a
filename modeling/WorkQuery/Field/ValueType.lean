/-!
# WorkQuery.Field.ValueType

Types of field values.
-/

namespace WorkQuery

/-- What kind of value a field holds. -/
inductive ValueType where
  /-- Short text such as a state, a tag or a work item type. -/
  | string
  /-- A person. -/
  | identity
  /-- A whole number. -/
  | integer
  /-- A date, perhaps with a time. -/
  | dateTime
  /-- A path in the area or iteration tree. -/
  | treePath
  /-- Long text with a full-text index. -/
  | plainText
  deriving DecidableEq, Repr

namespace ValueType

/-- Every type, in the order in which they are listed. -/
def all : List ValueType := [.string, .identity, .integer, .dateTime, .treePath, .plainText]

/-- Name in the store's field metadata and in messages. -/
def name : ValueType → String
  | .string => "String"
  | .identity => "Identity"
  | .integer => "Integer"
  | .dateTime => "DateTime"
  | .treePath => "TreePath"
  | .plainText => "PlainText"

/-- Name in requests. -/
def key : ValueType → String
  | .string => "string"
  | .identity => "identity"
  | .integer => "integer"
  | .dateTime => "date_time"
  | .treePath => "tree_path"
  | .plainText => "plain_text"

def ofKey? (s : String) : Option ValueType := all.find? fun t => t.key == s

end ValueType
end WorkQuery
