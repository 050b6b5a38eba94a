import WorkQuery.Field.Operator
import WorkQuery.Filter.Basic
import WorkQuery.Query.Quote
import WorkQuery.Query.Token

/-!
# WorkQuery.Query.Error

Why a filter or a condition cannot become a query. No error comes with a partial query.
-/

namespace WorkQuery

/-- What is wrong with a value, or with a field as the place of a value. -/
inductive ValueFault where
  | idBelowOne
  | capBelowOne
  | blankTerm
  | emptyList (operator : Operator)
  | manyValues (operator : Operator) (count : Nat)
  | blankSearch (operator : Operator)
  | reference (fault : Quote.ReferenceFault)
  | window (fault : WindowFault)
  | unsortable
  | notWhole (text : String)
  | notDate (text : String)
  | unexpectedNumber (type : ValueType) (value : Int)
  | unsuited (spelling : String) (type : ValueType)
  | notOfType (text : String) (type : ValueType)
  deriving DecidableEq

namespace ValueFault

def message : ValueFault → String
  | .idBelowOne => "work item IDs start at 1"
  | .capBelowOne => "must be at least 1"
  | .blankTerm => "search terms cannot be blank"
  | .emptyList op => op.token ++ " needs at least one value"
  | .manyValues op count => op.token ++ " takes a single value, got " ++ Numeral.natText count
  | .blankSearch op => op.token ++ " needs a non-blank value"
  | .reference fault => fault.message
  | .window fault => fault.message
  | .unsortable => "long-text fields cannot be sorted"
  | .notWhole text => "'" ++ text ++ "' is not a whole number"
  | .notDate text => "'" ++ text ++ "' is not a date, date macro or relative period"
  | .unexpectedNumber type value =>
    "expected a " ++ type.name ++ " value, got the number " ++ Numeral.intText value
  | .unsuited spelling type => spelling ++ " cannot stand for a " ++ type.name ++ " value"
  | .notOfType text type => "'" ++ text ++ "' is not a valid " ++ type.name ++ " value"

end ValueFault

/-- What a reader of a condition looks for. -/
inductive Expectation where
  | fieldOrGroup
  | groupEnd
  | listStart (operator : Operator)
  | listNext
  | numberAfterMinus
  | valueAfter (reference : String) (operator : Operator)
  | conditionEnd

namespace Expectation

def describe : Expectation → String
  | .fieldOrGroup => "a field or '('"
  | .groupEnd => "')'"
  | .listStart op => "'(' after " ++ op.token
  | .listNext => "',' or ')' in the value list"
  | .numberAfterMinus => "a number after '-'"
  | .valueAfter reference op => "a value after [" ++ reference ++ "] " ++ op.token
  | .conditionEnd => "AND, OR or the end of the clause"

end Expectation

deriving instance DecidableEq for Expectation

/-- Why a text is no condition. -/
inductive ConditionFault where
  | nestedBracket
  | unterminatedReference
  | unterminatedLiteral
  | separator
  | unsupportedSymbol (symbol : String)
  | unexpectedChar (char : Char)
  | blank
  | unbalancedClose
  | unbalancedOpen
  /-- A word that begins a part of the statement, in capitals. -/
  | keyword (word : String)
  | unexpected (wanted : Expectation) (found : Option Token)
  | missingOperator (reference : String)
  | unsupportedOperator (phrase reference : String)
  | unknownMacro (spelling : String)
  | loneQuote (position : Nat)
  | reference (fault : Quote.ReferenceFault)
  deriving DecidableEq

namespace ConditionFault

def message : ConditionFault → String
  | .nestedBracket => "nested '[' in field reference"
  | .unterminatedReference => "unterminated field reference"
  | .unterminatedLiteral => "unterminated string literal"
  | .separator => "statement separators are not allowed"
  | .unsupportedSymbol symbol => "unsupported operator '" ++ symbol ++ "'"
  | .unexpectedChar c => "unexpected character '" ++ String.ofList [c] ++ "'"
  | .blank => "empty WHERE clause"
  | .unbalancedClose => "unbalanced ')'"
  | .unbalancedOpen => "unbalanced '('"
  | .keyword word => "'" ++ word ++ "' is not allowed in a WHERE fragment"
  | .unexpected wanted (some token) =>
    "expected " ++ wanted.describe ++ ", found " ++ token.describe
  | .unexpected wanted none => "expected " ++ wanted.describe ++ ", found end of clause"
  | .missingOperator name => "missing operator after [" ++ name ++ "]"
  | .unsupportedOperator phrase name =>
    "unsupported operator '" ++ phrase ++ "' after [" ++ name ++ "]"
  | .unknownMacro spelling => "unknown macro '" ++ spelling ++ "'"
  | .loneQuote position => Quote.loneQuoteMessage position
  | .reference fault => fault.message

end ConditionFault

/-- Why there is no query. -/
inductive CompileError where
  | unknownField (name : String)
  | operatorMismatch (reference : String) (operator : Operator) (type : ValueType)
  | emptyFilter
  | invalidValue (field : String) (fault : ValueFault)
  | malformed (fault : ConditionFault)
  deriving DecidableEq

namespace CompileError

def message : CompileError → String
  | .unknownField name => "Unknown field: '" ++ name ++ "'"
  | .operatorMismatch reference op type =>
    "Operator '" ++ op.token ++ "' cannot be applied to " ++ reference ++ " (" ++ type.name ++ ")"
  | .emptyFilter => "Filter selects everything: add IDs, predicates or search terms"
  | .invalidValue field fault => "Invalid value for " ++ field ++ ": " ++ fault.message
  | .malformed fault => "Malformed WHERE fragment: " ++ fault.message

end CompileError
end WorkQuery
