/-!
# Issues

What is wrong with a value that a record is read from, and where. An issue's
location lists field names, map keys and list indices from the outside in.
-/

namespace Multitarget.Schema

/-- One step into a value. -/
inductive Step where
  /-- To a field or the value of a key. -/
  | name (name : String)
  /-- To an item, or the value of a numeric key. -/
  | index (index : Int)
  deriving DecidableEq, Repr

/-- What is wrong at a location. -/
inductive Problem where
  | missing
  | extraForbidden
  | invalidKey
  /-- No mapping where a record of this name is read. -/
  | recordType (record : String)
  | mapType
  | listType
  | textType
  | textEncoding
  | textTooShort
  | textPattern (pattern : String)
  | bytesType
  | choice (options : List String)
  | intType
  | intParsing
  | intFromFraction
  | intSize
  | finiteNumber
  | negative
  | boolType
  | boolParsing
  /-- Too many records stand inside each other. -/
  | nestedTooDeep
  /-- A rule of the record itself, with its wording. -/
  | rule (wording : String)
  deriving DecidableEq, Repr

namespace Problem

/-- A short name for the kind of problem. -/
def code : Problem → String
  | .missing => "missing"
  | .extraForbidden => "extra_forbidden"
  | .invalidKey => "invalid_key"
  | .recordType _ => "model_type"
  | .mapType => "dict_type"
  | .listType => "list_type"
  | .textType => "string_type"
  | .textEncoding => "string_unicode"
  | .textTooShort => "string_too_short"
  | .textPattern _ => "string_pattern_mismatch"
  | .bytesType => "bytes_type"
  | .choice _ => "enum"
  | .intType => "int_type"
  | .intParsing => "int_parsing"
  | .intFromFraction => "int_from_float"
  | .intSize => "int_parsing_size"
  | .finiteNumber => "finite_number"
  | .negative => "greater_than_equal"
  | .boolType => "bool_type"
  | .boolParsing => "bool_parsing"
  | .nestedTooDeep => "recursion_depth_exceeded"
  | .rule _ => "value_error"

/-- Options as a list in words: commas, and "or" before the last. -/
def listOptions : List String → String
  | [] => ""
  | [option] => "'" ++ option ++ "'"
  | [option, last] => "'" ++ option ++ "' or '" ++ last ++ "'"
  | option :: rest => "'" ++ option ++ "', " ++ listOptions rest

/-- The wording of a problem. -/
def message : Problem → String
  | .missing => "Field required"
  | .extraForbidden => "Extra inputs are not permitted"
  | .invalidKey => "Keys should be strings"
  | .recordType record => "Input should be a valid dictionary or instance of " ++ record
  | .mapType => "Input should be a valid dictionary"
  | .listType => "Input should be a valid list"
  | .textType => "Input should be a valid string"
  | .textEncoding =>
    "Input should be a valid string, unable to parse raw data as a unicode string"
  | .textTooShort => "String should have at least 1 character"
  | .textPattern pattern => "String should match pattern '" ++ pattern ++ "'"
  | .bytesType => "Input should be a valid bytes"
  | .choice options => "Input should be " ++ listOptions options
  | .intType => "Input should be a valid integer"
  | .intParsing => "Input should be a valid integer, unable to parse string as an integer"
  | .intFromFraction => "Input should be a valid integer, got a number with a fractional part"
  | .intSize => "Unable to parse input string as an integer, exceeded maximum size"
  | .finiteNumber => "Input should be a finite number"
  | .negative => "Input should be greater than or equal to 0"
  | .boolType => "Input should be a valid boolean"
  | .boolParsing => "Input should be a valid boolean, unable to interpret input"
  | .nestedTooDeep => "Recursion error - maximum validation depth exceeded"
  | .rule wording => "Value error, " ++ wording

end Problem

/-- A problem at a location. -/
structure Issue where
  location : List Step
  problem : Problem
  deriving DecidableEq, Repr

/-- The text of a step. -/
def Step.text : Step → String
  | .name field => field
  | .index position => toString position

/-- The steps of a location, joined by points. -/
def Issue.path (issue : Issue) : String :=
  ".".intercalate (issue.location.map Step.text)

/-- One line for each issue below a headline. -/
def report (issues : List Issue) : String :=
  "\n".intercalate ("Validation failed:" ::
    issues.map fun issue => "  - " ++ issue.path ++ ": " ++ issue.problem.message)

end Multitarget.Schema
