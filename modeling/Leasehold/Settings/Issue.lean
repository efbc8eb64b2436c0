/-!
# What validation objects to

- **Rules** (`Issue.Rule`): each names the rule that a value breaks, with a tag and a sentence.
- **Issues** (`Issue`): a rule and the path of the field that breaks it.
-/

namespace Leasehold

/-- A rule for one value. -/
inductive Issue.Rule where
  | intType
  | intParsing
  | intTooLong
  | intFraction
  | finiteNumber
  | floatType
  | floatParsing
  | boolType
  | boolParsing
  | textType
  | textEncoding
  /-- The value must be a mapping with the fields of a model. -/
  | modelType (model : String)
  | greaterThan (bound : Int)
  | atLeast (bound : Int)
  | lessThan (bound : Int)
deriving DecidableEq, Repr

namespace Issue.Rule

/-- The tag of a rule. -/
def tag : Rule → String
  | intType => "int_type"
  | intParsing => "int_parsing"
  | intTooLong => "int_parsing_size"
  | intFraction => "int_from_float"
  | finiteNumber => "finite_number"
  | floatType => "float_type"
  | floatParsing => "float_parsing"
  | boolType => "bool_type"
  | boolParsing => "bool_parsing"
  | textType => "string_type"
  | textEncoding => "string_unicode"
  | modelType _ => "model_type"
  | greaterThan _ => "greater_than"
  | atLeast _ => "greater_than_equal"
  | lessThan _ => "less_than"

/-- The sentence for a value that breaks a rule. -/
def sentence : Rule → String
  | intType => "Input should be a valid integer"
  | intParsing => "Input should be a valid integer, unable to parse string as an integer"
  | intTooLong => "Unable to parse input string as an integer, exceeded maximum size"
  | intFraction => "Input should be a valid integer, got a number with a fractional part"
  | finiteNumber => "Input should be a finite number"
  | floatType => "Input should be a valid number"
  | floatParsing => "Input should be a valid number, unable to parse string as a number"
  | boolType => "Input should be a valid boolean"
  | boolParsing => "Input should be a valid boolean, unable to interpret input"
  | textType => "Input should be a valid string"
  | textEncoding => "Input should be a valid string, unable to parse raw data as a unicode string"
  | modelType model => "Input should be a valid dictionary or instance of " ++ model
  | greaterThan bound => "Input should be greater than " ++ toString bound
  | atLeast bound => "Input should be greater than or equal to " ++ toString bound
  | lessThan bound => "Input should be less than " ++ toString bound

end Issue.Rule

/-- A broken rule and where it was broken: the names of the fields from the outermost model. -/
structure Issue where
  path : List String
  rule : Issue.Rule
deriving DecidableEq, Repr

end Leasehold
