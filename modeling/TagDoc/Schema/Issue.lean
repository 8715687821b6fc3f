import TagDoc.Text.Utf8
import TagDoc.Value.Literal

/-!
# What can be wrong with a value

Data that comes from outside is checked against what a field may hold. Everything that is wrong with it is
reported at once, each issue with the path to the place where it was found and the value that stands there.

## Main definitions

* `Problem`: what is wrong, with its code and wording
* `Issue`: a problem at a place
* `Report`: all issues of one check, and the text that shows them
-/

namespace TagDoc

/-- What is wrong with a value. -/
inductive Problem where
  | missing
  | notText
  | notUnicode
  | notLiteral (expected : Text)
  | notInteger
  | fraction
  | unreadableInteger
  | integerTooLong
  | notFinite
  | tooSmall (least : Int)
  | notMapping
  | notList
  | notTuple
  | notModel (name : String)
  | frozen
  | pattern (expression : Text)
  | refused (reason : Text)
  deriving DecidableEq, Repr

namespace Problem

/-- The short name of a problem. -/
def code : Problem → String
  | missing => "missing"
  | notText => "string_type"
  | notUnicode => "string_unicode"
  | notLiteral _ => "literal_error"
  | notInteger => "int_type"
  | fraction => "int_from_float"
  | unreadableInteger => "int_parsing"
  | integerTooLong => "int_parsing_size"
  | notFinite => "finite_number"
  | tooSmall _ => "greater_than_equal"
  | notMapping => "dict_type"
  | notList => "list_type"
  | notTuple => "tuple_type"
  | notModel _ => "model_type"
  | frozen => "frozen_instance"
  | pattern _ => "string_pattern_mismatch"
  | refused _ => "value_error"

/-- The wording of a problem. -/
def message : Problem → Text
  | missing => "Field required".toList
  | notText => "Input should be a valid string".toList
  | notUnicode => "Input should be a valid string, unable to parse raw data as a unicode string".toList
  | notLiteral expected => "Input should be ".toList ++ expected.quoted
  | notInteger => "Input should be a valid integer".toList
  | fraction => "Input should be a valid integer, got a number with a fractional part".toList
  | unreadableInteger => "Input should be a valid integer, unable to parse string as an integer".toList
  | integerTooLong => "Unable to parse input string as an integer, exceeded maximum size".toList
  | notFinite => "Input should be a finite number".toList
  | tooSmall least => "Input should be greater than or equal to ".toList ++ Text.ofInt least
  | notMapping => "Input should be a valid dictionary".toList
  | notList => "Input should be a valid list".toList
  | notTuple => "Input should be a valid tuple".toList
  | notModel name => "Input should be a valid dictionary or instance of ".toList ++ name.toList
  | frozen => "Instance is frozen".toList
  | pattern expression => "String should match pattern '".toList ++ expression ++ ['\x27']
  | refused reason => "Value error, ".toList ++ reason

end Problem

/-- One step of the path to a place in a value: into a field or an entry, or to an item of a list. -/
inductive Step where
  | name (t : Text)
  | index (n : Int)
  deriving DecidableEq, Repr

/-- The text of a step. -/
def Step.text : Step → Text
  | name t => t
  | index n => Text.ofInt n

/-- A problem, the path to where it was found, and the value that stands there. -/
structure Issue where
  path : List Step
  problem : Problem
  input : Value
  deriving Repr

/-- The issue as seen from outside a field, an entry or an item. -/
def Issue.under (step : Step) (i : Issue) : Issue := { i with path := step :: i.path }

/-- All that is wrong with the data for something of the kind `subject`. -/
structure Report where
  subject : String
  issues : List Issue
  deriving Repr

/-- The longest literal, in octets, that a report shows whole. -/
def maxLiteral : Nat := 50

/-- The longest start of a text of at most `n` octets. -/
def takeOctets (n : Nat) : Text → Text
  | [] => []
  | c :: t => if c.utf8Size ≤ n then c :: takeOctets (n - c.utf8Size) t else []

/-- A literal as a report shows it: of a long one, the start and the end. -/
def abridged (t : Text) : Text :=
  if t.octetCount ≤ maxLiteral then t
  else
    let half := maxLiteral / 2
    takeOctets half t ++ "...".toList ++ (takeOctets (half - 1) t.reverse).reverse

/-- Where more is said about a problem. -/
def Problem.address (p : Problem) : Text :=
  Text.join ['/'] (["https:", "", "errors.pydantic.dev", "2.14", "v", p.code].map String.toList)

/-- The three lines of an issue. -/
def Issue.text (i : Issue) : Text :=
  Text.join ['.'] (i.path.map Step.text) ++ "\n  ".toList ++ i.problem.message ++
    " [type=".toList ++ i.problem.code.toList ++
    ", input_value=".toList ++ abridged i.input.shown ++
    ", input_type=".toList ++ i.input.typeName.toList ++
    "]\n    For further information visit ".toList ++ i.problem.address

/-- A report as text: a headline with the number of issues, then the issues. -/
def Report.text (r : Report) : Text :=
  Text.ofNat r.issues.length ++ " validation error".toList ++
    (if r.issues.length = 1 then [] else ['s']) ++ " for ".toList ++ r.subject.toList ++
    r.issues.flatMap fun i => '\n' :: i.text

end TagDoc
