import Preflight.Expectation.Violation
import Preflight.Settings.Failure
import Preflight.Settings.Issue
import Preflight.Text.Template

/-! Everything that can go wrong, by its cause; the text and the kind under which each is
reported; and the faults that ask the process to end rather than report an error. -/
namespace Preflight
open Text (quote quoteList)

inductive Fault where
  | unknownUnit (given : Value)
  | notUnit (given : Value)
  | unknownScale (given : Value)
  | unknownMeasurement (code : String)
  | unsupportedType (name : String)
  | notMeasurement (given : Value)
  | unknownCheckpoint (given : Value)
  | duplicateMetric (existing : Metric)
  | duplicateElement (element : Element)
  | unhashable (typeName : String)
  | incomparable (operator left right : String)
  | notIndex (typeName : String)
  /-- The expectations belong to a builder and can no longer be changed. -/
  | alreadyAttached
  | unmet (violation : Violation)
  | invalidSettings (model : Settings.Model) (issues : List Settings.Issue)
  | missingFile (path : String)
  | longName (path : String)
  | badSetting (error : Settings.SettingError)
  | unknownPlugin (name : String) (available : List String)
  | unknownLevel (text : String)
  /-- The observer already listens to the builder. -/
  | alreadyListening
  | badTemplate (error : Text.TemplateError)
  | missingKey (key : String)
  | missingIndex (index : Nat)
  | unsized (typeName : String)
  | lacks (typeName part : String)
  /-- A parameter of a call is filled by its place and by its name. -/
  | givenTwice (method parameter : String)
  | notParameter (name : String)
  /-- A value of one type is no template to be filled from one of the other. -/
  | unfillable (left right : String)
  /-- A fault of a plugin's or a listener's own. -/
  | raised (kind message : String)
  | nestedTooDeep
deriving Inhabited

namespace Fault

def message : Fault → String
  | unknownUnit v => "Unknown unit: " ++ v.display
  | notUnit v => "Cannot convert " ++ v.display ++ " to a unit"
  | unknownScale v => "Unknown unit prefix: " ++ v.display
  | unknownMeasurement code => quote code ++ " is not a valid MeasurementType"
  | unsupportedType name => "Unsupported measurement type: " ++ name
  | notMeasurement v => "Unsupported measurement type: " ++ v.display
  | unknownCheckpoint v => v.display ++ " is not a valid Checkpoint"
  | duplicateMetric m =>
    "Duplicate metric name: '" ++ m.name ++ "'. Already registered as " ++ m.display
  | duplicateElement e => "Duplicate " ++ e.kind.word ++ ": '" ++ e.path ++ "'"
  | unhashable t => "unhashable type: '" ++ t ++ "'"
  | incomparable operator left right =>
    "'" ++ operator ++ "' not supported between instances of '" ++ left ++ "' and '" ++ right ++
      "'"
  | notIndex t => "list indices must be integers or slices, not " ++ t
  | alreadyAttached => "StartupExpectations already attached to an agent builder"
  | unmet v => v.message
  | invalidSettings model issues =>
    toString issues.length ++ " problems in " ++ model.title
  | missingFile path => "Config file not found: " ++ path
  | longName path => "[Errno 36] File name too long: " ++ quote path
  | badSetting e => e.message
  | unknownPlugin name available =>
    "Unknown plugin '" ++ name ++ "'. Available: " ++ quoteList available
  | unknownLevel text => "Unknown log level: " ++ quote text
  | alreadyListening => "observer already registered"
  | badTemplate e => e.message
  | missingKey key => quote key
  | missingIndex index => toString index
  | unsized t => "object of type '" ++ t ++ "' has no len()"
  | lacks t part => "'" ++ t ++ "' object has no attribute '" ++ part ++ "'"
  | givenTwice method parameter =>
    "BoundLogger." ++ method ++ "() got multiple values for argument '" ++ parameter ++ "'"
  | notParameter name => "configure_logging() got an unexpected keyword argument '" ++ name ++ "'"
  | unfillable left right =>
    "unsupported operand type(s) for %=: '" ++ left ++ "' and '" ++ right ++ "'"
  | raised kind text => if kind = "KeyError" then quote text else text
  | nestedTooDeep => "maximum nesting depth exceeded"

def kind : Fault → String
  | unknownUnit _ | notUnit _ | unknownScale _ | unknownMeasurement _ | unsupportedType _
  | notMeasurement _ | unknownCheckpoint _ | duplicateMetric _ | duplicateElement _
  | unknownPlugin .. | unknownLevel _ | alreadyListening => "ValueError"
  | unhashable _ | incomparable .. | notIndex _ | unsized _ | givenTwice .. | notParameter _
  | unfillable .. => "TypeError"
  | alreadyAttached => "ExpectationsSealedError"
  | unmet _ => "StartupExpectationError"
  | invalidSettings .. => "ValidationError"
  | missingFile _ => "FileNotFoundError"
  | longName _ => "OSError"
  | badSetting e => e.kind
  | badTemplate e => e.kind
  | missingKey _ | missingIndex _ => "KeyError"
  | lacks .. => "AttributeError"
  | raised kind _ => kind
  | nestedTooDeep => "RecursionError"

/-- Kinds by which a process is told to end. No clean-up catches them. -/
def interruptKinds : List String := 
  ["BaseException", "KeyboardInterrupt", "SystemExit", "GeneratorExit"]

def isInterrupt (f : Fault) : Bool := interruptKinds.contains f.kind

end Fault

/-- Elements of one kind are ordered by their names; of two kinds they are not. -/
def Element.less (a b : Element) : Except Fault Bool :=
  if a.kind = b.kind then .ok (a.name.lt b.name) else 
    .error (.incomparable "<" a.kind.typeName b.kind.typeName)

end Preflight
