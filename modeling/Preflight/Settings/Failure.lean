import Preflight.Text.Placeholder.Failure

/-! What can be wrong with settings before they are read: with what a text asks to be turned
into, and with what it asks of other settings. -/
namespace Preflight.Settings
open Text (quote)

inductive SettingError where
  | notInteger (text : String)
  /-- More digits than an integer is read from. -/
  | longInteger (text : String) (digits : Nat)
  | notReal (text : String)
  | notData (text : String)
  /-- A place that is written neither as a number nor left out. -/
  | notPlace (text : String)
  | nothingToInsert
  | noSetting (name : String)
  | notRequest (text : String)
  /-- A template that names what is not there. -/
  | unfilled (reason : String)
  | badTemplate (error : Text.PlaceholderError)
  | noTemplateLanguage
deriving DecidableEq, Repr

/-- The largest number of digits that an integer is read from. -/
def integerDigitLimit : Nat := 4300

namespace SettingError

def notBaseTen (text : String) : String :=
  "invalid literal for int() with base 10: " ++ .ofList ((quote text).toList.take 200)

def cannotConvert (text form reason : String) : String :=
  "Cannot convert " ++ quote text ++ " to " ++ form ++ ": " ++ reason

def message : SettingError → String
  | notInteger text => cannotConvert text "integer" (notBaseTen text)
  | longInteger text digits =>
    cannotConvert text "integer"
      ("Exceeds the limit (" ++ toString integerDigitLimit ++
        " digits) for integer string conversion: value has " ++ toString digits ++
        " digits; use sys.set_int_max_str_digits() to increase the limit")
  | notReal text => cannotConvert text "float" ("could not convert string to float: " ++ quote text)
  | notData text => cannotConvert text "json" "Expecting value: line 1 column 1 (char 0)"
  | notPlace text => notBaseTen text
  | nothingToInsert => "string index out of range"
  | noSetting name => "Key " ++ name ++ " not found in settings and no default value provided."
  | notRequest text => "Error parsing " ++ text ++ " malformed syntax."
  | unfilled reason => "Dynaconf can't interpolate variable because " ++ reason
  | badTemplate e => e.message
  | noTemplateLanguage => "jinja2 must be installed to enable '@jinja' settings in dynaconf"

def kind : SettingError → String
  | notInteger _ | longInteger .. | notReal _ | notData _ | noSetting _ => "DynaconfParseError"
  | notPlace _ => "ValueError"
  | nothingToInsert => "IndexError"
  | notRequest _ | unfilled _ => "DynaconfFormatError"
  | badTemplate e => e.kind
  | noTemplateLanguage => "ImportError"

end SettingError
end Preflight.Settings
