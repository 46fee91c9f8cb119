import Preflight.Text.Quoted

/-! What can be wrong with a template that has named holes, or with what a hole asks for. -/
namespace Preflight.Text

inductive PlaceholderError where
  | loneOpening | loneClosing | unclosed | openingInName | unclosedLayout
  | noConversion | unknownConversion (c : Char) | noColon
  | emptyName | unclosedIndex | notAName
  | noArgument (index : Nat)
  | tooDeep
  | invalidLayout (layout typeName : String)
  | unknownCode (code : Char) (typeName : String)
  | tooManyDigits
  | twoSeparators
  | noSeparator (separator code : Char)
  | noPrecision
  | precisionTooBig
  | textSign | textSpace | textAlternate | textPadding
  | numberPrecision
  | plainZero (what : String)
  | characterSign | characterAlternate
  | noCharacter | numberTooBig
  | tooLarge
  | outOfMemory
  | noLayout (typeName : String)
  | outOfRange (what : String)
  | needsIndex (what given : String)
  | noItems (typeName : String)
deriving DecidableEq, Repr

namespace PlaceholderError

/-- A character as it is between the blank and `limit`, and otherwise its code. -/
def shown (limit : Nat) (c : Char) : String :=
  if 0x20 < c.toNat ∧ c.toNat < limit then c.toString
  else "\\x" ++ .ofList (Nat.toDigits 16 c.toNat)

def message : PlaceholderError → String
  | loneOpening => "Single '\x7b' encountered in format string"
  | loneClosing => "Single '\x7d' encountered in format string"
  | unclosed => "expected '\x7d' before end of string"
  | openingInName => "unexpected '\x7b' in field name"
  | unclosedLayout => "unmatched '\x7b' in format spec"
  | noConversion => "end of string while looking for conversion specifier"
  | unknownConversion c => "Unknown conversion specifier " ++ shown 0x7f c
  | noColon => "expected ':' after conversion specifier"
  | emptyName => "Empty attribute in format string"
  | unclosedIndex => "Missing ']' in format string"
  | notAName => "Only '.' or '[' may follow ']' in format field specifier"
  | noArgument i =>
    "Replacement index " ++ toString i ++ " out of range for positional args tuple"
  | tooDeep => "Max string recursion exceeded"
  | invalidLayout layout t =>
    "Invalid format specifier '" ++ layout ++ "' for object of type '" ++ t ++ "'"
  | unknownCode c t =>
    "Unknown format code '" ++ shown 0x80 c ++ "' for object of type '" ++ t ++ "'"
  | tooManyDigits => "Too many decimal digits in format string"
  | twoSeparators => "Cannot specify both ',' and '_'."
  | noSeparator separator code =>
    "Cannot specify '" ++ separator.toString ++ "' with '" ++ shown 0x80 code ++ "'."
  | noPrecision => "Format specifier missing precision"
  | precisionTooBig => "precision too big"
  | textSign => "Sign not allowed in string format specifier"
  | textSpace => "Space not allowed in string format specifier"
  | textAlternate => "Alternate form (#) not allowed in string format specifier"
  | textPadding => "'=' alignment not allowed in string format specifier"
  | numberPrecision => "Precision not allowed in integer format specifier"
  | plainZero what =>
    "Negative zero coercion (z) not allowed in " ++ what ++ " format specifier"
  | characterSign => "Sign not allowed with integer format specifier 'c'"
  | characterAlternate => "Alternate form (#) not allowed with integer format specifier 'c'"
  | noCharacter => "%c arg not in range(0x110000)"
  | numberTooBig => "Python int too large to convert to C long"
  | tooLarge => "int too large to convert to float"
  | outOfMemory => ""
  | noLayout t => "unsupported format string passed to " ++ t ++ ".__format__"
  | outOfRange what => what ++ " index out of range"
  | needsIndex what given =>
    if what = "list" then "list indices must be integers or slices, not " ++ given
    else what ++ " indices must be integers, not '" ++ given ++ "'"
  | noItems t => "'" ++ t ++ "' object is not subscriptable"

def kind : PlaceholderError → String
  | noArgument _ | outOfRange _ => "IndexError"
  | noLayout _ | needsIndex .. | noItems _ => "TypeError"
  | noCharacter | numberTooBig | tooLarge => "OverflowError"
  | outOfMemory => "MemoryError"
  | _ => "ValueError"

end PlaceholderError
end Preflight.Text
