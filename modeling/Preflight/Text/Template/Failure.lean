import Preflight.Text.Quoted

/-! What can be wrong with a percent template or with what it is filled from. -/
namespace Preflight.Text

inductive TemplateError where
  | notEnough
  | leftOver
  | needsNumber (conversion : Char) (typeName : String)
  | needsInteger (conversion : Char) (typeName : String)
  | needsReal (typeName : String)
  | needsCharacter
  /-- A star stands for a count, which is an integer. -/
  | needsCount
  | needsMapping
  /-- A key was looked up in a list. -/
  | needsIndex
  | missingKey (key : String)
  | incomplete
  | incompleteKey
  | unsupported (conversion : Char) (index : Nat)
  | widthTooBig
  | precisionTooBig
  | infinite
  | notANumber
  | tooLarge
  | noCharacter
  | widthOverflow
  | precisionOverflow
  | tooPrecise
  | outOfMemory
deriving DecidableEq, Repr

namespace TemplateError

def message : TemplateError → String
  | notEnough => "not enough arguments for format string"
  | leftOver => "not all arguments converted during string formatting"
  | needsNumber c t => "%" ++ c.toString ++ " format: a real number is required, not " ++ t
  | needsInteger c t => "%" ++ c.toString ++ " format: an integer is required, not " ++ t
  | needsReal t => "must be real number, not " ++ t
  | needsCharacter => "%c requires int or char"
  | needsCount => "* wants int"
  | needsMapping => "format requires a mapping"
  | needsIndex => "list indices must be integers or slices, not str"
  | missingKey key => quote key
  | incomplete => "incomplete format"
  | incompleteKey => "incomplete format key"
  | unsupported c index =>
    let shown := if 31 ≤ c.toNat && c.toNat < 127 then c else '?'
    "unsupported format character '" ++ shown.toString ++ "' (0x" ++
      .ofList (Nat.toDigits 16 c.toNat) ++ ") at index " ++ toString index
  | widthTooBig => "width too big"
  | precisionTooBig => "precision too big"
  | infinite => "cannot convert float infinity to integer"
  | notANumber => "cannot convert float NaN to integer"
  | tooLarge => "int too large to convert to float"
  | noCharacter => "%c arg not in range(0x110000)"
  | widthOverflow => "Python int too large to convert to C ssize_t"
  | precisionOverflow => "Python int too large to convert to C int"
  | tooPrecise => "precision too large"
  | outOfMemory => ""

def kind : TemplateError → String
  | notEnough | leftOver | needsNumber .. | needsInteger .. | needsReal _ | needsCharacter
  | needsCount | needsMapping | needsIndex => "TypeError"
  | missingKey _ => "KeyError"
  | incomplete | incompleteKey | unsupported .. | widthTooBig | precisionTooBig | notANumber =>
    "ValueError"
  | infinite | tooLarge | noCharacter | widthOverflow | precisionOverflow | tooPrecise =>
    "OverflowError"
  | outOfMemory => "MemoryError"

end TemplateError
end Preflight.Text
