import Preflight.Text.Printable

/-! The quoted form of a text and of bytes, as messages show them: single quotes, double quotes
when the text holds a single quote and no double one, hidden characters as escapes. -/
namespace Preflight.Text

def quoteMark (s : List Char) : Char :=
  if s.contains '\'' && !s.contains '"' then '"' else '\''

/-- Lower-case hexadecimal digits, with zeros in front up to `width`. -/
def hexDigits (width n : Nat) : List Char :=
  (Nat.toDigits 16 n).leftpad width '0'

def escapeCode (n : Nat) : List Char :=
  if n < 0x100 then '\\' :: 'x' :: hexDigits 2 n
  else if n < 0x10000 then '\\' :: 'u' :: hexDigits 4 n
  else '\\' :: 'U' :: hexDigits 8 n

/-- What the quoted form with quote `mark` writes for one character. -/
def escapeChar (mark c : Char) : List Char :=
  if c = mark || c = '\\' then ['\\', c]
  else if c = '\n' then ['\\', 'n']
  else if c = '\r' then ['\\', 'r']
  else if c = '\t' then ['\\', 't']
  else if isPrintable c then [c]
  else escapeCode c.toNat

def quoteChars (s : List Char) : List Char :=
  quoteMark s :: (s.flatMap (escapeChar (quoteMark s)) ++ [quoteMark s])

def quote (s : String) : String := .ofList (quoteChars s.toList)

/-- Bytes are shown as the ASCII characters they are, every other byte as `\xhh`. -/
def escapeByte (mark : Char) (b : UInt8) : List Char :=
  if b.toNat < 0x80 then escapeChar mark (Char.ofNat b.toNat) else escapeCode b.toNat

def quoteBytes (bytes : List UInt8) : String :=
  let mark := quoteMark (bytes.map fun b => Char.ofNat b.toNat)
  .ofList ('b' :: mark :: (bytes.flatMap (escapeByte mark) ++ [mark]))

/-- Quoted texts between square brackets. -/
def quoteList (texts : List String) : String :=
  "[" ++ ", ".intercalate (texts.map quote) ++ "]"

theorem quoteMark_eq (s : List Char) : quoteMark s = '\'' ∨ quoteMark s = '"' := by
  unfold quoteMark; split <;> simp

end Preflight.Text
