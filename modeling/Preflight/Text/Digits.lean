/-! Digits in texts: ASCII digits and hexadecimal ones in either case, and their values. -/
namespace Preflight.Text

def isDigit (c : Char) : Bool := '0' ≤ c && c ≤ '9'

def hexValue? (c : Char) : Option Nat :=
  if '0' ≤ c ∧ c ≤ '9' then some (c.toNat - 0x30)
  else if 'a' ≤ c ∧ c ≤ 'f' then some (c.toNat - 0x57)
  else if 'A' ≤ c ∧ c ≤ 'F' then some (c.toNat - 0x37)
  else none

def isHexDigit (c : Char) : Bool := (hexValue? c).isSome

/-- The value of digits read from left to right. -/
def valueIn (base : Nat) (ds : List Char) : Nat :=
  ds.foldl (fun n c => base * n + (hexValue? c).getD 0) 0

def digitsValue (ds : List Char) : Nat := valueIn 10 ds

def readDigits (cs : List Char) : List Char × List Char :=
  (cs.takeWhile isDigit, cs.dropWhile isDigit)

theorem readDigits_append (cs : List Char) : (readDigits cs).1 ++ (readDigits cs).2 = cs :=
  List.takeWhile_append_dropWhile

theorem valueIn_append (base : Nat) (ds : List Char) (c : Char) :
    valueIn base (ds ++ [c]) = base * valueIn base ds + (hexValue? c).getD 0 := by
  simp [valueIn]

end Preflight.Text
