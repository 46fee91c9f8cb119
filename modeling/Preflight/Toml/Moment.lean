import Preflight.Text.Digits

/-! Reading a date, a time, or a date with a time and perhaps its distance from universal time.
What is read is the text that a moment is shown by. -/
namespace Preflight.Toml
open Text (isDigit digitsValue)

/-- The number that the first `count` characters are the digits of. -/
def readCount (count : Nat) (cs : List Char) : Option (Nat × List Char) :=
  let ds := cs.take count
  if ds.length = count ∧ ds.all isDigit then some (digitsValue ds, cs.drop count) else none

def isLeap (year : Nat) : Bool := year % 4 == 0 && (year % 100 != 0 || year % 400 == 0)

def daysIn (year month : Nat) : Nat :=
  if month = 2 then if isLeap year then 29 else 28
  else if month ∈ [4, 6, 9, 11] then 30 else 31

def padded (width n : Nat) : List Char := (Nat.toDigits 10 n).leftpad width '0'

def readDate (cs : List Char) : Option (List Char × List Char) := do
  match ← readCount 4 cs with
  | (year, '-' :: cs) =>
    match ← readCount 2 cs with
    | (month, '-' :: cs) =>
      let (day, cs) ← readCount 2 cs
      if 1 ≤ year ∧ 1 ≤ month ∧ month ≤ 12 ∧ 1 ≤ day ∧ day ≤ daysIn year month then
        some (padded 4 year ++ '-' :: padded 2 month ++ '-' :: padded 2 day, cs)
      else none
    | _ => none
  | _ => none

/-- A fraction of a second counts to the sixth place, and one of zero is not shown. -/
def readSubsecond : List Char → List Char × List Char
  | '.' :: c :: cs =>
    let ds := (c :: cs).takeWhile isDigit
    if ds.isEmpty then ([], '.' :: c :: cs)
    else
      let micros := (ds.take 6).rightpad 6 '0'
      (if digitsValue micros = 0 then [] else '.' :: micros, (c :: cs).drop ds.length)
  | cs => ([], cs)

/-- Hours and minutes, both in range. -/
def readHourMinute (cs : List Char) : Option (List Char × List Char) := do
  match ← readCount 2 cs with
  | (hour, ':' :: cs) =>
    let (minute, cs) ← readCount 2 cs
    if hour < 24 ∧ minute < 60 then some (padded 2 hour ++ ':' :: padded 2 minute, cs) else none
  | _ => none

def readTime (cs : List Char) : Option (List Char × List Char) := do
  match ← readHourMinute cs with
  | (shown, ':' :: cs) =>
    let (second, cs) ← readCount 2 cs
    if second < 60 then
      let (part, cs) := readSubsecond cs
      some (shown ++ ':' :: padded 2 second ++ part, cs)
    else none
  | _ => none

/-- The distance from universal time, if one is written. -/
def readOffset : List Char → List Char × List Char
  | [] => ([], [])
  | c :: cs =>
    if c = 'Z' ∨ c = 'z' then ("+00:00".toList, cs)
    else if c = '+' ∨ c = '-' then
      match readHourMinute cs with
      | some (shown, rest) => ((if shown = "00:00".toList then '+' else c) :: shown, rest)
      | none => ([], c :: cs)
    else ([], c :: cs)

/-- What follows a date. Without a time it is a date alone. -/
def readDayTime : List Char → List Char × List Char
  | [] => ([], [])
  | c :: cs =>
    if c = 'T' ∨ c = 't' ∨ c = ' ' then
      match readTime cs with
      | some (shown, rest) =>
        let (offset, rest) := readOffset rest
        (' ' :: shown ++ offset, rest)
      | none => ([], c :: cs)
    else ([], c :: cs)

def readMoment (cs : List Char) : Option (String × List Char) :=
  match readDate cs with
  | some (date, rest) =>
    let (time, rest) := readDayTime rest
    some (.ofList (date ++ time), rest)
  | none => (readTime cs).map fun (time, rest) => (.ofList time, rest)

theorem daysIn_le (year month : Nat) : daysIn year month ≤ 31 := by
  unfold daysIn; repeat' split
  all_goals omega

end Preflight.Toml
