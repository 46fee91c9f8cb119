import Preflight.Fault
import Preflight.Json.Relaxed
import Preflight.Number.Written
import Preflight.Settings.Draft
import Preflight.Text.Blank
import Preflight.Text.Split
import Preflight.Toml.Document

/-! Texts that say what they stand for: a mark, such as `@int`, a blank, and what it is about. A
mark may also stand before the mark of a template, and then turns what fills the template into
something else. -/
namespace Preflight.Settings
open Text (decimalValue?)

inductive Mark where
  | cast (c : Cast)
  | nothing
  | template | setting | foreign
  | delete | replace | insert
  | join (unique : Bool)
deriving DecidableEq, Repr

/-- The marks by their words. -/
def marks : List (String × Mark) := [
  ("@str", .cast .text), ("@int", .cast .integer), ("@float", .cast .real),
  ("@bool", .cast .flag), ("@json", .cast .json),
  ("@upper", .cast .upper), ("@lower", .cast .lower), ("@title", .cast .title),
  ("@capitalize", .cast .capitalize), ("@casefold", .cast .fold), ("@swapcase", .cast .swapCase),
  ("@strip", .cast .trim), ("@lstrip", .cast .trimLeft), ("@rstrip", .cast .trimRight),
  ("@split", .cast .words),
  ("@none", .nothing), ("@null", .nothing), ("@note", .nothing), ("@comment", .nothing),
  ("@format", .template), ("@get", .setting), ("@jinja", .foreign),
  ("@del", .delete), ("@reset", .replace), ("@insert", .insert),
  ("@merge", .join false), ("@merge_unique", .join true)]

/-! ## Casts -/

def readInteger (s : String) : Except Fault Datum :=
  match Written.integerDigits? s with
  | none => .error (.badSetting (.notInteger s))
  | some (negative, ds) =>
    if integerDigitLimit < ds.length then .error (.badSetting (.longInteger s ds.length))
    else .ok (.int (if negative then -(Written.value ds : Int) else Written.value ds))

def readReal (s : String) : Except Fault Datum :=
  match Written.real? s with
  | some x => .ok (.float x)
  | none => .error (.badSetting (.notReal s))

/-- Any other word than these is a flag that is down. -/
def raisedWords : List String := ["t", "true", "enabled", "1", "on", "yes"]

/-- JSON, or data in a looser notation, or the first record that the text holds. -/
def readData (s : String) : Except Fault Datum :=
  match ((Json.read? s).or (Json.Relaxed.read? s)).or (Json.objects s).head? with
  | some d => .ok d
  | none => .error (.badSetting (.notData s))

def Cast.read (s : String) : Cast → Except Fault Datum
  | text => .ok (.text s)
  | integer => readInteger s
  | real => readReal s
  | flag => .ok (.bool (raisedWords.contains (Text.lower (Text.trim s))))
  | json => readData s
  | upper => .ok (.text (Text.upper s))
  | lower => .ok (.text (Text.lower s))
  | title => .ok (.text (Text.title s))
  | capitalize => .ok (.text (Text.capitalize s))
  | fold => .ok (.text (Text.fold s))
  | swapCase => .ok (.text (Text.swapCase s))
  | trim => .ok (.text (Text.trim s))
  | trimLeft => .ok (.text (Text.trimLeft s))
  | trimRight => .ok (.text (Text.trimRight s))
  | words => .ok (.texts (Text.words s))

/-! ## What is joined, and where something is inserted -/

def isLetterOrDigit (c : Char) : Bool := c.isAlphanum
def isNamePart (c : Char) : Bool := isLetterOrDigit c || c == ' '
def isValuePart (c : Char) : Bool := isLetterOrDigit c || c == '-' || c == ' ' || c == ':'

/-- Pairs `name=value` wherever they stand. What has been read of a name and, behind the sign, of
its value comes last character first. -/
def pairsFrom (name : List Char) : Option (List Char) → List Char → List (String × String)
  | none, [] => []
  | some value, [] => [pair value]
  | none, c :: cs =>
    if c == '=' then pairsFrom name (some []) cs
    else pairsFrom (if isNamePart c then c :: name else []) none cs
  | some value, c :: cs =>
    if isValuePart c then pairsFrom name (some (c :: value)) cs
    else if c == '=' then pair value :: pairsFrom [] (some []) cs
    else pair value :: pairsFrom [] none cs
where
  pair (value : List Char) : String × String :=
    (Text.trim (.ofList name.reverse), Text.trimRight (.ofList value.reverse))

def pairs (s : String) : List (String × String) := pairsFrom [] none s.toList

/-- Flags and nothing as JSON writes them, after a colon. -/
def asJson (s : String) : String :=
  [("True", "true"), ("False", "false"), ("None", "null")].foldl (fun s (word, json) =>
    Text.replace (":" ++ word) (": " ++ json) (Text.replace (": " ++ word) (": " ++ json) s)) s

/-- What is joined to a setting: a number is an item, and a text is one record, or pairs, or items
with commas between them. `read` reads the value of a pair. -/
def joined (read : String → Except Fault Draft) : Draft → Except Fault Draft
  | .plain (.text s) =>
    match Json.objects (asJson s), pairs s with
    | [d], _ => .ok (.ofDatum d)
    | _, [] => .ok (.list ((Text.split "," s).map .text))
    | _, pairs => do
      let fields ← pairs.mapM fun (name, value) => return (name, ← read value)
      return .record (Entries.ofList fields)
  | .plain (.bool b) => .ok (.list [.plain (.bool b)])
  | .plain (.int n) => .ok (.list [.plain (.int n)])
  | .plain (.float x) => .ok (.list [.plain (.float x)])
  | d => .ok d

def isSign (c : Char) : Bool := c == '-' || c == '+'

/-- A place and what is inserted there. Without a place it is the first one. -/
def splitPlace (s : String) : Except Fault (Int × String) :=
  match s.toList.dropWhile isSign with
  | [] => .error (.badSetting .nothingToInsert)
  | c :: _ =>
    let (place, rest) := (s.toList.takeWhile (· ≠ ' '), s.toList.dropWhile (· ≠ ' '))
    if (decimalValue? c).isNone || rest.isEmpty then .ok (0, s)
    else match Written.integer? (.ofList place) with
      | some n => .ok (n, .ofList (rest.drop 1))
      | none => .error (.badSetting (.notPlace (.ofList place)))

/-! ## Texts with marks -/

/-- What a template's mark makes of what follows it. -/
def Mark.source? (value : String) : Mark → Option Source
  | template => some (.template value)
  | foreign => some (.foreign value)
  | _ => none

/-- A mark before a template. -/
def Mark.ofTemplate (source : Source) : Mark → Draft
  | cast c => .pending source (some c)
  | nothing => .plain .null
  | template | setting | foreign => .pending source none
  | delete => .delete
  | replace => .replace (.pending source none)
  | join unique => .join unique (.pending source none)
  | insert => .insert 0 (.pending source none)

/-- A mark before any other value, whose own marks `read` reads. -/
def Mark.ofValue (read : String → Except Fault Draft) (value : String) :
    Mark → Except Fault Draft
  | cast c => (c.read value).map .ofDatum
  | nothing => .ok (.plain .null)
  | template => .ok (.pending (.template value) none)
  | setting => .ok (.pending (.setting value) none)
  | foreign => .ok (.pending (.foreign value) none)
  | delete => do
    let _ ← read value
    return .delete
  | replace => return .replace (← read value)
  | join unique => return .join unique (← joined read (← read value))
  | insert => do
    let (place, value) ← splitPlace value
    return .insert place (← read value)

/-- The mark before a template's mark, and the template. The two marks are no part of it, wherever
they stand. -/
def beforeTemplate? (s : String) : Option (Mark × Source) :=
  marks.findSome? fun (word, mark) =>
    [("@format", Mark.template), ("@jinja", .foreign)].findSome? fun (language, inner) =>
      let both := word ++ " " ++ language
      if both.toList.isPrefixOf s.toList then
        (inner.source? (Text.trim (Text.replace both "" s))).map (mark, ·)
      else none

/-- A text by its mark, if it has one, and otherwise by `plain`. The first argument bounds the
number of marks within marks. -/
def readMarked (plain : String → Draft) : Nat → String → Except Fault Draft
  | 0, s => .ok (plain s)
  | n + 1, s =>
    match beforeTemplate? s with
    | some (mark, source) => .ok (mark.ofTemplate source)
    | none =>
      let word := s.toList.takeWhile (· ≠ ' ')
      match Entries.get? (.ofList word) marks with
      | some mark =>
        mark.ofValue (readMarked ofToml n) (.ofList (s.toList.drop (word.length + 1)))
      | none => .ok (plain s)
where
  ofToml (s : String) : Draft := ((Toml.read? s).map .ofDatum).getD (.text s)

/-- A text as a setting holds it. -/
def readText (s : String) : Except Fault Draft := readMarked .text s.length s

/-- A variable's text: what has no mark is a TOML value, a flag being capital too, or else the
text itself. Texts may also be read as if there were no marks. -/
def readVariable (marked : Bool) (s : String) : Except Fault Draft :=
  let trimmed := Text.trim s
  let s := if trimmed = "True" ∨ trimmed = "False" then Text.lower s else s
  if marked then readMarked readMarked.ofToml (s.length + 1) s else .ok (readMarked.ofToml s)

mutual
/-- The texts inside a value by their marks. -/
def expand : Draft → Except Fault Draft
  | .plain (.text s) => readText s
  | .list items => (expandItems items).map .list
  | .record fields => (expandFields fields).map .record
  | d => .ok d

def expandItems : List Draft → Except Fault (List Draft)
  | [] => .ok []
  | d :: rest => do return (← expand d) :: (← expandItems rest)

def expandFields : List (String × Draft) → Except Fault (List (String × Draft))
  | [] => .ok []
  | f :: rest => do return (← expandField f) :: (← expandFields rest)

def expandField : String × Draft → Except Fault (String × Draft)
  | (key, d) => do return (key, ← expand d)
end

theorem expand_plain_int (n : Int) : expand (.plain (.int n)) = .ok (.plain (.int n)) := rfl

end Preflight.Settings
