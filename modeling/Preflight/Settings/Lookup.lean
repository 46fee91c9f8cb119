import Preflight.Settings.Store
import Preflight.Text.Placeholder.Layout

/-! Settings settled: what waits for all settings is looked up among them, in a template by the
root `this` and in a request by a dotted name. -/
namespace Preflight.Settings
open Draft
open Text.Placeholder (Hole Step)

/-- What templates and requests are answered from. -/
structure Scope where
  store : Store
  environment : List (String × String)

def fail (e : SettingError) : Fault := .badSetting e
def missing (reason : String) : Fault := .badSetting (.unfilled reason)

/-- A value found, when it is not a text, is cast by its own sort where there is one. -/
def Cast.ofDatum (d : Datum) : Cast → Except Fault Datum
  | integer =>
    match d with
    | .bool b => .ok (.int b.toNat)
    | .int n => .ok (.int n)
    | .float x => .ok (.int (x.truncate?.getD 0))
    | d => Cast.read d.plainText integer
  | real =>
    match d with
    | .float x => .ok (.float x)
    | d => match integer? d with
      | some n => .ok (.float (.ofRatio (n < 0) n.natAbs 1))
      | none => Cast.read d.plainText real
  | c => c.read d.plainText

mutual
/-- A value with all that waits in it looked up. A change that met nothing to change is none. -/
def settle (look : Source → Except Fault Datum) : Draft → Except Fault Datum
  | .plain d => .ok d
  | .list items => (settleItems look items).map .list
  | .record fields => (settleFields look fields).map .record
  | .pending source cast => do
    let d ← look source
    match cast with
    | some c => c.ofDatum d
    | none => return d
  | .delete | .replace _ | .join .. | .insert .. => .ok .null

def settleItems (look : Source → Except Fault Datum) : List Draft → Except Fault (List Datum)
  | [] => .ok []
  | d :: rest => do return (← settle look d) :: (← settleItems look rest)

def settleFields (look : Source → Except Fault Datum) :
    List (String × Draft) → Except Fault (List (String × Datum))
  | [] => .ok []
  | f :: rest => do return (← settleField look f) :: (← settleFields look rest)

def settleField (look : Source → Except Fault Datum) :
    String × Draft → Except Fault (String × Datum)
  | (key, d) => do return (key, ← settle look d)
end

/-! ## Parts of values -/

def fieldOf? (name : String) (fields : List (String × Draft)) : Option Draft :=
  (findKey? name (Entries.keys fields)).bind (Entries.get? · fields)

/-- What is missing when something has no part of a name. -/
def lacking (typeName name : String) : Fault := missing (Fault.lacks typeName name).message

/-- One step into a value. -/
def stepInto : Draft → Step → Except Fault Draft
  | .record fields, .part name => (fieldOf? name fields).elim (.error (missing name)) .ok
  | .record fields, .item key =>
    (fieldOf? key fields).elim (.error (missing (Text.quote key))) .ok
  | .record _, .place n => .error (missing (toString n))
  | .list _, .part name => .error (lacking "list" name)
  | .list _, .item _ => .error (fail (.badTemplate (.needsIndex "list" "str")))
  | .list items, .place n =>
    items[n]?.elim (.error (fail (.badTemplate (.outOfRange "list")))) .ok
  | .plain d, .part name => .error (lacking d.typeName name)
  | .plain (.text _), .item _ => .error (fail (.badTemplate (.needsIndex "string" "str")))
  | .plain (.text s), .place n =>
    match s.toList[n]? with
    | some c => .ok (.text c.toString)
    | none => .error (fail (.badTemplate (.outOfRange "string")))
  | .plain d, _ => .error (fail (.badTemplate (.noItems d.typeName)))
  | _, _ => .ok (.plain .null)

/-- A value of which parts can be taken. -/
def opened (look : Source → Except Fault Datum) : Draft → Except Fault Draft
  | .pending source cast => (settle look (.pending source cast)).map .ofDatum
  | d => .ok d

/-- The value at the end of a path through records, if it leads anywhere. -/
def follow (look : Source → Except Fault Datum) : List String → Draft → Except Fault (Option Draft)
  | [], d => .ok (some d)
  | name :: rest, d => do
    match ((← opened look d).fields?).bind (fieldOf? (Text.upper name)) with
    | some d => follow look rest d
    | none => return none

/-- The setting that a dotted name means. -/
def Scope.find? (scope : Scope) (look : Source → Except Fault Datum) (name : String) :
    Except Fault (Option Draft) :=
  match scope.store.path name with
  | [] => .ok none
  | first :: rest =>
    match Entries.get? (topKey first) scope.store with
    | some d => follow look rest d
    | none => .ok none

/-! ## Templates -/

/-- The first step of a hole, from all settings or from the environment. -/
def Scope.enter (scope : Scope) (look : Source → Except Fault Datum) :
    (root : String) → Step → Except Fault Draft
  | "this", .part name =>
    (Entries.get? (topKey name) scope.store).elim (.error (missing name)) .ok
  | "this", .item name => do
    match ← scope.find? look name with
    | some d => return d
    | none => throw (missing (Text.quote (name ++ " does not exist")))
  | "this", .place n => .error (missing (Text.quote (toString n ++ " does not exist")))
  | _, .part name => .error (lacking "_Environ" name)
  | _, .item name =>
    match Entries.get? name scope.environment with
    | some s => .ok (.text s)
    | none => .error (missing (Text.quote name))
  | _, .place n => .error (missing (toString n))

/-- The value of a hole. -/
def Scope.valueOf (scope : Scope) (look : Source → Except Fault Datum) (hole : Hole) :
    Except Fault Datum := do
  let (root, rest) := hole.root
  let failed (e : Text.PlaceholderError) : Fault := fail (.badTemplate e)
  match ← (Text.Placeholder.index? root).mapError failed with
  | some n => throw (failed (.noArgument n))
  | none =>
    let root := String.ofList root
    if root = "" then throw (failed (.noArgument 0))
    else if root ≠ "this" ∧ root ≠ "env" then throw (missing (Text.quote root))
    else
      match ← (Text.Placeholder.nextStep rest).mapError failed with
      | none => return .text ""
      | some (step, rest) =>
        let move (d : Draft) (step : Step) : Except Fault Draft := do
          stepInto (← opened look d) step
        let d ← Text.Placeholder.walk failed move rest.length (← scope.enter look root step) rest
        settle look d

/-! ## Requests -/

/-- A setting asked for by its name: what it is cast to, and what stands in for it. -/
structure Request where
  name : String
  cast : Option String
  default : Option String
deriving DecidableEq, Repr

def isWordPart (c : Char) : Bool := c.isAlphanum || c == '_' || 0x80 ≤ c.toNat

/-- The parts of a dotted name, and what follows it. -/
def readName : (begun : Bool) → List Char → List Char × List Char
  | begun, '.' :: c :: cs =>
    if begun && isWordPart c then
      let (name, rest) := readName true cs
      ('.' :: c :: name, rest)
    else ([], '.' :: c :: cs)
  | _, c :: cs =>
    if isWordPart c then
      let (name, rest) := readName true cs
      (c :: name, rest)
    else ([], c :: cs)
  | _, [] => ([], [])

def unquote (s : List Char) : List Char :=
  match s with
  | '"' :: cs => if cs.getLast? == some '"' then cs.dropLast else s
  | '\'' :: cs => if cs.getLast? == some '\'' then cs.dropLast else s
  | cs => cs

/-- A request is written `name @cast default`. -/
def Request.read? (s : String) : Option Request :=
  let (name, rest) := readName false (Text.trim s).toList
  if name.isEmpty || rest.head?.any (!Text.isSpace ·) then none
  else
    let rest := rest.dropWhile Text.isSpace
    let cast := if rest.head? == some '@' then '@' :: (rest.drop 1).takeWhile isWordPart else []
    let default := unquote ((rest.drop cast.length).dropWhile Text.isSpace)
    let given (cs : List Char) : Option String := if cs.isEmpty then none else some (.ofList cs)
    some { name := .ofList name, cast := given cast, default := given default }

def castTo (word : Option String) (d : Datum) : Except Fault Datum :=
  match word with
  | none => .ok d
  | some word =>
    match Entries.get? word marks with
    | some (.cast c) => c.ofDatum d
    | some _ => .ok .null
    | none => .error (missing (Text.quote word))

def Scope.answer (scope : Scope) (look : Source → Except Fault Datum) (s : String) :
    Except Fault Datum := do
  match Request.read? s with
  | none => throw (fail (.notRequest s))
  | some r =>
    match ← scope.find? look r.name, r.default with
    | some d, _ => castTo r.cast (← settle look d)
    | none, some text => castTo r.cast (.text text)
    | none, none => throw (fail (.noSetting r.name))

/-! ## All settings -/

/-- What a source gives. The first argument bounds how often one leads to another. -/
def Scope.look (scope : Scope) : Nat → Source → Except Fault Datum
  | 0, _ => .error .nestedTooDeep
  | n + 1, .template text =>
    (Text.Placeholder.render (fun e => fail (.badTemplate e)) (scope.valueOf (scope.look n))
      text).map .text
  | n + 1, .setting request => scope.answer (scope.look n) request
  | _ + 1, .foreign _ => .error (fail .noTemplateLanguage)

def lookLimit : Nat := 300

def Scope.settle (scope : Scope) : Except Fault (List (String × Datum)) :=
  settleFields (scope.look lookLimit) scope.store

theorem settle_plain (look : Source → Except Fault Datum) (d : Datum) :
    Settings.settle look (.plain d) = .ok d := by simp [Settings.settle]

end Preflight.Settings
