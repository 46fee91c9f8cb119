import Preflight.Text.Decimal
import Preflight.Text.Placeholder.Failure

/-! Templates with named holes, `\x7bname.part[key]!r:layout\x7d`: how a hole is written, what it
leads through, and a template taken apart piece by piece. A bracket of the hole written twice
stands for itself. -/
namespace Preflight.Text.Placeholder
open Text (decimalValue?)

/-- One step from a value to a part of it. -/
inductive Step where
  | part (name : String)
  | item (key : String)
  | place (index : Nat)
deriving DecidableEq, Repr

/-- A hole: what it names, the form its value is turned into, and its layout. -/
structure Hole where
  name : List Char
  conversion : Option Char := none
  layout : List Char := []
deriving DecidableEq, Repr

def isOpening (c : Char) : Bool := c == '\x7b'
def isClosing (c : Char) : Bool := c == '\x7d'

/-- The name up to what ends it. Inside square brackets nothing does. -/
def readName : (inBrackets : Bool) → List Char → Except PlaceholderError (List Char × List Char)
  | _, [] => .error .unclosed
  | inBrackets, c :: cs =>
    if !inBrackets && isOpening c then .error .openingInName
    else if !inBrackets && (isClosing c || c == ':' || c == '!') then .ok ([], c :: cs)
    else
      let within := c == '[' || (inBrackets && c != ']')
      (readName within cs).map fun (name, rest) => (c :: name, rest)

/-- The layout up to the bracket that closes the hole; `depth` holes are open inside it. -/
def readLayout : (depth : Nat) → List Char → Except PlaceholderError (List Char × List Char)
  | _, [] => .error .unclosedLayout
  | depth, c :: cs =>
    if isOpening c then (readLayout (depth + 1) cs).map fun (l, r) => (c :: l, r)
    else if isClosing c then
      match depth with
      | 0 => .ok ([], cs)
      | depth + 1 => (readLayout depth cs).map fun (l, r) => (c :: l, r)
    else (readLayout depth cs).map fun (l, r) => (c :: l, r)

def readHole (cs : List Char) : Except PlaceholderError (Hole × List Char) := do
  let (name, rest) ← readName false cs
  match rest with
  | '!' :: rest =>
    match rest with
    | [] => .error .noConversion
    | [_] => .error .unclosedLayout
    | c :: d :: rest =>
      if isClosing d then return (⟨name, some c, []⟩, rest)
      else if d = ':' then
        let (layout, rest) ← readLayout 0 rest
        return (⟨name, some c, layout⟩, rest)
      else .error .noColon
  | ':' :: rest =>
    let (layout, rest) ← readLayout 0 rest
    return (⟨name, none, layout⟩, rest)
  | rest => return (⟨name, none, []⟩, rest.drop 1)

/-- The text before the next hole, the hole, and the rest. -/
def next : List Char → Except PlaceholderError (List Char × Option Hole × List Char)
  | [] => .ok ([], none, [])
  | [c] =>
    if isOpening c then .error .loneOpening
    else if isClosing c then .error .loneClosing
    else .ok ([c], none, [])
  | c :: d :: cs =>
    if (isOpening c || isClosing c) && c == d then
      (next cs).map fun (s, hole, rest) => (c :: s, hole, rest)
    else if isOpening c then (readHole (d :: cs)).map fun (hole, rest) => ([], some hole, rest)
    else if isClosing c then .error .loneClosing
    else (next (d :: cs)).map fun (s, hole, rest) => (c :: s, hole, rest)

def countLimit : Nat := Nat.pow 2 63 - 1

/-- A number in digits of any script, if a name is one. -/
def index? (name : List Char) : Except PlaceholderError (Option Nat) :=
  if name.isEmpty || name.any (fun c => (decimalValue? c).isNone) then .ok none
  else
    let n := (name.filterMap decimalValue?).foldl (fun n d => 10 * n + d) 0
    if countLimit < n then .error .tooManyDigits else .ok (some n)

def isStepStart (c : Char) : Bool := c == '.' || c == '['

/-- The first name of a hole, and what follows it. -/
def Hole.root (h : Hole) : List Char × List Char :=
  (h.name.takeWhile fun c => !isStepStart c, h.name.dropWhile fun c => !isStepStart c)

/-- The next step, and what follows it. -/
def nextStep : List Char → Except PlaceholderError (Option (Step × List Char))
  | [] => .ok none
  | '.' :: cs =>
    let name := cs.takeWhile fun c => !isStepStart c
    if name.isEmpty then .error .emptyName
    else .ok (some (.part (.ofList name), cs.drop name.length))
  | '[' :: cs =>
    let key := cs.takeWhile (· ≠ ']')
    match cs.drop key.length with
    | [] => .error .unclosedIndex
    | _ :: rest =>
      if key.isEmpty then .error .emptyName
      else (index? key).map fun
        | some n => some (.place n, rest)
        | none => some (.item (.ofList key), rest)
  | _ => .error .notAName

/-- A walk from a value along steps, each of which may fail. The first argument bounds their
number. -/
def walk {α ε : Type} (fail : PlaceholderError → ε) (move : α → Step → Except ε α) :
    Nat → α → List Char → Except ε α
  | 0, a, _ => .ok a
  | n + 1, a, cs =>
    match nextStep cs with
    | .error e => .error (fail e)
    | .ok none => .ok a
    | .ok (some (step, rest)) => do walk fail move n (← move a step) rest

/-- A template filled by what `show` gives for its holes. The first argument bounds the number of
pieces. -/
def fillPieces {ε : Type} (fail : PlaceholderError → ε) (shown : Hole → Except ε String) :
    Nat → List Char → Except ε String
  | 0, _ => .ok ""
  | n + 1, cs =>
    match next cs with
    | .error e => .error (fail e)
    | .ok (s, none, _) => .ok (.ofList s)
    | .ok (s, some hole, rest) => do
      let value ← shown hole
      return .ofList s ++ value ++ (← fillPieces fail shown n rest)

def fill {ε : Type} (fail : PlaceholderError → ε) (shown : Hole → Except ε String)
    (template : List Char) : Except ε String :=
  fillPieces fail shown (template.length + 1) template

theorem next_nil : next [] = .ok ([], none, []) := rfl

end Preflight.Text.Placeholder
