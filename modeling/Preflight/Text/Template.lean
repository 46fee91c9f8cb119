import Preflight.Text.Template.Conversion

/-! Percent templates filled in. A hole settles its parts in the order in which they are written,
so that of two faults the one that stands first is reported. -/
namespace Preflight.Text

/-- What a template is filled from: values one after the other, or one value as a whole. -/
inductive Filling where
  | each (values : List Datum)
  | whole (value : Datum)
deriving Repr

/-- A lone record that is not empty stands as a whole, for keys to be looked up in. -/
def Filling.ofList : List Datum → Filling
  | [.record (f :: fs)] => .whole (.record (f :: fs))
  | values => .each values

def Filling.typeName : Filling → String
  | .each _ => "tuple"
  | .whole d => d.typeName

structure Arguments where
  /-- Not used yet, in order. -/
  rest : List Datum
  /-- What keys are looked up in. -/
  keyed : Option Datum

namespace Arguments

/-- A record and a list as a whole may be looked into by keys, and then need not be used at all; a
list has no keys, though. -/
def ofFilling : Filling → Arguments
  | .each values => { rest := values, keyed := none }
  | .whole d => {
      rest := [d]
      keyed := match d with
        | .record _ | .list _ => some d
        | _ => none }

def next (a : Arguments) : Except TemplateError (Datum × Arguments) :=
  match a.rest with
  | [] => .error .notEnough
  | d :: rest => .ok (d, { a with rest })

/-- A key puts what it names in the place of the arguments. -/
def select (a : Arguments) : Key → Except TemplateError Arguments
  | .absent => .ok a
  | .unclosed => .error (if a.keyed.isNone then .needsMapping else .incompleteKey)
  | .named key =>
    match a.keyed with
    | none => .error .needsMapping
    | some (.record fields) =>
      match Entries.get? key fields with
      | some d => .ok { a with rest := [d] }
      | none => .error (.missingKey key)
    | some _ => .error .needsIndex

def nextCount (a : Arguments) : Except TemplateError (Int × Arguments) := do
  match ← a.next with
  | (.int n, a) => return (n, a)
  | (.bool b, a) => return (b.toNat, a)
  | _ => throw .needsCount

def widthLimit : Nat := Nat.pow 2 63 - 1
def precisionLimit : Nat := Nat.pow 2 31 - 1

/-- A negative count means its size, flush left; the least one has no size within the limit. -/
def settleWidth (a : Arguments) (flags : Flags) :
    Amount → Except TemplateError (Flags × Nat × Arguments)
  | .absent => .ok (flags, 0, a)
  | .given n => if widthLimit < n then .error .widthTooBig else .ok (flags, n, a)
  | .asked => do
    let (n, a) ← a.nextCount
    if widthLimit < n ∨ n < -widthLimit - 1 then throw .widthOverflow
    else
      let width := if n.natAbs ≤ widthLimit then n.natAbs else 0
      return ({ flags with left := flags.left || n < 0 }, width, a)

/-- A negative count means zero. -/
def settlePrecision (a : Arguments) : Amount → Except TemplateError (Option Nat × Arguments)
  | .absent => .ok (none, a)
  | .given n => if precisionLimit < n then .error .precisionTooBig else .ok (some n, a)
  | .asked => do
    let (n, a) ← a.nextCount
    if precisionLimit < n ∨ n < -precisionLimit - 1 then throw .precisionOverflow
    else return (some n.toNat, a)

end Arguments

/-- What a hole shows, and the arguments that it leaves. -/
def Hole.fill (h : Hole) (a : Arguments) : Except TemplateError (List Char × Arguments) := do
  let a ← a.select h.key
  let (flags, width, a) ← a.settleWidth h.flags h.width
  let (precision, a) ← a.settlePrecision h.precision
  match h.conversion with
  | none => throw .incomplete
  | some c =>
    let (d, a) ← a.next
    return (← convert { flags, width, precision } c h.index d, a)

def fillPieces : Arguments → List Piece → Except TemplateError (List Char)
  | a, [] => if a.keyed.isNone && !a.rest.isEmpty then .error .leftOver else .ok []
  | a, .char c :: ps => (fillPieces a ps).map (c :: ·)
  | a, .hole h :: ps => do
    let (shown, a) ← h.fill a
    return shown ++ (← fillPieces a ps)

/-- The template with its holes filled. Nothing given one after the other is left over. -/
def fill (template : String) (filling : Filling) : Except TemplateError String :=
  (fillPieces (.ofFilling filling) (piecesOf template)).map .ofList

/-- Without values nothing is a hole. -/
def fillList (template : String) (values : List Datum) : Except TemplateError String :=
  if values.isEmpty then .ok template else fill template (.ofList values)

theorem fillList_nil (template : String) : fillList template [] = .ok template := rfl

end Preflight.Text
