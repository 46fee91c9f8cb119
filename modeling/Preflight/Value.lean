import Preflight.Checkpoint
import Preflight.Datum
import Preflight.Element
import Preflight.Measurement
import Preflight.Number.Shortest
import Preflight.Text.Quoted
import Preflight.Unit

/-! What a caller may hand over where a unit, a measurement kind or a name is asked for: plain
data, types, and members of the library's own sets; and the text that messages show it by. -/
namespace Preflight
open Text (quote quoteBytes)

/-- A type used as a value. -/
inductive TypeRef where
  | builtin (name : String)
  | defined (home name : String)
  | enumeration (name : String)
deriving DecidableEq, Repr

namespace TypeRef

def name : TypeRef → String
  | builtin n => n
  | defined _ n => n
  | enumeration n => n

def display : TypeRef → String
  | builtin n => "<class '" ++ n ++ "'>"
  | defined home n => "<class '" ++ home ++ "." ++ n ++ "'>"
  | enumeration n => "<enum '" ++ n ++ "'>"

end TypeRef

inductive Value where
  | null
  | bool (b : Bool)
  | int (n : Int)
  | float (x : Binary64)
  | text (s : String)
  | bytes (bs : List UInt8)
  | list (items : List Value)
  | tuple (items : List Value)
  | record (fields : List (String × Value))
  | type (t : TypeRef)
  | measurement (m : Measurement)
  | base (u : BaseUnit)
  | scale (s : Scale)
  | unit (u : ScaledUnit)
  | checkpoint (c : Checkpoint)
  | element (e : Element)
deriving Inhabited

def Measurement.display (m : Measurement) : String :=
  "<MeasurementType." ++ m.label ++ ": " ++ quote m.code ++ ">"

def BaseUnit.display (u : BaseUnit) : String :=
  "<Unit." ++ u.label ++ ": " ++ quote u.code ++ ">"

def Scale.display (s : Scale) : String :=
  "<UnitPrefix." ++ s.label ++ ": (" ++ quote s.symbol ++ ", " ++ toString s.exponent ++ ")>"

def ScaledUnit.display (u : ScaledUnit) : String :=
  "PrefixedUnit(base_unit=" ++ u.base.display ++ ", prefix=" ++ u.scale.display ++ ")"

def Checkpoint.display (c : Checkpoint) : String :=
  "<Checkpoint." ++ c.label ++ ": " ++ quote c.word ++ ">"

def Element.display (e : Element) : String :=
  e.kind.typeName ++ "(plugin=" ++ quote e.name.plugin ++ ", " ++ e.kind.word ++ "=" ++
    quote e.name.label ++ ")"

namespace Value

/-- Parts between brackets; a tuple of one part keeps a comma. -/
def enclose (left right : String) (parts : List String) : String :=
  left ++ ", ".intercalate parts ++ right

def tupleText : List String → String
  | [part] => "(" ++ part ++ ",)"
  | parts => enclose "(" ")" parts

mutual
def display : Value → String
  | null => "None"
  | bool b => if b then "True" else "False"
  | int n => toString n
  | float x => x.display
  | text s => quote s
  | bytes bs => quoteBytes bs
  | list items => enclose "[" "]" (displayItems items)
  | tuple items => tupleText (displayItems items)
  | record fields => enclose "\x7b" "\x7d" (displayFields fields)
  | type t => t.display
  | measurement m => m.display
  | base u => u.display
  | scale s => s.display
  | unit u => u.display
  | checkpoint c => c.display
  | element e => e.display

def displayItems : List Value → List String
  | [] => []
  | v :: rest => v.display :: displayItems rest

def displayFields : List (String × Value) → List String
  | [] => []
  | f :: rest => displayField f :: displayFields rest

def displayField : String × Value → String
  | (key, v) => quote key ++ ": " ++ v.display
end

/-- The text that a value is, where a text is asked for: the members of the measurement, unit and
checkpoint sets are texts too, by their codes. -/
def text? : Value → Option String
  | text s => some s
  | measurement m => some m.code
  | base u => some u.code
  | checkpoint c => some c.word
  | _ => none

def typeName : Value → String
  | null => "NoneType"
  | bool _ => "bool"
  | int _ => "int"
  | float _ => "float"
  | text _ => "str"
  | bytes _ => "bytes"
  | list _ => "list"
  | tuple _ => "tuple"
  | record _ => "dict"
  | type (.enumeration _) => "EnumType"
  | type _ => "type"
  | measurement _ => "MeasurementType"
  | base _ => "Unit"
  | scale _ => "UnitPrefix"
  | unit _ => "PrefixedUnit"
  | checkpoint _ => "Checkpoint"
  | element e => e.kind.typeName

mutual
/-- The type name of the first part that has no hash and so can be no key. -/
def unhashable? : Value → Option String
  | list _ => some "list"
  | record _ => some "dict"
  | tuple items => unhashableItem? items
  | _ => none

def unhashableItem? : List Value → Option String
  | [] => none
  | v :: rest => v.unhashable?.or (unhashableItem? rest)
end

mutual
def ofDatum : Datum → Value
  | .null => null
  | .bool b => bool b
  | .int n => int n
  | .float x => float x
  | .text s | .moment s => text s
  | .list items => list (ofItems items)
  | .record fields => record (ofFields fields)

def ofItems : List Datum → List Value
  | [] => []
  | d :: rest => ofDatum d :: ofItems rest

def ofFields : List (String × Datum) → List (String × Value)
  | [] => []
  | f :: rest => ofField f :: ofFields rest

def ofField : String × Datum → String × Value
  | (key, d) => (key, ofDatum d)
end

end Value

namespace Datum

def display (d : Datum) : String := (Value.ofDatum d).display

/-- A text or a moment as it is, any other data by its display. -/
def plainText : Datum → String
  | text s | moment s => s
  | d => d.display

def typeName (d : Datum) : String := (Value.ofDatum d).typeName

end Datum
end Preflight
