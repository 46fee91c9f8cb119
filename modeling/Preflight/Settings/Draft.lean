import Preflight.Datum
import Preflight.Text.Casing
import Preflight.Text.Split

/-! Settings before they are settled: data with changes in it that wait for what they change, and
values that wait for all settings to be known. -/
namespace Preflight.Settings
open Text (sameIgnoringCase)

/-- What a text is turned into. -/
inductive Cast where
  | text | integer | real | flag | json
  | upper | lower | title | capitalize | fold | swapCase
  | trim | trimLeft | trimRight | words
deriving DecidableEq, Repr

/-- Where a value comes from that only all settings together decide. -/
inductive Source where
  /-- A template whose holes name settings. -/
  | template (text : String)
  /-- The setting of a name. -/
  | setting (request : String)
  /-- A template in a language that is not at hand. -/
  | foreign (text : String)
deriving DecidableEq, Repr

inductive Draft where
  /-- Data with nothing inside. -/
  | plain (d : Datum)
  | list (items : List Draft)
  | record (fields : List (String × Draft))
  | pending (source : Source) (cast : Option Cast)
  /-- What is there is to go. -/
  | delete
  | replace (d : Draft)
  | join (unique : Bool) (d : Draft)
  | insert (place : Int) (d : Draft)
deriving Repr, Inhabited

/-- An integer as it is, be it written as a flag or with a fraction of zero. -/
def integer? : Datum → Option Int
  | .bool b => some b.toNat
  | .int n => some n
  | .float x => x.toInt?
  | _ => none

/-- Numbers are the same by their value. -/
def samePlain (d e : Datum) : Bool :=
  match integer? d with
  | some n => integer? e == some n
  | none => d == e

namespace Draft

def text (s : String) : Draft := .plain (.text s)

mutual
def ofDatum : Datum → Draft
  | .list items => .list (ofItems items)
  | .record fields => .record (ofFields fields)
  | d => .plain d

def ofItems : List Datum → List Draft
  | [] => []
  | d :: rest => ofDatum d :: ofItems rest

def ofFields : List (String × Datum) → List (String × Draft)
  | [] => []
  | f :: rest => ofField f :: ofFields rest

def ofField : String × Datum → String × Draft
  | (key, d) => (key, ofDatum d)
end

def fields? : Draft → Option (List (String × Draft))
  | record fs => some fs
  | _ => none

def items? : Draft → Option (List Draft)
  | list items => some items
  | _ => none

/-- No value, a zero, or nothing in it. -/
def isTrivial : Draft → Bool
  | plain d => d.isTrivial
  | list items => items.isEmpty
  | record fs => fs.isEmpty
  | _ => false

mutual
def beq : Draft → Draft → Bool
  | .plain d, .plain e => d == e
  | .list xs, .list ys => beqItems xs ys
  | .record fs, .record gs => beqFields fs gs
  | .pending source cast, .pending source' cast' => source == source' && cast == cast'
  | .delete, .delete => true
  | .replace d, .replace e => beq d e
  | .join unique d, .join unique' e => unique == unique' && beq d e
  | .insert place d, .insert place' e => place == place' && beq d e
  | _, _ => false
termination_by structural d => d

def beqItems : List Draft → List Draft → Bool
  | [], [] => true
  | x :: xs, y :: ys => beq x y && beqItems xs ys
  | _, _ => false
termination_by structural items => items

def beqFields : List (String × Draft) → List (String × Draft) → Bool
  | [], [] => true
  | f :: fs, g :: gs => beqField f g && beqFields fs gs
  | _, _ => false
termination_by structural fields => fields

def beqField : String × Draft → String × Draft → Bool
  | (k, x), (l, y) => k == l && beq x y
termination_by structural field => field
end

instance : BEq Draft := ⟨beq⟩

mutual
/-- Records are the same whatever the order of their fields. -/
def same : Draft → Draft → Bool
  | .plain d, .plain e => samePlain d e
  | .list xs, .list ys => sameItems xs ys
  | .record fs, .record gs => fs.length == gs.length && sameFields fs gs
  | x, y => x == y
termination_by structural d => d

def sameItems : List Draft → List Draft → Bool
  | [], [] => true
  | x :: xs, y :: ys => same x y && sameItems xs ys
  | _, _ => false
termination_by structural items => items

def sameFields : List (String × Draft) → List (String × Draft) → Bool
  | [], _ => true
  | f :: fs, gs => sameField f gs && sameFields fs gs
termination_by structural fields => fields

def sameField : String × Draft → List (String × Draft) → Bool
  | (key, x), gs => (Entries.get? key gs).any (same x ·)
termination_by structural field => field
end

end Draft

/-- A name means a key when they differ in case alone, or by blanks where the name has
underscores. -/
def means (name key : String) : Bool :=
  sameIgnoringCase key name || sameIgnoringCase (Text.replace " " "_" key) name

/-- The key that a name means: the name itself if it is there, or else the first one meant. -/
def findKey? (name : String) (keys : List String) : Option String :=
  if name ∈ keys then some name else keys.find? (means name)

/-- The key that a name means, or a new one. -/
def matchKey (name : String) (fields : List (String × Draft)) : String :=
  (findKey? name (Entries.keys fields)).getD name

theorem findKey?_self {name : String} {keys : List String} (h : name ∈ keys) :
    findKey? name keys = some name := by simp [findKey?, h]

theorem mem_of_findKey? {name key : String} {keys : List String}
    (h : findKey? name keys = some key) : key ∈ keys := by
  unfold findKey? at h
  split at h
  · cases h; assumption
  · exact List.mem_of_find?_eq_some h

end Preflight.Settings
