import Preflight.Datum
import Preflight.Number.Shortest
import Preflight.Text.Quoted

/-! Data as one line of JSON in plain ASCII: a comma and a colon are followed by a space, and
everything outside the printable ASCII range is escaped, in UTF-16 units where it has two. -/
namespace Preflight.Json
open Preflight.Text (hexDigits)

def escapeUnit (n : Nat) : List Char := '\\' :: 'u' :: hexDigits 4 n

def escapeChar (c : Char) : List Char :=
  if c = '"' then ['\\', '"']
  else if c = '\\' then ['\\', '\\']
  else if c = '\n' then ['\\', 'n']
  else if c = '\r' then ['\\', 'r']
  else if c = '\t' then ['\\', 't']
  else if c.toNat = 0x08 then ['\\', 'b']
  else if c.toNat = 0x0c then ['\\', 'f']
  else if 0x20 ≤ c.toNat && c.toNat ≤ 0x7e then [c]
  else if c.toNat < 0x10000 then escapeUnit c.toNat
  else
    let n := c.toNat - 0x10000
    escapeUnit (0xd800 + n / 0x400) ++ escapeUnit (0xdc00 + n % 0x400)

def writeText (s : String) : List Char := '"' :: (s.toList.flatMap escapeChar ++ ['"'])

def writeFloat : Binary64 → List Char
  | .nan => "NaN".toList
  | .infinite negative => (if negative then "-Infinity" else "Infinity").toList
  | x => x.display.toList

mutual
def writeDatum : Datum → List Char
  | .null => "null".toList
  | .bool b => (if b then "true" else "false").toList
  | .int n => (toString n).toList
  | .float x => writeFloat x
  | .text s | .moment s => writeText s
  | .list xs => '[' :: (writeItems xs ++ [']'])
  | .record fs => '{' :: (writeFields fs ++ ['}'])

def writeItems : List Datum → List Char
  | [] => []
  | [x] => writeDatum x
  | x :: y :: rest => writeDatum x ++ ',' :: ' ' :: writeItems (y :: rest)

def writeFields : List (String × Datum) → List Char
  | [] => []
  | [f] => writeField f
  | f :: g :: rest => writeField f ++ ',' :: ' ' :: writeFields (g :: rest)

def writeField : String × Datum → List Char
  | (key, x) => writeText key ++ ':' :: ' ' :: writeDatum x
end

def write (x : Datum) : String := .ofList (writeDatum x)

end Preflight.Json
