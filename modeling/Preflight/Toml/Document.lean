import Preflight.Toml.Reader

/-! Reading a TOML document: statements on lines of their own, each of which sets a key, opens a
table, or adds a table to a list. Nothing is set or opened twice. -/
namespace Preflight.Toml

/-- A document as far as it is read. Paths are lists of keys. -/
structure Document where
  fields : List (String × Datum) := []
  /-- Lists and records that are written out. No statement leads into one. -/
  sealedPaths : List (List String) := []
  /-- Tables that are not opened again. -/
  opened : List (List String) := []
  /-- Tables that a key with points led through since the last header. -/
  crossed : List (List String) := []
  /-- The table that keys are set in. -/
  header : List String := []

/-- Changes the table at a path; tables on the way are made, and of a list of tables the last one
is meant. -/
def within : List String → (List (String × Datum) → Option (List (String × Datum))) →
    List (String × Datum) → Option (List (String × Datum))
  | [], edit, fields => edit fields
  | key :: path, edit, fields =>
    match Entries.get? key fields with
    | none => (within path edit []).map fun inner => Entries.put key (.record inner) fields
    | some (.record inner) =>
      (within path edit inner).map fun inner => Entries.put key (.record inner) fields
    | some (.list items) =>
      match items.getLast? with
      | some (.record inner) =>
        (within path edit inner).map fun inner =>
          Entries.put key (.list (items.dropLast ++ [.record inner])) fields
      | _ => none
    | _ => none

namespace Document

def isSealed (path : List String) (d : Document) : Bool := d.sealedPaths.any (·.isPrefixOf path)

def setKey (key : List String) (value : Datum) (d : Document) : Option Document := do
  let path := d.header ++ key
  let crossed := (List.range (key.length - 1)).map fun i => d.header ++ key.take (i + 1)
  let stem ← path.getLast?
  if crossed.any (d.opened.contains ·) || d.isSealed path.dropLast then none
  else
    let fields ← within path.dropLast (fun fields =>
      if stem ∈ Entries.keys fields then none else some (fields ++ [(stem, value)])) d.fields
    return { d with
      fields
      crossed := d.crossed ++ crossed
      sealedPaths := match value with
        | .list _ | .record _ => path :: d.sealedPaths
        | _ => d.sealedPaths }

/-- A header ends the table before it. -/
def endTable (d : Document) : Document := { d with opened := d.opened ++ d.crossed, crossed := [] }

def openTable (path : List String) (d : Document) : Option Document :=
  if d.opened.contains path || d.isSealed path then none
  else
    (within path some d.fields).map fun fields =>
      { d with fields, opened := path :: d.opened, header := path }

/-- The new table is as free as if nothing had been opened below the path before. -/
def addTable (path : List String) (d : Document) : Option Document := do
  let stem ← path.getLast?
  if d.isSealed path then none
  else
    let fields ← within path.dropLast (fun fields =>
      match Entries.get? stem fields with
      | none => some (fields ++ [(stem, .list [.record []])])
      | some (.list items) => some (Entries.put stem (.list (items ++ [.record []])) fields)
      | some _ => none) d.fields
    let below (paths : List (List String)) := paths.filter fun p => !path.isPrefixOf p
    return { d with
      fields
      opened := path :: below d.opened
      sealedPaths := below d.sealedPaths
      header := path }

/-- The statement at the start of a line, and what follows it and the blanks after it. -/
def readStatement (d : Document) (cs : List Char) : Option (Document × List Char) := do
  match cs with
  | '[' :: '[' :: r =>
    match ← readKey (r.length + 1) (skipBlanks r) with
    | (path, ']' :: ']' :: r) => return (← d.endTable.addTable path, skipBlanks r)
    | _ => none
  | '[' :: r =>
    match ← readKey (r.length + 1) (skipBlanks r) with
    | (path, ']' :: r) => return (← d.endTable.openTable path, skipBlanks r)
    | _ => none
  | cs =>
    match ← readKey (cs.length + 1) cs with
    | (key, '=' :: r) =>
      let (value, r) ← readValue (2 * r.length + 2) (skipBlanks r)
      return (← d.setKey key value, skipBlanks r)
    | _ => none

/-- The rest of a line after a statement: nothing, or a comment. -/
def endLine : List Char → Option (List Char)
  | '#' :: cs =>
    let comment := cs.takeWhile (· ≠ '\n')
    if comment.any isControl then none else some (cs.drop comment.length)
  | [] => some []
  | '\n' :: cs => some ('\n' :: cs)
  | _ => none

/-- Reads line by line. The first argument bounds the number of lines. -/
def readLines : Nat → Document → List Char → Option Document
  | 0, _, _ => none
  | n + 1, d, cs => do
    let (d, cs) ← match skipBlanks cs with
      | [] => some (d, [])
      | '\n' :: cs => some (d, '\n' :: cs)
      | '#' :: cs => some (d, '#' :: cs)
      | cs => d.readStatement cs
    match ← endLine cs with
    | [] => some d
    | _ :: cs => readLines n d cs

end Document

/-- A line break may be written with a carriage return before it. -/
def plainLineBreaks : List Char → List Char
  | '\r' :: '\n' :: cs => '\n' :: plainLineBreaks cs
  | c :: cs => c :: plainLineBreaks cs
  | [] => []

def readDocument? (cs : List Char) : Option (List (String × Datum)) :=
  let cs := plainLineBreaks cs
  (Document.readLines (cs.length + 1) {} cs).map (·.fields)

/-- The value that a text gives the key `key`, when a document begins so. -/
def read? (s : String) : Option Datum :=
  (readDocument? ("key=".toList ++ s.toList)).bind (Entries.get? "key")

end Preflight.Toml
