import Preflight.Settings.Mark
import Preflight.Settings.Merge

/-! All settings by their names at the top, while they are being laid over each other. A dotted
name leads into records: what is set at its end is laid over what is there, and then the whole
setting over the old one. -/
namespace Preflight.Settings
open Draft
open Text (sameIgnoringCase)

/-- Settings under keys in upper case. -/
abbrev Store := List (String × Draft)

/-- The key of a name at the top. What stands behind two underscores keeps its case. -/
def topKey (name : String) : String :=
  match Text.split "__" name with
  | first :: rest => "__".intercalate (Text.upper first :: rest)
  | [] => ""

/-- A value at the end of a path. -/
def nest (path : List String) (d : Draft) : Draft :=
  path.foldr (fun name d => .record [(name, d)]) d

/-- What stays of an old field when something is set beside it. Marks do their work only once. -/
def leave : Draft → Option Draft
  | .delete => none
  | .record fields => some (.record (takeMarks fields).2)
  | d => some d

/-- A field laid over a record: what is left of the old record, and the new one. -/
def layField (key : String) (d : Draft) (old : List (String × Draft)) :
    List (String × Draft) × List (String × Draft) :=
  if key = joinMark then
    (old, if d.isTrivial then [] else old.filterMap fun f => (keep f.2).map (f.1, ·))
  else
    let there := Entries.get? key old
    let here := change (fun unique d => (there.map (merge · unique d)).getD d) there d
    let left := old.filterMap fun f =>
      (if f.1 = key then here.map fun _ => f.2 else leave f.2).map (f.1, ·)
    let laid := old.filterMap fun f => (if f.1 = key then here else keep f.2).map (f.1, ·)
    (left, if there.isSome then laid else laid ++ (here.map (key, ·)).toList)

/-- A value laid at the end of a path through records. What is not a record on the way gives way
to one, and what is at the end gives way unless its key differs from the name by more than case. -/
def layAlong : List String → Draft → List (String × Draft) →
    List (String × Draft) × List (String × Draft)
  | [], _, old => (old, old)
  | [name], d, old =>
    let key := matchKey name old
    let d := if sameIgnoringCase key name then d
      else ((Entries.get? key old).map (merge · false d)).getD d
    layField key d old
  | name :: rest, d, old =>
    let key := matchKey name old
    match Entries.get? key old with
    | some (.record inner) =>
      let (left, laid) := layAlong rest d inner
      layField key (.record laid) (Entries.put key (.record left) old)
    | _ => layField key (nest rest d) old

/-- A list's marks, that it is joined and that without repeats, and its other items. -/
def takeItemMarks (items : List Draft) : Bool × Bool × List Draft :=
  if hasItem (.text joinMark) items then (true, false, dropItem (.text joinMark) items)
  else if hasItem (.text uniqueMark) items then (true, true, dropItem (.text uniqueMark) items)
  else (false, false, items)

/-- A new setting over an old one, as its own marks say or else as is `usual`. -/
def layOver (usual : Bool) (old d : Draft) : Draft :=
  let d := match d with
    | .record fields =>
      let (mark, rest) := takeMarks fields
      let d := unmarked mark rest
      let refused := match mark with
        | some (.plain (.bool b)) => !b
        | _ => false
      if mark.any (!isTrivial ·) || (usual && !refused) then merge old false d else d
    | d => d
  match d with
  | .list items =>
    let (marked, unique, rest) := takeItemMarks items
    if marked || usual then merge old unique (.list rest) else .list items
  | d => d

namespace Store

/-- A setting about how settings are loaded. -/
def option? (name : String) (s : Store) : Option Draft :=
  Entries.get? (name ++ "_FOR_DYNACONF") s

def isOn (name : String) (s : Store) : Bool := ((s.option? name).map (!·.isTrivial)).getD true

/-- What stands for a dot in a name. -/
def separator (s : Store) : String :=
  match s.option? "NESTED_SEPARATOR" with
  | none => "__"
  | some (.plain (.text t)) => t
  | some _ => ""

/-- Whether dots lead into records. -/
def isDotted (s : Store) : Bool :=
  match s.option? "DOTTED_LOOKUP" with
  | none | some (.plain (.bool true)) => true
  | some _ => false

def path (s : Store) (name : String) : List String :=
  let dotted := if s.separator = "" then name else Text.replace s.separator "." name
  if s.isDotted then Text.split "." dotted else [dotted]

/-- Texts by their marks, unless settings say that texts have none. -/
def expand (s : Store) (d : Draft) : Except Fault Draft :=
  if s.isOn "AUTO_CAST" then Settings.expand d else .ok d

/-- A setting laid over the one at the top that has its name. `joined` says whether the source of
the setting has its settings joined to others. -/
def setTop (joined : Option Draft) (name : String) (d : Draft) (s : Store) :
    Except Fault Store := do
  let key := topKey (Text.trim name)
  let old := Entries.get? key s
  let there := old.filter (!·.isTrivial)
  match alter (fun unique d => (there.map (merge · unique d)).getD d) there (← s.expand d) with
  | none => return Entries.without [key] s
  | some d => return Entries.put key (lay old d) s
where
  lay (old : Option Draft) (d : Draft) : Draft :=
    match old with
    | none | some (.plain .null) => d
    | some old =>
      if same old d then d
      else match joined with
        | some mark => if mark.isTrivial then layOver false old d else merge old false d
        | none => layOver (s.isOn "MERGE_ENABLED") old d

/-- A setting laid over what its name leads to. -/
def set (joined : Option Draft) (name : String) (d : Draft) (s : Store) : Except Fault Store := do
  match s.path name with
  | [] => return s
  | [name] => s.setTop joined name d
  | first :: rest =>
    let d ← s.expand d
    match (Entries.get? (topKey first) s).filter (!·.isTrivial) with
    | some (.record old) =>
      let (left, laid) := layAlong rest d old
      let old := Draft.record left
      let laid := applyMarks (merge old false) (some old) (.record laid)
      setTop none first laid (Entries.put (topKey first) old s)
    | _ => s.setTop none first (nest rest d)

end Store
end Preflight.Settings
