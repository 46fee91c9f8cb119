import Preflight.Settings.Draft

/-! Settings laid over settings: lists are joined, records are merged field by field, changes are
made, and anything else gives way. Data may say itself how it is joined, by a key of a record or
an item of a list. -/
namespace Preflight.Settings
open Draft

/-- A record is joined or not as this key says; a list with this item is joined once more. -/
def joinMark : String := "dynaconf_merge"

/-- A list with this item takes over no item that it has. -/
def uniqueMark : String := "dynaconf_merge_unique"

def hasItem (x : Draft) (items : List Draft) : Bool := items.any (same x ·)

def dropItem (x : Draft) : List Draft → List Draft
  | [] => []
  | y :: ys => if same x y then ys else y :: dropItem x ys

/-- Old items before new ones. -/
def prepend (unique : Bool) (xs ys : List Draft) : List Draft :=
  xs.foldr (fun x zs => if unique && hasItem x zs then zs else x :: zs) ys

def joinItems (unique : Bool) (xs ys : List Draft) : List Draft :=
  prepend (unique || hasItem (.text uniqueMark) ys) xs (dropItem (.text uniqueMark) ys)

/-- A place counted from the end is negative, and one beyond an end is that end. -/
def insertItem (place : Int) (x : Draft) (items : List Draft) : List Draft :=
  let i := (if place < 0 then max 0 (place + items.length) else place).toNat
  items.take i ++ x :: items.drop i

/-- What a record says of how it is joined, and its other fields. -/
def takeMarks (fields : List (String × Draft)) : Option Draft × List (String × Draft) :=
  ((Entries.get? joinMark fields).or (Entries.get? uniqueMark fields),
    Entries.without [joinMark, uniqueMark] fields)

/-- A mark that is more than a yes or no stands for what the record would hold. -/
def isAnswer : Draft → Bool
  | .plain .null => true
  | d => same (.plain (.bool true)) d || same (.plain (.bool false)) d

def unmarked (mark : Option Draft) (fields : List (String × Draft)) : Draft :=
  match mark with
  | some m => if fields.isEmpty && !isAnswer m then m else .record fields
  | none => .record fields

/-- A new value that was joined to an old one, made to do what its own marks say. -/
def applyMarks (join : Draft → Draft) (old : Option Draft) : Draft → Draft
  | .list ys =>
    let unique := hasItem (.text uniqueMark) ys
    if unique || hasItem (.text joinMark) ys then
      .list (prepend unique ((old.bind items?).getD [])
        (dropItem (.text uniqueMark) (dropItem (.text joinMark) ys)))
    else .list ys
  | .record fields =>
    let (mark, rest) := takeMarks fields
    let d := unmarked mark rest
    if mark.any (!·.isTrivial) then join d else d
  | d => d

/-- What a new value makes of an old one, its marks aside; nothing when the old one is to go.
`join` joins a value to the old one. -/
def alter (join : Bool → Draft → Draft) (old : Option Draft) : Draft → Option Draft
  | .delete => none
  | .replace d => some d
  | .join unique d => some (join unique d)
  | .insert place d => some (.list (insertItem place d ((old.bind items?).getD [])))
  | d => some d

def change (join : Bool → Draft → Draft) (old : Option Draft) (d : Draft) : Option Draft :=
  (alter join old d).map (applyMarks (join false) old)

/-- A value that nothing new was said of, when something was said beside it. -/
def keep (d : Draft) : Option Draft := change (fun _ d => d) (some d) d

/-- New fields by the names of old ones. Of two names for one field the later one counts. -/
def rename (old : List String) (fields : List (String × Draft)) : List (String × Draft) :=
  (Entries.keys fields).foldl (fun renamed name =>
    match findKey? name old, Entries.get? name renamed with
    | some key, some d => Entries.without [name, key] renamed ++ [(key, d)]
    | _, _ => renamed) fields

/-- A field as it is put among others, or its absence. -/
def putField (key : String) (d : Option Draft) (fields : List (String × Draft)) :
    List (String × Draft) :=
  match d with
  | some d => Entries.put key d fields
  | none => Entries.without [key] fields

/-- Old fields keep their places and new ones follow. Two old names that mean one new field both
have its value. -/
def arrange (old new : List String) (laid : List (String × Draft)) : List (String × Draft) :=
  let place (key : String) : Option (String × Draft) :=
    ((Entries.get? key laid).or ((new.find? (means key)).bind (Entries.get? · laid))).map (key, ·)
  old.filterMap place ++ laid.filter fun f => !old.contains f.1

mutual
/-- New over old. What is the same already is not joined again. -/
def merge : Draft → (unique : Bool) → Draft → Draft
  | .list xs, unique, .list ys =>
    if sameItems xs ys then .list ys else .list (joinItems unique xs ys)
  | .record fs, _, .record gs =>
    if same (.record fs) (.record gs) then .record gs
    else
      let named := rename (Entries.keys fs) gs
      let wanted := ((Entries.get? joinMark named).map (!·.isTrivial)).getD true
      let new := Entries.without [joinMark] named
      let names := Entries.keys new
      let laid := mergeFields wanted names fs new
      let fresh := names.filter fun name => !(Entries.keys fs).contains name
      let laid := fresh.foldl (fun laid name =>
        putField name ((Entries.get? name laid).bind (change (fun _ d => d) none)) laid) laid
      .record (if wanted then arrange (Entries.keys fs) names laid else laid)
  | _, _, d => d

/-- `names` are the fields that something new was said of. -/
def mergeFields (wanted : Bool) (names : List String) :
    List (String × Draft) → List (String × Draft) → List (String × Draft)
  | [], laid => laid
  | f :: fs, laid => mergeFields wanted names fs (mergeField wanted names f laid)

def mergeField (wanted : Bool) (names : List String) :
    String × Draft → List (String × Draft) → List (String × Draft)
  | (key, old), laid =>
    let found := if wanted then findKey? key names else names.find? (· == key)
    match found with
    | some name =>
      let d := (Entries.get? name laid).bind fun d =>
        change (merge old) (some old) (if wanted then merge old false d else d)
      putField name d laid
    | none => if wanted then putField key (keep old) laid else laid
end

theorem merge_self_text (s : String) (unique : Bool) (d : Draft) :
    merge (.text s) unique d = d := by
  cases d <;> rfl

end Preflight.Settings
