import Preflight.Text.Split

/-! Slash-separated paths: tidying one, where empty and single-dot parts go and `..` stays, and the
limits of names. -/
namespace Preflight.Text

def isPathPart (part : String) : Bool := part ≠ "" && part ≠ "."

/-- The slashes in front that make a path absolute. Exactly two of them are kept. -/
def pathRoot (path : String) : String :=
  match (path.toList.takeWhile (· == '/')).length with
  | 0 => ""
  | 2 => "//"
  | _ => "/"

def tidyPath (path : String) : String :=
  let tidy := pathRoot path ++ "/".intercalate ((split "/" path).filter isPathPart)
  if tidy = "" then "." else tidy

/-- The largest numbers of bytes in a part of a path and in a whole one. -/
def partLimit : Nat := 255
def pathLimit : Nat := 4095

/-- A tidy path is too long, or the first part that leads down is; what is behind that part does
not count where nothing is. A path with a null character names nothing. -/
def isPathTooLong (path : String) : Bool :=
  let parts := (split "/" path).filter isPathPart
  !path.toList.contains '\x00' &&
    (pathLimit < path.utf8ByteSize ||
      (parts.find? (· ≠ "..")).any fun part => partLimit < part.utf8ByteSize)

end Preflight.Text
