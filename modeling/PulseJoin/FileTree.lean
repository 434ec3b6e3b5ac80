/-!
# Files

A directory as a value, and what is found under a path in it.  `Entry.text?` is the content of a
file, or why there is none.
-/

namespace PulseJoin

inductive Entry where
  | absent
  /-- The path leads through something that is no directory. -/
  | blocked
  | unnameable
  /-- The path is too long, or a name in it is. -/
  | overlong
  | forbidden
  | directory
  | file (content : ByteArray)

inductive ReadFault where
  | absent
  | blocked
  | unnameable
  | overlong
  | forbidden
  | directory
  | malformed
  deriving DecidableEq, Repr

def ReadFault.message : ReadFault → String
  | .absent => "No such file or directory (os error 2)"
  | .blocked => "Not a directory (os error 20)"
  | .unnameable => "file name contained an unexpected NUL byte"
  | .overlong => "File name too long (os error 36)"
  | .forbidden => "Permission denied (os error 13)"
  | .directory => "Is a directory (os error 21)"
  | .malformed => "stream did not contain valid UTF-8"

namespace Entry

def text? : Entry → Except ReadFault String
  | .absent => .error .absent
  | .blocked => .error .blocked
  | .unnameable => .error .unnameable
  | .overlong => .error .overlong
  | .forbidden => .error .forbidden
  | .directory => .error .directory
  | .file content =>
    match String.fromUTF8? content with
    | some text => .ok text
    | none => .error .malformed

def exists? : Entry → Bool
  | .directory | .forbidden | .file _ => true
  | .absent | .blocked | .unnameable | .overlong => false

end Entry

def pathNames (path : String) : List String := (path.splitOn "/").filter (!·.isEmpty)

/-- The extension of the last name: what follows its last point, if something precedes it. -/
def pathExtension? (path : String) : Option String := do
  let name ← ((pathNames path).filter (· ≠ ".")).getLast?
  if name = ".." then none
  match (name.splitOn ".").reverse with
  | [] | [_] => none
  | [_, ""] => none
  | extension :: _ => some extension

/-- The files and empty directories of a directory. -/
abbrev FileTree := List (String × Entry)

namespace FileTree

inductive Place where
  /-- In a directory that many levels above the tree. -/
  | above (levels : Nat)
  | top
  | inside (entry : Entry)

def nameLimit : Nat := 255

def pathLimit : Nat := 4095

/-- What stands under a name in a directory of which all that is known is `tree`. -/
def entryOf (tree : FileTree) (name : String) : Entry :=
  if nameLimit < name.utf8ByteSize then .overlong else (tree.lookup name).getD .absent

def Place.next (tree : FileTree) (name : String) : Place → Place
  | .above n =>
    match name with
    | "." => .above n
    | ".." => .above (n + 1)
    | _ => .inside (entryOf [] name)
  | .top =>
    match name with
    | "." => .top
    | ".." => .above 0
    | _ => .inside (entryOf tree name)
  | .inside .directory =>
    match name with
    | "." => .inside .directory
    | ".." => .top
    | _ => .inside (entryOf [] name)
  | .inside (.file _) => .inside .blocked
  | .inside entry => .inside entry

def Place.entry : Place → Entry
  | .above _ | .top => .directory
  | .inside entry => entry

/-- What stands under a path; outside of the tree nothing is known, and nothing found. -/
def find (tree : FileTree) (path : String) : Entry :=
  if path.isEmpty then .absent
  else if path.contains '\x00' then .unnameable
  else if pathLimit < path.utf8ByteSize then .overlong
  else
    let start : Place := if path.startsWith "/" then .above 0 else .top
    let place := (pathNames path).foldl (fun place name => place.next tree name) start
    match place.entry with
    | .file content => if path.endsWith "/" then .blocked else .file content
    | entry => entry

end FileTree

end PulseJoin
