import Literate.Files.Path
import Literate.Text.Digit
import Literate.Text.Quoted
import Literate.Text.Utf8

/-!
# File trees

A file tree says what stands at each location: a file with its bytes, or a directory.  The root is
always a directory.  Operations take paths as written and follow them part by part, as an operating
system does, so each failure has one of five causes.

* `FileTree.walk` follows a path.
* `FileTree.read`, `FileTree.write`, `FileTree.makeDirs`, `FileTree.erase` do what they say.
-/

namespace Literate

open Text

/-- Why a file operation fails. -/
inductive OsCause
  | notFound
  | exists
  | notDirectory
  | isDirectory
  | nameTooLong
  deriving DecidableEq, Repr

namespace OsCause

/-- The number of the cause. -/
def number : OsCause → Nat
  | notFound => 2
  | .exists => 17
  | notDirectory => 20
  | isDirectory => 21
  | nameTooLong => 36

/-- The cause in words. -/
def text : OsCause → String
  | notFound => "No such file or directory"
  | .exists => "File exists"
  | notDirectory => "Not a directory"
  | isDirectory => "Is a directory"
  | nameTooLong => "File name too long"

end OsCause

/-- A failed file operation and the path it was given. -/
structure OsError where
  cause : OsCause
  path : Text
  deriving DecidableEq, Repr

/-- The error as shown. -/
def OsError.message (e : OsError) : String :=
  "[Errno " ++ (numeral e.cause.number).toStr ++ "] " ++ e.cause.text ++ ": " ++ (quoted e.path).toStr

/-- What can stand at a location. -/
inductive Node
  | file (content : Bytes)
  | directory
  deriving DecidableEq

/-- The locations in use, other than the root, with what stands there. -/
structure FileTree where
  entries : List (Location × Node)

namespace FileTree

/-- The tree that holds nothing. -/
def empty : FileTree := ⟨[]⟩

/-- What stands at a location. -/
def node? (t : FileTree) (l : Location) : Option Node :=
  if l.isEmpty then some .directory else t.entries.lookup l

/-- Sets what stands at a location, in place when it is in use. -/
def setIn (l : Location) (n : Node) : List (Location × Node) → List (Location × Node)
  | [] => [(l, n)]
  | (k, m) :: rest => if k = l then (l, n) :: rest else (k, m) :: setIn l n rest

/-- The tree with something put at a location. -/
def set (t : FileTree) (l : Location) (n : Node) : FileTree := ⟨setIn l n t.entries⟩

/-- The tree without what stands at a location. -/
def erase (t : FileTree) (l : Location) : FileTree := ⟨t.entries.filter (·.1 != l)⟩

/-- The longest name in bytes. -/
def nameLimit : Nat := 255

/-- Whether a name is longer than allowed. -/
def isTooLong (name : Text) : Bool := nameLimit < (String.ofList name).utf8ByteSize

/-- Follows parts from a location, all of which must lead to something. -/
def walk (t : FileTree) (l : Location) : List Text → Except OsCause Location
  | [] => .ok l
  | p :: ps =>
    match t.node? l with
    | some .directory =>
      if p = ['.', '.'] then walk t l.dropLast ps
      else if isTooLong p then .error .nameTooLong
      else if (t.node? (l ++ [p])).isSome then walk t (l ++ [p]) ps
      else .error .notFound
    | some (.file _) => .error .notDirectory
    | none => .error .notFound

/-- Where a path is followed from. -/
def origin (cwd : Location) (p : FilePath) : Location := if p.isAbsolute then [] else cwd

/-- What stands at the end of a path. -/
def stat (t : FileTree) (cwd : Location) (p : FilePath) : Except OsCause Node :=
  match t.walk (origin cwd p) p.parts with
  | .error c => .error c
  | .ok l =>
    match t.node? l with
    | some n => .ok n
    | none => .error .notFound

/-- Whether a directory stands at the end of a path. -/
def isDirectory (t : FileTree) (cwd : Location) (p : FilePath) : Bool :=
  match t.stat cwd p with
  | .ok .directory => true
  | _ => false

/-- Whether a file stands at the end of a path.  A missing part means no; a name that is too long is
an error. -/
def isFile (t : FileTree) (cwd : Location) (p : FilePath) : Except OsError Bool :=
  match t.stat cwd p with
  | .ok (.file _) => .ok true
  | .error .nameTooLong => .error ⟨.nameTooLong, p.toText⟩
  | _ => .ok false

/-- The location a path names, whose parent must be a directory. -/
def place (t : FileTree) (cwd : Location) (p : FilePath) : Except OsCause Location :=
  match p.parts.getLast? with
  | none => .ok (origin cwd p)
  | some last =>
    match t.walk (origin cwd p) p.parts.dropLast with
    | .error c => .error c
    | .ok dir =>
      match t.node? dir with
      | some .directory =>
        if last = ['.', '.'] then .ok dir.dropLast
        else if isTooLong last then .error .nameTooLong
        else .ok (dir ++ [last])
      | _ => .error .notDirectory

/-- The bytes of a file. -/
def read (t : FileTree) (cwd : Location) (p : FilePath) : Except OsError Bytes :=
  match t.stat cwd p with
  | .ok (.file content) => .ok content
  | .ok .directory => .error ⟨.isDirectory, p.toText⟩
  | .error c => .error ⟨c, p.toText⟩

/-- Writes a file, new or in place of the one that is there. -/
def write (t : FileTree) (cwd : Location) (p : FilePath) (content : Bytes) :
    Except OsError FileTree :=
  match t.place cwd p with
  | .error c => .error ⟨c, p.toText⟩
  | .ok l =>
    match t.node? l with
    | some .directory => .error ⟨.isDirectory, p.toText⟩
    | _ => .ok (t.set l (.file content))

/-- Makes one directory, which must not be there. -/
def makeDir (t : FileTree) (cwd : Location) (p : FilePath) : Except OsError FileTree :=
  match t.place cwd p with
  | .error c => .error ⟨c, p.toText⟩
  | .ok l =>
    if (t.node? l).isSome then .error ⟨.exists, p.toText⟩ else .ok (t.set l .directory)

/-- Makes one directory, unless a directory is there already. -/
def ensureDir (t : FileTree) (cwd : Location) (p : FilePath) : Except OsError FileTree :=
  match t.makeDir cwd p with
  | .ok t' => .ok t'
  | .error e => if t.isDirectory cwd p then .ok t else .error e

/-- Makes the directory of the first `count` parts and whatever is missing above it: the tree that
results, even on failure, and the failure. -/
def makeDirsAt (t : FileTree) (cwd : Location) (anchor : Anchor) (parts : List Text) :
    Nat → FileTree × Option OsError
  | 0 =>
    match t.ensureDir cwd ⟨anchor, []⟩ with
    | .ok t' => (t', none)
    | .error e => (t, some e)
  | n + 1 =>
    let p : FilePath := ⟨anchor, parts.take (n + 1)⟩
    match t.ensureDir cwd p with
    | .ok t' => (t', none)
    | .error e =>
      if e.cause = .notFound then
        match makeDirsAt t cwd anchor parts n with
        | (t', some e') => (t', some e')
        | (t', none) =>
          match t'.ensureDir cwd p with
          | .ok t'' => (t'', none)
          | .error e' => (t', some e')
      else (t, some e)

/-- Makes a directory and whatever is missing above it. -/
def makeDirs (t : FileTree) (cwd : Location) (p : FilePath) : FileTree × Option OsError :=
  makeDirsAt t cwd p.anchor p.parts p.parts.length

/-- Makes the directory a path lies in and writes the file: the tree that results, even on failure,
and the failure. -/
def writeBelow (t : FileTree) (cwd : Location) (p : FilePath) (content : Bytes) :
    FileTree × Option OsError :=
  match t.makeDirs cwd p.parent with
  | (t', some e) => (t', some e)
  | (t', none) =>
    match t'.write cwd p content with
    | .ok t'' => (t'', none)
    | .error e => (t', some e)

/-- The entries below a location. -/
def below (t : FileTree) (l : Location) : List (Location × Node) :=
  t.entries.filter fun e => Location.isWithin l e.1 && e.1 != l

/-- The names in a directory. -/
def names (t : FileTree) (l : Location) : List Text :=
  (t.below l).filterMap fun e => if e.1.length = l.length + 1 then e.1.getLast? else none

end FileTree

end Literate
