import Literate.Text.Basic

/-!
# Paths

A path is absolute or relative and has parts; empty parts and single dots are dropped when a path is
read, double dots stay.  Exactly two leading slashes are kept apart from one.

* `FilePath.ofText`, `FilePath.toText` read and write paths.
* `FilePath.resolve` is the location a path names below a working directory, with double dots taken
  out.
-/

namespace Literate

open Text

/-- What stands before the first part of a path. -/
inductive Anchor
  | relative
  | absolute
  | doubled
  deriving DecidableEq, Repr

/-- A path as written, less the parts that mean nothing.  Model of the paths of `pathlib`. -/
structure FilePath where
  anchor : Anchor
  parts : List Text
  deriving DecidableEq, Repr

/-- A location: the names that lead to it from the root. -/
abbrev Location := List Text

namespace FilePath

/-- The anchor of a text. -/
def anchorOf (t : Text) : Anchor :=
  match (t.takeWhile (· == '/')).length with
  | 0 => .relative
  | 2 => .doubled
  | _ => .absolute

/-- The parts of a text that mean something. -/
def partsOf (t : Text) : List Text :=
  (pieces '/' t).filter fun p => !(p.isEmpty || p == ['.'])

/-- Reads a path. -/
def ofText (t : Text) : FilePath := ⟨anchorOf t, partsOf t⟩

/-- Writes a path; the empty relative path is a dot. -/
def toText (p : FilePath) : Text :=
  let body := join ['/'] p.parts
  match p.anchor with
  | .relative => if p.parts.isEmpty then ['.'] else body
  | .absolute => '/' :: body
  | .doubled => '/' :: '/' :: body

/-- Whether the path starts at the root. -/
def isAbsolute (p : FilePath) : Bool := p.anchor ≠ .relative

/-- The path `q` as seen from `p`. -/
def append (p q : FilePath) : FilePath := if q.isAbsolute then q else ⟨p.anchor, p.parts ++ q.parts⟩

/-- The path without its last part. -/
def parent (p : FilePath) : FilePath := ⟨p.anchor, p.parts.dropLast⟩

/-- The last part, empty when there is none. -/
def fileName (p : FilePath) : Text := p.parts.getLast?.getD []

/-- The absolute path of a location. -/
def ofLocation (l : Location) : FilePath := ⟨.absolute, l⟩

/-- Follows parts from a location; a double dot leads back, and stays at the root. -/
def follow (l : Location) : List Text → Location
  | [] => l
  | p :: ps => if p = ['.', '.'] then follow l.dropLast ps else follow (l ++ [p]) ps

/-- The location a path names when read in the directory `cwd`.  Model of `resolve` of `pathlib`
where there are no links. -/
def resolve (cwd : Location) (p : FilePath) : Location :=
  follow (if p.isAbsolute then [] else cwd) p.parts

/-- Whether a part holds a null character, which no file name may. -/
def hasNull (p : FilePath) : Bool := p.parts.any (·.contains '\x00')

end FilePath

/-- The text of a location. -/
def Location.toText (l : Location) : Text := (FilePath.ofLocation l).toText

/-- Whether `l` is `root` or below it. -/
def Location.isWithin (root l : Location) : Bool := root.isPrefixOf l

/-- Why a path cannot be followed. -/
inductive PathError
  /-- The home directory the path begins with is not known. -/
  | unknownHome
  /-- A part holds a null character. -/
  | nullCharacter
  deriving DecidableEq, Repr

/-- The error as shown. -/
def PathError.message : PathError → String
  | .unknownHome => "Could not determine home directory."
  | .nullCharacter => "embedded null byte"

/-- Home directories by user; the empty user is the one who runs the program. -/
abbrev Homes := List (Text × Text)

/-- The path with a leading tilde replaced by a home directory.  Model of `expanduser` of
`pathlib`. -/
def FilePath.expandUser (homes : Homes) (p : FilePath) : Except PathError FilePath :=
  match p.anchor, p.parts with
  | .relative, ('~' :: user) :: rest =>
    match homes.lookup user with
    | none => .error .unknownHome
    | some home =>
      let base := ofText (if (dropEndWhile (· == '/') home).isEmpty then ['/'] else home)
      .ok ⟨base.anchor, base.parts ++ rest⟩
  | _, _ => .ok p

end Literate
