import Literate.Files.Path

/-!
# Assets

What the source of an image points to: remote addresses and inline data are no files, `file://`
addresses are paths, and everything else is a path below a base directory.
-/

namespace Literate.Asset

open Text

/-- The beginnings of sources that are no files. -/
def remotePrefixes : List String := ["http://", "https://", "data:", "//"]

/-- Whether a source is no file. -/
def isRemote (src : Text) : Bool :=
  remotePrefixes.any fun p => (afterPrefix? p.toList src).isSome

/-- The path a source names, seen from the base directory. -/
def path (base : FilePath) (src : Text) : FilePath :=
  match afterPrefix? "file://".toList src with
  | some rest => FilePath.ofText rest
  | none => base.append (FilePath.ofText src)

/-- The location of the file a source points to; `none` for what is no file.  Model of
`paths.resolve_asset`. -/
def resolve (cwd : Location) (homes : Homes) (base : FilePath) (src : Text) :
    Except PathError (Option Location) :=
  if isRemote src then .ok none
  else
    match (path base src).expandUser homes with
    | .error e => .error e
    | .ok p => if p.hasNull then .error .nullCharacter else .ok (some (p.resolve cwd))

end Literate.Asset
