import Literate.Files.FileTree
import Literate.Macro.Expansion

/-!
# Tangling

Blocks with an `export` target are written to files below an output directory.  Targets are resolved
first: blocks whose targets lead to the same location share a file, in source order.  A target that
is absolute or leads out of the directory is rejected, and a target that fails does not stop the
others.

* `Tangle.destination` resolves one target.
* `Tangle.groups` gathers blocks by destination, in the order of their first block.
* `Tangle.run` writes the groups one after the other, with one memo of expansions for all.
-/

namespace Literate

open Text

/-- Why a target is rejected. -/
inductive TargetError
  | absolute (target : Text)
  | nullCharacter
  | escapes (target : Text) (root : Location)
  deriving DecidableEq, Repr

/-- The reason as shown. -/
def TargetError.message : TargetError → String
  | absolute target => "absolute export path '" ++ target.toStr ++ "' is not allowed"
  | nullCharacter => "embedded null byte"
  | escapes target root =>
    "export path '" ++ target.toStr ++ "' escapes " ++ root.toText.toStr

/-- Why a target is not written. -/
inductive TangleError
  | target (e : TargetError)
  | expansion (e : ExpansionError)
  | file (e : OsError)
  deriving DecidableEq, Repr

/-- The reason as shown. -/
def TangleError.message : TangleError → String
  | target e => e.message
  | expansion e => e.message
  | file e => e.message

/-- Where the blocks of a target go: to a location, or nowhere. -/
inductive Destination
  | location (l : Location)
  | rejected (target : Text) (reason : TargetError)
  deriving DecidableEq, Repr

/-- The location, if there is one. -/
def Destination.location? : Destination → Option Location
  | location l => some l
  | rejected _ _ => none

/-- Blocks that go to one destination; the target is the one of the first block. -/
structure TangleGroup where
  destination : Destination
  target : Text
  blocks : List Block
  deriving DecidableEq, Repr

/-- What became of one group.  Model of `models.TangleFileStatus`. -/
structure TangleStatus where
  target : Text
  location? : Option Location
  blocks : List Text
  error? : Option TangleError
  deriving DecidableEq, Repr

/-- Whether the file was written. -/
def TangleStatus.ok (s : TangleStatus) : Bool := s.error?.isNone

/-- What became of each group.  Model of `models.TangleReport`. -/
structure TangleReport where
  files : List TangleStatus
  deriving DecidableEq, Repr

namespace TangleReport

/-- Number of files written. -/
def fileCount (r : TangleReport) : Nat := (r.files.filter (·.ok)).length

/-- The groups that were not written. -/
def failed (r : TangleReport) : List TangleStatus := r.files.filter (!·.ok)

/-- What writing a group has to say. -/
def record (s : TangleStatus) : LogRecord :=
  match s.error? with
  | some e => ⟨.warning, "Could not tangle " ++ s.target.toStr ++ ": " ++ e.message⟩
  | none =>
    ⟨.info, "Tangled " ++ (numeral s.blocks.length).toStr ++ " block(s) into "
      ++ (s.location?.getD []).toText.toStr⟩

/-- What tangling has to say. -/
def log (r : TangleReport) : List LogRecord := r.files.map record

/-- The failed targets in one message.  Model of the message of `errors.TangleWriteError`. -/
def failureMessage (r : TangleReport) : String :=
  let failures := r.failed.map fun s =>
    s.target.toStr ++ " (" ++ (s.error?.map TangleError.message).getD "" ++ ")"
  (numeral r.failed.length).toStr ++ " of " ++ (numeral r.files.length).toStr
    ++ " tangle targets failed: " ++ ", ".intercalate failures

end TangleReport

namespace Tangle

/-- Resolves a target below `root`.  Model of `tangle._resolve_target`. -/
def destination (root : Location) (target : Text) : Destination :=
  let p := FilePath.ofText target
  if p.isAbsolute then .rejected target (.absolute target)
  else if p.hasNull || (FilePath.ofLocation root).hasNull then .rejected target .nullCharacter
  else
    let l := FilePath.follow root p.parts
    if Location.isWithin root l then .location l else .rejected target (.escapes target root)

/-- Adds a block to the group of its destination, or to a new one. -/
def addBlock (d : Destination) (target : Text) (b : Block) : List TangleGroup → List TangleGroup
  | [] => [⟨d, target, [b]⟩]
  | g :: gs =>
    if g.destination = d then { g with blocks := g.blocks ++ [b] } :: gs
    else g :: addBlock d target b gs

/-- The target of a block that is written: not empty, and the block not excluded. -/
def exportOf? (b : Block) : Option Text :=
  match b.info.target with
  | none => none
  | some target => if target.isEmpty || b.info.hiddenInDoc then none else some target

/-- Adds a block, if it is written. -/
def gather (root : Location) (gs : List TangleGroup) (b : Block) : List TangleGroup :=
  match exportOf? b with
  | none => gs
  | some target => addBlock (destination root target) target b gs

/-- The blocks by destination, in the order of their first block.  Model of the first loop of
`tangle.tangle_files`. -/
def groups (root : Location) (o : Outline) : List TangleGroup :=
  o.blocks.foldl (gather root) []

/-- The text of a file: the expanded blocks, each ended by a newline. -/
def fileText (o : Outline) (blocks : List Block) : Expander Text := do
  let texts ← blocks.mapM (Expander.block o)
  pure (join ['\n'] texts ++ ['\n'])

/-- Expands and writes one group: the memo and the tree afterwards, and the error.  Model of the
body of the second loop of `tangle.tangle_files`. -/
def writeGroup (o : Outline) (memo : Memo) (tree : FileTree) (g : TangleGroup) :
    (Memo × FileTree) × Option TangleError :=
  match g.destination with
  | .rejected _ reason => ((memo, tree), some (.target reason))
  | .location l =>
    match (fileText o g.blocks).run.run memo with
    | (.error e, memo') => ((memo', tree), some (.expansion e))
    | (.ok content, memo') =>
      match tree.writeBelow [] (.ofLocation l) (Utf8.encode content) with
      | (tree', some e) => ((memo', tree'), some (.file e))
      | (tree', none) => ((memo', tree'), none)

/-- Writes the groups in order: the tree afterwards, and what became of each. -/
def writeGroups (o : Outline) (memo : Memo) (tree : FileTree) :
    List TangleGroup → FileTree × List TangleStatus
  | [] => (tree, [])
  | g :: gs =>
    let ((memo', tree'), error?) := writeGroup o memo tree g
    let (last, statuses) := writeGroups o memo' tree' gs
    (last, ⟨g.target, g.destination.location?, g.blocks.map Block.name, error?⟩ :: statuses)

/-- Writes every target of a document below the location `root`.  Model of `tangle.tangle_files`. -/
def run (o : Outline) (root : Location) (tree : FileTree) : FileTree × TangleReport :=
  let (tree', statuses) := writeGroups o [] tree (groups root o)
  (tree', ⟨statuses⟩)

end Tangle

end Literate
