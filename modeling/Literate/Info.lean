import Literate.Marker

/-!
# Info strings

The info string of a block names its language and options:

    sh setup use=[helpers, paths] export=out/setup.sh args=[n=3; mode=fast] %

The first word up to a space is the language.  Of the rest, `use=[…]`, `export=…` and `args=[…]` are
cut out one after the other wherever they stand; the first word left over is the block's name.
Trailing exclusion markers are read first.
-/

namespace Literate

open Text

/-- What an info string says about a block.  Model of the fields that `structure.parse_info_string`
returns. -/
structure Info where
  language : Text
  /-- The name written by the author; a block without one goes by its line number. -/
  name : Option Text
  /-- Where the block is written to. -/
  target : Option Text
  /-- Names of the blocks whose source is put before this one when it runs. -/
  imports : List Text
  /-- Keys and values handed to the wrapper template, in the order written. -/
  args : List (Text × Text)
  /-- Whether the bare document marker is there. -/
  hiddenInDoc : Bool
  /-- Whether the bare slides marker is there. -/
  hiddenInSlides : Bool
  deriving DecidableEq, Repr

namespace Info

/-- Recognises `key` and the text up to the next closing bracket.  Model of `structure.USE_RE` and
`structure.ARGS_RE`. -/
def bracketed? (key : Text) (t : Text) : Option (Text × Text) :=
  match afterPrefix? key t with
  | none => none
  | some r =>
    match cut ']' r with
    | (inner, some after) => some (inner, after)
    | (_, none) => none

/-- Recognises `export`, an equals sign and the word after it, with blanks allowed around the sign.
Model of `structure.EXPORT_RE`. -/
def exported? (t : Text) : Option (Text × Text) :=
  match afterPrefix? ['e', 'x', 'p', 'o', 'r', 't'] t with
  | none => none
  | some r =>
    match afterPrefix? ['='] (trimStart r) with
    | none => none
    | some s =>
      let value := (trimStart s).takeWhile (!isBlank ·)
      if value.isEmpty then none
      else some (value, (trimStart s).dropWhile (!isBlank ·))

/-- Cuts out the leftmost text that `m` recognises. -/
def takeOption {α : Type} (m : Text → Option (α × Text)) (t : Text) : Option α × Text :=
  match search m t with
  | none => (none, t)
  | some (before, a, after) => (some a, before ++ after)

/-- The imported names: separated by commas, trimmed, empty ones dropped. -/
def importsOf (inner : Text) : List Text :=
  ((pieces ',' inner).map trim).filter (!·.isEmpty)

/-- One argument: a trimmed non-empty key, an equals sign, a trimmed value. -/
def argOf? (item : Text) : Option (Text × Text) :=
  match cut '=' item with
  | (_, none) => none
  | (key, some value) => if (trim key).isEmpty then none else some (trim key, trim value)

/-- The arguments: separated by semicolons; what is no argument is dropped. -/
def argsOf (inner : Text) : List (Text × Text) := (pieces ';' inner).filterMap argOf?

/-- Reads an info string.  Model of `structure.parse_info_string`. -/
def parse (info : Text) : Info :=
  let markers := Marker.find info
  let (language, meta?) := cut ' ' (trim (Marker.strip info))
  let (uses, rest₁) := takeOption (bracketed? ['u', 's', 'e', '=', '[']) (trim (meta?.getD []))
  let (target, rest₂) := takeOption exported? rest₁
  let (args, rest₃) := takeOption (bracketed? ['a', 'r', 'g', 's', '=', '[']) rest₂
  { language
    name := (words rest₃).head?
    target
    imports := importsOf (uses.getD [])
    args := argsOf (args.getD [])
    hiddenInDoc := markers.contains ⟨.doc, .bare⟩
    hiddenInSlides := markers.contains ⟨.slides, .bare⟩ }

/-- Whether the block carries the marker of a target.  Model of `models.Block.is_excluded_for`. -/
def isExcludedFrom (i : Info) : Target → Bool
  | .doc => i.hiddenInDoc
  | .slides => i.hiddenInSlides

end Info

/-- Sets a key, in place when it is there already. -/
def setArg (key value : Text) : List (Text × Text) → List (Text × Text)
  | [] => [(key, value)]
  | (k, v) :: rest => if k = key then (key, value) :: rest else (k, v) :: setArg key value rest

/-- The arguments as a map: a key keeps its first place and takes its last value.  Model of
`models.Block.args_dict`. -/
def argMap (args : List (Text × Text)) : List (Text × Text) :=
  args.foldl (fun m (k, v) => setArg k v m) []

end Literate
