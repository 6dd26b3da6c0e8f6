import Literate.Shell.Pattern
import Literate.Shell.Reader
import Literate.Shell.Utility.Basic

/-!
# Sessions of the shell

The state that scripts run in.  Time is counted, not waited for: output carries the moment at which it
was written, so that what runs in the background ends up in its place.

* `Session` is the state; `Channel` is what a descriptor stands for.
* `Session.write` and `Session.written` write to channels and read what was written.
* `Session.fields` splits what a word was replaced by.
-/

namespace Literate.Shell

open Text

/-- What a descriptor stands for. -/
inductive Channel
  | out
  | err
  | nothing
  | file (l : Location)
  /-- A pipe that is written to. -/
  | pipe (n : Nat)
  /-- A text that is read from. -/
  | source (n : Nat)
  deriving DecidableEq, Repr

/-- Something that was written. -/
structure Event where
  micros : Nat
  channel : Channel
  data : Octets

/-- How a script goes on after a command. -/
inductive Flow
  | next
  | breaks (levels : Nat)
  | continues (levels : Nat)
  | returns
  | exits
  | killed (signal : Nat)
  /-- The time is over. -/
  | over
  deriving DecidableEq, Repr

/-- The state of a shell. -/
structure Session where
  tree : FileTree
  cwd : Location
  bindings : List (Octets × Octets)
  exported : List Octets
  /-- The name of the script. -/
  name : Octets
  args : List Octets
  functions : List (Octets × Command)
  /-- What the variables that belong to the function under way were before it. -/
  locals : List (Octets × Option Octets)
  status : Nat
  options : List Char
  traps : List (Octets × Octets)
  /-- Whether a failure does not end the script now. -/
  shielded : Bool
  /-- Whether escapes in `echo` are read only when asked for. -/
  plainEcho : Bool
  /-- The microseconds since the start. -/
  clock : Nat
  /-- The microseconds after which everything is stopped. -/
  limit : Option Nat
  /-- The moment at which everything in the background is over. -/
  backgroundEnd : Nat
  /-- The status of what went to the background last. -/
  backgroundStatus : Nat
  descriptors : List (Nat × Channel)
  /-- What was written, the last first. -/
  events : List Event
  sources : List (Nat × Octets)
  /-- A number that no pipe has. -/
  fresh : Nat
  /-- How many functions and scripts are nested. -/
  depth : Nat

namespace Session

/-- The number that stands for the shell's own process. -/
def processId : Nat := 4242

/-- The deepest nesting of functions and scripts. -/
def depthLimit : Nat := 200

/-! ## Time -/

/-- Lets time pass. -/
def wait (s : Session) (micros : Nat) : Session := { s with clock := s.clock + micros }

/-- Whether the time is over. -/
def isOver (s : Session) : Bool := (s.limit.map fun n => n ≤ s.clock : Option Bool).getD false

/-! ## Variables -/

/-- The value of a variable. -/
def value? (s : Session) (name : Octets) : Option Octets := s.bindings.lookup name

/-- Sets a variable. -/
def assign (s : Session) (name value : Octets) : Session :=
  { s with bindings := (name, value) :: s.bindings.filter (·.1 ≠ name) }

/-- Takes a variable away. -/
def unset (s : Session) (name : Octets) : Session :=
  { s with
    bindings := s.bindings.filter (·.1 ≠ name)
    exported := s.exported.filter (· ≠ name) }

/-- Makes a variable belong to the function under way. -/
def hold (s : Session) (name : Octets) : Session :=
  { s with locals := (name, s.value? name) :: s.locals }

/-- Gives the variables of a function back the values from before it; `outer` are those of the function
around it. -/
def giveBack (s : Session) (outer : List (Octets × Option Octets)) : Session :=
  let restored := s.locals.foldl (fun s (name, old?) =>
    match old? with
    | some old => s.assign name old
    | none => s.unset name) s
  { restored with locals := outer }

/-- The variables that programs see. -/
def environment (s : Session) : List (Octets × Octets) :=
  s.bindings.filter fun e => s.exported.contains e.1

/-- Whether an option is set. -/
def has (s : Session) (option : Char) : Bool := s.options.contains option

/-- The characters that separate fields. -/
def separators (s : Session) : Octets := (s.value? "IFS".toList).getD [' ', '\t', '\n']

/-- The value of a parameter that is not a list. -/
def parameter? (s : Session) (name : Octets) : Option Octets :=
  match name with
  | ['?'] => some (numeral s.status)
  | ['#'] => some (numeral s.args.length)
  | ['$'] => some (numeral processId)
  | ['-'] => some s.options
  | ['!'] => s.value? ['!']
  | ['0'] => some s.name
  | ['@'] => if s.args.isEmpty then none else some (join [' '] s.args)
  | ['*'] => if s.args.isEmpty then none else some (join (s.separators.take 1) s.args)
  | _ =>
    if name.all Char.isDigit then s.args[(Format.digitsAt 10 name.length 0 name).1 - 1]?
    else s.value? name

/-! ## Channels -/

/-- The channel of a descriptor. -/
def channel (s : Session) (fd : Nat) : Channel := (s.descriptors.lookup fd).getD .nothing

/-- Sets the channel of a descriptor. -/
def redirect (s : Session) (fd : Nat) (c : Channel) : Session :=
  { s with descriptors := (fd, c) :: s.descriptors.filter (·.1 ≠ fd) }

/-- Writes to a descriptor. -/
def write (s : Session) (fd : Nat) (data : Octets) : Session :=
  if data.isEmpty then s
  else
    match s.channel fd with
    | .file l =>
      match s.tree.node? l with
      | some (.file old) => { s with tree := s.tree.set l (.file (old ++ bytesOf data)) }
      | _ => s
    | .nothing => s
    | c => { s with events := ⟨s.clock, c, data⟩ :: s.events }

/-- What was written to a channel, in the order of time. -/
def written (s : Session) (c : Channel) : Octets :=
  let es := (s.events.filter fun e => e.channel = c).reverse
  (es.mergeSort fun a b => a.micros ≤ b.micros).flatMap Event.data

/-- A pipe that nothing was written to. -/
def newPipe (s : Session) : Nat × Session := (s.fresh, { s with fresh := s.fresh + 1 })

/-- A text to read from. -/
def newSource (s : Session) (data : Octets) : Nat × Session :=
  (s.fresh, { s with fresh := s.fresh + 1, sources := (s.fresh, data) :: s.sources })

/-- What is left to read on a descriptor. -/
def available (s : Session) (fd : Nat) : Octets :=
  match s.channel fd with
  | .source n => (s.sources.lookup n).getD []
  | _ => []

/-- Leaves something to read on a descriptor. -/
def leave (s : Session) (fd : Nat) (rest : Octets) : Session :=
  match s.channel fd with
  | .source n => { s with sources := (n, rest) :: s.sources.filter (·.1 ≠ n) }
  | _ => s

/-- A complaint of the shell. -/
def complain (s : Session) (message : Octets) : Session :=
  s.write 2 (s.name ++ Utility.say ": 1: " ++ message ++ ['\n'])

/-! ## Opening files -/

/-- The location that a name stands for. -/
def locationOf (s : Session) (name : Octets) : Location := (Utility.pathOf name).resolve s.cwd

/-- Opens a file on a descriptor, or says why not. -/
def openFile (s : Session) (fd : Nat) (mode : OpenMode) (name : Octets) : Except Octets Session :=
  let p := Utility.pathOf name
  if name == "/dev/null".toList then .ok (s.redirect fd .nothing)
  else if name == "/dev/stdout".toList then .ok (s.redirect fd (s.channel 1))
  else if name == "/dev/stderr".toList then .ok (s.redirect fd (s.channel 2))
  else
    match mode with
    | .read =>
      match s.tree.read s.cwd p with
      | .ok content =>
        let (n, s) := s.newSource (octetsOf content)
        .ok (s.redirect fd (.source n))
      | .error e => .error (Utility.say "cannot open " ++ name ++ Utility.say (": " ++ e.cause.text))
    | _ =>
      let old := match s.tree.stat s.cwd p with
        | .ok (.file content) => if mode = .append then content else []
        | _ => []
      match s.tree.write s.cwd p old with
      | .ok tree => .ok ({ s with tree }.redirect fd (.file (s.locationOf name)))
      | .error e =>
        .error (Utility.say "cannot create " ++ name ++ Utility.say (": " ++ e.cause.text))

/-! ## Fields -/

/-- A piece of what a word was replaced by. -/
inductive Piece
  /-- Text that is taken as it is. -/
  | fixed (t : Octets)
  /-- Text in which patterns count. -/
  | written (t : Octets)
  /-- A value, which is split, and in which patterns count. -/
  | value (t : Octets)
  /-- The end of a field. -/
  | gap

/-- A field: its characters, and whether each is taken as it is. -/
abbrev Field := List (Char × Bool)

/-- Fields that are complete, the last first, and the one that may go on. -/
structure Splitting where
  complete : List Field
  current : Option Field

namespace Splitting

/-- Appends characters to the field that goes on. -/
def add (x : Splitting) (cs : Field) : Splitting := { x with current := some (x.current.getD [] ++ cs) }

/-- Ends the field that goes on, if there is one. -/
def close (x : Splitting) : Splitting :=
  match x.current with
  | some f => ⟨f :: x.complete, none⟩
  | none => x

/-- One character of a value. -/
def valueChar (separators : Octets) (x : Splitting) (c : Char) : Splitting :=
  if separators.contains c then
    if c = ' ' || c = '\t' || c = '\n' then x.close else ⟨x.current.getD [] :: x.complete, none⟩
  else x.add [(c, false)]

/-- One piece. -/
def piece (separators : Octets) (x : Splitting) : Piece → Splitting
  | .fixed t => x.add (t.map fun c => (c, true))
  | .written t => if t.isEmpty then x else x.add (t.map fun c => (c, false))
  | .value t => t.foldl (valueChar separators) x
  | .gap => { (x.add []).close with current := some [] }

end Splitting

/-- The fields of pieces. -/
def fields (s : Session) (ps : List Piece) : List Field :=
  (ps.foldl (Splitting.piece s.separators) ⟨[], none⟩).close.complete.reverse

/-- The text of a field. -/
def fieldText (f : Field) : Octets := f.map Prod.fst

/-- The pattern of a field. -/
def fieldGlob : Nat → Field → Glob
  | 0, _ => []
  | _, [] => []
  | fuel + 1, (c, true) :: r => .char c :: fieldGlob fuel r
  | fuel + 1, (c, false) :: r =>
    let run := (((c, false) :: r).takeWhile fun e => !e.2).map Prod.fst
    Glob.ofPlain (run.length + 1) run ++ fieldGlob fuel (((c, false) :: r).drop run.length)

/-- The text of pieces that are not split. -/
def pieceText (ps : List Piece) : Octets :=
  ps.flatMap fun p =>
    match p with
    | .fixed t => t
    | .written t => t
    | .value t => t
    | .gap => [' ']

/-- The pattern of pieces that are not split. -/
def pieceGlob (ps : List Piece) : Glob :=
  let f : Field := ps.flatMap fun p =>
    match p with
    | .fixed t => t.map fun c => (c, true)
    | .written t => t.map fun c => (c, false)
    | .value t => t.map fun c => (c, false)
    | .gap => [(' ', false)]
  fieldGlob (f.length + 1) f

/-- A field cut at slashes. -/
def fieldParts (f : Field) : List Field :=
  f.foldr (fun e parts =>
    if e.1 = '/' then [] :: parts
    else
      match parts with
      | [] => [[e]]
      | p :: ps => (e :: p) :: ps) [[]]

/-- The paths below some directories that patterns stand for; a directory is written as it is. -/
def pathsFrom (s : Session) : List (Octets × Location) → List Field → List Octets
  | dirs, [] => dirs.map Prod.fst
  | dirs, part :: rest =>
    let glob := fieldGlob (part.length + 1) part
    let next := dirs.flatMap fun (shown, l) =>
      let start := if shown.isEmpty || shown = ['/'] then shown else shown ++ ['/']
      if Glob.isPattern glob then
        let names := ((s.tree.names l).map octetsOfText).mergeSort precedes
        (names.filter fun n => Glob.matchesText glob n && (n.head? ≠ some '.' || (fieldText part).head? = some '.')).map
          fun n => (start ++ n, l ++ [textOf n])
      else
        let n := fieldText part
        let l' := FilePath.follow l (Utility.pathOf n).parts
        if (s.tree.node? l').isSome then [(start ++ n, l')] else []
    pathsFrom s next rest

/-- The texts of a field: the paths its pattern stands for, or the field itself. -/
def expandField (s : Session) (f : Field) : List Octets :=
  let glob := fieldGlob (f.length + 1) f
  if !Glob.isPattern glob || s.has 'f' then [fieldText f]
  else
    let parts := fieldParts f
    let found :=
      match parts with
      | [] :: rest => pathsFrom s [(['/'], [])] rest
      | parts => pathsFrom s [([], s.cwd)] parts
    if found.isEmpty then [fieldText f] else found

end Session

end Literate.Shell
