import Literate.CommandLine.Switch
import Literate.Decimal.Reading
import Literate.Text.Digit

/-!
# Arguments

Reads the arguments of a command for the options it knows.  A long option may be cut short as long as
only one option begins so, and takes its value after an equals sign or from the next argument; a short
one may be joined with its value.  After a double hyphen everything is plain.

* `Argument.classify?` says what one argument is.
* `Given.ofArguments` puts options and their values together, in order; asking for help ends the reading.
* `Given.plain?` are the plain arguments, if there are as many as a command takes.
-/

namespace Literate.CommandLine

open Text

/-- Why arguments start no command. -/
inductive Refusal
  /-- Help was asked for. -/
  | help
  /-- The arguments are wrong. -/
  | misuse
  deriving DecidableEq, Repr

/-- What stands in the same argument as an option. -/
inductive Attached
  | nothing
  /-- A text after an equals sign. -/
  | equals (t : Text)
  /-- A text right after the letter of a short option. -/
  | joined (t : Text)
  deriving DecidableEq, Repr

/-- The text in the same argument. -/
def Attached.text? : Attached → Option Text
  | nothing => none
  | equals t => some t
  | joined t => some t

/-- What an argument is. -/
inductive Argument
  | plain (t : Text)
  | option (s : Switch) (attached : Attached)
  | unknown
  /-- A double hyphen. -/
  | separator
  deriving DecidableEq, Repr

namespace Argument

/-! ## One argument -/

/-- Whether a text is digits only, and at least one. -/
def isDigits (t : Text) : Bool := !t.isEmpty && t.all isDigit

/-- Whether a text without its hyphen is a plain decimal number; a newline may follow. -/
def isNumber (t : Text) : Bool :=
  let t := dropLast? t
  isDigits t ||
    match cut '.' t with
    | (whole, some fraction) => whole.all isDigit && isDigits fraction
    | _ => false
where
  /-- Drops a newline at the end. -/
  dropLast? (t : Text) : Text := if t.getLast? = some '\n' then t.dropLast else t

/-- The options a long spelling that is cut short may stand for. -/
def abbreviated (known : List Switch) (t : Text) : List Switch :=
  known.filter fun s => (afterPrefix? t s.long).isSome

/-- What an argument with two hyphens is, if its spelling is not complete. -/
def classifyLong? (known : List Switch) (t : Text) : Option (Option Argument) :=
  let (name, value?) := cut '=' t
  match abbreviated known name with
  | [] => some none
  | [s] => some (some (.option s (value?.elim .nothing .equals)))
  | _ => none

/-- What an argument with one hyphen is: an option joined with a text. -/
def classifyShort? (known : List Switch) (t : Text) : Option Argument :=
  (known.find? fun s => s.short? = some (t.take 2)).map fun s => .option s (.joined (t.drop 2))

/-- What an argument is that begins with a hyphen and is no option. -/
def otherwise (t : Text) : Argument :=
  if isNumber (t.drop 1) || t.contains ' ' then .plain t else .unknown

/-- What an argument is; `none` when several options begin so. -/
def classify? (known : List Switch) (t : Text) : Option Argument :=
  match t with
  | '-' :: c :: _ =>
    let (name, value?) := cut '=' t
    match known.find? (·.isSpelled t), value?.bind fun v => (known.find? (·.isSpelled name)).map (·, v) with
    | some s, _ => some (.option s .nothing)
    | none, some (s, v) => some (.option s (.equals v))
    | none, none =>
      if c = '-' then (classifyLong? known t).map (·.getD (otherwise t))
      else some ((classifyShort? known t).getD (otherwise t))
  | _ => some (.plain t)

/-- What all arguments are. -/
def classifyAll? (known : List Switch) : List Text → Option (List Argument)
  | [] => some []
  | t :: ts =>
    if t = ['-', '-'] then some (.separator :: ts.map .plain)
    else
      match classify? known t, classifyAll? known ts with
      | some a, some as => some (a :: as)
      | _, _ => none

end Argument

/-- What a command was given. -/
inductive Given
  | plain (t : Text)
  | option (s : Switch) (value : Text)
  | unknown
  | separator
  deriving DecidableEq, Repr

namespace Given

/-! ## All arguments -/

/-- What comes of letters joined to the one that asks for help: they are read on as short options, and
help is given unless one of them is used wrongly.  `next` is the argument after them. -/
def afterHelp (known : List Switch) (next : Option Argument) : Text → Refusal
  | [] => .help
  | c :: r =>
    if c = '-' then .misuse
    else
      match known.find? (·.letter? = some c) with
      | none => .help
      | some s =>
        match s.kind, r with
        | .flag, '=' :: _ => .misuse
        | .flag, _ => afterHelp known next r
        | _, [] =>
          match next with
          | some (.plain _) => .help
          | _ => .misuse
        | _, _ => .help

/-- A value put to its option, if it may follow it. -/
def assign (s : Switch) (value : Text) : Except Refusal Given :=
  if s.kind = .seconds && (Double.ofText? value).isNone then .error .misuse
  else .ok (.option s value)

/-- What comes of an option that takes no value. -/
def flag (known : List Switch) (next : Option Argument) (s : Switch) :
    Attached → Except Refusal Given
  | .nothing => if s = .help then .error .help else .ok (.option s [])
  | .equals _ => .error .misuse
  | .joined t => .error (afterHelp known next t)

/-- What a command was given by some arguments, in order.  Model of `ArgumentParser.parse_args` of
`argparse` on one parser of `cli._build_parser`. -/
def ofArguments (known : List Switch) : List Argument → Except Refusal (List Given)
  | [] => .ok []
  | .plain t :: rest => (ofArguments known rest).map (.plain t :: ·)
  | .unknown :: rest => (ofArguments known rest).map (.unknown :: ·)
  | .separator :: rest => (ofArguments known rest).map (.separator :: ·)
  | .option s attached :: rest =>
    if s.kind = .flag then
      match flag known rest.head? s attached with
      | .error e => .error e
      | .ok g => (ofArguments known rest).map (g :: ·)
    else
      match attached.text? with
      | some value =>
        match assign s value with
        | .error e => .error e
        | .ok g => (ofArguments known rest).map (g :: ·)
      | none =>
        match rest with
        | .plain value :: rest =>
          match assign s value with
          | .error e => .error e
          | .ok g => (ofArguments known rest).map (g :: ·)
        | _ => .error .misuse

/-- The value an option was given last. -/
def value? (s : Switch) (gs : List Given) : Option Text :=
  gs.foldl (fun found g =>
    match g with
    | .option s' value => if s' = s then some value else found
    | _ => found) none

/-- Whether an option was given. -/
def has (s : Switch) (gs : List Given) : Bool := (value? s gs).isSome

/-- The text of a plain argument. -/
def text? : Given → Option Text
  | .plain t => some t
  | _ => none

/-- Whether an option was given. -/
def isOption : Given → Bool
  | .option _ _ => true
  | _ => false

/-- Whether a double hyphen has a plain argument to stand with: one after the last option. -/
def separatorFits (gs : List Given) : Bool :=
  !gs.contains .separator || ((gs.reverse.takeWhile (!·.isOption)).any (·.text?.isSome))

/-- The plain arguments, if there are `count` of them and nothing is left over. -/
def plain? (count : Nat) (gs : List Given) : Option (List Text) :=
  let ts := gs.filterMap text?
  if ts.length = count && !gs.contains .unknown && separatorFits gs then some ts else none

end Given

end Literate.CommandLine
