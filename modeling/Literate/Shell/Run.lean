import Literate.Shell.Arithmetic
import Literate.Shell.Condition
import Literate.Shell.Utility

/-!
# Running scripts

Runs scripts in a session.  Every command says how the script goes on; `fuel` bounds the number of
steps, and a script that needs more is one that does not end.

* `expand` is what a word is replaced by.
* `runCommand` runs a command, `runScript` a script.
-/

namespace Literate.Shell

open Text

/-! ## Built-in commands without commands inside -/

/-- A built-in command that wrote something. -/
def answered (s : Session) (status : Nat) (data : Octets) : Flow × Session :=
  (.next, { s.write 1 data with status })

/-- A built-in command that failed. -/
def refused (s : Session) (status : Nat) (message : Octets) : Flow × Session :=
  (.next, { s.complain message with status })

/-- Writes its arguments. -/
def echo (s : Session) (args : List Octets) : Flow × Session :=
  let isFlag (a : Octets) : Bool :=
    match a with
    | '-' :: c :: cs => (c :: cs).all fun c => if s.plainEcho then "neE".toList.contains c else c = 'n' && cs.isEmpty
    | _ => false
  let flags := (if s.plainEcho then args.takeWhile isFlag else (args.take 1).filter isFlag).flatten
  let args := if s.plainEcho then args.dropWhile isFlag else if flags.isEmpty then args else args.drop 1
  let text := join [' '] args
  let (text, ends) :=
    if !s.plainEcho || flags.contains 'e' then Format.escapes true (text.length + 1) text
    else (text, false)
  answered s 0 (if ends || flags.contains 'n' then text else text ++ ['\n'])

/-- Changes the directory. -/
def changeDir (s : Session) (args : List Octets) : Flow × Session :=
  let target :=
    match args with
    | [] => (s.value? "HOME".toList).getD []
    | a :: _ => if a = ['-'] then (s.value? "OLDPWD".toList).getD [] else a
  let l := s.locationOf target
  match s.tree.stat s.cwd (Utility.pathOf target) with
  | .ok .directory =>
    let s := s.assign "OLDPWD".toList (octetsOfText (Location.toText s.cwd))
    let s := { s with cwd := l, status := 0 }
    (.next, s.assign "PWD".toList (octetsOfText (Location.toText l)))
  | _ => refused s 2 (Utility.say "cd: can't cd to " ++ target)

/-- Reads a line into variables. -/
def readInto (s : Session) (args : List Octets) : Flow × Session :=
  let raw := args.contains ['-', 'r']
  let names := args.filter fun a => a.head? ≠ some '-'
  let (line, rest?) := cut '\n' (s.available 0)
  let s := s.leave 0 (rest?.getD [])
  let line := if raw then line else line.filter (· != '\\')
  let isSeparator (c : Char) : Bool := s.separators.contains c
  let line := dropEndWhile isSeparator (line.dropWhile isSeparator)
  let rec give (s : Session) (line : Octets) : List Octets → Session
    | [] => s
    | [n] => s.assign n line
    | n :: ns =>
      let word := line.takeWhile fun c => !isSeparator c
      give (s.assign n word) ((line.drop word.length).dropWhile isSeparator) ns
  let s := give s line (if names.isEmpty then ["REPLY".toList] else names)
  (.next, { s with status := if rest?.isSome then 0 else 1 })

/-- The letters of options by their names. -/
def optionLetter (name : Octets) : Char :=
  match name.toStr with
  | "errexit" => 'e'
  | "nounset" => 'u'
  | "xtrace" => 'x'
  | "noglob" => 'f'
  | "pipefail" => 'P'
  | _ => '-'

/-- Sets options and positional parameters; `named` says whether the option that comes next by its
name is set or taken back. -/
def setOptions (s : Session) (named : Option Bool) : List Octets → Session
  | [] => s
  | a :: rest =>
    match named with
    | some true => setOptions { s with options := optionLetter a :: s.options } none rest
    | some false => setOptions { s with options := s.options.filter (· != optionLetter a) } none rest
    | none =>
      match a with
      | '-' :: '-' :: _ => { s with args := rest }
      | '-' :: letters =>
        setOptions { s with options := letters.filter (· != 'o') ++ s.options }
          (if letters.contains 'o' then some true else none) rest
      | '+' :: letters =>
        setOptions { s with options := s.options.filter fun c => !letters.contains c }
          (if letters.contains 'o' then some false else none) rest
      | _ => { s with args := a :: rest }

/-- The numbers of signals by their names. -/
def signals : List (String × Nat) :=
  [("HUP", 1), ("INT", 2), ("QUIT", 3), ("ABRT", 6), ("KILL", 9), ("USR1", 10), ("SEGV", 11),
   ("USR2", 12), ("PIPE", 13), ("ALRM", 14), ("TERM", 15)]

/-- The number of a signal that is named or numbered. -/
def signalOf (t : Octets) : Nat :=
  let name := (afterPrefix? "SIG".toList t).getD t
  match signals.find? (·.1.toList == name) with
  | some (_, n) => n
  | none => Utility.numberOf t

/-- The name of a signal in traps. -/
def trapName (t : Octets) : Octets :=
  if t = ['0'] then "EXIT".toList
  else
    let t := (afterPrefix? "SIG".toList t).getD t
    match signals.find? fun e => (numeral e.2) = t with
    | some (name, _) => name.toList
    | none => t

/-- Sends a signal; only the shell's own process is there. -/
def kill (s : Session) (args : List Octets) : Flow × Session :=
  let (signal, targets) :=
    match args with
    | a :: rest =>
      if a = "-s".toList then (signalOf (rest.headD []), rest.drop 1)
      else
        match a with
        | '-' :: name => (signalOf name, rest)
        | _ => (15, args)
    | [] => (15, [])
  if targets.any (· = numeral Session.processId) then
    if signal = 0 then (.next, { s with status := 0 }) else (.killed signal, s)
  else (.next, { s with status := if targets.all fun t => some t = s.value? ['!'] then 0 else 1 })

/-- Sets and exports variables that are written with or without a value. -/
def declare (exports : Bool) (s : Session) (args : List Octets) : Session :=
  args.foldl (fun s a =>
    match cut '=' a with
    | (name, value?) =>
      let s := match value? with
        | some v => s.assign name v
        | none => s
      if exports then { s with exported := name :: s.exported } else s) s

/-- How many levels an argument names, one if there is none. -/
def levels (args : List Octets) : Nat := max 1 ((args.head?.map Utility.numberOf).getD 1)

/-- The status an argument names. -/
def statusOf (s : Session) (args : List Octets) : Nat :=
  match args with
  | a :: _ => ((Format.integer a).1 % 256).toNat
  | [] => s.status

/-- Whether a text is a status a script may end with. -/
def isStatus (s : Session) (a : Octets) : Bool :=
  (Format.integer a).2 && (s.plainEcho || a.head? ≠ some '-')

/-- Ends the script. -/
def exit (s : Session) (args : List Octets) : Flow × Session :=
  if args.all (isStatus s) then (.exits, { s with status := statusOf s args })
  else
    (.exits, { s.complain (Utility.say "exit: Illegal number: " ++ args.headD []) with status := 2 })

/-- Built-in commands that run no other commands. -/
def builtin? (s : Session) (name : Octets) (args : List Octets) : Option (Flow × Session) :=
  let fine := { s with status := 0 }
  match name.toStr with
  | ":" | "true" => some (.next, fine)
  | "false" => some (.next, { s with status := 1 })
  | "echo" => some (echo s args)
  | "printf" =>
    match args.dropWhile (· = "--".toList) with
    | [] => some (refused s 2 (Utility.say "printf: usage: printf format [arg ...]"))
    | format :: args =>
      let (out, fine) := Format.print format (args.length + 2) args
      some (answered s (if fine then 0 else 1) out)
  | "pwd" => some (answered s 0 (octetsOfText (Location.toText s.cwd) ++ ['\n']))
  | "cd" => some (changeDir s args)
  | "exit" => some (exit s args)
  | "return" => some (.returns, { s with status := statusOf s args })
  | "break" => some (.breaks (levels args), fine)
  | "continue" => some (.continues (levels args), fine)
  | "set" => some (.next, setOptions fine none args)
  | "unset" => some (.next, (args.filter fun a => a.head? ≠ some '-').foldl Session.unset fine)
  | "export" => some (.next, declare true fine (args.filter fun a => a.head? ≠ some '-'))
  | "local" =>
    let names := args.filter fun a => a.head? ≠ some '-'
    some (.next, declare false (names.foldl (fun s a => s.hold (cut '=' a).1) fine) names)
  | "readonly" | "declare" | "typeset" =>
    some (.next, declare false fine (args.filter fun a => a.head? ≠ some '-'))
  | "shift" =>
    let n := (args.head?.map Utility.numberOf).getD 1
    if s.args.length < n then some (refused s 2 (Utility.say "shift: can't shift that many"))
    else some (.next, { fine with args := s.args.drop n })
  | "read" => some (readInto s args)
  | "test" =>
    match Condition.holds? s args with
    | some b => some (.next, { s with status := if b then 0 else 1 })
    | none => some (refused s 2 (Utility.say "test: unexpected operator"))
  | "[" | "[[" =>
    match Condition.holds? s args.dropLast with
    | some b => some (.next, { s with status := if b then 0 else 1 })
    | none => some (refused s 2 (Utility.say "[: unexpected operator"))
  | "kill" => some (kill s args)
  | "trap" =>
    match args with
    | action :: names =>
      let kept := s.traps.filter fun e => !(names.map trapName).contains e.1
      let added := if action = ['-'] then [] else names.map fun n => (trapName n, action)
      some (.next, { fine with traps := added ++ kept })
    | [] => some (.next, fine)
  | "wait" =>
    let status := if args.isEmpty then 0 else s.backgroundStatus
    some (.next, { fine with clock := max s.clock s.backgroundEnd, status })
  | "umask" | "alias" | "hash" | "ulimit" => some (.next, fine)
  | _ => none

/-- Runs a utility. -/
def utility? (s : Session) (name : Octets) (args : List Octets) : Option (Flow × Session) :=
  let call : Call := ⟨args, s.available 0, s.environment, s.cwd, s.tree⟩
  match Utility.run? name call with
  | none => none
  | some o =>
    let s := { s with tree := o.tree, clock := s.clock + 1000 + o.micros, status := o.status }
    let s := s.leave 0 []
    some (if s.isOver then .over else .next, (s.write 1 o.out).write 2 o.err)

/-- The name of a program without the directory that programs stand in. -/
def programName (name : Octets) : Octets :=
  let dirs := ["/bin/", "/usr/bin/", "/usr/local/bin/"]
  (dirs.findSome? fun d => afterPrefix? d.toList name).getD name

/-- The names of shells. -/
def shells : List String := ["sh", "bash", "dash"]

/-- What commands in a separate process leave of a session: files, time and what was written. -/
def rejoin (outer inner : Session) : Session :=
  { outer with
    tree := inner.tree
    status := inner.status
    clock := inner.clock
    backgroundEnd := inner.backgroundEnd
    events := inner.events
    sources := inner.sources
    fresh := inner.fresh }

/-- How a script goes on after commands in a separate process. -/
def afterProcess : Flow → Flow
  | .killed n => .killed n
  | .over => .over
  | _ => .next

/-- Drops the newlines at the end of a text. -/
def dropNewlines (t : Octets) : Octets := dropEndWhile (· == '\n') t

/-- Ends the script after a failure where that is asked for. -/
def checked (s : Session) : Flow × Session :=
  if s.status ≠ 0 && s.has 'e' && !s.shielded then (.exits, s) else (.next, s)

/-! ## Expansion and commands -/

mutual

/-- What parts of a word are replaced by; nothing if a failure ends the script. -/
def expand : Nat → Session → Word → Option (List Session.Piece) × Session
  | 0, s, _ => (none, s)
  | _, s, [] => (some [], s)
  | fuel + 1, s, p :: rest =>
    let (first, s) : Option (List Session.Piece) × Session :=
      match p with
      | .plain t => (some [.written t], s)
      | .quoted t => (some [.fixed t], s)
      | .output q script =>
        let (t, s) := capture fuel s script
        (some [if q then .fixed t else .value t], s)
      | .arithmetic q expr =>
        match expand fuel s expr with
        | (some ps, s) =>
          let text := Session.pieceText ps
          let names := s.bindings.map fun (k, v) => (k, (Format.integer v).1)
          match Arithmetic.eval? names text with
          | some (v, names') =>
            let s := names'.foldl (fun s (k, v) =>
              if names.lookup k = some v then s else s.assign k (Utility.integerText v)) s
            (some [if q then .fixed (Utility.integerText v) else .value (Utility.integerText v)], s)
          | none => (none, s.complain (Utility.say "arithmetic expression: expecting primary"))
        | (none, s) => (none, s)
      | .parameter q name op word => parameter fuel s q name op word
    match first with
    | none => (none, s)
    | some ps =>
      match expand fuel s rest with
      | (some more, s) => (some (ps ++ more), s)
      | (none, s) => (none, s)

/-- What a parameter is replaced by. -/
def parameter : Nat → Session → Bool → Octets → ParamOp → Word → Option (List Session.Piece) × Session
  | 0, s, _, _, _, _ => (none, s)
  | fuel + 1, s, q, name, op, word =>
    let value? := s.parameter? name
    let isList := name = ['@'] || name = ['*']
    let shown (v : Octets) : List Session.Piece :=
      if name = ['@'] || (isList && !q) then
        (s.args.map fun a => [if q then Session.Piece.fixed a else .value a]).intersperse [.gap] |>.flatten
      else [if q then .fixed v else .value v]
    let isMissing (orEmpty : Bool) : Bool :=
      match value? with
      | none => true
      | some v => orEmpty && v.isEmpty
    let plain (s : Session) : Option (List Session.Piece) × Session :=
      match value? with
      | some v => (some (shown v), s)
      | none =>
        if s.has 'u' && !isList then (none, s.complain (name ++ Utility.say ": parameter not set"))
        else (some (if q && !isList then [.fixed []] else []), s)
    match op with
    | .value => plain s
    | .length =>
      let n := if isList then s.args.length else (value?.getD []).length
      (some [.fixed (numeral n)], s)
    | .orElse orEmpty => if isMissing orEmpty then expand fuel s word else plain s
    | .instead orEmpty => if isMissing orEmpty then (some [], s) else expand fuel s word
    | .assign orEmpty =>
      if isMissing orEmpty then
        match expand fuel s word with
        | (some ps, s) =>
          let v := Session.pieceText ps
          (some [if q then .fixed v else .value v], s.assign name v)
        | (none, s) => (none, s)
      else plain s
    | .required orEmpty =>
      if isMissing orEmpty then
        match expand fuel s word with
        | (some ps, s) =>
          let message := Session.pieceText ps
          let message := if message.isEmpty then Utility.say "parameter not set or null" else message
          (none, s.complain (name ++ Utility.say ": " ++ message))
        | (none, s) => (none, s)
      else plain s
    | .trimStart longest =>
      match expand fuel s word with
      | (some ps, s) =>
        let v := Glob.trimStart longest (Session.pieceGlob ps) (value?.getD [])
        (some [if q then .fixed v else .value v], s)
      | (none, s) => (none, s)
    | .trimEnd longest =>
      match expand fuel s word with
      | (some ps, s) =>
        let v := Glob.trimEnd longest (Session.pieceGlob ps) (value?.getD [])
        (some [if q then .fixed v else .value v], s)
      | (none, s) => (none, s)

/-- The output of a script without the newlines at its end. -/
def capture : Nat → Session → Octets → Octets × Session
  | 0, s, _ => ([], s)
  | fuel + 1, s, script =>
    let (n, s) := s.newPipe
    let (_, inner) := runScript fuel { s.redirect 1 (.pipe n) with depth := s.depth + 1 } script
    let t := dropNewlines (inner.written (.pipe n))
    let inner := { inner with events := inner.events.filter fun e => e.channel ≠ .pipe n }
    (t.filter (· != '\x00'), rejoin s inner)

/-- The texts that words are replaced by. -/
def expandWords : Nat → Session → List Word → Option (List Octets) × Session
  | 0, s, _ => (none, s)
  | _, s, [] => (some [], s)
  | fuel + 1, s, w :: rest =>
    let emptyList := s.args.isEmpty && w.any (fun p =>
        match p with
        | .parameter _ ['@'] .value _ => true
        | _ => false) && w.all fun p =>
      match p with
      | .quoted [] => true
      | .parameter _ ['@'] .value _ => true
      | _ => false
    let w := match w with
      | .plain ('~' :: t) :: more =>
        if t.isEmpty || t.head? = some '/' then
          .quoted ((s.value? "HOME".toList).getD ['~']) :: .plain t :: more
        else w
      | _ => w
    match (if emptyList then (some [], s) else expand fuel s w) with
    | (none, s) => (none, s)
    | (some ps, s) =>
      let texts := (s.fields ps).flatMap s.expandField
      match expandWords fuel s rest with
      | (some more, s) => (some (texts ++ more), s)
      | (none, s) => (none, s)

/-- The text that a word is replaced by, which is not split. -/
def expandText : Nat → Session → Word → Option Octets × Session
  | 0, s, _ => (none, s)
  | fuel + 1, s, w =>
    let w := match w with
      | .plain ('~' :: t) :: more =>
        if t.isEmpty || t.head? = some '/' then
          .quoted ((s.value? "HOME".toList).getD ['~']) :: .plain t :: more
        else w
      | _ => w
    match expand fuel s w with
    | (some ps, s) => (some (Session.pieceText ps), s)
    | (none, s) => (none, s)

/-- Redirects descriptors; nothing if one cannot be. -/
def redirectAll : Nat → Session → List Redirect → Option Session × Session
  | 0, s, _ => (none, s)
  | _, s, [] => (some s, s)
  | fuel + 1, s, r :: rest =>
    let opened (s : Session) : Except Octets Session → Option Session × Session
      | .ok s => redirectAll fuel s rest
      | .error message => (none, { s.complain message with status := 2 })
    match r with
    | .file fd mode path =>
      match expandText fuel s path with
      | (some name, s) => opened s (s.openFile fd mode name)
      | (none, s) => (none, s)
    | .both path =>
      match expandText fuel s path with
      | (some name, s) =>
        opened s ((s.openFile 1 .write name).map fun s => s.redirect 2 (s.channel 1))
      | (none, s) => (none, s)
    | .text fd body =>
      match expandText fuel s body with
      | (some t, s) =>
        let (n, s) := s.newSource t
        redirectAll fuel (s.redirect fd (.source n)) rest
      | (none, s) => (none, s)
    | .duplicate fd source =>
      match expandText fuel s source with
      | (some t, s) =>
        if t = ['-'] then redirectAll fuel (s.redirect fd .nothing) rest
        else if t.all Char.isDigit && !t.isEmpty then
          redirectAll fuel (s.redirect fd (s.channel (Utility.numberOf t))) rest
        else (none, { s.complain (Utility.say "bad fd number") with status := 2 })
      | (none, s) => (none, s)

/-- Runs a command. -/
def runCommand : Nat → Session → Command → Flow × Session
  | 0, s, _ => (.over, s)
  | fuel + 1, s, c =>
    if s.isOver then (.over, s)
    else
      match c with
      | .simple assignments words redirects => runSimple fuel s assignments words redirects
      | .sequence cs => runAll fuel s cs
      | .both a b =>
        match runCommand fuel { s with shielded := true } a with
        | (.next, s') =>
          let s' := { s' with shielded := s.shielded }
          if s'.status = 0 then runCommand fuel s' b else (.next, s')
        | (flow, s') => (flow, { s' with shielded := s.shielded })
      | .either a b =>
        match runCommand fuel { s with shielded := true } a with
        | (.next, s') =>
          let s' := { s' with shielded := s.shielded }
          if s'.status = 0 then (.next, s') else runCommand fuel s' b
        | (flow, s') => (flow, { s' with shielded := s.shielded })
      | .pipeline negated stages =>
        let (flow, s') :=
          match stages with
          | [c] => runCommand fuel { s with shielded := s.shielded || negated } c
          | _ => runStages fuel s s.clock s.clock 0 stages
        let s' := { s' with shielded := s.shielded }
        if flow ≠ .next then (flow, s')
        else if negated then (.next, { s' with status := if s'.status = 0 then 1 else 0 })
        else checked s'
      | .background c =>
        let start := { s.redirect 0 .nothing with backgroundEnd := s.clock }
        let (_, inner) := runCommand fuel { start with depth := s.depth + 1 } c
        let s' := rejoin s inner
        let ends := max s.backgroundEnd (max inner.clock inner.backgroundEnd)
        let s' :=
          { s' with clock := s.clock, backgroundEnd := ends, backgroundStatus := inner.status, status := 0 }
        (.next, s'.assign ['!'] (numeral (Session.processId + 1)))
      | .subshell c =>
        let (flow, inner) := runCommand fuel { s with depth := s.depth + 1, traps := [] } c
        match afterProcess flow with
        | .next => checked (rejoin s inner)
        | flow => (flow, rejoin s inner)
      | .branch condition yes no =>
        match runCommand fuel { s with shielded := true } condition with
        | (.next, s') =>
          let s' := { s' with shielded := s.shielded }
          if s'.status = 0 then runCommand fuel s' yes
          else
            match no with
            | some c => runCommand fuel s' c
            | none => (.next, { s' with status := 0 })
        | (flow, s') => (flow, { s' with shielded := s.shielded })
      | .loop untilTrue condition body => runLoop fuel { s with status := 0 } untilTrue condition body 0
      | .each name words body =>
        match words with
        | none => runEach fuel { s with status := 0 } name s.args body
        | some ws =>
          match expandWords fuel s ws with
          | (some texts, s) => runEach fuel { s with status := 0 } name texts body
          | (none, s) => (.exits, { s with status := 2 })
      | .choose word cases =>
        match expandText fuel s word with
        | (some t, s) => runCases fuel { s with status := 0 } t cases
        | (none, s) => (.exits, { s with status := 2 })
      | .define name body => (.next, { s with functions := (name, body) :: s.functions, status := 0 })
      | .calculate expr =>
        match expand fuel s [.arithmetic true expr] with
        | (some ps, s) => (.next, { s with status := if Session.pieceText ps = ['0'] then 1 else 0 })
        | (none, s) => (.next, { s with status := 1 })
      | .redirected c redirects =>
        match redirectAll fuel s redirects with
        | (some s', _) =>
          let (flow, s') := runCommand fuel s' c
          (flow, { s' with descriptors := s.descriptors })
        | (none, s') => (.next, { s' with descriptors := s.descriptors })

/-- Runs commands one after the other. -/
def runAll : Nat → Session → List Command → Flow × Session
  | 0, s, _ => (.over, s)
  | _, s, [] => (.next, s)
  | fuel + 1, s, c :: rest =>
    match runCommand fuel s c with
    | (.next, s) => runAll fuel s rest
    | (flow, s) => (flow, s)

/-- Runs the commands of a pipeline, which all start at one moment; `ends` is the moment at which those
before are over, `failure` their last status that is not zero. -/
def runStages : Nat → Session → Nat → Nat → Nat → List Command → Flow × Session
  | 0, s, _, _, _, _ => (.over, s)
  | _, s, _, _, _, [] => (.next, s)
  | fuel + 1, s, start, ends, failure, c :: rest =>
    let inner := { s with clock := start, depth := s.depth + 1 }
    match rest with
    | [] =>
      let (flow, inner) := runCommand fuel inner c
      let s' := rejoin s inner
      let s' := { s' with clock := max ends inner.clock }
      let s' := if s.has 'P' && s'.status = 0 then { s' with status := failure } else s'
      (if s'.isOver then .over else afterProcess flow, s')
    | _ =>
      let (n, inner) := inner.newPipe
      let (flow, inner) := runCommand fuel (inner.redirect 1 (.pipe n)) c
      let data := inner.written (.pipe n)
      let inner := { inner with events := inner.events.filter fun e => e.channel ≠ .pipe n }
      match afterProcess flow with
      | .next =>
        let failure := if inner.status = 0 then failure else inner.status
        let (m, s') := (rejoin s inner).newSource data
        let (flow, after) :=
          runStages fuel (s'.redirect 0 (.source m)) start (max ends inner.clock) failure rest
        (flow, { after with descriptors := s.descriptors })
      | flow => (flow, rejoin s inner)

/-- Runs a loop; `status` is that of the last round. -/
def runLoop : Nat → Session → Bool → Command → Command → Nat → Flow × Session
  | 0, s, _, _, _, _ => (.over, s)
  | fuel + 1, s, untilTrue, condition, body, status =>
    match runCommand fuel { s with shielded := true } condition with
    | (.next, s') =>
      let s' := { s' with shielded := s.shielded }
      if (s'.status == 0) == untilTrue then (.next, { s' with status })
      else
        match runCommand fuel s' body with
        | (.next, s') => runLoop fuel s' untilTrue condition body s'.status
        | (.breaks n, s') => (if n ≤ 1 then .next else .breaks (n - 1), s')
        | (.continues n, s') =>
          if n ≤ 1 then runLoop fuel s' untilTrue condition body s'.status else (.continues (n - 1), s')
        | (flow, s') => (flow, s')
    | (flow, s') => (flow, { s' with shielded := s.shielded })

/-- Runs a command once for each text. -/
def runEach : Nat → Session → Octets → List Octets → Command → Flow × Session
  | 0, s, _, _, _ => (.over, s)
  | _, s, _, [], _ => (.next, s)
  | fuel + 1, s, name, t :: rest, body =>
    match runCommand fuel (s.assign name t) body with
    | (.next, s) => runEach fuel s name rest body
    | (.breaks n, s) => (if n ≤ 1 then .next else .breaks (n - 1), s)
    | (.continues n, s) =>
      if n ≤ 1 then runEach fuel s name rest body else (.continues (n - 1), s)
    | (flow, s) => (flow, s)

/-- Runs the first case one of whose patterns stands for a text. -/
def runCases : Nat → Session → Octets → List (List Word × Command) → Flow × Session
  | 0, s, _, _ => (.over, s)
  | _, s, _, [] => (.next, s)
  | fuel + 1, s, t, (patterns, body) :: rest =>
    let (found, s) := anyPattern fuel s t patterns
    if found then runCommand fuel s body else runCases fuel s t rest

/-- Whether one of some patterns stands for a text. -/
def anyPattern : Nat → Session → Octets → List Word → Bool × Session
  | 0, s, _, _ => (false, s)
  | _, s, _, [] => (false, s)
  | fuel + 1, s, t, w :: rest =>
    match expand fuel s w with
    | (some ps, s) =>
      if Glob.matchesText (Session.pieceGlob ps) t then (true, s) else anyPattern fuel s t rest
    | (none, s) => (false, s)

/-- Makes assignments; nothing if one cannot be made. -/
def assignAll : Nat → Session → Bool → List (Octets × Word) → Option Session × Session
  | 0, s, _, _ => (none, s)
  | _, s, _, [] => (some s, s)
  | fuel + 1, s, exports, (name, w) :: rest =>
    match expandText fuel s w with
    | (some t, s) =>
      let s := s.assign name t
      assignAll fuel (if exports then { s with exported := name :: s.exported } else s) exports rest
    | (none, s) => (none, s)

/-- Runs a simple command. -/
def runSimple : Nat → Session → List (Octets × Word) → List Word → List Redirect → Flow × Session
  | 0, s, _, _, _ => (.over, s)
  | fuel + 1, s, assignments, words, redirects =>
    let s := s.wait 2
    let before := s.fresh
    match expandWords fuel s words with
    | (none, s) => (.exits, { s with status := 2 })
    | (some texts, s) =>
      match texts with
      | [] =>
        let captured := before < s.fresh
        match assignAll fuel s false assignments with
        | (none, s) => (.exits, { s with status := 2 })
        | (some s', _) =>
          let s' := if captured || s.fresh < s'.fresh then s' else { s' with status := 0 }
          match redirectAll fuel s' redirects with
          | (some s'', _) => checked { s'' with descriptors := s.descriptors }
          | (none, s'') => checked { s'' with descriptors := s.descriptors, status := 2 }
      | name :: args =>
        match assignAll fuel s true assignments with
        | (none, s) => (.exits, { s with status := 2 })
        | (some s', _) =>
          let s' := if s.has 'x' then s'.write 2 (Utility.say "+ " ++ join [' '] texts ++ ['\n']) else s'
          match redirectAll fuel s' redirects with
          | (none, s'') => checked { s'' with descriptors := s.descriptors, status := 2 }
          | (some s'', _) =>
            let (flow, after) := runWords fuel s'' name args
            let keeps := name = "exec".toList && args.isEmpty
            let after := if keeps then after else { after with descriptors := s.descriptors }
            let after := assignments.foldl (fun x (k, _) =>
              match s.value? k with
              | some v =>
                let x := x.assign k v
                if s.exported.contains k then x else { x with exported := x.exported.filter (· ≠ k) }
              | none => x.unset k) after
            match flow with
            | .next => checked after
            | flow => (flow, after)

/-- Runs a command whose words are replaced already. -/
def runWords : Nat → Session → Octets → List Octets → Flow × Session
  | 0, s, _, _ => (.over, s)
  | fuel + 1, s, name, args =>
    match s.functions.lookup name with
    | some body =>
      if Session.depthLimit ≤ s.depth then (.over, s)
      else
        let (flow, s') := runCommand fuel { s with args, locals := [], depth := s.depth + 1 } body
        let s' := { s'.giveBack s.locals with args := s.args, depth := s.depth }
        (if flow = .returns then .next else flow, s')
    | none =>
      match builtin? s name args with
      | some r => r
      | none =>
        match name.toStr with
        | "eval" => runScript fuel s (join [' '] args)
        | "." | "source" =>
          match args with
          | file :: rest =>
            match s.tree.read s.cwd (Utility.pathOf file) with
            | .ok content =>
              let (flow, s') :=
                runScript fuel (if rest.isEmpty then s else { s with args := rest }) (octetsOf content)
              let s' := if rest.isEmpty then s' else { s' with args := s.args }
              (if flow = .returns then .next else flow, s')
            | .error _ => (.exits, { s.complain (Utility.say ".: cannot open " ++ file) with status := 2 })
          | [] => (.next, { s with status := 2 })
        | "command" | "builtin" =>
          match args.filter fun a => a.head? ≠ some '-' with
          | inner :: rest =>
            if args.head? = some "-v".toList then
              let known := (builtin? s inner []).isSome ||
                (Utility.names ++ shells).any (·.toList == inner)
              answered s (if known then 0 else 127) (if known then inner ++ ['\n'] else [])
            else runWords fuel { s with functions := [] } inner rest
          | [] => (.next, { s with status := 0 })
        | "exec" =>
          match args with
          | [] => (.next, { s with status := 0 })
          | inner :: rest =>
            match runWords fuel { s with functions := [] } inner rest with
            | (.next, s') => (.exits, s')
            | (flow, s') => (flow, s')
        | "env" =>
          let settings := args.takeWhile fun a => (cut '=' a).2.isSome
          let s' := declare true s settings
          match args.drop settings.length with
          | [] => answered s 0 (Utility.ofLines (s'.environment.map fun (k, v) => k ++ '=' :: v))
          | inner :: rest =>
            let (flow, s'') := runWords fuel { s' with functions := [] } inner rest
            (flow, { rejoin s s'' with status := s''.status })
        | "xargs" =>
          let items := words (s.available 0)
          match (match args with
            | [] => ["echo".toList] ++ items
            | args => args ++ items) with
          | inner :: rest => runWords fuel (s.leave 0 []) inner rest
          | [] => (.next, s)
        | _ =>
          let program := programName name
          if shells.any (·.toList == program) then
            let (flow, s') := runShell fuel s program args
            (if flow = .over then .over else .next, s')
          else
            match utility? s program args with
            | some r => r
            | none =>
              if name.contains '/' then
                match s.tree.stat s.cwd (Utility.pathOf name) with
                | .ok _ => refused s 126 (name ++ Utility.say ": Permission denied")
                | .error _ => refused s 127 (name ++ Utility.say ": not found")
              else refused s 127 (name ++ Utility.say ": not found")

/-- Runs another shell. -/
def runShell : Nat → Session → Octets → List Octets → Flow × Session
  | 0, s, _, _ => (.over, s)
  | fuel + 1, s, program, args =>
    if Session.depthLimit ≤ s.depth then (.over, s)
    else
      let flags := args.takeWhile fun a => a.head? = some '-' && a.length ≥ 2
      let rest := args.drop flags.length
      let letters := (flags.flatMap fun a => a.drop 1).filter (· ≠ 'c')
      let inner : Session :=
        { s with
          bindings := s.environment
          functions := []
          traps := []
          options := letters
          shielded := false
          plainEcho := program = "bash".toList
          clock := s.clock + 1000
          depth := s.depth + 1 }
      let start (name : Octets) (args : List Octets) (script : Octets) : Flow × Session :=
        let (flow, after) := runMain fuel { inner with name, args } script
        (flow, rejoin s after)
      if flags.any fun a => a.contains 'c' then
        match rest with
        | script :: rest => start (rest.headD program) (rest.drop 1) script
        | [] => (.next, { s with status := 2 })
      else
        match rest with
        | [] => start program [] (s.available 0)
        | file :: rest =>
          match s.tree.read s.cwd (Utility.pathOf file) with
          | .ok content => start file rest (octetsOf content)
          | .error _ => (.next, { s.complain (Utility.say "cannot open " ++ file) with status := 2 })

/-- Runs a script up to its end, and what is to be done there. -/
def runMain : Nat → Session → Octets → Flow × Session
  | 0, s, _ => (.over, s)
  | fuel + 1, s, script =>
    let (flow, s) := runScript fuel s script
    match flow with
    | .over => (.over, s)
    | .killed n =>
      match s.traps.lookup (trapName (numeral n)) with
      | some action =>
        match runScript fuel { s with traps := [] } action with
        | (.over, s) => (.over, s)
        | (_, s) => (.next, s)
      | none => (.killed n, { s with status := 128 + n })
    | _ =>
      match s.traps.lookup "EXIT".toList with
      | some action =>
        let status := s.status
        match runScript fuel { s with traps := [] } action with
        | (.over, s) => (.over, s)
        | (.exits, s) => (.next, s)
        | (_, s) => (.next, { s with status })
      | none => (.next, s)

/-- Runs a script line by line. -/
def runScript : Nat → Session → Octets → Flow × Session
  | 0, s, _ => (.over, s)
  | fuel + 1, s, script =>
    match readLine? script with
    | none => (.next, s)
    | some none => (.exits, { s.complain (Utility.say "Syntax error") with status := 2 })
    | some (some (c, rest)) =>
      match runCommand fuel s c with
      | (.next, s) => runScript fuel s rest
      | (flow, s) => (flow, s)

end

/-- How many steps a script may take. -/
def stepLimit : Nat := 60000

end Literate.Shell
