import Literate.Shell.Command

/-!
# Reading scripts

Reads words and commands.  Every function gives what it read and the rest of the script, or nothing
if the script is malformed; `fuel` bounds the number of steps.

* `readParts` reads the parts of a word.
* `readList` reads commands up to the end of their construct.
* `readLine?` reads the commands of one line of a script.
-/

namespace Literate.Shell

open Text

/-! ## Characters -/

/-- Whether a character separates words. -/
def isSpacing (c : Char) : Bool := c = ' ' || c = '\t' || c = '\r'

/-- Whether a character ends a word. -/
def endsWord (c : Char) : Bool :=
  isSpacing c || c = '\n' || c = ';' || c = '&' || c = '|' || c = '<' || c = '>' || c = '(' || c = ')'

/-- Whether a character may start a name. -/
def isNameStart (c : Char) : Bool := c.isAlpha || c = '_'

/-- Whether a character may go on with a name. -/
def isNameChar (c : Char) : Bool := c.isAlphanum || c = '_'

/-- The name at the front of a text, empty if there is none. -/
def nameAt (t : Octets) : Octets :=
  if (t.head?.map isNameStart).getD false then t.takeWhile isNameChar else []

/-- Parameters that are named by one character. -/
def isSpecialParam (c : Char) : Bool := "@*#?$!-".toList.contains c || c.isDigit

/-- Drops spaces, escaped newlines and a comment. -/
def skipSpacing : Octets → Octets
  | '\\' :: '\n' :: r => skipSpacing r
  | c :: r => if isSpacing c then skipSpacing r else c :: r
  | [] => []

/-- Drops spaces and a comment, which goes up to the end of the line. -/
def skipComment (t : Octets) : Octets :=
  match skipSpacing t with
  | '#' :: r => r.dropWhile (· != '\n')
  | r => r

/-- Drops spaces, comments and newlines. -/
def skipLines : Nat → Octets → Octets
  | 0, t => t
  | fuel + 1, t =>
    match skipComment t with
    | '\n' :: r => skipLines fuel r
    | r => r

/-! ## Nested text -/

/-- What stands in single quotes, the first of which was read, and what follows. -/
def singleQuoted? (t : Octets) : Option (Octets × Octets) :=
  match cut '\'' t with
  | (inner, some rest) => some (inner, rest)
  | (_, none) => none

/-- What stands in double quotes, the first of which was read, as written, and what follows. -/
def doubleQuoted? : Octets → Option (Octets × Octets)
  | [] => none
  | '"' :: r => some ([], r)
  | '\\' :: c :: r => (doubleQuoted? r).map fun (t, rest) => ('\\' :: c :: t, rest)
  | c :: r => (doubleQuoted? r).map fun (t, rest) => (c :: t, rest)

/-- What stands in parentheses, the first of which was read, and what follows. -/
def balanced? (depth : Nat) : Nat → Octets → Option (Octets × Octets)
  | 0, _ => none
  | _, [] => none
  | fuel + 1, c :: r =>
    let more (kept rest : Octets) (depth : Nat) :=
      (balanced? depth fuel rest).map fun (t, rest) => (kept ++ t, rest)
    if c = '(' then more [c] r (depth + 1)
    else if c = ')' then if depth = 0 then some ([], r) else more [c] r (depth - 1)
    else if c = '\\' then more (c :: r.take 1) (r.drop 1) depth
    else if c = '\'' then
      match singleQuoted? r with
      | some (inner, rest) => more (c :: inner ++ [c]) rest depth
      | none => none
    else if c = '"' then
      match doubleQuoted? r with
      | some (inner, rest) => more (c :: inner ++ [c]) rest depth
      | none => none
    else more [c] r depth

/-- A script between backticks, the first of which was read, and what follows. -/
def backquoted? : Octets → Option (Octets × Octets)
  | [] => none
  | '\x60' :: r => some ([], r)
  | '\\' :: c :: r =>
    let kept := if c = '\x60' || c = '\\' || c = '$' then [c] else ['\\', c]
    (backquoted? r).map fun (t, rest) => (kept ++ t, rest)
  | c :: r => (backquoted? r).map fun (t, rest) => (c :: t, rest)

/-! ## Words -/

/-- Where parts of a word stand. -/
inductive Place
  | bare
  | inQuotes
  /-- After the operator of a parameter in braces. -/
  | inBraces (inQuotes : Bool)
  /-- In a text that was given in place. -/
  | inText
  deriving DecidableEq, Repr

/-- Whether parts at a place are quoted. -/
def Place.quotes : Place → Bool
  | bare => false
  | inQuotes => true
  | inBraces q => q
  | inText => true

/-- A character that stands for itself. -/
def Place.literal (p : Place) (c : Char) : WordPart := if p.quotes then .quoted [c] else .plain [c]

/-- The operator after the name of a parameter, and what follows. -/
def paramOp? : Octets → Option (ParamOp × Octets)
  | ':' :: '-' :: r => some (.orElse true, r)
  | '-' :: r => some (.orElse false, r)
  | ':' :: '=' :: r => some (.assign true, r)
  | '=' :: r => some (.assign false, r)
  | ':' :: '+' :: r => some (.instead true, r)
  | '+' :: r => some (.instead false, r)
  | ':' :: '?' :: r => some (.required true, r)
  | '?' :: r => some (.required false, r)
  | '#' :: '#' :: r => some (.trimStart true, r)
  | '#' :: r => some (.trimStart false, r)
  | '%' :: '%' :: r => some (.trimEnd true, r)
  | '%' :: r => some (.trimEnd false, r)
  | '\x7d' :: r => some (.value, '\x7d' :: r)
  | _ => none

/-- The parameter at the front of a text in braces, and what follows its name. -/
def paramName? (t : Octets) : Option (Octets × Octets) :=
  let name := nameAt t
  if !name.isEmpty then some (name, t.drop name.length)
  else
    let digits := t.takeWhile Char.isDigit
    if !digits.isEmpty then some (digits, t.drop digits.length)
    else
      match t with
      | c :: r => if isSpecialParam c then some ([c], r) else none
      | [] => none

mutual

/-- Reads the parts of a word up to what ends it at its place, which is not read. -/
def readParts (p : Place) : Nat → Octets → Option (Word × Octets)
  | 0, _ => none
  | fuel + 1, t =>
    let more (part : List WordPart) (rest : Octets) :=
      (readParts p fuel rest).map fun (parts, rest) => (part ++ parts, rest)
    match t with
    | [] => if p = .inText || p = .bare then some ([], []) else none
    | c :: r =>
      let ends :=
        match p with
        | .bare => endsWord c
        | .inQuotes => c = '"'
        | .inBraces _ => c = '\x7d'
        | .inText => false
      if ends then some ([], t)
      else
        match c with
        | '\\' =>
          match r with
          | [] => more [p.literal '\\'] []
          | '\n' :: r => more [] r
          | d :: r =>
            if p = .bare || p = .inBraces false || d = '$' || d = '\x60' || d = '\\'
                || (d = '"' && p ≠ .inText) then more [.quoted [d]] r
            else more [.quoted ['\\', d]] r
        | '\'' =>
          if p.quotes then more [p.literal c] r
          else
            match singleQuoted? r with
            | some (inner, rest) => more [.quoted inner] rest
            | none => none
        | '"' =>
          if p = .inText then more [p.literal c] r
          else
            match readParts .inQuotes fuel r with
            | some (parts, rest) => more (.quoted [] :: parts) (rest.drop 1)
            | none => none
        | '\x60' =>
          match backquoted? r with
          | some (script, rest) => more [.output p.quotes script] rest
          | none => none
        | '$' =>
          match readDollar p fuel r with
          | some (part, rest) => more part rest
          | none => none
        | c => more [p.literal c] r

/-- Reads what a dollar sign, which was read, starts. -/
def readDollar (p : Place) : Nat → Octets → Option (List WordPart × Octets)
  | 0, _ => none
  | fuel + 1, t =>
    match t with
    | '(' :: r =>
      match balanced? 0 (r.length + 1) r with
      | none => none
      | some (inner, rest) =>
        match inner, inner.getLast? with
        | '(' :: expr, some ')' =>
          (readParts .inText fuel expr.dropLast).map fun (parts, _) =>
            ([.arithmetic p.quotes parts], rest)
        | _, _ => some ([.output p.quotes inner], rest)
    | '\x7b' :: '#' :: r =>
      match paramName? r with
      | some (name, '\x7d' :: rest) => some ([.parameter p.quotes name .length []], rest)
      | _ =>
        match r with
        | '\x7d' :: rest => some ([.parameter p.quotes ['#'] .value []], rest)
        | _ => none
    | '\x7b' :: r =>
      match paramName? r with
      | none => none
      | some (name, rest) =>
        match paramOp? rest with
        | none => none
        | some (op, rest) =>
          match readParts (.inBraces p.quotes) fuel rest with
          | some (word, '\x7d' :: rest) => some ([.parameter p.quotes name op word], rest)
          | _ => none
    | '\'' :: r =>
      if p.quotes then some ([.quoted ['$']], t)
      else (singleQuoted? r).map fun (inner, rest) => ([.quoted inner], rest)
    | c :: r =>
      let name := nameAt t
      if !name.isEmpty then some ([.parameter p.quotes name .value []], t.drop name.length)
      else if isSpecialParam c then some ([.parameter p.quotes [c] .value []], r)
      else some ([p.literal '$'], t)
    | [] => some ([p.literal '$'], [])

end

/-- Puts adjacent parts of the same kind together. -/
def joinParts : Word → Word
  | [] => []
  | .plain s :: rest =>
    match joinParts rest with
    | .plain t :: more => .plain (s ++ t) :: more
    | more => .plain s :: more
  | .quoted s :: rest =>
    match joinParts rest with
    | .quoted t :: more => .quoted (s ++ t) :: more
    | more => .quoted s :: more
  | p :: rest => p :: joinParts rest

/-- Reads a word. -/
def readWord? (fuel : Nat) (t : Octets) : Option (Word × Octets) :=
  (readParts .bare fuel t).map fun (w, rest) => (joinParts w, rest)

/-- The text of a word with its quotes taken away, as the end mark of a text given in place. -/
def markOf (w : Word) : Octets :=
  w.flatMap fun p =>
    match p with
    | .plain t => t
    | .quoted t => t
    | _ => []

/-- Whether a part of a word is quoted. -/
def isQuoted : WordPart → Bool
  | .quoted _ => true
  | _ => false

/-! ## Texts given in place -/

/-- The lines of a text given in place up to its end mark, and what follows the line of the mark. -/
def hereLines (mark : Octets) (dropTabs : Bool) : Nat → Octets → Octets × Octets
  | 0, t => ([], t)
  | fuel + 1, t =>
    if t.isEmpty then ([], [])
    else
      let (line, rest?) := cut '\n' t
      let line := if dropTabs then line.dropWhile (· == '\t') else line
      let rest := rest?.getD []
      if line == mark then ([], rest)
      else
        let (more, after) := hereLines mark dropTabs fuel rest
        (line ++ '\n' :: more, after)

/-- Reads a text given in place after its operator: the text and what follows on the line and after
the text. -/
def readHere? (fuel : Nat) (dropTabs : Bool) (t : Octets) : Option (Word × Octets) :=
  match readWord? fuel (skipSpacing t) with
  | none => none
  | some (markWord, rest) =>
    let (line, after?) := cut '\n' rest
    let (body, after) := hereLines (markOf markWord) dropTabs fuel (after?.getD [])
    let rest := line ++ '\n' :: after
    if markWord.any isQuoted then some ([.quoted body], rest)
    else (readParts .inText fuel body).map fun (w, _) => (joinParts w, rest)

/-! ## Redirections -/

/-- The number at the front of a text, if a redirection follows it. -/
def descriptor? (t : Octets) : Option Nat × Octets :=
  let digits := t.takeWhile Char.isDigit
  match t.drop digits.length with
  | '<' :: _ | '>' :: _ =>
    if digits.isEmpty then (none, t) else (some (digits.foldl (fun n c => 10 * n + (c.toNat - 48)) 0), t.drop digits.length)
  | _ => (none, t)

/-- Reads a redirection; the outer option says whether there is one, the inner whether it is well
formed. -/
def readRedirect? (fuel : Nat) (t : Octets) : Option (Option (Redirect × Octets)) :=
  let (fd?, r) := descriptor? t
  let path (make : Word → Redirect) (rest : Octets) : Option (Redirect × Octets) :=
    match readWord? fuel (skipSpacing rest) with
    | some ([], _) => none
    | some (w, rest) => some (make w, rest)
    | none => none
  match r with
  | '<' :: '<' :: '<' :: rest => some (path (fun w => .text (fd?.getD 0) (w ++ [.quoted ['\n']])) rest)
  | '<' :: '<' :: '-' :: rest =>
    some ((readHere? fuel true rest).map fun (w, rest) => (.text (fd?.getD 0) w, rest))
  | '<' :: '<' :: rest =>
    some ((readHere? fuel false rest).map fun (w, rest) => (.text (fd?.getD 0) w, rest))
  | '<' :: '&' :: rest => some (path (.duplicate (fd?.getD 0)) rest)
  | '<' :: rest => some (path (.file (fd?.getD 0) .read) rest)
  | '>' :: '>' :: rest => some (path (.file (fd?.getD 1) .append) rest)
  | '>' :: '&' :: rest => some (path (.duplicate (fd?.getD 1)) rest)
  | '>' :: '|' :: rest => some (path (.file (fd?.getD 1) .write) rest)
  | '>' :: rest => some (path (.file (fd?.getD 1) .write) rest)
  | '&' :: '>' :: rest => some (path .both rest)
  | _ => none

/-- Reads redirections after a command. -/
def readRedirects : Nat → Octets → Option (List Redirect × Octets)
  | 0, _ => none
  | fuel + 1, t =>
    match readRedirect? fuel (skipSpacing t) with
    | none => some ([], t)
    | some none => none
    | some (some (r, rest)) =>
      (readRedirects fuel rest).map fun (rs, rest) => (r :: rs, rest)

/-! ## Commands -/

/-- The assignment a word is written as. -/
def assignment? (w : Word) : Option (Octets × Word) :=
  match w with
  | .plain t :: rest =>
    let name := nameAt t
    match name, t.drop name.length with
    | _ :: _, '=' :: value => some (name, if value.isEmpty then rest else .plain value :: rest)
    | _, _ => none
  | _ => none

/-- Words that end a list of commands. -/
def closers : List String := ["then", "do", "done", "fi", "else", "elif", "esac", "\x7d"]

/-- The word at the front of a text if it is written plainly. -/
def plainWordAt (t : Octets) : Octets := t.takeWhile fun c => !(endsWord c || "\"'\\$\x60".toList.contains c)

/-- Whether the text begins with a word that ends a list of commands. -/
def isCloser (t : Octets) : Bool :=
  let w := plainWordAt t
  closers.any (·.toList == w) && (((t.drop w.length).head?.map endsWord).getD true)

/-- What follows a word that must come next. -/
def expect? (fuel : Nat) (word : String) (t : Octets) : Option Octets :=
  let t := skipLines fuel t
  if plainWordAt t == word.toList then some (t.drop word.toList.length) else none

/-- The rest of a simple command after its first parts. -/
def readSimple : Nat → Bool → Octets → Option (List (Octets × Word) × List Word × List Redirect × Octets)
  | 0, _, _ => none
  | fuel + 1, started, t =>
    let t := skipComment t
    match readRedirect? fuel t with
    | some none => none
    | some (some (r, rest)) =>
      (readSimple fuel started rest).map fun (as, ws, rs, rest) => (as, ws, r :: rs, rest)
    | none =>
      match t with
      | [] => some ([], [], [], [])
      | c :: _ =>
        if endsWord c then some ([], [], [], t)
        else
          match readWord? fuel t with
          | none => none
          | some (w, rest) =>
            match (if started then none else assignment? w) with
            | some a =>
              (readSimple fuel false rest).map fun (as, ws, rs, rest) => (a :: as, ws, rs, rest)
            | none =>
              (readSimple fuel true rest).map fun (as, ws, rs, rest) => (as, w :: ws, rs, rest)

/-- Words up to the end of a line or a semicolon. -/
def readWords : Nat → Octets → Option (List Word × Octets)
  | 0, _ => none
  | fuel + 1, t =>
    match skipComment t with
    | [] => some ([], [])
    | c :: r =>
      if endsWord c then some ([], c :: r)
      else
        match readWord? fuel (c :: r) with
        | none => none
        | some (w, rest) => (readWords fuel rest).map fun (ws, rest) => (w :: ws, rest)

/-- The patterns of a case up to the parenthesis. -/
def readPatterns : Nat → Octets → Option (List Word × Octets)
  | 0, _ => none
  | fuel + 1, t =>
    match readWord? fuel (skipSpacing t) with
    | none => none
    | some (w, rest) =>
      match skipSpacing rest with
      | '|' :: rest => (readPatterns fuel rest).map fun (ws, rest) => (w :: ws, rest)
      | ')' :: rest => some ([w], rest)
      | _ => none

/-- One command for several. -/
def sequenceOf : List Command → Command
  | [c] => c
  | cs => .sequence cs

mutual

/-- Reads commands up to the end of their construct; `oneLine` says whether a newline ends them. -/
def readList (oneLine : Bool) : Nat → Octets → Option (List Command × Octets)
  | 0, _ => none
  | fuel + 1, t =>
    let t := if oneLine then skipComment t else skipLines (t.length + 1) t
    match t with
    | [] => some ([], [])
    | ')' :: _ => some ([], t)
    | ';' :: ';' :: _ => some ([], t)
    | '\n' :: _ => some ([], t)
    | _ =>
      if isCloser t then some ([], t)
      else
        match readAndOr fuel t with
        | none => none
        | some (c, rest) =>
          match skipComment rest with
          | ';' :: ';' :: r => some ([c], ';' :: ';' :: r)
          | ';' :: r => (readList oneLine fuel r).map fun (cs, rest) => (c :: cs, rest)
          | '&' :: r => (readList oneLine fuel r).map fun (cs, rest) => (.background c :: cs, rest)
          | '\n' :: r =>
            if oneLine then some ([c], '\n' :: r)
            else (readList oneLine fuel r).map fun (cs, rest) => (c :: cs, rest)
          | rest => some ([c], rest)

/-- Reads pipelines joined by what their success decides. -/
def readAndOr : Nat → Octets → Option (Command × Octets)
  | 0, _ => none
  | fuel + 1, t =>
    match readPipeline fuel t with
    | none => none
    | some (c, rest) => readMore fuel c rest

/-- Goes on with joined pipelines. -/
def readMore : Nat → Command → Octets → Option (Command × Octets)
  | 0, _, _ => none
  | fuel + 1, c, t =>
    match skipSpacing t with
    | '&' :: '&' :: r =>
      match readPipeline fuel (skipLines (r.length + 1) r) with
      | none => none
      | some (d, rest) => readMore fuel (.both c d) rest
    | '|' :: '|' :: r =>
      match readPipeline fuel (skipLines (r.length + 1) r) with
      | none => none
      | some (d, rest) => readMore fuel (.either c d) rest
    | r => some (c, r)

/-- Reads a pipeline. -/
def readPipeline : Nat → Octets → Option (Command × Octets)
  | 0, _ => none
  | fuel + 1, t =>
    match skipSpacing t with
    | '!' :: c :: r =>
      if isSpacing c then
        (readStages fuel r).map fun (cs, rest) => (.pipeline true cs, rest)
      else (readStages fuel ('!' :: c :: r)).map fun (cs, rest) => (.pipeline false cs, rest)
    | t =>
      (readStages fuel t).map fun (cs, rest) =>
        (match cs with
          | [c] => c
          | cs => .pipeline false cs, rest)

/-- Reads the commands of a pipeline. -/
def readStages : Nat → Octets → Option (List Command × Octets)
  | 0, _ => none
  | fuel + 1, t =>
    match readCommand fuel (skipSpacing t) with
    | none => none
    | some (c, rest) =>
      match skipSpacing rest with
      | '|' :: '|' :: r => some ([c], '|' :: '|' :: r)
      | '|' :: r => (readStages fuel (skipLines (r.length + 1) r)).map fun (cs, rest) => (c :: cs, rest)
      | rest => some ([c], rest)

/-- Reads a command. -/
def readCommand : Nat → Octets → Option (Command × Octets)
  | 0, _ => none
  | fuel + 1, t =>
    let withRedirects (c : Command) (rest : Octets) : Option (Command × Octets) :=
      (readRedirects fuel rest).map fun (rs, rest) => (if rs.isEmpty then c else .redirected c rs, rest)
    let body? (rest : Octets) (closer : String) : Option (Command × Octets) :=
      match readList false fuel rest with
      | some (cs, rest) =>
        if cs.isEmpty then none else (expect? fuel closer rest).map fun rest => (sequenceOf cs, rest)
      | none => none
    match t with
    | '(' :: '(' :: r =>
      match balanced? 0 (r.length + 1) r with
      | some (expr, ')' :: rest) =>
        match readParts .inText fuel expr with
        | some (w, _) => withRedirects (.calculate w) rest
        | none => none
      | _ => none
    | '(' :: r =>
      match readList false fuel r with
      | some (cs, rest) =>
        match skipLines (rest.length + 1) rest with
        | ')' :: rest => if cs.isEmpty then none else withRedirects (.subshell (sequenceOf cs)) rest
        | _ => none
      | none => none
    | _ =>
      let word := plainWordAt t
      let rest := t.drop word.length
      let plain := ((rest.head?.map endsWord).getD true)
      match (if plain then word.toStr else "") with
      | "\x7b" =>
        match body? rest "\x7d" with
        | some (c, rest) => withRedirects c rest
        | none => none
      | "if" =>
        match readBranch fuel rest with
        | some (c, rest) => withRedirects c rest
        | none => none
      | "while" => readLoop fuel false rest
      | "until" => readLoop fuel true rest
      | "for" =>
        let t := skipSpacing rest
        let name := nameAt t
        let rest := skipLines fuel (t.drop name.length)
        let words? : Option (Option (List Word) × Octets) :=
          if plainWordAt rest == "in".toList then
            (readWords fuel (rest.drop 2)).map fun (ws, rest) => (some ws, rest)
          else some (none, rest)
        match words? with
        | none => none
        | some (words, rest) =>
          let rest := match skipSpacing rest with
            | ';' :: r => r
            | r => r
          match expect? fuel "do" rest with
          | none => none
          | some rest =>
            match body? rest "done" with
            | some (c, rest) => if name.isEmpty then none else withRedirects (.each name words c) rest
            | none => none
      | "case" =>
        match readWord? fuel (skipSpacing rest) with
        | none => none
        | some (w, rest) =>
          match expect? fuel "in" rest with
          | none => none
          | some rest =>
            match readCases fuel rest with
            | some (cases, rest) => withRedirects (.choose w cases) rest
            | none => none
      | _ =>
        match (if !word.isEmpty then skipSpacing rest else []) with
        | '(' :: r =>
          match skipSpacing r with
          | ')' :: r =>
            (readCommand fuel (skipLines (r.length + 1) r)).map fun (c, rest) => (.define word c, rest)
          | _ => none
        | _ =>
          match readSimple fuel false t with
          | none => none
          | some (as, ws, rs, rest) =>
            if as.isEmpty && ws.isEmpty && rs.isEmpty then none else some (.simple as ws rs, rest)

/-- Reads a branch after the word that starts it. -/
def readBranch : Nat → Octets → Option (Command × Octets)
  | 0, _ => none
  | fuel + 1, t =>
    match readList false fuel t with
    | none => none
    | some (condition, rest) =>
      match expect? fuel "then" rest with
      | none => none
      | some rest =>
        match readList false fuel rest with
        | none => none
        | some (yes, rest) =>
          if condition.isEmpty || yes.isEmpty then none
          else
            let make (no : Option Command) : Command := .branch (sequenceOf condition) (sequenceOf yes) no
            match plainWordAt rest |>.toStr with
            | "elif" =>
              (readBranch fuel (rest.drop 4)).map fun (c, rest) => (make (some c), rest)
            | "else" =>
              match readList false fuel (rest.drop 4) with
              | none => none
              | some (no, rest) =>
                (expect? fuel "fi" rest).map fun rest => (make (some (sequenceOf no)), rest)
            | "fi" => some (make none, rest.drop 2)
            | _ => none

/-- Reads a loop after the word that starts it. -/
def readLoop : Nat → Bool → Octets → Option (Command × Octets)
  | 0, _, _ => none
  | fuel + 1, untilTrue, t =>
    match readList false fuel t with
    | none => none
    | some (condition, rest) =>
      match expect? fuel "do" rest with
      | none => none
      | some rest =>
        match readList false fuel rest with
        | none => none
        | some (body, rest) =>
          match expect? fuel "done" rest with
          | none => none
          | some rest =>
            if condition.isEmpty || body.isEmpty then none
            else
              let c : Command := .loop untilTrue (sequenceOf condition) (sequenceOf body)
              (readRedirects fuel rest).map fun (rs, rest) =>
                (if rs.isEmpty then c else .redirected c rs, rest)

/-- Reads cases up to the word that ends them. -/
def readCases : Nat → Octets → Option (List (List Word × Command) × Octets)
  | 0, _ => none
  | fuel + 1, t =>
    let t := skipLines (t.length + 1) t
    if plainWordAt t == "esac".toList then some ([], t.drop 4)
    else
      let t := match t with
        | '(' :: r => r
        | t => t
      match readPatterns fuel t with
      | none => none
      | some (patterns, rest) =>
        match readList false fuel rest with
        | none => none
        | some (cs, rest) =>
          let rest := match skipLines (rest.length + 1) rest with
            | ';' :: ';' :: r => r
            | r => r
          (readCases fuel rest).map fun (cases, rest) => ((patterns, sequenceOf cs) :: cases, rest)

end

/-- The fuel that reading a text takes at most. -/
def readingFuel (t : Octets) : Nat := 8 * t.length + 64

/-- Reads the commands of one line; the outer option says whether there is one. -/
def readLine? (t : Octets) : Option (Option (Command × Octets)) :=
  let t := skipLines (t.length + 1) t
  if t.isEmpty then none
  else
    match readList true (readingFuel t) t with
    | some (c :: cs, rest) =>
      match skipComment rest with
      | [] => some (some (sequenceOf (c :: cs), []))
      | '\n' :: rest => some (some (sequenceOf (c :: cs), rest))
      | _ => some none
    | _ => some none

end Literate.Shell
