import Literate.Shell.Pattern
import Literate.Shell.Utility.Basic

/-!
# Editing streams

A script of commands is applied to every line of a text; a command may be restricted to some lines.

* `Utility.sed` edits a stream.
-/

namespace Literate.Shell

open Text

namespace Utility

/-- Up to the next delimiter, and what follows it; a backslash takes the delimiter as it is. -/
def upTo (delimiter : Char) : Octets → Octets × Octets
  | [] => ([], [])
  | '\\' :: c :: r =>
    let (t, rest) := upTo delimiter r
    (if c = delimiter then c :: t else '\\' :: c :: t, rest)
  | c :: r =>
    if c = delimiter then ([], r)
    else
      let (t, rest) := upTo delimiter r
      (c :: t, rest)

/-- The replacement with what was found in place of each ampersand. -/
def substituted (found : Octets) : Octets → Octets
  | [] => []
  | '\\' :: 'n' :: r => '\n' :: substituted found r
  | '\\' :: 't' :: r => '\t' :: substituted found r
  | '\\' :: c :: r => c :: substituted found r
  | '&' :: r => found ++ substituted found r
  | c :: r => c :: substituted found r

/-- Replaces what an expression stands for: in the first place, or in all. -/
def substitute (all ignoreCase : Bool) (e : Regex) (new : Octets) (atStart : Bool) :
    Nat → Octets → Octets
  | 0, t => t
  | fuel + 1, t =>
    match Regex.findFrom ignoreCase e atStart t with
    | none => t
    | some (before, n) =>
      let rest := t.drop before.length
      let changed := before ++ substituted (rest.take n) new
      if !all then changed ++ rest.drop n
      else if n = 0 then
        match rest with
        | [] => changed
        | c :: r => changed ++ c :: substitute all ignoreCase e new false fuel r
      else if (rest.drop n).isEmpty then changed
      else changed ++ substitute all ignoreCase e new false fuel (rest.drop n)

/-- The lines that a command of an edit applies to. -/
inductive Address
  | line (n : Nat)
  | last
  | matching (e : Regex)

/-- A command of an edit. -/
inductive EditAction
  | replace (e : Regex) (new : Octets) (all ignoreCase shown : Bool)
  | delete
  | show
  | quit
  | nothing

/-- The address at the front of a text, and what follows. -/
def address? (extended : Bool) (t : Octets) : Option Address × Octets :=
  match t with
  | '$' :: r => (some .last, r)
  | '/' :: r =>
    let (e, rest) := upTo '/' r
    (some (.matching (Regex.ofText extended e)), rest)
  | c :: r =>
    if c.isDigit then
      let (n, rest) := Format.digitsAt 10 (r.length + 1) 0 (c :: r)
      (some (.line n), rest)
    else (none, t)
  | [] => (none, [])

/-- The commands of an edit with the addresses of their first and last lines. -/
def editActions (extended : Bool) : Nat → Octets → List (Option Address × Option Address × EditAction)
  | 0, _ => []
  | fuel + 1, t =>
    let t := t.dropWhile fun c => c = ' ' || c = ';' || c = '\n'
    if t.isEmpty then []
    else
      let (a, t) := address? extended t
      let (b, t) :=
        match t with
        | ',' :: r => address? extended r
        | _ => (none, t)
      match t.dropWhile (· == ' ') with
      | 's' :: d :: r =>
        let (e, r) := upTo d r
        let (new, r) := upTo d r
        let flags := r.takeWhile fun c => c.isAlphanum
        (a, b, .replace (Regex.ofText extended e) new (flags.contains 'g')
          (flags.contains 'i' || flags.contains 'I') (flags.contains 'p')) ::
          editActions extended fuel (r.drop flags.length)
      | 'd' :: r => (a, b, .delete) :: editActions extended fuel r
      | 'p' :: r => (a, b, .show) :: editActions extended fuel r
      | 'q' :: r => (a, b, .quit) :: editActions extended fuel r
      | _ :: r => (a, b, .nothing) :: editActions extended fuel r
      | [] => []

/-- Whether an address is that of a line. -/
def addressHolds (number total : Nat) (l : Octets) : Address → Bool
  | .line n => n = number
  | .last => number = total
  | .matching e => (Regex.find? false e l).isSome

/-- Whether a command applies to a line; `isOpen` says whether its range is open. -/
def applies (number total : Nat) (l : Octets) (isOpen : Bool) :
    Option Address → Option Address → Bool × Bool
  | none, _ => (true, false)
  | some a, none => (addressHolds number total l a, false)
  | some a, some b =>
    let closes := match b with
      | .line n => n ≤ number
      | b => addressHolds number total l b
    if isOpen then (true, !closes)
    else if addressHolds number total l a then
      (true, match b with
        | .line n => number < n
        | .last => number < total
        | _ => true)
    else (false, false)

/-- What commands make of one line: output before it, the line if it is still there, which ranges are
open, and whether to stop. -/
def editLine (number total : Nat) :
    List (Option Address × Option Address × EditAction) → List Bool → Octets →
      Octets × Option Octets × List Bool × Bool
  | [], _, l => ([], some l, [], false)
  | (a, b, action) :: rest, opens, l =>
    let (holds, isOpen) := applies number total l (opens.headD false) a b
    let go (out l : Octets) :=
      let (more, kept, opens, stop) := editLine number total rest (opens.drop 1) l
      (out ++ more, kept, isOpen :: opens, stop)
    if !holds then go [] l
    else
      match action with
      | .replace e new all ignoreCase shown =>
        if (Regex.find? ignoreCase e l).isSome then
          let l := substitute all ignoreCase e new true (l.length + 1) l
          go (if shown then l ++ ['\n'] else []) l
        else go [] l
      | .delete => ([], none, isOpen :: opens.drop 1, false)
      | .show => go (l ++ ['\n']) l
      | .quit => ([], some l, isOpen :: opens.drop 1, true)
      | .nothing => go [] l

/-- Edits lines one after the other. -/
def editLines (silent : Bool) (total : Nat) (actions : List (Option Address × Option Address × EditAction)) :
    Nat → List Bool → List Octets → Octets
  | _, _, [] => []
  | number, opens, l :: rest =>
    let ended := l.getLast? = some '\n'
    let (out, kept, opens, stop) := editLine number total actions opens (if ended then l.dropLast else l)
    let shown := match kept with
      | some t => if silent then [] else t ++ if ended then ['\n'] else []
      | none => []
    out ++ shown ++ if stop then [] else editLines silent total actions (number + 1) opens rest

/-- Edits a stream. -/
def sed (c : Call) : Outcome :=
  let (script?, args) := optionOf 'e' c.args
  let (flags, names) := flagsOf args
  let (script, names) :=
    match script? with
    | some s => (s, names)
    | none => (names.headD [], names.drop 1)
  let extended := flags.contains 'E' || flags.contains 'r'
  filtered c "sed" names fun t =>
    let ls := withEnds t
    editLines (flags.contains 'n') ls.length (editActions extended (script.length + 1) script) 1 [] ls

end Utility

end Literate.Shell
