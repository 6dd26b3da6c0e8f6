import Literate.Files.FileTree
import Literate.Shell.Format
import Literate.Text.Lines
import Literate.Text.Utf8

/-!
# Calls of utilities

A utility is a function of its arguments, its standard input and the file tree.

* `Call` is what a utility is called with, `Outcome` what comes of it.
* `Utility.filtered` is a utility that makes its output of the files it is given.
-/

namespace Literate.Shell

open Text

/-- The bytes of a file as a text of the shell. -/
def octetsOf (b : Bytes) : Octets := (Utf8.byteList b).map Char.ofNat

/-- A text of the shell as bytes. -/
def bytesOf (t : Octets) : Bytes := t.map fun c => UInt8.ofNat c.toNat

/-- A text as a text of the shell. -/
def octetsOfText (t : Text) : Octets := octetsOf (Utf8.encode t)

/-- A text of the shell as a text, as far as it is one. -/
def textOf (t : Octets) : Text := Utf8.decodeLossy (bytesOf t)

/-- What a utility is called with. -/
structure Call where
  args : List Octets
  input : Octets
  environment : List (Octets × Octets)
  cwd : Location
  tree : FileTree

/-- What comes of a utility. -/
structure Outcome where
  out : Octets
  err : Octets
  status : Nat
  tree : FileTree
  /-- The time it takes, in microseconds. -/
  micros : Nat

namespace Utility

/-- An answer without a failure. -/
def done (c : Call) (out : Octets) : Outcome := ⟨out, [], 0, c.tree, 0⟩

/-- A failure without an answer. -/
def failed (c : Call) (status : Nat) (message : Octets) : Outcome := ⟨[], message ++ ['\n'], status, c.tree, 0⟩

/-- A text that a utility writes. -/
def say (s : String) : Octets := octetsOfText s.toList

/-- Lines without their ends; a last line without one counts as well. -/
def linesOf (t : Octets) : List Octets :=
  let ps := pieces '\n' t
  if ps.getLast? = some [] then ps.dropLast else ps

/-- Lines with their ends. -/
def ofLines (ls : List Octets) : Octets := ls.flatMap fun l => l ++ ['\n']

/-- The path a text of the shell names. -/
def pathOf (t : Octets) : FilePath := FilePath.ofText (textOf t)

/-- How much is read of a file of zeros without an end. -/
def zeroCount : Nat := 1048576

/-- A file that is read: a hyphen is standard input, and some names stand for no file of the tree. -/
def readFile (c : Call) (name : Octets) : Except OsError Octets :=
  match name.toStr with
  | "-" => .ok c.input
  | "/dev/stdin" => .ok c.input
  | "/dev/null" => .ok []
  | "/dev/zero" => .ok (List.replicate zeroCount '\x00')
  | _ => (c.tree.read c.cwd (pathOf name)).map octetsOf

/-- The files that are named, or standard input if there are none, with what each says when it cannot
be read. -/
def readAll (c : Call) (program : String) (names : List Octets) :
    List (Octets × Octets) × Octets :=
  if names.isEmpty then ([([], c.input)], [])
  else
    names.foldl (fun (found, err) name =>
      match readFile c name with
      | .ok content => (found ++ [(name, content)], err)
      | .error e =>
        (found, err ++ say (program ++ ": ") ++ name ++ say (": " ++ e.cause.text ++ "\n"))) ([], [])

/-- The flags and the other arguments; two hyphens end the flags. -/
def flagsOf (args : List Octets) : List Char × List Octets :=
  match args with
  | [] => ([], [])
  | a :: rest =>
    if a = ['-', '-'] then ([], rest)
    else
      match a with
      | '-' :: c :: cs =>
        let (flags, others) := flagsOf rest
        (c :: cs ++ flags, others)
      | _ =>
        let (flags, others) := flagsOf rest
        (flags, a :: others)

/-- The value of an option, written with it or after it, and the arguments without it. -/
def optionOf (letter : Char) : List Octets → Option Octets × List Octets
  | [] => (none, [])
  | a :: rest =>
    match a with
    | '-' :: c :: value =>
      if c = letter then
        if value.isEmpty then (rest.head?, rest.drop 1) else (some value, rest)
      else
        let (v, others) := optionOf letter rest
        (v, a :: others)
    | _ =>
      let (v, others) := optionOf letter rest
      (v, a :: others)

/-- The number a text stands for, zero if none. -/
def numberOf (t : Octets) : Nat := (Format.integer t).1.toNat

/-- Filters of text: what becomes of the files that are named, put together. -/
def filtered (c : Call) (program : String) (names : List Octets) (f : Octets → Octets) : Outcome :=
  let (found, err) := readAll c program names
  ⟨f (found.flatMap Prod.snd), err, if err.isEmpty then 0 else 1, c.tree, 0⟩

end Utility

end Literate.Shell
