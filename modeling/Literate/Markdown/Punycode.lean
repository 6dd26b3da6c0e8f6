import Literate.Text.Basic

/-!
# Punycode

Host names in other alphabets, written with the letters, digits and hyphens of one (RFC 3492).  The
characters beyond ASCII are written in increasing order as differences, in a variable-length form
whose thresholds adapt.

* `encode`, `decode` treat one label.
* `hostToAscii`, `hostToUnicode` treat a host name label by label.
-/

namespace Literate.Markdown.Punycode

open Text

/-- The digit of a value below 36. -/
def digit (d : Nat) : Char := if d < 26 then Char.ofNat (97 + d) else Char.ofNat (22 + d)

/-- The value of a digit. -/
def value? (c : Char) : Option Nat :=
  let n := c.toNat
  if 97 ≤ n && n ≤ 122 then some (n - 97)
  else if 65 ≤ n && n ≤ 90 then some (n - 65)
  else if 48 ≤ n && n ≤ 57 then some (n - 22)
  else none

/-- The threshold of the place `k`. -/
def threshold (k bias : Nat) : Nat :=
  if k ≤ bias + 1 then 1 else if bias + 26 ≤ k then 26 else k - bias

/-- Divides until the rest is small, counting the places. -/
def scale : Nat → Nat → Nat → Nat × Nat
  | 0, delta, k => (delta, k)
  | fuel + 1, delta, k => if 455 < delta then scale fuel (delta / 35) (k + 36) else (delta, k)

/-- The bias after a difference. -/
def adapt (delta count : Nat) (first : Bool) : Nat :=
  let delta := if first then delta / 700 else delta / 2
  let (delta, k) := scale delta (delta + delta / count) 0
  k + 36 * delta / (delta + 38)

/-- A difference in the variable-length form. -/
def writeNumber (bias : Nat) : Nat → Nat → Nat → Text
  | 0, _, _ => []
  | fuel + 1, k, q =>
    let t := threshold k bias
    if q < t then [digit q]
    else digit (t + (q - t) % (36 - t)) :: writeNumber bias fuel (k + 36) ((q - t) / (36 - t))

/-- The state of writing. -/
structure Writer where
  out : Text
  delta : Nat
  bias : Nat
  handled : Nat

/-- Takes the character `c` while the code point `m` is written; `basic` is the number of ASCII
characters. -/
def writeChar (basic m : Nat) (w : Writer) (c : Char) : Writer :=
  if c.toNat < m then { w with delta := w.delta + 1 }
  else if c.toNat = m then
    { out := w.out ++ writeNumber w.bias (w.delta + 1) 36 w.delta
      delta := 0
      bias := adapt w.delta (w.handled + 1) (w.handled == basic)
      handled := w.handled + 1 }
  else w

/-- Writes the given code points, the first of which is not below `n`. -/
def writePoints (t : Text) (basic : Nat) : List Nat → Nat → Writer → Writer
  | [], _, w => w
  | m :: rest, n, w =>
    let w := { w with delta := w.delta + (m - n) * (w.handled + 1) }
    let w := t.foldl (writeChar basic m) w
    writePoints t basic rest (m + 1) { w with delta := w.delta + 1 }

/-- The code points beyond ASCII, in order and each once. -/
def points (t : Text) : List Nat :=
  (((t.filter (128 ≤ ·.toNat)).map Char.toNat).eraseDups).mergeSort

/-- Writes a label. -/
def encode (t : Text) : Text :=
  let basic := t.filter (·.toNat < 128)
  let w := writePoints t basic.length (points t) 128 ⟨[], 0, 72, basic.length⟩
  basic ++ (if basic.isEmpty then [] else ['-']) ++ w.out

/-- Reads a difference: its weighted sum on top of `i`, and what follows. -/
def readNumber? (bias : Nat) : Text → Nat → Nat → Nat → Option (Nat × Text)
  | [], _, _, _ => none
  | c :: rest, k, w, i =>
    match value? c with
    | none => none
    | some d =>
      let t := threshold k bias
      if d < t then some (i + d * w, rest)
      else readNumber? bias rest (k + 36) (w * (36 - t)) (i + d * w)

/-- Reads differences and puts the characters in their places. -/
def readPoints : Nat → Nat → Nat → Nat → Text → Text → Option Text
  | 0, _, _, _, out, _ => some out
  | fuel + 1, bias, n, i, out, t =>
    if t.isEmpty then some out
    else
      match readNumber? bias t 36 1 i with
      | none => none
      | some (j, rest) =>
        let count := out.length + 1
        let n := n + j / count
        let place := j % count
        if (0xd800 ≤ n && n ≤ 0xdfff) || 0x10ffff < n then none
        else
          readPoints fuel (adapt (j - i) count (i == 0)) n (place + 1)
            (out.take place ++ Char.ofNat n :: out.drop place) rest

/-- Reads a label. -/
def decode (t : Text) : Option Text :=
  let ext := (t.reverse.takeWhile (· != '-')).reverse
  let basic := if ext.length < t.length then t.take (t.length - ext.length - 1) else []
  if basic.any (128 ≤ ·.toNat) then none
  else readPoints (ext.length + 1) 72 128 0 basic ext

/-- Whether a character separates labels. -/
def isDot (c : Char) : Bool :=
  c = '.' || c.toNat = 0x3002 || c.toNat = 0xff0e || c.toNat = 0xff61

/-- The labels of a host. -/
def labels : Text → List Text
  | [] => [[]]
  | c :: r =>
    if isDot c then [] :: labels r
    else
      match labels r with
      | [] => [[c]]
      | l :: ls => (c :: l) :: ls

/-- Changes a host label by label; what stands before an at sign is kept, and what follows a
second one is dropped. -/
def mapLabels (f : Text → Text) (host : Text) : Text :=
  match pieces '@' host with
  | user :: domain :: _ => user ++ '@' :: join ['.'] ((labels domain).map f)
  | _ => join ['.'] ((labels host).map f)

/-- The beginning of a label written in another alphabet. -/
def mark : Text := ['x', 'n', '-', '-']

/-- The host in ASCII. -/
def hostToAscii : Text → Text :=
  mapLabels fun l => if l.any (127 ≤ ·.toNat) then mark ++ encode l else l

/-- Whether every marked label of a host can be read. -/
def isReadable (host : Text) : Bool :=
  (labels host).all fun l =>
    match afterPrefix? mark l with
    | some r => (decode (r.map Char.toLower)).isSome
    | none => true

/-- The host in its own alphabet, as it is when a label cannot be read. -/
def hostToUnicode (host : Text) : Text :=
  if isReadable host then
    mapLabels (fun l =>
      match afterPrefix? mark l with
      | some r => (decode (r.map Char.toLower)).getD l
      | none => l) host
  else host

end Literate.Markdown.Punycode
