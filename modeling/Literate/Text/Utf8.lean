import Literate.Text.Digit
import Literate.Text.Quoted

/-!
# Bytes and text

Text is written as UTF-8 and read back from it.  A faulty sequence is as long as it could have been the beginning of a
character; it is an error when reading strictly, and one replacement character otherwise.

* `Utf8.step` reads one character or one faulty sequence.
* `Utf8.encode` writes a text.
* `Utf8.decode` stops at the first fault, `Utf8.decodeLossy` goes on.
-/

namespace Literate

open Text

/-- The content of a file or a stream. -/
abbrev Bytes := List UInt8

namespace Utf8

/-- What is wrong with a sequence. -/
inductive Fault
  | startByte
  | continuationByte
  | endOfData
  deriving DecidableEq, Repr

/-- The fault in words. -/
def Fault.text : Fault → String
  | startByte => "invalid start byte"
  | continuationByte => "invalid continuation byte"
  | endOfData => "unexpected end of data"

/-- The first character of some bytes, or the fault and the number of bytes it takes. -/
inductive Step
  | char (c : Char) (length : Nat)
  | fault (f : Fault) (length : Nat)

/-- Whether a byte continues a sequence. -/
def isContinuation (b : Nat) : Bool := 0x80 ≤ b && b < 0xc0

/-- Whether `b` can follow the lead byte `lead`: this rules out long forms, surrogates and code
points that are too large. -/
def isSecond (lead b : Nat) : Bool :=
  isContinuation b &&
    !(lead == 0xe0 && b < 0xa0) && !(lead == 0xed && 0xa0 ≤ b)
    && !(lead == 0xf0 && b < 0x90) && !(lead == 0xf4 && 0x90 ≤ b)

/-- The length of the sequence a byte leads; zero when it leads none. -/
def lengthOf (lead : Nat) : Nat :=
  if lead < 0x80 then 1
  else if 0xc2 ≤ lead && lead < 0xe0 then 2
  else if 0xe0 ≤ lead && lead < 0xf0 then 3
  else if 0xf0 ≤ lead && lead < 0xf5 then 4
  else 0

/-- Reads the continuation bytes of a sequence, `count` of them, of which `taken` bytes were read
before. -/
def follow (lead : Nat) : Nat → Nat → Nat → List Nat → Step
  | 0, taken, value, _ => .char (Char.ofNat value) taken
  | _ + 1, taken, _, [] => .fault .endOfData taken
  | count + 1, taken, value, b :: rest =>
    let fits := if taken = 1 then isSecond lead b else isContinuation b
    if fits then follow lead count (taken + 1) (64 * value + (b - 0x80)) rest
    else .fault .continuationByte taken

/-- Reads one character. -/
def step (lead : Nat) (rest : List Nat) : Step :=
  match lengthOf lead with
  | 0 => .fault .startByte 1
  | 1 => .char (Char.ofNat lead) 1
  | 2 => follow lead 1 1 (lead - 0xc0) rest
  | 3 => follow lead 2 1 (lead - 0xe0) rest
  | _ => follow lead 3 1 (lead - 0xf0) rest

end Utf8

/-- A faulty sequence: where it starts, its bytes, and what is wrong. -/
structure Utf8Error where
  position : Nat
  sequence : List Nat
  fault : Utf8.Fault
  deriving DecidableEq, Repr

/-- The error as shown. -/
def Utf8Error.message (e : Utf8Error) : String :=
  let place := match e.sequence with
    | [b] => "byte 0x" ++ (hexDigits 2 b).toStr ++ " in position " ++ (numeral e.position).toStr
    | _ =>
      "bytes in position " ++ (numeral e.position).toStr ++ "-"
        ++ (numeral (e.position + e.sequence.length - 1)).toStr
  "'utf-8' codec can't decode " ++ place ++ ": " ++ e.fault.text

namespace Utf8

/-- Reads bytes strictly; `skip` bytes belong to a character already read. -/
def decodeFrom : Nat → Nat → List Nat → Except Utf8Error Text
  | _, _, [] => .ok []
  | position, skip + 1, _ :: rest => decodeFrom (position + 1) skip rest
  | position, 0, b :: rest =>
    match step b rest with
    | .fault f n => .error ⟨position, (b :: rest).take n, f⟩
    | .char c n =>
      match decodeFrom (position + 1) (n - 1) rest with
      | .ok t => .ok (c :: t)
      | .error e => .error e

/-- Reads bytes and puts a replacement character for each fault. -/
def decodeLossyFrom : Nat → List Nat → Text
  | _, [] => []
  | skip + 1, _ :: rest => decodeLossyFrom skip rest
  | 0, b :: rest =>
    match step b rest with
    | .fault _ n => '\ufffd' :: decodeLossyFrom (n - 1) rest
    | .char c n => c :: decodeLossyFrom (n - 1) rest

/-- The bytes as numbers. -/
def byteList (b : Bytes) : List Nat := b.map UInt8.toNat

/-- The bytes of a text. -/
def encode (t : Text) : Bytes := t.flatMap String.utf8EncodeChar

/-- The text of some bytes, or the first fault. -/
def decode (b : Bytes) : Except Utf8Error Text := decodeFrom 0 0 (byteList b)

/-- The text of some bytes, with replacement characters for faults. -/
def decodeLossy (b : Bytes) : Text := decodeLossyFrom 0 (byteList b)

end Utf8

end Literate
