import Literate.Markdown.Punycode
import Literate.Text.Utf8

/-!
# Addresses

The addresses of links and images.  An address is taken apart into scheme, user, host with its number, path,
query and fragment, the host is written in letters every resolver knows, and everything that may not
stand in an address is written as percent signs and digits.

* `Address.ofText`, `Address.toText` take an address apart and put it together.
* `Address.normal` is the address as written to a page, `Address.shown` as shown to a reader.
* `Address.isAllowed` keeps out addresses that run programs or read files.
-/

namespace Literate.Markdown

open Text

/-- The parts of an address. -/
structure Address where
  /-- The scheme with its colon. -/
  scheme : Text
  /-- Whether two slashes follow the scheme. -/
  slashes : Bool
  user : Text
  host : Text
  /-- The number after the host, without its colon. -/
  hostNumber : Text
  path : Text
  /-- The query with its question mark. -/
  query : Text
  /-- The fragment with its hash. -/
  fragment : Text

namespace Address

/-- Whether a character may stand in a scheme. -/
def isSchemeChar (c : Char) : Bool := c.isAlphanum || c = '.' || c = '+' || c = '-'

/-- The scheme with its colon, empty when there is none, and what follows. -/
def cutScheme (t : Text) : Text × Text :=
  let name := t.takeWhile isSchemeChar
  match t.drop name.length with
  | ':' :: rest => if name.isEmpty then ([], t) else (name ++ [':'], rest)
  | _ => ([], t)

/-- Schemes without a host. -/
def hostless : List String := ["javascript:"]

/-- Schemes that need two slashes before a host. -/
def slashed : List String := ["http:", "https:", "ftp:", "gopher:", "file:"]

/-- Whether a scheme is in a list. -/
def isIn (schemes : List String) (scheme : Text) : Bool := schemes.any (·.toList == scheme)

/-- Whether a character ends the part of an address where a user may stand. -/
def endsUser (c : Char) : Bool := c = '/' || c = '?' || c = '#'

/-- Characters that no host holds. -/
def noHostChars : List Char :=
  ['%', '/', '?', ';', '#', '\'', '\x7b', '\x7d', '|', '\\', '^', '\x60', '<', '>', '"', ' ', '\r',
   '\n', '\t']

/-- The user before the last at sign of the authority, and what follows. -/
def cutUser (t : Text) : Text × Text :=
  let zone := t.takeWhile (!endsUser ·)
  let host := (zone.reverse.takeWhile (· != '@')).length
  if host < zone.length then (zone.take (zone.length - host - 1), t.drop (zone.length - host))
  else ([], t)

/-- The number at the end of a host, without its colon, and the host before it. -/
def cutNumber (host : Text) : Text × Text :=
  let digits := (host.reverse.takeWhile Char.isDigit).reverse
  let front := host.take (host.length - digits.length)
  if front.getLast? = some ':' then (digits, front.dropLast) else ([], host)

/-- Whether a character may stand in a label of a host. -/
def isLabelChar (c : Char) : Bool :=
  c.isAlphanum || c = '+' || c = '_' || c = '-' || 127 < c.toNat

/-- Whether a label of a host is one. -/
def isLabel (label : Text) : Bool := label.all isLabelChar && label.length ≤ 63

/-- The beginning of a label that may stand in a host. -/
def labelFront (label : Text) : Text :=
  (label.takeWhile fun c => isLabelChar c && c.toNat < 128).take 63

/-- The labels up to the first that may not stand in a host, and the text from there on. -/
def cutLabels : List Text → List Text × Option Text
  | [] => ([], none)
  | l :: rest =>
    if isLabel l then
      let (front, tail?) := cutLabels rest
      (l :: front, tail?)
    else
      let front := labelFront l
      ([front], some (join ['.'] (l.drop front.length :: rest)))

/-- The greatest length of a host. -/
def hostLimit : Nat := 255

/-- The path, the query and the fragment of the end of an address. -/
def cutTail (t : Text) : Text × Text × Text :=
  let front := t.takeWhile (· != '#')
  let path := front.takeWhile (· != '?')
  (path, front.drop path.length, t.drop front.length)

/-- An address without an authority. -/
def withoutHost (scheme : Text) (slashes : Bool) (t : Text) : Address :=
  let (path, query, fragment) := cutTail t
  ⟨scheme, slashes, [], [], [], path, query, fragment⟩

/-- An address with an authority at the front of the text. -/
def withHost (scheme : Text) (slashes : Bool) (t : Text) : Address :=
  let (user, rest) := cutUser t
  let zone := rest.takeWhile fun c => !noHostChars.contains c
  let zone := if zone.getLast? = some ':' then zone.dropLast else zone
  let (hostNumber, host) := cutNumber zone
  let tail := rest.drop zone.length
  let isBracketed := host.head? = some '[' && host.getLast? = some ']'
  let (host, tail) :=
    if isBracketed then (host, tail)
    else
      match cutLabels (pieces '.' host) with
      | (labels, none) => (join ['.'] labels, tail)
      | (labels, some extra) => (join ['.'] labels, extra ++ tail)
  let host := if hostLimit < host.length then [] else host
  let host := if isBracketed then host.tail.dropLast else host
  let (path, query, fragment) := cutTail tail
  ⟨scheme, slashes, user, host, hostNumber, path, query, fragment⟩

/-- Takes an address apart. -/
def ofText (t : Text) : Address :=
  let (scheme, rest) := cutScheme (trim t)
  let noHost := isIn hostless scheme
  let starts := (afterPrefix? ['/', '/'] rest).isSome
  if noHost then withoutHost scheme false rest
  else if starts then withHost scheme true (rest.drop 2)
  else if !scheme.isEmpty && !isIn slashed scheme then withHost scheme false rest
  else withoutHost scheme false rest

/-- Puts an address together. -/
def toText (a : Address) : Text :=
  a.scheme ++ (if a.slashes then ['/', '/'] else [])
    ++ (if a.user.isEmpty then [] else a.user ++ ['@'])
    ++ (if a.host.contains ':' then '[' :: a.host ++ [']'] else a.host)
    ++ (if a.hostNumber.isEmpty then [] else ':' :: a.hostNumber) ++ a.path ++ a.query ++ a.fragment

/-- Schemes whose hosts may be written in another alphabet. -/
def readable : List String := ["", "http:", "https:", "mailto:"]

/-- The address with its host changed, for the schemes where that makes sense. -/
def mapHost (f : Text → Text) (a : Address) : Address :=
  if isIn readable a.scheme && !a.host.isEmpty then { a with host := f a.host } else a

/-- Characters other than letters and digits that stand for themselves. -/
def plainMarks : List Char := ";/?:@&=+$,-_.!~*'()#".toList

/-- A digit in base sixteen, in upper case. -/
def hexDigit (n : Nat) : Char := if n < 10 then Char.ofNat (48 + n) else Char.ofNat (55 + n)

/-- A byte as a percent sign and two digits. -/
def percent (b : Nat) : Text := ['%', hexDigit (b / 16), hexDigit (b % 16)]

/-- A character as bytes with percent signs. -/
def percentChar (c : Char) : Text := (Utf8.byteList (Utf8.encode [c])).flatMap percent

/-- Whether a character is a digit in base sixteen. -/
def isHex (c : Char) : Bool := c.isDigit || ('a' ≤ c && c ≤ 'f') || ('A' ≤ c && c ≤ 'F')

/-- Writes everything that may not stand in an address with percent signs; what is written so
already stays. -/
def encode : Text → Text
  | [] => []
  | '%' :: a :: b :: r =>
    if isHex a && isHex b then '%' :: a :: b :: encode r
    else '%' :: '2' :: '5' :: encode (a :: b :: r)
  | c :: r =>
    (if c.isAlphanum || plainMarks.contains c then [c] else percentChar c) ++ encode r

/-- The value of two digits in base sixteen. -/
def hexByte (a b : Char) : Nat :=
  let value := fun (c : Char) =>
    if c.isDigit then c.toNat - 48 else if c.toNat < 97 then c.toNat - 55 else c.toNat - 87
  16 * value a + value b

/-- The character that bytes of the given number make; none for an overlong or broken form. -/
def ofBytes? (bytes : List Nat) : Option Char :=
  match Utf8.decode (bytes.map UInt8.ofNat) with
  | .ok [c] => some c
  | _ => none

/-- The number of bytes that a first byte announces. -/
def announced (b : Nat) : Nat :=
  if b < 0x80 then 1
  else if b / 32 = 6 then 2
  else if b / 16 = 14 then 3
  else if b / 8 = 30 then 4
  else 0

/-- Characters that stay percent-encoded when an address is shown. -/
def keptMarks : List Char := ";/?:@&=+$,#%".toList

/-- The text that bytes stand for. -/
def shownBytes : Nat → List Nat → Text
  | 0, _ => []
  | _, [] => []
  | fuel + 1, b :: rest =>
    let n := announced b
    if n = 1 then
      let c := Char.ofNat b
      (if keptMarks.contains c then percent b else [c]) ++ shownBytes fuel rest
    else if 2 ≤ n && n ≤ (b :: rest).length && (rest.take (n - 1)).all (· / 64 == 2) then
      (match ofBytes? (b :: rest.take (n - 1)) with
        | some c => [c]
        | none => List.replicate n '\uFFFD') ++ shownBytes fuel (rest.drop (n - 1))
    else '\uFFFD' :: shownBytes fuel rest

/-- Reads what is written with percent signs; `bytes` were read right before. -/
def decodeFrom (bytes : List Nat) : Text → Text
  | [] => shownBytes bytes.length bytes
  | '%' :: a :: b :: r =>
    if isHex a && isHex b then decodeFrom (bytes ++ [hexByte a b]) r
    else shownBytes bytes.length bytes ++ '%' :: decodeFrom [] (a :: b :: r)
  | c :: r => shownBytes bytes.length bytes ++ c :: decodeFrom [] r

/-- Reads what is written with percent signs, other than the marks that mean something. -/
def decode (t : Text) : Text := decodeFrom [] t

/-- The address as written to a page. -/
def normal (t : Text) : Text := encode ((ofText t).mapHost Punycode.hostToAscii).toText

/-- The address as shown to a reader. -/
def shown (t : Text) : Text := decode ((ofText t).mapHost Punycode.hostToUnicode).toText

/-- Schemes that are not allowed. -/
def forbidden : List String := ["vbscript:", "javascript:", "file:", "data:"]

/-- Inline images are allowed all the same. -/
def inlineImages : List String :=
  ["data:image/gif;", "data:image/png;", "data:image/jpeg;", "data:image/webp;"]

/-- Whether a page may hold an address. -/
def isAllowed (t : Text) : Bool :=
  let t := (trim t).map Char.toLower
  let begins := fun (p : String) => (afterPrefix? p.toList t).isSome
  !forbidden.any begins || inlineImages.any begins

end Address

end Literate.Markdown
