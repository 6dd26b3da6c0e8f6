import Literate.Decimal.Reading
import Literate.Decimal.Shortest
import Literate.Text.Quoted

/-!
# Setting values

What a configuration file can hold.  Tables keep their order.

* `Value.shown` is the text of a value in messages.
-/

namespace Literate

open Text

/-- A calendar date. -/
structure Date where
  year : Nat
  month : Nat
  day : Nat
  deriving DecidableEq, Repr

/-- A time of day. -/
structure Clock where
  hour : Nat
  minute : Nat
  second : Nat
  microsecond : Nat
  deriving DecidableEq, Repr

/-- A moment: a date, a time of day, or both with an optional offset in minutes. -/
inductive Moment
  | date (d : Date)
  | clock (c : Clock)
  | both (d : Date) (c : Clock) (offset? : Option Int)
  deriving DecidableEq, Repr

/-- A value of a configuration file; `missing` stands for a value that is not given. -/
inductive Value
  | missing
  | bool (b : Bool)
  | int (n : Int)
  | float (x : Double)
  | text (t : Text)
  | moment (m : Moment)
  | array (items : List Value)
  | table (entries : List (Text × Value))
  deriving Inhabited

/-- A table: its entries in the order written. -/
abbrev Table := List (Text × Value)

namespace Moment

/-- Numbers with commas between them. -/
def commas (ns : List Nat) : Text := join [',', ' '] (ns.map numeral)

/-- The parts of a time that are shown: trailing seconds and microseconds of zero are not. -/
def clockParts (c : Clock) : List Nat :=
  if c.microsecond ≠ 0 then [c.hour, c.minute, c.second, c.microsecond]
  else if c.second ≠ 0 then [c.hour, c.minute, c.second]
  else [c.hour, c.minute]

/-- The parts of a date. -/
def dateParts (d : Date) : List Nat := [d.year, d.month, d.day]

/-- The text of an offset; one below zero is a day back and seconds forward. -/
def offsetText (minutes : Int) : Text :=
  let seconds := minutes * 60
  if minutes = 0 then "datetime.timezone.utc".toList
  else
    let delta :=
      if 0 < minutes then "seconds=".toList ++ numeral seconds.toNat
      else "days=-1, seconds=".toList ++ numeral (86400 + seconds).toNat
    "datetime.timezone(datetime.timedelta(".toList ++ delta ++ "))".toList

/-- The text of a moment. -/
def shown : Moment → Text
  | date d => "datetime.date(".toList ++ commas (dateParts d) ++ [')']
  | clock c => "datetime.time(".toList ++ commas (clockParts c) ++ [')']
  | both d c offset? =>
    let zone := match offset? with
      | none => []
      | some minutes => ", tzinfo=".toList ++ offsetText minutes
    "datetime.datetime(".toList ++ commas (dateParts d ++ clockParts c) ++ zone ++ [')']

end Moment

namespace Value

mutual

/-- The text of a value in messages. -/
def shown : Value → Text
  | missing => "None".toList
  | bool true => "True".toList
  | bool false => "False".toList
  | int n => signedNumeral n
  | float x => x.shortest
  | text t => quoted t
  | moment m => m.shown
  | array items => '[' :: join [',', ' '] (shownItems items) ++ [']']
  | table entries => '\x7b' :: join [',', ' '] (shownEntries entries) ++ ['\x7d']

/-- The texts of items. -/
def shownItems : List Value → List Text
  | [] => []
  | v :: vs => shown v :: shownItems vs

/-- The texts of entries. -/
def shownEntries : List (Text × Value) → List Text
  | [] => []
  | (k, v) :: es => (quoted k ++ ':' :: ' ' :: shown v) :: shownEntries es

end

mutual

/-- Whether a value has a text: its integers have no more digits than a numeral. -/
def isWritable : Value → Bool
  | int n => n.natAbs < Nat.pow 10 numeralLimit
  | array items => areWritable items
  | table entries => areWritableEntries entries
  | _ => true

/-- Whether items have a text. -/
def areWritable : List Value → Bool
  | [] => true
  | v :: vs => isWritable v && areWritable vs

/-- Whether entries have a text. -/
def areWritableEntries : List (Text × Value) → Bool
  | [] => true
  | (_, v) :: es => isWritable v && areWritableEntries es

end

/-- The text, if the value is one. -/
def text? : Value → Option Text
  | text t => some t
  | _ => none

/-- The texts of an array that holds nothing else. -/
def texts? : Value → Option (List Text)
  | array items => items.mapM text?
  | _ => none

end Value

/-- Sets a key, in place when it is there already. -/
def Table.set (key : Text) (v : Value) : Table → Table
  | [] => [(key, v)]
  | (k, w) :: rest => if k = key then (key, v) :: rest else (k, w) :: Table.set key v rest

end Literate
