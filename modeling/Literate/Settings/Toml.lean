import Literate.Settings.Toml.Number
import Literate.Settings.Toml.Quoted

/-!
# Configuration files

Reads the configuration format: one statement a line, which is a key with a value, a table header or
a header of an array of tables, with comments after `#`.

* `Toml.value` reads one value.
* `Toml.State.define`, `Toml.State.openTable`, `Toml.State.openArray` say what each statement does
  and which statements contradict earlier ones.
* `Toml.parse` reads a file.
-/

namespace Literate.Toml

open Text

/-! ## Tables -/

/-- Changes the table at the end of a path, making tables on the way.  With `intoArrays` a path goes
on in the last table of an array. -/
def update? (intoArrays : Bool) (f : Table → Option Table) : Key → Table → Option Table
  | [], table => f table
  | k :: ks, table =>
    match table.lookup k with
    | none => (update? intoArrays f ks []).map fun t => Table.set k (.table t) table
    | some (.table inner) => (update? intoArrays f ks inner).map fun t => Table.set k (.table t) table
    | some (.array items) =>
      if intoArrays then
        match items.getLast? with
        | some (.table inner) =>
          (update? intoArrays f ks inner).map fun t =>
            Table.set k (.array (items.dropLast ++ [.table t])) table
        | _ => none
      else none
    | some _ => none

/-- Adds an entry that must be new. -/
def addNew? (key : Text) (v : Value) (table : Table) : Option Table :=
  if (table.lookup key).isSome then none else some (table ++ [(key, v)])

/-- Whether a value closes its name to further statements. -/
def isCompound : Value → Bool
  | .array _ => true
  | .table _ => true
  | _ => false

/-- Whether `key` is one of the closed keys or below one. -/
def isClosed (closed : List Key) (key : Key) : Bool := closed.any fun k => k.isPrefixOf key

/-- Adds an entry to an inline table. -/
def insert (closed : List Key) (key : Key) (v : Value) (table : Table) : Except Fault Table :=
  let last := key.getLast?.getD []
  if isClosed closed key then .error (.immutable key)
  else if (update? false some key.dropLast table).isNone then .error .overwritten
  else
    match update? false (addNew? last v) key.dropLast table with
    | none => .error (.duplicate last)
    | some table => .ok table

/-! ## Values -/

mutual

/-- Reads a value; nested values take one unit of fuel each. -/
def value : Nat → Text → Reading Value
  | 0, t => stop .value t
  | fuel + 1, t =>
    match t with
    | '"' :: _ => (text t).map fun (s, rest) => (.text s, rest)
    | '\'' :: _ => (text t).map fun (s, rest) => (.text s, rest)
    | '[' :: r =>
      match skipArraySpace t.length r with
      | .error e => .error e
      | .ok (']' :: rest) => .ok (.array [], rest)
      | .ok s => items fuel [] s
    | '\x7b' :: r =>
      match skipGaps r with
      | '\x7d' :: rest => .ok (.table [], rest)
      | s => entries fuel [] [] s
    | _ => scalar t

/-- Reads the items of an array. -/
def items : Nat → List Value → Text → Reading Value
  | 0, _, t => stop .value t
  | fuel + 1, vs, t =>
    match value fuel t with
    | .error e => .error e
    | .ok (v, rest) =>
      match skipArraySpace t.length rest with
      | .error e => .error e
      | .ok (']' :: after) => .ok (.array (vs ++ [v]), after)
      | .ok (',' :: after) =>
        match skipArraySpace t.length after with
        | .error e => .error e
        | .ok (']' :: last) => .ok (.array (vs ++ [v]), last)
        | .ok s => items fuel (vs ++ [v]) s
      | .ok s => stop .unclosedArray s

/-- Reads the entries of an inline table; `closed` are the keys that hold arrays and tables. -/
def entries : Nat → List Key → Table → Text → Reading Value
  | 0, _, _, t => stop .value t
  | fuel + 1, closed, table, t =>
    match key t with
    | .error e => .error e
    | .ok (k, '=' :: r) =>
      match value fuel (skipGaps r) with
      | .error e => .error e
      | .ok (v, rest) =>
        match insert closed k v table with
        | .error fault => stop fault rest
        | .ok table =>
          match skipGaps rest with
          | '\x7d' :: after => .ok (.table table, after)
          | ',' :: after =>
            entries fuel (if isCompound v then k :: closed else closed) table (skipGaps after)
          | s => stop .unclosedTable s
    | .ok (_, rest) => stop .equalsSign rest

end

/-! ## Statements -/

/-- What the statements so far have built.  Declared keys cannot be declared again, closed keys take
nothing more, pending keys become declared at the next header. -/
structure State where
  data : Table
  header : Key
  declared : List Key
  closed : List Key
  pending : List Key

namespace State

/-- The state before the first statement. -/
def start : State := ⟨[], [], [], [], []⟩

/-- The proper beginnings of a key, below the current header. -/
def beginnings (header key : Key) : List Key :=
  (List.range key.length).filterMap fun i => if i = 0 then none else some (header ++ key.take i)

/-- A key with its value. -/
def define (s : State) (key : Key) (v : Value) : Except Fault State :=
  let path := s.header ++ key
  let parents := beginnings s.header key
  match parents.find? s.declared.contains with
  | some parent => .error (.redefined parent)
  | none =>
    if isClosed s.closed path.dropLast then .error (.immutable path.dropLast)
    else
      match update? true (addNew? (path.getLast?.getD []) v) path.dropLast s.data with
      | none => .error .overwritten
      | some data =>
        .ok { s with
          data
          pending := parents ++ s.pending
          closed := if isCompound v then path :: s.closed else s.closed }

/-- The state with the pending keys declared. -/
def settle (s : State) : State := { s with declared := s.pending ++ s.declared, pending := [] }

/-- A table header. -/
def openTable (s : State) (key : Key) : Except Fault State :=
  if s.declared.contains key || isClosed s.closed key then .error (.declaredTwice key)
  else
    match update? true some key s.data with
    | none => .error .overwritten
    | some data => .ok { s with data, header := key, declared := key :: s.declared }

/-- Adds a table to an array of tables, which is made when it is not there. -/
def addTable? (key : Text) (table : Table) : Option Table :=
  match table.lookup key with
  | none => some (table ++ [(key, .array [.table []])])
  | some (.array items) => some (Table.set key (.array (items ++ [.table []])) table)
  | some _ => none

/-- A header of an array of tables; what was said below the key before no longer counts. -/
def openArray (s : State) (key : Key) : Except Fault State :=
  if isClosed s.closed key then .error (.immutable key)
  else
    match update? true (addTable? (key.getLast?.getD [])) key.dropLast s.data with
    | none => .error .overwritten
    | some data =>
      .ok { s with
        data, header := key
        declared := key :: s.declared.filter (!key.isPrefixOf ·)
        closed := s.closed.filter (!key.isPrefixOf ·) }

end State

/-- Reads the rest of a line after a statement: gaps and a comment. -/
def endOfLine (t : Text) : Except Stop Text :=
  match skipComment (skipGaps t) with
  | .error e => .error e
  | .ok [] => .ok []
  | .ok ('\n' :: r) => .ok r
  | .ok r => stop .statementEnd r

/-- Reads a key with its value. -/
def definition (s : State) (t : Text) : Reading State :=
  match key t with
  | .error e => .error e
  | .ok (k, '=' :: r) =>
    match value (r.length + 2) (skipGaps r) with
    | .error e => .error e
    | .ok (v, rest) =>
      match s.define k v with
      | .error fault => stop fault rest
      | .ok s => .ok (s, rest)
  | .ok (_, rest) => stop .equalsSign rest

/-- Reads a table header, from its key on. -/
def tableHeader (s : State) (t : Text) : Reading State :=
  match key (skipGaps t) with
  | .error e => .error e
  | .ok (k, rest) =>
    match s.openTable k with
    | .error fault => stop fault rest
    | .ok s =>
      match rest with
      | ']' :: after => .ok (s, after)
      | _ => stop .tableEnd rest

/-- Reads a header of an array of tables, from its key on. -/
def arrayHeader (s : State) (t : Text) : Reading State :=
  match key (skipGaps t) with
  | .error e => .error e
  | .ok (k, rest) =>
    match s.openArray k with
    | .error fault => stop fault rest
    | .ok s =>
      match rest with
      | ']' :: ']' :: after => .ok (s, after)
      | _ => stop .arrayTableEnd rest

/-- Reads one statement, not blank and not a comment: the state and the text after it. -/
def statement (s : State) (t : Text) : Reading State :=
  match t with
  | '[' :: '[' :: r => arrayHeader s.settle r
  | '[' :: r => tableHeader s.settle r
  | c :: _ =>
    if isBareChar c || c == '"' || c == '\'' then definition s t else stop .statement t
  | [] => .ok (s, [])

/-- Reads statements to the end; each line takes one unit of fuel. -/
def statements : Nat → State → Text → Except Stop State
  | 0, s, _ => .ok s
  | fuel + 1, s, t =>
    match skipGaps t with
    | [] => .ok s
    | '\n' :: r => statements fuel s r
    | '#' :: r =>
      match endOfLine ('#' :: r) with
      | .error e => .error e
      | .ok rest => statements fuel s rest
    | u =>
      match statement s u with
      | .error e => .error e
      | .ok (s, after) =>
        match endOfLine after with
        | .error e => .error e
        | .ok rest => statements fuel s rest

/-- Reads a configuration file; carriage returns before newlines are dropped.  Model of
`tomllib.load`, with which `config._read_toml` reads the file. -/
def parse (t : Text) : Except Unreadable Table :=
  let source := replace ['\r', '\n'] ['\n'] t
  match statements (source.length + 1) .start source with
  | .error e => .error (e.explained source)
  | .ok s => .ok s.data

end Literate.Toml
