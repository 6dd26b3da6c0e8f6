import Literate.Macro.Segment
import Literate.Outline.Scan

/-!
# Macro expansion

A reference is replaced by the expanded source of the first block of its name.  When only blanks
stand before the first reference of a line, they indent every non-empty line of what replaces it;
otherwise the text is put in place as it is.

* `expandBody` replaces the references of a body, given what each name stands for.
* `Substitution.block` is plain recursive substitution.
* `Expander` does the same with a memo of the names already expanded, shared between blocks.

The chain of names being expanded never repeats, so the number of blocks bounds its length.
-/

namespace Literate

open Text

/-- Why a block cannot be expanded; the chain leads from the block to the name at fault.  Model of
`errors.ExpansionError` as `tangle.MacroExpander` raises it. -/
inductive ExpansionError
  /-- The last name of the chain occurs in it before. -/
  | cycle (name : Text) (chain : List Text)
  /-- No block has the last name of the chain. -/
  | unknown (name : Text) (chain : List Text)
  deriving DecidableEq, Repr

namespace ExpansionError

/-- The name at fault. -/
def name : ExpansionError → Text
  | cycle name _ => name
  | unknown name _ => name

/-- The names that led to it, itself included. -/
def chain : ExpansionError → List Text
  | cycle _ chain => chain
  | unknown _ chain => chain

/-- The name before the last one of a chain, or the last one when it stands alone. -/
def referrer (name : Text) (chain : List Text) : Text := chain.dropLast.getLast?.getD name

/-- The error as shown. -/
def message : ExpansionError → String
  | cycle _ chain => "Macro cycle: " ++ (join " -> ".toList chain).toStr
  | unknown name chain =>
    "Block '" ++ (referrer name chain).toStr ++ "' references unknown block '" ++ name.toStr ++ "'"

end ExpansionError

namespace Macro

/-- Puts `indent` before every line that is not empty. -/
def indentLines (indent : Text) (ls : List Line) : List Line :=
  ls.map fun l => if l.isEmpty then l else indent ++ l

/-- Appends to the last line. -/
def appendLast (tail : Text) : List Line → List Line
  | [] => [tail]
  | [l] => [l ++ tail]
  | l :: m :: ls => l :: appendLast tail (m :: ls)

/-- What follows the first reference: the text after it, then each further expansion with the text
after it. -/
def tailText (after : Text) : List (Text × Text) → List Text → Text
  | (_, next) :: more, e :: es => after ++ e ++ tailText next more es
  | _, _ => after

/-- The lines that replace one line, given the expansions of its references in order. -/
def assemble (s : Reference.Segments) (expansions : List Text) : List Line :=
  match s.rest, expansions with
  | (_, after) :: more, e :: es =>
    let tail := tailText after more es
    if allBlank s.lead then indentLines s.lead (appendLast tail (pieces '\n' e))
    else [s.lead ++ e ++ tail]
  | _, _ => [s.lead]

variable {m : Type → Type} [Monad m]

/-- The lines that replace one line, when `resolve` expands names. -/
def expandLine (resolve : Text → m Text) (l : Line) : m (List Line) := do
  let s := Reference.segments l
  let expansions ← s.rest.mapM fun (name, _) => resolve name
  pure (assemble s expansions)

/-- A body with its references replaced, when `resolve` expands names.  Model of
`tangle.MacroExpander._expand_body`. -/
def expandBody (resolve : Text → m Text) (body : List Line) : m Text := do
  let expanded ← body.mapM (expandLine resolve)
  pure (join ['\n'] expanded.flatten)

end Macro

/-! ## Plain substitution -/

namespace Substitution

/-- The expansion of a name met below `chain`.  The fuel bounds the length of the chain. -/
def name (o : Outline) : Nat → List Text → Text → Except ExpansionError Text
  | 0, chain, n => .error (.cycle n (chain ++ [n]))
  | fuel + 1, chain, n =>
    if chain.contains n then .error (.cycle n (chain ++ [n]))
    else
      match o.findBlock? n with
      | none => .error (.unknown n (chain ++ [n]))
      | some b => Macro.expandBody (name o fuel (chain ++ [n])) b.body

/-- A chain of distinct block names is no longer than this. -/
def depth (o : Outline) : Nat := o.blocks.length + 1

/-- The expansion of a block. -/
def block (o : Outline) (b : Block) : Except ExpansionError Text :=
  Macro.expandBody (name o (depth o) [b.name]) b.body

end Substitution

/-! ## Expansion with a memo -/

/-- The expansions found so far, by name.  Model of the cache of a `tangle.MacroExpander`. -/
abbrev Memo := List (Text × Text)

/-- A computation that may fail and that keeps what it learned either way. -/
abbrev Expander := ExceptT ExpansionError (StateM Memo)

namespace Expander

/-- The expansion of a name met below `chain`, from the memo if it is there.  Model of
`tangle.MacroExpander.expand_name`. -/
def name (o : Outline) : Nat → List Text → Text → Expander Text
  | 0, chain, n => throw (.cycle n (chain ++ [n]))
  | fuel + 1, chain, n =>
    if chain.contains n then throw (.cycle n (chain ++ [n]))
    else do
      match (← get).lookup n with
      | some t => pure t
      | none =>
        match o.findBlock? n with
        | none => throw (.unknown n (chain ++ [n]))
        | some b =>
          let t ← Macro.expandBody (name o fuel (chain ++ [n])) b.body
          modify ((n, t) :: ·)
          pure t

/-- The expansion of a block.  Model of `tangle.MacroExpander.expand`. -/
def block (o : Outline) (b : Block) : Expander Text :=
  Macro.expandBody (name o (Substitution.depth o) [b.name]) b.body

/-- The expansions of names in order, joined by newlines. -/
def imports (o : Outline) (names : List Text) : Expander Text := do
  let texts ← names.mapM (name o (Substitution.depth o) [])
  pure (join ['\n'] texts)

/-- Runs an expansion that starts without a memo. -/
def eval {α : Type} (x : Expander α) : Except ExpansionError α := (x.run.run []).1

end Expander

/-- Why the source of a block cannot be given. -/
inductive ExpandError
  | parse (e : ParseError)
  | blockNotFound (name : Text)
  | expansion (e : ExpansionError)
  deriving DecidableEq, Repr

/-- The expanded source of the first block of a name.  Model of `tangle.expand_block`. -/
def expandBlock (t name : Text) : Except ExpandError Text :=
  match Outline.parse t with
  | .error e => .error (.parse e)
  | .ok o =>
    match o.findBlock? name with
    | none => .error (.blockNotFound name)
    | some b =>
      match (Expander.block o b).eval with
      | .error e => .error (.expansion e)
      | .ok source => .ok source

end Literate
