import Literate.Digest.Sha256
import Literate.Outline.Scan
import Literate.Text.Utf8

/-!
# The cache of outlines

Outlines are kept by a key of the document, the last ones used and at most `capacity` of them.
Entries are ordered from the least to the most recently used.

* `ParseCache.get` reads through the cache; a document without an outline leaves it as it is.
-/

namespace Literate

/-- The digest a document is known by.  Model of `structure.document_hash`. -/
def documentHash (t : Text) : Text := Sha256.hex (Utf8.encode t)

/-- The outlines of the documents used last.  Model of `structure.ParseCache`. -/
structure ParseCache (κ : Type) where
  capacity : Nat
  entries : List (κ × Outline)
  deriving DecidableEq, Repr

namespace ParseCache

variable {κ : Type} [DecidableEq κ]

/-- The cache that holds nothing. -/
def empty (capacity : Nat) : ParseCache κ := ⟨capacity, []⟩

/-- The keys from the least to the most recently used. -/
def keys (c : ParseCache κ) : List κ := c.entries.map Prod.fst

/-- The entries with one put at the end, most recently used. -/
def touch {α : Type} (key : κ) (x : α) (entries : List (κ × α)) : List (κ × α) :=
  entries.filter (fun e => e.1 ≠ key) ++ [(key, x)]

/-- Drops the least recently used entries that exceed the capacity. -/
def trim {α : Type} (capacity : Nat) (entries : List (κ × α)) : List (κ × α) :=
  entries.drop (entries.length - capacity)

/-- What a look-up gives: the outline, and whether it was there. -/
structure Found where
  outline : Outline
  cached : Bool
  deriving DecidableEq, Repr

/-- The outline of a document, from the cache or read and put there.  Model of
`structure.ParseCache.get`. -/
def get (key : Text → κ) (c : ParseCache κ) (t : Text) : Except ParseError Found × ParseCache κ :=
  match c.entries.lookup (key t) with
  | some o => (.ok ⟨o, true⟩, { c with entries := touch (key t) o c.entries })
  | none =>
    match Outline.parse t with
    | .error e => (.error e, c)
    | .ok o => (.ok ⟨o, false⟩, { c with entries := trim c.capacity (touch (key t) o c.entries) })

/-- The cache without entries.  Model of `structure.ParseCache.clear`. -/
def clear (c : ParseCache κ) : ParseCache κ := { c with entries := [] }

end ParseCache

end Literate
