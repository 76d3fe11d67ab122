/-!
Contract: structured documents, the form in which projects, command parameters
and saved games are written.

Owns:
- the document type, with whole numbers and doubles kept apart;
- `isValid`, which finds faults that only matter where a document is used;
- `collapse`, which keeps the last of several entries with one key.

Does not own: the text of a document and the shape a reader of it expects.
-/

namespace NovelEngine

/-- A document.

A record keeps repeated keys, because some readers refuse them. `invalid`
stands for a part that is well written but has no value, such as a number
beyond the doubles; it is harmless inside an entry that nobody reads. -/
inductive Document where
  | null
  | boolean (value : Bool)
  | integer (value : Int)
  | float (value : Float)
  | text (value : String)
  | list (items : List Document)
  | record (entries : List (String × Document))
  | invalid
deriving Inhabited, Repr

namespace Document

/-! ## Validity -/

mutual

/-- Whether every part of the document has a value. -/
def isValid : Document → Bool
  | .invalid => false
  | .list items => allValid items
  | .record entries => entriesValid entries
  | _ => true

def allValid : List Document → Bool
  | [] => true
  | item :: rest => isValid item && allValid rest

def entriesValid : List (String × Document) → Bool
  | [] => true
  | (_, value) :: rest => isValid value && entriesValid rest

end

/-! ## Repeated keys -/

/-- Keeps of each key its last entry. -/
def lastEntries : List (String × Document) → List (String × Document)
  | [] => []
  | entry :: rest =>
      if rest.any (fun later => later.1 = entry.1) then lastEntries rest
      else entry :: lastEntries rest

mutual

/-- The document in which every record keeps only the last entry of each key. -/
def collapse : Document → Document
  | .list items => .list (collapseAll items)
  | .record entries => .record (lastEntries (collapseEntries entries))
  | other => other

def collapseAll : List Document → List Document
  | [] => []
  | item :: rest => collapse item :: collapseAll rest

def collapseEntries : List (String × Document) → List (String × Document)
  | [] => []
  | (key, value) :: rest => (key, collapse value) :: collapseEntries rest

end

/-! ## Access -/

/-- The entry of a record under `key`. -/
def get? (document : Document) (key : String) : Option Document :=
  match document with
  | .record entries => entries.lookup key
  | _ => none

/-- What may be missing: a value, or null where there is none. -/
def ofOption {α : Type} (encode : α → Document) : Option α → Document
  | some value => encode value
  | none => .null

def isNull : Document → Bool
  | .null => true
  | _ => false

end Document

end NovelEngine
