import NovelEngine.Decimal.Whole
import NovelEngine.Document

/-!
Contract: how structures, names and numbers are taken out of documents.

Owns:
- structures written as a record or as a list in declaration order;
- required, optional and defaulted fields;
- names, bounded whole numbers, doubles, lists and tables.

Does not own: any particular structure of the engine.
-/

namespace NovelEngine.Document

/-- What a document says about one declared field. -/
inductive Field where
  /-- The field is written. -/
  | given (value : Document)
  /-- A record that leaves the field out. -/
  | omitted
  /-- A list that ends before the field. -/
  | cutOff

/-- The fields of a record, in the order of `names`. Unknown keys are ignored, a
declared key must not be repeated. -/
def recordFields? (names : List String) : Document → Option (List Field)
  | .record entries =>
      names.mapM (fun name =>
        match entries.filter (fun entry => entry.1 = name) with
        | [] => some .omitted
        | [entry] => some (.given entry.2)
        | _ => none)
  | _ => none

/-- The fields of a structure written as a record or as a list. A list may be
shorter than the declaration, never longer. -/
def fields? (names : List String) : Document → Option (List Field)
  | .list items =>
      if names.length < items.length then none
      else some (items.map .given ++ List.replicate (names.length - items.length) .cutOff)
  | document => recordFields? names document

namespace Field

/-- A field that must be written. -/
def required? {α : Type} (decode? : Document → Option α) : Field → Option α
  | .given value => decode? value
  | _ => none

/-- A field that a record may leave out or set to null, and a list may not cut off. -/
def optional? {α : Type} (decode? : Document → Option α) : Field → Option (Option α)
  | .given .null => some none
  | .given value => (decode? value).map some
  | .omitted => some none
  | .cutOff => none

/-- A field with a value of its own when it is not written. -/
def defaulted? {α : Type} (fallback : α) (decode? : Document → Option α) : Field → Option α
  | .given value => decode? value
  | _ => some fallback

/-- A field that may be left out, cut off or null. -/
def lenient? {α : Type} (decode? : Document → Option α) : Field → Option (Option α)
  | .given .null => some none
  | .given value => (decode? value).map some
  | _ => some none

end Field

/-! ## Plain values -/

def boolean? : Document → Option Bool
  | .boolean value => some value
  | _ => none

def text? : Document → Option String
  | .text value => some value
  | _ => none

/-- A whole number from 0 up to `limit`. -/
def natural? (limit : Nat) : Document → Option Nat
  | .integer value => if 0 ≤ value ∧ value ≤ limit then some value.toNat else none
  | _ => none

/-- An unsigned number of 64 bits. -/
def size? : Document → Option Nat :=
  natural? (UInt64.size - 1)

/-- An unsigned number of 32 bits. -/
def word? : Document → Option Nat :=
  natural? (UInt32.size - 1)

/-- A signed number of 32 bits. -/
def signedWord? : Document → Option Int
  | .integer value =>
      if Int32.minValue.toInt ≤ value ∧ value ≤ Int32.maxValue.toInt then some value else none
  | _ => none

/-- A double; whole numbers are accepted. -/
def float? : Document → Option Float
  | .integer value => some (Decimal.ofInt value)
  | .float value => some value
  | _ => none

/-- A name from a fixed choice: the text itself, or the only key of a record
whose value is null. -/
def name? : Document → Option String
  | .text value => some value
  | .record [(key, .null)] => some key
  | _ => none

/-- As `name?`, but the only key may also carry an empty record. -/
def relaxedName? : Document → Option String
  | .record [(key, .record [])] => some key
  | document => document.name?

def list? {α : Type} (decode? : Document → Option α) : Document → Option (List α)
  | .list items => items.mapM decode?
  | _ => none

/-- Null or a value. -/
def nullable? {α : Type} (decode? : Document → Option α) : Document → Option (Option α)
  | .null => some none
  | value => (decode? value).map some

/-- The entries of a record with any keys. -/
def entries? {α : Type} (decode? : Document → Option α) :
    Document → Option (List (String × α))
  | .record entries => entries.mapM (fun (key, value) => (decode? value).map (key, ·))
  | _ => none

end NovelEngine.Document
