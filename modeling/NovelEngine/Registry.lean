/-!
Contract: finite tables from keys to values, with at most one value read per key.

Owns:
- lookup, insertion, removal and counting;
- the read-after-write laws that every table of the engine relies on.

Does not own: any order of the keys beyond "an existing key keeps its place and
a new key is appended".
-/

namespace NovelEngine

/-- A finite table. Inserting an existing key overwrites it in place. -/
structure Registry (κ : Type) (α : Type) where
  entries : List (κ × α) := []
deriving Repr, DecidableEq

namespace Registry

variable {κ α : Type} [DecidableEq κ]

instance : Inhabited (Registry κ α) := ⟨{}⟩

/-- The value stored under `key`, if any. -/
def find? (table : Registry κ α) (key : κ) : Option α :=
  (table.entries.find? (fun entry => entry.1 = key)).map Prod.snd

def contains (table : Registry κ α) (key : κ) : Bool :=
  (table.find? key).isSome

def size (table : Registry κ α) : Nat :=
  table.entries.length

def isEmpty (table : Registry κ α) : Bool :=
  table.entries.isEmpty

private def insertEntry (key : κ) (value : α) : List (κ × α) → List (κ × α)
  | [] => [(key, value)]
  | entry :: rest =>
      if entry.1 = key then (key, value) :: rest
      else entry :: insertEntry key value rest

/-- Stores `value` under `key`, replacing what was there. -/
def insert (table : Registry κ α) (key : κ) (value : α) : Registry κ α :=
  ⟨insertEntry key value table.entries⟩

/-- Removes every entry of `key`. -/
def erase (table : Registry κ α) (key : κ) : Registry κ α :=
  ⟨table.entries.filter (fun entry => entry.1 ≠ key)⟩

/-- The values in table order. -/
def values (table : Registry κ α) : List α :=
  table.entries.map Prod.snd

/-- Builds a table by inserting from left to right: a later entry wins. -/
def ofList (entries : List (κ × α)) : Registry κ α :=
  entries.foldl (fun table entry => table.insert entry.1 entry.2) {}

/-! ## Read-after-write laws -/

@[simp] theorem find?_empty (key : κ) : ({} : Registry κ α).find? key = none := rfl

private theorem find?_insertEntry_same (key : κ) (value : α) (entries : List (κ × α)) :
    (insertEntry key value entries).find? (fun entry => entry.1 = key) =
      some (key, value) := by
  induction entries with
  | nil => simp [insertEntry]
  | cons head tail inductionHypothesis =>
      by_cases same : head.1 = key
      · simp [insertEntry, same]
      · simp [insertEntry, same, inductionHypothesis]

private theorem find?_insertEntry_other {key other : κ} (different : other ≠ key)
    (value : α) (entries : List (κ × α)) :
    (insertEntry key value entries).find? (fun entry => entry.1 = other) =
      entries.find? (fun entry => entry.1 = other) := by
  induction entries with
  | nil => simp [insertEntry, Ne.symm different]
  | cons head tail inductionHypothesis =>
      by_cases same : head.1 = key
      · simp [insertEntry, same, Ne.symm different]
      · by_cases found : head.1 = other
        · simp [insertEntry, found, different]
        · simp [insertEntry, same, found, inductionHypothesis]

@[simp] theorem find?_insert_same (table : Registry κ α) (key : κ) (value : α) :
    (table.insert key value).find? key = some value := by
  simp [find?, insert, find?_insertEntry_same]

theorem find?_insert_other (table : Registry κ α) {key other : κ} (value : α)
    (different : other ≠ key) :
    (table.insert key value).find? other = table.find? other := by
  simp [find?, insert, find?_insertEntry_other different]

theorem mem_values_of_find? {table : Registry κ α} {key : κ} {value : α}
    (found : table.find? key = some value) : value ∈ table.values := by
  obtain ⟨entry, listed, rfl⟩ := Option.map_eq_some_iff.mp found
  exact List.mem_map_of_mem (List.mem_of_find?_eq_some listed)

private theorem mem_insertEntry {key : κ} {value : α} {entries : List (κ × α)} {entry : κ × α}
    (member : entry ∈ insertEntry key value entries) :
    entry = (key, value) ∨ entry ∈ entries := by
  induction entries with
  | nil => exact .inl (List.mem_singleton.mp member)
  | cons head tail inductionHypothesis =>
      unfold insertEntry at member
      split at member
      · rcases List.mem_cons.mp member with new | old
        · exact .inl new
        · exact .inr (List.mem_cons_of_mem _ old)
      · rcases List.mem_cons.mp member with first | later
        · exact .inr (first ▸ List.mem_cons_self)
        · exact (inductionHypothesis later).imp_right (List.mem_cons_of_mem _)

/-- A write adds no other value than the one that is written. -/
theorem mem_values_insert {table : Registry κ α} {key : κ} {value other : α}
    (member : other ∈ (table.insert key value).values) :
    other = value ∨ other ∈ table.values := by
  obtain ⟨entry, listed, rfl⟩ := List.mem_map.mp member
  rcases mem_insertEntry listed with new | old
  · exact .inl (congrArg Prod.snd new)
  · exact .inr (List.mem_map_of_mem old)

private theorem insertEntry_insertEntry (key : κ) (first second : α) (entries : List (κ × α)) :
    insertEntry key second (insertEntry key first entries) = insertEntry key second entries := by
  induction entries with
  | nil => simp [insertEntry]
  | cons head tail inductionHypothesis =>
      by_cases same : head.1 = key
      · simp [insertEntry, same]
      · simp [insertEntry, same, inductionHypothesis]

/-- The later of two writes under one key wins. -/
@[simp] theorem insert_insert (table : Registry κ α) (key : κ) (first second : α) :
    (table.insert key first).insert key second = table.insert key second := by
  simp [insert, insertEntry_insertEntry]

private theorem insertEntry_new {key : κ} (value : α) {entries : List (κ × α)}
    (new : key ∉ entries.map Prod.fst) :
    insertEntry key value entries = entries ++ [(key, value)] := by
  induction entries with
  | nil => rfl
  | cons head tail inductionHypothesis =>
      rw [List.map_cons, List.mem_cons, not_or] at new
      rw [insertEntry, if_neg (Ne.symm new.1), inductionHypothesis new.2, List.cons_append]

/-- A new key is appended. -/
theorem insert_new {table : Registry κ α} {key : κ} (value : α)
    (new : key ∉ table.entries.map Prod.fst) :
    table.insert key value = ⟨table.entries ++ [(key, value)]⟩ :=
  congrArg Registry.mk (insertEntry_new value new)

private theorem foldl_insert_new {table : Registry κ α} {entries : List (κ × α)}
    (distinct : ((table.entries ++ entries).map Prod.fst).Nodup) :
    entries.foldl (fun table entry => table.insert entry.1 entry.2) table =
      ⟨table.entries ++ entries⟩ := by
  induction entries generalizing table with
  | nil => rw [List.append_nil]; rfl
  | cons entry rest inductionHypothesis =>
      have new : entry.1 ∉ table.entries.map Prod.fst := by
        rw [List.map_append, List.map_cons, List.nodup_append] at distinct
        intro old
        exact distinct.2.2 _ old _ List.mem_cons_self rfl
      have together : table.entries ++ entry :: rest = table.entries ++ [entry] ++ rest := by
        rw [List.append_assoc]
        rfl
      rw [together] at distinct ⊢
      rw [List.foldl_cons, insert_new _ new]
      exact inductionHypothesis distinct

/-- Entries with distinct keys make up a table as they stand. -/
theorem ofList_of_nodup {entries : List (κ × α)} (distinct : (entries.map Prod.fst).Nodup) :
    ofList entries = ⟨entries⟩ :=
  foldl_insert_new distinct

@[simp] theorem find?_erase_same (table : Registry κ α) (key : κ) :
    (table.erase key).find? key = none := by
  simp [find?, erase, List.find?_eq_none]

private theorem find?_filter_other {key other : κ} (different : other ≠ key)
    (entries : List (κ × α)) :
    (entries.filter (fun entry => entry.1 ≠ key)).find? (fun entry => entry.1 = other) =
      entries.find? (fun entry => entry.1 = other) := by
  induction entries with
  | nil => rfl
  | cons head tail inductionHypothesis =>
      by_cases same : head.1 = key
      · have missed : head.1 ≠ other := fun found => different (found ▸ same)
        simpa [List.filter_cons, List.find?_cons, same, Ne.symm different]
          using inductionHypothesis
      · by_cases found : head.1 = other
        · simp [found, different]
        · simpa [List.filter_cons, List.find?_cons, same, found]
            using inductionHypothesis

theorem find?_erase_other (table : Registry κ α) {key other : κ}
    (different : other ≠ key) :
    (table.erase key).find? other = table.find? other := by
  simp only [find?, erase]
  rw [find?_filter_other different]

/-- Removing a key that is not there changes nothing. -/
theorem erase_of_missing {table : Registry κ α} {key : κ} (missing : table.find? key = none) :
    table.erase key = table := by
  have absent := List.find?_eq_none.mp (Option.map_eq_none_iff.mp missing)
  have kept : table.entries.filter (fun entry => entry.1 ≠ key) = table.entries := by
    rw [List.filter_eq_self]
    intro entry listed
    simpa using absent entry listed
  exact congrArg Registry.mk kept

/-! ## Entries beside the written key -/

section Counted

variable {keep : κ × α → Bool} {key : κ}

private theorem countP_insertEntry (apart : ∀ value, keep (key, value) = false) (value : α)
    (entries : List (κ × α)) :
    (insertEntry key value entries).countP keep = entries.countP keep := by
  induction entries with
  | nil => simp [insertEntry, apart]
  | cons head tail inductionHypothesis =>
      obtain ⟨other, held⟩ := head
      by_cases same : other = key
      · subst same
        simp [insertEntry, apart]
      · simp [insertEntry, same, List.countP_cons, inductionHypothesis]

/-- A write does not change how many entries there are of other keys. -/
theorem countP_insert (table : Registry κ α) (apart : ∀ value, keep (key, value) = false)
    (value : α) :
    (table.insert key value).entries.countP keep = table.entries.countP keep :=
  countP_insertEntry apart value table.entries

theorem countP_erase (table : Registry κ α) (apart : ∀ value, keep (key, value) = false) :
    (table.erase key).entries.countP keep = table.entries.countP keep := by
  unfold erase
  rw [List.countP_filter]
  apply List.countP_congr
  rintro ⟨other, held⟩ _
  by_cases same : other = key
  · rw [same, apart held]
    simp
  · simp [same]

end Counted

end Registry

end NovelEngine
