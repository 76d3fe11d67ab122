import NovelEngine.Proofs.DocumentText
import NovelEngine.SavedState

/-!
Contract: the document of a snapshot.

Owns:
- the fields of a record whose keys are distinct;
- the documents of references, wait reasons, settings and snapshots, each of which is known
  exactly and reads back as what it was written for;
- the text of a snapshot.

Does not own: which snapshots a run is saved as.

Readers accept more than writers produce: structures written as lists, names written as keys,
fields left out. What is written is always read by the alternative that it was written for.
-/

namespace NovelEngine

namespace Document

/-! ## Fields and numbers -/

theorem filter_key_of_mem {entries : List (String × Document)}
    (distinct : (entries.map Prod.fst).Nodup) {entry : String × Document}
    (member : entry ∈ entries) :
    entries.filter (fun other => other.1 = entry.1) = [entry] := by
  induction entries with
  | nil => cases member
  | cons head tail inductionHypothesis =>
      rw [List.map_cons, List.nodup_cons] at distinct
      rcases List.mem_cons.mp member with rfl | later
      · have others : tail.filter (fun other => other.1 = entry.1) = [] := by
          rw [List.filter_eq_nil_iff]
          intro other listed same
          exact distinct.1 (of_decide_eq_true same ▸ List.mem_map_of_mem listed)
        rw [List.filter_cons_of_pos (by simp), others]
      · have different : head.1 ≠ entry.1 := by
          intro same
          exact distinct.1 (same ▸ List.mem_map_of_mem later)
        rw [List.filter_cons_of_neg (by simpa using different)]
        exact inductionHypothesis distinct.2 later

/-- A record with distinct keys gives each of its fields what stands under its key. -/
theorem fields?_record {entries : List (String × Document)}
    (distinct : (entries.map Prod.fst).Nodup) :
    fields? (entries.map Prod.fst) (.record entries) =
      some (entries.map (fun entry => .given entry.2)) := by
  apply mapM_map_of_forall
  intro entry member
  simp only [filter_key_of_mem distinct member]

/-- What may be missing is read back, unless a value is itself written as null. -/
theorem nullable?_ofOption {α : Type} {decode? : Document → Option α} {encode : α → Document}
    {value : Option α} (written : ∀ held, encode held ≠ .null)
    (back : ∀ held, value = some held → decode? (encode held) = some held) :
    nullable? decode? (.ofOption encode value) = some value := by
  cases value with
  | none => rfl
  | some held =>
      have read : nullable? decode? (encode held) = (decode? (encode held)).map some := by
        cases document : encode held <;> first | rfl | exact absurd document (written held)
      rw [ofOption, read, back held rfl]
      rfl

/-- An optional field that is written may be null. -/
theorem optional?_given {α : Type} (decode? : Document → Option α) (document : Document) :
    (Field.given document).optional? decode? = nullable? decode? document := by
  cases document <;> rfl

/-- A list is read back if each of its items is. -/
theorem list?_map {α : Type} {decode? : Document → Option α} {encode : α → Document}
    {items : List α} (back : ∀ item ∈ items, decode? (encode item) = some item) :
    list? decode? (.list (items.map encode)) = some items := by
  have read := mapM_map_of_forall back
  rwa [List.map_id'] at read

/-- A table is read back if each of its values is. -/
theorem entries?_map {α : Type} {decode? : Document → Option α} (encode : α → Document)
    {entries : List (String × α)}
    (back : ∀ entry ∈ entries, decode? (encode entry.2) = some entry.2) :
    entries? decode? (.record (entries.map (fun entry => (entry.1, encode entry.2)))) =
      some entries := by
  have read : (entries.map (fun entry => (entry.1, encode entry.2))).mapM (fun entry =>
      (decode? entry.2).map (entry.1, ·)) = some (entries.map id) := by
    apply mapM_map_of_forall
    intro entry member
    rw [back entry member]
    rfl
  rwa [List.map_id] at read

theorem natural?_of_le {limit value : Nat} (fits : value ≤ limit) :
    natural? limit (.integer value) = some value := by
  have inside : (0 : Int) ≤ value ∧ (value : Int) ≤ limit := by omega
  rw [natural?, if_pos inside, Int.toNat_natCast]

theorem size?_of_lt {value : Nat} (fits : value < UInt64.size) :
    size? (.integer value) = some value :=
  natural?_of_le (Nat.le_sub_one_of_lt fits)

theorem word?_of_lt {value : Nat} (fits : value < UInt32.size) :
    word? (.integer value) = some value :=
  natural?_of_le (Nat.le_sub_one_of_lt fits)

theorem Exact.natural {depth value : Nat} (fits : value < UInt64.size) :
    Exact depth (.integer value) := by
  have least : Int64.minValue.toInt = -9223372036854775808 := by decide
  have most : (maxSignificand : Int) = 18446744073709551615 := by decide
  have size : UInt64.size = 18446744073709551616 := rfl
  exact .integer ⟨by omega, by omega⟩

theorem Exact.ofOption {α : Type} {depth : Nat} {encode : α → Document} {value : Option α}
    (exact : ∀ held, value = some held → Exact depth (encode held)) :
    Exact depth (.ofOption encode value) := by
  cases value with
  | none => exact .null
  | some held => exact exact held rfl

theorem Exact.list_map {α : Type} {depth : Nat} {encode : α → Document} {items : List α}
    (exact : ∀ item ∈ items, Exact depth (encode item)) :
    Exact (depth + 1) (.list (items.map encode)) := by
  refine .list fun document member => ?_
  obtain ⟨item, listed, rfl⟩ := List.mem_map.mp member
  exact exact item listed

end Document

open Document (Exact Field)

/-! ## References -/

namespace VariableRef

/-- A reference is read back by every reader that takes a text for a name. -/
theorem decodeWith?_encode {readName? : Document → Option String}
    (readsText : ∀ text, readName? (.text text) = some text) {reference : VariableRef}
    (within : reference.index ≤ maxSlot) :
    decodeWith? readName? reference.encode = some reference := by
  have fields : reference.encode.fields? ["scope", "kind", "index"] = some [
      .given (.text reference.scope.name), .given (.text reference.kind.name),
      .given (.integer reference.index)] :=
    Document.fields?_record (by simp)
  unfold decodeWith?
  rw [fields]
  simp [Field.defaulted?, Field.required?, readsText, Scope.ofName?_name, Kind.ofName?_name,
    Document.natural?_of_le within]

theorem exact_encode (depth : Nat) {reference : VariableRef}
    (within : reference.index ≤ maxSlot) : Exact (depth + 1) reference.encode := by
  have small : reference.index < UInt64.size := Nat.lt_of_le_of_lt within (by decide)
  simp [encode, Exact.natural small]

end VariableRef

/-! ## Wait reasons -/

namespace WaitReason

/-- The slots that the answer of a wait goes to. -/
def references : WaitReason → List VariableRef
  | .choice _ target => target.toList
  | .input target => [target]
  | _ => []

theorem exact_encode (depth : Nat) {reason : WaitReason}
    (within : ∀ reference ∈ reason.references, reference.index ≤ maxSlot) :
    Exact (depth + 2) reason.encode := by
  cases reason with
  | choice labels target =>
      have labels : Exact (depth + 1) (.list (labels.map (.ofOption .text))) :=
        .list_map (fun _ _ => .ofOption (fun text _ => .text text))
      have target : Exact (depth + 1) (.ofOption VariableRef.encode target) :=
        .ofOption (fun reference given =>
          reference.exact_encode depth (within reference (Option.mem_toList.mpr given)))
      simp [encode, labels, target]
  | input target =>
      have target := target.exact_encode depth (within target List.mem_cons_self)
      simp [encode, target]
  | _ => simp [encode]

/-- A reference behind a tag is read back. -/
theorem reference?_encode {reference : VariableRef} (within : reference.index ≤ maxSlot) :
    reference? reference.encode = some reference :=
  VariableRef.decodeWith?_encode (fun _ => rfl) within

/-- A reason is read back through its tag. -/
theorem decode?_encode {reason : WaitReason}
    (within : ∀ reference ∈ reason.references, reference.index ≤ maxSlot) :
    decode? reason.encode = some reason := by
  have valid : reason.encode.isValid = true := (exact_encode 0 within).isValid
  unfold decode?
  rw [if_pos valid]
  cases reason with
  | choice labels target =>
      have fields : Document.fields? ["labels", "variable"] (.record [
          ("labels", .list (labels.map (.ofOption .text))),
          ("variable", .ofOption VariableRef.encode target)]) =
          some [.given (.list (labels.map (.ofOption .text))),
            .given (.ofOption VariableRef.encode target)] :=
        Document.fields?_record (by simp)
      have texts : Document.list? (Document.nullable? Document.text?)
          (.list (labels.map (.ofOption .text))) = some labels :=
        Document.list?_map (fun _ _ => Document.nullable?_ofOption nofun (fun _ _ => rfl))
      have answer : Document.nullable? reference? (.ofOption VariableRef.encode target) =
          some target :=
        Document.nullable?_ofOption nofun (fun reference given =>
          reference?_encode (within reference (Option.mem_toList.mpr given)))
      simp [encode, ofTag?, fields, Field.required?, Document.optional?_given, texts, answer]
  | input target =>
      have fields : Document.fields? ["variable"] (.record [("variable", target.encode)]) =
          some [.given target.encode] :=
        Document.fields?_record (by simp)
      have back := reference?_encode (within target List.mem_cons_self)
      simp [encode, ofTag?, fields, Field.required?, back]
  | _ => simp [encode, ofTag?]

end WaitReason

/-! ## Snapshots -/

namespace MessageSettings

theorem exact_encode (depth : Nat) (settings : MessageSettings) :
    Exact (depth + 1) settings.encode := by
  simp [encode]

theorem decode?_encode (settings : MessageSettings) :
    decode? settings.encode = some settings := by
  have fields : settings.encode.fields? ["autoErase", "waitAtEnd"] = some [
      .given (.boolean settings.autoErase), .given (.boolean settings.waitAtEnd)] :=
    Document.fields?_record (by simp)
  unfold decode?
  rw [fields]
  rfl

end MessageSettings

namespace SavedState

/-- A snapshot as a run can have it: positions and counts have the size of their fields, every
label stands once in the table, and answers go to slots within the limit. -/
structure Sized (state : SavedState) : Prop where
  pointer : state.pointer < UInt64.size
  loops : ∀ start, some start ∈ state.loops.toList → start < UInt64.size
  labels : ∀ entry ∈ state.labels.entries, entry.2 < UInt64.size
  distinct : (state.labels.entries.map Prod.fst).Nodup
  waitCounter : state.waitCounter < UInt32.size
  indent : state.indent < UInt64.size
  references : ∀ reason, state.waitingFor = some reason →
    ∀ reference ∈ reason.references, reference.index ≤ maxSlot

variable {state : SavedState}

/-- The document of a snapshot is known exactly. -/
theorem Sized.exact_encode (sized : state.Sized) : Exact 3 state.encode := by
  have conditions : Exact 2 (.list (state.conditions.toList.map .boolean)) :=
    .list_map (fun condition _ => .boolean condition)
  have loops : Exact 2 (.list (state.loops.toList.map
      (.ofOption (fun start : Nat => .integer start)))) :=
    .list_map (fun _ listed => .ofOption (fun start same =>
      .natural (sized.loops start (same ▸ listed))))
  have labels : Exact 2 (.record (state.labels.entries.map (fun entry =>
      (entry.1, .integer entry.2)))) := by
    refine .record fun entry member => ?_
    obtain ⟨label, listed, rfl⟩ := List.mem_map.mp member
    exact .natural (sized.labels label listed)
  have waiting : Exact 2 (.ofOption WaitReason.encode state.waitingFor) :=
    .ofOption (fun reason waits => reason.exact_encode 0 (sized.references reason waits))
  have waitCounter : state.waitCounter < UInt64.size :=
    Nat.lt_trans sized.waitCounter (by decide)
  refine .record ?_
  simp only [List.forall_mem_cons, List.not_mem_nil, false_implies, implies_true, and_true]
  exact ⟨.natural sized.pointer, conditions, loops, labels, .boolean _, .boolean _,
    .natural waitCounter, waiting, .natural sized.indent, state.settings.exact_encode 1⟩

/-- A snapshot is read back from its document. -/
theorem Sized.decode?_encode (sized : state.Sized) : decode? state.encode = some state := by
  have fields : state.encode.fields? ["pointer", "conditions", "loops", "labels", "isWaiting",
      "isRunning", "waitCounter", "waitingFor", "indent", "settings"] = some [
      .given (.integer state.pointer),
      .given (.list (state.conditions.toList.map .boolean)),
      .given (.list (state.loops.toList.map (.ofOption (fun start : Nat => .integer start)))),
      .given (.record (state.labels.entries.map (fun entry => (entry.1, .integer entry.2)))),
      .given (.boolean state.isWaiting), .given (.boolean state.isRunning),
      .given (.integer state.waitCounter),
      .given (.ofOption WaitReason.encode state.waitingFor),
      .given (.integer state.indent), .given state.settings.encode] :=
    Document.fields?_record (by simp)
  have conditions : Document.list? Document.boolean?
      (.list (state.conditions.toList.map .boolean)) = some state.conditions.toList :=
    Document.list?_map (fun _ _ => rfl)
  have loops : Document.list? (Document.nullable? Document.size?)
      (.list (state.loops.toList.map (.ofOption (fun start : Nat => .integer start)))) =
      some state.loops.toList :=
    Document.list?_map (fun _ listed => Document.nullable?_ofOption nofun (fun start same =>
      Document.size?_of_lt (sized.loops start (same ▸ listed))))
  have labels : Document.entries? Document.size? (.record (state.labels.entries.map
      (fun entry => (entry.1, .integer entry.2)))) = some state.labels.entries :=
    Document.entries?_map (fun target : Nat => .integer target)
      (fun entry listed => Document.size?_of_lt (sized.labels entry listed))
  have waiting : Document.nullable? WaitReason.decode?
      (.ofOption WaitReason.encode state.waitingFor) = some state.waitingFor := by
    apply Document.nullable?_ofOption
    · intro reason
      cases reason <;> exact nofun
    · exact fun reason waits => WaitReason.decode?_encode (sized.references reason waits)
  have table : Registry.ofList state.labels.entries = state.labels :=
    Registry.ofList_of_nodup sized.distinct
  unfold decode?
  rw [fields]
  simp only [Field.required?, Document.optional?_given, conditions, loops, labels, waiting, table,
    Document.boolean?, Document.size?_of_lt sized.pointer,
    Document.word?_of_lt sized.waitCounter, Document.size?_of_lt sized.indent,
    MessageSettings.decode?_encode, Option.bind_eq_bind, Option.bind_some, Option.pure_def,
    Array.toArray_toList]

/-- A snapshot is read back from its text: the text reads as the document that was written, and
the document as the snapshot. -/
theorem Sized.reads_back (sized : state.Sized) :
    Document.read? state.encode.write = some state.encode ∧
      SavedState.decode? state.encode = some state :=
  ⟨Document.read?_write sized.exact_encode (by decide), sized.decode?_encode⟩

/-- A run at a menu, inside the second of three loops. -/
private def atMenu : SavedState where
  pointer := 12
  conditions := #[true, false]
  loops := #[none, some 7, none]
  labels := .ofList [("start", 0), ("a \"quoted\" \\ label\n", UInt64.size - 1), ("\u0001", 3)]
  isWaiting := true
  isRunning := true
  waitCounter := 0
  waitingFor := some (.choice [some "start", none, some ""]
    (some { scope := .temporary, kind := .list, index := 9999 }))
  indent := 1
  settings := { waitAtEnd := false }

/-- Labels that need escapes, choices without a label and loops with gaps are read back. -/
theorem atMenu_reads_back :
    atMenu.Sized ∧ Document.read? atMenu.encode.write = some atMenu.encode ∧
      SavedState.decode? atMenu.encode = some atMenu := by
  have sized : atMenu.Sized := {
    pointer := by decide
    loops := by
      intro start listed
      have seven : start = 7 := by simpa [atMenu] using listed
      exact seven ▸ by decide
    labels := by decide
    distinct := by decide
    waitCounter := by decide
    indent := by decide
    references := by
      intro reason waits
      cases waits
      decide }
  exact ⟨sized, sized.reads_back⟩

end SavedState

end NovelEngine
