import NovelEngine.Document.Reader
import NovelEngine.Document.Writer

/-!
Contract: written documents read back.

Owns:
- quoted text: each written character is read as that character;
- whole numbers: the digits of a number of 64 bits are gathered to this number;
- documents: what is read of a written document, in front of any text that ends a value.

Does not own: doubles, whose text may read as another double.

The reader goes through the text once and spends fuel on every value. All statements are
therefore about a written part in front of a rest, and the fuel is measured by the characters
of the part.
-/

namespace NovelEngine.Document

/-! ## Quoted text -/

theorem shortEscape?_of_shortLetter? {character letter : Char}
    (short : shortLetter? character = some letter) : shortEscape? letter = some character := by
  have found := List.find?_some short
  exact of_decide_eq_true found

theorem ne_u_of_shortLetter? {character letter : Char}
    (short : shortLetter? character = some letter) : letter ≠ 'u' := by
  rintro rfl
  have escape := shortEscape?_of_shortLetter? short
  cases escape

theorem hexDigit?_hexLetter {value : Nat} (small : value < 16) :
    hexDigit? (hexLetter value) = some value := by
  have all : ∀ value < 16, hexDigit? (hexLetter value) = some value := by decide
  exact all value small

/-- A control character is spelled by its code. -/
theorem hexUnit?_of_control {code : Nat} (control : code < 0x20) :
    hexUnit? '0' '0' (hexLetter (code / 16)) (hexLetter (code % 16)) = some code := by
  have high : code / 16 < 16 := by omega
  have low : code % 16 < 16 := by omega
  have zero : hexDigit? '0' = some 0 := rfl
  simp only [hexUnit?, zero, hexDigit?_hexLetter high, hexDigit?_hexLetter low]
  show some (((0 * 16 + 0) * 16 + code / 16) * 16 + code % 16) = some code
  congr 1
  omega

theorem QuotedState.pushUnit_of_control (state : QuotedState) {code : Nat}
    (control : code < 0x20) : state.pushUnit code = state.push (Char.ofNat code) := by
  unfold pushUnit
  rw [if_neg (by omega), if_neg (by omega)]

/-- Every character is read back from its written form. -/
theorem readQuoted?_writeCharacter (state : QuotedState) (character : Char) (rest : List Char) :
    readQuoted? state (writeCharacter character ++ rest) =
      readQuoted? (state.push character) rest := by
  unfold writeCharacter
  cases short : shortLetter? character with
  | some letter =>
      show readQuoted? state ('\\' :: letter :: rest) = _
      rw [readQuoted?, shortEscape?_of_shortLetter? short]
      intro _ _ _ _ _ same
      exact absurd same (ne_u_of_shortLetter? short)
  | none =>
      by_cases control : character.toNat < 0x20
      · simp only [if_pos control, List.cons_append, List.nil_append]
        rw [readQuoted?, hexUnit?_of_control control]
        simp only [state.pushUnit_of_control control, Char.ofNat_toNat]
      · have plain (letter : Char) (listed : (shortLetter? letter).isSome = true) :
            character ≠ letter := by
          rintro rfl
          rw [short] at listed
          cases listed
        have quote : character ≠ '"' := plain '"' rfl
        have backslash : character ≠ '\\' := plain '\\' rfl
        simp only [if_neg control, List.cons_append, List.nil_append]
        rw [readQuoted?, if_neg (by simp [backslash, control])]
        · exact quote
        · intro _ _ _ _ _ same
          exact absurd same backslash
        · intro _ _ same
          exact absurd same backslash

/-- The characters of a quoted text are read one after another. -/
theorem readQuoted?_flatMap (characters : List Char) (state : QuotedState) (rest : List Char) :
    readQuoted? state (characters.flatMap writeCharacter ++ rest) =
      readQuoted? (characters.foldl QuotedState.push state) rest := by
  induction characters generalizing state with
  | nil => rfl
  | cons character others inductionHypothesis =>
      rw [List.flatMap_cons, List.append_assoc, readQuoted?_writeCharacter,
        inductionHypothesis]
      rfl

theorem QuotedState.foldl_push (characters : List Char) {state : QuotedState}
    (sound : state.sound = true) (unpaired : state.high = none) :
    characters.foldl push state =
      { state with characters := characters.reverse ++ state.characters } := by
  induction characters generalizing state with
  | nil => rfl
  | cons character others inductionHypothesis =>
      have pushed : (state.push character).sound = true := by
        simp [push, sound, unpaired]
      rw [List.foldl_cons, inductionHypothesis pushed rfl]
      simp [push, sound, unpaired]

theorem toList_writeQuoted (text : String) :
    (writeQuoted text).toList = '"' :: text.toList.flatMap writeCharacter ++ ['"'] := by
  rw [writeQuoted, String.toList_ofList]

/-- Quoted text is read back up to the closing quote. -/
theorem readQuoted?_writeQuoted (text : String) (rest : List Char) :
    readQuoted? {} (text.toList.flatMap writeCharacter ++ '"' :: rest) =
      some (some text, rest) := by
  rw [readQuoted?_flatMap, QuotedState.foldl_push _ rfl rfl, readQuoted?]
  simp [QuotedState.finish]

/-! ## Whole numbers -/

/-- Text behind a value: nothing, or what separates and closes lists and records. -/
inductive EndsValue : List Char → Prop where
  | nothing : EndsValue []
  | comma (rest : List Char) : EndsValue (',' :: rest)
  | bracket (rest : List Char) : EndsValue (']' :: rest)
  | brace (rest : List Char) : EndsValue ('\x7d' :: rest)

/-- The leading digits are taken up to the end of the value. -/
theorem takeDigits_append {digits rest : List Char}
    (decimal : ∀ digit ∈ digits, digit.isDigit = true) (ends : EndsValue rest) :
    Decimal.takeDigits (digits ++ rest) = (digits, rest) := by
  unfold Decimal.takeDigits
  rw [List.takeWhile_append_of_pos decimal, List.dropWhile_append_of_pos decimal]
  cases ends <;> simp

/-- Digits are gathered to their number if it fits. -/
theorem gather_of_fits {digits : List Char} {significand : Nat}
    (fits : Nat.ofDigitChars 10 digits significand ≤ maxSignificand) :
    gather significand digits = (Nat.ofDigitChars 10 digits significand, digits.length) := by
  induction digits generalizing significand with
  | nil => rfl
  | cons digit others inductionHypothesis =>
      have next : significand * 10 + (digit.toNat - '0'.toNat) =
          10 * significand + (digit.toNat - '0'.toNat) := by rw [Nat.mul_comm]
      rw [Nat.ofDigitChars_cons] at fits ⊢
      have grows : 10 * significand + (digit.toNat - '0'.toNat) ≤
          Nat.ofDigitChars 10 others (10 * significand + (digit.toNat - '0'.toNat)) := by
        rw [Nat.ofDigitChars_eq_ofDigitChars_zero]
        exact Nat.le_add_right_of_le (Nat.le_mul_of_pos_left _ (Nat.pow_pos (by decide)))
      rw [gather, next, if_neg (by omega), inductionHypothesis fits, List.length_cons]

/-- Only the number zero is written with a leading zero. -/
theorem head?_toDigits_ne {number : Nat} (positive : 0 < number) :
    (Nat.toDigits 10 number).head? ≠ some '0' := by
  induction number using Nat.strongRecOn with
  | ind number inductionHypothesis =>
      by_cases single : number < 10
      · rw [Nat.toDigits_of_lt_base single]
        intro same
        have zero : number = 0 := Nat.digitChar_eq_zero.mp (Option.some.inj same)
        omega
      · rw [Nat.toDigits_of_base_le (by decide) (by omega), List.head?_append,
          Option.or_of_isSome (List.isSome_head?.mpr Nat.toDigits_ne_nil)]
        exact inductionHypothesis (number / 10) (by omega) (by omega)

/-- The digits of a number are read back as this number. -/
theorem readMagnitude?_toDigits (negative : Bool) {number : Nat}
    (fits : number ≤ maxSignificand) {rest : List Char} (ends : EndsValue rest) :
    readMagnitude? negative (Nat.toDigits 10 number ++ rest) =
      some (wholeNumber negative number, rest) := by
  have decimal : ∀ digit ∈ Nat.toDigits 10 number, digit.isDigit = true :=
    fun _ member => Nat.isDigit_of_mem_toDigits (by decide) (by decide) member
  have wellWritten : ¬ ((Nat.toDigits 10 number).isEmpty = true ∨
      ((Nat.toDigits 10 number).head? = some '0' ∧ 1 < (Nat.toDigits 10 number).length)) := by
    rintro (empty | ⟨zero, long⟩)
    · exact Nat.toDigits_ne_nil (List.isEmpty_iff.mp empty)
    · rcases Nat.eq_zero_or_pos number with rfl | positive
      · exact absurd long (by decide)
      · exact head?_toDigits_ne positive zero
  have gathered : gather 0 (Nat.toDigits 10 number) =
      (number, (Nat.toDigits 10 number).length) := by
    rw [gather_of_fits] <;> rw [Nat.ofDigitChars_ten_toDigits]
    exact fits
  unfold readMagnitude?
  rw [takeDigits_append decimal ends]
  simp only [if_neg wellWritten, gathered, Int.sub_self, if_true]
  cases ends <;> rfl

/-- A whole number of 64 bits, with a sign or without. -/
def FitsWhole (value : Int) : Prop :=
  Int64.minValue.toInt ≤ value ∧ value ≤ maxSignificand

theorem toList_write_integer (value : Int) :
    (write (.integer value)).toList =
      if 0 ≤ value then Nat.toDigits 10 value.toNat
      else '-' :: Nat.toDigits 10 (-value).toNat := by
  rw [write, Int.toString_eq_repr, Int.repr_eq_if]
  split
  · exact Nat.toList_repr
  · rw [String.toList_append, Nat.toList_repr]
    rfl

theorem readNumber?_toDigits (number : Nat) (rest : List Char) :
    readNumber? (Nat.toDigits 10 number ++ rest) =
      readMagnitude? false (Nat.toDigits 10 number ++ rest) := by
  have written : Nat.toDigits 10 number ≠ [] := Nat.toDigits_ne_nil
  obtain ⟨first, others, digits⟩ := List.exists_cons_of_ne_nil written
  have decimal : first.isDigit = true :=
    Nat.isDigit_of_mem_toDigits (by decide) (by decide) (digits ▸ List.mem_cons_self)
  rw [digits, List.cons_append, readNumber?]
  intro rest same
  cases same
  cases decimal

/-- Whole numbers of 64 bits are read back. -/
theorem readNumber?_write {value : Int} (fits : FitsWhole value) {rest : List Char}
    (ends : EndsValue rest) :
    readNumber? ((write (.integer value)).toList ++ rest) = some (.integer value, rest) := by
  obtain ⟨low, high⟩ := fits
  have least : Int64.minValue.toInt = -9223372036854775808 := by decide
  have most : (maxSignificand : Int) = 18446744073709551615 := by decide
  rw [toList_write_integer]
  split
  · rename_i natural
    have same : ((value.toNat : Nat) : Int) = value := Int.toNat_of_nonneg natural
    rw [readNumber?_toDigits, readMagnitude?_toDigits false (by omega) ends]
    simp only [wholeNumber, same, Bool.false_eq_true, if_false]
  · rename_i negative
    have same : -(((-value).toNat : Nat) : Int) = value := by omega
    rw [List.cons_append, readNumber?, readMagnitude?_toDigits true (by omega) ends]
    have positive : 0 < (-value).toNat := by omega
    simp only [wholeNumber, if_true, same, positive, low, and_self]

/-! ## Documents -/

/-- Whether a character is neither a blank nor the end of a list. -/
def Solid (first : Char) : Prop :=
  first ∉ [' ', '\n', '\t', '\r', ']']

instance (first : Char) : Decidable (Solid first) :=
  inferInstanceAs (Decidable (first ∉ _))

theorem skipBlanks_of_solid {first : Char} (solid : Solid first) (others : List Char) :
    skipBlanks (first :: others) = first :: others := by
  simp only [Solid, List.mem_cons, List.not_mem_nil, or_false, not_or] at solid
  simp [skipBlanks, solid]

theorem Solid.of_isDigit {first : Char} (decimal : first.isDigit = true) : Solid first := by
  intro listed
  simp only [List.mem_cons, List.not_mem_nil, or_false] at listed
  rcases listed with rfl | rfl | rfl | rfl | rfl <;> cases decimal

/-- What stands behind a value is no blank. -/
theorem EndsValue.skipBlanks {rest : List Char} (ends : EndsValue rest) :
    Document.skipBlanks rest = rest := by
  cases ends <;> rfl

/-- A document that is known exactly: it holds no doubles, its whole numbers have 64 bits, and
its lists and records are nested `depth` levels at most. -/
inductive Exact : Nat → Document → Prop where
  | null {depth : Nat} : Exact depth .null
  | boolean {depth : Nat} (value : Bool) : Exact depth (.boolean value)
  | integer {depth : Nat} {value : Int} (fits : FitsWhole value) : Exact depth (.integer value)
  | text {depth : Nat} (value : String) : Exact depth (.text value)
  | list {depth : Nat} {items : List Document} (exact : ∀ item ∈ items, Exact depth item) :
      Exact (depth + 1) (.list items)
  | record {depth : Nat} {entries : List (String × Document)}
      (exact : ∀ entry ∈ entries, Exact depth entry.2) : Exact (depth + 1) (.record entries)

attribute [simp] Exact.null Exact.boolean Exact.text

@[simp] theorem exact_record_iff {depth : Nat} {entries : List (String × Document)} :
    Exact (depth + 1) (.record entries) ↔ ∀ entry ∈ entries, Exact depth entry.2 :=
  ⟨fun | .record exact => exact, .record⟩

/-- A document that is read back from its text, with fuel for each of its characters and
`depth` levels left to open. -/
structure Readable (depth : Nat) (document : Document) : Prop where
  starts : ∃ first others, (write document).toList = first :: others ∧ Solid first
  back : ∀ {fuel remaining : Nat} {rest : List Char}, (write document).toList.length ≤ fuel →
    depth ≤ remaining → EndsValue rest →
    readDocument? (fuel + 1) remaining ((write document).toList ++ rest) = some (document, rest)

theorem readDocument?_number {first : Char} (numeric : first = '-' ∨ first.isDigit = true)
    (fuel remaining : Nat) (others : List Char) :
    readDocument? (fuel + 1) remaining (first :: others) = readNumber? (first :: others) := by
  have solid : Solid first := by
    rcases numeric with rfl | decimal
    · decide
    · exact .of_isDigit decimal
  rw [readDocument?, skipBlanks_of_solid solid]
  -- No word, quote or bracket starts like a number, so only the last alternative is left.
  split
  case h_7 => rfl
  all_goals
    rename_i same
    cases same
    exact absurd numeric (by decide)

/-- A number starts with a sign or a digit. -/
theorem toList_write_integer_cons (value : Int) :
    ∃ first others, (write (.integer value)).toList = first :: others ∧
      (first = '-' ∨ first.isDigit = true) := by
  rw [toList_write_integer]
  split
  · have written : Nat.toDigits 10 value.toNat ≠ [] := Nat.toDigits_ne_nil
    obtain ⟨first, others, digits⟩ := List.exists_cons_of_ne_nil written
    exact ⟨first, others, digits, .inr (Nat.isDigit_of_mem_toDigits (by decide) (by decide)
      (digits ▸ List.mem_cons_self))⟩
  · exact ⟨_, _, rfl, .inl rfl⟩

theorem toList_write_list (items : List Document) :
    (write (.list items)).toList = '[' :: (writeItems items).toList ++ [']'] := by
  rw [write, String.toList_append, String.toList_append]
  rfl

theorem toList_writeItems_cons (item second : Document) (others : List Document) :
    (writeItems (item :: second :: others)).toList =
      (write item).toList ++ ',' :: (writeItems (second :: others)).toList := by
  rw [writeItems, String.toList_append, String.toList_append, List.append_assoc]
  · rfl
  · exact nofun

namespace Readable

variable {depth : Nat}

theorem null : Readable depth .null where
  starts := ⟨'n', _, rfl, by decide⟩
  back := fun _ _ _ => rfl

theorem boolean (value : Bool) : Readable depth (.boolean value) where
  starts := by
    cases value
    · exact ⟨'f', _, rfl, by decide⟩
    · exact ⟨'t', _, rfl, by decide⟩
  back := by
    intro fuel remaining rest _ _ _
    cases value <;> rfl

theorem integer {value : Int} (fits : FitsWhole value) : Readable depth (.integer value) where
  starts := by
    obtain ⟨first, others, written, numeric⟩ := toList_write_integer_cons value
    refine ⟨first, others, written, ?_⟩
    rcases numeric with rfl | decimal
    · decide
    · exact .of_isDigit decimal
  back := by
    intro fuel remaining rest _ _ ends
    have read := readNumber?_write fits ends
    obtain ⟨first, others, written, numeric⟩ := toList_write_integer_cons value
    rw [written, List.cons_append] at read ⊢
    rw [readDocument?_number numeric, read]

theorem text (value : String) : Readable depth (.text value) where
  starts := by
    rw [write, toList_writeQuoted]
    exact ⟨'"', _, rfl, by decide⟩
  back := by
    intro fuel remaining rest _ _ _
    rw [write, toList_writeQuoted, List.cons_append, List.cons_append, List.append_assoc,
      readDocument?, skipBlanks_of_solid (by decide)]
    show (readQuoted? {} (value.toList.flatMap writeCharacter ++ '"' :: rest)).map _ = _
    rw [readQuoted?_writeQuoted]
    rfl

end Readable

/-- The items of a list are read back up to its closing bracket. -/
theorem readItems?_writeItems {depth remaining : Nat} {items : List Document}
    (nonempty : items ≠ []) (readable : ∀ item ∈ items, Readable depth item)
    (levels : depth ≤ remaining) {fuel : Nat}
    (enough : (writeItems items).toList.length ≤ fuel) (before : List Document)
    (rest : List Char) :
    readItems? (fuel + 2) remaining before ((writeItems items).toList ++ ']' :: rest) =
      some (before.reverse ++ items, rest) := by
  induction items generalizing fuel before with
  | nil => exact absurd rfl nonempty
  | cons item others inductionHypothesis =>
      have first := readable item List.mem_cons_self
      cases others with
      | nil =>
          rw [writeItems] at enough ⊢
          rw [readItems?, first.back enough levels (.bracket rest)]
          simp [EndsValue.skipBlanks (.bracket rest)]
      | cons second others =>
          have later := fun entry member => readable entry (List.mem_cons_of_mem item member)
          rw [toList_writeItems_cons] at enough ⊢
          simp only [List.length_append, List.length_cons] at enough
          -- The fuel that an item costs is paid for by the comma behind it.
          obtain ⟨fuel, rfl⟩ : ∃ less, fuel = less + 1 := ⟨fuel - 1, by omega⟩
          rw [List.append_assoc, List.cons_append, readItems?,
            first.back (by omega) levels (.comma _)]
          simp only [EndsValue.skipBlanks (.comma _)]
          rw [inductionHypothesis (by simp) later (by omega)]
          simp

/-- The text of a list with items starts with its first item. -/
theorem starts_writeItems {depth : Nat} {items : List Document} (nonempty : items ≠ [])
    (readable : ∀ item ∈ items, Readable depth item) :
    ∃ first others, (writeItems items).toList = first :: others ∧ Solid first := by
  cases items with
  | nil => exact absurd rfl nonempty
  | cons item later =>
      obtain ⟨first, others, written, solid⟩ := (readable item List.mem_cons_self).starts
      cases later with
      | nil =>
          rw [writeItems]
          exact ⟨first, others, written, solid⟩
      | cons second later =>
          rw [toList_writeItems_cons, written]
          exact ⟨first, _, rfl, solid⟩

theorem atDepth_of_levels {depth remaining : Nat} (levels : depth + 1 ≤ remaining)
    (document : Document) : atDepth remaining document = document :=
  if_neg (by omega)

theorem Readable.list {depth : Nat} {items : List Document}
    (readable : ∀ item ∈ items, Readable depth item) : Readable (depth + 1) (.list items) where
  starts := by
    rw [toList_write_list]
    exact ⟨'[', _, rfl, by decide⟩
  back := by
    intro fuel remaining rest enough levels _
    rw [toList_write_list] at enough ⊢
    simp only [List.cons_append, List.length_cons, List.length_append, List.append_assoc,
      List.nil_append] at enough ⊢
    rw [readDocument?, skipBlanks_of_solid (by decide)]
    by_cases empty : items = []
    · subst empty
      simp [writeItems, atDepth_of_levels levels, skipBlanks]
    · obtain ⟨first, others, written, solid⟩ := starts_writeItems empty readable
      obtain ⟨fuel, rfl⟩ : ∃ less, fuel = less + 2 := ⟨fuel - 2, by omega⟩
      have read := readItems?_writeItems empty readable (by omega : depth ≤ remaining - 1)
        (by omega : (writeItems items).toList.length ≤ fuel) [] rest
      rw [written, List.cons_append] at read ⊢
      simp only [skipBlanks_of_solid solid]
      split
      · rename_i same
        cases same
        exact absurd solid (by decide)
      · simp [read, atDepth_of_levels levels]

/-! ## Records -/

theorem toList_write_record (entries : List (String × Document)) :
    (write (.record entries)).toList = '\x7b' :: (writeEntries entries).toList ++ ['\x7d'] := by
  rw [write, String.toList_append, String.toList_append]
  rfl

theorem toList_writeEntries_single (key : String) (value : Document) :
    (writeEntries [(key, value)]).toList =
      (writeQuoted key).toList ++ ':' :: (write value).toList := by
  rw [writeEntries, String.toList_append, String.toList_append, List.append_assoc]
  rfl

theorem toList_writeEntries_cons (key : String) (value : Document)
    (second : String × Document) (others : List (String × Document)) :
    (writeEntries ((key, value) :: second :: others)).toList =
      (writeQuoted key).toList ++
        ':' :: ((write value).toList ++ ',' :: (writeEntries (second :: others)).toList) := by
  rw [writeEntries]
  · simp only [String.toList_append, List.append_assoc]
    rfl
  · exact nofun

theorem readKey?_writeQuoted (key : String) (rest : List Char) :
    readKey? ((writeQuoted key).toList ++ ':' :: rest) = some (some key, rest) := by
  rw [toList_writeQuoted, List.cons_append, List.cons_append, List.append_assoc, readKey?,
    skipBlanks_of_solid (by decide)]
  simp only [List.cons_append, List.nil_append, readQuoted?_writeQuoted,
    skipBlanks_of_solid (show Solid ':' by decide)]

/-- The entries of a record are read back up to its closing brace. -/
theorem readEntries?_writeEntries {depth remaining : Nat} {entries : List (String × Document)}
    (nonempty : entries ≠ []) (readable : ∀ entry ∈ entries, Readable depth entry.2)
    (levels : depth ≤ remaining) {fuel : Nat}
    (enough : (writeEntries entries).toList.length ≤ fuel)
    (before : List (Option String × Document)) (rest : List Char) :
    readEntries? (fuel + 2) remaining before ((writeEntries entries).toList ++ '\x7d' :: rest) =
      some (before.reverse ++ entries.map (fun entry => (some entry.1, entry.2)), rest) := by
  induction entries generalizing fuel before with
  | nil => exact absurd rfl nonempty
  | cons entry others inductionHypothesis =>
      obtain ⟨key, value⟩ := entry
      have first : Readable depth value := readable (key, value) List.mem_cons_self
      cases others with
      | nil =>
          rw [toList_writeEntries_single] at enough ⊢
          simp only [List.length_append, List.length_cons] at enough
          have short : (write value).toList.length ≤ fuel := by omega
          rw [List.append_assoc, List.cons_append, readEntries?, readKey?_writeQuoted]
          simp [first.back short levels (.brace rest), EndsValue.skipBlanks (.brace rest)]
      | cons second others =>
          have later := fun entry member =>
            readable entry (List.mem_cons_of_mem (key, value) member)
          rw [toList_writeEntries_cons] at enough ⊢
          simp only [List.length_append, List.length_cons] at enough
          obtain ⟨fuel, rfl⟩ : ∃ less, fuel = less + 1 := ⟨fuel - 1, by omega⟩
          have short : (write value).toList.length ≤ fuel + 1 := by omega
          rw [List.append_assoc, List.cons_append, List.append_assoc, List.cons_append,
            readEntries?, readKey?_writeQuoted]
          simp only [first.back short levels (.comma _), EndsValue.skipBlanks (.comma _)]
          rw [inductionHypothesis (by simp) later (by omega)]
          simp

/-- A list is read back if each of its members is. -/
theorem mapM_map_of_forall {α β γ : Type} {items : List α} {write : α → β}
    {read? : β → Option γ} {value : α → γ}
    (back : ∀ item ∈ items, read? (write item) = some (value item)) :
    (items.map write).mapM read? = some (items.map value) := by
  induction items with
  | nil => rfl
  | cons item others inductionHypothesis =>
      have rest := inductionHypothesis (fun other member => back other (.tail item member))
      rw [List.map_cons, List.mapM_cons, back item List.mem_cons_self, rest]
      rfl

theorem ofEntries_written (entries : List (String × Document)) :
    ofEntries (entries.map (fun entry => (some entry.1, entry.2))) = .record entries := by
  have keys : (entries.map (fun entry => (some entry.1, entry.2))).mapM (fun entry =>
      entry.1.map (fun key => (key, entry.2))) = some (entries.map id) :=
    mapM_map_of_forall (fun _ _ => rfl)
  rw [ofEntries, keys, List.map_id]

/-- The text of a record with entries starts with the quote of a key. -/
theorem starts_writeEntries {entries : List (String × Document)} (nonempty : entries ≠ []) :
    ∃ others, (writeEntries entries).toList = '"' :: others := by
  match entries with
  | [] => exact absurd rfl nonempty
  | [(key, value)] =>
      rw [toList_writeEntries_single, toList_writeQuoted]
      exact ⟨_, rfl⟩
  | (key, value) :: second :: others =>
      rw [toList_writeEntries_cons, toList_writeQuoted]
      exact ⟨_, rfl⟩

theorem Readable.record {depth : Nat} {entries : List (String × Document)}
    (readable : ∀ entry ∈ entries, Readable depth entry.2) :
    Readable (depth + 1) (.record entries) where
  starts := by
    rw [toList_write_record]
    exact ⟨'\x7b', _, rfl, by decide⟩
  back := by
    intro fuel remaining rest enough levels _
    rw [toList_write_record] at enough ⊢
    simp only [List.cons_append, List.length_cons, List.length_append, List.append_assoc,
      List.nil_append] at enough ⊢
    rw [readDocument?, skipBlanks_of_solid (by decide)]
    by_cases empty : entries = []
    · subst empty
      simp [writeEntries, atDepth_of_levels levels, skipBlanks]
    · obtain ⟨others, written⟩ := starts_writeEntries empty
      obtain ⟨fuel, rfl⟩ : ∃ less, fuel = less + 2 := ⟨fuel - 2, by omega⟩
      have read := readEntries?_writeEntries empty readable (by omega : depth ≤ remaining - 1)
        (by omega : (writeEntries entries).toList.length ≤ fuel) [] rest
      rw [written, List.cons_append] at read ⊢
      simp [skipBlanks_of_solid (show Solid '"' by decide), read, ofEntries_written,
        atDepth_of_levels levels]

/-! ## The whole text -/

theorem Exact.readable {depth : Nat} {document : Document} (exact : Exact depth document) :
    Readable depth document := by
  induction exact with
  | null => exact .null
  | boolean value => exact .boolean value
  | integer fits => exact .integer fits
  | text value => exact .text value
  | list _ inductionHypothesis => exact .list inductionHypothesis
  | record _ inductionHypothesis => exact .record inductionHypothesis

/-- A document that is known exactly is read back from its text. -/
theorem read?_write {depth : Nat} {document : Document} (exact : Exact depth document)
    (levels : depth ≤ nestingLimit) : read? (write document) = some document := by
  have read := exact.readable.back
    (show (write document).toList.length ≤ 2 * (write document).toList.length + 1 by omega)
    levels .nothing
  rw [List.append_nil] at read
  simp [read?, read, skipBlanks]

theorem allValid_of_forall {items : List Document} (valid : ∀ item ∈ items, item.isValid = true) :
    allValid items = true := by
  induction items with
  | nil => rfl
  | cons item others inductionHypothesis =>
      rw [allValid, valid item List.mem_cons_self, Bool.true_and]
      exact inductionHypothesis (fun other member => valid other (.tail item member))

theorem entriesValid_of_forall {entries : List (String × Document)}
    (valid : ∀ entry ∈ entries, entry.2.isValid = true) : entriesValid entries = true := by
  induction entries with
  | nil => rfl
  | cons entry others inductionHypothesis =>
      rw [entriesValid, valid entry List.mem_cons_self, Bool.true_and]
      exact inductionHypothesis (fun other member => valid other (.tail entry member))

/-- Nothing in a document that is known exactly has lost its value. -/
theorem Exact.isValid {depth : Nat} {document : Document} (exact : Exact depth document) :
    document.isValid = true := by
  induction exact with
  | null => rfl
  | boolean value => rfl
  | integer fits => rfl
  | text value => rfl
  | list _ inductionHypothesis => exact allValid_of_forall inductionHypothesis
  | record _ inductionHypothesis => exact entriesValid_of_forall inductionHypothesis

end NovelEngine.Document
