import ParcelRecords.Json.Text
import ParcelRecords.Json.Writable
import ParcelRecords.Proofs.Json.Number
import ParcelRecords.Proofs.Text.Writable

/-!
# Printed values can be written

The text of a value holds no half of a surrogate pair if none of its keys and texts does: all that
is printed around them is ASCII, and so are numbers. A value that is listed quotes its texts, so what
is listed can be written whatever the value holds.

## Main results

* `Json.fieldsWritable_iff`: fields, one by one
* `Binary64.isWritable_toText`: numbers
* `Json.isWritable_toIndented`: values over several lines
* `Json.isWritable_listed`, `Json.isWritable_toText`: values as texts
-/

namespace ParcelRecords

open Text (NoHalf noHalf_append_iff noHalf_cons_iff noHalf_nil noHalf_replicate noHalf_of_isDigit
  noHalf_toDigits)

/-! ## Numbers -/

namespace Binary64

theorem noHalf_magnitudeText (style : NumberStyle) {digits : List Char} (h : NoHalf digits)
    (lead : Int) : NoHalf (magnitudeText style digits lead) := by
  have hzeros (n : Nat) : NoHalf (List.replicate n '0') := noHalf_replicate (by decide) n
  have htake (n : Nat) : NoHalf (digits.take n) := h.of_subset (List.take_subset n digits)
  have hdrop (n : Nat) : NoHalf (digits.drop n) := h.of_subset (List.drop_subset n digits)
  have hzero : Text.isHalf '0' = false := by decide
  have hpoint : Text.isHalf '.' = false := by decide
  have hletter : Text.isHalf 'e' = false := by decide
  have hsign : Text.isHalf (if lead < 0 then '-' else '+') = false := by split <;> decide
  have hpower : NoHalf (Nat.toDigits 10 lead.natAbs) :=
    noHalf_toDigits (by decide) (by decide) _
  have hfraction : NoHalf (if digits.length = 1 then [] else '.' :: digits.drop 1) := by
    split
    · exact noHalf_nil
    · exact noHalf_cons_iff.2 ⟨hpoint, hdrop 1⟩
  unfold magnitudeText
  dsimp only
  split
  · -- written positionally: below one, whole, or with a point among the digits
    split
    · simp [hzeros, hzero, hpoint, h]
    · split
      · simp [hzeros, hzero, hpoint, h]
      · simp [htake, hdrop, hpoint]
  · simp only [noHalf_append_iff, noHalf_cons_iff]
    exact ⟨⟨htake 1, hfraction⟩, hletter, hsign, hzeros _, hpower⟩

/-- **The text of a number** can be written, if the names of the special numbers can. -/
theorem isWritable_toText {style : NumberStyle} (hnan : Text.isWritable style.nan = true)
    (hinfinity : Text.isWritable style.infinity = true) (x : Binary64) :
    Text.isWritable (x.toText style) = true := by
  cases x with
  | nan => exact hnan
  | infinite negative =>
    rw [toText]
    split
    · rw [Text.isWritable_append, hinfinity]
      decide
    · exact hinfinity
  | finite negative r =>
    obtain ⟨digits, lead, hdigits, -, htext⟩ := exists_toText_eq style negative r
    rw [Text.isWritable_iff, htext, noHalf_append_iff]
    refine ⟨?_, noHalf_magnitudeText style (noHalf_of_isDigit hdigits.isDigit) lead⟩
    split <;> decide

end Binary64

namespace Json

theorem isWritable_toString_int (i : Int) : Text.isWritable (toString i) = true := by
  rw [Text.isWritable_iff, toList_toString_int, noHalf_append_iff]
  refine ⟨?_, noHalf_toDigits (by decide) (by decide) _⟩
  unfold signChars
  split <;> decide

/-! ## Values -/

theorem fieldsWritable_iff {fields : List (String × Json)} :
    fieldsWritable fields = true ↔
      ∀ f ∈ fields, Text.isWritable f.1 = true ∧ f.2.isWritable = true := by
  induction fields with
  | nil => simp [fieldsWritable]
  | cons f rest ih =>
    rw [fieldsWritable, Bool.and_eq_true, Bool.and_eq_true, ih, List.forall_mem_cons]

/-! ## Printed values

Over several lines a text is printed as it is, but for what has to be escaped. So a value that is
printed in this way holds a half only where its keys and texts do, and the recursion is that of
the printer. -/

/-- What a character is escaped with is ASCII. -/
theorem noHalf_escape {c : Char} (h : Text.isHalf c = false) : NoHalf (escape c) := by
  unfold escape
  split_ifs
  -- the escapes of two characters are all spelt out
  any_goals decide
  · simp only [noHalf_cons_iff]
    exact ⟨by decide, by decide, Text.noHalf_hexNumeral _ _⟩
  · exact noHalf_cons_iff.2 ⟨h, noHalf_nil⟩

theorem isWritable_quote {s : String} (h : Text.isWritable s = true) :
    Text.isWritable (quote s) = true := by
  rw [quote, Text.isWritable_ofList_iff]
  simp only [List.cons_append, noHalf_cons_iff, noHalf_append_iff, Text.noHalf_flatMap_iff]
  exact ⟨by decide, fun c hc => noHalf_escape (Text.isWritable_iff.1 h c hc), by decide, noHalf_nil⟩

theorem isWritable_atomText {v : Json} (h : v.isWritable = true) :
    Text.isWritable v.atomText = true := by
  cases v with
  | bool b => cases b <;> decide
  | int i => exact isWritable_toString_int i
  | float x => exact x.isWritable_toText (by decide) (by decide)
  | str s => exact isWritable_quote h
  | null => decide
  | arr items =>
    rw [atomText]
    decide
  | obj fields =>
    rw [atomText]
    decide

theorem isWritable_lineAt (level : Nat) : Text.isWritable (lineAt level) = true := by
  rw [lineAt, Text.isWritable_ofList_iff, noHalf_cons_iff]
  exact ⟨by decide, noHalf_replicate (by decide) _⟩

mutual

theorem isWritable_indented (level : Nat) (v : Json) (h : v.isWritable = true) :
    Text.isWritable (indented level v) = true := by
  match v with
  | .arr [] =>
    rw [indented]
    decide
  | .arr (item :: rest) =>
    rw [isWritable, areWritable, Bool.and_eq_true] at h
    have hitem := isWritable_indented (level + 1) item h.1
    have hrest := isWritable_itemsIndented (level + 1) rest h.2
    simp only [indented, Text.isWritable_append, hitem, hrest, isWritable_lineAt, Bool.and_true]
    decide
  | .obj [] =>
    rw [indented]
    decide
  | .obj ((key, value) :: rest) =>
    rw [isWritable, fieldsWritable, Bool.and_eq_true, Bool.and_eq_true] at h
    have hkey := isWritable_quote h.1.1
    have hvalue := isWritable_indented (level + 1) value h.1.2
    have hrest := isWritable_fieldsIndented (level + 1) rest h.2
    simp only [indented, Text.isWritable_append, hkey, hvalue, hrest, isWritable_lineAt,
      Bool.and_true]
    decide
  | .null => exact isWritable_atomText h
  | .bool b => exact isWritable_atomText h
  | .int i => exact isWritable_atomText h
  | .float x => exact isWritable_atomText h
  | .str s => exact isWritable_atomText h

theorem isWritable_itemsIndented (level : Nat) (items : List Json)
    (h : areWritable items = true) : Text.isWritable (itemsIndented level items) = true := by
  match items with
  | [] => rfl
  | item :: rest =>
    rw [areWritable, Bool.and_eq_true] at h
    have hitem := isWritable_indented level item h.1
    have hrest := isWritable_itemsIndented level rest h.2
    simp only [itemsIndented, Text.isWritable_append, hitem, hrest, isWritable_lineAt,
      Bool.and_true]
    decide

theorem isWritable_fieldsIndented (level : Nat) (fields : List (String × Json))
    (h : fieldsWritable fields = true) : Text.isWritable (fieldsIndented level fields) = true := by
  match fields with
  | [] => rfl
  | (key, value) :: rest =>
    rw [fieldsWritable, Bool.and_eq_true, Bool.and_eq_true] at h
    have hkey := isWritable_quote h.1.1
    have hvalue := isWritable_indented level value h.1.2
    have hrest := isWritable_fieldsIndented level rest h.2
    simp only [fieldsIndented, Text.isWritable_append, hkey, hvalue, hrest, isWritable_lineAt,
      Bool.and_true]
    decide

end

/-- **A value over several lines** can be written if the value can. -/
theorem isWritable_toIndented {v : Json} (h : v.isWritable = true) :
    Text.isWritable v.toIndented = true :=
  isWritable_indented 0 v h

/-! ## Values as texts

A text by itself is shown as it is. Inside a list or an object it is quoted, and no quoted text holds
a half; so what is listed needs no condition. -/

theorem isWritable_commaSeparated {members : List String}
    (h : ∀ m ∈ members, Text.isWritable m = true) :
    Text.isWritable (commaSeparated members) = true := by
  induction members using commaSeparated.induct with
  | case1 => decide
  | case2 m => exact h m List.mem_cons_self
  | case3 m rest hrest ih =>
    rw [commaSeparated, Text.isWritable_append, Text.isWritable_append, h m List.mem_cons_self,
      ih fun m hm => h m (List.mem_cons_of_mem _ hm)]
    · decide
    · exact hrest

mutual

/-- **A listed value** can be written, whatever it holds: its texts are quoted. -/
theorem isWritable_listed (v : Json) : Text.isWritable v.listed = true := by
  match v with
  | .null => decide
  | .bool b => cases b <;> decide
  | .int i => exact isWritable_toString_int i
  | .float x => exact x.isWritable_toText (by decide) (by decide)
  | .str s => exact Text.isWritable_quoted s
  | .arr items =>
    have hitems := isWritable_commaSeparated (isWritable_listedItems items)
    simp only [listed, Text.isWritable_append, hitems, Bool.and_true]
    decide
  | .obj fields =>
    have hfields := isWritable_commaSeparated (isWritable_listedFields fields)
    simp only [listed, Text.isWritable_append, hfields, Bool.and_true]
    decide

theorem isWritable_listedItems (items : List Json) :
    ∀ m ∈ listedItems items, Text.isWritable m = true := by
  match items with
  | [] => simp [listedItems]
  | item :: rest =>
    rw [listedItems, List.forall_mem_cons]
    exact ⟨isWritable_listed item, isWritable_listedItems rest⟩

theorem isWritable_listedFields (fields : List (String × Json)) :
    ∀ m ∈ listedFields fields, Text.isWritable m = true := by
  match fields with
  | [] => simp [listedFields]
  | (key, value) :: rest =>
    rw [listedFields, List.forall_mem_cons]
    refine ⟨?_, isWritable_listedFields rest⟩
    simp only [Text.isWritable_append, Text.isWritable_quoted, isWritable_listed value,
      Bool.and_true]
    decide

end

/-- **A value by itself** can be written if the value can. -/
theorem isWritable_toText {v : Json} (h : v.isWritable = true) :
    Text.isWritable v.toText = true := by
  cases v with
  | str s => exact h
  | _ => exact isWritable_listed _

end Json

end ParcelRecords
