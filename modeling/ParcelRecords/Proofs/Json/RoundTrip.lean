import ParcelRecords.Proofs.Json.Number
import ParcelRecords.Proofs.Json.Regular
import ParcelRecords.Proofs.Json.Strings

/-!
# Indented values are read back

Every regular value that is written over several lines is read back as itself, with all its fields
in their order. The reader passes the line breaks and indentations between the members, and has fuel
enough for two steps at every character.

## Main definitions

* `Json.itemsText`, `Json.fieldsText`: the members of a value as they stand between its brackets

## Main results

* `Json.readsBack_of_isRegular`: a value at any level, with any text behind it
* `Json.read_toIndented`: a whole text
-/

namespace ParcelRecords.Json

/-! ## Layout -/

/-- The items of a list as they stand between its brackets. -/
def itemsText (level : Nat) : List Json → List Char
  | [] => []
  | item :: rest => (indented level item).toList ++ (itemsIndented level rest).toList

/-- A field: its key, a colon, a blank and its value. -/
def fieldText (level : Nat) (field : String × Json) : List Char :=
  (quote field.1).toList ++ ':' :: ' ' :: (indented level field.2).toList

/-- The fields of an object as they stand between its braces. -/
def fieldsText (level : Nat) : List (String × Json) → List Char
  | [] => []
  | field :: rest => fieldText level field ++ (fieldsIndented level rest).toList

/-- The line break and the indentation at a level. -/
def lineChars (level : Nat) : List Char :=
  '\n' :: List.replicate (2 * level) ' '

theorem toList_quote (s : String) :
    (quote s).toList = '"' :: (s.toList.flatMap escape ++ ['"']) := by
  rw [quote, String.toList_ofList, List.cons_append]

/-- A value without members is written the same at every level. -/
theorem indented_atom (level : Nat) {v : Json} (harr : v.kind ≠ .arr) (hobj : v.kind ≠ .obj) :
    indented level v = atomText v := by
  cases v with
  | arr items => exact absurd rfl harr
  | obj fields => exact absurd rfl hobj
  | null => simp [indented]
  | bool b => simp [indented]
  | int i => simp [indented]
  | float x => simp [indented]
  | str s => simp [indented]

theorem toList_indented_arr (level : Nat) {items : List Json} (hne : items ≠ []) :
    (indented level (.arr items)).toList =
      '[' :: (lineChars (level + 1) ++ itemsText (level + 1) items ++ lineChars level ++ [']']) := by
  cases items with
  | nil => exact absurd rfl hne
  | cons item rest => simp [indented, itemsText, lineAt, lineChars]

theorem toList_indented_obj (level : Nat) {fields : List (String × Json)} (hne : fields ≠ []) :
    (indented level (.obj fields)).toList =
      '{' :: (lineChars (level + 1) ++ fieldsText (level + 1) fields ++ lineChars level ++
        ['}']) := by
  cases fields with
  | nil => exact absurd rfl hne
  | cons field rest => simp [indented, fieldsText, fieldText, lineAt, lineChars]

theorem toList_itemsIndented (level : Nat) {items : List Json} (hne : items ≠ []) :
    (itemsIndented level items).toList = ',' :: (lineChars level ++ itemsText level items) := by
  cases items with
  | nil => exact absurd rfl hne
  | cons item rest => simp [itemsIndented, itemsText, lineAt, lineChars]

theorem toList_fieldsIndented (level : Nat) {fields : List (String × Json)} (hne : fields ≠ []) :
    (fieldsIndented level fields).toList = ',' :: (lineChars level ++ fieldsText level fields) := by
  cases fields with
  | nil => exact absurd rfl hne
  | cons field rest => simp [fieldsIndented, fieldsText, fieldText, lineAt, lineChars]

/-! ## Blanks -/

theorem skipBlanks_cons {c : Char} (hc : isBlank c = false) (cs : List Char) :
    skipBlanks (c :: cs) = c :: cs :=
  List.dropWhile_cons_of_neg (by simp [hc])

/-- A line break and an indentation are passed. -/
theorem skipBlanks_lineChars (level : Nat) (cs : List Char) :
    skipBlanks (lineChars level ++ cs) = skipBlanks cs := by
  refine List.dropWhile_append_of_pos fun c hc => ?_
  rcases List.mem_cons.1 hc with rfl | hc
  · rfl
  · rw [List.eq_of_mem_replicate hc]
    rfl

theorem endsNumber_cons {c : Char} (hc : c ∈ [',', '\n']) (rest : List Char) :
    EndsNumber (c :: rest) := by
  rintro d ⟨⟩
  simp only [List.mem_cons, List.not_mem_nil, or_false] at hc
  rcases hc with rfl | rfl
  · decide
  · decide

/-! ## Beginnings -/

/-- A character that a word or a number begins with. -/
def BeginsAtom (c : Char) : Prop :=
  c ∈ ['n', 't', 'f', 'N', 'I', '-'] ∨ c.isDigit = true

theorem BeginsAtom.not_mem {c : Char} (h : BeginsAtom c) {d : Char}
    (hd : d ∈ ['"', '[', '{', ']', ' ', '\t', '\n', '\r']) : c ≠ d := by
  rintro rfl
  simp only [List.mem_cons, List.not_mem_nil, or_false] at hd
  rcases hd with rfl | rfl | rfl | rfl | rfl | rfl | rfl | rfl <;>
    exact absurd h (by unfold BeginsAtom; decide)

theorem BeginsAtom.isBlank_eq_false {c : Char} (h : BeginsAtom c) : isBlank c = false := by
  have hspace : c ≠ ' ' := h.not_mem (by decide)
  have htab : c ≠ '\t' := h.not_mem (by decide)
  have hline : c ≠ '\n' := h.not_mem (by decide)
  have hreturn : c ≠ '\r' := h.not_mem (by decide)
  simp [isBlank, hspace, htab, hline, hreturn]

theorem readValue_atom (fuel : Nat) {c : Char} (hc : BeginsAtom c) (cs : List Char) :
    readValue (fuel + 1) (c :: cs) = readAtom (c :: cs) :=
  readValue.eq_5 _ fuel (fun _ h => hc.not_mem (by decide) (List.cons.inj h).1)
    (fun _ h => hc.not_mem (by decide) (List.cons.inj h).1)
    (fun _ h => hc.not_mem (by decide) (List.cons.inj h).1)

/-- A sign and a digit begin a number. -/
theorem exists_signChars_cons (negative : Bool) {d : Char} (hd : d.isDigit = true)
    (text : List Char) : ∃ c cs, signChars negative ++ d :: text = c :: cs ∧ BeginsAtom c := by
  cases negative with
  | true => exact ⟨'-', d :: text, rfl, .inl (by decide)⟩
  | false => exact ⟨d, text, rfl, .inr hd⟩

theorem exists_toString_cons (i : Int) :
    ∃ c cs, (toString i).toList = c :: cs ∧ BeginsAtom c := by
  obtain ⟨d, ds, hd⟩ := List.exists_cons_of_ne_nil (Nat.toDigits_ne_nil (n := i.natAbs) (b := 10))
  have hdigit : d.isDigit = true :=
    Text.isDigit_of_mem_toDigits (n := i.natAbs) (hd ▸ List.mem_cons_self)
  rw [toList_toString_int, hd]
  exact exists_signChars_cons _ hdigit ds

theorem exists_toText_cons (x : Binary64) :
    ∃ c cs, (x.toText .json).toList = c :: cs ∧ BeginsAtom c := by
  cases x with
  | nan => exact ⟨'N', _, rfl, .inl (by decide)⟩
  | infinite negative =>
    cases negative with
    | true => exact ⟨'-', _, rfl, .inl (by decide)⟩
    | false => exact ⟨'I', _, rfl, .inl (by decide)⟩
  | finite negative r =>
    obtain ⟨digits, lead, hdigits, -, htext⟩ := Binary64.exists_toText_eq .json negative r
    obtain ⟨d, text, hcons, hd⟩ := exists_magnitudeText_cons .json hdigits
    rw [htext, hcons]
    exact exists_signChars_cons negative hd text

/-- A written value begins with no blank and no closing bracket. -/
theorem exists_indented_cons (level : Nat) (v : Json) :
    ∃ c cs, (indented level v).toList = c :: cs ∧ isBlank c = false ∧ c ≠ ']' := by
  -- names and numbers begin like atoms; texts, lists and objects with a sign of their own
  have hatom {text : List Char} (h : ∃ c cs, text = c :: cs ∧ BeginsAtom c) :
      ∃ c cs, text = c :: cs ∧ isBlank c = false ∧ c ≠ ']' := by
    obtain ⟨c, cs, heq, hc⟩ := h
    exact ⟨c, cs, heq, hc.isBlank_eq_false, hc.not_mem (by decide)⟩
  cases v with
  | null =>
    rw [indented_atom level (by decide) (by decide)]
    exact hatom ⟨'n', _, rfl, .inl (by decide)⟩
  | bool b =>
    rw [indented_atom level (by simp [kind]) (by simp [kind])]
    cases b with
    | true => exact hatom ⟨'t', _, rfl, .inl (by decide)⟩
    | false => exact hatom ⟨'f', _, rfl, .inl (by decide)⟩
  | int i =>
    rw [indented_atom level (by simp [kind]) (by simp [kind])]
    exact hatom (exists_toString_cons i)
  | float x =>
    rw [indented_atom level (by simp [kind]) (by simp [kind])]
    exact hatom (exists_toText_cons x)
  | str s =>
    rw [indented_atom level (by simp [kind]) (by simp [kind])]
    exact ⟨'"', _, toList_quote s, rfl, by decide⟩
  | arr items =>
    by_cases hne : items = []
    · subst hne
      rw [indented]
      exact ⟨'[', _, rfl, rfl, by decide⟩
    · exact ⟨'[', _, toList_indented_arr level hne, rfl, by decide⟩
  | obj fields =>
    by_cases hne : fields = []
    · subst hne
      rw [indented]
      exact ⟨'{', _, rfl, rfl, by decide⟩
    · exact ⟨'{', _, toList_indented_obj level hne, rfl, by decide⟩

theorem exists_itemsText_cons (level : Nat) {items : List Json} (hne : items ≠ []) :
    ∃ c cs, itemsText level items = c :: cs ∧ isBlank c = false ∧ c ≠ ']' := by
  cases items with
  | nil => exact absurd rfl hne
  | cons item rest =>
    obtain ⟨c, cs, heq, hblank, hclose⟩ := exists_indented_cons level item
    exact ⟨c, _, by rw [itemsText, heq, List.cons_append], hblank, hclose⟩

theorem exists_fieldsText_cons (level : Nat) {fields : List (String × Json)} (hne : fields ≠ []) :
    ∃ cs, fieldsText level fields = '"' :: cs := by
  cases fields with
  | nil => exact absurd rfl hne
  | cons field rest => exact ⟨_, by rw [fieldsText, fieldText, toList_quote]; rfl⟩

/-! ## Members -/

/-- A value is read back at every level and in front of every text, with fuel for two steps at every
character. -/
def ReadsBack (v : Json) : Prop :=
  ∀ level rest fuel, EndsNumber rest → 2 * (indented level v).toList.length + 1 ≤ fuel →
    readValue fuel ((indented level v).toList ++ rest) = .ok (v, rest)

section Step

variable (level fuel : Nat) {tail : List Char} (htail : EndsNumber tail)

include htail

/-- Reading an item goes on with what stands behind it. -/
theorem readItems_item {item : Json} (hitem : item.ReadsBack)
    (hfuel : 2 * (indented level item).toList.length + 1 ≤ fuel) :
    readItems (fuel + 1) ((indented level item).toList ++ tail) =
      match skipBlanks tail with
      | ']' :: rest => .ok ([item], rest)
      | ',' :: rest => (readItems fuel (skipBlanks rest)).map fun r => (item :: r.1, r.2)
      | rest => malformedAt rest := by
  rw [readItems.eq_2, hitem level tail fuel htail hfuel]
  rfl

/-- Reading a field goes on with what stands behind it. -/
theorem readFields_field {field : String × Json} (hvalue : field.2.ReadsBack)
    (hfuel : 2 * (fieldText level field).length + 1 ≤ fuel) :
    readFields (fuel + 1) (fieldText level field ++ tail) =
      match skipBlanks tail with
      | '}' :: rest => .ok ([field], rest)
      | ',' :: rest => (readFields fuel (skipBlanks rest)).map fun r => (field :: r.1, r.2)
      | rest => malformedAt rest := by
  obtain ⟨key, value⟩ := field
  obtain ⟨c, cs, hcons, hblank, -⟩ := exists_indented_cons level value
  have hlength : (indented level value).toList.length ≤ (fieldText level (key, value)).length := by
    simp only [fieldText, List.length_append, List.length_cons]
    omega
  have hread : readValue fuel ((indented level value).toList ++ tail) = .ok (value, tail) :=
    hvalue level tail fuel htail (show 2 * (indented level value).toList.length + 1 ≤ fuel by omega)
  have hblanks : skipBlanks (' ' :: ((indented level value).toList ++ tail)) =
      (indented level value).toList ++ tail := by
    rw [hcons, List.cons_append]
    exact (List.dropWhile_cons_of_pos rfl).trans (skipBlanks_cons hblank _)
  have htext : fieldText level (key, value) ++ tail =
      '"' :: (key.toList.flatMap escape ++
        '"' :: ':' :: ' ' :: ((indented level value).toList ++ tail)) := by
    simp [fieldText, toList_quote]
  rw [htext, readFields.eq_2, readString_quoted, ok_bind]
  simp only [skipBlanks_cons (show isBlank ':' = false from rfl), hblanks, String.ofList_toList]
  rw [hread]
  rfl

end Step

/-- **The items of a list** are read back up to its closing bracket, if each item is. -/
theorem readItems_itemsText (level outer : Nat) (rest : List Char) {items : List Json}
    (hne : items ≠ []) (hitems : ∀ item ∈ items, item.ReadsBack) (fuel : Nat)
    (hfuel : 2 * (itemsText level items).length + 2 ≤ fuel) :
    readItems fuel (itemsText level items ++ (lineChars outer ++ ']' :: rest)) =
      .ok (items, rest) := by
  induction items generalizing fuel with
  | nil => exact absurd rfl hne
  | cons item more ih =>
    obtain ⟨fuel, rfl⟩ : ∃ n, fuel = n + 1 := ⟨fuel - 1, by omega⟩
    have hitem := hitems item List.mem_cons_self
    rw [itemsText, List.length_append] at hfuel
    rw [itemsText, List.append_assoc]
    by_cases hnil : more = []
    · -- the last item, before the line of the closing bracket
      subst hnil
      have hclose : skipBlanks (lineChars outer ++ ']' :: rest) = ']' :: rest := by
        rw [skipBlanks_lineChars, skipBlanks_cons rfl]
      have htail : EndsNumber (lineChars outer ++ ']' :: rest) := endsNumber_cons (by decide) _
      have hread := readItems_item level fuel htail hitem (by omega)
      rw [hclose] at hread
      rw [itemsIndented]
      exact hread
    · -- a comma, and the next item on the next line
      have htext := toList_itemsIndented level hnil
      obtain ⟨c, cs, hcons, hblank, -⟩ := exists_itemsText_cons level hnil
      have hnext : skipBlanks (lineChars level ++ itemsText level more ++
          (lineChars outer ++ ']' :: rest)) =
          itemsText level more ++ (lineChars outer ++ ']' :: rest) := by
        rw [List.append_assoc, skipBlanks_lineChars, hcons, List.cons_append,
          skipBlanks_cons hblank]
      have hlength := congrArg List.length htext
      rw [List.length_cons, List.length_append] at hlength
      have htail : EndsNumber (',' :: (lineChars level ++ itemsText level more ++
          (lineChars outer ++ ']' :: rest))) := endsNumber_cons (by decide) _
      have hread := readItems_item level fuel htail hitem (by omega)
      have hrest := ih hnil (fun item hitem => hitems item (List.mem_cons_of_mem _ hitem)) fuel
        (by omega)
      rw [skipBlanks_cons rfl] at hread
      simp only [hnext, hrest] at hread
      rw [htext]
      exact hread

/-- **The fields of an object** are read back up to its closing brace, if each value is. -/
theorem readFields_fieldsText (level outer : Nat) (rest : List Char)
    {fields : List (String × Json)} (hne : fields ≠ [])
    (hfields : ∀ f ∈ fields, f.2.ReadsBack) (fuel : Nat)
    (hfuel : 2 * (fieldsText level fields).length + 2 ≤ fuel) :
    readFields fuel (fieldsText level fields ++ (lineChars outer ++ '}' :: rest)) =
      .ok (fields, rest) := by
  induction fields generalizing fuel with
  | nil => exact absurd rfl hne
  | cons field more ih =>
    obtain ⟨fuel, rfl⟩ : ∃ n, fuel = n + 1 := ⟨fuel - 1, by omega⟩
    have hvalue := hfields field List.mem_cons_self
    rw [fieldsText, List.length_append] at hfuel
    rw [fieldsText, List.append_assoc]
    by_cases hnil : more = []
    · -- the last field, before the line of the closing brace
      subst hnil
      have hclose : skipBlanks (lineChars outer ++ '}' :: rest) = '}' :: rest := by
        rw [skipBlanks_lineChars, skipBlanks_cons rfl]
      have htail : EndsNumber (lineChars outer ++ '}' :: rest) := endsNumber_cons (by decide) _
      have hread := readFields_field level fuel htail hvalue (by omega)
      rw [hclose] at hread
      rw [fieldsIndented]
      exact hread
    · -- a comma, and the next field on the next line
      have htext := toList_fieldsIndented level hnil
      obtain ⟨cs, hcons⟩ := exists_fieldsText_cons level hnil
      have hnext : skipBlanks (lineChars level ++ fieldsText level more ++
          (lineChars outer ++ '}' :: rest)) =
          fieldsText level more ++ (lineChars outer ++ '}' :: rest) := by
        rw [List.append_assoc, skipBlanks_lineChars, hcons, List.cons_append,
          skipBlanks_cons rfl]
      have hlength := congrArg List.length htext
      rw [List.length_cons, List.length_append] at hlength
      have htail : EndsNumber (',' :: (lineChars level ++ fieldsText level more ++
          (lineChars outer ++ '}' :: rest))) := endsNumber_cons (by decide) _
      have hread := readFields_field level fuel htail hvalue (by omega)
      have hrest := ih hnil (fun f hf => hfields f (List.mem_cons_of_mem _ hf)) fuel (by omega)
      rw [skipBlanks_cons rfl] at hread
      simp only [hnext, hrest] at hread
      rw [htext]
      exact hread

/-! ## Values -/

/-- A word or a number is read back where it begins and ends like one. -/
theorem readsBack_atom {v : Json} (harr : v.kind ≠ .arr) (hobj : v.kind ≠ .obj)
    (hbegins : ∃ c cs, (atomText v).toList = c :: cs ∧ BeginsAtom c)
    (hread : ∀ rest, EndsNumber rest → readAtom ((atomText v).toList ++ rest) = .ok (v, rest)) :
    v.ReadsBack := by
  intro level rest fuel hrest hfuel
  obtain ⟨fuel, rfl⟩ : ∃ n, fuel = n + 1 := ⟨fuel - 1, by omega⟩
  obtain ⟨c, cs, htext, hc⟩ := hbegins
  have hatom := hread rest hrest
  rw [htext, List.cons_append] at hatom
  rw [indented_atom level harr hobj, htext, List.cons_append, readValue_atom fuel hc, hatom]

theorem readsBack_str (s : String) : (Json.str s).ReadsBack := by
  intro level rest fuel _ hfuel
  obtain ⟨fuel, rfl⟩ : ∃ n, fuel = n + 1 := ⟨fuel - 1, by omega⟩
  have htext : (indented level (.str s)).toList ++ rest =
      '"' :: (s.toList.flatMap escape ++ '"' :: rest) := by
    rw [indented_atom level (by simp [kind]) (by simp [kind]), atomText, toList_quote]
    simp
  rw [htext, readValue.eq_2, readString_quoted]
  simp [Except.map]

theorem readsBack_arr {items : List Json} (hitems : ∀ item ∈ items, item.ReadsBack) :
    (Json.arr items).ReadsBack := by
  intro level rest fuel _ hfuel
  obtain ⟨fuel, rfl⟩ : ∃ n, fuel = n + 1 := ⟨fuel - 1, by omega⟩
  by_cases hne : items = []
  · subst hne
    rw [indented]
    rfl
  · have htext := toList_indented_arr level hne
    have hlength := congrArg List.length htext
    simp only [List.length_cons, List.length_append] at hlength
    obtain ⟨c, cs, hcons, hblank, hclose⟩ := exists_itemsText_cons (level + 1) hne
    have hread := readItems_itemsText (level + 1) level rest hne hitems fuel (by omega)
    have hblanks : skipBlanks (lineChars (level + 1) ++ itemsText (level + 1) items ++
        lineChars level ++ [']'] ++ rest) =
        itemsText (level + 1) items ++ (lineChars level ++ ']' :: rest) := by
      simp only [List.append_assoc]
      rw [skipBlanks_lineChars, hcons, List.cons_append, skipBlanks_cons hblank]
      rfl
    rw [htext, List.cons_append, readValue.eq_3, hblanks]
    split
    · -- the first item does not close the list
      rename_i hnil
      rw [hcons, List.cons_append] at hnil
      exact absurd (List.cons.inj hnil).1 hclose
    · rw [hread]
      rfl

theorem readsBack_obj {fields : List (String × Json)} (hkeys : (fields.map Prod.fst).Nodup)
    (hfields : ∀ f ∈ fields, f.2.ReadsBack) : (Json.obj fields).ReadsBack := by
  intro level rest fuel _ hfuel
  obtain ⟨fuel, rfl⟩ : ∃ n, fuel = n + 1 := ⟨fuel - 1, by omega⟩
  by_cases hne : fields = []
  · subst hne
    rw [indented]
    rfl
  · have htext := toList_indented_obj level hne
    have hlength := congrArg List.length htext
    simp only [List.length_cons, List.length_append] at hlength
    obtain ⟨cs, hcons⟩ := exists_fieldsText_cons (level + 1) hne
    have hread := readFields_fieldsText (level + 1) level rest hne hfields fuel (by omega)
    have hblanks : skipBlanks (lineChars (level + 1) ++ fieldsText (level + 1) fields ++
        lineChars level ++ ['}'] ++ rest) =
        fieldsText (level + 1) fields ++ (lineChars level ++ '}' :: rest) := by
      simp only [List.append_assoc]
      rw [skipBlanks_lineChars, hcons, List.cons_append, skipBlanks_cons rfl]
      rfl
    rw [htext, List.cons_append, readValue.eq_4, hblanks]
    split
    · -- a key does not close the object
      rename_i hnil
      rw [hcons, List.cons_append] at hnil
      exact absurd (List.cons.inj hnil).1 (by decide)
    · rw [hread]
      -- no field is written over, since the keys are distinct
      simp only [Except.map, OrderedMap.entries_ofList_of_nodup hkeys]

/-- **Every regular value is read back**, whatever its level and whatever stands behind it. -/
theorem readsBack_of_isRegular {v : Json} (hv : v.IsRegular) : v.ReadsBack := by
  induction hv with
  | null =>
    refine readsBack_atom (by decide) (by decide) ?_ fun rest _ => rfl
    exact ⟨'n', _, rfl, .inl (by decide)⟩
  | bool b =>
    refine readsBack_atom (by simp [kind]) (by simp [kind]) ?_ fun rest _ => ?_
    · cases b with
      | true => exact ⟨'t', _, rfl, .inl (by decide)⟩
      | false => exact ⟨'f', _, rfl, .inl (by decide)⟩
    · cases b <;> rfl
  | int hlength =>
    exact readsBack_atom (by simp [kind]) (by simp [kind]) (exists_toString_cons _)
      fun rest hrest => readAtom_int hlength hrest
  | float x =>
    exact readsBack_atom (by simp [kind]) (by simp [kind]) (exists_toText_cons x)
      fun rest hrest => readAtom_float x hrest
  | str s => exact readsBack_str s
  | arr hitems ih => exact readsBack_arr ih
  | obj hkeys hfields ih => exact readsBack_obj hkeys ih

/-- **A regular value written over several lines** is read back from its text. -/
theorem read_toIndented {v : Json} (hv : v.IsRegular) : read (v.toIndented ++ "\n") = .ok v := by
  obtain ⟨c, cs, hcons, hblank, -⟩ := exists_indented_cons 0 v
  have hcs : skipBlanks (v.toIndented ++ "\n").toList = (indented 0 v).toList ++ ['\n'] := by
    rw [toIndented, String.toList_append, hcons]
    exact skipBlanks_cons hblank _
  have hread := readsBack_of_isRegular hv 0 ['\n'] (2 * ((indented 0 v).toList ++ ['\n']).length + 1)
    (endsNumber_cons (by decide) _) (by rw [List.length_append]; omega)
  rw [read, hcs]
  simp only [hread]
  rfl

end ParcelRecords.Json
