import ParcelRecords.Json.Printer
import ParcelRecords.Json.Reader
import ParcelRecords.Proofs.Binary64.Digits

/-!
# Written numbers are read back

Every number that is written as JSON is read back as itself: integers by their digits, binary
numbers since each of the written forms has the digits and the exponent that stand for the number.

## Main definitions

* `Json.EndsNumber`: a text that no number goes on into

## Main results

* `Json.readNumber_integer`, `Json.readNumber_fraction`, `Json.readNumber_exponent`: the three forms
  of numbers
* `Json.readNumber_magnitudeText`: the text of a magnitude, in all its forms
* `Json.readAtom_int`, `Json.readAtom_float`: whole numbers with their signs
-/

namespace ParcelRecords.Json

open Binary64 (Significand lastPower)

/-! ## Digits -/

/-- A text that no digits go on into. -/
def EndsDigits (rest : List Char) : Prop :=
  ∀ c ∈ rest.head?, c.isDigit = false

/-- A text that no number goes on into. -/
def EndsNumber (rest : List Char) : Prop :=
  ∀ c ∈ rest.head?, c.isDigit = false ∧ c ≠ '.' ∧ c ≠ 'e' ∧ c ≠ 'E'

theorem EndsNumber.endsDigits {rest : List Char} (h : EndsNumber rest) : EndsDigits rest :=
  fun c hc => (h c hc).1

theorem endsDigits_cons {c : Char} (hc : c.isDigit = false) (rest : List Char) :
    EndsDigits (c :: rest) := by
  rintro d ⟨⟩
  exact hc

section Parts

variable {digits rest : List Char} (hdigits : ∀ d ∈ digits, d.isDigit = true)
  (hne : digits ≠ [])

include hdigits hne

/-- Digits in front of the point are read up to their end, a zero only by itself. -/
theorem readWhole_append (hzero : digits.head? = some '0' → digits = ['0'])
    (hrest : EndsDigits rest) : readWhole (digits ++ rest) = some (digits, rest) := by
  cases digits with
  | nil => exact absurd rfl hne
  | cons d ds =>
    by_cases hd : d = '0'
    · subst hd
      obtain ⟨rfl⟩ : ds = [] := (List.cons.inj (hzero rfl)).2
      rfl
    · have hdigit : d.isDigit = true := hdigits d List.mem_cons_self
      have htake := Text.takeWhile_isDigit_append hdigits hrest
      have hdrop := Text.dropWhile_isDigit_append hdigits hrest
      rw [List.cons_append] at htake hdrop ⊢
      rw [readWhole.eq_def]
      simp [hdigit, htake, hdrop]

theorem readFraction_append (hrest : EndsDigits rest) :
    readFraction ('.' :: (digits ++ rest)) = some (digits, rest) := by
  cases digits with
  | nil => exact absurd rfl hne
  | cons d ds =>
    have hdigit : d.isDigit = true := hdigits d List.mem_cons_self
    have htake := Text.takeWhile_isDigit_append hdigits hrest
    have hdrop := Text.dropWhile_isDigit_append hdigits hrest
    rw [List.cons_append] at htake hdrop ⊢
    simp [readFraction, hdigit, htake, hdrop]

theorem readExponent_append (negative : Bool) (hrest : EndsDigits rest) :
    readExponent ('e' :: (if negative then '-' else '+') :: (digits ++ rest)) =
      some (if negative then -(Text.decimalValue digits : Int) else Text.decimalValue digits,
        rest) := by
  have htake := Text.takeWhile_isDigit_append hdigits hrest
  have hdrop := Text.dropWhile_isDigit_append hdigits hrest
  cases digits with
  | nil => exact absurd rfl hne
  | cons d ds =>
    rw [List.cons_append] at htake hdrop ⊢
    cases negative <;> simp [readExponent, readPower, htake, hdrop]

end Parts

theorem readFraction_of_endsNumber {rest : List Char} (h : EndsNumber rest) :
    readFraction rest = none := by
  cases rest with
  | nil => rfl
  | cons c rest =>
    have hc : c ≠ '.' := (h c rfl).2.1
    unfold readFraction
    split
    · rename_i heq
      exact absurd (List.cons.inj heq).1 hc
    · rfl

theorem readExponent_of_endsNumber {rest : List Char} (h : EndsNumber rest) :
    readExponent rest = none := by
  cases rest with
  | nil => rfl
  | cons c rest =>
    obtain ⟨-, -, he, hE⟩ := h c rfl
    simp [readExponent, he, hE]

/-! ## Numbers after their sign -/

section Forms

variable {whole rest : List Char} (negative : Bool) (hwhole : ∀ d ∈ whole, d.isDigit = true)
  (hne : whole ≠ []) (hzero : whole.head? = some '0' → whole = ['0'])

include hwhole hne hzero

/-- **An integer** is read back from its digits, unless there are too many of them. -/
theorem readNumber_integer (hlength : whole.length ≤ maxIntDigits) (hrest : EndsNumber rest) :
    readNumber negative (whole ++ rest) =
      .ok (.int (if negative then -(Text.decimalValue whole : Int) else Text.decimalValue whole),
        rest) := by
  have hshort : ¬maxIntDigits < whole.length := Nat.not_lt.2 hlength
  simp [readNumber, readWhole_append hwhole hne hzero hrest.endsDigits,
    readFraction_of_endsNumber hrest, readExponent_of_endsNumber hrest, hshort]

variable {places : List Char} (hplaces : ∀ d ∈ places, d.isDigit = true) (hpoint : places ≠ [])

include hplaces hpoint

/-- **A fraction** is read as its digits and the number of those behind the point. -/
theorem readNumber_fraction (hrest : EndsNumber rest) :
    readNumber negative (whole ++ '.' :: (places ++ rest)) =
      .ok (.float (Binary64.ofDecimal negative (Text.decimalValue (whole ++ places))
        (-places.length)), rest) := by
  have hread := readWhole_append hwhole hne hzero
    (endsDigits_cons (c := '.') rfl (places ++ rest))
  simp [readNumber, hread, readFraction_append hplaces hpoint hrest.endsDigits,
    readExponent_of_endsNumber hrest]

end Forms

/-- **A number with an exponent**, with or without digits behind the point. -/
theorem readNumber_exponent (negative : Bool) {d : Char} {places power rest : List Char}
    (hd : d.isDigit = true) (hplaces : ∀ p ∈ places, p.isDigit = true)
    (hpower : ∀ p ∈ power, p.isDigit = true) (hne : power ≠ []) (below : Bool)
    (hrest : EndsDigits rest) :
    readNumber negative (d :: (if places = [] then [] else '.' :: places) ++
        'e' :: (if below then '-' else '+') :: (power ++ rest)) =
      .ok (.float (Binary64.ofDecimal negative (Text.decimalValue (d :: places))
        ((if below then -(Text.decimalValue power : Int) else Text.decimalValue power) -
          places.length)), rest) := by
  have hone : ∀ p ∈ [d], p.isDigit = true := by simpa using hd
  have hzero : [d].head? = some '0' → [d] = ['0'] := by simp
  have hexponent := readExponent_append hpower hne below hrest
  by_cases hnil : places = []
  · subst hnil
    have hwhole := readWhole_append hone (List.cons_ne_nil d [])
      hzero (endsDigits_cons (c := 'e') rfl ((if below then '-' else '+') :: (power ++ rest)))
    rw [List.singleton_append] at hwhole
    simp [readNumber, hwhole, readFraction, hexponent]
  · have hwhole := readWhole_append hone (List.cons_ne_nil d []) hzero
      (endsDigits_cons (c := '.') rfl
        (places ++ 'e' :: (if below then '-' else '+') :: (power ++ rest)))
    have hfraction := readFraction_append hplaces hnil
      (endsDigits_cons (c := 'e') rfl ((if below then '-' else '+') :: (power ++ rest)))
    rw [List.singleton_append] at hwhole
    simp [readNumber, hnil, hwhole, hfraction, hexponent]

/-! ## Magnitudes -/

section Magnitude

variable {digits rest : List Char} {lead : Int} (negative : Bool) (h : Significand digits lead)

theorem isDigit_of_mem_replicate {n : Nat} {d : Char} (hd : d ∈ List.replicate n '0') :
    d.isDigit = true := by
  rw [List.eq_of_mem_replicate hd]
  rfl

include h

/-- A magnitude below one: a zero, the point, zeros and the digits. -/
theorem readNumber_below_one (hlead : lead < 0) (hrest : EndsNumber rest) :
    readNumber negative ('0' :: '.' :: List.replicate (-lead - 1).toNat '0' ++ digits ++ rest) =
      .ok (.float (Binary64.ofDecimal negative (Text.decimalValue digits)
        (lastPower digits lead)), rest) := by
  have hplaces : ∀ d ∈ List.replicate (-lead - 1).toNat '0' ++ digits, d.isDigit = true := by
    intro d hd
    rcases List.mem_append.1 hd with hd | hd
    · exact isDigit_of_mem_replicate hd
    · exact h.isDigit d hd
  have hpoint : List.replicate (-lead - 1).toNat '0' ++ digits ≠ [] :=
    List.append_ne_nil_of_right_ne_nil _ h.ne_nil
  have hwhole : ∀ d ∈ ['0'], d.isDigit = true := List.forall_mem_singleton.2 rfl
  have hread := readNumber_fraction negative hwhole (List.cons_ne_nil _ _) (fun _ => rfl) hplaces
    hpoint hrest
  have hvalue : Text.decimalValue (['0'] ++ (List.replicate (-lead - 1).toNat '0' ++ digits)) =
      Text.decimalValue digits := by
    rw [← List.append_assoc, List.singleton_append, ← List.replicate_succ,
      Text.decimalValue_zeros_append]
  have hpower : -((List.replicate (-lead - 1).toNat '0' ++ digits).length : Int) =
      lastPower digits lead := by
    rw [List.length_append, List.length_replicate, lastPower]
    omega
  rw [hvalue, hpower] at hread
  simpa using hread

/-- A magnitude without places: the digits, zeros up to the point and a zero behind it. -/
theorem readNumber_without_places (hlength : (digits.length : Int) ≤ lead + 1)
    (hrest : EndsNumber rest) :
    readNumber negative
        (digits ++ List.replicate (lead.toNat + 1 - digits.length) '0' ++ ['.', '0'] ++ rest) =
      .ok (.float (Binary64.ofDecimal negative (Text.decimalValue digits)
        (lastPower digits lead)), rest) := by
  have hwhole : ∀ d ∈ digits ++ List.replicate (lead.toNat + 1 - digits.length) '0',
      d.isDigit = true := by
    intro d hd
    rcases List.mem_append.1 hd with hd | hd
    · exact h.isDigit d hd
    · exact isDigit_of_mem_replicate hd
  -- only zero itself begins with a zero, and no zeros are added to it
  have hzero : (digits ++ List.replicate (lead.toNat + 1 - digits.length) '0').head? = some '0' →
      digits ++ List.replicate (lead.toNat + 1 - digits.length) '0' = ['0'] := by
    intro hhead
    have hfirst : digits.head? = some '0' := by
      obtain ⟨d, ds, hd⟩ := List.exists_cons_of_ne_nil h.ne_nil
      rw [hd] at hhead ⊢
      exact hhead
    obtain ⟨rfl, rfl⟩ := h.zero hfirst
    rfl
  have hplaces : ∀ d ∈ ['0'], d.isDigit = true := List.forall_mem_singleton.2 rfl
  have hread := readNumber_fraction negative hwhole
    (List.append_ne_nil_of_left_ne_nil h.ne_nil _) hzero hplaces (List.cons_ne_nil _ _) hrest
  have hvalue : Text.decimalValue
      (digits ++ List.replicate (lead.toNat + 1 - digits.length) '0' ++ ['0']) =
      Text.decimalValue digits * 10 ^ (lead.toNat + 1 - digits.length + 1) := by
    rw [List.append_assoc, ← List.replicate_succ', Text.decimalValue_append_zeros]
  have hpower : -((['0'] : List Char).length : Int) + (lead.toNat + 1 - digits.length + 1 : Nat) =
      lastPower digits lead := by
    have hpos := List.length_pos_iff.2 h.ne_nil
    rw [List.length_singleton, lastPower]
    omega
  rw [hvalue, Binary64.ofDecimal_mul_pow, hpower] at hread
  simpa using hread

/-- A magnitude with the point among its digits. -/
theorem readNumber_inner_point (hlead : 0 ≤ lead) (hlength : lead + 1 < digits.length)
    (hrest : EndsNumber rest) :
    readNumber negative
        (digits.take (lead.toNat + 1) ++ '.' :: digits.drop (lead.toNat + 1) ++ rest) =
      .ok (.float (Binary64.ofDecimal negative (Text.decimalValue digits)
        (lastPower digits lead)), rest) := by
  have hwhole : digits.take (lead.toNat + 1) ≠ [] := by
    have hlengths := List.length_take (i := lead.toNat + 1) (l := digits)
    intro hnil
    rw [hnil, List.length_nil] at hlengths
    omega
  have hplaces : digits.drop (lead.toNat + 1) ≠ [] := by
    have hlengths := List.length_drop (i := lead.toNat + 1) (l := digits)
    intro hnil
    rw [hnil, List.length_nil] at hlengths
    omega
  have hzero : (digits.take (lead.toNat + 1)).head? = some '0' →
      digits.take (lead.toNat + 1) = ['0'] := by
    intro hhead
    rw [List.head?_take] at hhead
    obtain ⟨rfl, rfl⟩ := h.zero (by simpa using hhead)
    rfl
  have hread := readNumber_fraction negative
    (fun d hd => h.isDigit d (List.mem_of_mem_take hd)) hwhole hzero
    (fun d hd => h.isDigit d (List.mem_of_mem_drop hd)) hplaces hrest
  have hpower : -((digits.drop (lead.toNat + 1)).length : Int) = lastPower digits lead := by
    rw [List.length_drop, lastPower]
    omega
  rw [List.take_append_drop, hpower] at hread
  simpa using hread

/-- A magnitude with an exponent: the first digit, the others behind the point, and the power of
ten. -/
theorem readNumber_with_exponent (width : Nat) (hrest : EndsNumber rest) :
    readNumber negative
        (digits.take 1 ++ (if digits.length = 1 then [] else '.' :: digits.drop 1) ++
          'e' :: (if lead < 0 then '-' else '+') ::
            (List.replicate (width - (Nat.toDigits 10 lead.natAbs).length) '0' ++
              Nat.toDigits 10 lead.natAbs) ++ rest) =
      .ok (.float (Binary64.ofDecimal negative (Text.decimalValue digits)
        (lastPower digits lead)), rest) := by
  obtain ⟨d, places, rfl⟩ := List.exists_cons_of_ne_nil h.ne_nil
  have hdigits := h.isDigit
  have hpower : ∀ p ∈ List.replicate (width - (Nat.toDigits 10 lead.natAbs).length) '0' ++
      Nat.toDigits 10 lead.natAbs, p.isDigit = true := by
    intro p hp
    rcases List.mem_append.1 hp with hp | hp
    · exact isDigit_of_mem_replicate hp
    · exact Text.isDigit_of_mem_toDigits hp
  have hread := readNumber_exponent negative (hdigits d List.mem_cons_self)
    (fun p hp => hdigits p (List.mem_cons_of_mem d hp)) hpower
    (List.append_ne_nil_of_right_ne_nil _ Nat.toDigits_ne_nil) (decide (lead < 0))
    hrest.endsDigits
  -- the exponent is the power of the first digit, and the places count down from it
  have hexponent : (if decide (lead < 0) = true then -(lead.natAbs : Int) else lead.natAbs) -
      places.length = lastPower (d :: places) lead := by
    rw [lastPower, List.length_cons]
    split
    · rename_i hneg
      have := of_decide_eq_true hneg
      omega
    · rename_i hneg
      have : ¬lead < 0 := fun hlt => hneg (decide_eq_true hlt)
      omega
  rw [Text.decimalValue_zeros_append, Text.decimalValue_toDigits, hexponent] at hread
  have hone : (d :: places).length = 1 ↔ places = [] := by simp
  simpa [hone] using hread

/-- **The text of a magnitude** is read as its digits with the power of ten of the last one, in
every style and in each of the four forms. -/
theorem readNumber_magnitudeText (style : NumberStyle) (hrest : EndsNumber rest) :
    readNumber negative (Binary64.magnitudeText style digits lead ++ rest) =
      .ok (.float (Binary64.ofDecimal negative (Text.decimalValue digits)
        (lastPower digits lead)), rest) := by
  rw [Binary64.magnitudeText]
  split
  · split
    · rename_i hlead
      exact readNumber_below_one negative h hlead hrest
    · rename_i hlead
      split
      · rename_i hlength
        exact readNumber_without_places negative h hlength hrest
      · rename_i hlength
        exact readNumber_inner_point negative h (Int.not_lt.1 hlead) (Int.not_le.1 hlength) hrest
  · exact readNumber_with_exponent negative h style.exponentDigits hrest

end Magnitude

/-! ## Numbers with their sign -/

/-- The sign in front of a numeral. -/
def signChars (negative : Bool) : List Char :=
  if negative then ['-'] else []

theorem ne_of_isDigit {c d : Char} (hc : c.isDigit = true) (hd : d.isDigit = false) : d ≠ c := by
  rintro rfl
  rw [hc] at hd
  cases hd

/-- A text that begins with none of the words that are values is a number. -/
theorem readAtom_number (negative : Bool) {d : Char} (hd : d.isDigit = true) (rest : List Char) :
    readAtom (signChars negative ++ d :: rest) = readNumber negative (d :: rest) := by
  have hn : 'n' ≠ d := ne_of_isDigit hd rfl
  have ht : 't' ≠ d := ne_of_isDigit hd rfl
  have hf : 'f' ≠ d := ne_of_isDigit hd rfl
  have hN : 'N' ≠ d := ne_of_isDigit hd rfl
  have hI : 'I' ≠ d := ne_of_isDigit hd rfl
  have hminus : '-' ≠ d := ne_of_isDigit hd rfl
  cases negative with
  | true => simp [signChars, readAtom, wordValues, afterWord?, hI]
  | false =>
    have hwords : (wordValues.findSome? fun w =>
        (afterWord? w.1 (d :: rest)).map fun after => (w.2, after)) = none := by
      simp [wordValues, afterWord?, hn, ht, hf, hN, hI, hminus]
    rw [signChars, if_neg Bool.false_ne_true, List.nil_append, readAtom, hwords]
    -- a digit is no sign
    exact fun _ heq => hminus (List.cons.inj heq).1.symm

theorem toList_toString_int (i : Int) :
    (toString i).toList = signChars (decide (i < 0)) ++ Nat.toDigits 10 i.natAbs := by
  rw [Int.toString_eq_repr, Int.repr_eq_if]
  by_cases hi : i < 0
  · have hnot : ¬0 ≤ i := Int.not_le.2 hi
    have habs : (-i).toNat = i.natAbs := by omega
    simp [signChars, hi, hnot, habs]
  · have hle : 0 ≤ i := Int.not_lt.1 hi
    have habs : i.toNat = i.natAbs := by omega
    simp [signChars, hi, hle, habs]

/-- **A written integer** is read back, unless it has too many digits. -/
theorem readAtom_int {i : Int} (hlength : (Nat.toDigits 10 i.natAbs).length ≤ maxIntDigits)
    {rest : List Char} (hrest : EndsNumber rest) :
    readAtom ((toString i).toList ++ rest) = .ok (.int i, rest) := by
  have hdigits : ∀ d ∈ Nat.toDigits 10 i.natAbs, d.isDigit = true :=
    fun d hd => Text.isDigit_of_mem_toDigits hd
  have hzero : (Nat.toDigits 10 i.natAbs).head? = some '0' → Nat.toDigits 10 i.natAbs = ['0'] := by
    intro hhead
    by_cases hi : i.natAbs = 0
    · rw [hi, Nat.toDigits_zero]
    · exact absurd hhead (Text.head?_toDigits_ne hi)
  have hread := readNumber_integer (decide (i < 0)) hdigits Nat.toDigits_ne_nil hzero hlength hrest
  have hsign : (if decide (i < 0) = true then -(i.natAbs : Int) else i.natAbs) = i := by
    by_cases hi : i < 0
    · simp only [hi, decide_true, if_true]
      omega
    · simp only [hi, decide_false, Bool.false_eq_true, if_false]
      omega
  rw [Text.decimalValue_toDigits, hsign] at hread
  obtain ⟨d, ds, hd⟩ := List.exists_cons_of_ne_nil (Nat.toDigits_ne_nil (n := i.natAbs) (b := 10))
  rw [hd] at hread hdigits
  rw [toList_toString_int, hd, List.append_assoc, List.cons_append,
    readAtom_number _ (hdigits d List.mem_cons_self)]
  exact hread

/-- The text of a magnitude begins with a digit. -/
theorem exists_magnitudeText_cons (style : NumberStyle) {digits : List Char} {lead : Int}
    (h : Significand digits lead) :
    ∃ d text, Binary64.magnitudeText style digits lead = d :: text ∧ d.isDigit = true := by
  obtain ⟨d, ds, rfl⟩ := List.exists_cons_of_ne_nil h.ne_nil
  have hd : d.isDigit = true := h.isDigit d List.mem_cons_self
  rw [Binary64.magnitudeText]
  split
  · split
    · exact ⟨'0', _, rfl, rfl⟩
    · split
      · exact ⟨d, _, rfl, hd⟩
      · exact ⟨d, _, rfl, hd⟩
  · exact ⟨d, _, rfl, hd⟩

/-- **A written binary number** is read back, the special ones among them. -/
theorem readAtom_float (x : Binary64) {rest : List Char} (hrest : EndsNumber rest) :
    readAtom ((x.toText .json).toList ++ rest) = .ok (.float x, rest) := by
  cases x with
  | nan => rfl
  | infinite negative => cases negative <;> rfl
  | finite negative r =>
    obtain ⟨digits, lead, hdigits, hvalue, htext⟩ :=
      Binary64.exists_toText_eq .json negative r
    have hread := readNumber_magnitudeText negative hdigits .json hrest
    obtain ⟨d, text, hcons, hd⟩ := exists_magnitudeText_cons .json hdigits
    rw [hvalue, hcons] at hread
    rw [htext, hcons, List.append_assoc, List.cons_append]
    exact (readAtom_number negative hd _).trans hread

end ParcelRecords.Json
