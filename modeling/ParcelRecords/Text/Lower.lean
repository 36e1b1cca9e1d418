import ParcelRecords.Text.CaseTable

/-!
# Lowercase

The lowercase of a text, character by character but for two things: one capital becomes two
characters, and a capital sigma at the end of a word takes its final form.

## Main definitions

* `lower` is the lowercase of a text.
* `foldCase` is the one character that stands for all that differ from it in case alone.
* `eqIgnoringCase` compares texts up to case, character by character.

## Main results

* `lowerChars_append`: without capital sigmas, the lowercase of a text is that of its parts.
-/

namespace ParcelRecords.Text

/-- The capital sigma, the one letter whose lowercase depends on what stands around it. -/
def capitalSigma : Char := '\u03A3'

/-- A character skipped when the end of a word is looked for. -/
def isCaseIgnorable (c : Char) : Bool :=
  inRanges caseIgnorableRanges c.toNat

/-- A letter that has a case. -/
def isCased (c : Char) : Bool :=
  inRanges casedRanges c.toNat

/-- The lowercase of one character other than the capital sigma. -/
def lowerChar (c : Char) : List Char :=
  if c.toNat < 128 then [if 'A' ≤ c ∧ c ≤ 'Z' then Char.ofNat (c.toNat + 32) else c]
  else if c = '\u0130' then ['i', '\u0307']
  else
    match lowerRuns.findSome? (·.target? c.toNat) with
    | some n => [Char.ofNat n]
    | none => [c]

/-- Whether a cased letter follows, case-ignorable characters skipped. -/
def casedAhead (cs : List Char) : Bool :=
  match cs.dropWhile isCaseIgnorable with
  | [] => false
  | c :: _ => isCased c

/-- Whether a cased letter comes last, case-ignorable characters skipped, once `c` is read. -/
def casedBehind (before : Bool) (c : Char) : Bool :=
  if isCaseIgnorable c then before else isCased c

/-- The lowercase of `cs` after a text that ends in a cased letter or not. -/
def lowerCharsAfter (before : Bool) : List Char → List Char
  | [] => []
  | c :: rest =>
    (if c = capitalSigma then [if before && !casedAhead rest then '\u03C2' else '\u03C3']
      else lowerChar c) ++ lowerCharsAfter (casedBehind before c) rest

/-- The lowercase of a list of characters. -/
def lowerChars (cs : List Char) : List Char :=
  lowerCharsAfter false cs

/-- The lowercase of a text. -/
def lower (s : String) : String :=
  String.ofList (lowerChars s.toList)

theorem lowerCharsAfter_eq_flatMap {cs : List Char} (h : capitalSigma ∉ cs) (before : Bool) :
    lowerCharsAfter before cs = cs.flatMap lowerChar := by
  induction cs generalizing before with
  | nil => rfl
  | cons c rest ih =>
    simp only [List.mem_cons, not_or] at h
    simp [lowerCharsAfter, Ne.symm h.1, ih h.2]

/-- **Lowercase of parts**: without capital sigmas no character looks at its neighbours. -/
theorem lowerChars_append {as bs : List Char} (ha : capitalSigma ∉ as) (hb : capitalSigma ∉ bs) :
    lowerChars (as ++ bs) = lowerChars as ++ lowerChars bs := by
  have hab : capitalSigma ∉ as ++ bs := by simp [ha, hb]
  simp [lowerChars, lowerCharsAfter_eq_flatMap, ha, hb, hab]

/-! ## Comparison up to case -/

/-- The character that stands for all that differ from `c` in case alone: the lowercase letter, and
of several with one capital the least. -/
def foldCase (c : Char) : Char :=
  let l := (lowerChar c).headD c
  match caseTwins.lookup l.toNat with
  | some n => Char.ofNat n
  | none => l

/-- Whether two lists of characters agree up to case. -/
def eqIgnoringCase (as bs : List Char) : Bool :=
  as.map foldCase == bs.map foldCase

/-- The capitals `A` to `Z` made small, all else kept. -/
def lowerAscii (s : String) : String :=
  String.ofList (s.toList.map fun c => if c.toNat < 128 then (lowerChar c).headD c else c)

end ParcelRecords.Text
