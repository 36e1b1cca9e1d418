import ParcelRecords.Text.Numeral

/-!
# Code points

A text is a row of code points. Nearly all of them are characters. The two halves of a surrogate
pair are none, but an escape can write one that stands alone, and a text carries it along: it is no
blank, no letter and no digit. No bytes stand for it, so a text that holds one cannot be written.

The type of characters has no room for halves. The last 2048 characters, which are for private use,
stand for them here; a genuine one of these is taken for the one 2048 places before it.

## Main definitions

* `ofCodePoint` is the character that stands for a code point; `codePoint` goes back.
* `ofCharacters` takes in a text of genuine characters.
* `isWritable` tells whether bytes stand for a text; `encodingFault` says where there are none.

## Main results

* `ofCodePoint_of_lt`: the code points before the halves are those of characters.
-/

namespace ParcelRecords.Text

/-! ## Characters -/

/-- Half of a surrogate pair. -/
def isSurrogate (n : Nat) : Bool :=
  0xD800 ≤ n && n ≤ 0xDFFF

/-- The code point of the first character that stands for a half. -/
def firstHalf : Nat := 0x10F800

/-- The character that stands for a code point. -/
def ofCodePoint (n : Nat) : Char :=
  if isSurrogate n then Char.ofNat (n - 0xD800 + firstHalf)
  else if firstHalf ≤ n then Char.ofNat (n - 0x800)
  else Char.ofNat n

theorem ofCodePoint_of_lt {n : Nat} (h : n < 0xD800) : ofCodePoint n = Char.ofNat n := by
  have hsurrogate : isSurrogate n = false := by
    simp only [isSurrogate, Bool.and_eq_false_iff, decide_eq_false_iff_not]
    omega
  have hhalf : ¬firstHalf ≤ n := by
    unfold firstHalf
    omega
  rw [ofCodePoint, hsurrogate, if_neg Bool.false_ne_true, if_neg hhalf]

/-- Whether a character stands for half of a pair. -/
def isHalf (c : Char) : Bool :=
  firstHalf ≤ c.toNat

/-- The code point that a character stands for. -/
def codePoint (c : Char) : Nat :=
  if isHalf c then c.toNat - firstHalf + 0xD800 else c.toNat

/-! ## Texts -/

/-- A text of genuine characters. -/
def ofCharacters (s : String) : String :=
  String.ofList (s.toList.map fun c => ofCodePoint c.toNat)

/-- Whether bytes stand for a text: it holds no half of a pair. -/
def isWritable (s : String) : Bool :=
  s.toList.all fun c => !isHalf c

/-- Why no bytes stand for a text: the halves that stand in front of all others, side by side, and
where they begin. -/
def encodingFault (s : String) : String :=
  let start := (s.toList.takeWhile fun c => !isHalf c).length
  let halves := (s.toList.drop start).takeWhile isHalf
  "'utf-8' codec can't encode character" ++
    (match halves with
    | [c] => " '\\u" ++ String.ofList (hexNumeral 4 (codePoint c)) ++ "' in position " ++
      toString start
    | _ => "s in position " ++ toString start ++ "-" ++ toString (start + halves.length - 1)) ++
    ": surrogates not allowed"

end ParcelRecords.Text
