/-!
# Blank characters, trimming and words

What counts as blank in page text, configured values and selectors of words, and the three things
done with it: cutting blanks off both ends, collapsing every run of blanks to one space, and
splitting into words.

## Main definitions

* `isBlank` is the class of blank characters.
* `trim` drops the blanks at both ends of a text.
* `squeezeChars` replaces every run of blanks by one space; `normalize` squeezes and trims.
* `words` lists the maximal runs of characters that are not blank.

## Main results

* `trimEndChars_cons_of_not_blank`: a character that is no blank is never cut off.
* `isBlank_space`: the space that stands for a run is blank itself.
-/

namespace ParcelRecords.Text

/-- A blank character: the control characters that move the print position, the four information
separators, and every space character of Unicode. -/
def isBlank (c : Char) : Bool :=
  let n := c.toNat
  (9 ≤ n && n ≤ 13) || (28 ≤ n && n ≤ 32) || n == 0x85 || n == 0xA0 || n == 0x1680 ||
    (0x2000 ≤ n && n ≤ 0x200A) || n == 0x2028 || n == 0x2029 || n == 0x202F || n == 0x205F ||
    n == 0x3000

theorem isBlank_space : isBlank ' ' = true := by decide

/-! ## Trimming -/

/-- The characters up to the last one that is not blank. -/
def trimEndChars : List Char → List Char
  | [] => []
  | c :: rest =>
    match trimEndChars rest with
    | [] => if isBlank c then [] else [c]
    | kept => c :: kept

/-- The characters between the first and the last that are not blank. -/
def trimChars (cs : List Char) : List Char :=
  trimEndChars (cs.dropWhile isBlank)

/-- The text without the blanks at its ends. -/
def trim (s : String) : String :=
  String.ofList (trimChars s.toList)

@[simp] theorem trimEndChars_nil : trimEndChars [] = [] := rfl

theorem trimEndChars_cons_of_not_blank {c : Char} (h : isBlank c = false) (rest : List Char) :
    trimEndChars (c :: rest) = c :: trimEndChars rest := by
  simp only [trimEndChars]
  cases trimEndChars rest <;> simp [h]

/-! ## Runs of blanks -/

/-- Every maximal run of blanks becomes one space; its last character is the one replaced. -/
def squeezeChars : List Char → List Char
  | [] => []
  | [c] => [if isBlank c then ' ' else c]
  | c :: d :: rest =>
    if isBlank c then
      if isBlank d then squeezeChars (d :: rest) else ' ' :: squeezeChars (d :: rest)
    else c :: squeezeChars (d :: rest)

/-- Blank runs collapsed to single spaces, none at the ends. -/
def normalizeChars (cs : List Char) : List Char :=
  trimChars (squeezeChars cs)

/-- The text with its blank runs collapsed to single spaces, none at the ends. -/
def normalize (s : String) : String :=
  String.ofList (normalizeChars s.toList)

/-! ## Words -/

/-- The maximal runs of characters that are not blank, in order. -/
def wordsChars : List Char → List (List Char)
  | [] => []
  | [c] => if isBlank c then [] else [[c]]
  | c :: d :: rest =>
    if isBlank c then wordsChars (d :: rest)
    else if isBlank d then [c] :: wordsChars (d :: rest)
    else
      match wordsChars (d :: rest) with
      | [] => [[c]]
      | w :: ws => (c :: w) :: ws

/-- The words of a text. -/
def words (s : String) : List String :=
  (wordsChars s.toList).map String.ofList

end ParcelRecords.Text
