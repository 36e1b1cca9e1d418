import ParcelRecords.Text.CodePoint
import ParcelRecords.Text.Printable

/-!
# Quoted text

A text in quotes, in the form that shows it unambiguously inside a listed value or a message: in
single quotes, or in double quotes when it holds a single quote and no double one. Backslashes, the
quote itself and all characters that are not printable are escaped.

## Main definitions

* `quoteFor` chooses the quote.
* `quoted` writes the text.
-/

namespace ParcelRecords.Text

/-- The quote that a text is written in. -/
def quoteFor (cs : List Char) : Char :=
  if '\'' ∈ cs ∧ '"' ∉ cs then '"' else '\''

/-- A character inside quotes. -/
def escapeChar (quote c : Char) : List Char :=
  if c = quote ∨ c = '\\' then ['\\', c]
  else if c = '\n' then ['\\', 'n']
  else if c = '\r' then ['\\', 'r']
  else if c = '\t' then ['\\', 't']
  else if isPrintable c then [c]
  else if codePoint c < 0x100 then '\\' :: 'x' :: hexNumeral 2 (codePoint c)
  else if codePoint c < 0x10000 then '\\' :: 'u' :: hexNumeral 4 (codePoint c)
  else '\\' :: 'U' :: hexNumeral 8 (codePoint c)

/-- The text in quotes. -/
def quoted (s : String) : String :=
  let cs := s.toList
  let quote := quoteFor cs
  String.ofList (quote :: cs.flatMap (escapeChar quote) ++ [quote])

end ParcelRecords.Text
