import ParcelRecords.Record.Basic
import ParcelRecords.Selector.Match
import ParcelRecords.Text.Digit

/-!
# The appraiser page without tables

One appraiser shows its records in sections of its own kind: property rows that begin with a label,
and a tax section whose rows give the values of several years under the name of an authority.

## Main definitions

* `Appraiser.propertyFields` reads the property section.
* `Appraiser.taxValues` reads the tax section.
* `Appraiser.record?` reads a page that has at least one of the sections.
-/

namespace ParcelRecords.Appraiser

open Markup (Focus Document)

/-- The element of the property section. -/
def propertyName : String := "pa-propertyinformation"

/-- The element of the tax section. -/
def taxName : String := "pa-taxablevalueinformation"

/-- The rows of a section at any depth, in document order. -/
def sectionRows (s : Focus) : List Focus :=
  s.elementsNamed "tr"

/-- The trimmed text of the first element of a row that meets a selector; none gives an empty text.
-/
def firstText (row : Focus) (selector : String) : String :=
  ((row.select? selector).map (·.here.trimmedText)).getD ""

/-- The trimmed texts of the elements inside that meet a selector. -/
def allTexts (scope : Focus) (selector : String) : List String :=
  (scope.selectAll selector).map (·.here.trimmedText)

/-! ## Property section -/

/-- The trimmed text after the first occurrence of a label. -/
def textAfter (label text : String) : String :=
  Text.trim (String.ofList ((Text.afterFirst? label.toList text.toList).getD []))

/-- One field of the property section: the label that a row has to contain, the name of the field,
and how its value is read from the row. -/
structure PropertyField where
  label : String
  name : String
  value : Focus → String

/-- The fields of the property section. -/
def propertyFieldList : List PropertyField :=
  [⟨"Folio:", "folio", fun row => textAfter "Folio:" row.here.normalText⟩,
   ⟨"Property Address", "propertyAddress", (firstText · ".property-add")⟩,
   ⟨"Owner", "owner", (firstText · ".pa-font-size-11")⟩,
   ⟨"Primary Land Use", "primaryLandUse", (firstText · ".pt-0.pb-0")⟩]

/-- The fields that a row gives. -/
def rowFields (row : Focus) : List (String × Json) :=
  (propertyFieldList.filter fun f => Text.occursIn f.label row.here.normalText).map fun f =>
    (f.name, .str (f.value row))

/-- The fields of the property section, row by row. -/
def propertyFields (s : Focus) : List (String × Json) :=
  (sectionRows s).flatMap rowFields

/-! ## Tax section -/

/-- The rows that name an authority. -/
def authorities : List String := ["COUNTY", "SCHOOL BOARD", "CITY", "REGIONAL"]

/-- An authority as part of a name. -/
def authorityKey (label : String) : String :=
  String.ofList ((Text.lower label).toList.map fun c => if c = ' ' then '_' else c)

/-- The labels of the rows with values, each with its part of a name. -/
def metrics : List (String × String) :=
  [("Exemption Value", "exemptionvalue"), ("Taxable Value", "taxablevalue")]

/-- Whether a text is a year: digits and nothing else. -/
def isYear (text : String) : Bool :=
  text ≠ "" && text.toList.all Text.isDigit

/-- The years in the header of the tax section. -/
def years (s : Focus) : List String :=
  (allTexts s ".header-row td span").filter isYear

/-- The values of a row under one authority and metric, one for every year; a row may have too few.
-/
def yearValues (authority metric : String) (years values : List String) : List (String × Json) :=
  years.mapIdx fun i year =>
    (authority ++ "_" ++ metric ++ "_" ++ year, ((values[i]?).map Json.str).getD .null)

/-- The values of a row under an authority, for every metric whose label it contains. -/
def rowValues (years : List String) (authority : String) (row : Focus) : List (String × Json) :=
  (metrics.filter fun m => Text.occursIn m.1 row.here.normalText).flatMap fun m =>
    yearValues authority m.2 years (allTexts row ".text-end-mine span")

/-- The values of rows, once an authority was named. -/
def taxRows (years : List String) (authority : Option String) : List Focus → List (String × Json)
  | [] => []
  | row :: rest =>
    let text := row.here.normalText
    if text ∈ authorities then taxRows years (some (authorityKey text)) rest
    else
      match authority with
      | none => taxRows years none rest
      | some a => rowValues years a row ++ taxRows years (some a) rest

/-- The values of the tax section, row by row. -/
def taxValues (s : Focus) : List (String × Json) :=
  taxRows (years s) none (sectionRows s)

/-! ## Pages -/

/-- The first section of a name. -/
def section? (d : Document) (name : String) : Option Focus :=
  (d.focus.elementsNamed name).head?

/-- What an optional section gives. -/
def sectionEntries (read : Focus → List (String × Json)) (s : Option Focus) :
    List (String × Json) :=
  (s.map read).getD []

/-- **The record of a page**: the fields of its first property section, then the values of its first
tax section. A page without both is none of this kind. -/
def record? (d : Document) : Option Record :=
  match section? d propertyName, section? d taxName with
  | none, none => none
  | property, tax =>
    some (.ofList (sectionEntries propertyFields property ++ sectionEntries taxValues tax))

end ParcelRecords.Appraiser
