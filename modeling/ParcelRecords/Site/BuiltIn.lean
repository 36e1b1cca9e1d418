import ParcelRecords.Json.Basic

/-!
# Built-in sites

The schemas of the sites that are known without a sites file, by the pattern of their addresses.

## Main definitions

* `Site.builtIn` maps address patterns to schemas.
-/

namespace ParcelRecords.Site

/-- A list of texts. -/
def texts (items : List String) : Json :=
  .arr (items.map .str)

/-- A row filter for one value in the first column. -/
def withoutValue (value : String) : Json :=
  .obj [("values", texts [value]), ("columns", .arr [.int 0])]

/-- A row filter for the first row. -/
def withoutFirstRow : Json :=
  .obj [("indices", .arr [.int 0])]

/-- The constants that name a county. -/
def inCounty (county : String) : Json :=
  .obj [("county", .str county)]

/-- Broward County. -/
def broward : Json :=
  .obj [
    ("propertySummary", .obj [
      ("tableData", texts ["Site Address", "Property Owner", "Mailing Address"]),
      ("tableType", .str "horizontal"),
      ("constants", inCounty "Broward")]),
    ("valueHistory", .obj [
      ("tableData", texts
        ["Year", "Land", "Building", "Just / Market Value", "Assessed / SOH Value"]),
      ("tableType", .str "vertical"),
      ("ignoreRows", withoutValue "Click here to see")]),
    ("exemptions", .obj [
      ("tableData", texts ["Exemptions and Taxable Values by Taxing Authority"]),
      ("tableType", .str "matrix"),
      ("ignoreRows", withoutFirstRow)]),
    ("salesHistory", .obj [
      ("tableData", texts ["Sales History", "Type", "Price", "Book/Page or CIN"]),
      ("tableType", .str "vertical"),
      ("ignoreRows", withoutFirstRow)])]

/-- Miami-Dade County. -/
def miamiDade : Json :=
  .obj [
    ("propertyRecord", .obj [
      ("tableType", .str "horizontal"),
      ("function", .str "runmiamiexceptions"),
      ("constants", inCounty "Miami-Dade")])]

/-- Duval County. -/
def duval : Json :=
  .obj [
    ("summary", .obj [
      ("tableType", .str "horizontal"),
      ("function", .str "getbyselectors"),
      ("tableSelectors", .obj [
        ("realEstateNumber", .str "#ctl00_cphBody_lblRealEstateNumber"),
        ("owner", .str "#ctl00_cphBody_repeaterOwnerInformation_ctl00_lblOwnerName"),
        ("propertyUse", .str "#ctl00_cphBody_lblPropertyUse"),
        ("siteAddress", .str "#ctl00_cphBody_lblPrimarySiteAddress")]),
      ("constants", inCounty "Duval")]),
    ("valueSummary", .obj [
      ("tableSelector", .str "#ctl00_cphBody_gridValueSummary"),
      ("tableType", .str "matrix")]),
    ("buildingArea", .obj [
      ("tableData", texts ["Type", "Gross Area", "Heated Area", "Effective Area"]),
      ("tableType", .str "vertical"),
      ("ignoreRows", withoutValue "Total")])]

/-- Collier County. -/
def collier : Json :=
  .obj [
    ("parcel", .obj [
      ("tableData", texts ["Parcel No", "Site Address"]),
      ("tableType", .str "horizontal"),
      ("constants", inCounty "Collier")]),
    ("ownership", .obj [
      ("tableType", .str "horizontal"),
      ("function", .str "getformdata"),
      ("formdata", .obj [
        ("ownerName", .str "#OwnerLine1"),
        ("homestead", .str "#HomesteadExemption")])]),
    ("certifiedValues", .obj [
      ("tableData", texts ["Land Value", "Improved Value", "Market Value"]),
      ("tableType", .str "horizontal"),
      ("ignoreRows", withoutValue "Certified Tax Roll")])]

/-- The built-in sites. -/
def builtIn : OrderedMap Json :=
  .ofList [
    ("web.bcpa.net", broward),
    ("www.miamidade.gov", miamiDade),
    ("paopropertysearch.coj.net", duval),
    ("collierappraiser.com", collier)]

end ParcelRecords.Site
