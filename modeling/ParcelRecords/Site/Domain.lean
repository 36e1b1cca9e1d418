import ParcelRecords.Text.Lower
import ParcelRecords.Text.Search

/-!
# Main domains

The part of a page address that names its site: the last two labels of the host.

## Main definitions

* `Site.dropScheme` takes the scheme off an address.
* `Site.host` is what stands before the first slash.
* `Site.mainDomain` is the main domain of an address.
-/

namespace ParcelRecords.Site

/-- What follows `start`, compared up to case, if the text begins with it. -/
def afterIgnoringCase? (start cs : List Char) : Option (List Char) :=
  if Text.eqIgnoringCase (cs.take start.length) start then some (cs.drop start.length) else none

/-- The address without its scheme, in any letter case. -/
def dropScheme (cs : List Char) : List Char :=
  match afterIgnoringCase? "https://".toList cs with
  | some rest => rest
  | none => (afterIgnoringCase? "http://".toList cs).getD cs

/-- What stands before the first slash, the scheme taken off. -/
def host (cs : List Char) : List Char :=
  (dropScheme cs).takeWhile (· ≠ '/')

/-- The last two labels of a host, or the host if it has no more than two. -/
def lastLabels (host : List Char) : List Char :=
  let labels := Text.splitAt '.' host
  if 2 < labels.length then Text.joinWith ['.'] (labels.drop (labels.length - 2)) else host

/-- The main domain of a page address. -/
def mainDomain (url : String) : String :=
  String.ofList (lastLabels (host url.toList))

end ParcelRecords.Site
