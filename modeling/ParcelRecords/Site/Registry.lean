import ParcelRecords.Site.BuiltIn
import ParcelRecords.Site.Domain

/-!
# The site registry

Which schema serves a page address. A site is known by a pattern, and serves every address that
contains it; of several the first one counts.

## Main definitions

* `Registry` is the ordered table of patterns and schemas.
* `Registry.extended` lays further sites over a registry, `Registry.overlaid` over the built-in one.
* `Registry.schemaFor?` finds the schema of an address.
* `Registry.siteName` names the site of an address.
-/

namespace ParcelRecords

/-- Schemas by address pattern, in the order in which they are tried. -/
structure Registry where
  sites : OrderedMap Json

namespace Registry

/-- The registry with further sites laid over it: a known pattern keeps its place and takes the new
schema, a new one comes last. -/
def extended (r : Registry) (further : OrderedMap Json) : Registry :=
  ⟨r.sites.merge further⟩

/-- The built-in sites with further ones laid over them. -/
def overlaid (further : OrderedMap Json) : Registry :=
  extended ⟨Site.builtIn⟩ further

/-- The patterns in order. -/
def patterns (r : Registry) : List String :=
  r.sites.keys

/-- The first site whose pattern occurs in an address. -/
def first? (r : Registry) (url : String) : Option (String × Json) :=
  r.sites.entries.find? fun s => Text.occursIn s.1 url

/-- A value that is something. -/
def something? : Json → Option Json
  | .null => none
  | value => some value

/-- **The schema of an address**: that of the first site whose pattern occurs in it. A site without
one is not served. -/
def schemaFor? (r : Registry) (url : String) : Option Json :=
  (r.first? url).bind fun s => something? s.2

/-- The name in place of the name of a site that is not known. -/
def unknownSite : String := "Unknown Site"

/-- The name of the site of an address: its main domain, if it is that of a pattern. -/
def siteName (r : Registry) (url : String) : String :=
  let domain := Site.mainDomain url
  if domain ∈ r.patterns.map Site.mainDomain then domain else unknownSite

end Registry

end ParcelRecords
