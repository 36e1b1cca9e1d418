import ParcelRecords.Site.Registry

/-!
# Routes and names of addresses

An address is routed by its text: the first pattern that occurs in it decides the schema. It is
named by its own main domain, if some pattern has the same one. The two go apart where the main
domain of the address is not that of the deciding pattern: behind a port, where the pattern stands
in a query, or on a sister host that no pattern covers.

## Main definitions

* `Registry.IsServing`: a site is the first whose pattern occurs in an address

## Main results

* `Registry.first?_eq_some_iff`, `Registry.schemaFor?_of_isServing`: the route of an address
* `Registry.siteName_ne_unknownSite_iff`: when an address has a name
* `Registry.routes_and_names`: when the name of an address is that of its route
-/

namespace ParcelRecords.Registry

open Site (mainDomain)
open Text (occursIn)

variable {r : Registry} {url : String} {site : String × Json}

/-! ## Routes -/

/-- A site is the first in order whose pattern occurs in an address. -/
def IsServing (r : Registry) (url : String) (site : String × Json) : Prop :=
  ∃ before after, r.sites.entries = before ++ site :: after ∧ occursIn site.1 url = true ∧
    ∀ s ∈ before, occursIn s.1 url = false

theorem first?_eq_some_iff : r.first? url = some site ↔ r.IsServing url site := by
  rw [first?, List.find?_eq_some_iff_append]
  constructor
  · rintro ⟨hoccurs, before, after, hsplit, hbefore⟩
    exact ⟨before, after, hsplit, hoccurs, fun s hs => by simpa using hbefore s hs⟩
  · rintro ⟨before, after, hsplit, hoccurs, hbefore⟩
    exact ⟨hoccurs, before, after, hsplit, fun s hs => by simpa using hbefore s hs⟩

theorem IsServing.mem (h : r.IsServing url site) : site ∈ r.sites.entries :=
  List.mem_of_find?_eq_some (first?_eq_some_iff.2 h)

theorem first?_eq_none_iff :
    r.first? url = none ↔ ∀ pattern ∈ r.patterns, occursIn pattern url = false := by
  rw [first?, List.find?_eq_none, patterns, OrderedMap.keys, List.forall_mem_map]
  simp

/-- **The route of an address** leads to the schema of the serving site. -/
theorem schemaFor?_of_isServing (h : r.IsServing url site) {fields : List (String × Json)}
    (hschema : site.2 = .obj fields) : r.schemaFor? url = some site.2 := by
  rw [schemaFor?, first?_eq_some_iff.2 h, Option.bind_some, hschema]
  rfl

theorem schemaFor?_of_not_served
    (h : ∀ pattern ∈ r.patterns, occursIn pattern url = false) : r.schemaFor? url = none := by
  rw [schemaFor?, first?_eq_none_iff.2 h]
  rfl

/-! ## Names -/

/-- **The name of an address** is its main domain if a pattern has the same one. -/
theorem siteName_of_mem (h : mainDomain url ∈ r.patterns.map mainDomain) :
    r.siteName url = mainDomain url :=
  if_pos h

theorem siteName_of_not_mem (h : mainDomain url ∉ r.patterns.map mainDomain) :
    r.siteName url = unknownSite :=
  if_neg h

theorem siteName_eq_iff {name : String} :
    r.siteName url = name ↔
      mainDomain url ∈ r.patterns.map mainDomain ∧ mainDomain url = name ∨
      mainDomain url ∉ r.patterns.map mainDomain ∧ unknownSite = name := by
  by_cases h : mainDomain url ∈ r.patterns.map mainDomain
  · rw [siteName_of_mem h]
    simp [h]
  · rw [siteName_of_not_mem h]
    simp [h]

/-- An address has a name if some pattern has its main domain, which is not what unknown sites are
called. -/
theorem siteName_ne_unknownSite_iff {r : Registry} {url : String} :
    r.siteName url ≠ unknownSite ↔
      mainDomain url ∈ r.patterns.map mainDomain ∧ mainDomain url ≠ unknownSite := by
  by_cases hmem : mainDomain url ∈ r.patterns.map mainDomain
  · rw [siteName_of_mem hmem]
    simp only [hmem, true_and]
  · rw [siteName_of_not_mem hmem]
    simp [hmem]

theorem IsServing.mainDomain_mem (h : r.IsServing url site) :
    mainDomain site.1 ∈ r.patterns.map mainDomain :=
  List.mem_map_of_mem (List.mem_map_of_mem h.mem)

/-- **When routes and names agree**, in a registry whose schemas are objects. An address that a site
serves is routed to its schema. It has the name of the site exactly if both have one main domain, or
if the site is named like an unknown one and the address is unknown; so it has this name whenever
the pattern has the host of the address. An address that no site serves is not routed, and it is
unknown exactly if no pattern has its main domain, or if that is the name of an unknown site. -/
theorem routes_and_names (r : Registry) (url : String)
    (hobjects : ∀ s ∈ r.sites.entries, ∃ fields, s.2 = .obj fields) :
    (∀ site, r.IsServing url site →
      r.schemaFor? url = some site.2 ∧
      (r.siteName url = mainDomain site.1 ↔
        mainDomain url = mainDomain site.1 ∨
        mainDomain url ∉ r.patterns.map mainDomain ∧ mainDomain site.1 = unknownSite) ∧
      (Site.host site.1.toList = Site.host url.toList →
        r.siteName url = mainDomain site.1)) ∧
    ((∀ pattern ∈ r.patterns, occursIn pattern url = false) →
      r.schemaFor? url = none ∧
      (r.siteName url = unknownSite ↔
        mainDomain url ∉ r.patterns.map mainDomain ∨ mainDomain url = unknownSite)) := by
  constructor
  · intro site hserving
    obtain ⟨fields, hschema⟩ := hobjects site hserving.mem
    have hname : r.siteName url = mainDomain site.1 ↔
        mainDomain url = mainDomain site.1 ∨
        mainDomain url ∉ r.patterns.map mainDomain ∧ mainDomain site.1 = unknownSite := by
      rw [siteName_eq_iff]
      constructor
      · rintro (⟨-, heq⟩ | ⟨hnot, heq⟩)
        · exact .inl heq
        · exact .inr ⟨hnot, heq.symm⟩
      · rintro (heq | ⟨hnot, heq⟩)
        · -- the serving pattern is one of those that are looked through for the name
          have hmem : mainDomain url ∈ r.patterns.map mainDomain := by
            rw [heq]
            exact hserving.mainDomain_mem
          exact .inl ⟨hmem, heq⟩
        · exact .inr ⟨hnot, heq.symm⟩
    refine ⟨schemaFor?_of_isServing hserving hschema, hname, fun hhost => hname.2 (.inl ?_)⟩
    rw [mainDomain, mainDomain, hhost]
  · intro hnone
    refine ⟨schemaFor?_of_not_served hnone, ?_⟩
    rw [siteName_eq_iff]
    constructor
    · rintro (⟨-, heq⟩ | ⟨hnot, -⟩)
      · exact .inr heq
      · exact .inl hnot
    · rintro (hnot | heq)
      · exact .inr ⟨hnot, rfl⟩
      · by_cases hmem : mainDomain url ∈ r.patterns.map mainDomain
        · exact .inl ⟨hmem, heq⟩
        · exact .inr ⟨hmem, rfl⟩

/-- The second of two patterns serves a host of its own, and names it. -/
theorem routes_and_names_second_site :
    let r : Registry := ⟨.ofList [("web.bcpa.net", .obj []), ("pa.example.org", .obj [])]⟩
    let url := "HTTPS://pa.example.org/parcel"
    (∀ s ∈ r.sites.entries, ∃ fields, s.2 = .obj fields) ∧
      r.IsServing url ("pa.example.org", .obj []) ∧
      r.schemaFor? url = some (.obj []) ∧ r.siteName url = "example.org" := by
  intro r url
  have hobjects : ∀ s ∈ r.sites.entries, ∃ fields, s.2 = .obj fields := by
    intro s hs
    have hs' : s = ("web.bcpa.net", .obj []) ∨ s = ("pa.example.org", .obj []) := by
      simpa [r, OrderedMap.ofList, OrderedMap.insertAll, upsert] using hs
    rcases hs' with rfl | rfl
    · exact ⟨[], rfl⟩
    · exact ⟨[], rfl⟩
  have hserving : r.IsServing url ("pa.example.org", .obj []) := by
    refine ⟨[("web.bcpa.net", .obj [])], [], rfl, by decide, fun s hs => ?_⟩
    obtain rfl := List.mem_singleton.1 hs
    decide
  obtain ⟨hschema, -, hname⟩ := (routes_and_names r url hobjects).1 _ hserving
  have hdomain : mainDomain "pa.example.org" = "example.org" := by decide +kernel
  have hhost : Site.host "pa.example.org".toList = Site.host url.toList := by decide +kernel
  exact ⟨hobjects, hserving, hschema, (hname hhost).trans hdomain⟩

/-- **A route without a name, and a name without a route**: a port keeps an address from being
named like the site that serves it, and a sister host is named like a site that does not. -/
theorem route_and_name_apart :
    let r : Registry := ⟨.ofList [("web.bcpa.net", .obj [])]⟩
    r.IsServing "https://web.bcpa.net:8443/record" ("web.bcpa.net", .obj []) ∧
      mainDomain "web.bcpa.net" = "bcpa.net" ∧
      r.siteName "https://web.bcpa.net:8443/record" = "Unknown Site" ∧
      r.schemaFor? "https://www2.bcpa.net/" = none ∧
      r.siteName "https://www2.bcpa.net/" = "bcpa.net" := by
  intro r
  have hserving : r.IsServing "https://web.bcpa.net:8443/record" ("web.bcpa.net", .obj []) :=
    ⟨[], [], rfl, by decide, by simp⟩
  have hsister : ∀ pattern ∈ r.patterns, occursIn pattern "https://www2.bcpa.net/" = false := by
    decide
  exact ⟨hserving, by decide +kernel, by decide +kernel, schemaFor?_of_not_served hsister,
    by decide +kernel⟩

end ParcelRecords.Registry
