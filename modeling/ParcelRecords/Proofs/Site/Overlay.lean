import ParcelRecords.Proofs.Site.Routing
import ParcelRecords.Proofs.Table.Location
import ParcelRecords.Proofs.Workspace.Files

/-!
# Sites laid over sites

A registry is laid in layers: the built-in sites, the sites of a file over them, and extra sites
over both. A layer writes the schemas of the patterns it knows and adds the others at the end, so
that a pattern stands where it first came in and has the schema that was given last. Addresses are
routed by the order of the patterns alone. A layer can therefore neither take an address from the
pattern that serves it nor, with patterns that are known, change anything but schemas.

New patterns of a lower layer are tried before those of a higher one: a new site of the file stands
in front of the extra sites, and behind all others.

## Main definitions

* `Registry.servingPattern?`, `Registry.IsFirstIn`: the first pattern that stands in an address
* `Registry.SameRoutes`: registries with the same first patterns
* `Registry.layered`: the registry of a sites file and of extra sites

## Main results

* `Registry.patterns_extended`, `Registry.get?_extended`: patterns and schemas after one more layer
* `Registry.schemaFor?_eq`: the schema of an address is that of its pattern
* `Registry.servingPattern?_extended_of_some`: a layer takes no address from its pattern
* `Registry.schemaFor?_extended_of_new`, `Registry.schemaFor?_extended_below`: schemas that a layer
  of new patterns leaves
* `Registry.layers_keep_order_and_routes`: patterns, schemas and routes of all layers
-/

namespace ParcelRecords

namespace Registry

open Text (occursIn)

variable {r : Registry} {url pattern : String}

/-! ## Patterns of addresses -/

/-- The pattern that serves an address. -/
def servingPattern? (r : Registry) (url : String) : Option String :=
  (r.first? url).map Prod.fst

/-- A pattern is the first in order that stands somewhere in an address. -/
def IsFirstIn (r : Registry) (url pattern : String) : Prop :=
  ∃ before after, r.patterns = before ++ pattern :: after ∧ pattern.toList <:+: url.toList ∧
    ∀ p ∈ before, ¬p.toList <:+: url.toList

theorem servingPattern?_eq_find? (r : Registry) (url : String) :
    r.servingPattern? url = r.patterns.find? fun p => occursIn p url := by
  rw [patterns, OrderedMap.keys, List.find?_map]
  rfl

/-- Two registries have the same first patterns in all addresses. -/
def SameRoutes (q r : Registry) : Prop :=
  ∀ url pattern, q.IsFirstIn url pattern ↔ r.IsFirstIn url pattern

/-- **Routes depend on nothing but the patterns** and their order. -/
theorem sameRoutes_of_patterns {q : Registry} (h : q.patterns = r.patterns) : q.SameRoutes r := by
  intro url pattern
  rw [IsFirstIn, h]
  rfl

/-- **The pattern that serves an address** is the first one that stands in it. -/
theorem servingPattern?_eq_some_iff :
    r.servingPattern? url = some pattern ↔ r.IsFirstIn url pattern := by
  rw [servingPattern?_eq_find?, List.find?_eq_some_iff_append, Text.occursIn_iff_isInfix]
  constructor
  · rintro ⟨hoccurs, before, after, hsplit, hbefore⟩
    refine ⟨before, after, hsplit, hoccurs, ?_⟩
    intro p hp hinfix
    have hnot := hbefore p hp
    rw [Text.occursIn_iff_isInfix.2 hinfix] at hnot
    cases hnot
  · rintro ⟨before, after, hsplit, hoccurs, hbefore⟩
    refine ⟨hoccurs, before, after, hsplit, ?_⟩
    intro p hp
    rw [Bool.not_eq_true', ← Bool.not_eq_true, Text.occursIn_iff_isInfix]
    exact hbefore p hp

theorem servingPattern?_eq_none_iff :
    r.servingPattern? url = none ↔ ∀ p ∈ r.patterns, ¬p.toList <:+: url.toList := by
  rw [servingPattern?, Option.map_eq_none_iff, first?_eq_none_iff]
  refine forall₂_congr fun p _ => ?_
  rw [← Text.occursIn_iff_isInfix, Bool.not_eq_true]

/-- **The schema of an address** is the one of the pattern that serves it, if it is something. -/
theorem schemaFor?_eq (r : Registry) (url : String) :
    r.schemaFor? url =
      ((r.servingPattern? url).bind fun p => r.sites.get? p).bind something? := by
  rw [schemaFor?, servingPattern?]
  cases hfirst : r.first? url with
  | none => rfl
  | some site =>
    -- the site stands in the registry, so that reading its pattern gives its schema
    have hget : r.sites.get? site.1 = some site.2 :=
      OrderedMap.get?_eq_some_iff.2 (List.mem_of_find?_eq_some hfirst)
    rw [Option.map_some, Option.bind_some, Option.bind_some, hget, Option.bind_some]

/-- Registries that serve an address by one pattern with one schema give it the same schema. -/
theorem schemaFor?_congr {q : Registry} (hpattern : q.servingPattern? url = r.servingPattern? url)
    (hschema : ∀ p, r.servingPattern? url = some p → q.sites.get? p = r.sites.get? p) :
    q.schemaFor? url = r.schemaFor? url := by
  rw [schemaFor?_eq, schemaFor?_eq, hpattern]
  cases hserving : r.servingPattern? url with
  | none => rfl
  | some p => rw [Option.bind_some, Option.bind_some, hschema p hserving]

section Objects

variable (hobjects : ∀ s ∈ r.sites.entries, s.2.kind = .obj)
include hobjects

/-- Schemas that are objects are what addresses are routed to. -/
theorem schemaFor?_of_objects :
    r.schemaFor? url = (r.servingPattern? url).bind fun p => r.sites.get? p := by
  rw [schemaFor?_eq]
  cases hschema : (r.servingPattern? url).bind fun p => r.sites.get? p with
  | none => rfl
  | some schema =>
    obtain ⟨p, -, hget⟩ := Option.bind_eq_some_iff.1 hschema
    obtain ⟨fields, rfl⟩ :=
      Json.exists_fields_of_kind (hobjects _ (OrderedMap.get?_eq_some_iff.1 hget))
    rfl

theorem schemaFor?_eq_some_iff {schema : Json} : r.schemaFor? url = some schema ↔
    ∃ pattern, r.IsFirstIn url pattern ∧ r.sites.get? pattern = some schema := by
  rw [schemaFor?_of_objects hobjects, Option.bind_eq_some_iff]
  simp only [servingPattern?_eq_some_iff]

theorem schemaFor?_eq_none_iff :
    r.schemaFor? url = none ↔ ∀ p ∈ r.patterns, ¬p.toList <:+: url.toList := by
  rw [← servingPattern?_eq_none_iff, schemaFor?_of_objects hobjects, Option.bind_eq_none_iff]
  constructor
  · intro hnone
    -- a pattern has a schema
    by_contra hserved
    obtain ⟨p, hp⟩ := Option.ne_none_iff_exists'.1 hserved
    obtain ⟨before, after, hsplit, -⟩ := servingPattern?_eq_some_iff.1 hp
    have hmem : p ∈ r.sites.keys := by
      show p ∈ r.patterns
      simp [hsplit]
    obtain ⟨schema, hschema⟩ := OrderedMap.mem_keys_iff.1 hmem
    rw [hnone p hp] at hschema
    cases hschema
  · intro hnone p hp
    rw [hnone] at hp
    cases hp

end Objects

/-! ## One more layer -/

section Layer

variable (r) (further : OrderedMap Json)

/-- **Patterns after one more layer**: the old ones as they were, then the new ones. -/
theorem patterns_extended :
    (r.extended further).patterns = r.patterns ++ further.keys.filter (· ∉ r.patterns) :=
  OrderedMap.keys_merge r.sites further

/-- **Schemas after one more layer**: its own before the old ones. -/
theorem get?_extended (pattern : String) :
    (r.extended further).sites.get? pattern = (further.get? pattern).or (r.sites.get? pattern) :=
  OrderedMap.get?_merge r.sites further pattern

/-- Two layers are laid one after the other or as one. -/
theorem extended_merge (more : OrderedMap Json) :
    r.extended (further.merge more) = (r.extended further).extended more :=
  congrArg Registry.mk (OrderedMap.merge_insertAll r.sites further more.entries)

theorem get?_extended_of_not_mem {pattern : String} (h : pattern ∉ further.keys) :
    (r.extended further).sites.get? pattern = r.sites.get? pattern := by
  rw [get?_extended, OrderedMap.get?_eq_none_iff.2 h, Option.none_or]

/-- A layer of known patterns leaves the patterns as they are. -/
theorem patterns_extended_of_subset (h : further.keys ⊆ r.patterns) :
    (r.extended further).patterns = r.patterns := by
  have hnone : further.keys.filter (· ∉ r.patterns) = [] := by
    rw [List.filter_eq_nil_iff]
    intro p hp
    simpa using h hp
  rw [patterns_extended, hnone, List.append_nil]

/-- **A layer takes no address from its pattern**, whatever it writes. -/
theorem servingPattern?_extended_of_some (h : r.servingPattern? url = some pattern) :
    (r.extended further).servingPattern? url = some pattern := by
  rw [servingPattern?_eq_find?] at h ⊢
  rw [patterns_extended, List.find?_append, h, Option.some_or]

/-- An address that an old pattern serves after one more layer was served by it before. -/
theorem servingPattern?_of_extended (h : (r.extended further).servingPattern? url = some pattern)
    (hold : pattern ∈ r.patterns) : r.servingPattern? url = some pattern := by
  rw [servingPattern?_eq_find?, patterns_extended, List.find?_append, Option.or_eq_some_iff] at h
  rw [servingPattern?_eq_find?]
  rcases h with h | ⟨hnone, hnew⟩
  · exact h
  · -- the pattern stands in the address, so that the old patterns are not without one
    have hoccurs := List.find?_some hnew
    exact absurd hoccurs (List.find?_eq_none.1 hnone pattern hold)

/-- A layer of new patterns leaves the schema of a served address as it is. -/
theorem schemaFor?_extended_of_new (hserved : r.servingPattern? url = some pattern)
    (hold : pattern ∉ further.keys) : (r.extended further).schemaFor? url = r.schemaFor? url := by
  have hserving := servingPattern?_extended_of_some r further hserved
  apply schemaFor?_congr (hserving.trans hserved.symm)
  intro p hp
  obtain rfl : pattern = p := Option.some.inj (hserved.symm.trans hp)
  exact get?_extended_of_not_mem r further hold

/-- **A layer below** takes no address from a pattern that stands under both. -/
theorem servingPattern?_extended_below (more : OrderedMap Json)
    (h : (r.extended further).servingPattern? url = some pattern) (hold : pattern ∈ r.patterns) :
    ((r.extended more).extended further).servingPattern? url = some pattern := by
  -- the address is served below, and one more layer over that takes it from no pattern
  have hbelow : r.servingPattern? url = some pattern := servingPattern?_of_extended r further h hold
  have hmore := servingPattern?_extended_of_some r more hbelow
  exact servingPattern?_extended_of_some (r.extended more) further hmore

/-- A layer below of new patterns leaves the schema of an address that is served under it. -/
theorem schemaFor?_extended_below (more : OrderedMap Json)
    (h : (r.extended further).servingPattern? url = some pattern) (hold : pattern ∈ r.patterns)
    (hnew : ∀ p ∈ more.keys, p ∉ r.patterns) :
    ((r.extended more).extended further).schemaFor? url = (r.extended further).schemaFor? url := by
  have hserving := servingPattern?_extended_below r further more h hold
  apply schemaFor?_congr (hserving.trans h.symm)
  intro p hp
  obtain rfl : pattern = p := Option.some.inj (h.symm.trans hp)
  -- the pattern is an old one, so that its schema is not among the new ones
  have hnot : pattern ∉ more.keys := fun hmem => hnew pattern hmem hold
  rw [get?_extended, get?_extended_of_not_mem r more hnot, get?_extended]

end Layer

/-! ## All layers -/

/-- The built-in sites, those of a sites file over them, and extra sites over both. -/
def layered (file extra : OrderedMap Json) : Registry :=
  (overlaid file).extended extra

section Layered

variable (file extra : OrderedMap Json)

theorem patterns_overlaid : (overlaid file).patterns =
    Site.builtIn.keys ++ file.keys.filter (· ∉ Site.builtIn.keys) :=
  patterns_extended ⟨Site.builtIn⟩ file

theorem mem_patterns_overlaid {p : String} :
    p ∈ (overlaid file).patterns ↔ p ∈ Site.builtIn.keys ∨ p ∈ file.keys := by
  rw [patterns_overlaid, List.mem_append, List.mem_filter, decide_eq_true_iff]
  tauto

theorem patterns_layered : (layered file extra).patterns =
    Site.builtIn.keys ++ file.keys.filter (· ∉ Site.builtIn.keys) ++
      extra.keys.filter (fun p => p ∉ Site.builtIn.keys ∧ p ∉ file.keys) := by
  have hnew : extra.keys.filter (· ∉ (overlaid file).patterns) =
      extra.keys.filter fun p => p ∉ Site.builtIn.keys ∧ p ∉ file.keys := by
    apply List.filter_congr
    intro p _
    rw [decide_eq_decide, mem_patterns_overlaid, not_or]
  rw [layered, patterns_extended, hnew, patterns_overlaid]

theorem get?_layered (pattern : String) : (layered file extra).sites.get? pattern =
    (extra.get? pattern).or ((file.get? pattern).or (Site.builtIn.get? pattern)) := by
  rw [layered, get?_extended, overlaid, get?_extended]

variable {file extra} in
/-- What holds of the built-in sites and of those of both layers holds of all. -/
theorem forall_layered {P : Json → Prop} (hbuiltIn : ∀ s ∈ Site.builtIn.entries, P s.2)
    (hfile : ∀ s ∈ file.entries, P s.2) (hextra : ∀ s ∈ extra.entries, P s.2) :
    ∀ s ∈ (layered file extra).sites.entries, P s.2 := by
  intro s hs
  rcases OrderedMap.mem_or_mem_of_mem_entries_insertAll _ hs with hs | hs
  · exact forall_overlaid hbuiltIn hfile s hs
  · exact hextra s hs

theorem layered_merge_extra (more : OrderedMap Json) :
    layered file (extra.merge more) = (layered file extra).extended more :=
  extended_merge (overlaid file) extra more

theorem layered_merge_file (more : OrderedMap Json) :
    layered (file.merge more) extra = ((overlaid file).extended more).extended extra :=
  congrArg (extended · extra) (extended_merge ⟨Site.builtIn⟩ file more)

/-- Overriding known patterns in the upper layer leaves the patterns as they are. -/
theorem patterns_layered_merge_extra {more : OrderedMap Json}
    (hknown : more.keys ⊆ (layered file extra).patterns) :
    (layered file (extra.merge more)).patterns = (layered file extra).patterns := by
  rw [layered_merge_extra]
  exact patterns_extended_of_subset _ _ hknown

/-- Overriding known patterns in the lower layer leaves the patterns as they are. -/
theorem patterns_layered_merge_file {more : OrderedMap Json}
    (hknown : more.keys ⊆ (overlaid file).patterns) :
    (layered (file.merge more) extra).patterns = (layered file extra).patterns := by
  have hsame := patterns_extended_of_subset (overlaid file) more hknown
  rw [layered_merge_file, layered, patterns_extended, hsame, ← patterns_extended]

/-- **The registry of all layers.** It is the one of a workspace with the sites file. Its patterns
are the built-in ones, the new ones of the file and the new ones of the extra sites, in this order
and each once; the schema of a pattern is the one that the last layer with the pattern gives it.
If schemas are objects, an address has the schema of the first pattern that stands in it, and none
if no pattern does.

Whatever schemas are overridden, in the file or in the extra sites, every address is served by the
pattern that served it. New patterns do not change the schema of an address that was served: those
of the extra sites in no case, and those of the file if it was by a pattern that is not extra. -/
theorem layers_keep_order_and_routes (file extra : OrderedMap Json) :
    let r := layered file extra
    (∀ w : Workspace, w.furtherSites = .ok file →
      w.registry.map (fun q => q.extended extra) = .ok r) ∧
    (r.patterns = Site.builtIn.keys ++ file.keys.filter (· ∉ Site.builtIn.keys) ++
        extra.keys.filter (fun p => p ∉ Site.builtIn.keys ∧ p ∉ file.keys) ∧
      r.patterns.Nodup) ∧
    (∀ pattern, r.sites.get? pattern =
      (extra.get? pattern).or ((file.get? pattern).or (Site.builtIn.get? pattern))) ∧
    ((∀ s ∈ file.entries, s.2.kind = .obj) → (∀ s ∈ extra.entries, s.2.kind = .obj) → ∀ url,
      (∀ schema, r.schemaFor? url = some schema ↔
        ∃ pattern, r.IsFirstIn url pattern ∧ r.sites.get? pattern = some schema) ∧
      (r.schemaFor? url = none ↔ ∀ pattern ∈ r.patterns, ¬pattern.toList <:+: url.toList)) ∧
    (∀ more : OrderedMap Json,
      (more.keys ⊆ r.patterns → (layered file (extra.merge more)).SameRoutes r) ∧
      (more.keys ⊆ (overlaid file).patterns → (layered (file.merge more) extra).SameRoutes r)) ∧
    (∀ more : OrderedMap Json, ∀ url pattern, r.IsFirstIn url pattern →
      ((∀ p ∈ more.keys, p ∉ r.patterns) →
        (layered file (extra.merge more)).schemaFor? url = r.schemaFor? url) ∧
      (pattern ∈ (overlaid file).patterns → (∀ p ∈ more.keys, p ∉ (overlaid file).patterns) →
        (layered (file.merge more) extra).schemaFor? url = r.schemaFor? url)) := by
  intro r
  refine ⟨?registry, ⟨patterns_layered file extra, r.sites.nodup_keys⟩, get?_layered file extra,
    ?schemas, ?overridden, ?added⟩
  case registry =>
    intro w hfile
    rw [Workspace.registry_of_furtherSites hfile]
    rfl
  case schemas =>
    intro hfile hextra url
    -- all schemas of the registry are objects, so that none of them counts as nothing
    have hbuiltIn : ∀ s ∈ Site.builtIn.entries, s.2.kind = .obj := by
      intro s hs
      exact (Site.areSchemas_builtIn s hs).1
    have hobjects : ∀ s ∈ r.sites.entries, s.2.kind = .obj :=
      forall_layered (P := fun v => v.kind = .obj) hbuiltIn hfile hextra
    exact ⟨fun schema => schemaFor?_eq_some_iff hobjects, schemaFor?_eq_none_iff hobjects⟩
  case overridden =>
    intro more
    constructor
    · intro hknown
      exact sameRoutes_of_patterns (patterns_layered_merge_extra file extra hknown)
    · intro hknown
      exact sameRoutes_of_patterns (patterns_layered_merge_file file extra hknown)
  case added =>
    intro more url pattern hfirst
    have hserved : r.servingPattern? url = some pattern := servingPattern?_eq_some_iff.2 hfirst
    constructor
    · intro hnew
      have hold : pattern ∈ r.patterns := by
        obtain ⟨before, after, hsplit, -⟩ := hfirst
        simp [hsplit]
      rw [layered_merge_extra]
      exact schemaFor?_extended_of_new r more hserved fun hmem => hnew pattern hmem hold
    · intro hold hnew
      rw [layered_merge_file]
      exact schemaFor?_extended_below (overlaid file) extra more hserved hold hnew

end Layered

/-- A schema of a site, which says nothing but where the site is. -/
def schemaOf (county : String) : Json :=
  .obj [("parcel", .obj [("constants", Site.inCounty county)])]

/-- Sites of a file. -/
def fileSites : OrderedMap Json :=
  .ofList [("www.miamidade.gov", schemaOf "Dade"), ("pa.example.org", schemaOf "Lee")]

/-- Extra sites. The second one is also in the file, and the first one is a part of it. -/
def extraSites : OrderedMap Json :=
  .ofList [("example.org", schemaOf "Polk"), ("pa.example.org", schemaOf "Leon")]

/-- A site whose pattern stands in addresses of the others. -/
def parcelSite : OrderedMap Json :=
  .ofList [("parcel", schemaOf "Clay")]

/-- A site that is known by both layers. -/
def knownSite : OrderedMap Json :=
  .ofList [("pa.example.org", schemaOf "Clay")]

/-- An address with the patterns of two sites goes to the one of the file, with its extra schema;
and so it does when other sites are added. -/
theorem layers_keep_order_and_routes_two_patterns :
    let r := layered fileSites extraSites
    let url := "https://pa.example.org/parcel"
    (Workspace.ofPage fileSites "").registry.map (fun q => q.extended extraSites) = .ok r ∧
      r.patterns = ["web.bcpa.net", "www.miamidade.gov", "paopropertysearch.coj.net",
        "collierappraiser.com", "pa.example.org", "example.org"] ∧
      r.IsFirstIn url "pa.example.org" ∧ r.schemaFor? url = some (schemaOf "Leon") ∧
      (layered fileSites (extraSites.merge knownSite)).SameRoutes r ∧
      (layered (fileSites.merge knownSite) extraSites).SameRoutes r ∧
      (layered fileSites (extraSites.merge parcelSite)).schemaFor? url = some (schemaOf "Leon") ∧
      (layered (fileSites.merge parcelSite) extraSites).schemaFor? url =
        some (schemaOf "Leon") := by
  intro r url
  obtain ⟨hregistry, ⟨hpatterns, -⟩, hschemas, hmatch, hoverridden, hadded⟩ :=
    layers_keep_order_and_routes fileSites extraSites
  have hregular : (Json.obj fileSites.entries).IsRegular := by
    have hentries : fileSites.entries =
        [("www.miamidade.gov", schemaOf "Dade"), ("pa.example.org", schemaOf "Lee")] := rfl
    simp [hentries, schemaOf, Site.inCounty, Json.isRegular_obj_iff, Json.IsRegular.str]
  have hfurther := Workspace.furtherSites_ofPage fileSites "" hregular (by decide +kernel)
  have hfile : ∀ s ∈ fileSites.entries, s.2.kind = .obj := by decide
  have hextra : ∀ s ∈ extraSites.entries, s.2.kind = .obj := by decide
  have hfirst : r.IsFirstIn url "pa.example.org" :=
    ⟨["web.bcpa.net", "www.miamidade.gov", "paopropertysearch.coj.net", "collierappraiser.com"],
      ["example.org"], by decide +kernel, by decide +kernel, by decide +kernel⟩
  have hleon : r.schemaFor? url = some (schemaOf "Leon") :=
    ((hmatch hfile hextra url).1 _).2 ⟨"pa.example.org", hfirst, hschemas "pa.example.org"⟩
  obtain ⟨hextraAdded, hfileAdded⟩ := hadded parcelSite url "pa.example.org" hfirst
  refine ⟨hregistry _ hfurther, hpatterns.trans (by decide +kernel), hfirst, hleon,
    (hoverridden knownSite).1 (by decide +kernel), (hoverridden knownSite).2 (by decide +kernel),
    ?_, ?_⟩
  · exact (hextraAdded (by decide +kernel)).trans hleon
  · exact (hfileAdded (by decide +kernel) (by decide +kernel)).trans hleon

end Registry

end ParcelRecords
