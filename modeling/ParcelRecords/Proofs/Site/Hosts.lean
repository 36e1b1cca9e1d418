import Mathlib.Data.List.TakeWhile
import ParcelRecords.Proofs.Site.Routing
import ParcelRecords.Proofs.Text.AsciiCase
import ParcelRecords.Proofs.Text.Pieces

/-!
# Main domains of hosts

The main domain of an address is the end of its host, and a host is its own host: a text without
slashes has neither a scheme nor a path to lose. So the main domain of a main domain is itself, and
all addresses of one host have the main domain of the host, whatever scheme and path they have. A
registry then names them alike. It serves all of them if the host is one of its patterns, and names
them by the host; this is the name of unknown sites only for the host that is called so.

## Main definitions

* `Site.IsScheme`: the beginning of an address that is no part of the host
* `Site.IsAddressAt`: an address of a host, with or without a path

## Main results

* `Site.dropScheme_append`, `Site.dropScheme_of_slash_free`: what is taken off as a scheme
* `Site.lastLabels_suffix`, `Site.lastLabels_lastLabels`: the main domain is the end of a host
* `Site.mainDomain_of_isAddressAt`: all addresses of a host have its main domain
* `Registry.hosts_have_one_name`: the laws of main domains, and the names of the addresses of a host
-/

namespace ParcelRecords

namespace Site

open Text (eqIgnoringCase foldCase lowerAscii splitAt occursIn)

/-- A scheme: one of two words with what parts it from the host, in any letter case. -/
def IsScheme (p : String) : Prop :=
  ∃ word ∈ ["http", "https"], eqIgnoringCase p.toList (word ++ "://").toList = true

/-- An address of a host: behind a scheme, with or without a path. -/
def IsAddressAt (h url : String) : Prop :=
  ∃ p, IsScheme p ∧ (url = p ++ h ∨ ∃ rest, url = p ++ h ++ "/" ++ rest)

theorem isScheme_iff {p : String} :
    IsScheme p ↔ eqIgnoringCase p.toList "http://".toList = true ∨
      eqIgnoringCase p.toList "https://".toList = true := by
  simp only [IsScheme, List.mem_cons, List.not_mem_nil, or_false, exists_eq_or_imp,
    exists_eq_left]
  rfl

/-- The two words in any case of their letters are schemes. -/
theorem isScheme_of_lowerAscii {p : String} (word : String) (hword : word ∈ ["http", "https"])
    (h : lowerAscii p = word ++ "://") : IsScheme p := by
  have hsmall : ∀ w ∈ ["http", "https"], lowerAscii (w ++ "://") = w ++ "://" := by
    decide
  exact ⟨word, hword, Text.eqIgnoringCase_of_lowerAscii (h.trans (hsmall word hword).symm)⟩

/-! ## Schemes -/

section Scheme

variable {start p cs rest : List Char}

theorem map_foldCase_of_eqIgnoringCase (h : eqIgnoringCase p start = true) :
    p.map foldCase = start.map foldCase :=
  beq_iff_eq.1 h

theorem length_of_eqIgnoringCase (h : eqIgnoringCase p start = true) :
    p.length = start.length := by
  simpa using congrArg List.length (map_foldCase_of_eqIgnoringCase h)

/-- What begins with `start` up to case loses that much. -/
theorem afterIgnoringCase?_append (h : eqIgnoringCase p start = true) (cs : List Char) :
    afterIgnoringCase? start (p ++ cs) = some cs := by
  have hlength := length_of_eqIgnoringCase h
  rw [afterIgnoringCase?, ← hlength, List.take_left, if_pos h, List.drop_left]

/-- A slash is found only where there is one. -/
theorem afterIgnoringCase?_of_slash_free (hstart : '/' ∈ start) (hcs : '/' ∉ cs) :
    afterIgnoringCase? start cs = none := by
  rw [afterIgnoringCase?, if_neg]
  intro heq
  have hfold := map_foldCase_of_eqIgnoringCase heq
  have hslash : '/' ∈ (cs.take start.length).map foldCase := by
    rw [hfold]
    exact List.mem_map.2 ⟨'/', hstart, by decide +kernel⟩
  obtain ⟨c, hc, hcslash⟩ := List.mem_map.1 hslash
  -- a sign has no case, so the text has the slash itself
  have hsame : c = '/' := Text.eq_of_foldCase_eq_sign (by decide) hcslash
  exact hcs (List.mem_of_mem_take (hsame ▸ hc))

/-- The longer scheme is not read where the shorter one stands. -/
theorem afterIgnoringCase?_https_of_http (h : eqIgnoringCase p "http://".toList = true)
    (cs : List Char) : afterIgnoringCase? "https://".toList (p ++ cs) = none := by
  rw [afterIgnoringCase?, if_neg]
  intro heq
  have hfold := map_foldCase_of_eqIgnoringCase heq
  rw [List.map_take, List.map_append, map_foldCase_of_eqIgnoringCase h,
    show "http://".toList = ['h', 't', 't', 'p', ':', '/', '/'] from rfl,
    show "https://".toList = ['h', 't', 't', 'p', 's', ':', '/', '/'] from rfl] at hfold
  simp only [List.map_cons, List.length_cons, List.cons_append, List.take_succ_cons,
    List.cons.injEq] at hfold
  -- they differ at the fifth character: a colon is no letter in any case
  obtain ⟨-, -, -, -, hfifth, -⟩ := hfold
  exact absurd hfifth (by decide +kernel)

/-- **A scheme is taken off** an address. -/
theorem dropScheme_append {p : String} (hp : IsScheme p) (cs : List Char) :
    dropScheme (p.toList ++ cs) = cs := by
  rcases isScheme_iff.1 hp with h | h
  · rw [dropScheme, afterIgnoringCase?_https_of_http h, afterIgnoringCase?_append h]
    rfl
  · rw [dropScheme, afterIgnoringCase?_append h]

/-- **Without a slash** there is no scheme. -/
theorem dropScheme_of_slash_free (h : '/' ∉ cs) : dropScheme cs = cs := by
  rw [dropScheme, afterIgnoringCase?_of_slash_free (by decide) h,
    afterIgnoringCase?_of_slash_free (by decide) h]
  rfl

end Scheme

/-! ## Hosts -/

section Host

variable {cs : List Char} {h url : String}

theorem slash_not_mem_host (cs : List Char) : '/' ∉ host cs := by
  intro hmem
  simpa using List.all_eq_true.1 List.all_takeWhile '/' hmem

theorem takeWhile_of_slash_free (h : '/' ∉ cs) : cs.takeWhile (· ≠ '/') = cs := by
  rw [List.takeWhile_eq_self_iff]
  intro c hc
  have hne : c ≠ '/' := fun heq => h (heq ▸ hc)
  simpa using hne

/-- A text without slashes is its own host. -/
theorem host_of_slash_free (h : '/' ∉ cs) : host cs = cs := by
  rw [host, dropScheme_of_slash_free h, takeWhile_of_slash_free h]

/-- **The host of an address** is the one it is an address of. -/
theorem host_of_isAddressAt (hslash : '/' ∉ h.toList) (haddress : IsAddressAt h url) :
    host url.toList = h.toList := by
  obtain ⟨p, hp, rfl | ⟨rest, rfl⟩⟩ := haddress
  · rw [String.toList_append, host, dropScheme_append hp, takeWhile_of_slash_free hslash]
  · have hsplit : (p ++ h ++ "/" ++ rest).toList =
        p.toList ++ (h.toList ++ '/' :: rest.toList) := by
      simp
    rw [hsplit, host, dropScheme_append hp, List.takeWhile_append_of_pos]
    · simp
    · intro c hc
      have hne : c ≠ '/' := fun heq => hslash (heq ▸ hc)
      simpa using hne

end Host

/-! ## Labels -/

section Labels

variable {cs : List Char}

/-- The last labels of a host: the host itself, or its last two labels with a point between. -/
theorem splitAt_lastLabels (cs : List Char) :
    splitAt '.' (lastLabels cs) = (splitAt '.' cs).drop ((splitAt '.' cs).length - 2) := by
  simp only [lastLabels]
  by_cases hmore : 2 < (splitAt '.' cs).length
  · rw [if_pos hmore]
    apply Text.splitAt_joinWith
    · intro hnil
      have hlength := congrArg List.length hnil
      rw [List.length_drop, List.length_nil] at hlength
      omega
    · exact fun piece hpiece => Text.not_mem_of_mem_splitAt (List.mem_of_mem_drop hpiece)
  · have hzero : (splitAt '.' cs).length - 2 = 0 := by omega
    rw [if_neg hmore, hzero, List.drop_zero]

theorem length_splitAt_lastLabels (cs : List Char) :
    (splitAt '.' (lastLabels cs)).length ≤ 2 := by
  rw [splitAt_lastLabels, List.length_drop]
  omega

/-- **The last labels are the end** of a host. -/
theorem lastLabels_suffix (cs : List Char) : lastLabels cs <:+ cs := by
  simp only [lastLabels]
  split
  · have hsuffix := Text.joinWith_drop_suffix ['.'] (splitAt '.' cs) ((splitAt '.' cs).length - 2)
    rwa [Text.joinWith_splitAt] at hsuffix
  · exact List.suffix_rfl

theorem lastLabels_of_count_le (h : cs.count '.' ≤ 1) : lastLabels cs = cs := by
  have hlength : ¬2 < (splitAt '.' cs).length := by
    rw [Text.length_splitAt]
    omega
  exact if_neg hlength

theorem count_lastLabels (cs : List Char) : (lastLabels cs).count '.' ≤ 1 := by
  have hlength := length_splitAt_lastLabels cs
  rw [Text.length_splitAt] at hlength
  omega

theorem lastLabels_lastLabels (cs : List Char) : lastLabels (lastLabels cs) = lastLabels cs :=
  lastLabels_of_count_le (count_lastLabels cs)

/-- Last labels without a point are all there is. -/
theorem eq_of_lastLabels_of_not_mem (h : '.' ∉ lastLabels cs) : lastLabels cs = cs := by
  have hone : (splitAt '.' (lastLabels cs)).length = 1 := by
    rw [Text.splitAt_of_not_mem h]
    rfl
  rw [splitAt_lastLabels, List.length_drop] at hone
  have hmany : ¬2 < (splitAt '.' cs).length := by omega
  exact if_neg hmany

end Labels

/-! ## Main domains -/

section MainDomain

variable {h url : String}

theorem toList_mainDomain (url : String) :
    (mainDomain url).toList = lastLabels (host url.toList) :=
  String.toList_ofList

theorem slash_not_mem_mainDomain (url : String) : '/' ∉ (mainDomain url).toList := by
  rw [toList_mainDomain]
  intro hmem
  exact slash_not_mem_host url.toList ((lastLabels_suffix _).mem hmem)

/-- The main domain of a text without slashes is the end of the text. -/
theorem toList_mainDomain_of_slash_free (hslash : '/' ∉ h.toList) :
    (mainDomain h).toList = lastLabels h.toList := by
  rw [toList_mainDomain, host_of_slash_free hslash]

/-- **The main domain of a main domain** is itself. -/
theorem mainDomain_mainDomain (url : String) : mainDomain (mainDomain url) = mainDomain url := by
  apply String.toList_inj.1
  rw [toList_mainDomain_of_slash_free (slash_not_mem_mainDomain url), toList_mainDomain,
    lastLabels_lastLabels]

/-- **All addresses of a host** have its main domain. -/
theorem mainDomain_of_isAddressAt (hslash : '/' ∉ h.toList) (haddress : IsAddressAt h url) :
    mainDomain url = mainDomain h := by
  apply String.toList_inj.1
  rw [toList_mainDomain, host_of_isAddressAt hslash haddress,
    toList_mainDomain_of_slash_free hslash]

/-- A main domain without a point is that of no other host. -/
theorem mainDomain_eq_iff_of_plain {name : String} (hslash : '/' ∉ h.toList)
    (hname : '.' ∉ name.toList) : mainDomain h = name ↔ h = name := by
  have hdomain := toList_mainDomain_of_slash_free hslash
  constructor
  · intro heq
    rw [heq] at hdomain
    have hend : '.' ∉ lastLabels h.toList := hdomain ▸ hname
    rw [eq_of_lastLabels_of_not_mem hend] at hdomain
    exact String.toList_inj.1 hdomain.symm
  · rintro rfl
    apply String.toList_inj.1
    rw [hdomain]
    exact lastLabels_of_count_le (by rw [List.count_eq_zero.2 hname]; omega)

/-- A host occurs in each of its addresses. -/
theorem IsAddressAt.occursIn (haddress : IsAddressAt h url) : occursIn h url = true := by
  rw [Text.occursIn_iff]
  obtain ⟨p, -, rfl | ⟨rest, rfl⟩⟩ := haddress
  · exact ⟨p.toList, [], by simp⟩
  · exact ⟨p.toList, ("/" ++ rest).toList, by simp⟩

end MainDomain

end Site

/-! ## Names of the addresses of a host -/

namespace Registry

open Site (mainDomain IsAddressAt)

variable {r : Registry} {h url : String}

/-- The name of an address depends on its main domain alone. -/
theorem siteName_congr {other : String} (hdomain : mainDomain url = mainDomain other) :
    r.siteName url = r.siteName other := by
  simp only [siteName, hdomain]

/-- **A pattern serves its addresses**, if it is a host: it occurs in them, so that some pattern is
the first to do so. -/
theorem exists_isServing_of_isAddressAt (hpattern : h ∈ r.patterns)
    (haddress : IsAddressAt h url) : ∃ site, r.IsServing url site := by
  cases hfirst : r.first? url with
  | some site => exact ⟨site, first?_eq_some_iff.1 hfirst⟩
  | none =>
    have hnone := first?_eq_none_iff.1 hfirst h hpattern
    rw [haddress.occursIn] at hnone
    cases hnone

/-- **The addresses of a pattern have its name**, if it is a host. -/
theorem siteName_of_isAddressAt (hslash : '/' ∉ h.toList) (hpattern : h ∈ r.patterns)
    (haddress : IsAddressAt h url) : r.siteName url = mainDomain h := by
  have hdomain := Site.mainDomain_of_isAddressAt hslash haddress
  rw [siteName_of_mem, hdomain]
  rw [hdomain]
  exact List.mem_map_of_mem hpattern

/-- **The addresses of a host have one name**. The main domain of any text is its own main domain,
has no slash and at most one point. All addresses of a host have the main domain of the host, so
that every registry names them alike. If the host is a pattern of the registry, they are named by
its main domain, which is what unknown sites are called only if the host is called so itself; and
where all schemas are objects, they are served. -/
theorem hosts_have_one_name :
    (∀ url, mainDomain (mainDomain url) = mainDomain url ∧ '/' ∉ (mainDomain url).toList ∧
      (mainDomain url).toList.count '.' ≤ 1) ∧
    ∀ h url, '/' ∉ h.toList → IsAddressAt h url →
      mainDomain url = mainDomain h ∧ ∀ r : Registry, r.siteName url = r.siteName h ∧
        (h ∈ r.patterns →
          r.siteName url = mainDomain h ∧ (r.siteName url = unknownSite ↔ h = unknownSite) ∧
          ((∀ s ∈ r.sites.entries, ∃ fields, s.2 = .obj fields) →
            ∃ site, r.IsServing url site ∧ r.schemaFor? url = some site.2)) := by
  constructor
  · intro url
    refine ⟨Site.mainDomain_mainDomain url, Site.slash_not_mem_mainDomain url, ?_⟩
    rw [Site.toList_mainDomain]
    exact Site.count_lastLabels _
  · intro h url hslash haddress
    have hdomain := Site.mainDomain_of_isAddressAt hslash haddress
    refine ⟨hdomain, fun r => ⟨siteName_congr hdomain, fun hpattern => ?_⟩⟩
    have hname := siteName_of_isAddressAt hslash hpattern haddress
    refine ⟨hname, ?_, fun hobjects => ?_⟩
    · rw [hname]
      exact Site.mainDomain_eq_iff_of_plain hslash (by decide)
    · obtain ⟨site, hserving⟩ := exists_isServing_of_isAddressAt hpattern haddress
      obtain ⟨fields, hschema⟩ := hobjects site hserving.mem
      exact ⟨site, hserving, schemaFor?_of_isServing hserving hschema⟩

/-- A scheme in capitals and a path with a slash of its own: the host is the second pattern, and the
first one occurs nowhere. -/
theorem hosts_have_one_name_second_pattern :
    let r : Registry := ⟨.ofList [("web.bcpa.net", .obj []), ("www.miamidade.gov", .obj [])]⟩
    let url := "HTTPS://www.miamidade.gov/search//folio"
    '/' ∉ "www.miamidade.gov".toList ∧ IsAddressAt "www.miamidade.gov" url ∧
      "www.miamidade.gov" ∈ r.patterns ∧ (∀ s ∈ r.sites.entries, ∃ fields, s.2 = .obj fields) ∧
      mainDomain url = "miamidade.gov" ∧ r.siteName url = "miamidade.gov" ∧
      r.schemaFor? url = some (.obj []) := by
  intro r url
  have hslash : '/' ∉ "www.miamidade.gov".toList := by decide
  have hscheme : Site.IsScheme "HTTPS://" :=
    Site.isScheme_of_lowerAscii "https" (by decide) (by decide +kernel)
  have haddress : IsAddressAt "www.miamidade.gov" url :=
    ⟨"HTTPS://", hscheme, .inr ⟨"search//folio", rfl⟩⟩
  have hpattern : "www.miamidade.gov" ∈ r.patterns := by decide
  have hempty : ∀ s ∈ r.sites.entries, s.2 = .obj [] := by
    intro s hs
    have hs' : s = ("web.bcpa.net", .obj []) ∨ s = ("www.miamidade.gov", .obj []) := by
      simpa [r, OrderedMap.ofList, OrderedMap.insertAll, upsert] using hs
    rcases hs' with rfl | rfl <;> rfl
  have hobjects : ∀ s ∈ r.sites.entries, ∃ fields, s.2 = .obj fields :=
    fun s hs => ⟨[], hempty s hs⟩
  have hdomain : mainDomain "www.miamidade.gov" = "miamidade.gov" := by decide +kernel
  obtain ⟨hsame, hregistry⟩ := hosts_have_one_name.2 "www.miamidade.gov" url hslash haddress
  obtain ⟨hname, -, hserved⟩ := (hregistry r).2 hpattern
  obtain ⟨site, hserving, hschema⟩ := hserved hobjects
  exact ⟨hslash, haddress, hpattern, hobjects, hsame.trans hdomain, hname.trans hdomain,
    hempty site hserving.mem ▸ hschema⟩

/-- **A host that is called like unknown sites** has this name, although its address is served. -/
theorem served_host_called_unknown :
    let r : Registry := ⟨.ofList [("Unknown Site", .obj [])]⟩
    '/' ∉ "Unknown Site".toList ∧ IsAddressAt "Unknown Site" "https://Unknown Site" ∧
      "Unknown Site" ∈ r.patterns ∧ (∀ s ∈ r.sites.entries, ∃ fields, s.2 = .obj fields) ∧
      r.schemaFor? "https://Unknown Site" = some (.obj []) ∧
      r.siteName "https://Unknown Site" = "Unknown Site" := by
  intro r
  have hserving : r.IsServing "https://Unknown Site" ("Unknown Site", .obj []) :=
    ⟨[], [], rfl, by decide, by simp⟩
  have hscheme : Site.IsScheme "https://" :=
    Site.isScheme_of_lowerAscii "https" (by decide) (by decide +kernel)
  have hobjects : ∀ s ∈ r.sites.entries, ∃ fields, s.2 = .obj fields := by
    intro s hs
    obtain rfl := List.mem_singleton.1 hs
    exact ⟨[], rfl⟩
  exact ⟨by decide, ⟨"https://", hscheme, .inl rfl⟩, by decide, hobjects,
    schemaFor?_of_isServing hserving rfl, by decide +kernel⟩

end Registry

end ParcelRecords
