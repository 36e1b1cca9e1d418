import Mathlib.Data.List.Pairwise
import Mathlib.Logic.Relation
import ParcelRecords.Proofs.Entry.Alike
import ParcelRecords.Proofs.OrderedMap.Merge
import ParcelRecords.Proofs.Text.AsciiCase

/-!
# The spelling of keys

An object may be edited without a change of what it says: a key can be written in its other
spelling, a key that means nothing can be added, and a name can be written with other letters or
blanks. One edit leaves what is read at every key, or replaces it by a value that stands for it, and
so does not change what a check of the object comes to. Any number of edits follows by induction.

The keys of an object are distinct, so that no edit writes a key in a spelling that is taken: which
of two spellings counts never comes up. An object with one spelling of each field can have any of
its keys respelled.

## Main definitions

* `Layout`: the fields of a sort of objects, each with the values that stand for each other in it
* `Edit`: one edit of an object
* `Respelled`: values with any number of edits between them
* `SameName`: names up to the case of plain letters and the blanks around them
* `Entry.filterLayout`, `Entry.layout`: the fields of row filters and of entries

## Main results

* `Edit.agree`: one edit keeps the value of every field, or puts one for it that stands for it
* `respects_respelled`: what is known of objects that agree holds after any number of edits
* `respelled_rename`: any keys of an object can be respelled at once
* `Entry.alike_read`: a respelled entry is read as before, or refused for the same faults
-/

namespace ParcelRecords.Entry

open Checked

/-! ## Fields -/

/-- The spellings of a key. -/
def Key.spellings (key : Key) : List String :=
  [key.camel, key.snake]

/-- The value that an object holds for a key. -/
def Key.value? (key : Key) (fields : OrderedMap Json) : Option Json :=
  (fields.get? key.camel).or (fields.get? key.snake)

theorem Key.map_snd_find? (key : Key) (fields : OrderedMap Json) :
    (key.find? fields).map Prod.snd = key.value? fields := by
  unfold Key.find? Key.value?
  cases fields.get? key.camel with
  | some v => rfl
  | none => cases fields.get? key.snake <;> rfl

/-- A field of an object, with the values that stand for each other in it. -/
structure Field where
  key : Key
  same : Json → Json → Prop
  refl : ∀ v, same v v

/-- The fields of a sort of objects. No two of them share a spelling. -/
structure Layout where
  fields : List Field
  disjoint : fields.Pairwise fun f g => ∀ s ∈ f.key.spellings, s ∉ g.key.spellings

/-- A spelling tells its field. -/
theorem Layout.eq_of_mem_spellings (layout : Layout) {f g : Field} (hf : f ∈ layout.fields)
    (hg : g ∈ layout.fields) {s : String} (hsf : s ∈ f.key.spellings)
    (hsg : s ∈ g.key.spellings) : f = g := by
  have hsymm : Std.Symm fun f g : Field => ∀ s ∈ f.key.spellings, s ∉ g.key.spellings :=
    ⟨fun _ _ h s hs hs' => h s hs' hs⟩
  by_contra hne
  exact layout.disjoint.forall hf hg hne s hsf hsg

/-! ## Edits -/

/-- **One edit** of an object; the order of its keys does not count. -/
inductive Edit (layout : Layout) (m n : OrderedMap Json) : Prop where
  /-- A field is written in either spelling, with a value that stands for its own. -/
  | rewrite {f : Field} {s t : String} {v w : Json} {rest : List (String × Json)}
      (hf : f ∈ layout.fields) (hs : s ∈ f.key.spellings) (ht : t ∈ f.key.spellings)
      (hvw : f.same v w) (hm : m.entries.Perm ((s, v) :: rest))
      (hn : n.entries.Perm ((t, w) :: rest))
  /-- A key that is no spelling of a field is added. -/
  | extra {k : String} {v : Json} (hk : ∀ f ∈ layout.fields, k ∉ f.key.spellings)
      (hn : n.entries.Perm ((k, v) :: m.entries))

theorem rel_or {same : Json → Json → Prop} {a b c d : Option Json} (hac : Option.Rel same a c)
    (hbd : Option.Rel same b d) : Option.Rel same (a.or b) (c.or d) := by
  cases hac with
  | some h => exact .some h
  | none => exact hbd

theorem Field.rel_refl (f : Field) (a : Option Json) : Option.Rel f.same a a := by
  cases a with
  | some v => exact .some (f.refl v)
  | none => exact .none

/-- What an object holds for a key depends on the spellings of the key alone. -/
theorem Field.rel_value? {f : Field} {m n : OrderedMap Json}
    (h : ∀ s ∈ f.key.spellings, Option.Rel f.same (m.get? s) (n.get? s)) :
    Option.Rel f.same (f.key.value? m) (f.key.value? n) :=
  rel_or (h _ (.head _)) (h _ (.tail _ (.head _)))

/-- An object that holds one spelling of a key and not the other holds its value. -/
theorem Key.value?_eq_some {key : Key} {m : OrderedMap Json} {s t : String}
    (hs : s ∈ key.spellings) (ht : t ∈ key.spellings) (hne : s ≠ t) {v : Json}
    (hv : m.get? s = some v) (hnone : m.get? t = none) : key.value? m = some v := by
  simp only [Key.spellings, List.mem_cons, List.not_mem_nil, or_false] at hs ht
  unfold Key.value?
  rcases hs with rfl | rfl
  · rw [hv, Option.some_or]
  · rcases ht with rfl | rfl
    · rw [hnone, hv, Option.none_or]
    · exact absurd rfl hne

/-- Objects **agree** if what they hold for every field stands for each other. -/
def Layout.Agree (layout : Layout) (m n : OrderedMap Json) : Prop :=
  ∀ f ∈ layout.fields, Option.Rel f.same (f.key.value? m) (f.key.value? n)

theorem Layout.agree_refl (layout : Layout) (m : OrderedMap Json) : layout.Agree m m :=
  fun f _ => f.rel_refl _

/-- **One edit** leaves an object that agrees with the one before. -/
theorem Edit.agree {layout : Layout} {m n : OrderedMap Json} (h : Edit layout m n) :
    layout.Agree m n := by
  intro f hf
  cases h with
  | @extra k v hk hn =>
    obtain ⟨hget, -⟩ := OrderedMap.get?_of_perm_cons hn
    apply Field.rel_value?
    intro s hs
    have hne : s ≠ k := fun heq => hk f hf (heq ▸ hs)
    rw [hget, if_neg hne]
    exact f.rel_refl _
  | @rewrite g s t v w rest hg hs ht hvw hm hn =>
    obtain ⟨hgetm, hrests⟩ := OrderedMap.get?_of_perm_cons hm
    obtain ⟨hgetn, hrestt⟩ := OrderedMap.get?_of_perm_cons hn
    by_cases hst : s = t
    · -- the key stays, and only the value of `g` at it is another
      subst hst
      apply Field.rel_value?
      intro j hj
      rw [hgetm, hgetn]
      by_cases hjs : j = s
      · subst hjs
        rw [if_pos rfl, if_pos rfl, layout.eq_of_mem_spellings hf hg hj hs]
        exact .some hvw
      · rw [if_neg hjs, if_neg hjs]
        exact f.rel_refl _
    · by_cases hfg : f = g
      · -- neither object holds the spelling that the other one uses
        subst hfg
        have hvalue : f.key.value? m = some v :=
          Key.value?_eq_some hs ht hst (by rw [hgetm, if_pos rfl])
            (by rw [hgetm, if_neg (Ne.symm hst), hrestt])
        have hvalue' : f.key.value? n = some w :=
          Key.value?_eq_some ht hs (Ne.symm hst) (by rw [hgetn, if_pos rfl])
            (by rw [hgetn, if_neg hst, hrests])
        rw [hvalue, hvalue']
        exact .some hvw
      · -- the spellings of `f` are neither `s` nor `t`
        apply Field.rel_value?
        intro j hj
        have hjs : j ≠ s := fun heq => hfg (layout.eq_of_mem_spellings hf hg (heq ▸ hj) hs)
        have hjt : j ≠ t := fun heq => hfg (layout.eq_of_mem_spellings hf hg (heq ▸ hj) ht)
        rw [hgetm, hgetn, if_neg hjs, if_neg hjt]
        exact f.rel_refl _

/-- Objects with an edit between them. -/
def Edited (layout : Layout) (v w : Json) : Prop :=
  ∃ m n, v.fields? = some m ∧ w.fields? = some n ∧ Edit layout m n

/-- An object written with distinct keys has these fields. -/
theorem fields?_obj {es : List (String × Json)} (h : (es.map Prod.fst).Nodup) :
    (Json.obj es).fields? = some ⟨es, h⟩ :=
  congrArg some (OrderedMap.ext (OrderedMap.entries_ofList_of_nodup h))

/-- An edit of one field where it stands. -/
theorem edited_of_field {layout : Layout} {f : Field} (hf : f ∈ layout.fields) {s t : String}
    (hs : s ∈ f.key.spellings) (ht : t ∈ f.key.spellings) {v w : Json} (hvw : f.same v w)
    (pre post : List (String × Json)) (hbefore : ((pre ++ (s, v) :: post).map Prod.fst).Nodup)
    (hafter : ((pre ++ (t, w) :: post).map Prod.fst).Nodup) :
    Edited layout (.obj (pre ++ (s, v) :: post)) (.obj (pre ++ (t, w) :: post)) :=
  ⟨_, _, fields?_obj hbefore, fields?_obj hafter,
    .rewrite hf hs ht hvw List.perm_middle List.perm_middle⟩

/-- **Respelled** values have any number of edits between them. -/
def Respelled (layout : Layout) : Json → Json → Prop :=
  Relation.ReflTransGen (Edited layout)

/-- The check of a key comes out alike on objects that agree. -/
theorem Layout.Agree.readKey {layout : Layout} {m n : OrderedMap Json} (h : layout.Agree m n)
    {α : Type} {f : Field} (hf : f ∈ layout.fields) {check : List String → Json → Checked α}
    (hcheck : Respects f.same check) (default : α) (p q : List String) :
    (readKey m p f.key default check).Alike (readKey n q f.key default check) := by
  have hvalue := h f hf
  rw [← Key.map_snd_find?, ← Key.map_snd_find?] at hvalue
  unfold Entry.readKey
  cases hm : f.key.find? m with
  | none =>
    cases hn : f.key.find? n with
    | none => exact .refl _
    | some b => rw [hm, hn] at hvalue; cases hvalue
  | some a =>
    cases hn : f.key.find? n with
    | none => rw [hm, hn] at hvalue; cases hvalue
    | some b =>
      rw [hm, hn] at hvalue
      cases hvalue with
      | some hab => exact hcheck _ _ _ _ hab

/-- **Any number of edits** is respected by a check that comes out alike on objects that agree. -/
theorem respects_respelled {α : Type} {layout : Layout} {check : List String → Json → Checked α}
    (hother : ∀ p q v, v.fields? = none → (check p v).Alike (check q v))
    (hagree : ∀ p q v w m n, v.fields? = some m → w.fields? = some n → layout.Agree m n →
      (check p v).Alike (check q w)) : Respects (Respelled layout) check := by
  intro p q v w h
  induction h with
  | refl =>
    cases hv : v.fields? with
    | none => exact hother p q v hv
    | some m => exact hagree p q v v m m hv hv (layout.agree_refl m)
  | tail _ hstep ih =>
    obtain ⟨m, n, hm, hn, hedit⟩ := hstep
    exact ih.trans (hagree q q _ _ m n hm hn hedit.agree)

/-- Edits are of objects: what is null stays null, and nothing else becomes null. -/
theorem Respelled.eq_null_iff {layout : Layout} {v w : Json} (h : Respelled layout v w) :
    v = .null ↔ w = .null := by
  induction h with
  | refl => exact Iff.rfl
  | tail _ hstep ih =>
    obtain ⟨m, n, hm, hn, -⟩ := hstep
    have hne {u : Json} {fields : OrderedMap Json} (hu : u.fields? = some fields) : u ≠ .null :=
      fun heq => by rw [heq] at hu; cases hu
    exact ih.trans (iff_of_false (hne hm) (hne hn))

/-! ## Edits at once -/

section Rename

variable {layout : Layout}

/-- Keys that are equal, or spellings of one field. -/
def Layout.SameField (layout : Layout) (k j : String) : Prop :=
  k = j ∨ ∃ f ∈ layout.fields, k ∈ f.key.spellings ∧ j ∈ f.key.spellings

instance (layout : Layout) (k j : String) : Decidable (layout.SameField k j) :=
  inferInstanceAs (Decidable (_ ∨ _))

theorem Layout.SameField.symm {k j : String} (h : layout.SameField k j) : layout.SameField j k := by
  rcases h with rfl | ⟨f, hf, hk, hj⟩
  · exact .inl rfl
  · exact .inr ⟨f, hf, hj, hk⟩

theorem Layout.SameField.trans {k j i : String} (hkj : layout.SameField k j)
    (hji : layout.SameField j i) : layout.SameField k i := by
  rcases hkj with rfl | ⟨f, hf, hk, hj⟩
  · exact hji
  · rcases hji with rfl | ⟨g, hg, hj', hi⟩
    · exact .inr ⟨f, hf, hk, hj⟩
    · have hfg : f = g := layout.eq_of_mem_spellings hf hg hj hj'
      exact .inr ⟨f, hf, hk, hfg ▸ hi⟩

/-- An object holds **one spelling** of each field at most. -/
def Layout.OneSpelling (layout : Layout) (m : OrderedMap Json) : Prop :=
  ∀ k ∈ m.keys, ∀ j ∈ m.keys, layout.SameField k j → k = j

instance (layout : Layout) (m : OrderedMap Json) : Decidable (layout.OneSpelling m) :=
  inferInstanceAs (Decidable (∀ k ∈ m.keys, ∀ j ∈ m.keys, _ → _))

variable {σ : String → String} (hσ : ∀ k, layout.SameField k (σ k))
include hσ

/-- The first keys of an object can be respelled before the others. -/
theorem nodup_rename {m : OrderedMap Json} (hm : layout.OneSpelling m)
    {pre post : List (String × Json)} (hes : m.entries = pre ++ post) :
    ((pre.map (fun e => (σ e.1, e.2)) ++ post).map Prod.fst).Nodup := by
  have hkeys : m.keys = pre.map Prod.fst ++ post.map Prod.fst := by
    rw [OrderedMap.keys, hes, List.map_append]
  have hnodup : m.keys.Nodup := m.nodup_keys
  rw [hkeys] at hnodup
  obtain ⟨hpre, hpost, hdisjoint⟩ := List.nodup_append.1 hnodup
  have hmem {k : String} (hk : k ∈ pre.map Prod.fst ∨ k ∈ post.map Prod.fst) : k ∈ m.keys :=
    hkeys ▸ List.mem_append.2 hk
  have hrenamed : (pre.map fun e => (σ e.1, e.2)).map Prod.fst = (pre.map Prod.fst).map σ := by
    rw [List.map_map, List.map_map]
    rfl
  rw [List.map_append, hrenamed]
  -- keys that fall together are spellings of one field, and of these there is only one
  refine List.nodup_append.2 ⟨List.Nodup.map_on ?_ hpre, hpost, ?_⟩
  · intro k hk j hj heq
    exact hm k (hmem (.inl hk)) j (hmem (.inl hj)) ((hσ k).trans (heq ▸ (hσ j).symm))
  · intro a ha j hj heq
    obtain ⟨k, hk, rfl⟩ := List.mem_map.1 ha
    exact hdisjoint k hk j hj (hm k (hmem (.inl hk)) j (hmem (.inr hj)) (heq ▸ hσ k))

/-- **Any keys may be respelled at once** if the object holds one spelling of each field. -/
theorem respelled_rename {m : OrderedMap Json} (hm : layout.OneSpelling m) :
    Respelled layout (.obj m.entries) (.obj (m.entries.map fun e => (σ e.1, e.2))) := by
  -- the keys before `post` are respelled already
  have hsteps (pre post : List (String × Json)) (hes : m.entries = pre ++ post) :
      Respelled layout (.obj (pre.map (fun e => (σ e.1, e.2)) ++ post))
        (.obj ((pre ++ post).map fun e => (σ e.1, e.2))) := by
    induction post generalizing pre with
    | nil => rw [List.append_nil, List.append_nil]; exact .refl
    | cons e post ih =>
      obtain ⟨k, v⟩ := e
      have hsplit : pre ++ [(k, v)] ++ post = pre ++ (k, v) :: post := by simp
      have hnext : (pre ++ [(k, v)]).map (fun e => (σ e.1, e.2)) ++ post =
          pre.map (fun e => (σ e.1, e.2)) ++ (σ k, v) :: post := by simp
      have hrest := ih (pre ++ [(k, v)]) (hes.trans hsplit.symm)
      have hbefore := nodup_rename hσ hm hes
      have hafter := nodup_rename hσ hm (hes.trans hsplit.symm)
      rw [hnext] at hrest hafter
      rw [hsplit] at hrest
      rcases hσ k with heq | ⟨f, hf, hk, hk'⟩
      · rw [← heq] at hrest
        exact hrest
      · exact .head (edited_of_field hf hk hk' (f.refl v) _ _ hbefore hafter) hrest
  simpa using hsteps [] m.entries rfl

end Rename

/-! ## Names -/

/-- Values that are the same name, the case of plain letters and the blanks around it aside. -/
inductive SameName : Json → Json → Prop where
  | refl (v : Json) : SameName v v
  | letters {a b : String} (h : Text.lowerAscii a = Text.lowerAscii b) :
    SameName (.str a) (.str b)
  | blanks {a b : String} (h : Text.trim a = Text.trim b) : SameName (.str a) (.str b)

/-- Texts that are the same name are read as one. -/
theorem SameName.lower_trim {a b : String} (h : SameName (.str a) (.str b)) :
    Text.lower (Text.trim a) = Text.lower (Text.trim b) := by
  cases h with
  | refl => rfl
  | letters h =>
    apply Text.lower_congr
    rw [← Text.trim_lowerAscii, ← Text.trim_lowerAscii, h]
  | blanks h => rw [h]

theorem SameName.eq_or_text {v w : Json} (h : SameName v w) :
    v = w ∨ ∃ a b, v = .str a ∧ w = .str b := by
  cases h with
  | refl => exact .inl rfl
  | letters _ => exact .inr ⟨_, _, rfl, rfl⟩
  | blanks _ => exact .inr ⟨_, _, rfl, rfl⟩

theorem SameName.eq_null_iff {v w : Json} (h : SameName v w) : v = .null ↔ w = .null := by
  rcases h.eq_or_text with rfl | ⟨a, b, rfl, rfl⟩
  · exact Iff.rfl
  · exact iff_of_false nofun nofun

/-- A check that trims a text and makes it small respects names. -/
theorem Respects.sameName {α : Type} {check : List String → Json → Checked α}
    (hsame : Respects Eq check)
    (htext : ∀ p a b, Text.lower (Text.trim a) = Text.lower (Text.trim b) →
      check p (.str a) = check p (.str b)) : Respects SameName check := by
  intro p q v w h
  rcases h.eq_or_text with heq | ⟨a, b, rfl, rfl⟩
  · exact hsame p q v w heq
  · rw [htext p a b h.lower_trim]
    exact hsame p q _ _ rfl

theorem respects_readShape_sameName : Respects SameName readShape :=
  respects_readShape.sameName fun p a b h => by simp only [readShape, h]

theorem respects_readMethod_sameName : Respects SameName readMethod :=
  respects_readMethod.sameName fun p a b h => by simp only [readMethod, h]

/-! ## Row filters -/

/-- A field whose value has to stay. -/
def Field.plain (key : Key) : Field :=
  ⟨key, Eq, fun _ => rfl⟩

/-- A field whose value is a name. -/
def Field.name (key : Key) : Field :=
  ⟨key, SameName, .refl⟩

/-- A field whose value is an object with fields of its own. -/
def Field.nested (key : Key) (layout : Layout) : Field :=
  ⟨key, Respelled layout, fun _ => .refl⟩

/-- The fields of a row filter. -/
def filterLayout : Layout where
  fields := [.plain .values, .plain .columns, .plain .caseSensitive, .plain .indices]
  disjoint := by decide

/-- **A respelled row filter** is read as before. -/
theorem respects_readRowFilter : Respects (Respelled filterLayout) readRowFilter := by
  apply respects_respelled
  · intro p q v hv
    unfold readRowFilter
    rw [hv]
    exact .fault p q _
  · intro p q v w m n hm hn h
    have hkey {α : Type} (key : Key) (hf : .plain key ∈ filterLayout.fields)
        {check : List String → Json → Checked α} (hcheck : Respects Eq check) (default : α) :
        (readKey m p key default check).Alike (readKey n q key default check) :=
      h.readKey hf hcheck default p q
    have hintegers := respects_readInteger.list
    unfold readRowFilter
    rw [hm, hn]
    refine Alike.seq (.seq (.seq (.map ?_ _) ?_) ?_) ?_
    · exact hkey .values (by simp [filterLayout]) respects_readScalar.list _
    · exact hkey .columns (by simp [filterLayout]) hintegers _
    · exact hkey .caseSensitive (by simp [filterLayout]) respects_readBoolean _
    · exact hkey .indices (by simp [filterLayout]) hintegers _

/-! ## Entries -/

/-- The fields of an entry: its names may be written with other letters and blanks, and its row
filter may be respelled itself. -/
def layout : Layout where
  fields :=
    [.plain .tableSelector, .plain .tableData, .name .tableType, .plain .tableSelectors,
      .plain .formdata, .nested .ignoreRows filterLayout, .plain .constants, .name .method,
      .plain .rowIdentifier, .plain .columnIdentifier, .plain .cellSelector]
  disjoint := by decide

/-- **A respelled entry** is read as before, or refused for the same faults. -/
theorem alike_read {v w : Json} (h : Respelled layout v w) : (read v).Alike (read w) := by
  have hrespects : Respects (Respelled layout) fun _ => read := by
    apply respects_respelled
    · intro p q v hv
      exact .refl _
    · intro p q v w m n hm hn h
      have hkey {α : Type} (f : Field) (hf : f ∈ layout.fields)
          {check : List String → Json → Checked α} (hcheck : Respects f.same check) (default : α) :
          (readKey m [] f.key default check).Alike (readKey n [] f.key default check) :=
        h.readKey hf hcheck default [] []
      have htext := respects_readString.nullable_eq
      have htexts := respects_readString.object.nullable_eq
      have hscalars := respects_readScalar.list.nullable_eq
      have hshape := respects_readShape_sameName.nullable fun _ _ => SameName.eq_null_iff
      have hfilter := respects_readRowFilter.nullable fun _ _ => Respelled.eq_null_iff
      have hconstants := respects_readAny.object.nullable_eq
      have hidentifier := respects_readIdentifier.nullable_eq
      unfold read
      rw [hm, hn]
      -- one goal for each of the eleven fields, in the order in which they are read
      refine Alike.seq (.seq (.seq (.seq (.seq (.seq (.seq (.seq (.seq (.seq (.map ?_ _)
        ?_) ?_) ?_) ?_) ?_) ?_) ?_) ?_) ?_) ?_
      · exact hkey (.plain .tableSelector) (by simp [layout]) htext _
      · exact hkey (.plain .tableData) (by simp [layout]) hscalars _
      · exact hkey (.name .tableType) (by simp [layout]) hshape _
      · exact hkey (.plain .tableSelectors) (by simp [layout]) htexts _
      · exact hkey (.plain .formdata) (by simp [layout]) htexts _
      · exact hkey (.nested .ignoreRows filterLayout) (by simp [layout]) hfilter _
      · exact hkey (.plain .constants) (by simp [layout]) hconstants _
      · exact hkey (.name .method) (by simp [layout]) respects_readMethod_sameName _
      · exact hkey (.plain .rowIdentifier) (by simp [layout]) hidentifier _
      · exact hkey (.plain .columnIdentifier) (by simp [layout]) hidentifier _
      · exact hkey (.plain .cellSelector) (by simp [layout]) htext _
  exact hrespects [] [] v w h

end ParcelRecords.Entry
