/-
  Listing/Proofs/Documents.lean
  =============================
  **The two forms of a document agree.**

  A document is written as text for a response, its fields in the order of the
  document, and is given as a normal object to be put into a larger one.  The text
  reads back as that object (`outputs_agree`), for the object is the value that is
  written, in normal form.  Nothing is lost by it: looking a field up in normal form
  finds the last field of that name (`field?_normalise`), and a value that is normal
  already stays as it is (`Normal.normalise_eq`).
-/
import Listing.Document
import Listing.Proofs.Decoding
import Mathlib.Data.List.Induction

namespace Listing

namespace Json

/-! ### Fields in normal form -/

theorem normaliseItems_eq_map (items : List Json) :
    normaliseItems items = items.map normalise := by
  induction items with
  | nil => rfl
  | cons item rest ih => rw [normaliseItems, ih, List.map_cons]

theorem normaliseFields_eq_map (fields : List (String × Json)) :
    normaliseFields fields = fields.map fun field => (field.1, field.2.normalise) := by
  induction fields with
  | nil => rfl
  | cons field rest ih => rw [normaliseFields, ih, List.map_cons]

theorem lookup_cons_eq (name key : String) (value : Json) (rest : List (String × Json)) :
    ((key, value) :: rest).lookup name = if name = key then some value else rest.lookup name := by
  rw [List.lookup_cons]
  split
  · rename_i h
    rw [if_pos (eq_of_beq h)]
  · rename_i h
    rw [if_neg (ne_of_beq_false h)]

/-- This needs no order of the fields: what an insertion passes by is looked up first. -/
theorem lookup_insertField (key name : String) (value : Json) (fields : List (String × Json)) :
    (insertField key value fields).lookup name
      = if name = key then some value else fields.lookup name := by
  induction fields with
  | nil => simp only [insertField, lookup_cons_eq]
  | cons field rest ih =>
    obtain ⟨k, v⟩ := field
    rw [insertField]
    split
    · rw [lookup_cons_eq]
    · rename_i heq
      have hkey : key = k := Std.LawfulEqOrd.eq_of_compare heq
      rw [lookup_cons_eq, lookup_cons_eq, hkey]
      split <;> rfl
    · rename_i hgt
      have hkey : k ≠ key := by
        rintro rfl
        rw [Std.ReflOrd.compare_self] at hgt
        cases hgt
      rw [lookup_cons_eq, ih, lookup_cons_eq]
      split
      · rename_i hname
        rw [if_neg (hname ▸ hkey)]
      · rfl

theorem sortFields_concat (fields : List (String × Json)) (field : String × Json) :
    sortFields (fields ++ [field]) = insertField field.1 field.2 (sortFields fields) := by
  rw [sortFields, List.foldl_append]
  rfl

/-- In normal form the last of several fields of one name is the one that counts. -/
theorem lookup_sortFields (name : String) (fields : List (String × Json)) :
    (sortFields fields).lookup name = fields.reverse.lookup name := by
  induction fields using List.reverseRecOn with
  | nil => rfl
  | append_singleton fields field ih =>
    rw [sortFields_concat, lookup_insertField, ih, List.reverse_append, List.reverse_singleton,
      List.singleton_append, lookup_cons_eq]

theorem field?_normalise (name : String) (fields : List (String × Json)) :
    (Json.object fields).normalise.field? name = (fields.reverse.lookup name).map normalise := by
  rw [normalise, ofFields, field?, lookup_sortFields, normaliseFields_eq_map, ← List.map_reverse]
  induction fields.reverse with
  | nil => rfl
  | cons field rest ih =>
    rw [List.map_cons, lookup_cons_eq, ih, ← Prod.eta field, lookup_cons_eq]
    split <;> rfl

/-! ### Normal values -/

/-- In every object inside the value the keys ascend, so that no key is there twice. -/
inductive Normal : Json → Prop
  | null : Normal .null
  | bool (b : Bool) : Normal (.bool b)
  | number (n : JsonNumber) : Normal (.number n)
  | string (s : String) : Normal (.string s)
  | array {items : List Json} (all : ∀ item ∈ items, Normal item) : Normal (.array items)
  | object {fields : List (String × Json)}
      (ascending : fields.Pairwise fun field other => compare field.1 other.1 = .lt)
      (all : ∀ field ∈ fields, Normal field.2) : Normal (.object fields)

theorem insertField_last {key : String} {fields : List (String × Json)}
    (h : ∀ field ∈ fields, compare field.1 key = .lt) (value : Json) :
    insertField key value fields = fields ++ [(key, value)] := by
  induction fields with
  | nil => rfl
  | cons field rest ih =>
    obtain ⟨k, v⟩ := field
    obtain ⟨hfield, hrest⟩ := List.forall_mem_cons.1 h
    have hgt : compare key k = .gt := Std.OrientedCmp.gt_of_lt hfield
    simp only [insertField, hgt, ih hrest, List.cons_append]

theorem sortFields_of_ascending {fields : List (String × Json)}
    (h : fields.Pairwise fun field other => compare field.1 other.1 = .lt) :
    sortFields fields = fields := by
  induction fields using List.reverseRecOn with
  | nil => rfl
  | append_singleton fields field ih =>
    obtain ⟨hfields, -, hlast⟩ := List.pairwise_append.1 h
    rw [sortFields_concat, ih hfields]
    exact insertField_last (fun other hother => hlast other hother field (List.mem_singleton_self _)) _

theorem Normal.normalise_eq {value : Json} (h : value.Normal) : value.normalise = value := by
  induction h with
  | null | bool | number | string => rfl
  | @array items _ ih =>
    rw [normalise, normaliseItems_eq_map, List.map_congr_left ih, List.map_id']
  | @object fields ascending _ ih =>
    have hsame : fields.map (fun field => (field.1, field.2.normalise)) = fields := by
      have hfield : ∀ field ∈ fields, (field.1, field.2.normalise) = field := by
        intro field hmem
        rw [ih field hmem]
      rw [List.map_congr_left hfield, List.map_id']
    rw [normalise, normaliseFields_eq_map, hsame, ofFields, sortFields_of_ascending ascending]

end Json

/-! ### Documents that are written exactly -/

theorem Json.integral_ofNat {n : Nat} (h : n ≤ Text.maxUnsigned) : (Json.ofNat n).Integral :=
  .integer (by omega) (by omega)

theorem Meta.integral_json (applied : Meta) : applied.json.Integral := by
  have hsort : ∀ sort : SortKeys, (sortJson sort).Integral := by
    intro sort
    refine .object fun field hmem => ?_
    obtain ⟨key, -, rfl⟩ := List.mem_map.1 hmem
    exact .string _
  have hfilters : ∀ filters : Request.Table, (filtersJson filters).Integral := by
    intro filters
    refine .object fun field hmem => ?_
    obtain ⟨entry, -, rfl⟩ := List.mem_map.1 hmem
    refine .array fun item hitem => ?_
    obtain ⟨token, -, rfl⟩ := List.mem_map.1 hitem
    exact .string _
  refine .object fun field hmem => ?_
  rcases List.mem_append.1 hmem with hmem | hmem
  · obtain ⟨sort, -, rfl⟩ := Option.map_eq_some_iff.1 (Option.mem_toList.1 hmem)
    exact hsort sort
  · obtain ⟨filters, -, rfl⟩ := Option.map_eq_some_iff.1 (Option.mem_toList.1 hmem)
    exact hfilters filters

theorem integral_controlsJson (links : Links String) : (controlsJson links).Integral := by
  have hlink : ∀ name address, ∀ field ∈ linkField name address, field.2.Integral := by
    intro name address field hmem
    obtain ⟨href, -, rfl⟩ := Option.map_eq_some_iff.1 (Option.mem_toList.1 hmem)
    refine .object fun inner hinner => ?_
    cases List.mem_singleton.1 hinner
    exact .string href
  refine .object fun field hmem => ?_
  simp only [List.mem_append] at hmem
  rcases hmem with ((hmem | hmem) | hmem) | hmem
  all_goals exact hlink _ _ field hmem

namespace Document

/-- The items hold no floating-point numbers, and all numbers fit their words. -/
structure Exact (document : Document) : Prop where
  items : ∀ item ∈ document.items, item.Integral
  total : document.total ≤ Text.maxUnsigned
  offset : document.offset ≤ Text.maxUnsigned
  limit : document.limit ≤ Text.maxUnsigned
  totalPages : document.totalPages ≤ Text.maxUnsigned

variable {document : Document}

theorem Exact.integral_body (h : document.Exact) : document.body.Integral := by
  refine .object fun field hmem => ?_
  simp only [List.mem_append] at hmem
  rcases hmem with (hmem | hmem) | hmem
  · split at hmem
    · cases hmem
    · cases List.mem_singleton.1 hmem
      exact document.applied.integral_json
  · simp only [List.mem_cons, List.not_mem_nil, or_false] at hmem
    rcases hmem with rfl | rfl | rfl | rfl | rfl
    · exact .array h.items
    · exact Json.integral_ofNat h.total
    · exact Json.integral_ofNat h.offset
    · exact Json.integral_ofNat h.limit
    · exact Json.integral_ofNat h.totalPages
  · split at hmem
    · cases hmem
    · cases List.mem_singleton.1 hmem
      exact integral_controlsJson document.links

/-- The text of the response reads back as the object. -/
theorem Exact.ofText?_bodyText (h : document.Exact) :
    Json.ofText? document.response.bodyText.toList = some document.properties := by
  have htext : document.response.bodyText.toList = document.body.text := String.toList_ofList
  rw [htext, properties]
  exact Json.ofText?_text h.integral_body

/-! ### Fields of the object -/

/-- The value is an object that tells the items in normal form and the counters, and has a part
    for what was applied and one for the links just when there are any. -/
structure Shows (document : Document) (shown : Json) : Prop where
  isObject : ∃ fields, shown = .object fields
  items : shown.field? "items" = some (.array (document.items.map Json.normalise))
  total : shown.field? "total" = some (.ofNat document.total)
  offset : shown.field? "offset" = some (.ofNat document.offset)
  limit : shown.field? "limit" = some (.ofNat document.limit)
  totalPages : shown.field? "total_pages" = some (.ofNat document.totalPages)
  applied : (shown.field? "@meta").isSome = true ↔
    document.applied.sort.isSome = true ∨ document.applied.filters.isSome = true
  controls : (shown.field? "@controls").isSome = true ↔
    document.links.first.isSome = true ∨ document.links.prev.isSome = true ∨
      document.links.next.isSome = true ∨ document.links.last.isSome = true

theorem Meta.isEmpty_eq_false_iff {applied : Meta} : applied.isEmpty = false ↔
    applied.sort.isSome = true ∨ applied.filters.isSome = true := by
  unfold Meta.isEmpty
  cases applied.sort <;> cases applied.filters <;> simp

theorem Links.isEmpty_eq_false_iff {links : Links String} : links.isEmpty = false ↔
    links.first.isSome = true ∨ links.prev.isSome = true ∨ links.next.isSome = true ∨
      links.last.isSome = true := by
  unfold Links.isEmpty
  cases links.first <;> cases links.prev <;> cases links.next <;> cases links.last <;> simp

/-- The fields of a document as they are written. -/
def written (document : Document) : List (String × Json) :=
  (if document.applied.isEmpty then [] else [("@meta", document.applied.json)])
    ++ [("items", .array document.items), ("total", .ofNat document.total),
      ("offset", .ofNat document.offset), ("limit", .ofNat document.limit),
      ("total_pages", .ofNat document.totalPages)]
    ++ (if document.links.isEmpty then [] else [("@controls", controlsJson document.links)])

theorem field?_properties (document : Document) (name : String) :
    document.properties.field? name
      = (document.written.reverse.lookup name).map Json.normalise :=
  Json.field?_normalise name document.written

theorem shows_properties (document : Document) : document.Shows document.properties := by
  refine ⟨⟨_, rfl⟩, ?_, ?_, ?_, ?_, ?_, ?_, ?_⟩
  · rw [field?_properties, ← Json.normaliseItems_eq_map, written]
    cases document.applied.isEmpty <;> cases document.links.isEmpty <;> rfl
  iterate 4
    · rw [field?_properties, written]
      cases document.applied.isEmpty <;> cases document.links.isEmpty <;> rfl
  · have happlied : (document.properties.field? "@meta").isSome = !document.applied.isEmpty := by
      rw [field?_properties, written]
      cases document.applied.isEmpty <;> cases document.links.isEmpty <;> rfl
    rw [happlied, Bool.not_eq_true', Meta.isEmpty_eq_false_iff]
  · have hlinks : (document.properties.field? "@controls").isSome = !document.links.isEmpty := by
      rw [field?_properties, written]
      cases document.applied.isEmpty <;> cases document.links.isEmpty <;> rfl
    rw [hlinks, Bool.not_eq_true', Links.isEmpty_eq_false_iff]

/-- **Both forms of a document agree.**  For a document whose items hold no floating-point
    numbers, with any texts in its items, names, tokens and links: the response answers 200,
    and its text reads back as the very object that the document gives as its properties.
    That object has the counters and the items, and parts for what was applied and for the
    links just when there are any.  Items whose objects are normal, as they are when they come
    from maps, come back as they were. -/
theorem outputs_agree (h : document.Exact) :
    document.response.status.code = 200 ∧ document.response.contentType = documentType ∧
    ∃ decoded, Json.ofText? document.response.bodyText.toList = some decoded ∧
      decoded = document.properties ∧ document.Shows decoded ∧
      ((∀ item ∈ document.items, item.Normal) →
        decoded.field? "items" = some (.array document.items)) := by
  refine ⟨rfl, rfl, document.properties, h.ofText?_bodyText, rfl, document.shows_properties, ?_⟩
  intro hnormal
  have hsame : document.items.map Json.normalise = document.items := by
    rw [List.map_congr_left fun item hmem => (hnormal item hmem).normalise_eq, List.map_id']
  rw [document.shows_properties.items, hsame]

/-- A page with a nested item, whose texts need every kind of escape. -/
theorem label_comes_back :
    let label : Json := .object [("note", .string "\"frail\" \\ \n\x01 é 📦"),
      ("sizes", .array [.number (.integer (-5)), .null, .bool true, .object []])]
    let document : Document :=
      { applied := ⟨some [("size", .asc)], some [("colour", ["in:red,b|ue"])]⟩
        items := [label]
        total := 18446744073709551615
        offset := 0
        limit := 1
        totalPages := 18446744073709551615
        links := ⟨none, none, some "/parcels?offset=1", none⟩ }
    ∃ decoded, Json.ofText? document.response.bodyText.toList = some decoded ∧
      decoded = document.properties ∧
      decoded.field? "items" = some (.array [label]) ∧
      decoded.field? "total" = some (.ofNat 18446744073709551615) ∧
      (decoded.field? "@meta").isSome = true ∧ (decoded.field? "@controls").isSome = true := by
  intro label document
  have hsizes : ∀ size ∈ [Json.number (.integer (-5)), .null, .bool true, .object []],
      size.Integral ∧ size.Normal := by
    simp only [List.forall_mem_cons]
    exact ⟨⟨.integer (by decide) (by decide), .number _⟩, ⟨.null, .null⟩, ⟨.bool _, .bool _⟩,
      ⟨.object (List.forall_mem_nil _), .object .nil (List.forall_mem_nil _)⟩,
      List.forall_mem_nil _⟩
  have hexact : document.Exact := by
    refine ⟨List.forall_mem_singleton.2 (.object ?_), by decide, by decide, by decide, by decide⟩
    simp only [List.forall_mem_cons]
    exact ⟨.string _, .array fun size hsize => (hsizes size hsize).1, List.forall_mem_nil _⟩
  have hnormal : ∀ item ∈ document.items, item.Normal := by
    refine List.forall_mem_singleton.2 (.object (List.pairwise_pair.2 (by decide)) ?_)
    simp only [List.forall_mem_cons]
    exact ⟨.string _, .array fun size hsize => (hsizes size hsize).2, List.forall_mem_nil _⟩
  obtain ⟨-, -, decoded, hdecoded, hsame, hshows, hitems⟩ := outputs_agree hexact
  exact ⟨decoded, hdecoded, hsame, hitems hnormal, hshows.total, hshows.applied.2 (.inl rfl),
    hshows.controls.2 (.inr (.inr (.inl rfl)))⟩

end Document

end Listing
