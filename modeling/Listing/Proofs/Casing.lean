/-
  Listing/Proofs/Casing.lean
  ==========================
  **Parts of a text in lowercase.**

  A text is matched in lowercase, and so is what is looked for in it.  Every
  character but one has a lowercase form of its own, wherever it stands; the capital
  sigma has another one at the end of a word.  Hence a part of a text need not be a
  part of it in lowercase: that is so exactly when a capital sigma of the part stands
  at the end of a word in the one and not in the other (`SigmasAgree`).
-/
import Listing.Proofs.Narrowing

namespace Listing

/-! ### Lowercase inside a text -/

namespace Text

/-- The place between two texts is the end of a word: passing over case-ignorable characters, a
    cased character stands before it and none stands after it. -/
def endsWord (front rest : List Char) : Bool := meetsCased front.reverse && !meetsCased rest

/-- The lowercase form of a character that stands between two texts. -/
def lowerBetween (front : List Char) (c : Char) (rest : List Char) : List Char :=
  if c = capitalSigma then [if endsWord front rest then 'ς' else 'σ'] else lowerChar c

/-- A part of a text in lowercase, where it stands. -/
def lowerWithin (front : List Char) : (part rest : List Char) → List Char
  | [], _ => []
  | c :: part, rest =>
    lowerBetween front c (part ++ rest) ++ lowerWithin (front ++ [c]) part rest

/-- A text in lowercase is a part of it in lowercase and then what follows. -/
theorem lowerFrom_append (front part rest : List Char) :
    lowerFrom front.reverse (part ++ rest)
      = lowerWithin front part rest ++ lowerFrom (front ++ part).reverse rest := by
  induction part generalizing front with
  | nil => simp [lowerWithin]
  | cons c part ih =>
    have hnext := ih (front ++ [c])
    rw [List.reverse_append, List.reverse_singleton, List.singleton_append, List.append_assoc,
      List.singleton_append] at hnext
    rw [List.cons_append, lowerFrom, hnext, lowerWithin, lowerBetween, endsWord]
    split
    · simp
    · simp

theorem lowerFrom_eq_lowerWithin (front part : List Char) :
    lowerFrom front.reverse part = lowerWithin front part [] := by
  have hwhole := lowerFrom_append front part []
  rwa [List.append_nil, lowerFrom, List.append_nil] at hwhole

theorem lowercase_eq_lowerWithin (part : List Char) : lowercase part = lowerWithin [] part [] :=
  lowerFrom_eq_lowerWithin [] part

/-- A text in lowercase, cut around a part. -/
theorem lowercase_append (front part rest : List Char) :
    lowercase (front ++ part ++ rest)
      = lowerWithin [] front (part ++ rest) ++ lowerWithin front part rest
        ++ lowerWithin (front ++ part) rest [] := by
  have hfront := lowerFrom_append [] front (part ++ rest)
  rw [List.reverse_nil, List.nil_append] at hfront
  rw [List.append_assoc, lowercase, hfront, lowerFrom_append, lowerFrom_eq_lowerWithin,
    List.append_assoc]

theorem length_lowerBetween (front other : List Char) (c : Char) (rest more : List Char) :
    (lowerBetween front c rest).length = (lowerBetween other c more).length := by
  unfold lowerBetween
  split <;> rfl

theorem length_lowerWithin (front other part rest more : List Char) :
    (lowerWithin front part rest).length = (lowerWithin other part more).length := by
  induction part generalizing front other with
  | nil => rfl
  | cons c part ih =>
    rw [lowerWithin, lowerWithin, List.length_append, List.length_append,
      ih (front ++ [c]) (other ++ [c]), length_lowerBetween]

/-- A part has a lowercase form of the same length wherever it stands. -/
theorem length_lowercase (front part rest : List Char) :
    (lowercase part).length = (lowerWithin front part rest).length := by
  rw [lowercase_eq_lowerWithin]
  exact length_lowerWithin ..

theorem lowerBetween_eq_iff {front other : List Char} {c : Char} {rest more : List Char} :
    lowerBetween front c rest = lowerBetween other c more ↔
      (c = capitalSigma → endsWord front rest = endsWord other more) := by
  unfold lowerBetween
  split
  · rename_i hsigma
    cases endsWord front rest <;> cases endsWord other more <;> simp [hsigma]
  · rename_i hother
    simp [hother]

/-- A part has the same lowercase form in two texts exactly when each of its capital sigmas ends
    a word in both or in neither. -/
theorem lowerWithin_eq_iff {front other part rest more : List Char} :
    lowerWithin front part rest = lowerWithin other part more ↔
      ∀ before after, part = before ++ capitalSigma :: after →
        endsWord (front ++ before) (after ++ rest)
          = endsWord (other ++ before) (after ++ more) := by
  induction part generalizing front other with
  | nil => simp [lowerWithin]
  | cons c part ih =>
    have hcons : lowerWithin front (c :: part) rest = lowerWithin other (c :: part) more ↔
        lowerBetween front c (part ++ rest) = lowerBetween other c (part ++ more) ∧
          lowerWithin (front ++ [c]) part rest = lowerWithin (other ++ [c]) part more := by
      rw [lowerWithin, lowerWithin]
      constructor
      · intro h
        exact List.append_inj h (length_lowerBetween ..)
      · rintro ⟨hfirst, hrest⟩
        rw [hfirst, hrest]
    rw [hcons, lowerBetween_eq_iff, ih]
    constructor
    · rintro ⟨hfirst, hrest⟩ before after h
      rcases List.cons_eq_append_iff.1 h with ⟨rfl, hsigma⟩ | ⟨before, rfl, rfl⟩
      · obtain ⟨rfl, rfl⟩ := List.cons.inj hsigma
        simpa using hfirst rfl
      · simpa using hrest before after rfl
    · intro h
      refine ⟨?_, ?_⟩
      · rintro rfl
        simpa using h [] part rfl
      · rintro before after rfl
        simpa using h (c :: before) after rfl

/-- Every capital sigma of a part ends a word in the part exactly if it does in the text around
    it. -/
def SigmasAgree (front part rest : List Char) : Prop :=
  ∀ before after, part = before ++ capitalSigma :: after →
    endsWord (front ++ before) (after ++ rest) = endsWord before after

theorem sigmasAgree_of_notMem {part : List Char} (h : capitalSigma ∉ part)
    (front rest : List Char) : SigmasAgree front part rest := by
  rintro before after rfl
  exact absurd (List.mem_append_right _ List.mem_cons_self) h

theorem lowerWithin_eq_lowercase_iff {front part rest : List Char} :
    lowerWithin front part rest = lowercase part ↔ SigmasAgree front part rest := by
  rw [lowercase_eq_lowerWithin, lowerWithin_eq_iff]
  simp only [List.nil_append, List.append_nil, SigmasAgree]

instance (front part rest : List Char) : Decidable (SigmasAgree front part rest) :=
  decidable_of_iff _ lowerWithin_eq_lowercase_iff

/-! ### Parts in lowercase -/

theorem lowercase_prefix_iff {part rest : List Char} :
    lowercase part <+: lowercase (part ++ rest) ↔ SigmasAgree [] part rest := by
  have htext := lowercase_append [] part rest
  rw [List.nil_append, lowerWithin, List.nil_append] at htext
  rw [htext, ← lowerWithin_eq_lowercase_iff]
  constructor
  · rintro ⟨_, h⟩
    exact (List.append_inj h (length_lowercase ..)).1.symm
  · intro h
    rw [h]
    exact List.prefix_append ..

theorem lowercase_suffix_iff {front part : List Char} :
    lowercase part <:+ lowercase (front ++ part) ↔ SigmasAgree front part [] := by
  have htext := lowercase_append front part []
  rw [List.append_nil, lowerWithin, List.append_nil] at htext
  rw [htext, ← lowerWithin_eq_lowercase_iff]
  constructor
  · rintro ⟨_, h⟩
    exact (List.append_inj' h (length_lowercase ..)).2.symm
  · intro h
    rw [h]
    exact List.suffix_append ..

theorem lowercase_infix {front part rest : List Char} (h : SigmasAgree front part rest) :
    lowercase part <:+: lowercase (front ++ part ++ rest) := by
  rw [lowercase_append, lowerWithin_eq_lowercase_iff.2 h]
  exact ⟨_, _, rfl⟩

end Text

/-! ### Filters that match -/

namespace Memory

open Text (SigmasAgree lowercase occursIn)

variable {ι : Type}

/-- An operator that matches keeps an entry, and its negation drops it, when the test of both
    finds the parameter in the text, the two of them in lowercase. -/
theorem matching_iff (op negation : Operator) {test : (needle text : List Char) → Bool}
    (hop : ∀ params, predicate op params = matchingFirst op params test)
    (hnegation : ∀ params, predicate negation params
      = (matchingFirst negation params test).map negate)
    {memory : Memory ι} {entry : Entry ι} (hentry : entry ∈ memory.view) {field text : String}
    (hvalue : valueAt entry.value field = some (.string text)) (kind : ValueKind)
    (needle : String) :
    (memory.Keeps (.filter field kind op [needle]) entry ↔
        test (lowercase needle.toList) (lowercase text.toList) = true) ∧
      (memory.Drops (.filter field kind negation [needle]) entry ↔
        test (lowercase needle.toList) (lowercase text.toList) = true) := by
  have hmatching : matching (test (lowercase needle.toList)) (valueAt entry.value field)
      = test (lowercase needle.toList) (lowercase text.toList) := by
    rw [hvalue]
    rfl
  have hholds : predicate op [needle] = .ok (matching (test (lowercase needle.toList))) :=
    hop [needle]
  have hnot : predicate negation [needle]
      = .ok (negate (matching (test (lowercase needle.toList)))) := hnegation [needle]
  constructor
  · rw [keeps_filter_iff hholds hentry, hmatching]
  · rw [drops_filter_iff hnot hentry, negate, hmatching, Bool.not_eq_false']

/-- **A part of a text is found unless a capital sigma ends a word in only one of them.**  So it
    is with a part at the start and with one at the end, for the operator and for its negation,
    and wherever a part stands it is found if its sigmas agree with the text. -/
theorem part_found_iff {memory : Memory ι} {entry : Entry ι} (hentry : entry ∈ memory.view)
    {field text : String} (hvalue : valueAt entry.value field = some (.string text))
    (kind : ValueKind) (part : String) :
    (∀ rest, text.toList = part.toList ++ rest →
      (memory.Keeps (.filter field kind .startsWith [part]) entry ↔
        SigmasAgree [] part.toList rest) ∧
      (memory.Drops (.filter field kind .notStartsWith [part]) entry ↔
        SigmasAgree [] part.toList rest)) ∧
    (∀ front, text.toList = front ++ part.toList →
      (memory.Keeps (.filter field kind .endsWith [part]) entry ↔
        SigmasAgree front part.toList []) ∧
      (memory.Drops (.filter field kind .notEndsWith [part]) entry ↔
        SigmasAgree front part.toList [])) ∧
    (∀ front rest, text.toList = front ++ part.toList ++ rest →
      SigmasAgree front part.toList rest →
      memory.Keeps (.filter field kind .contains [part]) entry ∧
        memory.Drops (.filter field kind .notContains [part]) entry) := by
  refine ⟨?_, ?_, ?_⟩
  · intro rest htext
    rw [← Text.lowercase_prefix_iff, ← htext, ← List.isPrefixOf_iff_prefix]
    exact matching_iff .startsWith .notStartsWith (fun _ => rfl) (fun _ => rfl) hentry hvalue kind
      part
  · intro front htext
    rw [← Text.lowercase_suffix_iff, ← htext, ← List.isSuffixOf_iff_suffix]
    exact matching_iff .endsWith .notEndsWith (fun _ => rfl) (fun _ => rfl) hentry hvalue kind part
  · intro front rest htext hagree
    have hfound : occursIn (lowercase part.toList) (lowercase text.toList) = true := by
      rw [Text.occursIn_iff, htext]
      exact Text.lowercase_infix hagree
    obtain ⟨hkeeps, hdrops⟩ :=
      matching_iff .contains .notContains (fun _ => rfl) (fun _ => rfl) hentry hvalue kind part
    exact ⟨hkeeps.2 hfound, hdrops.2 hfound⟩

/-- An entry with a name. -/
def named (name : String) : Entry Unit := ⟨0, (), .object [("name", .string name)]⟩

/-- A source of a single entry. -/
def only (entry : Entry Unit) : Memory Unit := ofEntries [entry]

theorem mem_view_only (entry : Entry Unit) : entry ∈ (only entry).view := List.mem_singleton_self _

/-- The same two letters stand twice in a text.  At the end their sigma ends a word, so they are
    found there; at the start it does not. -/
theorem word_end_found :
    let entry := named "ΑΣΑ ΑΣ"
    (only entry).Keeps (.filter "name" .text .endsWith ["ΑΣ"]) entry ∧
      (only entry).Drops (.filter "name" .text .notEndsWith ["ΑΣ"]) entry ∧
      (only entry).Keeps (.filter "name" .text .contains ["ΑΣ"]) entry ∧
      ¬ (only entry).Keeps (.filter "name" .text .startsWith ["ΑΣ"]) entry := by
  intro entry
  have hvalue : valueAt entry.value "name" = some (.string "ΑΣΑ ΑΣ") := rfl
  obtain ⟨hstart, hend, hinside⟩ := part_found_iff (mem_view_only entry) hvalue .text "ΑΣ"
  obtain ⟨hkeeps, hdrops⟩ := hend "ΑΣΑ ".toList rfl
  have hagree : SigmasAgree "ΑΣΑ ".toList "ΑΣ".toList [] := by decide +kernel
  refine ⟨hkeeps.2 hagree, hdrops.2 hagree, (hinside "ΑΣΑ ".toList [] rfl hagree).1, ?_⟩
  rw [(hstart "Α ΑΣ".toList rfl).1]
  decide +kernel

/-- A text that starts with the parameter is dropped by *starts with* and by *contains*, and one
    that ends with it by *ends with*; the negations keep them. -/
theorem sigma_missed :
    let entry := named "ΑΣΑ"
    let other := named "ΑΣ"
    "ΑΣ".toList <+: "ΑΣΑ".toList ∧ "Σ".toList <:+ "ΑΣ".toList ∧
      (only entry).Drops (.filter "name" .text .startsWith ["ΑΣ"]) entry ∧
      (only entry).Keeps (.filter "name" .text .notStartsWith ["ΑΣ"]) entry ∧
      (only entry).Drops (.filter "name" .text .contains ["ΑΣ"]) entry ∧
      (only entry).Keeps (.filter "name" .text .notContains ["ΑΣ"]) entry ∧
      (only other).Drops (.filter "name" .text .endsWith ["Σ"]) other ∧
      (only other).Keeps (.filter "name" .text .notEndsWith ["Σ"]) other := by
  intro entry other
  have hentry := mem_view_only entry
  have hother := mem_view_only other
  refine ⟨⟨"Α".toList, rfl⟩, ⟨"Α".toList, rfl⟩, (drops_filter_iff rfl hentry _ _).2 ?_,
    (keeps_filter_iff rfl hentry _ _).2 ?_, (drops_filter_iff rfl hentry _ _).2 ?_,
    (keeps_filter_iff rfl hentry _ _).2 ?_, (drops_filter_iff rfl hother _ _).2 ?_,
    (keeps_filter_iff rfl hother _ _).2 ?_⟩
  all_goals decide +kernel

end Memory

end Listing
