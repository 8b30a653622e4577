/-
Dispatch/Proofs/Task/Occurrence.lean

Where keywords stand in a text.

The search goes through a text from the left and carries along whether the character before belongs
to a word.  `Keywords.FoundAt` says what is searched for and nothing of the search: a part of the
text that spells a keyword in any letter case, with a word boundary (`AtBoundary`) before it, and
one behind it if the keywords have to be whole words.  The search finds such a part exactly if there
is one (`occurs_iff`), so the kind of a text is the first, in the order of classification, whose
keywords are found in it (`isFirstIn_classify`).

A boundary lies between two characters, and the search looks at one of them only.  That is enough
because every keyword begins and ends with a letter (`Keywords.Lettered`), and because letters that
count as one another are word characters together (`isWordChar_foldCase`).
-/
import Dispatch.Task.Classification
import Mathlib

namespace Dispatch

/-! ### Characters -/

/-- Letters, as far as the case of letters goes, are those of ASCII. -/
theorem toNat_lt_of_isAlpha {c : Char} (h : c.isAlpha = true) : c.toNat < 128 := by
  simp only [Char.isAlpha, Char.isUpper, Char.isLower, Bool.or_eq_true, Bool.and_eq_true,
    decide_eq_true_eq] at h
  rcases h with h | h
  · have hle : c.toNat ≤ 90 := h.2
    omega
  · have hle : c.toNat ≤ 122 := h.2
    omega

theorem isWordChar_of_isAlpha {c : Char} (h : c.isAlpha = true) : isWordChar c = true := by
  simp [isWordChar, toNat_lt_of_isAlpha h, isAsciiWordChar, Char.isAlphanum, h]

theorem isWordChar_toLower (c : Char) : isWordChar c.toLower = isWordChar c := by
  by_cases h : c.isUpper
  · have halpha : c.isAlpha = true := by simp [Char.isAlpha, h]
    have halpha' : c.toLower.isAlpha = true := by rw [Char.isAlpha_toLower_eq_isAlpha, halpha]
    rw [isWordChar_of_isAlpha halpha, isWordChar_of_isAlpha halpha']
  · rw [Char.toLower_eq_of_not_isUpper h]

theorem isWordChar_longS : isWordChar 'ſ' = true := by decide +kernel

theorem isWordChar_kelvin : isWordChar '\u212a' = true := by decide +kernel

/-- Letters that count as one another belong to words together. -/
theorem isWordChar_foldCase (c : Char) : isWordChar (foldCase c) = isWordChar c := by
  unfold foldCase
  split
  · next h =>
    rw [h, isWordChar_longS]
    rfl
  · split
    · next h =>
      rw [h, isWordChar_kelvin]
      rfl
    · exact isWordChar_toLower c

/-! ### Boundaries -/

/-- Whether a text ends inside a word. -/
def endsInWord (text : List Char) : Bool := text.getLast?.any isWordChar

/-- Between two parts of a text a word starts or ends: one of the characters on the two sides
belongs to a word, and the other one does not or is not there. -/
def AtBoundary (before after : List Char) : Prop := endsInWord before ≠ startsInWord after

theorem endsInWord_append_singleton (text : List Char) (c : Char) :
    endsInWord (text ++ [c]) = isWordChar c := by
  simp [endsInWord]

theorem endsInWord_append {text : List Char} (h : text ≠ []) (before : List Char) :
    endsInWord (before ++ text) = endsInWord text := by
  unfold endsInWord
  rw [List.getLast?_append_of_ne_nil _ h]

theorem startsInWord_append {text : List Char} (h : text ≠ []) (after : List Char) :
    startsInWord (text ++ after) = startsInWord text := by
  obtain ⟨c, cs, rfl⟩ := List.exists_cons_of_ne_nil h
  rfl

theorem startsInWord_map_foldCase (text : List Char) :
    startsInWord (text.map foldCase) = startsInWord text := by
  cases text with
  | nil => rfl
  | cons c cs => exact isWordChar_foldCase c

theorem endsInWord_map_foldCase (text : List Char) :
    endsInWord (text.map foldCase) = endsInWord text := by
  unfold endsInWord
  rw [List.getLast?_map]
  cases text.getLast? with
  | none => rfl
  | some c => exact isWordChar_foldCase c

namespace Keywords

variable {k : Keywords} {before found after text word : List Char}

/-! ### What is searched for -/

/-- A part of a text is a keyword in some letter case. -/
def Spells (k : Keywords) (found : List Char) : Prop :=
  ∃ word ∈ k.words, found.map foldCase = word.toList

/-- A keyword stands between two parts of a text, at the start of a word, and as a whole word where
that is asked for. -/
structure FoundAt (k : Keywords) (before found after : List Char) : Prop where
  spells : k.Spells found
  starts : AtBoundary before (found ++ after)
  ends : k.wholeWord = true → AtBoundary (before ++ found) after

/-- A keyword stands somewhere in a text. -/
def FoundIn (k : Keywords) (text : List Char) : Prop :=
  ∃ before found after, text = before ++ (found ++ after) ∧ k.FoundAt before found after

/-- Whether a keyword stands in a place depends on what it spells, and on whether the text around
begins and ends in words. -/
theorem foundAt_congr {before' found' after' : List Char}
    (hspells : k.Spells found' ↔ k.Spells found) (hbefore : endsInWord before' = endsInWord before)
    (hfrom : startsInWord (found' ++ after') = startsInWord (found ++ after))
    (hupto : endsInWord (before' ++ found') = endsInWord (before ++ found))
    (hafter : startsInWord after' = startsInWord after) :
    k.FoundAt before' found' after' ↔ k.FoundAt before found after := by
  have hstarts : AtBoundary before' (found' ++ after') ↔ AtBoundary before (found ++ after) := by
    rw [AtBoundary, AtBoundary, hbefore, hfrom]
  have hends : AtBoundary (before' ++ found') after' ↔ AtBoundary (before ++ found) after := by
    rw [AtBoundary, AtBoundary, hupto, hafter]
  constructor
  · intro h
    exact ⟨hspells.mp h.spells, hstarts.mp h.starts, fun hwhole => hends.mp (h.ends hwhole)⟩
  · intro h
    exact ⟨hspells.mpr h.spells, hstarts.mpr h.starts, fun hwhole => hends.mpr (h.ends hwhole)⟩

/-- Every keyword begins and ends with a word character. -/
def Lettered (k : Keywords) : Prop :=
  ∀ word ∈ k.words, startsInWord word.toList = true ∧ endsInWord word.toList = true

instance (k : Keywords) : Decidable k.Lettered :=
  inferInstanceAs (Decidable (∀ word ∈ k.words, _))

theorem Spells.starts (h : k.Spells found) (hk : k.Lettered) : startsInWord found = true := by
  obtain ⟨word, hword, heq⟩ := h
  rw [← startsInWord_map_foldCase, heq]
  exact (hk word hword).1

theorem Spells.ends (h : k.Spells found) (hk : k.Lettered) : endsInWord found = true := by
  obtain ⟨word, hword, heq⟩ := h
  rw [← endsInWord_map_foldCase, heq]
  exact (hk word hword).2

theorem Spells.ne_nil (h : k.Spells found) (hk : k.Lettered) : found ≠ [] := by
  rintro rfl
  cases h.starts hk

/-- Next to a keyword, the character outside it decides whether there is a boundary. -/
theorem foundAt_iff (hk : k.Lettered) :
    k.FoundAt before found after ↔ endsInWord before = false ∧ k.Spells found ∧
      (k.wholeWord = true → startsInWord after = false) := by
  constructor
  · intro h
    have hne := h.spells.ne_nil hk
    refine ⟨?_, h.spells, fun hwhole => ?_⟩
    · have hstarts := h.starts
      rw [AtBoundary, startsInWord_append hne, h.spells.starts hk] at hstarts
      exact Bool.eq_false_iff.mpr hstarts
    · have hends := h.ends hwhole
      rw [AtBoundary, endsInWord_append hne, h.spells.ends hk] at hends
      exact Bool.eq_false_iff.mpr hends.symm
  · rintro ⟨hbefore, hspells, hafter⟩
    have hne := hspells.ne_nil hk
    refine ⟨hspells, ?_, fun hwhole => ?_⟩
    · rw [AtBoundary, startsInWord_append hne, hspells.starts hk, hbefore]
      exact Bool.false_ne_true
    · rw [AtBoundary, endsInWord_append hne, hspells.ends hk, hafter hwhole]
      exact Bool.false_ne_true.symm

/-! ### The search -/

theorem strip?_eq_some_iff {rest : List Char} :
    strip? word text = some rest ↔ ∃ found, text = found ++ rest ∧ found.map foldCase = word := by
  induction word generalizing text with
  | nil => simp [strip?, eq_comm]
  | cons w word ih =>
    cases text with
    | nil =>
      simp only [strip?]
      constructor
      · intro h
        cases h
      · rintro ⟨found, htext, hfound⟩
        obtain ⟨rfl, -⟩ := List.append_eq_nil_iff.mp htext.symm
        cases hfound
    | cons c text =>
      rw [strip?]
      split
      · next hc =>
        rw [ih]
        constructor
        · rintro ⟨found, rfl, rfl⟩
          exact ⟨c :: found, rfl, by rw [List.map_cons, hc]⟩
        · rintro ⟨found, htext, hfound⟩
          obtain ⟨d, found, rfl, -, rfl⟩ := List.map_eq_cons_iff.mp hfound
          obtain ⟨rfl, rfl⟩ := List.cons.inj htext
          exact ⟨found, rfl, rfl⟩
      · next hc =>
        constructor
        · intro h
          cases h
        · rintro ⟨found, htext, hfound⟩
          obtain ⟨d, found, rfl, hd, -⟩ := List.map_eq_cons_iff.mp hfound
          obtain ⟨rfl, -⟩ := List.cons.inj htext
          exact absurd hd hc

theorem matchHere_iff :
    k.matchHere text = true ↔ ∃ found after, text = found ++ after ∧ k.Spells found ∧
      (k.wholeWord = true → startsInWord after = false) := by
  unfold matchHere
  rw [List.any_eq_true]
  constructor
  · rintro ⟨word, hword, hmatch⟩
    split at hmatch
    · next rest hstrip =>
      obtain ⟨found, rfl, hfound⟩ := strip?_eq_some_iff.mp hstrip
      refine ⟨found, rest, rfl, ⟨word, hword, hfound⟩, fun hwhole => ?_⟩
      simpa [hwhole] using hmatch
    · cases hmatch
  · rintro ⟨found, after, rfl, ⟨word, hword, hfound⟩, hafter⟩
    refine ⟨word, hword, ?_⟩
    have hstrip : strip? word.toList (found ++ after) = some after :=
      strip?_eq_some_iff.mpr ⟨found, rfl, hfound⟩
    rw [hstrip]
    cases hwhole : k.wholeWord with
    | false => rfl
    | true => simp [hafter hwhole]

/-- Behind what was read, a keyword is found exactly if there is one. -/
theorem occursFrom_iff (hk : k.Lettered) (front text : List Char) :
    k.occursFrom (endsInWord front) text = true ↔ ∃ skipped found after,
      text = skipped ++ (found ++ after) ∧ k.FoundAt (front ++ skipped) found after := by
  induction text generalizing front with
  | nil =>
    constructor
    · intro h
      cases h
    · -- no keyword is empty
      rintro ⟨skipped, found, after, htext, h⟩
      obtain ⟨-, hrest⟩ := List.append_eq_nil_iff.mp htext.symm
      exact absurd (List.append_eq_nil_iff.mp hrest).1 (h.spells.ne_nil hk)
  | cons c text ih =>
    have hnext := ih (front ++ [c])
    rw [endsInWord_append_singleton] at hnext
    rw [occursFrom, Bool.or_eq_true, Bool.and_eq_true, Bool.not_eq_true', matchHere_iff, hnext]
    constructor
    · rintro (⟨hfront, found, after, htext, hspells, hafter⟩ | ⟨skipped, found, after, rfl, h⟩)
      · refine ⟨[], found, after, htext, (foundAt_iff hk).mpr ⟨?_, hspells, hafter⟩⟩
        rwa [List.append_nil]
      · refine ⟨c :: skipped, found, after, rfl, ?_⟩
        rwa [List.append_assoc] at h
    · rintro ⟨skipped, found, after, htext, h⟩
      cases skipped with
      | nil =>
        rw [List.append_nil] at h
        obtain ⟨hfront, hspells, hafter⟩ := (foundAt_iff hk).mp h
        exact Or.inl ⟨hfront, found, after, htext, hspells, hafter⟩
      | cons d skipped =>
        obtain ⟨rfl, rfl⟩ := List.cons.inj htext
        refine Or.inr ⟨skipped, found, after, rfl, ?_⟩
        rwa [List.append_assoc]

/-- **The search finds a keyword exactly if one stands in the text.** -/
theorem occurs_iff (hk : k.Lettered) (payload : String) :
    k.occurs payload = true ↔ k.FoundIn payload.toList :=
  occursFrom_iff hk [] payload.toList

end Keywords

/-! ### Kinds -/

namespace TaskKind

/-- The keywords that tell a kind; general chat needs none. -/
def keywords? : TaskKind → Option Keywords
  | codeEdit => some Keywords.codeEdit
  | research => some Keywords.research
  | terminalAutomation => some Keywords.terminal
  | codeGeneration => some Keywords.generation
  | generalChat => none

/-- A text has what tells a kind. -/
def FoundIn (kind : TaskKind) (text : List Char) : Prop :=
  ∀ k ∈ kind.keywords?, k.FoundIn text

/-- A kind is the first one, in the order of classification, that is found in a text. -/
structure IsFirstIn (kind : TaskKind) (text : List Char) : Prop where
  found : kind.FoundIn text
  first : ∀ other : TaskKind, other.FoundIn text → kind.priority ≤ other.priority

theorem lettered_of_mem_keywords? {kind : TaskKind} {k : Keywords} (h : k ∈ kind.keywords?) :
    k.Lettered := by
  cases kind <;> cases h <;> decide

/-- Whether the keywords of a kind occur in a payload. -/
def occursIn (kind : TaskKind) (payload : String) : Bool :=
  kind.keywords?.all fun k => k.occurs payload

theorem occursIn_iff {kind : TaskKind} {payload : String} :
    kind.occursIn payload = true ↔ kind.FoundIn payload.toList := by
  rw [occursIn, Option.all_eq_true]
  apply forall₂_congr
  intro k hk
  exact Keywords.occurs_iff (lettered_of_mem_keywords? hk) payload

/-- Classification tries the kinds in their order. -/
theorem find?_byPriority (payload : String) :
    byPriority.find? (·.occursIn payload) = some (classify payload) := by
  unfold classify
  simp only [byPriority, List.find?_cons, occursIn, keywords?, Option.all_some, Option.all_none]
  cases Keywords.codeEdit.occurs payload <;> cases Keywords.research.occurs payload <;>
    cases Keywords.terminal.occurs payload <;> cases Keywords.generation.occurs payload <;> rfl

/-- **A text is classified as the first kind that is found in it.** -/
theorem isFirstIn_classify (payload : String) : (classify payload).IsFirstIn payload.toList := by
  obtain ⟨hfound, before, after, hsplit, hbefore⟩ :=
    List.find?_eq_some_iff_append.mp (find?_byPriority payload)
  -- no kind that occurs stands before the one that was found
  have hnot : ∀ kind : TaskKind, kind.occursIn payload = true → kind ∉ before := by
    intro kind hkind hmem
    have := hbefore kind hmem
    simp [hkind] at this
  refine ⟨occursIn_iff.mp hfound, fun other hother => ?_⟩
  rw [priority, priority, hsplit, List.idxOf_append_of_notMem (hnot _ hfound),
    List.idxOf_append_of_notMem (hnot _ (occursIn_iff.mpr hother)), List.idxOf_cons_self]
  exact Nat.add_le_add_left (Nat.zero_le _) _

theorem priority_injective : Function.Injective priority := by
  intro a b h
  cases a <;> cases b <;> first | rfl | cases h

/-- The better one of the first kinds of two texts is the first kind of a text with what tells a
kind in either of them. -/
theorem IsFirstIn.of_either {a b : TaskKind} {p q text : List Char} (ha : a.IsFirstIn p)
    (hb : b.IsFirstIn q) (hle : a.priority ≤ b.priority)
    (htext : ∀ kind : TaskKind, kind.FoundIn text ↔ kind.FoundIn p ∨ kind.FoundIn q) :
    a.IsFirstIn text := by
  refine ⟨(htext a).mpr (Or.inl ha.found), fun other hother => ?_⟩
  rcases (htext other).mp hother with h | h
  · exact ha.first other h
  · exact Nat.le_trans hle (hb.first other h)

/-- There is one first kind. -/
theorem IsFirstIn.unique {a b : TaskKind} {text : List Char} (ha : a.IsFirstIn text)
    (hb : b.IsFirstIn text) : a = b :=
  priority_injective (Nat.le_antisymm (ha.first b hb.found) (hb.first a ha.found))

end TaskKind

end Dispatch
