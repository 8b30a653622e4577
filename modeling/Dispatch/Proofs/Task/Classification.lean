/-
Dispatch/Proofs/Task/Classification.lean

What the kind of a text depends on.

A character that belongs to no word and to no keyword separates a text into two: whether a keyword
stands in the text is decided on each side of it alone (`Keywords.foundIn_append_cons_iff`).  No
match crosses it, and a boundary next to it is one without it, for a word ends there as it ends at
the end of a text.  Line breaks are such characters, so the kind of a text is the best of the kinds
of its lines (`classify_append_newline`).

Texts that are alike up to the letters that count as one another have the same boundaries and spell
the same keywords (`FoundIn.of_map_foldCase`), so the case of letters does not matter
(`classify_of_sameButCase`).
-/
import Dispatch.Proofs.Task.Occurrence

namespace Dispatch

/-! ### Separators -/

section

variable {sep : Char} {front back before found after p q : List Char} {k : Keywords}

theorem startsInWord_append_cons (hsep : isWordChar sep = false) (front back : List Char) :
    startsInWord (front ++ sep :: back) = startsInWord front := by
  cases front with
  | nil => exact hsep
  | cons c front => rfl

theorem endsInWord_append_cons (hsep : isWordChar sep = false) (front back : List Char) :
    endsInWord (front ++ sep :: back) = endsInWord back := by
  rw [List.append_cons]
  by_cases hback : back = []
  · subst hback
    rw [List.append_nil, endsInWord_append_singleton, hsep]
    rfl
  · exact endsInWord_append hback _

namespace Keywords

theorem Spells.notMem (h : k.Spells found)
    (hk : ∀ word ∈ k.words, foldCase sep ∉ word.toList) : sep ∉ found := by
  obtain ⟨word, hword, heq⟩ := h
  intro hmem
  apply hk word hword
  rw [← heq]
  exact List.mem_map_of_mem hmem

/-- What follows a separator behind a keyword does not matter. -/
theorem foundAt_append_cons_iff (hsep : isWordChar sep = false) :
    k.FoundAt before found (front ++ sep :: back) ↔ k.FoundAt before found front := by
  have hfrom : startsInWord (found ++ (front ++ sep :: back)) = startsInWord (found ++ front) := by
    rw [← List.append_assoc, startsInWord_append_cons hsep]
  exact foundAt_congr Iff.rfl rfl hfrom rfl (startsInWord_append_cons hsep front back)

/-- What stands in front of a separator before a keyword does not matter. -/
theorem foundAt_cons_append_iff (hsep : isWordChar sep = false) :
    k.FoundAt (front ++ sep :: back) found after ↔ k.FoundAt back found after := by
  have hupto : endsInWord (front ++ sep :: back ++ found) = endsInWord (back ++ found) := by
    rw [List.append_assoc, List.cons_append, endsInWord_append_cons hsep]
  exact foundAt_congr Iff.rfl (endsInWord_append_cons hsep front back) rfl hupto rfl

/-- **A keyword stands on one side of a separator.** -/
theorem foundIn_append_cons_iff (hsep : isWordChar sep = false) (hlettered : k.Lettered)
    (hk : ∀ word ∈ k.words, foldCase sep ∉ word.toList) (p q : List Char) :
    k.FoundIn (p ++ sep :: q) ↔ k.FoundIn p ∨ k.FoundIn q := by
  constructor
  · rintro ⟨before, found, after, htext, h⟩
    have hnot : sep ∉ found := h.spells.notMem hk
    rcases List.append_eq_append_iff.mp htext with ⟨gap, rfl, hq⟩ | ⟨gap, rfl, hrest⟩
    · -- the keyword begins behind the first part: it cannot begin with the separator
      cases gap with
      | nil =>
        obtain ⟨c, cs, rfl⟩ := List.exists_cons_of_ne_nil (h.spells.ne_nil hlettered)
        obtain ⟨rfl, -⟩ := List.cons.inj hq
        exact absurd List.mem_cons_self hnot
      | cons c gap =>
        obtain ⟨rfl, rfl⟩ := List.cons.inj hq
        exact Or.inr ⟨gap, found, after, rfl, (foundAt_cons_append_iff hsep).mp h⟩
    · -- it begins in the first part: it ends there too, for it does not have the separator
      rcases List.append_eq_append_iff.mp hrest with ⟨tail, rfl, rfl⟩ | ⟨tail, rfl, htail⟩
      · exact Or.inl ⟨before, found, tail, rfl, (foundAt_append_cons_iff hsep).mp h⟩
      · cases tail with
        | nil =>
          rw [List.nil_append] at htail
          subst htail
          rw [List.append_nil] at h
          refine Or.inl ⟨before, gap, [], by rw [List.append_nil], ?_⟩
          exact (foundAt_append_cons_iff hsep).mp h
        | cons c tail =>
          obtain ⟨rfl, -⟩ := List.cons.inj htail
          exact absurd (List.mem_append_right _ List.mem_cons_self) hnot
  · rintro (⟨before, found, after, rfl, h⟩ | ⟨before, found, after, rfl, h⟩)
    · refine ⟨before, found, after ++ sep :: q, by simp only [List.append_assoc], ?_⟩
      exact (foundAt_append_cons_iff hsep).mpr h
    · have htext : p ++ sep :: (before ++ (found ++ after))
          = (p ++ sep :: before) ++ (found ++ after) := by
        rw [List.append_assoc, List.cons_append]
      refine ⟨p ++ sep :: before, found, after, htext, ?_⟩
      exact (foundAt_cons_append_iff hsep).mpr h

end Keywords

end

namespace TaskKind

/-! ### Lines -/

theorem newline_notMem_of_mem_keywords? {kind : TaskKind} {k : Keywords} (h : k ∈ kind.keywords?) :
    ∀ word ∈ k.words, foldCase '\n' ∉ word.toList := by
  cases kind <;> cases h <;> decide

theorem foundIn_iff_of_keywords {kind : TaskKind} {k : Keywords} (hk : kind.keywords? = some k)
    (text : List Char) : kind.FoundIn text ↔ k.FoundIn text := by
  simp [FoundIn, hk]

/-- What tells a kind stands in one of two parts that a line break separates. -/
theorem foundIn_append_newline_iff (kind : TaskKind) (p q : List Char) :
    kind.FoundIn (p ++ '\n' :: q) ↔ kind.FoundIn p ∨ kind.FoundIn q := by
  have hsep : isWordChar '\n' = false := by decide
  cases hk : kind.keywords? with
  | none => simp [FoundIn, hk]
  | some k =>
    simp only [foundIn_iff_of_keywords hk]
    exact Keywords.foundIn_append_cons_iff hsep (lettered_of_mem_keywords? hk)
      (newline_notMem_of_mem_keywords? hk) p q

/-- **The kind of a text is the best of its lines.** -/
theorem classify_append_newline (p q : String) :
    (∀ text : String, (classify text).IsFirstIn text.toList) ∧
      classify (p ++ "\n" ++ q)
        = if (classify p).priority ≤ (classify q).priority then classify p else classify q := by
  refine ⟨isFirstIn_classify, ?_⟩
  have hp := isFirstIn_classify p
  have hq := isFirstIn_classify q
  have htext : (p ++ "\n" ++ q).toList = p.toList ++ '\n' :: q.toList := by
    simp
  apply IsFirstIn.unique (isFirstIn_classify _)
  rw [htext]
  split
  · next hle =>
    exact hp.of_either hq hle fun kind => foundIn_append_newline_iff kind ..
  · next hlt =>
    refine hq.of_either hp (Nat.le_of_not_le hlt) fun kind => ?_
    rw [foundIn_append_newline_iff, or_comm]

end TaskKind

/-! ### Letter case -/

/-- A character, or the same letter of ASCII in the other case. -/
def SameButCase (c d : Char) : Prop := d = c ∨ d = c.toLower ∨ d = c.toUpper

instance (c d : Char) : Decidable (SameButCase c d) :=
  inferInstanceAs (Decidable (d = c ∨ d = c.toLower ∨ d = c.toUpper))

/-- A letter of ASCII counts as its lower-case letter. -/
theorem foldCase_of_isAlpha {c : Char} (h : c.isAlpha = true) : foldCase c = c.toLower := by
  have hascii := toNat_lt_of_isAlpha h
  have hlong : c ≠ 'ſ' := by
    rintro rfl
    exact absurd hascii (by decide)
  have hkelvin : c ≠ '\u212a' := by
    rintro rfl
    exact absurd hascii (by decide)
  rw [foldCase, if_neg hlong, if_neg hkelvin]

theorem SameButCase.foldCase_eq {c d : Char} (h : SameButCase c d) : foldCase d = foldCase c := by
  by_cases halpha : c.isAlpha = true
  · rcases h with rfl | rfl | rfl
    · rfl
    · have hlower : c.toLower.isAlpha = true := by rw [Char.isAlpha_toLower_eq_isAlpha, halpha]
      rw [foldCase_of_isAlpha hlower, foldCase_of_isAlpha halpha, Char.toLower_toLower_eq_toLower]
    · have hupper : c.toUpper.isAlpha = true := by rw [Char.isAlpha_toUpper_eq_isAlpha, halpha]
      rw [foldCase_of_isAlpha hupper, foldCase_of_isAlpha halpha, Char.toLower_toUpper_eq_toLower]
  · -- a character that is no letter has no other case
    simp only [Char.isAlpha, Bool.or_eq_true, not_or] at halpha
    obtain ⟨hupper, hlower⟩ := halpha
    rw [SameButCase, Char.toLower_eq_of_not_isUpper hupper,
      Char.toUpper_eq_of_not_isLower hlower] at h
    rcases h with rfl | rfl | rfl <;> rfl

theorem map_foldCase_of_sameButCase {text text' : List Char}
    (h : List.Forall₂ SameButCase text text') : text'.map foldCase = text.map foldCase := by
  induction h with
  | nil => rfl
  | cons hc _ ih => rw [List.map_cons, List.map_cons, hc.foldCase_eq, ih]

namespace Keywords

variable {k : Keywords} {text text' : List Char}

theorem startsInWord_eq_of_map_foldCase (h : text'.map foldCase = text.map foldCase) :
    startsInWord text' = startsInWord text := by
  rw [← startsInWord_map_foldCase, h, startsInWord_map_foldCase]

theorem endsInWord_eq_of_map_foldCase (h : text'.map foldCase = text.map foldCase) :
    endsInWord text' = endsInWord text := by
  rw [← endsInWord_map_foldCase, h, endsInWord_map_foldCase]

/-- Texts that count as one another have the same keywords. -/
theorem FoundIn.of_map_foldCase (h : k.FoundIn text)
    (htext : text'.map foldCase = text.map foldCase) : k.FoundIn text' := by
  obtain ⟨before, found, after, rfl, h⟩ := h
  -- the other text falls into parts that count as these
  rw [List.map_append, List.map_append] at htext
  obtain ⟨before', rest', rfl, hbefore, hrest⟩ := List.map_eq_append_iff.mp htext
  obtain ⟨found', after', rfl, hfound, hafter⟩ := List.map_eq_append_iff.mp hrest
  have hspells : k.Spells found' ↔ k.Spells found := by rw [Spells, Spells, hfound]
  have hfrom : (found' ++ after').map foldCase = (found ++ after).map foldCase := by
    rw [hrest, List.map_append]
  have hupto : (before' ++ found').map foldCase = (before ++ found).map foldCase := by
    rw [List.map_append, List.map_append, hbefore, hfound]
  refine ⟨before', found', after', rfl, (foundAt_congr hspells ?_ ?_ ?_ ?_).mpr h⟩
  · exact endsInWord_eq_of_map_foldCase hbefore
  · exact startsInWord_eq_of_map_foldCase hfrom
  · exact endsInWord_eq_of_map_foldCase hupto
  · exact startsInWord_eq_of_map_foldCase hafter

end Keywords

namespace TaskKind

theorem FoundIn.of_map_foldCase {kind : TaskKind} {text text' : List Char} (h : kind.FoundIn text)
    (htext : text'.map foldCase = text.map foldCase) : kind.FoundIn text' :=
  fun k hk => (h k hk).of_map_foldCase htext

/-- **The case of letters does not matter** to the kind of a text. -/
theorem classify_of_sameButCase {p p' : String}
    (h : List.Forall₂ SameButCase p.toList p'.toList) :
    (classify p).IsFirstIn p.toList ∧ classify p' = classify p := by
  have hp := isFirstIn_classify p
  have hfold := map_foldCase_of_sameButCase h
  refine ⟨hp, (isFirstIn_classify p').unique ?_⟩
  refine ⟨hp.found.of_map_foldCase hfold, fun other hother => ?_⟩
  exact hp.first other (hother.of_map_foldCase hfold.symm)

/-- A long s counts as an s and a letter with an accent stands for itself, in either case of the
letters around them. -/
theorem classify_of_shouted_text :
    List.Forall₂ SameButCase "Optimiſe l'été".toList "oPTIMIſE L'éTé".toList ∧
      classify "oPTIMIſE L'éTé" = .codeEdit := by
  have h : List.Forall₂ SameButCase "Optimiſe l'été".toList "oPTIMIſE L'éTé".toList := by decide
  have hkind : classify "Optimiſe l'été" = .codeEdit := by decide
  exact ⟨h, (classify_of_sameButCase h).2.trans hkind⟩

end TaskKind

end Dispatch
