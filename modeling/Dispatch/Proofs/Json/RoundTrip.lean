/-
Dispatch/Proofs/Json/RoundTrip.lean

Documents read back from their texts.

A reader returns a value and what it leaves, with a proof that this is shorter.  The proofs speak
of the two only (`Leaves`), and of the rest behind blanks where a text may end in some
(`LeavesBlanks`).  Every part of a number is read to its end, whatever mark follows
(`readMagnitude_append`); a text is read back character by character, from the three ways a
character is written in (`escapeChar_cases`).

What is read is not the document that was written, but its canonical form, where members are in
name order (`canonical`).  The induction is on the document, over values, items and members at
once (`takeValue_compact`), and asks for documents with numbers that can be read back and few
enough levels (`Legible`).
-/
import Dispatch.Json.Parser
import Dispatch.Json.Printer
import Dispatch.Proofs.Number.Decimal
import Mathlib.Algebra.Group.Int.Defs
import Mathlib.Data.List.Basic

namespace Dispatch.Json

/-! ### What a reader leaves -/

section

variable {α : Type} {bounded : List Char → Prop}

/-- A reader reads a value and leaves the rest. -/
def Leaves (read : Except ParseError (α × { r : List Char // bounded r })) (v : α)
    (rest : List Char) : Prop :=
  ∃ left, read = .ok (v, left) ∧ left.1 = rest

/-- The same, where blanks may stand in front of the rest. -/
def LeavesBlanks (read : Except ParseError (α × { r : List Char // bounded r })) (v : α)
    (rest : List Char) : Prop :=
  ∃ left, read = .ok (v, left) ∧ (skipBlanks left.1).1 = rest

theorem leaves_ok_iff {r : α × { left : List Char // bounded left }} {v : α} {rest : List Char} :
    Leaves (.ok r) v rest ↔ r.1 = v ∧ r.2.1 = rest := by
  constructor
  · rintro ⟨left, h, rfl⟩
    cases h
    exact ⟨rfl, rfl⟩
  · rintro ⟨rfl, rfl⟩
    exact ⟨r.2, rfl, rfl⟩

theorem not_leaves_error {e : ParseError} {v : α} {rest : List Char} :
    ¬ Leaves (.error e : Except ParseError (α × { r : List Char // bounded r })) v rest := by
  rintro ⟨left, h, -⟩
  cases h

end

/-- Nothing that could go on with a number: the end, or a mark between values. -/
def Ends (rest : List Char) : Prop := ∀ c ∈ rest.head?, c = ',' ∨ c = ']' ∨ c = '\x7d'

theorem ends_nil : Ends [] := by
  rintro c ⟨⟩

theorem skipBlanks_cons {c : Char} (h : isBlank c = false) (cs : List Char) :
    skipBlanks (c :: cs) = ⟨c :: cs, Nat.le_refl _⟩ := by
  rw [skipBlanks]
  simp only [h, Bool.false_eq_true, if_false]

theorem isBlank_of_isDigit {c : Char} (h : c.isDigit = true) : isBlank c = false := by
  refine Bool.eq_false_iff.mpr fun hblank => ?_
  simp only [isBlank, Bool.or_eq_true, decide_eq_true_eq] at hblank
  rcases hblank with ((rfl | rfl) | rfl) | rfl <;> cases h

theorem Ends.skipBlanks {rest : List Char} (h : Ends rest) : (skipBlanks rest).1 = rest := by
  cases rest with
  | nil => rfl
  | cons c rest =>
    have hc : isBlank c = false := by
      rcases h c rfl with rfl | rfl | rfl <;> decide
    rw [skipBlanks_cons hc]

theorem skipBlanks_append {s rest : List Char} (h : (skipBlanks s).1 = []) :
    (skipBlanks (s ++ rest)).1 = (skipBlanks rest).1 := by
  induction s with
  | nil => rfl
  | cons c s ih =>
    rw [skipBlanks] at h
    rw [List.cons_append, skipBlanks]
    split at h
    · next hc =>
      simp only [hc, if_true]
      exact ih h
    · cases h

theorem Ends.head?_ne {rest : List Char} (h : Ends rest) {c : Char}
    (hc : c ∉ [',', ']', '\x7d']) : rest.head? ≠ some c := fun heq => hc (by
  rcases h c heq with rfl | rfl | rfl <;> decide)

/-! ### Numbers -/

theorem takeFraction_of_ne {s : List Char} (h : s.head? ≠ some '.') :
    takeFraction s = .ok (none, ⟨s, Nat.le_refl _⟩) := by
  unfold takeFraction
  split
  · exact absurd rfl h
  · rfl

theorem takeSign_append (c : Char) (cs rest : List Char) :
    (takeSign (c :: (cs ++ rest))).1 = (takeSign (c :: cs)).1 ∧
      (takeSign (c :: (cs ++ rest))).2.1 = (takeSign (c :: cs)).2.1 ++ rest := by
  by_cases hplus : c = '+'
  · subst hplus
    exact ⟨rfl, rfl⟩
  · by_cases hminus : c = '-'
    · subst hminus
      exact ⟨rfl, rfl⟩
    · have hsign {l : List Char} : takeSign (c :: l) = (false, ⟨c :: l, Nat.le_refl _⟩) := by
        simp [takeSign, hplus, hminus]
      rw [hsign, hsign]
      exact ⟨rfl, rfl⟩

/-- The parts of a number, one after another. -/
theorem leaves_readMagnitude_iff {negative : Bool} {s r : List Char} {v : Json} :
    Leaves (readMagnitude negative s) v r ↔
      ∃ whole r₁ fraction r₂ exponent, Leaves (takeWhole s) whole r₁ ∧
        Leaves (takeFraction r₁) fraction r₂ ∧ Leaves (takeExponent r₂) exponent r ∧
        (NumberText.mk negative whole fraction exponent).toJson = .ok v := by
  unfold readMagnitude Leaves
  constructor
  · rintro ⟨left, h, rfl⟩
    cases hw : takeWhole s with
    | error e => rw [hw] at h; cases h
    | ok whole =>
      rw [hw] at h
      cases hf : takeFraction whole.2.1 with
      | error e => simp only [hf, bind, Except.bind] at h; cases h
      | ok fraction =>
        cases he : takeExponent fraction.2.1 with
        | error e => simp only [hf, he, bind, Except.bind] at h; cases h
        | ok exponent =>
          simp only [hf, he, bind, Except.bind] at h
          split at h
          · cases h
          · next v' hv =>
            cases h
            exact ⟨_, _, _, _, _, ⟨_, rfl, rfl⟩, ⟨_, hf, rfl⟩, ⟨_, he, rfl⟩, hv⟩
  · rintro ⟨whole, r₁, fraction, r₂, exponent, ⟨l₁, hw, rfl⟩, ⟨l₂, hf, rfl⟩, ⟨l₃, he, rfl⟩, hv⟩
    simp only [hw, hf, he, hv, bind, Except.bind]
    exact ⟨_, rfl, rfl⟩

section

variable {rest : List Char} (hrest : Ends rest)

include hrest

theorem takeDigits_append (s : List Char) :
    (takeDigits (s ++ rest)).1 = (takeDigits s).1 ∧
      (takeDigits (s ++ rest)).2.1 = (takeDigits s).2.1 ++ rest := by
  induction s with
  | nil =>
    cases rest with
    | nil => exact ⟨rfl, rfl⟩
    | cons c rest =>
      have hc : c.isDigit = false := by
        rcases hrest c rfl with rfl | rfl | rfl <;> decide
      simp [takeDigits, hc]
  | cons c s ih =>
    rw [List.cons_append, takeDigits, takeDigits]
    split
    · exact ⟨congrArg (c :: ·) ih.1, ih.2⟩
    · exact ⟨rfl, rfl⟩

theorem takeWhole_append {s r ds : List Char} (h : Leaves (takeWhole s) ds r) :
    Leaves (takeWhole (s ++ rest)) ds (r ++ rest) := by
  obtain ⟨left, h, rfl⟩ := h
  cases s with
  | nil => cases h
  | cons c s =>
    obtain ⟨hdigits, hleft⟩ := takeDigits_append hrest s
    unfold takeWhole at h
    unfold takeWhole
    simp only [List.cons_append, hdigits] at h ⊢
    split at h
    · next hzero =>
      rw [if_pos hzero]
      split at h
      · next hempty =>
        cases h
        exact ⟨_, if_pos hempty, rfl⟩
      · cases h
    · next hzero =>
      rw [if_neg hzero]
      split at h
      · next hc =>
        cases h
        exact ⟨_, if_pos hc, hleft⟩
      · cases h

theorem takeFraction_append {s r : List Char} {ds : Option (List Char)}
    (h : Leaves (takeFraction s) ds r) : Leaves (takeFraction (s ++ rest)) ds (r ++ rest) := by
  obtain ⟨left, h, rfl⟩ := h
  by_cases hpoint : s.head? = some '.'
  · obtain ⟨cs, rfl⟩ := List.head?_eq_some_iff.mp hpoint
    obtain ⟨hdigits, hleft⟩ := takeDigits_append hrest cs
    simp only [takeFraction, List.cons_append, hdigits] at h ⊢
    split at h
    · cases h
    · next hsome =>
      cases h
      exact ⟨_, if_neg hsome, hleft⟩
  · have hnext : (s ++ rest).head? ≠ some '.' := by
      cases s with
      | nil => exact hrest.head?_ne (by decide)
      | cons c s => exact hpoint
    rw [takeFraction_of_ne hpoint] at h
    cases h
    rw [takeFraction_of_ne hnext]
    exact ⟨_, rfl, rfl⟩

theorem takeExponent_append {s r : List Char} {e : Option (Bool × List Char)}
    (h : Leaves (takeExponent s) e r) : Leaves (takeExponent (s ++ rest)) e (r ++ rest) := by
  obtain ⟨left, h, rfl⟩ := h
  cases s with
  | nil =>
    -- nothing is left of the number, and what ends it begins no exponent
    cases h
    cases rest with
    | nil => exact ⟨_, rfl, rfl⟩
    | cons c rest =>
      have hc : (c = 'e' || c = 'E') = false := by
        rcases hrest c rfl with rfl | rfl | rfl <;> decide
      simp only [takeExponent, List.nil_append, hc]
      exact ⟨_, rfl, rfl⟩
  | cons c s =>
    simp only [takeExponent, List.cons_append] at h ⊢
    split at h
    · next hc =>
      -- a sign may follow, and then digits as far as they go
      rw [if_pos hc]
      cases s with
      | nil => cases h
      | cons d s =>
        obtain ⟨hsign, hafter⟩ := takeSign_append d s rest
        obtain ⟨hdigits, hleft⟩ := takeDigits_append hrest (takeSign (d :: s)).2.1
        rw [← hafter] at hdigits hleft
        simp only [List.cons_append, hdigits, hsign] at h ⊢
        split at h
        · cases h
        · next hsome =>
          cases h
          exact ⟨_, if_neg hsome, hleft⟩
    · next hc =>
      cases h
      rw [if_neg hc]
      exact ⟨_, rfl, rfl⟩

/-- A number is read as it is, whatever ends it. -/
theorem readMagnitude_append {negative : Bool} {s r : List Char} {v : Json}
    (h : Leaves (readMagnitude negative s) v r) :
    Leaves (readMagnitude negative (s ++ rest)) v (r ++ rest) := by
  obtain ⟨whole, r₁, fraction, r₂, exponent, hw, hf, he, hv⟩ := leaves_readMagnitude_iff.mp h
  exact leaves_readMagnitude_iff.mpr ⟨whole, _, fraction, _, exponent, takeWhole_append hrest hw,
    takeFraction_append hrest hf, takeExponent_append hrest he, hv⟩

end

theorem digitsValue_toDigits (n : Nat) : digitsValue (Nat.toDigits 10 n) = n :=
  foldl_toDigits n

theorem takeDigits_of_all {ds : List Char} (h : ∀ d ∈ ds, d.isDigit = true) :
    (takeDigits ds).1 = ds ∧ (takeDigits ds).2.1 = [] := by
  induction ds with
  | nil => exact ⟨rfl, rfl⟩
  | cons d ds ih =>
    obtain ⟨hdigits, hleft⟩ := ih fun x hx => h x (List.mem_cons_of_mem _ hx)
    simp [takeDigits, h d List.mem_cons_self, hdigits, hleft]

/-- The digits of a number are a whole part. -/
theorem takeWhole_toDigits (n : Nat) :
    Leaves (takeWhole (Nat.toDigits 10 n)) (Nat.toDigits 10 n) [] := by
  obtain ⟨c, cs, heq, hc, hzero⟩ := exists_toDigits_eq_cons n
  have hall : ∀ d ∈ cs, d.isDigit = true := fun d hd =>
    Nat.isDigit_of_mem_toDigits (b := 10) (n := n) (by decide) (by decide)
      (heq ▸ List.mem_cons_of_mem _ hd)
  obtain ⟨hdigits, hleft⟩ := takeDigits_of_all hall
  by_cases h0 : c = '0'
  · obtain rfl := hzero h0
    cases heq
    exact ⟨_, rfl, rfl⟩
  · rw [heq]
    simp only [takeWhole, h0, if_false, hc, if_true, hdigits]
    exact ⟨_, rfl, hleft⟩

theorem readMagnitude_toDigits {negative : Bool} {n : Nat} {v : Json}
    (h : (NumberText.mk negative (Nat.toDigits 10 n) none none).toJson = .ok v) :
    Leaves (readMagnitude negative (Nat.toDigits 10 n)) v [] :=
  leaves_readMagnitude_iff.mpr ⟨_, [], none, [], none, takeWhole_toDigits n, ⟨_, rfl, rfl⟩,
    ⟨_, rfl, rfl⟩, h⟩

theorem toJson_toDigits {n : Nat} (h : n < UInt64.size) :
    (NumberText.mk false (Nat.toDigits 10 n) none none).toJson = .ok (.int n) := by
  simp [NumberText.toJson, digitsValue_toDigits, h]

theorem toJson_negative_toDigits {n : Nat} (hpos : 0 < n) (h : n ≤ 9223372036854775808) :
    (NumberText.mk true (Nat.toDigits 10 n) none none).toJson = .ok (.int (-n)) := by
  simp [NumberText.toJson, digitsValue_toDigits, hpos, h]

/-! ### Texts -/

/-- A control character is read back from its four digits. -/
theorem exists_hex4_eq {n : Nat} (h : n < 32) :
    ∃ a b c d, hex4 n = [a, b, c, d] ∧ hex4? a b c d = some n := by
  have hall : ∀ n < 32, (hex4 n).length = 4 ∧ Digits.number? 16 (hex4 n) = some n := by decide
  obtain ⟨hlength, hvalue⟩ := hall n h
  obtain ⟨a, b, c, d, heq⟩ := List.length_eq_four.mp hlength
  rw [heq] at hvalue
  exact ⟨a, b, c, d, heq, hvalue⟩

section

variable {acc : List Char} {text : String} {c : Char} {s left rest : List Char}

theorem takeText_backslash (hescape : Leaves (takeEscape s) c left)
    (h : Leaves (takeText (c :: acc) left) text rest) :
    Leaves (takeText acc ('\\' :: s)) text rest := by
  obtain ⟨l₁, hescape, rfl⟩ := hescape
  obtain ⟨l₂, h, rfl⟩ := h
  rw [takeText, if_neg (by decide), if_pos rfl, hescape]
  simp only [h]
  exact ⟨_, rfl, rfl⟩

theorem takeText_plain (hquote : c ≠ '\x22') (hbackslash : c ≠ '\\') (hcontrol : ¬ c.toNat < 32)
    (h : Leaves (takeText (c :: acc) s) text rest) : Leaves (takeText acc (c :: s)) text rest := by
  obtain ⟨l, h, rfl⟩ := h
  rw [takeText, if_neg hquote, if_neg hbackslash, if_neg hcontrol]
  simp only [h]
  exact ⟨_, rfl, rfl⟩

/-- An escape with four digits, of a character that is no half of a pair. -/
theorem takeEscape_hex4 (h : c.toNat < 32) :
    Leaves (takeEscape ('u' :: (hex4 c.toNat ++ s))) c s := by
  obtain ⟨x, y, z, w, hdigits, hvalue⟩ := exists_hex4_eq h
  rw [hdigits]
  show Leaves (takeEscape ('u' :: x :: y :: z :: w :: s)) c s
  unfold takeEscape
  simp only [hvalue]
  rw [if_neg (by omega), if_neg (by omega)]
  exact ⟨_, congrArg (fun c => Except.ok (c, _)) (Char.ofNat_toNat c), rfl⟩

/-- An escape with one letter. -/
theorem takeEscape_simple {e : Char} (hu : e ≠ 'u') (h : simpleEscape? e = some c) :
    Leaves (takeEscape (e :: s)) c s := by
  have heq : takeEscape (e :: s) = .ok (c, ⟨s, Nat.lt_succ_self _⟩) := by
    simp [takeEscape, hu, h]
  exact ⟨_, heq, rfl⟩

/-- How a character is written between quotes. -/
theorem escapeChar_cases (c : Char) :
    (∃ e, escapeChar c = ['\\', e] ∧ e ≠ 'u' ∧ simpleEscape? e = some c) ∨
    (escapeChar c = '\\' :: 'u' :: hex4 c.toNat ∧ c.toNat < 32) ∨
    (escapeChar c = [c] ∧ c ≠ '\x22' ∧ c ≠ '\\' ∧ ¬ c.toNat < 32) := by
  by_cases hshort : c ∈ ['\x22', '\\', '\x08', '\t', '\n', '\x0c', '\r']
  · refine Or.inl ?_
    simp only [List.mem_cons, List.not_mem_nil, or_false] at hshort
    rcases hshort with rfl | rfl | rfl | rfl | rfl | rfl | rfl <;>
      exact ⟨_, rfl, by decide, by decide⟩
  · simp only [List.mem_cons, List.not_mem_nil, or_false, not_or] at hshort
    obtain ⟨h₁, h₂, h₃, h₄, h₅, h₆, h₇⟩ := hshort
    refine Or.inr ?_
    by_cases hcontrol : c.toNat < 32
    · exact Or.inl ⟨by simp [escapeChar, h₁, h₂, h₃, h₄, h₅, h₆, h₇, hcontrol], hcontrol⟩
    · exact Or.inr ⟨by simp [escapeChar, h₁, h₂, h₃, h₄, h₅, h₆, h₇, hcontrol], h₁, h₂, hcontrol⟩

/-- A character between quotes is read back. -/
theorem takeText_escapeChar (h : Leaves (takeText (c :: acc) s) text rest) :
    Leaves (takeText acc (escapeChar c ++ s)) text rest := by
  rcases escapeChar_cases c with ⟨e, heq, hu, he⟩ | ⟨heq, hc⟩ | ⟨heq, hquote, hbackslash, hc⟩
  · rw [heq]
    exact takeText_backslash (takeEscape_simple hu he) h
  · rw [heq]
    exact takeText_backslash (takeEscape_hex4 hc) h
  · rw [heq]
    exact takeText_plain hquote hbackslash hc h

end

/-- A quoted text is read back. -/
theorem takeText_quoted (acc s rest : List Char) :
    Leaves (takeText acc (s.flatMap escapeChar ++ '\x22' :: rest))
      (String.ofList (acc.reverse ++ s)) rest := by
  induction s generalizing acc with
  | nil =>
    rw [List.flatMap_nil, List.nil_append, List.append_nil, takeText]
    exact ⟨_, rfl, rfl⟩
  | cons c s ih =>
    rw [List.flatMap_cons, List.append_assoc]
    have h := ih (c :: acc)
    rw [List.reverse_cons, List.append_assoc, List.singleton_append] at h
    exact takeText_escapeChar h

/-! ### Values by their first character -/

section

variable {depth : Nat} {c : Char} {cs rest : List Char} {v : Json}

theorem takeValue_quote {text : String} (h : Leaves (takeText [] cs) text rest) :
    Leaves (takeValue depth ('\x22' :: cs)) (.str text) rest := by
  obtain ⟨left, h, rfl⟩ := h
  rw [takeValue, skipBlanks_cons (by decide)]
  simp only [if_true, h]
  exact ⟨_, rfl, rfl⟩

theorem takeValue_minus_iff :
    Leaves (takeValue depth ('-' :: cs)) v rest ↔ Leaves (readMagnitude true cs) v rest := by
  rw [takeValue, skipBlanks_cons (by decide)]
  simp only [Char.reduceEq, if_false, if_true]
  cases readMagnitude true cs with
  | error e => exact iff_of_false not_leaves_error not_leaves_error
  | ok read => rw [leaves_ok_iff, leaves_ok_iff]

theorem takeValue_digit_iff (hc : c.isDigit = true) :
    Leaves (takeValue depth (c :: cs)) v rest ↔ Leaves (readMagnitude false (c :: cs)) v rest := by
  have hne {d : Char} (hd : d.isDigit = false) : c ≠ d := fun heq => by
    rw [heq, hd] at hc
    cases hc
  rw [takeValue, skipBlanks_cons (isBlank_of_isDigit hc)]
  simp only [hne (d := '\x22') (by decide), hne (d := '[') (by decide),
    hne (d := '\x7b') (by decide), hne (d := '-') (by decide), if_false, hc, if_true]
  cases readMagnitude false (c :: cs) with
  | error e => exact iff_of_false not_leaves_error not_leaves_error
  | ok read => exact leaves_ok_iff.trans (leaves_ok_iff (r := read)).symm

theorem takeValue_brackets (hdepth : 1 < depth) :
    Leaves (takeValue depth ('[' :: ']' :: cs)) (.arr []) cs := by
  rw [takeValue, skipBlanks_cons (by decide)]
  simp only [Char.reduceEq, if_false, if_true, Nat.not_le.mpr hdepth,
    skipBlanks_cons (c := ']') (by decide)]
  exact ⟨_, rfl, rfl⟩

theorem takeValue_bracket {items : List Json} (hdepth : 1 < depth) (hblank : isBlank c = false)
    (hc : c ≠ ']') (h : Leaves (takeItems (depth - 1) [] (c :: cs)) items rest) :
    Leaves (takeValue depth ('[' :: c :: cs)) (.arr items) rest := by
  obtain ⟨left, h, rfl⟩ := h
  rw [takeValue, skipBlanks_cons (by decide)]
  simp only [Char.reduceEq, if_false, if_true, Nat.not_le.mpr hdepth, skipBlanks_cons hblank, h]
  exact ⟨_, rfl, rfl⟩

theorem takeValue_braces (hdepth : 1 < depth) :
    Leaves (takeValue depth ('\x7b' :: '\x7d' :: cs)) (.obj []) cs := by
  rw [takeValue, skipBlanks_cons (by decide)]
  simp only [Char.reduceEq, if_false, if_true, Nat.not_le.mpr hdepth,
    skipBlanks_cons (c := '\x7d') (by decide)]
  exact ⟨_, rfl, rfl⟩

theorem takeValue_brace {members : List (String × Json)} (hdepth : 1 < depth)
    (hblank : isBlank c = false) (hc : c ≠ '\x7d')
    (h : Leaves (takeMembers (depth - 1) [] (c :: cs)) members rest) :
    Leaves (takeValue depth ('\x7b' :: c :: cs)) (object members) rest := by
  obtain ⟨left, h, rfl⟩ := h
  rw [takeValue, skipBlanks_cons (by decide)]
  simp only [Char.reduceEq, if_false, if_true, Nat.not_le.mpr hdepth, skipBlanks_cons hblank, h]
  exact ⟨_, rfl, rfl⟩

/-- A fixed word. -/
theorem takeWord_append (word rest : List Char) (v : Json) :
    Leaves (takeWord word v (word ++ rest)) v rest := by
  induction word with
  | nil => exact ⟨_, rfl, rfl⟩
  | cons w word ih =>
    obtain ⟨left, h, hleft⟩ := ih
    simp only [List.cons_append, takeWord, if_true, h]
    exact ⟨_, rfl, hleft⟩

theorem takeValue_null :
    Leaves (takeValue depth ("null".toList ++ rest)) .null rest := by
  obtain ⟨left, h, hleft⟩ := takeWord_append ['u', 'l', 'l'] rest .null
  show Leaves (takeValue depth ('n' :: (['u', 'l', 'l'] ++ rest))) _ _
  rw [takeValue, skipBlanks_cons (by decide)]
  simp only [Char.reduceEq, if_false, if_true, h]
  exact ⟨_, rfl, hleft⟩

theorem takeValue_bool (b : Bool) :
    Leaves (takeValue depth ((if b then "true" else "false").toList ++ rest)) (.bool b) rest := by
  cases b with
  | true =>
    obtain ⟨left, h, hleft⟩ := takeWord_append ['r', 'u', 'e'] rest (.bool true)
    show Leaves (takeValue depth ('t' :: (['r', 'u', 'e'] ++ rest))) _ _
    rw [takeValue, skipBlanks_cons (by decide)]
    simp only [Char.reduceEq, if_false, if_true, h]
    exact ⟨_, rfl, hleft⟩
  | false =>
    obtain ⟨left, h, hleft⟩ := takeWord_append ['a', 'l', 's', 'e'] rest (.bool false)
    show Leaves (takeValue depth ('f' :: (['a', 'l', 's', 'e'] ++ rest))) _ _
    rw [takeValue, skipBlanks_cons (by decide)]
    simp only [Char.reduceEq, if_false, if_true, h]
    exact ⟨_, rfl, hleft⟩

end

/-! ### Items and members one after another -/

section

variable {depth : Nat} {s rest : List Char} {v : Json}

theorem takeItems_last {acc : List Json}
    (h : LeavesBlanks (takeValue depth s) v (']' :: rest)) :
    Leaves (takeItems depth acc s) (v :: acc).reverse rest := by
  obtain ⟨⟨left, hshorter⟩, h, hrest⟩ := h
  obtain ⟨next, hnext⟩ : ∃ next, skipBlanks left = ⟨']' :: rest, next⟩ :=
    ⟨hrest ▸ (skipBlanks left).2, Subtype.ext hrest⟩
  rw [takeItems]
  simp only [h, hnext, if_true]
  exact ⟨_, rfl, rfl⟩

theorem takeItems_comma {acc items : List Json} {after : List Char}
    (h : LeavesBlanks (takeValue depth s) v (',' :: after))
    (hafter : Leaves (takeItems depth (v :: acc) after) items rest) :
    Leaves (takeItems depth acc s) items rest := by
  obtain ⟨⟨left, hshorter⟩, h, hrest⟩ := h
  obtain ⟨last, hafter, rfl⟩ := hafter
  obtain ⟨next, hnext⟩ : ∃ next, skipBlanks left = ⟨',' :: after, next⟩ :=
    ⟨hrest ▸ (skipBlanks left).2, Subtype.ext hrest⟩
  rw [takeItems]
  simp only [h, hnext, Char.reduceEq, if_false, if_true, hafter]
  exact ⟨_, rfl, rfl⟩

theorem takeMembers_last {acc : List (String × Json)} {name : String} {after : List Char}
    (hname : Leaves (takeText [] s) name (':' :: after))
    (h : LeavesBlanks (takeValue depth after) v ('\x7d' :: rest)) :
    Leaves (takeMembers depth acc ('\x22' :: s)) ((name, v) :: acc).reverse rest := by
  obtain ⟨⟨colon, hcolon⟩, hname, heq⟩ := hname
  obtain rfl : colon = ':' :: after := heq
  obtain ⟨⟨left, hshorter⟩, h, hrest⟩ := h
  obtain ⟨next, hnext⟩ : ∃ next, skipBlanks left = ⟨'\x7d' :: rest, next⟩ :=
    ⟨hrest ▸ (skipBlanks left).2, Subtype.ext hrest⟩
  rw [takeMembers, skipBlanks_cons (by decide)]
  simp only [ne_eq, not_true_eq_false, if_false, hname, skipBlanks_cons (c := ':') (by decide), h,
    hnext, if_true]
  exact ⟨_, rfl, rfl⟩

theorem takeMembers_comma {acc members : List (String × Json)} {name : String}
    {after next : List Char} (hname : Leaves (takeText [] s) name (':' :: after))
    (h : LeavesBlanks (takeValue depth after) v (',' :: next))
    (hnext : Leaves (takeMembers depth ((name, v) :: acc) next) members rest) :
    Leaves (takeMembers depth acc ('\x22' :: s)) members rest := by
  obtain ⟨⟨colon, hcolon⟩, hname, heq⟩ := hname
  obtain rfl : colon = ':' :: after := heq
  obtain ⟨⟨left, hshorter⟩, h, hrest⟩ := h
  obtain ⟨last, hlast, rfl⟩ := hnext
  obtain ⟨hle, hskip⟩ : ∃ hle, skipBlanks left = ⟨',' :: next, hle⟩ :=
    ⟨hrest ▸ (skipBlanks left).2, Subtype.ext hrest⟩
  rw [takeMembers, skipBlanks_cons (by decide)]
  simp only [ne_eq, not_true_eq_false, if_false, hname, skipBlanks_cons (c := ':') (by decide), h,
    hskip, Char.reduceEq, if_true, hlast]
  exact ⟨_, rfl, rfl⟩

end

/-! ### Documents -/

mutual

/-- The document that a reader makes of the text: members are in name order, and the last of two
members with one name stays. -/
def canonical : Json → Json
  | .arr items => .arr (canonicalItems items)
  | .obj members => object (canonicalMembers members)
  | .null => .null
  | .bool b => .bool b
  | .int n => .int n
  | .float x => .float x
  | .str s => .str s

/-- Each item of an array. -/
def canonicalItems : List Json → List Json
  | [] => []
  | j :: rest => canonical j :: canonicalItems rest

/-- Each member of an object. -/
def canonicalMembers : List (String × Json) → List (String × Json)
  | [] => []
  | (name, j) :: rest => (name, canonical j) :: canonicalMembers rest

end

mutual

/-- A document whose text can be read: whole numbers fit 64 bits, floats have a text that is read
as the float, and containers are nested to less than a depth. -/
def Legible (depth : Nat) : Json → Prop
  | .int n => -(2 ^ 63) ≤ n ∧ n < 2 ^ 64
  | .float x => parse (floatText x) = .ok (.float x)
  | .arr items => 1 < depth ∧ LegibleItems (depth - 1) items
  | .obj members => 1 < depth ∧ LegibleMembers (depth - 1) members
  | .null | .bool _ | .str _ => True

/-- Every item can be read. -/
def LegibleItems (depth : Nat) : List Json → Prop
  | [] => True
  | j :: rest => Legible depth j ∧ LegibleItems depth rest

/-- Every member can be read. -/
def LegibleMembers (depth : Nat) : List (String × Json) → Prop
  | [] => True
  | (_, j) :: rest => Legible depth j ∧ LegibleMembers depth rest

end

@[simp] theorem legible_null {depth : Nat} : Json.null.Legible depth := by
  rw [Legible]
  trivial

@[simp] theorem legible_bool {depth : Nat} {b : Bool} : (bool b).Legible depth := by
  rw [Legible]
  trivial

@[simp] theorem legible_str {depth : Nat} {s : String} : (str s).Legible depth := by
  rw [Legible]
  trivial

theorem legible_arr_iff {depth : Nat} {items : List Json} :
    (arr items).Legible depth ↔ 1 < depth ∧ ∀ j ∈ items, j.Legible (depth - 1) := by
  have h : LegibleItems (depth - 1) items ↔ ∀ j ∈ items, j.Legible (depth - 1) := by
    induction items with
    | nil => simp [LegibleItems]
    | cons j items ih => rw [LegibleItems, ih, List.forall_mem_cons]
  rw [Legible, h]

theorem legible_obj_iff {depth : Nat} {members : List (String × Json)} :
    (obj members).Legible depth ↔ 1 < depth ∧ ∀ m ∈ members, m.2.Legible (depth - 1) := by
  have h : LegibleMembers (depth - 1) members ↔ ∀ m ∈ members, m.2.Legible (depth - 1) := by
    induction members with
    | nil => simp [LegibleMembers]
    | cons m members ih =>
      obtain ⟨name, j⟩ := m
      rw [LegibleMembers, ih, List.forall_mem_cons]
  rw [Legible, h]

/-- A value that leaves a mark leaves no blanks in front of it. -/
theorem Leaves.blanks {α : Type} {bounded : List Char → Prop} {v : α} {rest : List Char}
    {read : Except ParseError (α × { r : List Char // bounded r })} (h : Leaves read v rest)
    (hrest : Ends rest) : LeavesBlanks read v rest := by
  obtain ⟨left, h, rfl⟩ := h
  exact ⟨left, h, hrest.skipBlanks⟩

section

variable {depth : Nat} {rest : List Char}

/-- A whole number is read back. -/
theorem takeValue_int {n : Int} (hrest : Ends rest) (h : -(2 ^ 63) ≤ n ∧ n < 2 ^ 64) :
    Leaves (takeValue depth ((toString n).toList ++ rest)) (.int n) rest := by
  cases n with
  | ofNat n =>
    have hlt : (n : Int) < 2 ^ 64 := h.2
    obtain ⟨c, cs, hdigits, hc, -⟩ := exists_toDigits_eq_cons n
    have hread := readMagnitude_append hrest (readMagnitude_toDigits (toJson_toDigits
      (show n < UInt64.size by simp only [UInt64.size]; omega)))
    show Leaves (takeValue depth (n.repr.toList ++ rest)) _ _
    rw [Nat.toList_repr]
    rw [hdigits] at hread ⊢
    exact (takeValue_digit_iff hc).mpr hread
  | negSucc n =>
    have hread := readMagnitude_append hrest (readMagnitude_toDigits
      (toJson_negative_toDigits (Nat.succ_pos n) (by omega)))
    show Leaves (takeValue depth (("-" ++ (n + 1).repr).toList ++ rest)) _ _
    rw [String.toList_append, Nat.toList_repr]
    exact takeValue_minus_iff.mpr hread

/-- The text of a float begins with a sign or a digit, unless there is none. -/
theorem floatText_cases (x : Float) :
    floatText x = "null" ∨
      ∃ c cs, (floatText x).toList = c :: cs ∧ (c = '-' ∨ c.isDigit = true) := by
  unfold floatText
  cases htext : Binary64.scientificBeyond x with
  | none => exact Or.inl rfl
  | some s => exact Or.inr (Binary64.exists_scientificBeyond_eq_cons htext)

/-- A text is read if nothing but blanks is left. -/
theorem parse_eq_ok_iff {text : String} {v : Json} :
    parse text = .ok v ↔ LeavesBlanks (takeValue maxDepth text.toList) v [] := by
  unfold parse
  constructor
  · intro h
    split at h
    · cases h
    · next read hread =>
      split at h
      · next hempty =>
        obtain rfl := Except.ok.inj h
        exact ⟨_, hread, List.isEmpty_iff.mp hempty⟩
      · cases h
  · rintro ⟨left, hread, hblank⟩
    simp only [hread, hblank, List.isEmpty_nil, if_true]

/-- A value that is a number is read as it is, whatever ends it. -/
theorem takeValue_append_of_number {depth' : Nat} {c : Char} {cs left : List Char} {v : Json}
    (hrest : Ends rest) (hc : c = '-' ∨ c.isDigit = true)
    (h : Leaves (takeValue depth' (c :: cs)) v left) :
    Leaves (takeValue depth (c :: (cs ++ rest))) v (left ++ rest) := by
  rcases hc with rfl | hc
  · exact takeValue_minus_iff.mpr (readMagnitude_append hrest (takeValue_minus_iff.mp h))
  · exact (takeValue_digit_iff hc).mpr
      (readMagnitude_append hrest ((takeValue_digit_iff hc).mp h))

/-- The text of a float, followed by a mark. -/
theorem takeValue_floatText {x : Float} (hrest : Ends rest)
    (h : parse (floatText x) = .ok (.float x)) :
    LeavesBlanks (takeValue depth ((floatText x).toList ++ rest)) (.float x) rest := by
  have hread := parse_eq_ok_iff.mp h
  rcases floatText_cases x with hnull | ⟨c, cs, htext, hc⟩
  · -- the text of no float is read as no float
    obtain ⟨left, hword, -⟩ : Leaves (takeValue maxDepth "null".toList) .null [] := takeValue_null
    rw [hnull] at hread
    obtain ⟨left', hread, -⟩ := hread
    cases hword.symm.trans hread
  · rw [htext] at hread ⊢
    obtain ⟨left, hread, hblank⟩ := hread
    obtain ⟨left', hread', hleft⟩ :
        Leaves (takeValue depth (c :: (cs ++ rest))) (.float x) (left.1 ++ rest) :=
      takeValue_append_of_number hrest hc ⟨left, hread, rfl⟩
    refine ⟨left', hread', ?_⟩
    rw [hleft, skipBlanks_append hblank, hrest.skipBlanks]

theorem takeValue_quoted (s : String) :
    Leaves (takeValue depth ((quote s).toList ++ rest)) (.str s) rest := by
  rw [quote, String.toList_ofList, List.append_assoc, List.cons_append]
  have h := takeText_quoted [] s.toList rest
  rw [List.reverse_nil, List.nil_append, String.ofList_toList] at h
  exact takeValue_quote h

end

theorem toList_compact_arr (items : List Json) :
    (compact (.arr items)).toList
      = '[' :: ((",".intercalate (compactItems items)).toList ++ [']']) := by
  rw [compact, String.toList_append, String.toList_append]
  rfl

theorem toList_compact_obj (members : List (String × Json)) :
    (compact (.obj members)).toList
      = '\x7b' :: ((",".intercalate (compactMembers members)).toList ++ ['\x7d']) := by
  rw [compact, String.toList_append, String.toList_append]
  rfl

/-- The text of a document begins with a character that is no blank and closes no array. -/
theorem exists_compact_eq_cons (j : Json) :
    ∃ c cs, j.compact.toList = c :: cs ∧ isBlank c = false ∧ c ≠ ']' := by
  have hdigit {c : Char} (hc : c.isDigit = true) : isBlank c = false ∧ c ≠ ']' := by
    refine ⟨isBlank_of_isDigit hc, ?_⟩
    rintro rfl
    cases hc
  cases j with
  | null => exact ⟨'n', _, rfl, by decide⟩
  | bool b => cases b <;> exact ⟨_, _, rfl, by decide⟩
  | int n =>
    rw [compact]
    cases n with
    | ofNat n =>
      obtain ⟨c, cs, hdigits, hc, -⟩ := exists_toDigits_eq_cons n
      exact ⟨c, cs, hdigits ▸ Nat.toList_repr, hdigit hc⟩
    | negSucc n => exact ⟨'-', _, String.toList_append, by decide⟩
  | float x =>
    rw [compact]
    rcases floatText_cases x with hnull | ⟨c, cs, hs, rfl | hc⟩
    · exact ⟨'n', _, by rw [hnull]; rfl, by decide⟩
    · exact ⟨'-', cs, hs, by decide⟩
    · exact ⟨c, cs, hs, hdigit hc⟩
  | str s => exact ⟨'\x22', _, by rw [compact, quote, String.toList_ofList]; rfl, by decide⟩
  | arr items => exact ⟨'[', _, toList_compact_arr items, by decide⟩
  | obj members => exact ⟨'\x7b', _, toList_compact_obj members, by decide⟩

/-- A list of texts begins as the first of them. -/
theorem exists_intercalate_eq_cons {t : String} {c : Char} {cs : List Char}
    (h : t.toList = c :: cs) (ts : List String) (rest : List Char) :
    ∃ cs', (",".intercalate (t :: ts)).toList ++ rest = c :: cs' := by
  cases ts with
  | nil => exact ⟨cs ++ rest, by rw [String.intercalate_singleton, h, List.cons_append]⟩
  | cons t' ts =>
    rw [String.intercalate_cons_cons, String.toList_append, String.toList_append, h]
    exact ⟨_, rfl⟩

/-- A member begins with the quote of its name. -/
theorem toList_member (name : String) (text : String) :
    (quote name ++ ":" ++ text).toList
      = '\x22' :: (name.toList.flatMap escapeChar ++ '\x22' :: ':' :: text.toList) := by
  rw [String.toList_append, String.toList_append, quote, String.toList_ofList]
  simp

theorem takeText_name (name : String) (rest : List Char) :
    Leaves (takeText [] (name.toList.flatMap escapeChar ++ '\x22' :: rest)) name rest := by
  have h := takeText_quoted [] name.toList rest
  rwa [List.reverse_nil, List.nil_append, String.ofList_toList] at h

mutual

/-- A document is read back from its text, whatever follows it. -/
theorem takeValue_compact (j : Json) {depth : Nat} (rest : List Char) (h : j.Legible depth)
    (hrest : Ends rest) :
    LeavesBlanks (takeValue depth (j.compact.toList ++ rest)) j.canonical rest := by
  match j with
  | .null =>
    rw [compact, canonical]
    exact takeValue_null.blanks hrest
  | .bool b =>
    rw [compact, canonical]
    exact (takeValue_bool b).blanks hrest
  | .int n =>
    rw [Legible] at h
    rw [compact, canonical]
    exact (takeValue_int hrest h).blanks hrest
  | .float x =>
    rw [Legible] at h
    rw [compact, canonical]
    exact takeValue_floatText hrest h
  | .str s =>
    rw [compact, canonical]
    exact (takeValue_quoted s).blanks hrest
  | .arr [] =>
    rw [Legible] at h
    exact (takeValue_brackets h.1).blanks hrest
  | .arr (item :: items) =>
    rw [Legible] at h
    rw [toList_compact_arr, canonical, List.cons_append, List.append_assoc, List.singleton_append]
    -- the first item does not begin with the bracket of an array without items
    obtain ⟨c, cs, hs, hblank, hc⟩ := exists_compact_eq_cons item
    obtain ⟨cs', hcs⟩ := exists_intercalate_eq_cons hs (compactItems items) (']' :: rest)
    have hread := takeItems_compact (item :: items) [] rest (List.cons_ne_nil _ _) h.2
    rw [compactItems, hcs, List.reverse_nil, List.nil_append] at hread
    rw [compactItems, hcs]
    exact (takeValue_bracket h.1 hblank hc hread).blanks hrest
  | .obj [] =>
    rw [Legible] at h
    exact (takeValue_braces h.1).blanks hrest
  | .obj ((name, j) :: members) =>
    rw [Legible] at h
    rw [toList_compact_obj, canonical, List.cons_append, List.append_assoc, List.singleton_append]
    obtain ⟨cs', hcs⟩ := exists_intercalate_eq_cons (toList_member name j.compact)
      (compactMembers members) ('\x7d' :: rest)
    have hread := takeMembers_compact ((name, j) :: members) [] rest (List.cons_ne_nil _ _) h.2
    rw [compactMembers, hcs, List.reverse_nil, List.nil_append] at hread
    rw [compactMembers, hcs]
    exact (takeValue_brace h.1 (by decide) (by decide) hread).blanks hrest

/-- Items are read back, after those that were read. -/
theorem takeItems_compact (items : List Json) {depth : Nat} (acc : List Json) (rest : List Char)
    (hne : items ≠ []) (h : LegibleItems depth items) :
    Leaves (takeItems depth acc ((",".intercalate (compactItems items)).toList ++ ']' :: rest))
      (acc.reverse ++ canonicalItems items) rest := by
  match items with
  | [] => exact absurd rfl hne
  | [j] =>
    have hj := takeValue_compact j (']' :: rest) h.1 (by simp [Ends])
    rw [compactItems, compactItems, String.intercalate_singleton, canonicalItems, canonicalItems,
      ← List.reverse_cons]
    exact takeItems_last hj
  | j :: j' :: items =>
    have hread := takeItems_compact (j' :: items) (j.canonical :: acc) rest
      (List.cons_ne_nil _ _) h.2
    have hj := takeValue_compact j (',' :: ((",".intercalate
      (compactItems (j' :: items))).toList ++ ']' :: rest)) h.1 (by simp [Ends])
    rw [List.reverse_cons, List.append_assoc, List.singleton_append] at hread
    have htext : (",".intercalate (compactItems (j :: j' :: items))).toList ++ ']' :: rest
        = j.compact.toList
          ++ ',' :: ((",".intercalate (compactItems (j' :: items))).toList ++ ']' :: rest) := by
      simp [compactItems, String.intercalate_cons_cons]
    rw [htext, canonicalItems]
    exact takeItems_comma hj hread

/-- Members are read back, after those that were read. -/
theorem takeMembers_compact (members : List (String × Json)) {depth : Nat}
    (acc : List (String × Json)) (rest : List Char) (hne : members ≠ [])
    (h : LegibleMembers depth members) :
    Leaves (takeMembers depth acc
        ((",".intercalate (compactMembers members)).toList ++ '\x7d' :: rest))
      (acc.reverse ++ canonicalMembers members) rest := by
  match members with
  | [] => exact absurd rfl hne
  | [(name, j)] =>
    have hj := takeValue_compact j ('\x7d' :: rest) h.1 (by simp [Ends])
    rw [compactMembers, compactMembers, String.intercalate_singleton, toList_member,
      canonicalMembers, canonicalMembers, ← List.reverse_cons, List.cons_append,
      List.append_assoc]
    exact takeMembers_last (takeText_name name _) hj
  | (name, j) :: (name', j') :: members =>
    have hread := takeMembers_compact ((name', j') :: members) ((name, j.canonical) :: acc) rest
      (List.cons_ne_nil _ _) h.2
    have hj := takeValue_compact j (',' :: ((",".intercalate
      (compactMembers ((name', j') :: members))).toList ++ '\x7d' :: rest)) h.1 (by simp [Ends])
    rw [List.reverse_cons, List.append_assoc, List.singleton_append] at hread
    have htext : (",".intercalate (compactMembers ((name, j) :: (name', j') :: members))).toList
          ++ '\x7d' :: rest
        = '\x22' :: (name.toList.flatMap escapeChar ++ '\x22' :: ':' :: (j.compact.toList ++ ','
          :: ((",".intercalate (compactMembers ((name', j') :: members))).toList
            ++ '\x7d' :: rest))) := by
      rw [compactMembers, compactMembers, String.intercalate_cons_cons]
      simp [quote]
    rw [htext, canonicalMembers]
    exact takeMembers_comma (takeText_name name _) hj hread

end

/-- **A document is read back from its text**, with its members in name order. -/
theorem parse_compact {j : Json} (h : j.Legible maxDepth) : parse j.compact = .ok j.canonical := by
  have hread := takeValue_compact j [] h ends_nil
  rw [List.append_nil] at hread
  exact parse_eq_ok_iff.mpr hread

/-! ### What is read back -/

theorem canonicalItems_eq_map (items : List Json) : canonicalItems items = items.map canonical := by
  induction items with
  | nil => rfl
  | cons j items ih => rw [canonicalItems, ih, List.map_cons]

theorem canonicalMembers_eq_map (members : List (String × Json)) :
    canonicalMembers members = members.map fun m => (m.1, m.2.canonical) := by
  induction members with
  | nil => rfl
  | cons m members ih => rw [canonicalMembers, ih, List.map_cons]

theorem canonical_strings (l : List String) : (strings l).canonical = strings l := by
  rw [strings, canonical, canonicalItems_eq_map, List.map_map]
  exact congrArg Json.arr (List.map_congr_left fun s _ => by rw [Function.comp_apply, canonical])

theorem lookup_map_canonical (members : List (String × Json)) (name : String) :
    Entries.lookup name (members.map fun m => (m.1, m.2.canonical))
      = (Entries.lookup name members).map canonical := by
  induction members with
  | nil => rfl
  | cons m members ih =>
    simp only [List.map_cons, Entries.lookup]
    split
    · rfl
    · exact ih

/-- An object without a repeated name is read back, in name order, with what stands under each
name. -/
theorem exists_canonical_obj_eq (members : List (String × Json)) (names : List String)
    (hnames : members.map Prod.fst = names) (hnodup : names.Nodup) :
    ∃ ms, canonical (.obj members) = .obj ms ∧ Entries.Sorted ms ∧ (∀ m ∈ ms, m.1 ∈ names) ∧
      ∀ name, Entries.lookup name ms = (Entries.lookup name members).map canonical := by
  have hmap : (canonicalMembers members).map Prod.fst = names := by
    rw [canonicalMembers_eq_map, List.map_map, ← hnames]
    rfl
  refine ⟨_, by rw [canonical, object], Table.sorted _, fun m hm => ?_, fun name => ?_⟩
  · rw [← hmap]
    exact List.mem_map_of_mem (Table.mem_of_mem_ofList hm)
  · rw [← lookup_map_canonical, ← canonicalMembers_eq_map]
    exact Table.get?_ofList (hmap ▸ hnodup) name

/-- An object in name order stays as it is. -/
theorem canonical_obj_of_sorted {members : List (String × Json)} (h : Entries.Sorted members) :
    canonical (.obj members) = .obj (members.map fun m => (m.1, m.2.canonical)) := by
  rw [canonical, object, canonicalMembers_eq_map, Table.entries_ofList]
  exact List.pairwise_map.mpr h

end Dispatch.Json
