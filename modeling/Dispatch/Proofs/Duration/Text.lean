/-
Dispatch/Proofs/Duration/Text.lean

Durations read back from their texts.

The text of a duration is a row of items, a count and the name of a unit each, with a blank between
two of them (`Written`).  One item is read to the end of its letters, whatever follows, and adds its
amount to the total (`readItems_item`); so a row of items is read to the sum of its amounts.  What
the writer takes apart sums up to the duration again (`written_items`).
-/
import Dispatch.Duration.Text
import Dispatch.Proofs.Number.Decimal

namespace Dispatch.Duration

/-! ### Characters -/

theorem digitsValue_toDigits (n : Nat) : digitsValue (Nat.toDigits 10 n) = n :=
  foldl_toDigits n

/-- A letter of a unit is neither a digit nor a blank. -/
theorem not_digit_of_isUnitLetter {c : Char} (h : isUnitLetter c = true) :
    (c.isDigit || isBlank c) = false := by
  have hrange : (97 ≤ c.toNat ∧ c.toNat ≤ 122) ∨ (65 ≤ c.toNat ∧ c.toNat ≤ 90) ∨
      c.toNat = 181 := by
    simp only [isUnitLetter, Bool.or_eq_true, Bool.and_eq_true, decide_eq_true_eq] at h
    rcases h with (h | h) | rfl
    · exact Or.inl h
    · exact Or.inr (Or.inl h)
    · exact Or.inr (Or.inr rfl)
  have hdigit : c.isDigit = false := by
    refine Bool.eq_false_iff.mpr fun hdigit => ?_
    simp only [Char.isDigit, Bool.and_eq_true, decide_eq_true_eq] at hdigit
    have hfrom : 48 ≤ c.toNat := hdigit.1
    have hto : c.toNat ≤ 57 := hdigit.2
    omega
  have hblank : isBlank c = false := by
    simp only [isBlank, Bool.or_eq_false_iff, Bool.and_eq_false_iff, decide_eq_false_iff_not]
    omega
  rw [hdigit, hblank, Bool.or_false]

theorem map_placedFrom (cs : List Char) (offset : Nat) :
    (placedFrom offset cs).map Prod.snd = cs := by
  induction cs generalizing offset with
  | nil => rfl
  | cons c cs ih => simp [placedFrom, ih]

/-! ### Parts of an item -/

section

variable {p : Char → Bool} {front back : List Placed}

/-- What is taken from the front, if all of it is to be taken and nothing after it. -/
theorem takeWhile_placed (hfront : ∀ x ∈ front, p x.2 = true)
    (hback : back.head?.any (fun x => p x.2) = false) :
    (front ++ back).takeWhile (fun x => p x.2) = front ∧
      (front ++ back).dropWhile (fun x => p x.2) = back := by
  rw [List.takeWhile_append_of_pos hfront, List.dropWhile_append_of_pos hfront]
  cases back with
  | nil => exact ⟨List.append_nil _, rfl⟩
  | cons x back =>
    have hx : p x.2 = false := hback
    simp [hx]

end

variable {stop : Nat} {digits letters after : List Placed}

/-- A number is read up to the name of its unit. -/
theorem takeQuantity_of {count : Nat} (hdigits : digits.map Prod.snd = Nat.toDigits 10 count)
    (hcount : count < UInt64.size) (hne : letters ≠ [])
    (hletters : ∀ x ∈ letters, isUnitLetter x.2 = true) :
    takeQuantity stop (digits ++ (letters ++ after)) = .ok (count, none, letters ++ after) := by
  obtain ⟨⟨offset, c⟩, letters, rfl⟩ := List.exists_cons_of_ne_nil hne
  have hc : isUnitLetter c = true := hletters _ List.mem_cons_self
  have hall : ∀ d ∈ Nat.toDigits 10 count, d.isDigit = true := fun d hd =>
    Nat.isDigit_of_mem_toDigits (by decide) (by decide) hd
  have hfront : ∀ x ∈ digits, (x.2.isDigit || isBlank x.2) = true := fun x hx => by
    rw [hall x.2 (hdigits ▸ List.mem_map_of_mem hx), Bool.true_or]
  have hback : ((offset, c) :: letters ++ after).head?.any (fun x => x.2.isDigit || isBlank x.2)
      = false := not_digit_of_isUnitLetter hc
  obtain ⟨htake, hdrop⟩ := takeWhile_placed (p := fun c => c.isDigit || isBlank c) hfront hback
  have hnumber : takeNumber (digits ++ ((offset, c) :: letters ++ after))
      = (Nat.toDigits 10 count, (offset, c) :: letters ++ after) := by
    rw [takeNumber, htake, hdrop, hdigits, List.filter_eq_self.mpr hall]
  rw [List.cons_append] at hnumber ⊢
  simp only [takeQuantity, hnumber, digitsValue_toDigits, fits, hcount, if_true, hc]

/-- The name of a unit is read up to a blank or the end. -/
theorem takeUnit_of (hletters : ∀ x ∈ letters, isUnitLetter x.2 = true)
    (hafter : ∀ x ∈ after.head?, isBlank x.2 = true) :
    takeUnit (letters ++ after) = .ok (String.ofList (letters.map Prod.snd), after) := by
  have hback : after.head?.any (fun x => isUnitLetter x.2) = false := by
    cases after with
    | nil => rfl
    | cons x after =>
      refine Bool.eq_false_iff.mpr fun hx => ?_
      have hnot := not_digit_of_isUnitLetter hx
      rw [hafter x rfl, Bool.or_true] at hnot
      cases hnot
  obtain ⟨htake, hdrop⟩ := takeWhile_placed hletters hback
  unfold takeUnit
  rw [htake, hdrop]
  cases after with
  | nil => rfl
  | cons x after =>
    have hx : isBlank x.2 = true := hafter x rfl
    simp only [hx, Bool.or_true, if_true]

/-! ### Items -/

/-- Nanoseconds of a unit. -/
def TimeUnit.nanos (unit : TimeUnit) : Nat := unit.seconds * perSecond + unit.subsecond

/-- The text of a count and a unit; counts of units below a second stay below a second. -/
def IsItem (text : String) (amount : Nat) : Prop :=
  ∃ count name unit, text = toString count ++ name ∧ TimeUnit.ofName? name = some unit ∧
    name.toList.all isUnitLetter = true ∧ count * unit.subsecond < perSecond ∧
    amount = count * unit.nanos

/-- A row of items and the sum of their amounts. -/
inductive Written : List String → Nat → Prop
  | nil : Written [] 0
  | cons {text : String} {amount : Nat} {texts : List String} {sum : Nat} :
    IsItem text amount → Written texts sum → Written (text :: texts) (amount + sum)

theorem Written.append {ts us : List String} {m n : Nat} (h : Written ts m) (h' : Written us n) :
    Written (ts ++ us) (m + n) := by
  induction h with
  | nil =>
    rw [Nat.zero_add]
    exact h'
  | cons hitem _ ih =>
    rw [Nat.add_assoc]
    exact .cons hitem ih

/-- No unit is without a name. -/
theorem toList_ne_nil {name : String} {unit : TimeUnit} (h : TimeUnit.ofName? name = some unit) :
    name.toList ≠ [] := by
  intro hnil
  obtain rfl := String.toList_eq_nil_iff.mp hnil
  simp [TimeUnit.ofName?] at h

theorem fits_of_lt {n : Nat} (h : n < UInt64.size) : fits n = some n := if_pos h

theorem addParts?_of_lt {total : Duration} {secs nanos : Nat} (hsecs : secs < UInt64.size)
    (hnanos : nanos < UInt64.size) (hlow : total.subsec + nanos < UInt64.size) :
    addParts? total secs nanos
      = ofNanos? ((total.secs + secs) * perSecond + (total.subsec + nanos)) := by
  show ((fits secs).bind fun s => (fits nanos).bind fun n => (fits (total.subsec + n)).bind
    fun low => ofNanos? ((total.secs + s) * perSecond + low)) = _
  rw [fits_of_lt hsecs, Option.bind_some, fits_of_lt hnanos, Option.bind_some, fits_of_lt hlow,
    Option.bind_some]

/-- An item adds its amount. -/
theorem addItem_of {total d : Duration} {count : Nat} {name : String} {unit : TimeUnit}
    (hname : TimeUnit.ofName? name = some unit) (hsub : count * unit.subsecond < perSecond)
    (hd : d.nanos = total.nanos + count * unit.nanos) :
    addItem total count none name = .ok d := by
  have hne : name ≠ "" := fun h => toList_ne_nil hname (String.toList_eq_nil_iff.mpr h)
  have hsize : UInt64.size = 18446744073709551616 := rfl
  have hper : perSecond = 1000000000 := rfl
  have hbound := d.bounded
  have hlow : total.subsec < perSecond := Nat.mod_lt _ (by decide)
  have htotal := total.secs_mul_add_subsec
  rw [TimeUnit.nanos, Nat.mul_add, ← Nat.mul_assoc] at hd
  have hsum : addParts? total (count * unit.seconds) (count * unit.subsecond) = some d := by
    rw [hper] at hsub hlow htotal hd
    rw [addParts?_of_lt (by omega) (by omega) (by omega), hper]
    exact ofNanos?_eq_some.mpr (by omega)
  simp only [addItem, hne, if_false, hname, hsum]

/-! ### Rows of items -/

/-- A count of an item fits 64 bits. -/
theorem count_lt {count : Nat} {unit : TimeUnit} {d : Duration}
    (hsub : count * unit.subsecond < perSecond) (hd : count * unit.nanos ≤ d.nanos) :
    count < UInt64.size := by
  have hbound := d.bounded
  have hsize : UInt64.size = 18446744073709551616 := rfl
  have hper : perSecond = 1000000000 := rfl
  rw [hper] at hsub
  rw [TimeUnit.nanos, hper] at hd
  cases unit <;> simp only [TimeUnit.seconds, TimeUnit.subsecond] at hsub hd <;> omega

/-- One item is read, whatever follows. -/
theorem readItems_item {l : List Placed} {stop items : Nat} {total d : Duration} {isFirst : Bool}
    {text : String} {amount : Nat} {rest : List Char} (hitem : IsItem text amount)
    (hl : (l.dropWhile fun p => isBlank p.2).map Prod.snd = text.toList ++ rest)
    (hrest : ∀ c ∈ rest.head?, isBlank c = true) (hd : d.nanos = total.nanos + amount) :
    ∃ after : List Placed, after.map Prod.snd = rest ∧ after.length < l.length ∧
      readItems stop (items + 1) l total isFirst = readItems stop items after d false := by
  obtain ⟨count, name, unit, rfl, hname, hletters, hsub, rfl⟩ := hitem
  have hne : name.toList ≠ [] := toList_ne_nil hname
  -- the characters of the item and what follows it
  rw [String.toList_append, List.append_assoc, List.map_eq_append_iff] at hl
  obtain ⟨digits, others, hdrop, hdigits, hothers⟩ := hl
  obtain ⟨letters, after, rfl, hname', hafter⟩ := List.map_eq_append_iff.mp hothers
  have hdigits : digits.map Prod.snd = Nat.toDigits 10 count := hdigits.trans Nat.toList_repr
  have hletters : ∀ x ∈ letters, isUnitLetter x.2 = true := fun x hx =>
    List.all_eq_true.mp hletters x.2 (hname' ▸ List.mem_map_of_mem hx)
  have hsome : letters ≠ [] := fun h => hne (by rw [← hname', h]; rfl)
  have hblank : ∀ x ∈ after.head?, isBlank x.2 = true := fun x hx =>
    hrest x.2 (by rw [← hafter, List.head?_map, hx]; rfl)
  have hcount : count < UInt64.size := count_lt hsub (d := d) (by omega)
  -- the first digit
  obtain ⟨c, cs, hc, hdigit, -⟩ := exists_toDigits_eq_cons count
  obtain ⟨⟨offset, c'⟩, digits', rfl, hc', -⟩ := List.map_eq_cons_iff.mp (hdigits.trans hc)
  obtain rfl : c' = c := hc'
  refine ⟨after, hafter, ?_, ?_⟩
  · have hle := (List.dropWhile_suffix (l := l) fun p => isBlank p.2).length_le
    rw [hdrop] at hle
    simp only [List.length_append, List.length_cons] at hle
    omega
  · rw [readItems, hdrop]
    simp only [List.cons_append, hdigit, Bool.not_true, Bool.false_eq_true, if_false]
    rw [← List.cons_append, takeQuantity_of hdigits hcount hsome hletters]
    simp only [bind, Except.bind]
    rw [takeUnit_of hletters hblank, hname', String.ofList_toList]
    simp only [addItem_of hname hsub hd]

/-- A row begins with a digit, and does not end there. -/
theorem exists_row_eq_cons {text : String} {texts : List String} {sum : Nat}
    (h : Written (text :: texts) sum) :
    ∃ c cs, (" ".intercalate (text :: texts)).toList = c :: cs ∧ c.isDigit = true ∧ cs ≠ [] := by
  cases h with
  | cons hitem _ =>
    obtain ⟨count, name, unit, rfl, hname, -⟩ := hitem
    obtain ⟨c, cs, hdigits, hc, -⟩ := exists_toDigits_eq_cons count
    have htext : (toString count ++ name).toList = c :: (cs ++ name.toList) := by
      rw [String.toList_append, ← List.cons_append, ← hdigits]
      exact congrArg (· ++ name.toList) Nat.toList_repr
    have hne : cs ++ name.toList ≠ [] := List.append_ne_nil_of_right_ne_nil _ (toList_ne_nil hname)
    cases texts with
    | nil => exact ⟨c, _, by rw [String.intercalate_singleton, htext], hc, hne⟩
    | cons text' texts =>
      rw [String.intercalate_cons_cons, String.toList_append, String.toList_append, htext]
      exact ⟨c, _, rfl, hc, by simp⟩

/-- **A row of items is read to the sum of their amounts.** -/
theorem readItems_written {texts : List String} {sum : Nat} (h : Written texts sum)
    {l : List Placed} {stop items : Nat} {total d : Duration} {isFirst : Bool}
    (hl : (l.dropWhile fun p => isBlank p.2).map Prod.snd = (" ".intercalate texts).toList)
    (hitems : l.length < items) (hfirst : texts = [] → isFirst = false)
    (hd : d.nanos = total.nanos + sum) :
    readItems stop items l total isFirst = .ok d := by
  induction h generalizing l items total isFirst with
  | nil =>
    obtain ⟨items, rfl⟩ : ∃ k, items = k + 1 := Nat.exists_eq_add_one.mpr (by omega)
    have hnil : l.dropWhile (fun p => isBlank p.2) = [] := by
      simpa using hl
    have htotal : total = d := ext_nanos (by omega)
    simp only [readItems, hnil, hfirst rfl, Bool.false_eq_true, if_false, htotal]
  | @cons text amount texts sum hitem hrest ih =>
    obtain ⟨items, rfl⟩ : ∃ k, items = k + 1 := Nat.exists_eq_add_one.mpr (by omega)
    obtain ⟨sofar, hsofar⟩ : ∃ sofar : Duration, sofar.nanos = total.nanos + amount := by
      have := d.bounded
      exact ⟨⟨total.nanos + amount, by omega⟩, rfl⟩
    -- behind the item stand a blank and the rest of the row, or nothing
    obtain ⟨rest, htext, hblank, hnext⟩ : ∃ rest,
        (" ".intercalate (text :: texts)).toList = text.toList ++ rest ∧
        (∀ c ∈ rest.head?, isBlank c = true) ∧
        rest.dropWhile isBlank = (" ".intercalate texts).toList := by
      cases hrest with
      | nil => exact ⟨[], by simp, nofun, by simp⟩
      | @cons text' amount' texts sum' hitem' hrest' =>
        refine ⟨' ' :: (" ".intercalate (text' :: texts)).toList, ?_, ?_, ?_⟩
        · rw [String.intercalate_cons_cons, String.toList_append, String.toList_append,
            List.append_assoc]
          rfl
        · rintro c ⟨⟩
          decide
        · obtain ⟨c, cs, hrow, hdigit, -⟩ := exists_row_eq_cons (.cons hitem' hrest')
          have hc : isBlank c = false := isBlank_of_isDigit hdigit
          have hspace : isBlank ' ' = true := by decide
          rw [hrow, List.dropWhile_cons_of_pos hspace]
          simp [hc]
    rw [htext] at hl
    obtain ⟨after, hafter, hshorter, hread⟩ := readItems_item hitem hl hblank hsofar
    rw [hread]
    refine ih ?_ (by omega) (fun _ => rfl) (by omega)
    rw [← hnext, ← hafter, List.dropWhile_map]
    rfl

/-! ### What is written -/

section

variable {count : Nat} {name : String} (unit : TimeUnit)

theorem Written.singleton {text : String} {amount : Nat} (h : IsItem text amount) :
    Written [text] amount := by
  have hrow := Written.cons h .nil
  rwa [Nat.add_zero] at hrow

/-- A count that is zero is left out. -/
theorem written_item {nanos : Nat} (hname : TimeUnit.ofName? name = some unit)
    (hletters : name.toList.all isUnitLetter = true) (hunit : unit.nanos = nanos)
    (hsub : count * unit.subsecond < perSecond) : Written (item count name) (count * nanos) := by
  subst hunit
  unfold item
  split
  · next hzero =>
    rw [hzero, Nat.zero_mul]
    exact .nil
  · exact .singleton ⟨count, name, unit, rfl, hname, hletters, hsub, rfl⟩

/-- A unit with a plural is read by both names. -/
theorem written_pluralItem {nanos : Nat} (hname : TimeUnit.ofName? name = some unit)
    (hplural : TimeUnit.ofName? (name ++ "s") = some unit)
    (hletters : name.toList.all isUnitLetter = true) (hunit : unit.nanos = nanos)
    (hsub : count * unit.subsecond < perSecond) :
    Written (pluralItem count name) (count * nanos) := by
  unfold pluralItem
  split
  · have hs : ['s'].all isUnitLetter = true := by decide
    refine written_item unit hplural ?_ hunit hsub
    rw [String.toList_append, List.all_append, hletters]
    exact hs
  · exact written_item unit hname hletters hunit hsub

end

theorem secs_of_parts (secs : Nat) :
    secs / 31557600 * 31557600 + secs % 31557600 / 2630016 * 2630016
      + secs % 31557600 % 2630016 / 86400 * 86400
      + secs % 31557600 % 2630016 % 86400 / 3600 * 3600
      + secs % 31557600 % 2630016 % 86400 % 3600 / 60 * 60
      + secs % 31557600 % 2630016 % 86400 % 60 = secs := by omega

theorem subsec_of_parts (subsec : Nat) :
    subsec / 1000000 * 1000000 + subsec / 1000 % 1000 * 1000 + subsec % 1000 = subsec := by omega

/-- Seconds and the rest of them, taken apart and put together again, each in its own unit. -/
theorem put_together (secs subsec unit : Nat) :
    secs / 31557600 * (31557600 * unit) + secs % 31557600 / 2630016 * (2630016 * unit)
      + secs % 31557600 % 2630016 / 86400 * (86400 * unit)
      + secs % 31557600 % 2630016 % 86400 / 3600 * (3600 * unit)
      + secs % 31557600 % 2630016 % 86400 % 3600 / 60 * (60 * unit)
      + secs % 31557600 % 2630016 % 86400 % 60 * unit
      + subsec / 1000000 * 1000000 + subsec / 1000 % 1000 * 1000 + subsec % 1000 * 1
      = secs * unit + subsec := by
  have hsecs := congrArg (· * unit) (secs_of_parts secs)
  simp only [Nat.add_mul, Nat.mul_assoc] at hsecs
  rw [hsecs, Nat.mul_one, Nat.add_assoc, Nat.add_assoc,
    ← Nat.add_assoc (subsec / 1000000 * 1000000), subsec_of_parts]

/-- **The items of a duration sum up to it.** -/
theorem written_items (d : Duration) : Written d.items d.nanos := by
  have hpos : 0 < perSecond := by decide
  have hsubsec : d.subsec < perSecond := Nat.mod_lt _ hpos
  have hparts := subsec_of_parts d.subsec
  rw [← d.secs_mul_add_subsec, ← put_together]
  refine ((((((((?years : Written _ _).append ?months).append ?days).append ?hours).append
    ?minutes).append ?seconds).append ?millis).append ?micros).append ?nanos
  case years =>
    exact written_pluralItem .year (by decide) (by decide) (by decide) rfl hpos
  case months =>
    exact written_pluralItem .month (by decide) (by decide) (by decide) rfl hpos
  case days =>
    exact written_pluralItem .day (by decide) (by decide) (by decide) rfl hpos
  case hours => exact written_item .hour (by decide) (by decide) rfl hpos
  case minutes => exact written_item .minute (by decide) (by decide) rfl hpos
  case seconds => exact written_item .second (by decide) (by decide) rfl hpos
  case millis =>
    refine written_item .millisecond (by decide) (by decide) rfl ?_
    exact Nat.lt_of_le_of_lt (Nat.div_mul_le_self _ _) hsubsec
  case micros =>
    refine written_item .microsecond (by decide) (by decide) rfl ?_
    simp only [TimeUnit.subsecond]
    omega
  case nanos =>
    refine written_item .nanosecond (by decide) (by decide) rfl ?_
    simp only [TimeUnit.subsecond]
    omega

/-- The text of a duration is a row of items, and not an empty one. -/
theorem exists_format_eq (d : Duration) :
    ∃ text texts, d.format = " ".intercalate (text :: texts) ∧
      Written (text :: texts) d.nanos := by
  unfold format isZero
  by_cases hzero : d.nanos = 0
  · refine ⟨"0s", [], by simp [hzero], ?_⟩
    rw [hzero]
    exact .singleton ⟨0, "s", .second, rfl, by decide, by decide, by decide, rfl⟩
  · have hwritten := written_items d
    simp only [hzero, decide_false, Bool.false_eq_true, if_false]
    cases hitems : d.items with
    | nil =>
      rw [hitems] at hwritten
      generalize d.nanos = nanos at hwritten hzero
      cases hwritten
      exact absurd rfl hzero
    | cons text texts => exact ⟨text, texts, rfl, hitems ▸ hwritten⟩

/-- The text of a duration begins with a digit. -/
theorem exists_format_eq_cons (d : Duration) :
    ∃ c cs, d.format.toList = c :: cs ∧ c.isDigit = true ∧ cs ≠ [] := by
  obtain ⟨text, texts, hformat, hwritten⟩ := exists_format_eq d
  rw [hformat]
  exact exists_row_eq_cons hwritten

/-- **A duration is read back from its text.** -/
theorem parse_format (d : Duration) : parse d.format = .ok d := by
  obtain ⟨text, texts, hformat, hwritten⟩ := exists_format_eq d
  obtain ⟨c, cs, hcs, hdigit, hne⟩ := exists_format_eq_cons d
  have hnot : d.format ≠ "0" := fun h => by
    rw [h] at hcs
    cases hcs
    exact hne rfl
  have hfirst : isBlank c = false := isBlank_of_isDigit hdigit
  rw [parse, if_neg hnot]
  refine readItems_written hwritten ?_ (Nat.lt_succ_self _) nofun (Nat.zero_add _).symm
  rw [← hformat, hcs, placedFrom]
  simp [hfirst, map_placedFrom]

end Dispatch.Duration
