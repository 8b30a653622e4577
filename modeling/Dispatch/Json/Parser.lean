/-
Dispatch/Json/Parser.lean

Reading JSON.

A reader takes the characters that are left and returns a value together with what is left
after it, and with a proof that this is shorter; every loop ends for that reason.  Nesting is
bounded (`maxDepth`), so that a document of brackets is refused and not followed down.

A whole number that fits 64 bits stays whole; every other number is a float, computed from the
leading digits that fit 64 bits and a power of ten (`NumberText.toFloat?`).
-/
import Dispatch.Json.Basic
import Dispatch.Number.Digits

namespace Dispatch.Json

/-- Why a text is not JSON. -/
inductive ParseError where
  | unexpectedEnd
  | unexpectedChar (c : Char)
  | invalidNumber
  | numberOutOfRange
  | invalidEscape
  | loneSurrogate
  | controlCharacter
  | tooDeep
  | trailingCharacters
  deriving DecidableEq, Repr

/-- What is left after something was read. -/
abbrev Shorter (s : List Char) := { r : List Char // r.length < s.length }

/-- What is left where nothing need be read. -/
abbrev NotLonger (s : List Char) := { r : List Char // r.length ≤ s.length }

/-- Containers may be nested to one less than this. -/
def maxDepth : Nat := 128

/-! ### Blanks -/

/-- The four blanks of JSON. -/
def isBlank (c : Char) : Bool := c = ' ' || c = '\t' || c = '\n' || c = '\r'

/-- Passes over blanks. -/
def skipBlanks : (s : List Char) → NotLonger s
  | [] => ⟨[], Nat.le_refl _⟩
  | c :: cs =>
    if isBlank c then
      let r := skipBlanks cs
      ⟨r.1, Nat.le_succ_of_le r.2⟩
    else ⟨c :: cs, Nat.le_refl _⟩

/-! ### Numbers -/

/-- The value of a decimal digit. -/
def digitValue (c : Char) : Nat := c.toNat - '0'.toNat

/-- The parts of a number as they stand in the text. -/
structure NumberText where
  negative : Bool
  whole : List Char
  /-- Digits after the point, if there is one. -/
  fraction : Option (List Char)
  /-- Sign and digits of the exponent, if there is one. -/
  exponent : Option (Bool × List Char)

/-- The largest number of 64 bits. -/
def maxSignificand : Nat := UInt64.size - 1

/-- Takes digits into a significand as long as it fits 64 bits; what is left follows. -/
def absorb (significand : Nat) : List Char → Nat × List Char
  | [] => (significand, [])
  | d :: ds =>
    let next := significand * 10 + digitValue d
    if maxSignificand < next then (significand, d :: ds) else absorb next ds

/-- The value of a run of digits. -/
def digitsValue (ds : List Char) : Nat := ds.foldl (fun n d => n * 10 + digitValue d) 0

/-- A power of ten that a float can hold. -/
def powerOfTen (n : Nat) : Float := Float.ofScientific 1 false n

/-- Divides by `10 ^ n`, at most 308 powers at a time. -/
def divideByPower (x : Float) (n : Nat) : Float :=
  if n ≤ 308 then x / powerOfTen n
  else if x == 0.0 then x
  else divideByPower (x / powerOfTen 308) (n - 308)
termination_by n

/-- `significand * 10 ^ exponent` as a float, by one multiplication or division. -/
def scale? (significand : Nat) (exponent : Int) : Option Float :=
  let x := significand.toUInt64.toFloat
  if 0 ≤ exponent then
    if 308 < exponent then if x == 0.0 then some x else none
    else
      let y := x * powerOfTen exponent.toNat
      if y.isInf then none else some y
  else some (divideByPower x (-exponent).toNat)

/-- Exponents are counted up to this bound. -/
def maxExponent : Nat := (1 <<< 31) - 1

/-- The magnitude of a number as a float. -/
def NumberText.magnitude? (t : NumberText) : Option Float :=
  let wholePart := absorb 0 t.whole
  let fraction := t.fraction.getD []
  let allDigits := absorb wholePart.1 fraction
  let shift : Int := wholePart.2.length - ((fraction.length - allDigits.2.length : Nat) : Int)
  match t.exponent with
  | none => scale? allDigits.1 shift
  | some (negative, digits) =>
    let e := digitsValue digits
    if maxExponent < e then
      if allDigits.1 ≠ 0 ∧ ¬ negative then none else some 0.0
    else scale? allDigits.1 (shift + if negative then -(e : Int) else e)

/-- The value of a number text. -/
def NumberText.toJson (t : NumberText) : Except ParseError Json :=
  let n := digitsValue t.whole
  let isWhole := t.fraction.isNone && t.exponent.isNone
  if isWhole && !t.negative && n < UInt64.size then .ok (.int n)
  else if isWhole && t.negative && 0 < n && n ≤ 1 <<< 63 then .ok (.int (-n))
  else match t.magnitude? with
    | none => .error .numberOutOfRange
    | some x => .ok (.float (if t.negative then -x else x))

/-- A run of digits. -/
def takeDigits : (s : List Char) → List Char × NotLonger s
  | [] => ([], ⟨[], Nat.le_refl _⟩)
  | c :: cs =>
    if c.isDigit then
      let r := takeDigits cs
      (c :: r.1, ⟨r.2.1, Nat.le_succ_of_le r.2.2⟩)
    else ([], ⟨c :: cs, Nat.le_refl _⟩)

/-- The point and the digits after it, if there is a point. -/
def takeFraction (s : List Char) : Except ParseError (Option (List Char) × NotLonger s) :=
  match s with
  | '.' :: cs =>
    let r := takeDigits cs
    if r.1.isEmpty then .error (if r.2.1.isEmpty then .unexpectedEnd else .invalidNumber)
    else .ok (some r.1, ⟨r.2.1, Nat.le_succ_of_le r.2.2⟩)
  | s => .ok (none, ⟨s, Nat.le_refl _⟩)

/-- The sign of an exponent. -/
def takeSign (s : List Char) : Bool × NotLonger s :=
  match s with
  | '+' :: cs => (false, ⟨cs, Nat.le_succ _⟩)
  | '-' :: cs => (true, ⟨cs, Nat.le_succ _⟩)
  | s => (false, ⟨s, Nat.le_refl _⟩)

/-- The exponent, if there is one. -/
def takeExponent (s : List Char) : Except ParseError (Option (Bool × List Char) × NotLonger s) :=
  match s with
  | [] => .ok (none, ⟨[], Nat.le_refl _⟩)
  | c :: cs =>
    if c = 'e' || c = 'E' then
      let sign := takeSign cs
      let r := takeDigits sign.2.1
      if r.1.isEmpty then .error (if r.2.1.isEmpty then .unexpectedEnd else .invalidNumber)
      else .ok (some (sign.1, r.1), ⟨r.2.1,
        Nat.le_succ_of_le (Nat.le_trans r.2.2 sign.2.2)⟩)
    else .ok (none, ⟨c :: cs, Nat.le_refl _⟩)

/-- The whole part: a zero, or digits that do not start with one. -/
def takeWhole (s : List Char) : Except ParseError (List Char × Shorter s) :=
  match s with
  | [] => .error .unexpectedEnd
  | c :: cs =>
    let r := takeDigits cs
    if c = '0' then
      if r.1.isEmpty then .ok (['0'], ⟨cs, Nat.lt_succ_self _⟩) else .error .invalidNumber
    else if c.isDigit then .ok (c :: r.1, ⟨r.2.1, Nat.lt_succ_of_le r.2.2⟩)
    else .error .invalidNumber

/-- A number without its sign. -/
def readMagnitude (negative : Bool) (s : List Char) : Except ParseError (Json × Shorter s) := do
  let (whole, r₁) ← takeWhole s
  let (fraction, r₂) ← takeFraction r₁.1
  let (exponent, r₃) ← takeExponent r₂.1
  let value ← (NumberText.mk negative whole fraction exponent).toJson
  pure (value, ⟨r₃.1, Nat.lt_of_le_of_lt (Nat.le_trans r₃.2 r₂.2) r₁.2⟩)

/-! ### Texts -/

/-- Four hexadecimal digits. -/
def hex4? (a b c d : Char) : Option Nat := Digits.number? 16 [a, b, c, d]

/-- The character of an escape with one letter. -/
def simpleEscape? (c : Char) : Option Char :=
  if c = '\x22' then some '\x22'
  else if c = '\\' then some '\\'
  else if c = '/' then some '/'
  else if c = 'b' then some '\x08'
  else if c = 'f' then some '\x0c'
  else if c = 'n' then some '\n'
  else if c = 'r' then some '\r'
  else if c = 't' then some '\t'
  else none

/-- What follows a backslash: one character, from one escape or from two halves of a pair. -/
def takeEscape (s : List Char) : Except ParseError (Char × Shorter s) :=
  match s with
  | [] => .error .unexpectedEnd
  | 'u' :: a :: b :: c :: d :: rest =>
    match hex4? a b c d with
    | none => .error .invalidEscape
    | some high =>
      if 0xDC00 ≤ high ∧ high < 0xE000 then .error .loneSurrogate
      else if 0xD800 ≤ high ∧ high < 0xDC00 then
        match rest with
        | '\\' :: 'u' :: a' :: b' :: c' :: d' :: rest' =>
          match hex4? a' b' c' d' with
          | none => .error .invalidEscape
          | some low =>
            if 0xDC00 ≤ low ∧ low < 0xE000 then
              .ok (Char.ofNat (0x10000 + (high - 0xD800) * 0x400 + (low - 0xDC00)),
                ⟨rest', by simp; omega⟩)
            else .error .loneSurrogate
        | _ => .error .loneSurrogate
      else .ok (Char.ofNat high, ⟨rest, by simp; omega⟩)
  | c :: rest =>
    match simpleEscape? c with
    | some e => .ok (e, ⟨rest, Nat.lt_succ_self _⟩)
    | none => .error .invalidEscape

/-- The characters up to the closing quote, after `acc` in reverse. -/
def takeText (acc : List Char) (s : List Char) : Except ParseError (String × Shorter s) :=
  match s with
  | [] => .error .unexpectedEnd
  | c :: cs =>
    if c = '\x22' then .ok (String.ofList acc.reverse, ⟨cs, Nat.lt_succ_self _⟩)
    else if c = '\\' then
      match takeEscape cs with
      | .error e => .error e
      | .ok (e, rest) =>
        match takeText (e :: acc) rest.1 with
        | .error e => .error e
        | .ok (text, r) => .ok (text, ⟨r.1, Nat.lt_trans r.2 (Nat.lt_succ_of_lt rest.2)⟩)
    else if c.toNat < 32 then .error .controlCharacter
    else match takeText (c :: acc) cs with
      | .error e => .error e
      | .ok (text, r) => .ok (text, ⟨r.1, Nat.lt_succ_of_lt r.2⟩)
termination_by s.length
decreasing_by
  · exact Nat.lt_succ_of_lt rest.2
  · exact Nat.lt_succ_self _

/-! ### Documents -/

/-- The rest of a fixed word. -/
def takeWord (word : List Char) (value : Json) (s : List Char) :
    Except ParseError (Json × NotLonger s) :=
  match word, s with
  | [], s => .ok (value, ⟨s, Nat.le_refl _⟩)
  | w :: ws, c :: cs =>
    if w = c then do
      let (v, r) ← takeWord ws value cs
      pure (v, ⟨r.1, Nat.le_succ_of_le r.2⟩)
    else .error (.unexpectedChar c)
  | _ :: _, [] => .error .unexpectedEnd

mutual

/-- One document; `depth` containers may still be opened. -/
def takeValue (depth : Nat) (s : List Char) : Except ParseError (Json × Shorter s) :=
  match skipBlanks s with
  | ⟨[], _⟩ => .error .unexpectedEnd
  | ⟨c :: cs, hs⟩ =>
    if c = '\x22' then
      match takeText [] cs with
      | .error e => .error e
      | .ok (text, r) => .ok (.str text, ⟨r.1, Nat.lt_trans r.2 hs⟩)
    else if c = '[' then
      if depth ≤ 1 then .error .tooDeep
      else match skipBlanks cs with
        | ⟨[], _⟩ => .error .unexpectedEnd
        | ⟨']' :: rest, hr⟩ => .ok (.arr [], ⟨rest, by
            have : cs.length + 1 ≤ s.length := hs
            have : rest.length + 1 ≤ cs.length := hr
            omega⟩)
        | ⟨d :: rest, hr⟩ =>
          match takeItems (depth - 1) [] (d :: rest) with
          | .error e => .error e
          | .ok (items, r) => .ok (.arr items, ⟨r.1, by
              have : cs.length + 1 ≤ s.length := hs
              have := r.2
              omega⟩)
    else if c = '\x7b' then
      if depth ≤ 1 then .error .tooDeep
      else match skipBlanks cs with
        | ⟨[], _⟩ => .error .unexpectedEnd
        | ⟨'\x7d' :: rest, hr⟩ => .ok (.obj [], ⟨rest, by
            have : cs.length + 1 ≤ s.length := hs
            have : rest.length + 1 ≤ cs.length := hr
            omega⟩)
        | ⟨d :: rest, hr⟩ =>
          match takeMembers (depth - 1) [] (d :: rest) with
          | .error e => .error e
          | .ok (members, r) => .ok (object members, ⟨r.1, by
              have : cs.length + 1 ≤ s.length := hs
              have := r.2
              omega⟩)
    else if c = '-' then
      match readMagnitude true cs with
      | .error e => .error e
      | .ok (v, r) => .ok (v, ⟨r.1, Nat.lt_trans r.2 hs⟩)
    else if c.isDigit then
      match readMagnitude false (c :: cs) with
      | .error e => .error e
      | .ok (v, r) => .ok (v, ⟨r.1, Nat.lt_of_lt_of_le r.2 hs⟩)
    else if c = 'n' then
      match takeWord ['u', 'l', 'l'] .null cs with
      | .error e => .error e
      | .ok (v, r) => .ok (v, ⟨r.1, Nat.lt_of_le_of_lt r.2 hs⟩)
    else if c = 't' then
      match takeWord ['r', 'u', 'e'] (.bool true) cs with
      | .error e => .error e
      | .ok (v, r) => .ok (v, ⟨r.1, Nat.lt_of_le_of_lt r.2 hs⟩)
    else if c = 'f' then
      match takeWord ['a', 'l', 's', 'e'] (.bool false) cs with
      | .error e => .error e
      | .ok (v, r) => .ok (v, ⟨r.1, Nat.lt_of_le_of_lt r.2 hs⟩)
    else .error (.unexpectedChar c)
termination_by (s.length, 1)
decreasing_by
  · have : cs.length + 1 ≤ s.length := hs
    exact Prod.Lex.left _ _ (by omega)
  · have : cs.length + 1 ≤ s.length := hs
    exact Prod.Lex.left _ _ (by omega)

/-- Items up to the closing bracket, after `acc` in reverse. -/
def takeItems (depth : Nat) (acc : List Json) (s : List Char) :
    Except ParseError (List Json × Shorter s) :=
  match takeValue depth s with
  | .error e => .error e
  | .ok (v, r) =>
    match skipBlanks r.1 with
    | ⟨[], _⟩ => .error .unexpectedEnd
    | ⟨c :: rest, hr⟩ =>
      if c = ']' then .ok ((v :: acc).reverse, ⟨rest, by
        have : rest.length + 1 ≤ r.1.length := hr
        have := r.2
        omega⟩)
      else if c = ',' then
        match takeItems depth (v :: acc) rest with
        | .error e => .error e
        | .ok (items, q) => .ok (items, ⟨q.1, by
            have : rest.length + 1 ≤ r.1.length := hr
            have := r.2
            have := q.2
            omega⟩)
      else .error (.unexpectedChar c)
termination_by (s.length, 2)
decreasing_by
  · exact Prod.Lex.right _ (by omega)
  · have : rest.length + 1 ≤ r.1.length := hr
    have := r.2
    exact Prod.Lex.left _ _ (by omega)

/-- Members up to the closing brace, after `acc` in reverse. -/
def takeMembers (depth : Nat) (acc : List (String × Json)) (s : List Char) :
    Except ParseError (List (String × Json) × Shorter s) :=
  match skipBlanks s with
  | ⟨[], _⟩ => .error .unexpectedEnd
  | ⟨q :: cs, hs⟩ =>
    if q ≠ '\x22' then .error (.unexpectedChar q)
    else match takeText [] cs with
      | .error e => .error e
      | .ok (name, rn) =>
        match skipBlanks rn.1 with
        | ⟨[], _⟩ => .error .unexpectedEnd
        | ⟨colon :: afterColon, hc⟩ =>
          if colon ≠ ':' then .error (.unexpectedChar colon)
          else match takeValue depth afterColon with
            | .error e => .error e
            | .ok (v, rv) =>
              match skipBlanks rv.1 with
              | ⟨[], _⟩ => .error .unexpectedEnd
              | ⟨c :: rest, hr⟩ =>
                have shorter : rest.length < s.length := by
                  have : cs.length + 1 ≤ s.length := hs
                  have : afterColon.length + 1 ≤ rn.1.length := hc
                  have : rest.length + 1 ≤ rv.1.length := hr
                  have := rn.2
                  have := rv.2
                  omega
                if c = '\x7d' then .ok (((name, v) :: acc).reverse, ⟨rest, shorter⟩)
                else if c = ',' then
                  match takeMembers depth ((name, v) :: acc) rest with
                  | .error e => .error e
                  | .ok (members, q) => .ok (members, ⟨q.1, Nat.lt_trans q.2 shorter⟩)
                else .error (.unexpectedChar c)
termination_by (s.length, 2)
decreasing_by
  · have : cs.length + 1 ≤ s.length := hs
    have : afterColon.length + 1 ≤ rn.1.length := hc
    have := rn.2
    exact Prod.Lex.left _ _ (by omega)
  · exact Prod.Lex.left _ _ shorter

end

/-- One document and blanks around it, nothing else. -/
def parse (text : String) : Except ParseError Json :=
  match takeValue maxDepth text.toList with
  | .error e => .error e
  | .ok (v, r) => if (skipBlanks r.1).1.isEmpty then .ok v else .error .trailingCharacters

end Dispatch.Json
