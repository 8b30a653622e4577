/-
Dispatch/Yaml/Tag.lean

Tags and anchors as they are written, and directives.

A tag is written as a handle and a suffix, of which the handle stands for a text that the
document declares.  Tags are kept as octets, because an escape in a tag names an octet and the
octets together need not be text.
-/
import Dispatch.Yaml.Scalar

namespace Dispatch.Yaml

/-- Octets of a tag or of a part of it. -/
abbrev Octets := List UInt8

/-- Octets of a text. -/
def octets (s : String) : Octets := s.toUTF8.toList

/-- Octets of characters. -/
def octetsOf (cs : List Char) : Octets := octets (String.ofList cs)

/-! ### Escapes -/

/-- How many octets follow a first one; none if it cannot be first. -/
def following? (octet : Nat) : Option Nat :=
  if octet < 0x80 then some 0
  else if 0xC0 ≤ octet ∧ octet < 0xE0 then some 1
  else if 0xE0 ≤ octet ∧ octet < 0xF0 then some 2
  else if 0xF0 ≤ octet ∧ octet < 0xF8 then some 3
  else none

/-- One escaped octet at the front. -/
def escapedOctet? : List Char → Option Nat
  | '%' :: a :: b :: _ => Digits.number? 16 [a, b]
  | _ => none

/-- `n` escaped octets at the front, each of which continues a character. -/
def continuing? : Nat → List Char → Option Octets
  | 0, _ => some []
  | n + 1, l => do
    let octet ← escapedOctet? l
    let rest ← if 0x80 ≤ octet ∧ octet < 0xC0 then continuing? n (l.drop 3) else none
    pure (octet.toUInt8 :: rest)

/-- The escaped octets of one character at the front. -/
def escapedCharacter? (l : List Char) : Option Octets := do
  let octet ← escapedOctet? l
  let n ← following? octet
  let rest ← continuing? n (l.drop 3)
  pure (octet.toUInt8 :: rest)

/-! ### Tags -/

/-- Characters of a suffix; the last three only where no flow collection could end. -/
def isTagChar (wide : Bool) (c : Char) : Bool :=
  isWord c || c ∈ [';', '/', '?', ':', '@', '&', '=', '+', '$', '.', '%', '!', '~', '*', '\x27',
    '(', ')'] || (wide && c ∈ [',', '[', ']'])

/-- Octets of a suffix, and the number of characters read. -/
def takeTagChars (wide : Bool) (read : Nat) (acc : Octets) (l : List Char) :
    Except Error (Octets × Nat) :=
  match l with
  | [] => .ok (acc, read)
  | c :: rest =>
    if !isTagChar wide c then .ok (acc, read)
    else if c = '%' then
      match escapedCharacter? (c :: rest) with
      | none => .error .badTag
      | some octets =>
        takeTagChars wide (read + 3 * octets.length) (acc ++ octets)
          (rest.drop (3 * octets.length - 1))
    else takeTagChars wide (read + 1) (acc ++ octetsOf [c]) rest
termination_by l.length
decreasing_by all_goals (simp only [List.length_drop, List.length_cons]; omega)

/-- A suffix, which may not be empty where nothing stands before it. -/
def takeSuffix (wide mayBeEmpty : Bool) (c : Cursor) : Except Error (Octets × Cursor) := do
  let (octets, n) ← takeTagChars wide 0 [] c.rest
  if n = 0 && !mayBeEmpty then throw .badTag
  pure (octets, c.skipMany n)

/-- A handle: an exclamation mark, word characters, and a second mark if it is there. -/
def takeHandle (c : Cursor) : Except Error (List Char × Cursor) :=
  match c.rest with
  | '!' :: rest =>
    let word := rest.takeWhile isWord
    let handle := '!' :: word ++ if startsWith '!' (rest.drop word.length) then ['!'] else []
    .ok (handle, c.skipMany handle.length)
  | _ => .error .badTag

/-- A tag as it is written: without a handle the suffix is the whole tag. -/
structure TagText where
  handle : List Char
  suffix : Octets
  deriving DecidableEq, Repr

/-- Whether a text is a handle with two marks. -/
def isClosedHandle (handle : List Char) : Bool :=
  2 ≤ handle.length && handle.getLast? = some '!'

/-- A tag, from its exclamation mark on. -/
def takeTag (inFlow : Bool) (c : Cursor) : Except Error (TagText × Cursor) := do
  let (tag, after) ← do
    if startsWith '<' c.rest.tail then do
      let (suffix, after) ← takeSuffix true false (c.skipMany 2)
      if !after.at? '>' then throw .badTag
      pure (({ handle := [], suffix } : TagText), after.skip)
    else do
      let (handle, after) ← takeHandle c
      if isClosedHandle handle then do
        let (suffix, after) ← takeSuffix false false after
        pure ({ handle, suffix }, after)
      else do
        let (rest, after) ← takeSuffix false true after
        let suffix := octetsOf handle.tail ++ rest
        pure (if suffix.isEmpty then { handle := [], suffix := octets "!" }
          else { handle := ['!'], suffix }, after)
  if atGap after.rest || (inFlow && after.at? ',') then pure (tag, after) else throw .badTag

/-! ### Anchors -/

/-- What may follow the name of an anchor. -/
def endsAnchor (l : List Char) : Bool :=
  atGap l || endOr (fun c => c ∈ ['?', ':', ',', ']', '\x7d', '%', '@', '\x60']) l

/-- The name of an anchor or alias, after its indicator. -/
def takeAnchor (c : Cursor) : Except Error (List Char × Cursor) :=
  let (name, after) := c.takeWhile isWord
  if name.isEmpty || !endsAnchor after.rest then .error .badAnchor else .ok (name, after)

/-! ### Directives -/

/-- What a line with a percent sign declares. -/
inductive Directive where
  | version (major minor : Nat)
  | handle (handle : List Char) (meaning : Octets)
  deriving DecidableEq, Repr

/-- A version number of up to nine digits. -/
def takeVersionNumber (c : Cursor) : Except Error (Nat × Cursor) :=
  let (digits, after) := c.takeWhile Char.isDigit
  if digits.isEmpty || 9 < digits.length then .error .badDirective
  else .ok (digits.foldl (fun n d => n * 10 + (d.toNat - '0'.toNat)) 0, after)

/-- A directive, after its percent sign and up to the end of its line. -/
def takeDirective (c : Cursor) : Except Error (Directive × Cursor) := do
  let (name, after) := c.takeWhile isWord
  if name.isEmpty || !atGap after.rest then throw .badDirective
  let here := after.skipWhile isSpace
  let (directive, after) ← do
    if name = "YAML".toList then do
      let (major, after) ← takeVersionNumber here
      if !after.at? '.' then throw .badDirective
      let (minor, after) ← takeVersionNumber after.skip
      pure (Directive.version major minor, after)
    else if name = "TAG".toList then do
      let (handle, after) ← takeHandle here
      if handle.length ≠ 1 && !isClosedHandle handle then throw .badDirective
      if after.rest.isEmpty || !endOr isSpace after.rest then throw .badDirective
      let (meaning, after) ← takeSuffix true false (after.skipWhile isSpace)
      if !atGap after.rest then throw .badDirective
      pure (Directive.handle handle meaning, after)
    else throw .badDirective
  let stop := after.skipComment
  if !atLineEnd stop.rest then throw .badDirective
  pure (directive, stop.takeBreak.2)

end Dispatch.Yaml
