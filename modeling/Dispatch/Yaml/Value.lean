/-
Dispatch/Yaml/Value.lean

What a YAML document means as JSON.

A plain scalar means nothing, a truth value, a number, or else its text; any other scalar means
its text, and a tag of the core set decides for itself.  A number that is not finite means
nothing.  Keys are texts; of two members with one key the later stays.  Nesting and the number
of aliases followed are bounded, so a short text cannot stand for an endless document.
-/
import Dispatch.Json.Basic
import Dispatch.Number.Binary64
import Dispatch.Yaml.Node

namespace Dispatch.Yaml

/-! ### Whole numbers -/

/-- The base of a number and its digits. -/
def based (l : List Char) : Nat × List Char :=
  match l with
  | '0' :: 'x' :: ds => (16, ds)
  | '0' :: 'o' :: ds => (8, ds)
  | '0' :: 'b' :: ds => (2, ds)
  | ds => (10, ds)

/-- The sign of a number and what follows it; a plus sign may be left out. -/
def splitSign : List Char → Bool × List Char
  | '-' :: rest => (true, rest)
  | '+' :: rest => (false, rest)
  | rest => (false, rest)

/-- Digits after a zero: they look like a number and are a text. -/
def hasLeadingZero (digits : List Char) : Bool :=
  match digits with
  | '0' :: d :: rest => (d :: rest).all Char.isDigit
  | _ => false

/-- The whole number that a text says. -/
def wholeNumber? (text : List Char) : Option Int := do
  let (negative, rest) := splitSign text
  let (base, digits) := based rest
  let n ← if hasLeadingZero rest then none else Digits.number? base digits
  pure (if negative then -n else n)

/-! ### Floats -/

/-- A decimal number: digits, and the power of ten of the last one. -/
def decimal? (l : List Char) : Option (Nat × Int) := do
  let whole := l.takeWhile Char.isDigit
  let l := l.dropWhile Char.isDigit
  let (places, l) := match l with
    | '.' :: rest => (rest.takeWhile Char.isDigit, rest.dropWhile Char.isDigit)
    | _ => ([], l)
  if whole.isEmpty && places.isEmpty then failure
  let exponent ← match l with
    | [] => some (0 : Int)
    | c :: rest =>
      if c = 'e' || c = 'E' then
        let (negative, ds) := splitSign rest
        if ds.all Char.isDigit then
          (Digits.number? 10 ds).map fun n => if negative then -(n : Int) else n
        else none
      else none
  let digits ← Digits.number? 10 (whole ++ places)
  pure (digits, exponent - places.length)

/-- The float nearest to `digits * 10 ^ exponent`, if that is finite. -/
def nearestFloat? (digits : Nat) (exponent : Int) : Option Float :=
  let lead := (Binary64.digitCount digits : Int) + exponent
  if digits = 0 || lead < -330 then some 0.0
  else if 310 < lead then none
  else
    let x := Float.ofScientific digits (exponent < 0) exponent.natAbs
    if x.isFinite then some x else none

/-- What a text says as a float: nothing unless it is one, and no number where it is infinite or
none. -/
def floatValue? (text : List Char) : Option Json :=
  let (negative, rest) := splitSign text
  if String.ofList rest ∈ [".inf", ".Inf", ".INF"] then some .null
  else if String.ofList text ∈ [".nan", ".NaN", ".NAN"] then some .null
  else do
    let (digits, exponent) ← decimal? rest
    let x ← nearestFloat? digits exponent
    pure (.float (if negative then -x else x))

/-! ### Scalars -/

/-- Texts that say nothing. -/
def isNothing (text : String) : Bool := text ∈ ["null", "Null", "NULL", "~"]

/-- What a text says as a truth value. -/
def truth? (text : String) : Option Bool :=
  if text ∈ ["true", "True", "TRUE"] then some true
  else if text ∈ ["false", "False", "FALSE"] then some false
  else none

/-- What a text says as a whole number: one of 64 bits.  Nothing is said where the number needs
more than 128 bits, and between these bounds it is refused. -/
def wholeValue? (text : List Char) : Except Error (Option Json) :=
  match wholeNumber? text with
  | none => .ok none
  | some n =>
    if -(1 <<< 63) ≤ n ∧ n < 1 <<< 64 then .ok (some (.int n))
    else if -(1 <<< 127) ≤ n ∧ n < 1 <<< 128 then .error .numberOutOfRange
    else .ok none

/-- What a plain scalar means. -/
def plainValue (text : String) : Except Error Json :=
  if text.isEmpty || isNothing text then .ok .null
  else match truth? text with
    | some b => .ok (.bool b)
    | none => do
      match ← wholeValue? text.toList with
      | some j => pure j
      | none =>
        if hasLeadingZero (splitSign text.toList).2 then pure (.str text)
        else pure ((floatValue? text.toList).getD (.str text))

/-- The tag of a name of the core set. -/
def coreTag (name : String) : Octets := octets ("tag:yaml.org,2002:" ++ name)

/-- Fails where a text does not say what its tag asks for. -/
def insist (value : Option Json) : Except Error Json :=
  match value with
  | some j => .ok j
  | none => .error .badScalar

/-- Whether a tag belongs to the document and not to the core set; such a tag is a text. -/
def isLocalTag (tag : Octets) : Bool :=
  tag.head? = some 0x21 && (String.fromUTF8? (ByteArray.mk tag.toArray)).isSome

/-- What a scalar means under its tag. -/
def scalarValue (tag : Option Octets) (style : Style) (text : String) : Except Error Json :=
  match tag with
  | none => if style = .plain then plainValue text else .ok (.str text)
  | some tag =>
    if isLocalTag tag then .error .localTag
    else if tag = coreTag "bool" then insist ((truth? text).map .bool)
    else if tag = coreTag "int" then do insist (← wholeValue? text.toList)
    else if tag = coreTag "float" then insist (floatValue? text.toList)
    else if tag = coreTag "null" then insist (if isNothing text then some .null else none)
    else if tag.head? = some 0x21 && style = .plain then plainValue text
    else .ok (.str text)

/-! ### Documents -/

/-- Counts the aliases followed. -/
abbrev Following := StateT Nat (Except Error)

namespace Document

/-- The node itself, or the one that an alias means. -/
def follow (d : Document) (n : Node) : Following Node := do
  match n with
  | .reference anchor =>
    let followed := (← get) + 1
    if d.events * 100 < followed then throw .tooManyAliases
    set followed
    match d.target? anchor with
    | none => throw .undefinedAnchor
    | some n => pure n
  | n => pure n

/-- The text of a key. -/
def keyText (d : Document) (n : Node) : Following String := do
  match ← d.follow n with
  | .scalar _ _ text => pure text
  | _ => throw .notAKey

/-- Collections have no local tag. -/
def checkTag (tag : Option Octets) : Following Unit :=
  if tag.any isLocalTag then throw .localTag else pure ()

/-- What a node means, `depth` collections deep at most. -/
def nodeValue (d : Document) : Nat → Node → Following Json
  | 0, n => do
    match ← d.follow n with
    | .scalar tag style text => (scalarValue tag style text : Except Error Json)
    | _ => throw .tooDeep
  | depth + 1, n => do
    match ← d.follow n with
    | .scalar tag style text => (scalarValue tag style text : Except Error Json)
    | .sequence tag items =>
      checkTag tag
      pure (.arr (← items.mapM fun item => nodeValue d depth item))
    | .mapping tag members =>
      checkTag tag
      pure (Json.object (← members.mapM fun m => do
        let key ← d.keyText m.1
        let value ← nodeValue d depth m.2
        pure (key, value)))
    | .reference _ => throw .undefinedAnchor

/-- Collections may be nested so deep. -/
def maxDepth : Nat := 128

/-- What a document means. -/
def value (d : Document) : Except Error Json := (d.nodeValue maxDepth d.root).run' 0

end Document

/-- What a text means; a text without a document means nothing. -/
def parse (text : String) : Except Error Json := do
  match ← Document.parse text with
  | none => pure .null
  | some d => d.value

end Dispatch.Yaml
