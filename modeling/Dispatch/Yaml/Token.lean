/-
Dispatch/Yaml/Token.lean

The tokens of a YAML text.

Outside brackets the column of a character says which block it belongs to, so the lexer keeps
the columns of the open blocks, and makes tokens of their ends as the text moves to the left.
That something is the key of a mapping shows only at the colon behind it; a place where a key
may start is therefore remembered (`KeyStart`), and the tokens in front of it are put in once
the colon is found.  Such a key has to end on its line within 1024 characters.
-/
import Dispatch.Yaml.Tag

namespace Dispatch.Yaml

/-- A token. -/
inductive Token where
  | directive (d : Directive)
  | documentStart
  | documentEnd
  | sequenceStart
  | mappingStart
  /-- End of a block without brackets. -/
  | blockEnd
  | openBracket
  | closeBracket
  | openBrace
  | closeBrace
  /-- The hyphen in front of an item. -/
  | item
  | comma
  | key
  | value
  | reference (name : List Char)
  | anchor (name : List Char)
  | tag (t : TagText)
  | scalar (style : Style) (text : List Char)
  deriving DecidableEq, Repr

/-- A place where a key may have started. -/
structure KeyStart where
  /-- Tokens in front of it. -/
  position : Nat
  /-- In a mapping without brackets nothing but a key may start here. -/
  required : Bool
  place : Cursor

/-- The state of the lexer. -/
structure Lexer where
  cursor : Cursor
  /-- Tokens found, the latest first. -/
  found : List Token := []
  count : Nat := 0
  /-- The column of the innermost block, and those of the blocks around it. -/
  indent : Int := -1
  outerIndents : List Int := []
  /-- The key that may have started within the innermost brackets, and within those around
  them. -/
  keyStart : Option KeyStart := none
  outerKeyStarts : List (Option KeyStart) := []
  keyAllowed : Bool := true

namespace Lexer

/-- Whether the place is inside brackets or braces. -/
def inFlow (s : Lexer) : Bool := !s.outerKeyStarts.isEmpty

/-- Adds a token at the end. -/
def push (s : Lexer) (t : Token) : Lexer := { s with found := t :: s.found, count := s.count + 1 }

/-- Adds a token behind the first `position` ones. -/
def insertAt (s : Lexer) (position : Nat) (t : Token) : Lexer :=
  let later := s.found.take (s.count - position)
  { s with found := later ++ t :: s.found.drop (s.count - position), count := s.count + 1 }

/-- Closes the blocks that stand deeper than a column. -/
def closeBlocks (column : Int) (s : Lexer) : Lexer :=
  if s.inFlow then s
  else
    let rec go (indent : Int) (outer : List Int) (s : Lexer) : Lexer :=
      if column < indent then
        match outer with
        | [] => { s.push .blockEnd with indent := -1, outerIndents := [] }
        | i :: rest => go i rest (s.push .blockEnd)
      else { s with indent, outerIndents := outer }
    go s.indent s.outerIndents s

/-- Opens a block at a column, unless one is open there; its token goes behind the first
`position` ones. -/
def openBlock (column position : Nat) (t : Token) (s : Lexer) : Lexer :=
  if !s.inFlow && s.indent < column then
    { s.insertAt position t with indent := column, outerIndents := s.indent :: s.outerIndents }
  else s

/-- Forgets the key that may have started. -/
def forgetKey (s : Lexer) : Except Error Lexer :=
  if s.keyStart.any KeyStart.required then .error .colonExpected
  else .ok { s with keyStart := none }

/-- Remembers that a key may start here. -/
def markKey (s : Lexer) : Except Error Lexer :=
  if s.keyAllowed then do
    let s ← s.forgetKey
    pure { s with keyStart := some {
      position := s.count
      required := !s.inFlow && s.indent = s.cursor.column
      place := s.cursor } }
  else pure s

/-- Whether a key that started cannot end here any more. -/
def isStale (c : Cursor) (k : KeyStart) : Bool :=
  k.place.line < c.line || k.place.index + 1024 < c.index

/-- Drops a key that cannot end here any more. -/
def dropStale (c : Cursor) (k : Option KeyStart) : Except Error (Option KeyStart) :=
  match k with
  | none => .ok none
  | some k =>
    if isStale c k then if k.required then .error .colonExpected else .ok none
    else .ok (some k)

/-- Drops the keys that cannot end here any more. -/
def dropStaleKeys (s : Lexer) : Except Error Lexer := do
  let keyStart ← dropStale s.cursor s.keyStart
  let outerKeyStarts ← s.outerKeyStarts.mapM (dropStale s.cursor)
  pure { s with keyStart, outerKeyStarts }

/-- The end of the blanks and the comment here.  A tab counts as a blank where no key may
start; a byte order mark may start a line. -/
def afterBlanks (s : Lexer) : Cursor :=
  let c := if s.cursor.column = 0 && s.cursor.at? '\ufeff' then s.cursor.skip else s.cursor
  let c := c.skipWhile fun x => x = ' ' || (x = '\t' && (s.inFlow || !s.keyAllowed))
  if c.at? '#' then c.skipWhile fun x => !isBreak x else c

/-- Passes over blanks, comments and line breaks.  Outside brackets a key may start on a new
line. -/
def skipToToken (s : Lexer) : Lexer :=
  if s.afterBlanks.breakAt?.isSome ∧ s.afterBlanks.takeBreak.2.size < s.cursor.size then
    skipToToken { s with
      cursor := s.afterBlanks.takeBreak.2
      keyAllowed := s.keyAllowed || !s.inFlow }
  else { s with cursor := s.afterBlanks }
termination_by s.cursor.size
decreasing_by exact (by assumption : _ ∧ _).2

/-! ### One token -/

/-- Leaves every block, as a directive or a document marker does. -/
def leaveBlocks (s : Lexer) : Except Error Lexer := do
  let s ← (s.closeBlocks (-1)).forgetKey
  pure { s with keyAllowed := false }

/-- An opening bracket or brace. -/
def opening (t : Token) (s : Lexer) : Except Error Lexer := do
  let s ← s.markKey
  pure { s.push t with
    cursor := s.cursor.skip
    keyStart := none
    outerKeyStarts := s.keyStart :: s.outerKeyStarts
    keyAllowed := true }

/-- A closing bracket or brace. -/
def closing (t : Token) (s : Lexer) : Except Error Lexer := do
  let s ← s.forgetKey
  let s := { s.push t with cursor := s.cursor.skip, keyAllowed := false }
  match s.outerKeyStarts with
  | [] => pure s
  | keyStart :: outerKeyStarts => pure { s with keyStart, outerKeyStarts }

/-- A comma. -/
def comma (s : Lexer) : Except Error Lexer := do
  let s ← s.forgetKey
  pure { s.push .comma with cursor := s.cursor.skip, keyAllowed := true }

/-- The hyphen in front of an item. -/
def item (s : Lexer) : Except Error Lexer := do
  if !s.inFlow && !s.keyAllowed then throw .misplacedIndicator
  let s ← (s.openBlock s.cursor.column s.count .sequenceStart).forgetKey
  pure { s.push .item with cursor := s.cursor.skip, keyAllowed := true }

/-- A question mark in front of a key. -/
def explicitKey (s : Lexer) : Except Error Lexer := do
  if !s.inFlow && !s.keyAllowed then throw .misplacedIndicator
  let s ← (s.openBlock s.cursor.column s.count .mappingStart).forgetKey
  pure { s.push .key with cursor := s.cursor.skip, keyAllowed := !s.inFlow }

/-- A colon, behind a key that started earlier or on its own. -/
def value (s : Lexer) : Except Error Lexer :=
  match s.keyStart with
  | some k =>
    let s := (s.insertAt k.position .key).openBlock k.place.column k.position .mappingStart
    .ok { s.push .value with cursor := s.cursor.skip, keyStart := none, keyAllowed := false }
  | none =>
    if !s.inFlow && !s.keyAllowed then .error .misplacedIndicator
    else
      let s := s.openBlock s.cursor.column s.count .mappingStart
      .ok { s.push .value with cursor := s.cursor.skip, keyAllowed := !s.inFlow }

/-- A token that may start a key. -/
def keyed (s : Lexer) (read : Except Error (Token × Cursor)) : Except Error Lexer := do
  let s ← s.markKey
  let (t, cursor) ← read
  pure { s.push t with cursor, keyAllowed := false }

/-- A plain scalar. -/
def plain (s : Lexer) : Except Error Lexer := do
  let s ← s.markKey
  let (scalar, cursor) ← takePlain s.inFlow (s.indent + 1) [] {} s.cursor
  pure { s.push (.scalar .plain scalar.text) with cursor, keyAllowed := scalar.brokeLine }

/-- A scalar in quotes. -/
def quoted (single : Bool) (s : Lexer) : Except Error Lexer :=
  s.keyed ((takeQuoted single [] s.cursor.skip).map fun r => (.scalar .other r.1, r.2))

/-- A literal or folded block. -/
def block (literal : Bool) (s : Lexer) : Except Error Lexer := do
  let s ← s.forgetKey
  let (text, cursor) ← takeBlock literal s.indent s.cursor.skip
  pure { s.push (.scalar .other text) with cursor, keyAllowed := true }

/-- Indicators that no plain scalar starts with, whatever follows. -/
def isIndicator (c : Char) : Bool :=
  c ∈ [',', '[', ']', '\x7b', '\x7d', '#', '&', '*', '!', '|', '>', '\x27', '\x22', '%', '@', '\x60']

/-- Whether a plain scalar starts with `c` in front of `rest`. -/
def startsPlain (inFlow : Bool) (c : Char) (rest : List Char) : Bool :=
  if c = '-' then !startsWith ' ' rest && !startsWith '\t' rest
  else if c = '?' || c = ':' then !inFlow && !atGap rest
  else !(isSpace c || isBreak c || isIndicator c)

/-- The token that starts with `c` in front of `rest`. -/
def token (c : Char) (rest : List Char) (s : Lexer) : Except Error Lexer :=
  if s.cursor.column = 0 && c = '%' then do
    let s ← s.leaveBlocks
    let (d, cursor) ← takeDirective s.cursor.skip
    pure { s.push (.directive d) with cursor }
  else if s.cursor.atMarker '-' then do
    let s ← s.leaveBlocks
    pure { s.push .documentStart with cursor := s.cursor.skipMany 3 }
  else if s.cursor.atMarker '.' then do
    let s ← s.leaveBlocks
    pure { s.push .documentEnd with cursor := s.cursor.skipMany 3 }
  else if c = '[' then s.opening .openBracket
  else if c = '\x7b' then s.opening .openBrace
  else if c = ']' then s.closing .closeBracket
  else if c = '\x7d' then s.closing .closeBrace
  else if c = ',' then s.comma
  else if c = '-' && atGap rest then s.item
  else if c = '?' && (s.inFlow || atGap rest) then s.explicitKey
  else if c = ':' && (s.inFlow || atGap rest) then s.value
  else if c = '*' then s.keyed ((takeAnchor s.cursor.skip).map fun r => (.reference r.1, r.2))
  else if c = '&' then s.keyed ((takeAnchor s.cursor.skip).map fun r => (.anchor r.1, r.2))
  else if c = '!' then s.keyed ((takeTag s.inFlow s.cursor).map fun r => (.tag r.1, r.2))
  else if c = '|' && !s.inFlow then s.block true
  else if c = '>' && !s.inFlow then s.block false
  else if c = '\x27' then s.quoted true
  else if c = '\x22' then s.quoted false
  else if startsPlain s.inFlow c rest then s.plain
  else .error .unexpectedCharacter

/-- Reads tokens to the end of the text. -/
def run (s : Lexer) : Except Error (List Token) :=
  let ready := s.skipToToken
  match ready.dropStaleKeys with
  | .error e => .error e
  | .ok fresh =>
    let here := fresh.closeBlocks fresh.cursor.column
    match here.cursor.rest with
    | [] =>
      match (here.closeBlocks (-1)).forgetKey with
      | .error e => .error e
      | .ok done => .ok done.found.reverse
    | c :: rest =>
      match here.token c rest with
      | .error e => .error e
      | .ok next =>
        if next.cursor.size < s.cursor.size then run next else .error .unexpectedCharacter
termination_by s.cursor.size

end Lexer

/-- The tokens of a text. -/
def tokens (text : String) : Except Error (List Token) :=
  if text.toList.all isAllowed then Lexer.run { cursor := { rest := text.toList } }
  else .error .forbiddenCharacter

end Dispatch.Yaml
