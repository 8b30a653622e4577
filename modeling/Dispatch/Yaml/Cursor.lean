/-
Dispatch/Yaml/Cursor.lean

A place in a YAML text: what is left to read, and where that stands.

The column of a character decides how it nests, so the cursor counts lines and columns as it
moves.  A line ends with a line feed, a carriage return, both, or one of three separators of
Unicode (`breakAt?`); scalars hold each of the first four as a line feed.
-/

namespace Dispatch.Yaml

/-- Why a text is not a YAML document. -/
inductive Error where
  | forbiddenCharacter
  | unexpectedCharacter
  | unexpectedEnd
  | documentMarkerInScalar
  | tabAsIndentation
  | colonExpected
  | misplacedIndicator
  | badDirective
  | badAnchor
  | badTag
  | undefinedTagHandle
  | badEscape
  | badBlockHeader
  | nodeExpected
  | separatorExpected
  | undefinedAnchor
  | severalDocuments
  | tooDeep
  | tooManyAliases
  | notAKey
  | localTag
  | numberOutOfRange
  | badScalar
  deriving DecidableEq, Repr

/-- A place in a text. -/
structure Cursor where
  rest : List Char
  index : Nat := 0
  line : Nat := 0
  column : Nat := 0

/-! ### Classes of characters -/

/-- Characters that a text may hold. -/
def isAllowed (c : Char) : Bool :=
  let n := c.toNat
  n = 0x09 || n = 0x0A || n = 0x0D || (0x20 ≤ n && n ≤ 0x7E) || n = 0x85
    || (0xA0 ≤ n && n ≤ 0xD7FF) || (0xE000 ≤ n && n ≤ 0xFFFD) || 0x10000 ≤ n

/-- A blank or a tab. -/
def isSpace (c : Char) : Bool := c = ' ' || c = '\t'

/-- Characters that end a line. -/
def isBreak (c : Char) : Bool :=
  c = '\n' || c = '\r' || c = '\u0085' || c = '\u2028' || c = '\u2029'

/-- Letters, digits, the underscore and the hyphen. -/
def isWord (c : Char) : Bool := c.isAlphanum || c = '_' || c = '-'

/-- Whether the text ends here or goes on with a character that satisfies `p`. -/
def endOr (p : Char → Bool) : List Char → Bool
  | [] => true
  | c :: _ => p c

/-- Whether a blank, a line break or the end stands at the front. -/
def atGap (l : List Char) : Bool := endOr (fun c => isSpace c || isBreak c) l

/-- Whether a line break or the end stands at the front. -/
def atLineEnd (l : List Char) : Bool := endOr isBreak l

/-- Whether a character stands at the front. -/
def startsWith (c : Char) : List Char → Bool
  | [] => false
  | d :: _ => d = c

namespace Cursor

/-- Characters left. -/
def size (c : Cursor) : Nat := c.rest.length

/-- Whether a character stands here. -/
def at? (c : Cursor) (x : Char) : Bool := startsWith x c.rest

/-- Moves over one character of the line. -/
def skip (c : Cursor) : Cursor :=
  { rest := c.rest.tail, index := c.index + 1, line := c.line, column := c.column + 1 }

/-- Moves over `n` characters of the line. -/
def skipMany (c : Cursor) (n : Nat) : Cursor :=
  { rest := c.rest.drop n, index := c.index + n, line := c.line, column := c.column + n }

/-- The characters of the line that satisfy `p`, and the place after them. -/
def takeWhile (c : Cursor) (p : Char → Bool) : List Char × Cursor :=
  let taken := c.rest.takeWhile p
  (taken, c.skipMany taken.length)

/-- The place after the characters of the line that satisfy `p`. -/
def skipWhile (c : Cursor) (p : Char → Bool) : Cursor := (c.takeWhile p).2

/-- The line break at the front, as scalars hold it, and its length. -/
def breakAt? (c : Cursor) : Option (Char × Nat) :=
  match c.rest with
  | '\r' :: '\n' :: _ => some ('\n', 2)
  | x :: _ =>
    if x = '\n' || x = '\r' || x = '\u0085' then some ('\n', 1)
    else if x = '\u2028' || x = '\u2029' then some (x, 1)
    else none
  | [] => none

/-- Moves over the line break at the front, if there is one; also gives the break. -/
def takeBreak (c : Cursor) : List Char × Cursor :=
  match c.breakAt? with
  | some (x, n) =>
    ([x], { rest := c.rest.drop n, index := c.index + n, line := c.line + 1, column := 0 })
  | none => ([], c)

/-- Whether a document marker of three equal characters stands at the start of a line. -/
def atMarker (c : Cursor) (x : Char) : Bool :=
  c.column = 0 && match c.rest with
    | a :: b :: d :: rest => a = x && b = x && d = x && atGap rest
    | _ => false

/-- Whether any document marker stands here. -/
def atAnyMarker (c : Cursor) : Bool := c.atMarker '-' || c.atMarker '.'

/-- Moves over blanks and a comment, up to the end of the line. -/
def skipComment (c : Cursor) : Cursor :=
  let c := c.skipWhile isSpace
  if c.at? '#' then c.skipWhile fun x => !isBreak x else c

end Cursor

end Dispatch.Yaml
