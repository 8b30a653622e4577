/-
Dispatch/Yaml/Scalar.lean

The five ways to write a scalar: plain, in single or double quotes, and as a literal or folded
block.

Inside plain and quoted scalars a single line break stands for a blank and further ones for
themselves (`fold`).  A folded block does the same between lines that do not start with a blank;
a literal block keeps every line.
-/
import Dispatch.Number.Digits
import Dispatch.Yaml.Cursor

namespace Dispatch.Yaml

/-- Whether a scalar is plain, so that its text may mean a number or another value. -/
inductive Style where
  | plain | other
  deriving DecidableEq, Repr

/-! ### Runs of blanks and line breaks -/

/-- Blanks and line breaks between two parts of a scalar. -/
structure Gap where
  /-- Blanks before the first line break. -/
  blanks : List Char := []
  /-- The first line break, once there is one; empty after an escaped break. -/
  first : Option (List Char) := none
  /-- Further line breaks. -/
  more : List Char := []

/-- What a gap stands for inside a scalar. -/
def Gap.fold (g : Gap) : List Char :=
  match g.first with
  | none => g.blanks
  | some ['\n'] => if g.more.isEmpty then [' '] else g.more
  | some first => first ++ g.more

/-- Passes over blanks and line breaks.  A tab before column `indent` after a line break is
refused. -/
def takeGap (indent : Int) (g : Gap) (c : Cursor) : Except Error (Gap × Cursor) :=
  match _h : c.rest with
  | [] => .ok (g, c)
  | x :: rest =>
    if isSpace x then
      if g.first.isSome && x = '\t' && (c.column : Int) < indent then .error .tabAsIndentation
      else
        let g := if g.first.isNone then { g with blanks := g.blanks ++ [x] } else g
        takeGap indent g { rest, index := c.index + 1, line := c.line, column := c.column + 1 }
    else match c.breakAt? with
      | none => .ok (g, c)
      | some (b, n) =>
        let g : Gap := if g.first.isNone then { blanks := [], first := some [b] }
          else { g with more := g.more ++ [b] }
        takeGap indent g
          { rest := rest.drop (n - 1), index := c.index + n, line := c.line + 1, column := 0 }
termination_by c.rest.length
decreasing_by
  · simp only [_h, List.length_cons]; omega
  · simp only [_h, List.length_drop, List.length_cons]; omega

/-! ### Plain scalars -/

/-- The characters of a plain scalar up to a blank or to where it ends. -/
def takePlainRun (inFlow : Bool) : List Char → Except Error (List Char)
  | [] => .ok []
  | x :: rest =>
    if isSpace x || isBreak x then .ok []
    else if inFlow && x = ':' && (match rest with
        | y :: _ => y ∈ [',', '?', '[', ']', '\x7b', '\x7d']
        | [] => false) then .error .unexpectedCharacter
    else if x = ':' && atGap rest then .ok []
    else if inFlow && x ∈ [',', '[', ']', '\x7b', '\x7d'] then .ok []
    else do
      let more ← takePlainRun inFlow rest
      pure (x :: more)

/-- A plain scalar as far as it is read: the text, the gap after it, and whether the last gap
had a line break. -/
structure PlainScalar where
  text : List Char
  brokeLine : Bool

/-- Reads on after `text` and `gap`; a continuation has to stand at column `indent` or
deeper. -/
def takePlain (inFlow : Bool) (indent : Int) (text : List Char) (gap : Gap) (c : Cursor) :
    Except Error (PlainScalar × Cursor) :=
  let stop : PlainScalar × Cursor := (⟨text, gap.first.isSome⟩, c)
  if c.atAnyMarker || c.at? '#' then .ok stop
  else match takePlainRun inFlow c.rest with
    | .error e => .error e
    | .ok [] => .ok stop
    | .ok (x :: run) =>
      let text := text ++ gap.fold ++ x :: run
      let after := c.skipMany (run.length + 1)
      if atGap after.rest && !after.rest.isEmpty then
        match takeGap indent {} after with
        | .error e => .error e
        | .ok (gap, next) =>
          if !inFlow && (next.column : Int) < indent then
            .ok (⟨text, gap.first.isSome⟩, next)
          else if next.size < c.size then takePlain inFlow indent text gap next
          else .ok (⟨text, gap.first.isSome⟩, next)
      else .ok (⟨text, false⟩, after)
termination_by c.size

/-! ### Quoted scalars -/

/-- The character of an escape with one letter. -/
def namedEscape? (c : Char) : Option Char :=
  match c with
  | '0' => some '\x00'
  | 'a' => some '\x07'
  | 'b' => some '\x08'
  | 't' => some '\t'
  | '\t' => some '\t'
  | 'n' => some '\n'
  | 'v' => some '\x0b'
  | 'f' => some '\x0c'
  | 'r' => some '\r'
  | 'e' => some '\x1b'
  | ' ' => some ' '
  | '\x22' => some '\x22'
  | '/' => some '/'
  | '\\' => some '\\'
  | 'N' => some '\u0085'
  | '_' => some '\u00a0'
  | 'L' => some '\u2028'
  | 'P' => some '\u2029'
  | _ => none

/-- The number of hexadecimal digits of an escape by number. -/
def escapeDigits? (c : Char) : Option Nat :=
  if c = 'x' then some 2 else if c = 'u' then some 4 else if c = 'U' then some 8 else none

/-- What follows a backslash: the character, and how many characters were read. -/
def takeEscape (l : List Char) : Except Error (Char × Nat) :=
  match l with
  | [] => .error .badEscape
  | x :: rest =>
    match escapeDigits? x with
    | some n =>
      if rest.length < n then .error .badEscape
      else match Digits.number? 16 (rest.take n) with
        | none => .error .badEscape
        | some v =>
          if (0xD800 ≤ v ∧ v ≤ 0xDFFF) ∨ 0x10FFFF < v then .error .badEscape
          else .ok (Char.ofNat v, n + 1)
    | none =>
      match namedEscape? x with
      | some y => .ok (y, 1)
      | none => .error .badEscape

/-- How a run of characters in quotes ended. -/
inductive RunEnd where
  /-- At a blank, a line break, the end, or the closing quote. -/
  | here
  /-- At a line break that a backslash takes out. -/
  | escapedBreak
  deriving DecidableEq

/-- The characters in quotes up to a blank or to where the run ends, after `acc` in reverse. -/
def takeQuotedRun (single : Bool) (acc : List Char) (c : Cursor) :
    Except Error (List Char × RunEnd × Cursor) :=
  match _h : c.rest with
  | [] => .ok (acc.reverse, .here, c)
  | x :: rest =>
    let next : Cursor :=
      { rest, index := c.index + 1, line := c.line, column := c.column + 1 }
    if isSpace x || isBreak x then .ok (acc.reverse, .here, c)
    else if single then
      if x = '\x27' then
        if rest.head? = some '\x27' then takeQuotedRun single ('\x27' :: acc)
          { rest := rest.drop 1, index := c.index + 2, line := c.line, column := c.column + 2 }
        else .ok (acc.reverse, .here, c)
      else takeQuotedRun single (x :: acc) next
    else if x = '\x22' then .ok (acc.reverse, .here, c)
    else if x = '\\' then
      if rest.head?.any isBreak then .ok (acc.reverse, .escapedBreak, next.takeBreak.2)
      else match takeEscape rest with
        | .error e => .error e
        | .ok (y, n) => takeQuotedRun single (y :: acc)
            { rest := rest.drop n, index := c.index + n + 1, line := c.line,
              column := c.column + n + 1 }
    else takeQuotedRun single (x :: acc) next
termination_by c.rest.length
decreasing_by all_goals (simp only [_h, List.length_drop, List.length_cons]; omega)

/-- A quoted scalar after its opening quote. -/
def takeQuoted (single : Bool) (text : List Char) (c : Cursor) :
    Except Error (List Char × Cursor) :=
  if c.atAnyMarker then .error .documentMarkerInScalar
  else if c.rest.isEmpty then .error .unexpectedEnd
  else match takeQuotedRun single [] c with
    | .error e => .error e
    | .ok (run, ending, after) =>
      let text := text ++ run
      let quote := if single then '\x27' else '\x22'
      if after.at? quote then .ok (text, after.skip)
      else
        let gap : Gap := match ending with
          | .here => {}
          | .escapedBreak => { first := some [] }
        -- inside quotes a tab may stand anywhere
        match takeGap 0 gap after with
        | .error e => .error e
        | .ok (gap, next) =>
          if next.size < c.size then takeQuoted single (text ++ gap.fold) next
          else .error .unexpectedEnd
termination_by c.size

/-! ### Block scalars -/

/-- What becomes of the line breaks at the end of a block. -/
inductive Chomping where
  | strip | clip | keep
  deriving DecidableEq, Repr

/-- The sign of a chomping indicator. -/
def chomping? (c : Char) : Option Chomping :=
  if c = '+' then some .keep else if c = '-' then some .strip else none

/-- An indentation indicator. -/
def indentDigit? (c : Char) : Option Nat := if c.isDigit then some (c.toNat - '0'.toNat) else none

/-- The indicators after the sign of a block, in either order. -/
def takeBlockHeader (c : Cursor) : Except Error (Chomping × Nat × Cursor) :=
  let finish (chomping : Chomping) (digit : Option Nat) (c : Cursor) :=
    match digit with
    | some 0 => .error .badBlockHeader
    | some n => .ok (chomping, n, c)
    | none => .ok (chomping, 0, c)
  match c.rest with
  | [] => .ok (.clip, 0, c)
  | x :: rest =>
    match chomping? x with
    | some chomping =>
      match rest.head?.bind indentDigit? with
      | some n => finish chomping (some n) (c.skipMany 2)
      | none => finish chomping none (c.skipMany 1)
    | none =>
      match indentDigit? x with
      | none => finish .clip none c
      | some n =>
        match rest.head?.bind chomping? with
        | some chomping => finish chomping (some n) (c.skipMany 2)
        | none => finish .clip (some n) (c.skipMany 1)

/-- Empty lines and the indentation of the next line: the line breaks, the deepest column, and
the place after.  `indent` is zero while it is not known. -/
def takeBlankLines (indent deepest : Nat) (breaks : List Char) (c : Cursor) :
    Except Error (List Char × Nat × Cursor) :=
  let spaces := (c.rest.takeWhile (· = ' ')).length
  let n := if indent = 0 then spaces else min spaces (indent - c.column)
  let here := c.skipMany n
  let deepest := max deepest here.column
  if (indent = 0 || here.column < indent) && here.at? '\t' then .error .tabAsIndentation
  else match here.breakAt? with
    | none => .ok (breaks, deepest, here)
    | some (b, _) =>
      let next := here.takeBreak.2
      if next.size < c.size then takeBlankLines indent deepest (breaks ++ [b]) next
      else .ok (breaks, deepest, here)
termination_by c.size

/-- The lines of a block of known indentation. -/
structure BlockState where
  text : List Char := []
  /-- The line break after the last line. -/
  leading : List Char := []
  /-- Line breaks of the empty lines after it. -/
  trailing : List Char := []
  /-- Whether the last line starts with a blank. -/
  startedBlank : Bool := false

/-- Joins what stands between the last line and the next one. -/
def BlockState.join (s : BlockState) (literal nextBlank : Bool) : List Char :=
  if !literal && s.leading = ['\n'] && !s.startedBlank && !nextBlank then
    (if s.trailing.isEmpty then s.text ++ [' '] else s.text) ++ s.trailing
  else s.text ++ s.leading ++ s.trailing

/-- Lines of a block, as long as they stand at its column. -/
def takeBlockLines (literal : Bool) (indent : Nat) (s : BlockState) (c : Cursor) :
    Except Error (BlockState × Cursor) :=
  if c.column = indent && !c.rest.isEmpty then
    let nextBlank := c.rest.head?.any isSpace
    let (line, atEnd) := c.takeWhile fun x => !isBreak x
    let (leading, next) := atEnd.takeBreak
    match takeBlankLines indent 0 [] next with
    | .error e => .error e
    | .ok (trailing, _, after) =>
      let s : BlockState :=
        { text := s.join literal nextBlank ++ line, leading, trailing, startedBlank := nextBlank }
      if after.size < c.size then takeBlockLines literal indent s after else .ok (s, after)
  else .ok (s, c)
termination_by c.size

/-- A block scalar after its sign; `parent` is the indentation around it. -/
def takeBlock (literal : Bool) (parent : Int) (c : Cursor) :
    Except Error (List Char × Cursor) := do
  let (chomping, increment, c) ← takeBlockHeader c
  let c := c.skipComment
  if !atLineEnd c.rest then throw .badBlockHeader
  let c := c.takeBreak.2
  let given : Nat :=
    if increment = 0 then 0 else if 0 ≤ parent then parent.toNat + increment else increment
  let (trailing, deepest, c) ← takeBlankLines given 0 [] c
  let indent : Nat :=
    if given = 0 then max (max deepest (parent + 1).toNat) 1 else given
  let (s, c) ← takeBlockLines literal indent { trailing } c
  let tail := match chomping with
    | .strip => []
    | .clip => s.leading
    | .keep => s.leading ++ s.trailing
  pure (s.text ++ tail, c)

end Dispatch.Yaml
