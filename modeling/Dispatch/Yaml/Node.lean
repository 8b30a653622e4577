/-
Dispatch/Yaml/Node.lean

The node graph of a YAML document.

A text holds at most one document.  An anchor is known by a number, not by its name: the number
of names in use when it is set.  A name that is set again takes a new number, which the next
new name takes once more; an alias means the node that started last under its number
(`Document.target?`).

Every call below reads a token or ends a collection, so twice as many nested calls as there are
tokens are enough; the counter of `node` and its companions only says so to Lean.
-/
import Dispatch.Yaml.Token

namespace Dispatch.Yaml

/-- A node of a document. -/
inductive Node where
  | scalar (tag : Option Octets) (style : Style) (text : String)
  | sequence (tag : Option Octets) (items : List Node)
  | mapping (tag : Option Octets) (members : List (Node × Node))
  | reference (anchor : Nat)
  deriving Inhabited

/-- A node under the number of its anchor; `start` orders the nodes by where they start. -/
structure Anchored where
  anchor : Nat
  start : Nat
  node : Node

/-- A document. -/
structure Document where
  root : Node
  anchored : List Anchored
  /-- Scalars, aliases, and both ends of collections. -/
  events : Nat

/-- The node that an alias means. -/
def Document.target? (d : Document) (anchor : Nat) : Option Node :=
  let later (best : Option Anchored) (a : Anchored) : Option Anchored :=
    if a.anchor ≠ anchor then best
    else match best with
      | none => some a
      | some b => if b.start < a.start then some a else some b
  (d.anchored.foldl later none).map Anchored.node

/-! ### The reader's state -/

/-- What is left to read, and what is known so far. -/
structure Reader where
  tokens : List Token
  handles : List (List Char × Octets) := []
  /-- Numbers of the anchor names in use. -/
  names : List (List Char × Nat) := []
  anchored : List Anchored := []
  events : Nat := 0

/-- A reading step. -/
abbrev Reading := StateT Reader (Except Error)

namespace Reading

/-- The next token. -/
def peek : Reading (Option Token) := do pure (← get).tokens.head?

/-- Passes over the next token. -/
def skip : Reading Unit := modify fun s => { s with tokens := s.tokens.tail }

/-- Counts a scalar, an alias, or an end of a collection. -/
def count : Reading Unit := modify fun s => { s with events := s.events + 1 }

/-- What stands in front of a node. -/
structure Properties where
  anchor : Option (List Char) := none
  tag : Option TagText := none

/-- Reads an anchor and a tag, in either order. -/
def takeProperties : Reading Properties := do
  match ← peek with
  | some (.anchor name) =>
    skip
    match ← peek with
    | some (.tag t) => skip; pure { anchor := some name, tag := some t }
    | _ => pure { anchor := some name }
  | some (.tag t) =>
    skip
    match ← peek with
    | some (.anchor name) => skip; pure { anchor := some name, tag := some t }
    | _ => pure { tag := some t }
  | _ => pure {}

/-- The tag in full. -/
def fullTag (t : Option TagText) : Reading (Option Octets) := do
  match t with
  | none => pure none
  | some t =>
    if t.handle.isEmpty then pure (some t.suffix)
    else match (← get).handles.find? fun h => h.1 = t.handle with
      | none => throw .undefinedTagHandle
      | some h => pure (some (h.2 ++ t.suffix))

/-- Starts a node: gives its anchor a number. -/
def start (anchor : Option (List Char)) : Reading (Option (Nat × Nat)) := do
  let s ← get
  count
  match anchor with
  | none => pure none
  | some name =>
    let number := s.names.length
    let names := (name, number) :: s.names.filter fun e => e.1 ≠ name
    modify fun s => { s with names }
    pure (some (number, s.events))

/-- Ends a node: keeps it under the number of its anchor. -/
def finish (place : Option (Nat × Nat)) (node : Node) : Reading Node := do
  match place with
  | none => pure ()
  | some (anchor, start) =>
    modify fun s => { s with anchored := { anchor, start, node } :: s.anchored }
  pure node

/-- A scalar where nothing is written. -/
def nothing : Reading Node := do
  count
  pure (.scalar none .plain "")

/-- An alias. -/
def reference (name : List Char) : Reading Node := do
  match (← get).names.find? fun e => e.1 = name with
  | none => throw .undefinedAnchor
  | some e => count; pure (.reference e.2)

/-- The content of a collection between its two ends. -/
def collection (anchor : Option (List Char)) (wrap : α → Node) (content : Reading α) :
    Reading Node := do
  let place ← start anchor
  let node := wrap (← content)
  count
  finish place node

/-- Whether a token ends an item without content. -/
def endsItem (stops : List Token) (t : Option Token) : Bool :=
  match t with
  | none => false
  | some t => t ∈ stops

/-! ### Nodes -/

mutual

/-- A node; `block` where collections without brackets may stand, `indentless` where the items
of a sequence may stand at the column of the mapping around it. -/
def node (block indentless : Bool) : Nat → Reading Node
  | 0 => throw .nodeExpected
  | calls + 1 => do
    match ← peek with
    | some (.reference name) => skip; reference name
    | _ =>
      let p ← takeProperties
      let tag ← fullTag p.tag
      match ← peek with
      | some (.scalar style text) =>
        skip
        let place ← start p.anchor
        let tag := if tag = some (octets "!") then none else tag
        finish place (.scalar tag style (String.ofList text))
      | some .openBracket =>
        skip; collection p.anchor (.sequence tag) (flowItems true calls)
      | some .openBrace =>
        skip; collection p.anchor (.mapping tag) (flowMembers true calls)
      | t =>
        if indentless && t = some .item then
          collection p.anchor (.sequence tag) (indentlessItems calls)
        else if block && t = some .sequenceStart then do
          skip; collection p.anchor (.sequence tag) (blockItems calls)
        else if block && t = some .mappingStart then do
          skip; collection p.anchor (.mapping tag) (blockMembers calls)
        else if p.anchor.isSome || tag.isSome then do
          let place ← start p.anchor
          finish place (.scalar tag .plain "")
        else throw .nodeExpected

/-- A node, unless one of `stops` comes first. -/
def nodeUnless (stops : List Token) (block : Bool) (indentless : Bool) : Nat → Reading Node
  | 0 => throw .nodeExpected
  | calls + 1 => do
    if endsItem stops (← peek) then nothing else node block indentless calls

/-- Items of a sequence without brackets. -/
def blockItems : Nat → Reading (List Node)
  | 0 => throw .nodeExpected
  | calls + 1 => do
    match ← peek with
    | some .item =>
      skip
      let first ← nodeUnless [.item, .blockEnd] true false calls
      pure (first :: (← blockItems calls))
    | some .blockEnd => skip; pure []
    | _ => throw .separatorExpected

/-- Items of a sequence at the column of the mapping around it. -/
def indentlessItems : Nat → Reading (List Node)
  | 0 => throw .nodeExpected
  | calls + 1 => do
    match ← peek with
    | some .item =>
      skip
      let first ← nodeUnless [.item, .key, .value, .blockEnd] true false calls
      pure (first :: (← indentlessItems calls))
    | _ => pure []

/-- Members of a mapping without braces. -/
def blockMembers : Nat → Reading (List (Node × Node))
  | 0 => throw .nodeExpected
  | calls + 1 => do
    match ← peek with
    | some .key =>
      skip
      let key ← nodeUnless [.key, .value, .blockEnd] true true calls
      let value ← do
        if (← peek) = some .value then do
          skip; nodeUnless [.key, .value, .blockEnd] true true calls
        else nothing
      pure ((key, value) :: (← blockMembers calls))
    | some .blockEnd => skip; pure []
    | _ => throw .separatorExpected

/-- Items between brackets.  A question mark makes an item a mapping with one member; where it
has no key, the token behind it is lost. -/
def flowItems (isFirst : Bool) : Nat → Reading (List Node)
  | 0 => throw .nodeExpected
  | calls + 1 => do
    if (← peek) = some .closeBracket then do
      skip; pure []
    else
      if !isFirst then
        if (← peek) = some .comma then skip else throw .separatorExpected
      match ← peek with
      | some .closeBracket => skip; pure []
      | some .key =>
        skip
        let pair ← collection none (fun m => .mapping none [m]) (flowPair calls)
        pure (pair :: (← flowItems false calls))
      | _ =>
        let first ← node false false calls
        pure (first :: (← flowItems false calls))

/-- Key and value of an item that is a mapping. -/
def flowPair : Nat → Reading (Node × Node)
  | 0 => throw .nodeExpected
  | calls + 1 => do
    let key ← do
      if endsItem [.value, .comma, .closeBracket] (← peek) then do
        skip; nothing
      else node false false calls
    pure (key, ← flowValue [.comma, .closeBracket] calls)

/-- The value behind a colon, if there is one. -/
def flowValue (stops : List Token) : Nat → Reading Node
  | 0 => throw .nodeExpected
  | calls + 1 => do
    if (← peek) = some .value then do
      skip; nodeUnless stops false false calls
    else nothing

/-- Members between braces. -/
def flowMembers (isFirst : Bool) : Nat → Reading (List (Node × Node))
  | 0 => throw .nodeExpected
  | calls + 1 => do
    if (← peek) = some .closeBrace then do
      skip; pure []
    else
      if !isFirst then
        if (← peek) = some .comma then skip else throw .separatorExpected
      match ← peek with
      | some .closeBrace => skip; pure []
      | some .key =>
        skip
        let key ← nodeUnless [.value, .comma, .closeBrace] false false calls
        let value ← flowValue [.comma, .closeBrace] calls
        pure ((key, value) :: (← flowMembers false calls))
      | _ =>
        let key ← node false false calls
        let value ← nothing
        pure ((key, value) :: (← flowMembers false calls))

end

/-! ### The document -/

/-- Directives in front of a document; a handle is declared once, and so is the version. -/
def takeDirectives (versioned : Bool) : List Token → Reading Unit
  | .directive (.version major minor) :: rest => do
    if versioned || major ≠ 1 || (minor ≠ 1 && minor ≠ 2) then throw .badDirective
    skip
    takeDirectives true rest
  | .directive (.handle handle meaning) :: rest => do
    if (← get).handles.any fun h => h.1 = handle then throw .badDirective
    modify fun s => { s with handles := (handle, meaning) :: s.handles }
    skip
    takeDirectives versioned rest
  | _ => pure ()

/-- The handles that need no declaration. -/
def commonHandles : List (List Char × Octets) :=
  [(['!'], octets "!"), (['!', '!'], octets "tag:yaml.org,2002:")]

/-- Whether a token starts or ends a document. -/
def isBoundary : Option Token → Bool
  | none | some .documentStart | some .documentEnd | some (.directive _) => true
  | _ => false

/-- The only document of a text, if there is one. -/
def document : Reading (Option Node) := do
  let all := (← get).tokens
  let calls := 2 * all.length + 4
  if all.isEmpty then pure none
  else do
    let root ← do
      if all.head? ≠ some .documentEnd && isBoundary all.head? then do
        takeDirectives false all
        if (← peek) ≠ some .documentStart then throw .nodeExpected
        skip
        modify fun s => { s with handles := s.handles ++ commonHandles }
        if isBoundary (← peek) then nothing else node true false calls
      else do
        modify fun s => { s with handles := commonHandles }
        node true false calls
    if ((← get).tokens.dropWhile (· = .documentEnd)).isEmpty then pure (some root)
    else throw .severalDocuments

end Reading

/-- The document of a text; none if the text is empty. -/
def Document.parse (text : String) : Except Error (Option Document) := do
  let (root, s) ← Reading.document.run { tokens := ← tokens text }
  pure (root.map fun root => { root, anchored := s.anchored, events := s.events })

end Dispatch.Yaml
