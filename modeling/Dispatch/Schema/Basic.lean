/-
Dispatch/Schema/Basic.lean

Schemas of JSON documents.

A schema is a list of rules, and a rule judges only values of its own type: a rule about texts
says nothing of a number.  Checking reports every violation with the place where it stands, a
pointer from the root (`Violation`); a document is valid when there is none.
-/
import Dispatch.Json.Exact
import Dispatch.Json.Printer

namespace Dispatch

namespace Schema

/-- Types of JSON values, as schemas tell them apart. -/
inductive ValueType where
  | object | array | string | boolean | integer | number
  deriving DecidableEq, Repr

/-- The name of a type. -/
def ValueType.name : ValueType → String
  | object => "object"
  | array => "array"
  | string => "string"
  | boolean => "boolean"
  | integer => "integer"
  | number => "number"

/-- Whether a value has a type; a number without a fraction is an integer however it is
written. -/
def ValueType.holds : ValueType → Json → Bool
  | object, .obj _ => true
  | array, .arr _ => true
  | string, .str _ => true
  | boolean, .bool _ => true
  | number, j => j.quotient?.isSome
  | integer, j => j.quotient?.any Quotient.isWhole
  | _, _ => false

/-- A form that texts can have, with the way it is written in messages. -/
structure Pattern where
  source : String
  accepts : String → Bool

/-- A rule of a schema. -/
inductive Rule where
  | type (t : ValueType)
  /-- A member that has to be there. -/
  | required (name : String)
  /-- The members that may be there, each with its own rules. -/
  | closed (known : List (String × List Rule))
  /-- Rules for the value of every member. -/
  | eachMember (rules : List Rule)
  /-- Rules for the name of every member. -/
  | eachName (rules : List Rule)
  | eachItem (rules : List Rule)
  /-- An array with an item. -/
  | someItem
  /-- An array without two equal items. -/
  | distinctItems
  | oneOf (texts : List String)
  /-- A text with a character. -/
  | someCharacter
  | matching (p : Pattern)
  | atLeast (n : Int)
  | above (n : Int)

/-- What a rule finds wrong with a value. -/
inductive Cause where
  | type (t : ValueType)
  | required (name : String)
  | unexpected (names : List String)
  | tooFewItems
  | repeatedItems
  | notOneOf (texts : List String)
  | tooShort
  | notMatching (source : String)
  | below (n : Int)
  | notAbove (n : Int)

/-- One step from a value to a part of it. -/
inductive Step where
  | member (name : String)
  | item (place : Nat)

/-- A value that breaks a rule, and where it stands. -/
structure Violation where
  cause : Cause
  value : Json
  /-- Steps from the root, the last first. -/
  path : List Step

/-! ### Messages -/

/-- A name in a pointer: `~` and `/` are escaped. -/
def escapeName (name : String) : String :=
  String.ofList (name.toList.flatMap fun c =>
    if c = '~' then ['~', '0'] else if c = '/' then ['~', '1'] else [c])

/-- One step of a pointer. -/
def Step.text : Step → String
  | member name => "/" ++ escapeName name
  | item place => "/" ++ toString place

/-- The pointer of a path. -/
def pointer (path : List Step) : String := String.join (path.reverse.map Step.text)

/-- What is wrong with a value. -/
def Cause.text (value : Json) : Cause → String
  | .type t => value.compact ++ " is not of type \"" ++ t.name ++ "\""
  | .required name => Json.quote name ++ " is a required property"
  | .unexpected names =>
    "Additional properties are not allowed ("
      ++ ", ".intercalate (names.map fun n => "'" ++ n ++ "'")
      ++ (if names.length = 1 then " was" else " were") ++ " unexpected)"
  | .tooFewItems => value.compact ++ " has less than 1 item"
  | .repeatedItems => value.compact ++ " has non-unique elements"
  | .notOneOf texts => value.compact ++ " is not one of " ++ (Json.strings texts).compact
  | .tooShort => value.compact ++ " is shorter than 1 character"
  | .notMatching source => value.compact ++ " does not match \"" ++ source ++ "\""
  | .below n => value.compact ++ " is less than the minimum of " ++ toString n
  | .notAbove n => value.compact ++ " is less than or equal to the minimum of " ++ toString n

/-- What is wrong, and where. -/
def Violation.message (v : Violation) : String := v.cause.text v.value ++ " at " ++ pointer v.path

/-! ### Checking -/

/-- A violation, if a condition fails. -/
def report (holds : Bool) (cause : Cause) (value : Json) (path : List Step) : List Violation :=
  if holds then [] else [{ cause, value, path }]

mutual

/-- The violations of one rule. -/
def Rule.check (rule : Rule) (path : List Step) (value : Json) : List Violation :=
  match rule, value with
  | .type t, v => report (t.holds v) (.type t) v path
  | .required name, .obj members =>
    report (Entries.lookup name members).isSome (.required name) (.obj members) path
  | .closed known, .obj members =>
    let unexpected := (members.map Prod.fst).filter fun n => !(known.map Prod.fst).contains n
    report unexpected.isEmpty (.unexpected unexpected) (.obj members) path
      ++ checkKnown known path members
  | .eachMember rules, .obj members =>
    members.flatMap fun m => checkRules rules (.member m.1 :: path) m.2
  | .eachName rules, .obj members =>
    members.flatMap fun m => checkRules rules path (.str m.1)
  | .eachItem rules, .arr items =>
    items.zipIdx.flatMap fun i => checkRules rules (.item i.2 :: path) i.1
  | .someItem, .arr items => report (!items.isEmpty) .tooFewItems (.arr items) path
  | .distinctItems, .arr items => report (Json.distinct items) .repeatedItems (.arr items) path
  | .oneOf texts, .str s => report (texts.contains s) (.notOneOf texts) (.str s) path
  | .someCharacter, .str s => report (!s.isEmpty) .tooShort (.str s) path
  | .matching p, .str s => report (p.accepts s) (.notMatching p.source) (.str s) path
  | .atLeast n, v =>
    report (!(v.quotient?.any fun q => q.below n)) (.below n) v path
  | .above n, v =>
    report (!(v.quotient?.any fun q => q.below n || q.same ⟨n, 1⟩)) (.notAbove n) v path
  | _, _ => []

/-- The violations of a list of rules. -/
def checkRules (rules : List Rule) (path : List Step) (value : Json) : List Violation :=
  match rules with
  | [] => []
  | r :: rest => r.check path value ++ checkRules rest path value

/-- The violations of the members that have rules. -/
def checkKnown (known : List (String × List Rule)) (path : List Step)
    (members : List (String × Json)) : List Violation :=
  match known with
  | [] => []
  | (name, rules) :: rest =>
    (match Entries.lookup name members with
      | none => []
      | some v => checkRules rules (.member name :: path) v)
    ++ checkKnown rest path members

end

end Schema

/-- A schema: every rule has to hold. -/
abbrev Schema := List Schema.Rule

namespace Schema

/-- Everything that is wrong with a document. -/
def violations (s : Schema) (document : Json) : List Violation := checkRules s [] document

/-- Whether nothing is wrong with a document. -/
def valid (s : Schema) (document : Json) : Bool := (s.violations document).isEmpty

/-- The messages of everything that is wrong, in the order of texts. -/
def messages (s : Schema) (document : Json) : List String :=
  ((s.violations document).map Violation.message).mergeSort (· ≤ ·)

end Schema

end Dispatch
