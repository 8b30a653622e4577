/-
Dispatch/Json/Basic.lean

JSON documents.

Whole numbers and floats are told apart, because a document that says `1.0` and one that says
`1` are read differently where a count is expected.  An object is a list of members; a reader
keeps it in name order and lets the last of two members with one name stay (`Json.object`).
-/
import Dispatch.Table

namespace Dispatch

/-- A JSON document. -/
inductive Json where
  | null
  | bool (value : Bool)
  | int (value : Int)
  | float (value : Float)
  | str (value : String)
  | arr (items : List Json)
  | obj (members : List (String × Json))
  deriving Inhabited

namespace Json

/-- An object from members in the order they were read: sorted by name, the last of two equal
names stays. -/
def object (members : List (String × Json)) : Json := .obj (Table.ofList members).entries

/-- The member of an object. -/
def member? (name : String) : Json → Option Json
  | .obj members => Entries.lookup name members
  | _ => none

/-- A text or nothing. -/
def ofOption (f : α → Json) : Option α → Json
  | none => .null
  | some a => f a

/-- A list of texts. -/
def strings (l : List String) : Json := .arr (l.map .str)

end Json

end Dispatch
