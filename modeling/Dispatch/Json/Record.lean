/-
Dispatch/Json/Record.lean

Reading typed values from JSON.

A record may be written as an object or as the array of its fields in order.  In an object
unknown members are passed over; in an array the last fields may be left out where they have a
default, and more items than fields are refused.  A choice without content is written as its
tag, or as an object with the tag as its only name and `null` under it.
-/
import Dispatch.Json.Basic

namespace Dispatch

/-- Values that are read from JSON and written to it. -/
class Document (α : Type) where
  /-- Reads a value, if the document is one. -/
  ofJson? : Json → Option α
  /-- Writes a value. -/
  toJson : α → Json

/-- The fields of a record, by name or by place. -/
inductive Record where
  | named (members : List (String × Json))
  | placed (items : List Json)

namespace Record

/-- The fields of a document, if it can be a record of `size` fields. -/
def ofJson? (size : Nat) : Json → Option Record
  | .obj members => some (.named members)
  | .arr items => if items.length ≤ size then some (.placed items) else none
  | _ => none

/-- What is written for a field. -/
def field? (r : Record) (place : Nat) (name : String) : Option Json :=
  match r with
  | .named members => Entries.lookup name members
  | .placed items => items[place]?

/-- A field that has to be there. -/
def required (r : Record) (place : Nat) (name : String) (read : Json → Option α) : Option α :=
  (r.field? place name).bind read

/-- A field that may be left out. -/
def optional (r : Record) (place : Nat) (name : String) (default : α)
    (read : Json → Option α) : Option α :=
  match r.field? place name with
  | none => some default
  | some j => read j

end Record

namespace Json

/-- A truth value. -/
def asBool? : Json → Option Bool
  | .bool b => some b
  | _ => none

/-- A text. -/
def asStr? : Json → Option String
  | .str s => some s
  | _ => none

/-- A whole number from 0 up to, but not including, `bound`. -/
def asNatBelow? (bound : Nat) : Json → Option Nat
  | .int n => if 0 ≤ n ∧ n < bound then some n.toNat else none
  | _ => none

/-- A whole number of 32 bits. -/
def asNat32? : Json → Option Nat := asNatBelow? UInt32.size

/-- A whole number of 64 bits. -/
def asNat64? : Json → Option Nat := asNatBelow? UInt64.size

/-- The float nearest to a whole number. -/
def floatOfInt (n : Int) : Float :=
  if n < 0 then -(n.natAbs.toUInt64.toFloat) else n.toNat.toUInt64.toFloat

/-- A number, whole or not. -/
def asFloat? : Json → Option Float
  | .int n => some (floatOfInt n)
  | .float x => some x
  | _ => none

/-- Nothing, or a value. -/
def asOption? (read : Json → Option α) : Json → Option (Option α)
  | .null => some none
  | j => (read j).map some

/-- Reads every item of a list. -/
def readAll (read : α → Option β) : List α → Option (List β)
  | [] => some []
  | a :: rest => do
    let b ← read a
    let bs ← readAll read rest
    pure (b :: bs)

/-- An array of values. -/
def asList? (read : Json → Option α) : Json → Option (List α)
  | .arr items => readAll read items
  | _ => none

/-- An object of values under any names. -/
def asTable? (read : Json → Option α) : Json → Option (Table α)
  | .obj members =>
    (readAll (fun e => (read e.2).map fun v => (e.1, v)) members).map Table.ofList
  | _ => none

/-- The tag of a choice without content. -/
def asTag? : Json → Option String
  | .str s => some s
  | .obj [(tag, .null)] => some tag
  | _ => none

/-- A choice without content. -/
def asChoice? (ofTag? : String → Option α) (j : Json) : Option α := j.asTag?.bind ofTag?

end Json

end Dispatch
