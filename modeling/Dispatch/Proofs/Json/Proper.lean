/-
Dispatch/Proofs/Json/Proper.lean

Documents as readers make them.

A reader keeps the members of an object in name order, without a repeated name, and a whole number
stays whole only if it fits 64 bits, with or without a sign (`Proper`).
-/
import Dispatch.Json.Basic
import Mathlib.Algebra.Group.Int.Defs

namespace Dispatch.Json

mutual

/-- Members are in name order, and whole numbers fit 64 bits. -/
def Proper : Json → Prop
  | .int n => -(2 ^ 63) ≤ n ∧ n < 2 ^ 64
  | .arr items => ProperItems items
  | .obj members => Entries.Sorted members ∧ ProperMembers members
  | .null | .bool _ | .float _ | .str _ => True

/-- Every item is proper. -/
def ProperItems : List Json → Prop
  | [] => True
  | j :: rest => Proper j ∧ ProperItems rest

/-- Every member is proper. -/
def ProperMembers : List (String × Json) → Prop
  | [] => True
  | (_, j) :: rest => Proper j ∧ ProperMembers rest

end

theorem properMembers_iff {members : List (String × Json)} :
    ProperMembers members ↔ ∀ m ∈ members, m.2.Proper := by
  induction members with
  | nil => simp [ProperMembers]
  | cons m rest ih =>
    obtain ⟨name, j⟩ := m
    simp [ProperMembers, ih]

variable {members : List (String × Json)} {j : Json}

theorem member?_eq_some_iff {v : Json} {name : String} :
    v.member? name = some j ↔
      ∃ members, v = .obj members ∧ Entries.lookup name members = some j := by
  cases v <;> simp [member?]

/-- What stands under a name in a proper document is proper. -/
theorem Proper.member? {v : Json} (h : v.Proper) (name : String) (hj : v.member? name = some j) :
    j.Proper := by
  obtain ⟨members, rfl, hlookup⟩ := member?_eq_some_iff.mp hj
  rw [Proper] at h
  exact properMembers_iff.mp h.2 _ (Entries.mem_of_lookup_eq_some hlookup)

theorem Proper.sorted (h : (Json.obj members).Proper) : Entries.Sorted members := by
  rw [Proper] at h
  exact h.1

end Dispatch.Json
