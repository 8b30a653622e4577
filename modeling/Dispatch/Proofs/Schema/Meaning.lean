/-
Dispatch/Proofs/Schema/Meaning.lean

What schemas say.

Checking walks through a document and collects violations, each with its place.  `RulesHold` says
what the rules of a schema mean, without places: a document is valid exactly if every rule holds of
it (`valid_iff`).  The two walk along the same recursion, so the proof is by the cases of a rule.
-/
import Dispatch.Schema.Basic

namespace Dispatch.Schema

/-! ### Types of values -/

theorem holds_object_iff {v : Json} :
    ValueType.object.holds v = true ↔ ∃ members, v = .obj members := by
  cases v with
  | obj members => exact iff_of_true rfl ⟨members, rfl⟩
  | _ => exact iff_of_false nofun nofun

theorem holds_array_iff {v : Json} : ValueType.array.holds v = true ↔ ∃ items, v = .arr items := by
  cases v with
  | arr items => exact iff_of_true rfl ⟨items, rfl⟩
  | _ => exact iff_of_false nofun nofun

theorem holds_string_iff {v : Json} : ValueType.string.holds v = true ↔ ∃ s, v = .str s := by
  cases v with
  | str s => exact iff_of_true rfl ⟨s, rfl⟩
  | _ => exact iff_of_false nofun nofun

theorem holds_boolean_iff {v : Json} : ValueType.boolean.holds v = true ↔ ∃ b, v = .bool b := by
  cases v with
  | bool b => exact iff_of_true rfl ⟨b, rfl⟩
  | _ => exact iff_of_false nofun nofun

theorem holds_number (v : Json) : ValueType.number.holds v = v.quotient?.isSome := by
  cases v <;> rfl

theorem holds_integer (v : Json) :
    ValueType.integer.holds v = v.quotient?.any Quotient.isWhole := by
  cases v <;> rfl

/-! ### Rules -/

mutual

/-- What a rule says of a value. -/
def Rule.Holds (rule : Rule) (value : Json) : Prop :=
  match rule, value with
  | .type t, v => t.holds v = true
  | .required name, .obj members => ∃ v, Entries.lookup name members = some v
  | .closed known, .obj members =>
    (∀ m ∈ members, m.1 ∈ known.map Prod.fst) ∧ KnownHold known members
  | .eachMember rules, .obj members => ∀ m ∈ members, RulesHold rules m.2
  | .eachName rules, .obj members => ∀ m ∈ members, RulesHold rules (.str m.1)
  | .eachItem rules, .arr items => ∀ item ∈ items, RulesHold rules item
  | .someItem, .arr items => items ≠ []
  | .distinctItems, .arr items => Json.distinct items = true
  | .oneOf texts, .str s => s ∈ texts
  | .someCharacter, .str s => s ≠ ""
  | .matching p, .str s => p.accepts s = true
  | .atLeast n, v => ∀ q, v.quotient? = some q → q.below n = false
  | .above n, v => ∀ q, v.quotient? = some q → q.below n = false ∧ q.same ⟨n, 1⟩ = false
  | _, _ => True

/-- What a list of rules says of a value. -/
def RulesHold (rules : List Rule) (value : Json) : Prop :=
  match rules with
  | [] => True
  | r :: rest => r.Holds value ∧ RulesHold rest value

/-- What is said of the members that have rules. -/
def KnownHold (known : List (String × List Rule)) (members : List (String × Json)) : Prop :=
  match known with
  | [] => True
  | (name, rules) :: rest =>
    (∀ v, Entries.lookup name members = some v → RulesHold rules v) ∧ KnownHold rest members

end

theorem report_eq_nil_iff {holds : Bool} {cause : Cause} {value : Json} {path : List Step} :
    report holds cause value path = [] ↔ holds = true := by
  cases holds with
  | true => exact iff_of_true rfl rfl
  | false => exact iff_of_false nofun nofun

mutual

/-- A rule reports nothing exactly if it holds. -/
theorem Rule.check_eq_nil_iff (rule : Rule) (path : List Step) (value : Json) :
    rule.check path value = [] ↔ rule.Holds value := by
  cases rule with
  | type t => rw [Rule.check, report_eq_nil_iff, Rule.Holds]
  | required name =>
    cases value with
    | obj members => rw [Rule.check, report_eq_nil_iff, Option.isSome_iff_exists, Rule.Holds]
    | _ => simp [Rule.check, Rule.Holds]
  | closed known =>
    cases value with
    | obj members =>
      rw [Rule.check, List.append_eq_nil_iff, report_eq_nil_iff, List.isEmpty_iff,
        List.filter_eq_nil_iff, checkKnown_eq_nil_iff known path members, Rule.Holds]
      simp
    | _ => simp [Rule.check, Rule.Holds]
  | eachMember rules =>
    cases value with
    | obj members =>
      rw [Rule.check, List.flatMap_eq_nil_iff, Rule.Holds]
      exact forall₂_congr fun m _ => checkRules_eq_nil_iff rules _ m.2
    | _ => simp [Rule.check, Rule.Holds]
  | eachName rules =>
    cases value with
    | obj members =>
      rw [Rule.check, List.flatMap_eq_nil_iff, Rule.Holds]
      exact forall₂_congr fun m _ => checkRules_eq_nil_iff rules _ (.str m.1)
    | _ => simp [Rule.check, Rule.Holds]
  | eachItem rules =>
    cases value with
    | arr items =>
      rw [Rule.check, List.flatMap_eq_nil_iff, Rule.Holds]
      refine Iff.trans (forall₂_congr fun i _ => checkRules_eq_nil_iff rules _ i.1) ?_
      refine ⟨fun h item hitem => ?_, fun h i hi => h i.1 (List.fst_mem_of_mem_zipIdx hi)⟩
      obtain ⟨n, hn, rfl⟩ := List.mem_iff_getElem.mp hitem
      exact h (items[n], n) (List.mk_mem_zipIdx_iff_getElem?.mpr (List.getElem?_eq_getElem hn))
    | _ => simp [Rule.check, Rule.Holds]
  | someItem =>
    cases value with
    | arr items => rw [Rule.check, report_eq_nil_iff, Rule.Holds]; simp
    | _ => simp [Rule.check, Rule.Holds]
  | distinctItems =>
    cases value with
    | arr items => rw [Rule.check, report_eq_nil_iff, Rule.Holds]
    | _ => simp [Rule.check, Rule.Holds]
  | oneOf texts =>
    cases value with
    | str s => rw [Rule.check, report_eq_nil_iff, Rule.Holds, List.contains_iff_mem]
    | _ => simp [Rule.check, Rule.Holds]
  | someCharacter =>
    cases value with
    | str s => rw [Rule.check, report_eq_nil_iff, Rule.Holds]; simp
    | _ => simp [Rule.check, Rule.Holds]
  | matching p =>
    cases value with
    | str s => rw [Rule.check, report_eq_nil_iff, Rule.Holds]
    | _ => simp [Rule.check, Rule.Holds]
  | atLeast n =>
    rw [Rule.check, report_eq_nil_iff, Rule.Holds]
    cases value.quotient? <;> simp
  | above n =>
    rw [Rule.check, report_eq_nil_iff, Rule.Holds]
    cases value.quotient? <;> simp

theorem checkRules_eq_nil_iff (rules : List Rule) (path : List Step) (value : Json) :
    checkRules rules path value = [] ↔ RulesHold rules value := by
  match rules with
  | [] => simp [checkRules, RulesHold]
  | r :: rest =>
    rw [checkRules, List.append_eq_nil_iff, Rule.check_eq_nil_iff r path value,
      checkRules_eq_nil_iff rest path value, RulesHold]

theorem checkKnown_eq_nil_iff (known : List (String × List Rule)) (path : List Step)
    (members : List (String × Json)) :
    checkKnown known path members = [] ↔ KnownHold known members := by
  match known with
  | [] => simp [checkKnown, KnownHold]
  | (name, rules) :: rest =>
    rw [checkKnown, List.append_eq_nil_iff, checkKnown_eq_nil_iff rest path members, KnownHold]
    refine and_congr_left fun _ => ?_
    cases Entries.lookup name members with
    | none => simp
    | some v => simpa using checkRules_eq_nil_iff rules _ v

end

/-- **A document is valid exactly if every rule holds of it.** -/
theorem valid_iff {s : Schema} {document : Json} :
    s.valid document = true ↔ RulesHold s document := by
  rw [valid, List.isEmpty_iff, violations, checkRules_eq_nil_iff]

end Dispatch.Schema
