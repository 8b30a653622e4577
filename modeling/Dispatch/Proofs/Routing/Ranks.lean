/-
Dispatch/Proofs/Routing/Ranks.lean

The ranks that backends are described with, against the order of candidates.

A descriptor lists the rank of its backend in every rule, searched for rule by rule.  The router
never reads these ranks: it walks the rule itself and leaves out who is not registered or not
ready.  Where no rule repeats a name both views agree.  A name then has one place in a rule
(`idxOf?_eq_some_iff_getElem?`), so ranks are places (`Config.mem_ranksOf_iff`); and the places of
a rule's names increase along the rule (`pairwise_places`), hence along all that is left of it.
-/
import Dispatch.Proofs.Routing.Declared

namespace Dispatch

/-! ### Places in a list without repetition -/

section

variable {names : List String} {name : String} {i : Nat}

/-- Without repetition, the first place of a name is its only one. -/
theorem idxOf?_eq_some_iff_getElem? (h : names.Nodup) :
    names.idxOf? name = some i ↔ names[i]? = some name := by
  rw [List.idxOf?_eq_some_iff, List.getElem?_eq_some_iff]
  constructor
  · rintro ⟨hi, heq, -⟩
    exact ⟨hi, heq⟩
  · rintro ⟨hi, heq⟩
    refine ⟨hi, heq, fun j hj hsame => ?_⟩
    exact Nat.ne_of_lt hj (h.getElem_inj_iff.mp (hsame.trans heq.symm))

/-- Of two names the one that comes first has the smaller place. -/
theorem pairwise_places (h : names.Nodup) :
    names.Pairwise fun a b => ∀ i j : Nat, names[i]? = some a → names[j]? = some b → i < j := by
  rw [List.pairwise_iff_getElem]
  intro m n hm hn hmn i j hi hj
  obtain ⟨_, hi⟩ := List.getElem?_eq_some_iff.mp hi
  obtain ⟨_, hj⟩ := List.getElem?_eq_some_iff.mp hj
  rwa [h.getElem_inj_iff.mp hi, h.getElem_inj_iff.mp hj]

end

/-! ### Ranks are places -/

namespace Config

variable {c : Config} {backend : String}

/-- The ranks of a backend are of the kinds whose rules name it, in the order of rule tables. -/
theorem map_kind_ranksOf (c : Config) (backend : String) :
    (c.ranksOf backend).map Rank.kind
      = TaskKind.byName.filter fun kind =>
          ((c.routing.rules kind).bind fun names => names.idxOf? backend).isSome := by
  rw [ranksOf, Routing.ruleList, List.filterMap_filterMap, List.map_filterMap,
    ← List.filterMap_eq_filter]
  refine List.filterMap_congr fun kind _ => ?_
  cases hrule : c.routing.rules kind with
  | none => simp [hrule, Option.guard]
  | some names => cases hplace : names.idxOf? backend <;> simp [hrule, hplace, Option.guard]

theorem mem_ranksOf_iff (hrules : c.routing.RulesValid) {kind : TaskKind} {rank : Nat} :
    { kind, rank } ∈ c.ranksOf backend ↔
      ∃ names, c.routing.rules kind = some names ∧ names[rank]? = some backend := by
  rw [ranksOf, List.mem_filterMap]
  constructor
  · rintro ⟨⟨k, names⟩, hrule, hrank⟩
    obtain ⟨i, hi, heq⟩ := Option.map_eq_some_iff.mp hrank
    cases heq
    have hrule := Routing.mem_ruleList_iff.mp hrule
    exact ⟨names, hrule, (idxOf?_eq_some_iff_getElem? (hrules _ _ hrule).2).mp hi⟩
  · rintro ⟨names, hrule, hplace⟩
    have hi := (idxOf?_eq_some_iff_getElem? (hrules _ _ hrule).2).mpr hplace
    exact ⟨(kind, names), Routing.mem_ruleList_iff.mpr hrule,
      Option.map_eq_some_iff.mpr ⟨rank, hi, rfl⟩⟩

end Config

/-- The backend under a name is described with a rank for a kind. -/
def Catalog.Ranks (catalog : Catalog) (name : String) (kind : TaskKind) (rank : Nat) : Prop :=
  ∃ x, catalog.get? name = some x ∧ { kind, rank } ∈ x.ranks

/-- The router is told the ranks of the backends that it is told of, and these are the places in
the rule. -/
theorem Config.ranks_observed_iff {c : Config} (hrules : c.routing.RulesValid)
    {kind : TaskKind} {rule : List String} (hrule : c.routing.rules kind = some rule)
    {health : String → Health} {name : String} {rank : Nat} :
    (Catalog.ofDescriptors (c.observed health)).Ranks name kind rank ↔
      (Catalog.ofDescriptors (c.observed health)).contains name = true ∧
        rule[rank]? = some name := by
  have hplace : { kind, rank } ∈ c.ranksOf name ↔ rule[rank]? = some name := by
    rw [mem_ranksOf_iff hrules, hrule]
    simp only [Option.some.injEq, exists_eq_left']
  rw [Catalog.Ranks, Table.contains, get?_observed, ← hplace]
  cases (c.backends.get? name).filter BackendConfig.enabled with
  | none => simp
  | some b => simp

/-! ### Ranks and candidates -/

namespace Routing

variable {r : Routing} {catalog : Catalog} {task : Task} {decision : Decision} {kind : TaskKind}

/-- Names that apply by a rule are names of the rule, in their order. -/
theorem Applies.exists_rule {names : List String}
    (h : r.Applies catalog task.kind names (.rule kind)) :
    ∃ rule, r.rules kind = some rule ∧ names.Sublist rule := by
  cases h with
  | rule hrule _ => exact ⟨_, hrule, List.filter_sublist⟩

/-- The candidates of a task that is routed by a rule are names of the rule, in their order. -/
theorem exists_rule_of_reason (h : r.route task catalog = .ok decision)
    (hreason : decision.reason = .rule kind) :
    ∃ rule, r.rules kind = some rule ∧ decision.candidates.Sublist rule := by
  cases hasked : task.backend with
  | some name =>
    -- a task that asks for a backend is routed for that reason
    rw [route_of_asked hasked, routeTo_eq] at h
    split at h
    · cases h
    · split at h
      · cases h
        cases hreason
      · cases h
  | none =>
    cases hempty : catalog.isEmpty with
    | true =>
      rw [route_of_isEmpty hasked hempty] at h
      cases h
    | false =>
      obtain ⟨names, reason, happlies⟩ : ∃ names reason, r.Applies catalog task.kind names reason :=
        ⟨_, _, applies_iff.mpr rfl⟩
      obtain ⟨decision', hroute, hdecided⟩ := decided_of_applies hasked hempty happlies
      obtain rfl := Except.ok.inj (hroute.symm.trans h)
      have hready := hdecided.ready_of_not_degraded (by rw [hreason]; exact nofun)
      obtain rfl : reason = .rule kind := hready.2.symm.trans hreason
      obtain ⟨rule, hrule, hsub⟩ := happlies.exists_rule
      exact ⟨rule, hrule, hdecided.inOrder.trans hsub⟩

/-- **Ranks are the places in the rules, and candidates are in the order of their ranks.**  For
every valid configuration.  A backend has at most one rank for a kind, the kinds are in the order of
rule tables, and the rank for a kind is the place that the backend has in the kind's rule.
Whatever the health of the declared backends, each candidate of a task that is routed by a rule is
described with a rank for the rule's kind, and along the candidates these ranks strictly
increase. -/
theorem ranks_follow_rules {c : Config} (hvalid : c.validate = .ok ()) :
    (∀ backend,
      ((c.ranksOf backend).map Rank.kind).Nodup ∧
      ((c.ranksOf backend).map Rank.kind).Sublist TaskKind.byName ∧
      ∀ kind rank, { kind, rank } ∈ c.ranksOf backend ↔
        ∃ rule, c.routing.rules kind = some rule ∧ rule[rank]? = some backend) ∧
    ∀ (health : String → Health) (task : Task) (decision : Decision) (kind : TaskKind),
      let catalog := Catalog.ofDescriptors (c.observed health)
      c.routing.route task catalog = .ok decision → decision.reason = .rule kind →
        (∀ name ∈ decision.candidates, ∃ rank, catalog.Ranks name kind rank) ∧
        decision.candidates.Pairwise fun a b =>
          ∀ i j, catalog.Ranks a kind i → catalog.Ranks b kind j → i < j := by
  have hrules := (Config.validate_eq_ok_iff.mp hvalid).rules
  constructor
  · intro backend
    rw [Config.map_kind_ranksOf]
    have hkinds : TaskKind.byName.Nodup := by decide
    exact ⟨hkinds.filter _, List.filter_sublist, fun _ _ => Config.mem_ranksOf_iff hrules⟩
  · intro health task decision kind catalog hroute hreason
    obtain ⟨rule, hrule, hsub⟩ := exists_rule_of_reason hroute hreason
    have hranks {name : String} {rank : Nat} : catalog.Ranks name kind rank ↔
        catalog.contains name = true ∧ rule[rank]? = some name :=
      Config.ranks_observed_iff hrules hrule
    -- both parts carry over from the rule to the candidates, a sublist of it
    refine ⟨fun name hname => ?_, ?_⟩
    · obtain ⟨rank, hrank⟩ := List.mem_iff_getElem?.mp (hsub.subset hname)
      exact ⟨rank, hranks.mpr ⟨(route_spec hroute).2.1 name hname, hrank⟩⟩
    · exact ((pairwise_places (hrules kind rule hrule).2).sublist hsub).imp
        fun hlt i j hi hj => hlt i j (hranks.mp hi).2 (hranks.mp hj).2

namespace Example

/-- Two rules that name `b`, at different places; `c` is disabled. -/
def ranked : Config where
  routing := { defaultBackend := "a" : Routing }.withRule .codeEdit ["b", "a"]
    |>.withRule .research ["a", "c", "d", "b"]
  backends := Table.ofList [
    ("a", { capabilities := { maxTokens := 1000 } }),
    ("b", { capabilities := { maxTokens := 1000 } }),
    ("c", { capabilities := { maxTokens := 1000 }, enabled := false }),
    ("d", { capabilities := { maxTokens := 1000 } })]

end Example

open Example in
/-- The rank of `b` for research is its place in the rule, the last of four.  Of the names before it
one is disabled and one is down, and the ranks of the two candidates that are left increase. -/
theorem ranks_of_candidates_left :
    let health (name : String) : Health := if name = "d" then .open else .halfOpen
    let catalog := Catalog.ofDescriptors (ranked.observed health)
    let decision : Decision := { candidates := ["a", "b"], reason := .rule .research }
    ranked.validate = .ok () ∧
    { kind := .research, rank := 3 } ∈ ranked.ranksOf "b" ∧
    ranked.routing.route (taskOf .research) catalog = .ok decision ∧
    (∀ name ∈ decision.candidates, ∃ rank, catalog.Ranks name .research rank) ∧
    decision.candidates.Pairwise fun a b =>
      ∀ i j, catalog.Ranks a .research i → catalog.Ranks b .research j → i < j := by
  intro health catalog decision
  have hvalid : ranked.validate = .ok () := by decide +kernel
  have hroute : ranked.routing.route (taskOf .research) catalog = .ok decision := by decide +kernel
  obtain ⟨hranks, hcandidates⟩ := ranks_follow_rules hvalid
  obtain ⟨hall, hincrease⟩ := hcandidates health (taskOf .research) decision .research hroute rfl
  exact ⟨hvalid, ((hranks "b").2.2 _ _).mpr ⟨_, rfl, rfl⟩, hroute, hall, hincrease⟩

end Routing

end Dispatch
