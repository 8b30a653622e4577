/-
Dispatch/Proofs/Routing/Candidates.lean

The candidates of a task.

However a task is routed, there is a candidate, and every candidate is in the catalog
(`Routing.route_spec`).  No candidate comes twice, where no rule names a backend twice: the names of
a rule, the default alone and the names of the catalog have no repetition, and what is left of them
has none either.

A backend that is a candidate is healthy and capable, with two exceptions: where there is none that
is both, all of them stay (`Reason.degradedFallback`), and one that the task asks for may be down
(`Routing.fit_of_route`).
-/
import Dispatch.Proofs.Config.Validation
import Dispatch.Routing.Router

namespace Dispatch

namespace Routing

variable {r : Routing} {catalog : Catalog} {kind : TaskKind} {task : Task} {decision : Decision}

theorem contains_of_mem_names {name : String} (h : name ∈ catalog.names) :
    catalog.contains name = true := catalog.mem_names_iff.mp h

theorem names_ne_nil (h : catalog.isEmpty = false) : catalog.names ≠ [] := by
  intro hnil
  rw [Table.names, List.map_eq_nil_iff] at hnil
  rw [Table.isEmpty, hnil] at h
  cases h

/-- The applicable names are those of the rule that are in the catalog, the default, or all. -/
theorem applicable_cases (r : Routing) (catalog : Catalog) (kind : TaskKind) :
    (r.applicable catalog kind).1 = (r.preferred kind).1.filter catalog.contains ∧
      (r.applicable catalog kind).1 ≠ [] ∨
    (r.applicable catalog kind).1 = [r.defaultBackend] ∧
      catalog.contains r.defaultBackend = true ∨
    (r.applicable catalog kind).1 = catalog.names := by
  unfold applicable
  split
  next names reason hpreferred =>
    rw [hpreferred]
    simp only
    split
    · next hne => exact Or.inl ⟨rfl, by simpa using hne⟩
    · split
      · next hdefault => exact Or.inr (Or.inl ⟨rfl, hdefault⟩)
      · exact Or.inr (Or.inr rfl)

theorem contains_of_mem_applicable {name : String} (h : name ∈ (r.applicable catalog kind).1) :
    catalog.contains name = true := by
  rcases r.applicable_cases catalog kind with ⟨heq, -⟩ | ⟨heq, hdefault⟩ | heq
  · rw [heq] at h
    exact (List.mem_filter.mp h).2
  · rw [heq, List.mem_singleton] at h
    rwa [h]
  · rw [heq] at h
    exact contains_of_mem_names h

theorem applicable_ne_nil (h : catalog.isEmpty = false) : (r.applicable catalog kind).1 ≠ [] := by
  rcases r.applicable_cases catalog kind with ⟨-, hne⟩ | ⟨heq, -⟩ | heq
  · exact hne
  · rw [heq]
    exact List.cons_ne_nil _ _
  · rw [heq]
    exact names_ne_nil h

theorem nodup_preferred (hrules : r.RulesValid) (kind : TaskKind) :
    (r.preferred kind).1.Nodup := by
  unfold preferred
  cases hk : r.rules kind with
  | none => exact List.nodup_singleton _
  | some names => exact (hrules kind names hk).2

theorem nodup_applicable (hrules : r.RulesValid) : (r.applicable catalog kind).1.Nodup := by
  rcases r.applicable_cases catalog kind with ⟨heq, -⟩ | ⟨heq, -⟩ | heq
  · rw [heq]
    exact (nodup_preferred hrules kind).filter _
  · rw [heq]
    exact List.nodup_singleton _
  · rw [heq]
    exact catalog.names_nodup

/-- A backend that is routed to is the only candidate, and can do what is needed. -/
theorem routeTo_spec {name : String} {needs : Requirements}
    (h : routeTo name needs catalog = .ok decision) :
    decision.candidates = [name] ∧
      ∃ x, catalog.get? name = some x ∧ x.capabilities.satisfies needs = true := by
  unfold routeTo at h
  split at h
  · cases h
  · next x hx =>
    simp only at h
    split at h
    · next hmissing =>
      cases h
      exact ⟨rfl, x, hx, hmissing⟩
    · cases h

/-- The candidates are a backend that the task asks for, or some of the applicable names, and not
none. -/
theorem candidates_cases (h : r.route task catalog = .ok decision) :
    (∃ name, decision.candidates = [name] ∧ catalog.contains name = true) ∨
    (decision.candidates ≠ [] ∧
      decision.candidates.Sublist (r.applicable catalog task.kind).1) := by
  unfold route at h
  split at h
  · -- the task asks for a backend
    next name hname =>
    obtain ⟨heq, x, hx, -⟩ := routeTo_spec h
    exact Or.inl ⟨name, heq, by rw [Table.contains, hx]; rfl⟩
  · refine Or.inr ?_
    split at h
    · cases h
    · next hempty =>
      split at h
      next names reason happlicable =>
        rw [happlicable]
        simp only at h
        have hnames : names ≠ [] := by
          have hne : (r.applicable catalog task.kind).1 ≠ [] :=
            applicable_ne_nil (Bool.not_eq_true _ ▸ hempty)
          rwa [happlicable] at hne
        split at h
        · cases h
          exact ⟨hnames, List.Sublist.refl _⟩
        · next hsome =>
          cases h
          exact ⟨by simpa using hsome, List.filter_sublist⟩

/-- **What routing decides.**  There is a candidate, every candidate is in the catalog, and where no
rule repeats a name, no candidate is repeated. -/
theorem route_spec (h : r.route task catalog = .ok decision) :
    decision.candidates ≠ [] ∧
    (∀ name ∈ decision.candidates, catalog.contains name = true) ∧
    (r.RulesValid → decision.candidates.Nodup) := by
  rcases candidates_cases h with ⟨name, heq, hname⟩ | ⟨hne, hsub⟩
  · rw [heq]
    refine ⟨List.cons_ne_nil _ _, fun other hother => ?_, fun _ => List.nodup_singleton _⟩
    rwa [List.mem_singleton.mp hother]
  · exact ⟨hne, fun name hname => contains_of_mem_applicable (hsub.subset hname),
      fun hrules => (nodup_applicable hrules).sublist hsub⟩

theorem route_of_asked {name : String} (hasked : task.backend = some name) :
    r.route task catalog = routeTo name task.requirements catalog := by
  rw [route, hasked]

/-- Of the applicable backends those stay that are eligible, if there are any. -/
theorem eligible_of_route (hasked : task.backend = none) (h : r.route task catalog = .ok decision)
    (hreason : decision.reason ≠ .degradedFallback) {name : String}
    (hname : name ∈ decision.candidates) :
    catalog.isEligible task.requirements name = true := by
  unfold route at h
  rw [hasked] at h
  simp only at h
  by_cases hempty : catalog.isEmpty = true
  · rw [if_pos hempty] at h
    cases h
  · rw [if_neg hempty] at h
    split at h
    · cases h
      exact absurd rfl hreason
    · cases h
      exact (List.mem_filter.mp hname).2

theorem exists_of_isEligible {needs : Requirements} {name : String}
    (h : catalog.isEligible needs name = true) :
    ∃ x, catalog.get? name = some x ∧ x.capabilities.satisfies needs = true ∧
      x.health ≠ .open := by
  unfold Catalog.isEligible at h
  cases hx : catalog.get? name with
  | none => rw [hx] at h; cases h
  | some x =>
    simp only [hx, Bool.and_eq_true, decide_eq_true_eq] at h
    exact ⟨x, rfl, h.2, h.1⟩

/-- **A candidate can do what the task needs**, unless none can, and then its circuit is not open,
unless the task asks for it. -/
theorem fit_of_route (h : r.route task catalog = .ok decision)
    (hreason : decision.reason ≠ .degradedFallback) {name : String}
    (hname : name ∈ decision.candidates) :
    ∃ x, catalog.get? name = some x ∧ x.capabilities.satisfies task.requirements = true ∧
      (task.backend = none → x.health ≠ .open) := by
  cases hasked : task.backend with
  | none =>
    obtain ⟨x, hx, hcapable, hhealth⟩ :=
      exists_of_isEligible (eligible_of_route hasked h hreason hname)
    exact ⟨x, hx, hcapable, fun _ => hhealth⟩
  | some asked =>
    obtain ⟨heq, x, hx, hcapable⟩ := routeTo_spec (route_of_asked hasked ▸ h)
    rw [heq, List.mem_singleton] at hname
    subst hname
    exact ⟨x, hx, hcapable, nofun⟩

end Routing

end Dispatch
