/-
Dispatch/Proofs/Routing/Consulted.lean

What routing reads of a catalog.

A task that asks for a backend is decided by the entry of that backend, and any other task by the
entries of the default and of the names in the rule of its kind.  These are the names that routing
consults (`Routing.consulted`).  At two places it looks at the catalog as a whole: it refuses to
route over an empty one, and it falls back to everything that is registered.  Neither is reached
while one of the consulted names is registered.  So two catalogs that agree on the consulted names
route a task alike, whatever else they hold (`Routing.route_congr`).

A catalog is made by inserting descriptors one after another, and what it holds under a name is the
last descriptor of that name (`Catalog.get?_ofDescriptors`).  The order of descriptors with
different names, and those that a later one replaces, are therefore not seen either.
-/
import Mathlib.Data.List.Induction
import Dispatch.Proofs.Routing.Rules

namespace Dispatch

/-! ### Catalogs from insertions -/

namespace Catalog

/-- The descriptor that was inserted last under a name. -/
def latest? (inserted : List Descriptor) (name : String) : Option Descriptor :=
  inserted.reverse.find? fun x => x.name = name

theorem ofDescriptors_concat (inserted : List Descriptor) (x : Descriptor) :
    ofDescriptors (inserted ++ [x]) = (ofDescriptors inserted).insert x.name x := by
  simp [ofDescriptors, Table.ofList]

/-- A descriptor takes the place of an earlier one with its name. -/
theorem get?_ofDescriptors (inserted : List Descriptor) (name : String) :
    (ofDescriptors inserted).get? name = latest? inserted name := by
  induction inserted using List.reverseRecOn with
  | nil => rfl
  | append_singleton inserted x ih =>
    have hlatest : latest? (inserted ++ [x]) name
        = if x.name = name then some x else latest? inserted name := by
      by_cases hx : x.name = name <;> simp [latest?, hx]
    rw [ofDescriptors_concat, Table.get?_insert, ih, hlatest]
    exact if_congr eq_comm rfl rfl

/-- A backend is registered once something is inserted under its name. -/
theorem contains_ofDescriptors_iff {inserted : List Descriptor} {name : String} :
    (ofDescriptors inserted).contains name = true ↔ ∃ x ∈ inserted, x.name = name := by
  rw [Table.contains, get?_ofDescriptors, latest?, List.find?_isSome]
  simp only [List.mem_reverse, decide_eq_true_eq]

end Catalog

/-! ### Catalogs that agree -/

namespace Routing

variable {r : Routing} {catalog catalog' : Catalog} {kind : TaskKind} {task : Task}

/-- The names that routing mentions for a kind: the default, and those of the kind's rule. -/
def mentioned (r : Routing) (kind : TaskKind) : List String :=
  r.defaultBackend :: (r.rules kind).getD []

/-- The names whose entries decide where a task goes. -/
def consulted (r : Routing) (task : Task) : List String :=
  match task.backend with
  | some name => [name]
  | none => r.mentioned task.kind

theorem mem_mentioned_iff {name : String} : name ∈ r.mentioned kind ↔
    name = r.defaultBackend ∨ ∃ names, r.rules kind = some names ∧ name ∈ names := by
  rw [mentioned, List.mem_cons]
  cases r.rules kind with
  | none => simp
  | some names => simp

theorem mem_mentioned_of_rule {names : List String} (hrule : r.rules kind = some names)
    {name : String} (hname : name ∈ names) : name ∈ r.mentioned kind :=
  mem_mentioned_iff.mpr (Or.inr ⟨names, hrule, hname⟩)

/-- Where no rule names a registered backend but something that is mentioned is registered, that is
the default. -/
theorem contains_default_of_unruled (hunruled : r.Unruled catalog kind)
    (hsome : ∃ name ∈ r.mentioned kind, catalog.contains name = true) :
    catalog.contains r.defaultBackend = true := by
  obtain ⟨name, hname, hin⟩ := hsome
  rcases mem_mentioned_iff.mp hname with rfl | ⟨names, hrule, hname⟩
  · exact hin
  · exact absurd hin (by simp [hunruled names hrule name hname])

/-- While something that is mentioned is registered, the applicable names are among the mentioned
ones, and which they are shows in any catalog that agrees on those. -/
theorem applicable_congr
    (hagree : ∀ name ∈ r.mentioned kind, catalog.contains name = catalog'.contains name)
    (hsome : ∃ name ∈ r.mentioned kind, catalog.contains name = true) :
    r.applicable catalog kind = r.applicable catalog' kind ∧
      ∀ name ∈ (r.applicable catalog kind).1, name ∈ r.mentioned kind := by
  by_cases hunruled : r.Unruled catalog kind
  · -- the default is there, so the fallback to all that is registered is not reached
    have hdefault := contains_default_of_unruled hunruled hsome
    have hunruled' : r.Unruled catalog' kind := fun names hrule name hname =>
      (hagree name (mem_mentioned_of_rule hrule hname)).symm.trans
        (hunruled names hrule name hname)
    have hdefault' : catalog'.contains r.defaultBackend = true :=
      (hagree _ List.mem_cons_self).symm.trans hdefault
    rw [applicable_of_unruled hunruled, applicable_of_unruled hunruled', if_pos hdefault,
      if_pos hdefault']
    exact ⟨rfl, fun name hname => List.mem_singleton.mp hname ▸ List.mem_cons_self⟩
  · -- the rule has a registered name, and the two catalogs leave the same of it
    obtain ⟨names, hrule, name, hname, hin⟩ : ∃ names, r.rules kind = some names ∧
        ∃ name ∈ names, catalog.contains name = true := by simpa [Unruled] using hunruled
    have hfilter : names.filter catalog.contains = names.filter catalog'.contains :=
      List.filter_congr fun other hother => hagree other (mem_mentioned_of_rule hrule hother)
    have hin' : catalog'.contains name = true :=
      (hagree name (mem_mentioned_of_rule hrule hname)).symm.trans hin
    rw [applicable_of_rule hrule ⟨name, hname, hin⟩, applicable_of_rule hrule ⟨name, hname, hin'⟩,
      hfilter]
    exact ⟨rfl, fun other hother => mem_mentioned_of_rule hrule (List.mem_filter.mp hother).1⟩

/-- A task that asks for no backend goes the same way over catalogs that agree on what is mentioned
for its kind, while some of that is registered. -/
theorem route_congr_of_not_asked (hasked : task.backend = none)
    (hagree : ∀ name ∈ r.mentioned task.kind, catalog.get? name = catalog'.get? name)
    (hsome : ∃ name ∈ r.mentioned task.kind, catalog.contains name = true) :
    r.route task catalog = r.route task catalog' := by
  have hcontains : ∀ name ∈ r.mentioned task.kind,
      catalog.contains name = catalog'.contains name := fun name hname => by
    rw [Table.contains, Table.contains, hagree name hname]
  obtain ⟨happlicable, hmentioned⟩ := applicable_congr hcontains hsome
  have heligible : (r.applicable catalog task.kind).1.filter (catalog.isEligible task.requirements)
      = (r.applicable catalog task.kind).1.filter (catalog'.isEligible task.requirements) :=
    List.filter_congr fun name hname => by
      rw [Catalog.isEligible, Catalog.isEligible, hagree name (hmentioned name hname)]
  -- neither catalog is empty
  obtain ⟨name, hname, hin⟩ := hsome
  have hempty := Table.isEmpty_eq_false_of_contains hin
  have hempty' := Table.isEmpty_eq_false_of_contains ((hcontains name hname).symm.trans hin)
  simp only [route, hasked, hempty, hempty', ← happlicable, heligible]

/-- A task that asks for a backend goes the same way over catalogs that agree on that one. -/
theorem routeTo_congr {name : String} (h : catalog.get? name = catalog'.get? name)
    (needs : Requirements) : routeTo name needs catalog = routeTo name needs catalog' := by
  rw [routeTo, routeTo, h]

/-- Routing reads nothing of a catalog but the entries that it consults, while one of them is
there. -/
theorem route_congr (hagree : ∀ name ∈ r.consulted task, catalog.get? name = catalog'.get? name)
    (hsome : task.backend = none → ∃ name ∈ r.consulted task, catalog.contains name = true) :
    r.route task catalog = r.route task catalog' := by
  unfold consulted at hagree hsome
  cases hasked : task.backend with
  | some name =>
    rw [route_of_asked hasked, route_of_asked hasked]
    simp only [hasked] at hagree
    exact routeTo_congr (hagree name List.mem_cons_self) _
  | none =>
    simp only [hasked] at hagree hsome
    exact route_congr_of_not_asked hasked hagree (hsome trivial)

/-- **Unrelated backends are not seen.**  For every router and task.  What is consulted is the
backend that the task asks for, or, if it asks for none, the default and the names in the rule of
its kind.  Two catalogs that hold the same under these names decide the task alike, however they
differ elsewhere, where one of the names is registered or the task asks for a backend.  So do two
catalogs that were made by inserting descriptors, in whatever order and however many of one name,
if the descriptors that were inserted last under these names are the same. -/
theorem unrelated_unseen (r : Routing) (task : Task) :
    (∀ catalog catalog' : Catalog,
      (∀ name ∈ r.consulted task, catalog.get? name = catalog'.get? name) →
      (task.backend = none → ∃ name ∈ r.consulted task, catalog.contains name = true) →
      r.route task catalog = r.route task catalog') ∧
    ∀ inserted inserted' : List Descriptor,
      (∀ name ∈ r.consulted task,
        Catalog.latest? inserted name = Catalog.latest? inserted' name) →
      (task.backend = none → ∃ x ∈ inserted, x.name ∈ r.consulted task) →
      r.route task (Catalog.ofDescriptors inserted)
        = r.route task (Catalog.ofDescriptors inserted') := by
  refine ⟨fun catalog catalog' => route_congr, fun inserted inserted' hlatest hsome => ?_⟩
  refine route_congr (fun name hname => ?_) fun hasked => ?_
  · rw [Catalog.get?_ofDescriptors, Catalog.get?_ofDescriptors]
    exact hlatest name hname
  · obtain ⟨x, hx, hname⟩ := hsome hasked
    exact ⟨x.name, hname, Catalog.contains_ofDescriptors_iff.mpr ⟨x, hx, rfl⟩⟩

namespace Example

def streaming (name : String) (health : Health) : Descriptor :=
  { name, capabilities := { streaming := true }, health }

/-- The first of two backends is down. -/
def few : List Descriptor := [streaming "a" .open, streaming "c" .closed]

/-- The same two in another order, the first inserted twice, beside one that no rule names. -/
def many : List Descriptor :=
  [streaming "c" .closed, streaming "a" .closed, streaming "e" .closed, streaming "a" .open]

end Example

open Example in
/-- The backend that no rule names, and the descriptor that was replaced, are not seen: not by a
task that goes by its rule, and not by one that asks for a backend. -/
theorem routed_past_unrelated :
    let asking : Task := { streamed with backend := some "c" }
    ((∀ name ∈ routing.consulted streamed,
        Catalog.latest? few name = Catalog.latest? many name) ∧
      (∃ x ∈ few, x.name ∈ routing.consulted streamed) ∧
      routing.route streamed (Catalog.ofDescriptors many)
        = .ok { candidates := ["c"], reason := .rule .research }) ∧
    (Catalog.ofDescriptors few).get? "c" = (Catalog.ofDescriptors many).get? "c" ∧
    routing.route asking (Catalog.ofDescriptors few)
      = routing.route asking (Catalog.ofDescriptors many) := by
  intro asking
  have hlatest : ∀ name ∈ routing.consulted streamed,
      Catalog.latest? few name = Catalog.latest? many name := by decide +kernel
  have hsome : ∃ x ∈ few, x.name ∈ routing.consulted streamed := by decide +kernel
  have hfew : routing.route streamed (Catalog.ofDescriptors few)
      = .ok { candidates := ["c"], reason := .rule .research } := by decide +kernel
  have hasked : (Catalog.ofDescriptors few).get? "c" = (Catalog.ofDescriptors many).get? "c" := by
    decide +kernel
  refine ⟨⟨hlatest, hsome, ?_⟩, hasked, ?_⟩
  · rw [← (unrelated_unseen routing streamed).2 few many hlatest fun _ => hsome]
    exact hfew
  · refine (unrelated_unseen routing asking).1 _ _ (fun name hname => ?_) nofun
    obtain rfl : name = "c" := List.mem_singleton.mp hname
    exact hasked

end Routing

end Dispatch
