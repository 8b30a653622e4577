/-
Dispatch/Proofs/Handling/Concurrent.lean

Any number of handlings over one store in memory.

Handlings take turns in any order: one begins, is answered by the store, lets its call take a step
or is cancelled.  Others use the store as well, for whatever they like.  Between two turns a
handling only waits, so every schedule is a list of turns.

The store keeps a log, and a handling is known there by its number.  `Silent` and `landedBy` say
what a part of the log has of one handling.
-/
import Mathlib.Logic.Function.Basic
import Dispatch.Proofs.Handling.Stage
import Dispatch.Proofs.Store.Log

namespace Dispatch

/-! ### Turns -/

/-- Handlings by their numbers, and the store that they share with others. -/
structure Handlings where
  shared : Shared
  log : StoreLog (Option Nat) := {}
  stage : Nat → Option HandlingStage := fun _ => none

/-- What happens next. -/
inductive HandlingTurn where
  | begin (i now : Nat)
  /-- The store answers what a handling waits for. -/
  | store (i now : Nat)
  /-- The call of a handling takes a step. -/
  | call (i now : Nat)
    (step : CallPlan → Breakers → Call Response → Breakers × Call Response)
  | cancel (i : Nat)
  /-- Somebody else calls the store. -/
  | other (call : StoreCall) (now : Timestamp)

namespace Handlings

/-- A handling has come to another stage. -/
def advance (w : Handlings) (i : Nat) (next : Shared × HandlingStage) : Handlings :=
  { w with shared := next.1, stage := Function.update w.stage i (some next.2) }

/-- The store serves a call. -/
def serve (w : Handlings) (client : Option Nat) (call : StoreCall) (now : Timestamp) : Handlings :=
  { w with log := w.log.serve client call now }

variable (d : Dispatcher) (tasks : Nat → TaskRequest)

/-- One turn. -/
def step (w : Handlings) : HandlingTurn → Handlings
  | .begin i now =>
    match w.stage i with
    | none => w.advance i (Handling.begin (tasks i) now w.shared)
    | some _ => w
  | .store i now =>
    match w.stage i with
    | none => w
    | some stage =>
      match Handling.request? (tasks i) stage with
      | none => w
      | some call =>
        let answer := w.log.answer call (d.timeOfDay now)
        (w.serve (some i) call (d.timeOfDay now)).advance i
          (Handling.answered d (tasks i) now answer w.shared stage)
  | .call i now step =>
    match w.stage i with
    | none => w
    | some stage => w.advance i (Handling.callStep d (tasks i) now step w.shared stage)
  | .cancel i =>
    match w.stage i with
    | none => w
    | some stage => w.advance i (Handling.cancel w.shared stage)
  | .other call now => w.serve none call now

/-- Turns one after another. -/
def run (w : Handlings) (turns : List HandlingTurn) : Handlings :=
  turns.foldl (step d tasks) w

@[simp] theorem advance_stage_self (w : Handlings) (i : Nat) (next : Shared × HandlingStage) :
    (w.advance i next).stage i = some next.2 := Function.update_self ..

theorem advance_stage_of_ne (w : Handlings) {i j : Nat} (h : j ≠ i)
    (next : Shared × HandlingStage) : (w.advance i next).stage j = w.stage j :=
  Function.update_of_ne h ..

end Handlings

/-! ### One handling in the log -/

section

variable {i : Nat} {id : String} {rs rs' : List (Served (Option Nat))} {x : Served (Option Nat)}

/-- A part of a log without calls of a handling. -/
def Silent (i : Nat) (rs : List (Served (Option Nat))) : Prop := ∀ x ∈ rs, x.client ≠ some i

/-- What a handling has landed. -/
def landedBy (i : Nat) (rs : List (Served (Option Nat))) : List (Landing (Option Nat)) :=
  (rs.filterMap Served.landing?).filter fun a => a.client = some i

/-- The landings of others on a conversation that have added something. -/
def strangers (i : Nat) (id : String) (rs : List (Served (Option Nat))) :
    List (Landing (Option Nat)) :=
  (landingsOn id rs).filter fun a => a.client ≠ some i ∧ a.messages ≠ []

theorem Silent.append_singleton (h : Silent i rs) (hx : x.client ≠ some i) :
    Silent i (rs ++ [x]) := by
  intro y hy
  rcases List.mem_append.mp hy with hy | hy
  · exact h y hy
  · rw [List.mem_singleton.mp hy]
    exact hx

theorem Served.client_of_landing? {a : Landing (Option Nat)} (h : x.landing? = some a) :
    a.client = x.client := by
  unfold landing? at h
  split at h
  · cases h; rfl
  · cases h

theorem Served.landing?_of_error {e : StoreError} (h : x.answer = .error e) :
    x.landing? = none := by
  unfold landing?
  rw [h]
  split
  · next heq => cases heq
  · rfl

theorem Served.landing?_of_load (h : x.call = .load id) : x.landing? = none := by
  unfold landing?
  rw [h]

@[simp] theorem landedBy_append : landedBy i (rs ++ rs') = landedBy i rs ++ landedBy i rs' := by
  simp [landedBy]

theorem landedBy_of_silent (h : Silent i rs) : landedBy i rs = [] := by
  refine List.filter_eq_nil_iff.mpr fun a ha => ?_
  obtain ⟨y, hy, hya⟩ := List.mem_filterMap.mp ha
  simpa [Served.client_of_landing? hya] using h y hy

/-- A call that lands nothing. -/
theorem landedBy_cons_of_none (h : x.landing? = none) : landedBy i (x :: rs) = landedBy i rs := by
  unfold landedBy
  rw [List.filterMap_cons_none h]

theorem landedBy_cons_of_some {a : Landing (Option Nat)} (h : x.landing? = some a)
    (hx : x.client = some i) : landedBy i (x :: rs) = a :: landedBy i rs := by
  unfold landedBy
  rw [List.filterMap_cons_some h, List.filter_cons_of_pos]
  simpa [Served.client_of_landing? h] using hx

@[simp] theorem strangers_append :
    strangers i id (rs ++ rs') = strangers i id rs ++ strangers i id rs' := by
  simp [strangers]

/-- What has been landed, and not by a handling, was landed by others. -/
theorem strangers_pos (h : landed id rs ≠ []) (hi : Silent i rs) :
    1 ≤ (strangers i id rs).length := by
  obtain ⟨m, hm⟩ := List.exists_mem_of_ne_nil _ h
  obtain ⟨a, ha, hma⟩ := List.mem_flatMap.mp hm
  refine List.length_pos_of_mem (List.mem_filter.mpr ⟨ha, ?_⟩)
  obtain ⟨y, hy, hya⟩ := List.mem_filterMap.mp (List.mem_filter.mp ha).1
  have hclient : a.client ≠ some i := Served.client_of_landing? hya ▸ hi y hy
  simpa [hclient] using List.ne_nil_of_mem hma

end

end Dispatch
