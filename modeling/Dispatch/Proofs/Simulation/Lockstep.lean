/-
Dispatch/Proofs/Simulation/Lockstep.lean

Processes that run side by side.

Two kinds of processes run in lockstep if related processes over related worlds take a step
together or wait together, the step leads to what is related again, and both wait for the same
time.  Then the virtual clock of both shows the same at all times, every process of one has its
turns when its counterpart has them, and what a run leads to is related (`Lockstep.run`).

The induction goes down the definition of a run: the steps of one process until it waits, a round
of all processes, and rounds with the clock moving on.
-/
import Mathlib.Data.List.Forall2
import Dispatch.Simulation.Process

namespace Dispatch

/-- Two kinds of processes that take their steps together, with relations that are kept. -/
structure Lockstep {ω ω' σ σ' : Type} (p : Process ω σ) (p' : Process ω' σ')
    (W : ω → ω' → Prop) (S : σ → σ' → Prop) : Prop where
  step : ∀ now {w w' s s'}, W w w' → S s s' →
    Option.Rel (fun x x' => W x.1 x'.1 ∧ S x.2 x'.2) (p.step? now w s) (p'.step? now w' s')
  wake : ∀ {s s'}, S s s' → p.wake? s = p'.wake? s'
  limit : ∀ {s s'}, S s s' → p.limit s = p'.limit s'

namespace Lockstep

variable {ω ω' σ σ' : Type} {p : Process ω σ} {p' : Process ω' σ'} {W : ω → ω' → Prop}
  {S : σ → σ' → Prop} {w : ω} {w' : ω'} {s : σ} {s' : σ'} {ss : List σ} {ss' : List σ'}

theorem settle (h : Lockstep p p' W S) (now fuel : Nat) (hw : W w w') (hs : S s s') :
    W (p.settle now fuel w s).1 (p'.settle now fuel w' s').1 ∧
      S (p.settle now fuel w s).2 (p'.settle now fuel w' s').2 := by
  induction fuel generalizing w w' s s' with
  | zero => exact ⟨hw, hs⟩
  | succ fuel ih =>
    rw [Process.settle, Process.settle]
    have hstep := h.step now hw hs
    cases hx : p.step? now w s with
    | none =>
      rw [hx] at hstep
      cases hx' : p'.step? now w' s' with
      | none => exact ⟨hw, hs⟩
      | some x' => rw [hx'] at hstep; cases hstep
    | some x =>
      rw [hx] at hstep
      cases hx' : p'.step? now w' s' with
      | none => rw [hx'] at hstep; cases hstep
      | some x' =>
        rw [hx'] at hstep
        cases hstep with
        | some hnext => exact ih hnext.1 hnext.2

theorem round (h : Lockstep p p' W S) (now fuel : Nat) (hw : W w w')
    (hss : List.Forall₂ S ss ss') :
    W (p.round now fuel w ss).1 (p'.round now fuel w' ss').1 ∧
      List.Forall₂ S (p.round now fuel w ss).2 (p'.round now fuel w' ss').2 := by
  induction hss generalizing w w' with
  | nil => exact ⟨hw, .nil⟩
  | cons hs hrest ih =>
    obtain ⟨hw, hs⟩ := h.settle now fuel hw hs
    obtain ⟨hw, hrest⟩ := ih hw
    exact ⟨hw, .cons hs hrest⟩

theorem nextWake?_eq (h : Lockstep p p' W S) (hss : List.Forall₂ S ss ss') :
    p.nextWake? ss = p'.nextWake? ss' := by
  have hwakes : ss.filterMap p.wake? = ss'.filterMap p'.wake? := by
    induction hss with
    | nil => rfl
    | cons hs hrest ih => rw [List.filterMap_cons, List.filterMap_cons, h.wake hs, ih]
  rw [Process.nextWake?, Process.nextWake?, hwakes]

theorem rounds (h : Lockstep p p' W S) (fuel now : Nat) (hw : W w w')
    (hss : List.Forall₂ S ss ss') :
    (p.rounds fuel now w ss).1 = (p'.rounds fuel now w' ss').1 ∧
      W (p.rounds fuel now w ss).2.1 (p'.rounds fuel now w' ss').2.1 ∧
      List.Forall₂ S (p.rounds fuel now w ss).2.2 (p'.rounds fuel now w' ss').2.2 := by
  induction fuel generalizing now w w' ss ss' with
  | zero => exact ⟨rfl, hw, hss⟩
  | succ fuel ih =>
    obtain ⟨hw, hss⟩ := h.round now (fuel + 1) hw hss
    rw [Process.rounds, Process.rounds, h.nextWake?_eq hss]
    -- the clock moves on in both or in neither
    split
    · exact ⟨rfl, hw, hss⟩
    · exact ih _ hw hss

/-- **What runs in lockstep ends alike**, and at the same time. -/
theorem run (h : Lockstep p p' W S) (now : Nat) (hw : W w w') (hss : List.Forall₂ S ss ss') :
    (p.run now w ss).1 = (p'.run now w' ss').1 ∧
      W (p.run now w ss).2.1 (p'.run now w' ss').2.1 ∧
      List.Forall₂ S (p.run now w ss).2.2 (p'.run now w' ss').2.2 := by
  have hfuel : ss.foldr (fun s n => p.limit s + n) 1
      = ss'.foldr (fun s n => p'.limit s + n) 1 := by
    induction hss with
    | nil => rfl
    | cons hs hrest ih => rw [List.foldr_cons, List.foldr_cons, h.limit hs, ih]
  rw [Process.run, Process.run, hfuel]
  exact h.rounds _ now hw hss

end Lockstep

end Dispatch
