/-
Dispatch/Proofs/Breaker/Traffic.lean

Breakers together with the permits that callers hold.

A permit is handed out once and used up once, by the outcome of its call or by being dropped, and
any number of callers take their turns in between.  `Traffic` has the permits that are out beside
the circuits, and `Traffic.step` is one turn of somebody.  A permit is known by its *ticket*: the
backend, and how many requests for that backend came before.  The tickets of a backend therefore
do not depend on what happens at the others.

The second half says what a turn does to the circuits of the table: a request and a use of a
permit touch the circuit of one backend only, and a permit reaches that circuit only while the
generation is the permit's own (`Breakers.get?_update`).
-/
import Mathlib.Logic.Function.Basic
import Dispatch.Proofs.Breaker.Circuit

namespace Dispatch

/-! ### Turns -/

/-- A request for a permit. -/
structure Ticket where
  backend : String
  /-- The requests for this backend that came before. -/
  number : Nat
  deriving DecidableEq, Repr

/-- What somebody does with breakers. -/
inductive BreakerTurn where
  /-- Asks for a permit. -/
  | acquire (backend : String) (now : Nat)
  /-- Uses up a permit with the outcome of its call. -/
  | settle (ticket : Ticket) (success : Bool) (now : Nat)
  /-- Drops a permit. -/
  | release (ticket : Ticket)
  /-- Asks for the health of a backend. -/
  | health (backend : String) (now : Nat)
  | reset
  deriving DecidableEq, Repr

/-- The permit that a turn uses up. -/
def BreakerTurn.uses : BreakerTurn → Option Ticket
  | .settle t _ _ | .release t => some t
  | .acquire .. | .health .. | .reset => none

/-- What is answered to those who ask. -/
inductive BreakerAnswer where
  | permit (p : Option Permit)
  | health (h : Health)
  deriving DecidableEq, Repr

/-- Breakers, and the permits that are out. -/
structure Traffic where
  breakers : Breakers
  /-- The permits that are neither settled nor dropped, by their tickets. -/
  permits : Ticket → Option Permit := fun _ => none
  /-- Requests so far, for every backend. -/
  asked : String → Nat := fun _ => 0
  /-- A permit is for the backend of its ticket. -/
  labelled : ∀ t p, permits t = some p → p.backend = t.backend := by simp

theorem Breakers.acquire_backend {b : Breakers} {backend : String} {now : Nat} {p : Permit}
    (h : (b.acquire backend now).2 = some p) : p.backend = backend := by
  unfold acquire at h
  simp only at h
  split at h
  · cases h
  · cases h; rfl

namespace Traffic

/-- Hands out what breakers answer to a request. -/
def issue (w : Traffic) (backend : String) (now : Nat) : Traffic where
  breakers := (w.breakers.acquire backend now).1
  permits := Function.update w.permits ⟨backend, w.asked backend⟩
    (w.breakers.acquire backend now).2
  asked := Function.update w.asked backend (w.asked backend + 1)
  labelled := by
    intro t p h
    by_cases ht : t = ⟨backend, w.asked backend⟩
    · subst ht
      rw [Function.update_self] at h
      exact Breakers.acquire_backend h
    · rw [Function.update_of_ne ht] at h
      exact w.labelled t p h

/-- Takes back the permit of a ticket, with breakers that have changed meanwhile. -/
def collect (w : Traffic) (t : Ticket) (breakers : Breakers) : Traffic where
  breakers := breakers
  permits := Function.update w.permits t none
  asked := w.asked
  labelled := by
    intro t' p h
    by_cases ht : t' = t
    · subst ht
      rw [Function.update_self] at h
      cases h
    · rw [Function.update_of_ne ht] at h
      exact w.labelled t' p h

/-- Uses up the permit of a ticket, if it is out. -/
def use (w : Traffic) (t : Ticket) (act : Permit → Breakers) : Traffic :=
  match w.permits t with
  | none => w
  | some p => w.collect t (act p)

/-- One turn. -/
def step (w : Traffic) : BreakerTurn → Traffic
  | .acquire backend now => w.issue backend now
  | .settle t success now => w.use t fun p => w.breakers.settle p success now
  | .release t => w.use t fun p => w.breakers.release p
  | .health _ _ => w
  | .reset => { w with breakers := w.breakers.reset }

/-- Turns one after another. -/
def run (w : Traffic) (turns : List BreakerTurn) : Traffic := turns.foldl step w

/-- What a turn is answered, if it is a question. -/
def answer? (w : Traffic) : BreakerTurn → Option BreakerAnswer
  | .acquire backend now => some (.permit (w.breakers.acquire backend now).2)
  | .health backend now => some (.health (w.breakers.health backend now))
  | .settle .. | .release _ | .reset => none

/-- All that is answered in a run. -/
def answers (w : Traffic) : List BreakerTurn → List BreakerAnswer
  | [] => []
  | e :: rest => (w.answer? e).toList ++ (w.step e).answers rest

@[simp] theorem run_nil (w : Traffic) : w.run [] = w := rfl

@[simp] theorem run_cons (w : Traffic) (e : BreakerTurn) (es : List BreakerTurn) :
    w.run (e :: es) = (w.step e).run es := rfl

/-- Using a permit that is not out does nothing. -/
theorem use_of_none {w : Traffic} {t : Ticket} (h : w.permits t = none)
    (act : Permit → Breakers) : w.use t act = w := by
  unfold use
  rw [h]

theorem use_of_some {w : Traffic} {t : Ticket} {p : Permit} (h : w.permits t = some p)
    (act : Permit → Breakers) : w.use t act = w.collect t (act p) := by
  unfold use
  rw [h]

end Traffic

/-- What holds wherever a list is split holds at its head, and wherever its tail is split. -/
theorem forall_split_cons {α : Type} {P : List α → α → Prop} {a : α} {l : List α} :
    (∀ u b v, a :: l = u ++ b :: v → P u b) ↔
      P [] a ∧ ∀ u b v, l = u ++ b :: v → P (a :: u) b := by
  refine ⟨fun h => ⟨h [] a l rfl, ?_⟩, fun ⟨ha, hl⟩ u b v heq => ?_⟩
  · rintro u b v rfl
    exact h (a :: u) b v rfl
  · cases u with
    | nil =>
      obtain ⟨rfl, -⟩ := List.cons.inj heq
      exact ha
    | cons a' u =>
      obtain ⟨rfl, rfl⟩ := List.cons.inj heq
      exact hl u b v rfl

/-! ### What a turn does to the circuits -/

namespace Breakers

@[simp] theorem settings_acquire (b : Breakers) (backend other : String) (now : Nat) :
    (b.acquire backend now).1.settings other = b.settings other := by
  unfold acquire
  simp only
  split <;> rfl

@[simp] theorem settings_update (b : Breakers) (p : Permit) (change : Circuit → Circuit)
    (other : String) : (b.update p change).settings other = b.settings other := by
  unfold update
  split
  · rfl
  · split <;> rfl

@[simp] theorem settings_release (b : Breakers) (p : Permit) (other : String) :
    (b.release p).settings other = b.settings other := by
  unfold release
  split
  · exact settings_update b p _ other
  · rfl

/-- A request leaves the circuit that it was granted with, or the old one. -/
theorem get?_acquire (b : Breakers) (backend other : String) (now : Nat) :
    (b.acquire backend now).1.circuits.get? other
      = if other = backend then
          some ((((b.circuit backend).grant (b.settings backend) now).map Prod.fst).getD
            (b.circuit backend))
        else b.circuits.get? other := by
  unfold acquire
  simp only
  rcases (b.circuit backend).grant (b.settings backend) now with - | ⟨c, trial⟩ <;>
    exact Table.get?_insert ..

theorem acquire_snd (b : Breakers) (backend : String) (now : Nat) :
    (b.acquire backend now).2
      = ((b.circuit backend).grant (b.settings backend) now).map fun r =>
          { backend, generation := r.1.generation, trial := r.2 } := by
  unfold acquire
  simp only
  rcases (b.circuit backend).grant (b.settings backend) now with - | ⟨c, trial⟩ <;> rfl

/-- A permit reaches the circuit of its backend, if that has its generation. -/
theorem get?_update (b : Breakers) (p : Permit) (change : Circuit → Circuit) (other : String) :
    (b.update p change).circuits.get? other
      = if other = p.backend then
          (b.circuits.get? other).map fun c =>
            if c.generation = p.generation then change c else c
        else b.circuits.get? other := by
  unfold update
  by_cases ho : other = p.backend
  · subst ho
    rw [if_pos rfl]
    rcases hc : b.circuits.get? p.backend with - | c
    · exact hc
    · simp only [Option.map_some]
      split
      · exact Table.get?_insert_self ..
      · exact hc
  · rw [if_neg ho]
    split
    · rfl
    · split
      · exact Table.get?_insert_ne _ ho _
      · rfl

theorem get?_settle (b : Breakers) (p : Permit) (success : Bool) (now : Nat) (other : String) :
    (b.settle p success now).circuits.get? other
      = if other = p.backend then
          (b.circuits.get? other).map fun c =>
            if c.generation = p.generation then c.settle (b.settings other) p.trial success now
            else c
        else b.circuits.get? other := by
  refine (get?_update ..).trans ?_
  by_cases ho : other = p.backend
  · subst ho; rfl
  · rw [if_neg ho, if_neg ho]

theorem get?_release (b : Breakers) (p : Permit) (other : String) :
    (b.release p).circuits.get? other
      = if other = p.backend then
          (b.circuits.get? other).map fun c =>
            if c.generation = p.generation then (if p.trial then c.release else c) else c
        else b.circuits.get? other := by
  unfold release
  cases p.trial with
  | true => exact get?_update ..
  | false =>
    rw [if_neg Bool.false_ne_true]
    split
    · rcases b.circuits.get? other with - | c
      · rfl
      · simp
    · rfl

end Breakers

end Dispatch
