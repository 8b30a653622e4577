/-
Dispatch/Proofs/Breaker/Lane.lean

Breakers seen from one backend.

What concerns one backend is a *lane*: its circuit, the permits for it that are out, and how
often it was asked for.  A turn at another backend leaves the lane alone, and a turn at this one
is a step of the lane:

    (w.step e).lane b  =  (w.lane b).step b (settings of b) (e seen from b).

So a run is, for each backend, the run of its lane over the turns that concern it (`lane_run`),
and what is answered about a backend is answered by its lane (`answer?_lane`).  A statement about
one backend is proved of lanes, where there are no tables and no names.
-/
import Dispatch.Proofs.Breaker.Traffic

namespace Dispatch

/-- What concerns one backend. -/
@[ext] structure Lane where
  /-- The circuit; there is none before the first request. -/
  circuit : Option Circuit := none
  /-- The permits that are out, by the numbers of their requests. -/
  permits : Nat → Option Permit := fun _ => none
  /-- Requests so far. -/
  asked : Nat := 0

/-- A turn at a backend. -/
inductive LaneTurn where
  | acquire (now : Nat)
  | settle (number : Nat) (success : Bool) (now : Nat)
  | release (number : Nat)
  | health (now : Nat)
  | reset
  deriving DecidableEq, Repr

/-- The permit that a turn uses up. -/
def LaneTurn.uses : LaneTurn → Option Nat
  | .settle n _ _ | .release n => some n
  | .acquire _ | .health _ | .reset => none

/-! ### Steps of a lane -/

namespace Lane

variable (backend : String) (s : BreakerSettings)

/-- The circuit that a request finds. -/
def current (l : Lane) : Circuit := l.circuit.getD {}

/-- What a request gets. -/
def granted (l : Lane) (now : Nat) : Option Permit :=
  (l.current.grant s now).map fun r => { backend, generation := r.1.generation, trial := r.2 }

/-- Hands out what the circuit answers to a request. -/
def issue (l : Lane) (now : Nat) : Lane where
  circuit := some (((l.current.grant s now).map Prod.fst).getD l.current)
  permits := Function.update l.permits l.asked (l.granted backend s now)
  asked := l.asked + 1

/-- Uses up the permit with a number.  The circuit changes if it has the permit's generation. -/
def use (l : Lane) (n : Nat) (change : Permit → Circuit → Circuit) : Lane :=
  match l.permits n with
  | none => l
  | some p => { l with
      circuit := l.circuit.map fun c => if c.generation = p.generation then change p c else c
      permits := Function.update l.permits n none }

/-- One turn. -/
def step (l : Lane) : LaneTurn → Lane
  | .acquire now => l.issue backend s now
  | .settle n success now => l.use n fun p => Circuit.settle s p.trial success now
  | .release n => l.use n fun p c => if p.trial then c.release else c
  | .health _ => l
  | .reset => { l with circuit := none }

/-- Turns one after another. -/
def run (l : Lane) (turns : List LaneTurn) : Lane := turns.foldl (step backend s) l

/-- What a turn is answered, if it is a question. -/
def answer? (l : Lane) : LaneTurn → Option BreakerAnswer
  | .acquire now => some (.permit (l.granted backend s now))
  | .health now => some (.health (l.current.health s now))
  | .settle .. | .release _ | .reset => none

/-- All that is answered in a run. -/
def answers (l : Lane) : List LaneTurn → List BreakerAnswer
  | [] => []
  | e :: rest => (l.answer? backend s e).toList ++ (l.step backend s e).answers rest

variable {backend s}

@[simp] theorem run_nil (l : Lane) : l.run backend s [] = l := rfl

@[simp] theorem run_cons (l : Lane) (e : LaneTurn) (es : List LaneTurn) :
    l.run backend s (e :: es) = (l.step backend s e).run backend s es := rfl

/-- Using a permit that is not out does nothing. -/
theorem use_of_none {l : Lane} {n : Nat} (h : l.permits n = none)
    (change : Permit → Circuit → Circuit) : l.use n change = l := by
  unfold use
  rw [h]

theorem use_of_some {l : Lane} {n : Nat} {p : Permit} (h : l.permits n = some p)
    (change : Permit → Circuit → Circuit) :
    l.use n change = { l with
      circuit := l.circuit.map fun c => if c.generation = p.generation then change p c else c
      permits := Function.update l.permits n none } := by
  unfold use
  rw [h]

@[simp] theorem use_asked (l : Lane) (n : Nat) (change : Permit → Circuit → Circuit) :
    (l.use n change).asked = l.asked := by
  unfold use
  split <;> rfl

/-- A turn that uses up a permit is a use of it. -/
theorem exists_step_eq_use {e : LaneTurn} {n : Nat} (h : e.uses = some n) (l : Lane) :
    ∃ change, l.step backend s e = l.use n change := by
  cases e with
  | settle m success now =>
    obtain rfl : m = n := by simpa [LaneTurn.uses] using h
    exact ⟨_, rfl⟩
  | release m =>
    obtain rfl : m = n := by simpa [LaneTurn.uses] using h
    exact ⟨_, rfl⟩
  | acquire now => cases h
  | health now => cases h
  | reset => cases h

end Lane

/-! ### The lanes of traffic -/

/-- A turn as a backend sees it, if it concerns the backend. -/
def BreakerTurn.seenFrom (backend : String) : BreakerTurn → Option LaneTurn
  | .acquire b now => if b = backend then some (.acquire now) else none
  | .settle t success now =>
    if t.backend = backend then some (.settle t.number success now) else none
  | .release t => if t.backend = backend then some (.release t.number) else none
  | .health b now => if b = backend then some (.health now) else none
  | .reset => some .reset

/-- A turn of a lane as a turn at its backend. -/
def LaneTurn.at (backend : String) : LaneTurn → BreakerTurn
  | .acquire now => .acquire backend now
  | .settle n success now => .settle ⟨backend, n⟩ success now
  | .release n => .release ⟨backend, n⟩
  | .health now => .health backend now
  | .reset => .reset

/-- What a backend sees is what happens at it. -/
theorem BreakerTurn.seenFrom_eq_some_iff {e : BreakerTurn} {backend : String} {e' : LaneTurn} :
    e.seenFrom backend = some e' ↔ e = e'.at backend := by
  cases e with
  | settle t success now =>
    obtain ⟨b, n⟩ := t
    cases e' <;> simp [seenFrom, LaneTurn.at, and_assoc]
  | release t =>
    obtain ⟨b, n⟩ := t
    cases e' <;> simp [seenFrom, LaneTurn.at]
  | acquire b now => cases e' <;> simp [seenFrom, LaneTurn.at]
  | health b now => cases e' <;> simp [seenFrom, LaneTurn.at]
  | reset => cases e' <;> simp [seenFrom, LaneTurn.at]

@[simp] theorem LaneTurn.seenFrom_at (backend : String) (e : LaneTurn) :
    (e.at backend).seenFrom backend = some e := BreakerTurn.seenFrom_eq_some_iff.mpr rfl

/-- A use of a permit is seen from the backend of the permit alone. -/
theorem BreakerTurn.seenFrom_of_uses {e : BreakerTurn} {t : Ticket} (h : e.uses = some t)
    (backend : String) :
    (t.backend = backend ∧ ∃ e', e.seenFrom backend = some e' ∧ e'.uses = some t.number) ∨
      (t.backend ≠ backend ∧ e.seenFrom backend = none) := by
  cases e with
  | settle u success now =>
    obtain rfl : u = t := by simpa [uses] using h
    by_cases hb : u.backend = backend
    · exact Or.inl ⟨hb, _, if_pos hb, rfl⟩
    · exact Or.inr ⟨hb, if_neg hb⟩
  | release u =>
    obtain rfl : u = t := by simpa [uses] using h
    by_cases hb : u.backend = backend
    · exact Or.inl ⟨hb, _, if_pos hb, rfl⟩
    · exact Or.inr ⟨hb, if_neg hb⟩
  | acquire b now => cases h
  | health b now => cases h
  | reset => cases h

namespace Traffic

/-- The lane of a backend. -/
def lane (w : Traffic) (backend : String) : Lane where
  circuit := w.breakers.circuits.get? backend
  permits n := w.permits ⟨backend, n⟩
  asked := w.asked backend

variable {backend : String}

/-- No turn changes settings. -/
@[simp] theorem settings_step (w : Traffic) (e : BreakerTurn) (backend : String) :
    (w.step e).breakers.settings backend = w.breakers.settings backend := by
  have huse : ∀ (t : Ticket) (act : Permit → Breakers),
      (∀ p, (act p).settings backend = w.breakers.settings backend) →
      (w.use t act).breakers.settings backend = w.breakers.settings backend := by
    intro t act h
    rcases hp : w.permits t with - | p
    · rw [use_of_none hp]
    · rw [use_of_some hp]
      exact h p
  cases e with
  | acquire b now => exact Breakers.settings_acquire ..
  | settle t success now => exact huse t _ fun p => Breakers.settings_update ..
  | release t => exact huse t _ fun p => Breakers.settings_release ..
  | health b now => rfl
  | reset => rfl

/-- The permits of a lane after the permit of a ticket is used up. -/
theorem update_ticket (w : Traffic) (t : Ticket) (p : Option Permit) (backend : String) :
    (fun n => Function.update w.permits t p ⟨backend, n⟩)
      = if t.backend = backend then
          Function.update (fun n => w.permits ⟨backend, n⟩) t.number p
        else fun n => w.permits ⟨backend, n⟩ := by
  obtain ⟨b, k⟩ := t
  funext n
  by_cases hb : b = backend
  · subst hb
    by_cases hn : n = k
    · subst hn; simp
    · simp [Function.update_of_ne, hn]
  · have hne : (⟨backend, n⟩ : Ticket) ≠ ⟨b, k⟩ := fun h => hb (Ticket.mk.inj h).1.symm
    simp [Function.update_of_ne hne, hb]

theorem lane_issue (w : Traffic) (b : String) (now : Nat) :
    (w.issue b now).lane backend
      = if b = backend then (w.lane backend).issue backend (w.breakers.settings backend) now
        else w.lane backend := by
  by_cases hb : b = backend
  · subst hb
    rw [if_pos rfl]
    refine Lane.ext ?_ ?_ ?_
    · exact (Breakers.get?_acquire ..).trans (if_pos rfl)
    · refine (update_ticket w ⟨b, w.asked b⟩ _ b).trans ?_
      rw [if_pos rfl, Breakers.acquire_snd]
      rfl
    · exact Function.update_self ..
  · rw [if_neg hb]
    refine Lane.ext ?_ ?_ ?_
    · exact (Breakers.get?_acquire ..).trans (if_neg (Ne.symm hb))
    · exact (update_ticket w ⟨b, w.asked b⟩ _ backend).trans (if_neg hb)
    · exact Function.update_of_ne (Ne.symm hb) ..

/-- A use of a permit is a use in its lane, if it does to the circuits what it does there. -/
theorem lane_use (w : Traffic) (t : Ticket) {act : Permit → Breakers}
    (change : Permit → Circuit → Circuit)
    (hact : ∀ p, p.backend = t.backend → (act p).circuits.get? backend
      = if backend = p.backend then
          (w.breakers.circuits.get? backend).map fun c =>
            if c.generation = p.generation then change p c else c
        else w.breakers.circuits.get? backend) :
    (w.use t act).lane backend
      = if t.backend = backend then (w.lane backend).use t.number change
        else w.lane backend := by
  rcases hp : w.permits t with - | p
  · rw [use_of_none hp]
    split
    · next ht => subst ht; exact (Lane.use_of_none hp change).symm
    · rfl
  · have hb := hact p (w.labelled t p hp)
    rw [w.labelled t p hp] at hb
    rw [use_of_some hp]
    by_cases ht : t.backend = backend
    · subst ht
      rw [if_pos rfl] at hb
      rw [if_pos rfl, Lane.use_of_some (show (w.lane t.backend).permits t.number = some p from hp)]
      refine Lane.ext hb ?_ rfl
      exact (update_ticket w t none t.backend).trans (if_pos rfl)
    · rw [if_neg (Ne.symm ht)] at hb
      rw [if_neg ht]
      refine Lane.ext hb ?_ rfl
      exact (update_ticket w t none backend).trans (if_neg ht)

/-- **A turn is a step of the lanes that it concerns**, and leaves the others alone. -/
theorem lane_step (w : Traffic) (e : BreakerTurn) (backend : String) :
    (w.step e).lane backend
      = match e.seenFrom backend with
        | none => w.lane backend
        | some e' => (w.lane backend).step backend (w.breakers.settings backend) e' := by
  cases e with
  | acquire b now =>
    refine (lane_issue w b now).trans ?_
    by_cases hb : b = backend <;> simp [BreakerTurn.seenFrom, hb, Lane.step]
  | settle t success now =>
    let change (p : Permit) : Circuit → Circuit :=
      Circuit.settle (w.breakers.settings backend) p.trial success now
    refine (lane_use w t change fun p _ => Breakers.get?_settle ..).trans ?_
    by_cases ht : t.backend = backend <;> simp [BreakerTurn.seenFrom, ht, Lane.step, change]
  | release t =>
    let change (p : Permit) (c : Circuit) : Circuit := if p.trial then c.release else c
    refine (lane_use w t change fun p _ => Breakers.get?_release ..).trans ?_
    by_cases ht : t.backend = backend <;> simp [BreakerTurn.seenFrom, ht, Lane.step, change]
  | health b now => by_cases hb : b = backend <;> simp [BreakerTurn.seenFrom, hb, step, Lane.step]
  | reset => rfl

/-- A turn elsewhere leaves a lane alone. -/
theorem lane_step_of_none {w : Traffic} {e : BreakerTurn} (h : e.seenFrom backend = none) :
    (w.step e).lane backend = w.lane backend := by
  rw [lane_step, h]

theorem lane_step_of_some {w : Traffic} {e : BreakerTurn} {e' : LaneTurn}
    (h : e.seenFrom backend = some e') :
    (w.step e).lane backend
      = (w.lane backend).step backend (w.breakers.settings backend) e' := by
  rw [lane_step, h]

/-- **A run is the runs of its lanes.** -/
theorem lane_run (w : Traffic) (es : List BreakerTurn) (backend : String) :
    (w.run es).lane backend
      = (w.lane backend).run backend (w.breakers.settings backend)
          (es.filterMap (BreakerTurn.seenFrom backend)) := by
  induction es generalizing w with
  | nil => rfl
  | cons e es ih =>
    rw [run_cons, ih, settings_step]
    rcases he : e.seenFrom backend with - | e'
    · rw [lane_step_of_none he, List.filterMap_cons_none he]
    · rw [lane_step_of_some he, List.filterMap_cons_some he, Lane.run_cons]

/-- What is answered about a backend is answered by its lane. -/
theorem answer?_lane {w : Traffic} {e : BreakerTurn} {e' : LaneTurn}
    (h : e.seenFrom backend = some e') :
    w.answer? e = (w.lane backend).answer? backend (w.breakers.settings backend) e' := by
  obtain rfl := BreakerTurn.seenFrom_eq_some_iff.mp h
  cases e' with
  | acquire now => exact congrArg (fun p => some (BreakerAnswer.permit p)) (Breakers.acquire_snd ..)
  | settle n success now => rfl
  | release n => rfl
  | health now => rfl
  | reset => rfl

/-- Turns at one backend only are answered by its lane. -/
theorem answers_map_at (w : Traffic) (backend : String) (es : List LaneTurn) :
    w.answers (es.map (LaneTurn.at backend))
      = (w.lane backend).answers backend (w.breakers.settings backend) es := by
  induction es generalizing w with
  | nil => rfl
  | cons e es ih =>
    have he := LaneTurn.seenFrom_at backend e
    simp only [List.map_cons, answers, Lane.answers]
    rw [answer?_lane he, ih, lane_step_of_some he, settings_step]

end Traffic

end Dispatch
