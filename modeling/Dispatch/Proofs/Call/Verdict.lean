/-
Dispatch/Proofs/Call/Verdict.lean

What a call answers, read off what has been seen of it.

Whatever a call has done so far, it began with some attempts that all ended in a way that may pass,
fewer than the settings allow; then at most one thing more was seen, an attempt that still runs, an
attempt that ended otherwise, or a refusal.  `Chronicle` says so, together with where each of these
leaves the call.  A turn adds at most one mark and leads from one of its cases to another
(`Chronicle.step`), whatever the breakers answer and whenever the turn comes.

The answer of a call is then read off case by case.  One answer is missing: a call ends without any
if a time that it needs cannot be represented, its deadline or the end of a delay, and it is exactly
then (`crashed_iff`) that the deadline is not reported as exceeded where it should be.
-/
import Dispatch.Proofs.Call.Turn

namespace Dispatch

variable {α : Type} {plan : CallPlan}

/-! ### What has been seen -/

/-- The ends of attempts, in order. -/
def endings (marks : List (CallMark α)) : List (AttemptEnd α) := marks.filterMap CallMark.end?

/-- How many attempts were started. -/
def starts (marks : List (CallMark α)) : Nat := marks.countP CallMark.isStart

/-- Attempts one after another, each started and ended. -/
def tried (ends : List (AttemptEnd α)) : List (CallMark α) :=
  ends.flatMap fun e => [.started, .ended e]

theorem tried_concat (ends : List (AttemptEnd α)) (e : AttemptEnd α) :
    tried ends ++ [.started] ++ [.ended e] = tried (ends ++ [e]) := by
  rw [tried, tried, List.flatMap_append, List.append_assoc]
  rfl

@[simp] theorem endings_append (ms ns : List (CallMark α)) :
    endings (ms ++ ns) = endings ms ++ endings ns := List.filterMap_append

@[simp] theorem endings_tried (ends : List (AttemptEnd α)) : endings (tried ends) = ends := by
  induction ends with
  | nil => rfl
  | cons e ends ih => exact congrArg (e :: ·) ih

@[simp] theorem starts_append (ms ns : List (CallMark α)) :
    starts (ms ++ ns) = starts ms + starts ns := List.countP_append

@[simp] theorem starts_tried (ends : List (AttemptEnd α)) : starts (tried ends) = ends.length := by
  induction ends with
  | nil => rfl
  | cons e ends ih =>
    have hcons : tried (e :: ends) = [.started, .ended e] ++ tried ends := rfl
    rw [hcons, starts_append, ih, Nat.add_comm]
    rfl

/-- A mark that is not the end of an attempt adds no end. -/
theorem endings_tried_concat (ends : List (AttemptEnd α)) {m : CallMark α} (hm : m.end? = none) :
    endings (tried ends ++ [m]) = ends := by
  have hnone : endings [m] = [] := List.filterMap_cons_none hm
  rw [endings_append, endings_tried, hnone, List.append_nil]

theorem refused_not_mem_tried (ends : List (AttemptEnd α)) : .refused ∉ tried ends := by
  intro h
  obtain ⟨e, -, he⟩ := List.mem_flatMap.mp h
  simp at he

/-- Nor is an attempt that runs a refusal. -/
theorem refused_not_mem_running (ends : List (AttemptEnd α)) :
    .refused ∉ tried ends ++ [.started] := by
  intro h
  rcases List.mem_append.mp h with h | h
  · exact refused_not_mem_tried ends h
  · simp at h

namespace Call

variable {c : Call α} {marks : List (CallMark α)} {ends : List (AttemptEnd α)}

/-! ### Where a call stands -/

/-- Where a call stands between two attempts, or ends there. -/
inductive Resting (plan : CallPlan) (attempts : Nat) : CallStage α → Prop
  | ready : Resting plan attempts .ready
  | waiting (w : Nat) : Resting plan attempts (.waiting w)
  | late : Resting plan attempts (.finished (.error (.deadlineExceeded plan.backend attempts)))
  | left : Resting plan attempts .cancelled
  | lost (fault : TimeFault) : Resting plan attempts (.crashed fault)

/-- Between two attempts the only answer is that the deadline is exceeded. -/
theorem Resting.finished {n : Nat} {stage : CallStage α} (h : Resting plan n stage)
    {result : Except CallError α} (hs : stage = .finished result) :
    result = .error (.deadlineExceeded plan.backend n) := by
  subst hs
  cases h with
  | late => rfl

/-- Where an attempt leaves a call if it is the last whatever the settings are. -/
inductive Concluded (plan : CallPlan) (attempts : Nat) : AttemptEnd α → CallStage α → Prop
  | produced (v : α) : Concluded plan attempts (.produced v) (.finished (.ok v))
  | failed {f : Failure} (hf : f.category ≠ .transient) :
      Concluded plan attempts (.failed f) (.finished (.error (.backend plan.backend f)))
  | cutShort : Concluded plan attempts .cutShort
      (.finished (.error (.deadlineExceeded plan.backend attempts)))
  | abandoned : Concluded plan attempts .abandoned .cancelled

/-- Attempts that ended in a way that may pass, no more than the settings allow. -/
structure Passed (plan : CallPlan) (ends : List (AttemptEnd α)) : Prop where
  passing : ∀ e ∈ ends, e.Passing plan
  length_le : ends.length ≤ plan.retry.maxAttempts

/-- What has been seen of a call, and where that leaves it. -/
inductive Chronicle (plan : CallPlan) (c : Call α) : List (CallMark α) → Prop
  | between {ends : List (AttemptEnd α)} (passed : Passed plan ends)
      (hlt : ends.length < plan.retry.maxAttempts) (hn : c.attempts = ends.length)
      (hs : Resting plan ends.length c.stage) : Chronicle plan c (tried ends)
  | exhausted {ends : List (AttemptEnd α)} {e : AttemptEnd α} {f : Failure}
      (passed : Passed plan (ends ++ [e])) (hlen : (ends ++ [e]).length = plan.retry.maxAttempts)
      (hf : e.failure? plan = some f) (hn : c.attempts = (ends ++ [e]).length)
      (hs : c.stage
        = .finished (.error (.retriesExhausted plan.backend plan.retry.maxAttempts f))) :
      Chronicle plan c (tried (ends ++ [e]))
  | running {ends : List (AttemptEnd α)} {a : RunningAttempt} (passed : Passed plan ends)
      (hlt : ends.length < plan.retry.maxAttempts) (hn : c.attempts = ends.length + 1)
      (hs : c.stage = .running a) : Chronicle plan c (tried ends ++ [.started])
  | concluded {ends : List (AttemptEnd α)} {e : AttemptEnd α} (passed : Passed plan ends)
      (hlt : ends.length < plan.retry.maxAttempts) (hn : c.attempts = ends.length + 1)
      (hs : Concluded plan (ends.length + 1) e c.stage) : Chronicle plan c (tried (ends ++ [e]))
  | refused {ends : List (AttemptEnd α)} (passed : Passed plan ends)
      (hlt : ends.length < plan.retry.maxAttempts) (hn : c.attempts = ends.length)
      (hs : c.stage = .finished (.error (.circuitOpen plan.backend))) :
      Chronicle plan c (tried ends ++ [.refused])

namespace Chronicle

theorem of_between (h : Chronicle plan c marks)
    (hs : c.stage = .ready ∨ ∃ w, c.stage = .waiting w) :
    ∃ ends, Passed plan ends ∧ ends.length < plan.retry.maxAttempts ∧
      c.attempts = ends.length ∧ marks = tried ends := by
  cases h with
  | between passed hlt hn _ => exact ⟨_, passed, hlt, hn, rfl⟩
  | exhausted _ _ _ _ hs' => simp [hs'] at hs
  | running _ _ _ hs' => simp [hs'] at hs
  | concluded _ _ _ hs' =>
    rcases hs with hs | ⟨w, hs⟩ <;>
    · rw [hs] at hs'
      cases hs'
  | refused _ _ _ hs' => simp [hs'] at hs

theorem of_running (h : Chronicle plan c marks) {a : RunningAttempt} (hs : c.stage = .running a) :
    ∃ ends, Passed plan ends ∧ ends.length < plan.retry.maxAttempts ∧
      c.attempts = ends.length + 1 ∧ marks = tried ends ++ [.started] := by
  cases h with
  | between _ _ _ hs' =>
    rw [hs] at hs'
    cases hs'
  | exhausted _ _ _ _ hs' => cases hs.symm.trans hs'
  | running passed hlt hn _ => exact ⟨_, passed, hlt, hn, rfl⟩
  | concluded _ _ _ hs' =>
    rw [hs] at hs'
    cases hs'
  | refused _ _ _ hs' => cases hs.symm.trans hs'

/-! ### One turn -/

/-- An attempt that fails is seen to end, and what follows stands in the chronicle. -/
theorem failure (passed : Passed plan ends) (hlt : ends.length < plan.retry.maxAttempts)
    (hn : c.attempts = ends.length + 1) {e : AttemptEnd α} {f : Failure}
    (he : e.failure? plan = some f) (hfinal : f.category ≠ .transient → e = .failed f)
    {now : Nat} {c' : Call α} (next : c.Sequel plan now f c') :
    Chronicle plan c' (tried ends ++ [.started] ++ [.ended e]) := by
  rw [tried_concat]
  have hlength : (ends ++ [e]).length = ends.length + 1 := by simp
  have hpassed : f.category = .transient → Passed plan (ends ++ [e]) := by
    intro hf
    refine ⟨fun e' he' => ?_, by omega⟩
    rcases List.mem_append.mp he' with hmem | hmem
    · exact passed.passing e' hmem
    · obtain rfl := List.mem_singleton.mp hmem
      exact ⟨f, he, hf⟩
  -- only a failure that may pass puts the attempt among those that have passed
  cases next with
  | final hf =>
    obtain rfl := hfinal hf
    exact .concluded passed hlt hn (.failed hf)
  | exhausted hf hmax =>
    have hall : (ends ++ [e]).length = plan.retry.maxAttempts := by omega
    have hn' : c.attempts = (ends ++ [e]).length := by omega
    refine .exhausted (hpassed hf) hall he hn' ?_
    rw [← hall, ← hn']
    rfl
  | lost hf hmore hw =>
    exact .between (hpassed hf) (by omega) (hn.trans hlength.symm) (.lost _)
  | late hf hmore hw hd =>
    refine .between (hpassed hf) (by omega) (hn.trans hlength.symm) ?_
    rw [finish, hlength, ← hn]
    exact .late
  | waits hf hmore hw hd =>
    exact .between (hpassed hf) (by omega) (hn.trans hlength.symm) (.waiting _)

/-- **A turn continues the chronicle.** -/
theorem step (h : Chronicle plan c marks) (hc : c.Coherent plan) (t : CallTurn α) :
    Chronicle plan (c.step plan t) (marks ++ (c.mark? plan t).toList) := by
  have hacted := acted hc t
  change Acted plan c t (c.mark? plan t) (c.act plan t).1 (c.step plan t) at hacted
  generalize c.mark? plan t = mark, (c.act plan t).1 = b, c.step plan t = c' at hacted ⊢
  cases hacted with
  | idle _ =>
    rw [Option.toList_none, List.append_nil]
    exact h
  | late hs he hd =>
    obtain ⟨ends, passed, hlt, hn, rfl⟩ := h.of_between (.inl hs)
    rw [Option.toList_none, List.append_nil]
    refine .between passed hlt hn ?_
    rw [finish, hn]
    exact .late
  | refused hs he hd hb =>
    obtain ⟨ends, passed, hlt, hn, rfl⟩ := h.of_between (.inl hs)
    exact .refused passed hlt hn rfl
  | started hs he hd hb hsince fits =>
    obtain ⟨ends, passed, hlt, hn, rfl⟩ := h.of_between (.inl hs)
    exact .running passed hlt (congrArg (· + 1) hn) rfl
  | produced hs he =>
    obtain ⟨ends, passed, hlt, hn, rfl⟩ := h.of_running hs
    rw [Option.toList_some, tried_concat]
    exact .concluded passed hlt hn (.produced _)
  | failed hs he next =>
    obtain ⟨ends, passed, hlt, hn, rfl⟩ := h.of_running hs
    exact failure passed hlt hn rfl (fun _ => rfl) next
  | timedOut hs he hlong next =>
    obtain ⟨ends, passed, hlt, hn, rfl⟩ := h.of_running hs
    exact failure passed hlt hn rfl (fun hf => absurd rfl hf) next
  | cutShort hs he hshort =>
    obtain ⟨ends, passed, hlt, hn, rfl⟩ := h.of_running hs
    rw [Option.toList_some, tried_concat]
    refine .concluded passed hlt hn ?_
    rw [finish, hn]
    exact .cutShort
  | woken hs he =>
    obtain ⟨ends, passed, hlt, hn, rfl⟩ := h.of_between (.inr ⟨_, hs⟩)
    rw [Option.toList_none, List.append_nil]
    exact .between passed hlt hn .ready
  | abandoned hs he =>
    obtain ⟨ends, passed, hlt, hn, rfl⟩ := h.of_running hs
    rw [Option.toList_some, tried_concat]
    exact .concluded passed hlt hn .abandoned
  | left hs he =>
    obtain ⟨ends, passed, hlt, hn, rfl⟩ := h.of_between hs
    rw [Option.toList_none, List.append_nil]
    exact .between passed hlt hn .left

/-- And so does a run. -/
theorem run (h : Chronicle plan c marks) (hc : c.Coherent plan) (turns : List (CallTurn α)) :
    Chronicle plan (c.run plan turns) (marks ++ c.marks plan turns) := by
  induction turns generalizing c marks with
  | nil =>
    rw [Call.marks, List.append_nil]
    exact h
  | cons t turns ih =>
    rw [Call.marks, ← List.append_assoc]
    exact ih (h.step hc t) (hc.step t)

end Chronicle

/-- The chronicle of a call from its beginning on, if one attempt at least is allowed. -/
theorem chronicle_run (hmax : 0 < plan.retry.maxAttempts) (now : Nat) (turns : List (CallTurn α)) :
    Chronicle plan ((start plan now).run plan turns) ((start plan now).marks plan turns) := by
  have hpassed : Passed plan ([] : List (AttemptEnd α)) := ⟨fun _ => nofun, Nat.zero_le _⟩
  have hstart : Chronicle plan (start plan now : Call α) [] := by
    refine .between hpassed hmax (attempts_start plan now) ?_
    rcases stage_start (α := α) plan now with hs | hs
    · rw [hs]
      exact .ready
    · rw [hs]
      exact .lost _
  exact hstart.run (coherent_start plan now) turns

/-! ### The answer -/

theorem Passed.not_last (h : Passed plan ends) {e : AttemptEnd α} (he : ¬ e.Passing plan) :
    ends.getLast? ≠ some e :=
  fun hlast => he (h.passing e (List.mem_of_getLast? hlast))

theorem Concluded.not_passing {n : Nat} {e : AttemptEnd α} {stage : CallStage α}
    (h : Concluded plan n e stage) : ¬ e.Passing plan := by
  cases h with
  | produced v => exact AttemptEnd.not_passing rfl
  | failed hf => exact mt (AttemptEnd.passing_iff rfl).mp hf
  | cutShort => exact AttemptEnd.not_passing rfl
  | abandoned => exact AttemptEnd.not_passing rfl

namespace Chronicle

theorem starts_eq (h : Chronicle plan c marks) : starts marks = c.attempts := by
  cases h with
  | between _ _ hn _ => rw [starts_tried, hn]
  | exhausted _ _ _ hn _ => rw [starts_tried, hn]
  | running _ _ hn _ =>
    rw [starts_append, starts_tried, hn]
    rfl
  | concluded _ _ hn _ => rw [starts_tried, hn, List.length_append, List.length_singleton]
  | refused _ _ hn _ =>
    rw [starts_append, starts_tried, hn]
    rfl

theorem attempts_le (h : Chronicle plan c marks) : c.attempts ≤ plan.retry.maxAttempts := by
  cases h with
  | between _ hlt hn _ => omega
  | exhausted _ hlen _ hn _ => omega
  | running _ hlt hn _ => omega
  | concluded _ hlt hn _ => omega
  | refused _ hlt hn _ => omega

/-- Every attempt but the last ended in a way that may pass. -/
theorem passing_of_lt (h : Chronicle plan c marks) {i : Nat} (hi : i + 1 < starts marks) :
    ∃ e, (endings marks)[i]? = some e ∧ e.Passing plan := by
  have hpassed : ∀ {ends rest : List (AttemptEnd α)}, Passed plan ends → i < ends.length →
      ∃ e, (ends ++ rest)[i]? = some e ∧ e.Passing plan := by
    intro ends rest passed hlt
    refine ⟨ends[i], ?_, passed.passing _ (List.getElem_mem hlt)⟩
    rw [List.getElem?_append_left hlt, List.getElem?_eq_getElem hlt]
  rw [h.starts_eq] at hi
  cases h with
  | @between ends passed _ hn _ =>
    rw [endings_tried, ← List.append_nil ends]
    exact hpassed passed (by omega)
  | exhausted passed _ _ hn _ =>
    rw [endings_tried, ← List.append_nil (_ ++ _)]
    exact hpassed passed (by omega)
  | running passed _ hn _ =>
    rw [endings_append, endings_tried]
    exact hpassed passed (by omega)
  | concluded passed _ hn _ =>
    rw [endings_tried]
    exact hpassed passed (by omega)
  | refused passed _ hn _ =>
    rw [endings_append, endings_tried]
    exact hpassed passed (by omega)

/-- Unless the last attempt ended otherwise, they all ended in a way that may pass, and then neither
a value nor a failure that is final is the answer. -/
theorem passed_or_concluded (h : Chronicle plan c marks) :
    (Passed plan (endings marks) ∧ (∀ v, c.stage ≠ .finished (.ok v)) ∧
        ∀ b f, c.stage ≠ .finished (.error (.backend b f))) ∨
      ∃ ends e, endings marks = ends ++ [e] ∧ Concluded plan (starts marks) e c.stage := by
  cases h with
  | between passed _ _ hs =>
    rw [endings_tried]
    refine .inl ⟨passed, fun v hs' => ?_, fun b f hs' => ?_⟩
    · cases hs.finished hs'
    · cases hs.finished hs'
  | exhausted passed _ _ _ hs =>
    rw [endings_tried, hs]
    exact .inl ⟨passed, fun _ => nofun, fun _ _ => nofun⟩
  | running passed _ _ hs =>
    rw [endings_tried_concat _ rfl, hs]
    exact .inl ⟨passed, fun _ => nofun, fun _ _ => nofun⟩
  | concluded _ _ _ hs =>
    rw [endings_tried, starts_tried, List.length_append, List.length_singleton]
    exact .inr ⟨_, _, rfl, hs⟩
  | refused passed _ _ hs =>
    rw [endings_tried_concat _ rfl, hs]
    exact .inl ⟨passed, fun _ => nofun, fun _ _ => nofun⟩

/-- A value is the answer exactly if the last attempt produced it. -/
theorem ok_iff (h : Chronicle plan c marks) (v : α) :
    c.stage = .finished (.ok v) ↔ (endings marks).getLast? = some (.produced v) := by
  rcases h.passed_or_concluded with ⟨passed, hno, -⟩ | ⟨ends, e, hends, hs⟩
  · exact iff_of_false (hno v) (passed.not_last (AttemptEnd.not_passing rfl))
  · rw [hends, List.getLast?_concat]
    generalize c.stage = stage at hs ⊢
    cases hs <;> simp

/-- A failure is the answer exactly if the last attempt ended with it, and it is final. -/
theorem backend_iff (h : Chronicle plan c marks) (b : String) (f : Failure) :
    c.stage = .finished (.error (.backend b f)) ↔
      b = plan.backend ∧ (endings marks).getLast? = some (.failed f) ∧ f.category ≠ .transient := by
  rcases h.passed_or_concluded with ⟨passed, -, hno⟩ | ⟨ends, e, hends, hs⟩
  · refine iff_of_false (hno b f) ?_
    rintro ⟨-, hlast, hf⟩
    exact passed.not_last (mt (AttemptEnd.passing_iff rfl).mp hf) hlast
  · rw [hends, List.getLast?_concat]
    generalize c.stage = stage at hs ⊢
    cases hs with
    | produced v => simp
    | failed hf =>
      constructor
      · intro heq
        cases heq
        exact ⟨rfl, rfl, hf⟩
      · rintro ⟨rfl, hlast, -⟩
        cases hlast
        rfl
    | cutShort => simp
    | abandoned => simp

/-- The answer is that the attempts are used up exactly if as many as allowed were made, and all of
them ended in a way that may pass. -/
theorem exhausted_iff (h : Chronicle plan c marks) (b : String) (n : Nat) (f : Failure) :
    c.stage = .finished (.error (.retriesExhausted b n f)) ↔
      b = plan.backend ∧ n = plan.retry.maxAttempts ∧
        (endings marks).length = plan.retry.maxAttempts ∧ (∀ e ∈ endings marks, e.Passing plan) ∧
        ∃ e, (endings marks).getLast? = some e ∧ e.failure? plan = some f := by
  cases h with
  | between _ hlt _ hs =>
    rw [endings_tried]
    exact iff_of_false (fun hs' => nomatch hs.finished hs')
      fun ⟨_, _, hlen, _⟩ => Nat.ne_of_lt hlt hlen
  | @exhausted ends e g passed hlen hg _ hs =>
    rw [endings_tried, hs, List.getLast?_concat]
    constructor
    · intro heq
      cases heq
      exact ⟨rfl, rfl, hlen, passed.passing, e, rfl, hg⟩
    · rintro ⟨rfl, rfl, -, -, e', he', hf⟩
      obtain rfl := Option.some.inj he'
      obtain rfl := Option.some.inj (hg.symm.trans hf)
      rfl
  | running _ hlt _ hs =>
    rw [endings_tried_concat _ rfl]
    exact iff_of_false (fun hs' => nomatch hs.symm.trans hs')
      fun ⟨_, _, hlen, _⟩ => Nat.ne_of_lt hlt hlen
  | concluded _ _ _ hs =>
    rw [endings_tried]
    refine iff_of_false (fun hs' => ?_) fun ⟨_, _, _, hall, _⟩ => hs.not_passing (hall _ (by simp))
    rw [hs'] at hs
    cases hs
  | refused _ hlt _ hs =>
    rw [endings_tried_concat _ rfl]
    exact iff_of_false (fun hs' => nomatch hs.symm.trans hs')
      fun ⟨_, _, hlen, _⟩ => Nat.ne_of_lt hlt hlen

/-- A refusal is the answer exactly if the breaker refused an attempt. -/
theorem circuitOpen_iff (h : Chronicle plan c marks) (b : String) :
    c.stage = .finished (.error (.circuitOpen b)) ↔ b = plan.backend ∧ .refused ∈ marks := by
  cases h with
  | between _ _ _ hs =>
    exact iff_of_false (fun hs' => nomatch hs.finished hs') fun h => refused_not_mem_tried _ h.2
  | exhausted _ _ _ _ hs =>
    exact iff_of_false (fun hs' => nomatch hs.symm.trans hs') fun h => refused_not_mem_tried _ h.2
  | running _ _ _ hs =>
    exact iff_of_false (fun hs' => nomatch hs.symm.trans hs') fun h => refused_not_mem_running _ h.2
  | concluded _ _ _ hs =>
    refine iff_of_false (fun hs' => ?_) fun h => refused_not_mem_tried _ h.2
    rw [hs'] at hs
    cases hs
  | refused _ _ _ hs =>
    rw [hs]
    constructor
    · intro heq
      cases heq
      exact ⟨rfl, by simp⟩
    · rintro ⟨rfl, -⟩
      rfl

/-- After a refusal no attempt is started. -/
theorem refused_last (h : Chronicle plan c marks) {u v : List (CallMark α)}
    (hsplit : marks = u ++ .refused :: v) : v = [] := by
  have htried : ∀ {ends : List (AttemptEnd α)}, tried ends ≠ u ++ .refused :: v := by
    intro ends heq
    exact refused_not_mem_tried ends (heq ▸ by simp)
  cases h with
  | between _ _ _ _ => exact absurd hsplit htried
  | exhausted _ _ _ _ _ => exact absurd hsplit htried
  | concluded _ _ _ _ => exact absurd hsplit htried
  | @running ends a _ _ _ _ => exact absurd (hsplit ▸ by simp) (refused_not_mem_running ends)
  | @refused ends _ _ _ _ =>
    rcases List.eq_nil_or_concat v with rfl | ⟨v', m, rfl⟩
    · rfl
    · -- the refusal would stand among the attempts
      rw [List.concat_eq_append, ← List.cons_append, ← List.append_assoc] at hsplit
      have htail : tried ends = u ++ .refused :: v' := List.append_inj_left' hsplit rfl
      have hmem : (.refused : CallMark α) ∈ tried ends := by
        rw [htail]
        simp
      exact absurd hmem (refused_not_mem_tried ends)

/-- The answer that the deadline is exceeded comes with the number of attempts. -/
theorem deadlineExceeded_eq (h : Chronicle plan c marks) {b : String} {n : Nat}
    (hs' : c.stage = .finished (.error (.deadlineExceeded b n))) :
    b = plan.backend ∧ n = starts marks := by
  cases h with
  | between _ _ _ hs =>
    rw [hs'] at hs
    cases hs
    exact ⟨rfl, (starts_tried _).symm⟩
  | exhausted _ _ _ _ hs => cases hs.symm.trans hs'
  | running _ _ _ hs => cases hs.symm.trans hs'
  | concluded _ _ _ hs =>
    rw [hs'] at hs
    cases hs
    rw [starts_tried, List.length_append, List.length_singleton]
    exact ⟨rfl, rfl⟩
  | refused _ _ _ hs => cases hs.symm.trans hs'

/-- A call that is over has answered, unless it was abandoned or has crashed; and if the answer is
none of the others, the deadline is exceeded. -/
theorem deadlineExceeded_of_over (h : Chronicle plan c marks) (hover : c.isOver = true)
    (hleft : c.stage ≠ .cancelled) (hcrash : ∀ fault, c.stage ≠ .crashed fault)
    (hok : ∀ v, c.stage ≠ .finished (.ok v))
    (hexhausted : ∀ b n f, c.stage ≠ .finished (.error (.retriesExhausted b n f)))
    (hbackend : ∀ b f, c.stage ≠ .finished (.error (.backend b f)))
    (hopen : ∀ b, c.stage ≠ .finished (.error (.circuitOpen b))) :
    c.stage = .finished (.error (.deadlineExceeded plan.backend (starts marks))) := by
  cases h with
  | between _ _ _ hs =>
    rw [starts_tried]
    unfold isOver at hover
    generalize c.stage = stage at *
    cases hs with
    | ready => cases hover
    | waiting w => cases hover
    | late => rfl
    | left => exact absurd rfl hleft
    | lost fault => exact absurd rfl (hcrash fault)
  | exhausted _ _ _ _ hs => exact absurd hs (hexhausted _ _ _)
  | running _ _ _ hs => simp [isOver, hs] at hover
  | concluded _ _ _ hs =>
    rw [starts_tried, List.length_append, List.length_singleton]
    generalize c.stage = stage at *
    cases hs with
    | produced v => exact absurd rfl (hok v)
    | failed hf => exact absurd rfl (hbackend _ _)
    | cutShort => rfl
    | abandoned => exact absurd rfl hleft
  | refused _ _ _ hs => exact absurd hs (hopen _)

end Chronicle

/-- **The answer of a call.**  Let a call be allowed one attempt at least, and let it go on in
whatever way: attempts end as they like and when they like, the breakers are at every turn whatever
others have made of them, and the call may be abandoned.  Then no more attempts are started than
allowed, and every attempt but the last ended in a way that may pass.  A value is the answer
exactly if the last attempt produced it; that the attempts are used up, exactly if all that are
allowed were made and ended in a way that may pass, with the failure of the last one; a failure of
the backend, exactly if the last attempt ended with it and it is final; that the circuit is open,
exactly if the breaker refused an attempt, and then none follows.  That the deadline is exceeded
comes with the number of attempts, and it is the answer in all other cases exactly if every time
that the call needs can be represented: its deadline, and the ends of its delays. -/
theorem answer_iff (plan : CallPlan) (now : Nat) (turns : List (CallTurn α))
    (hmax : 0 < plan.retry.maxAttempts) :
    let c := (start plan now).run plan turns
    let seen := (start plan now).marks plan turns
    starts seen ≤ plan.retry.maxAttempts ∧
    (∀ i, i + 1 < starts seen → ∃ e, (endings seen)[i]? = some e ∧ e.Passing plan) ∧
    (∀ v, c.stage = .finished (.ok v) ↔ (endings seen).getLast? = some (.produced v)) ∧
    (∀ b n f, c.stage = .finished (.error (.retriesExhausted b n f)) ↔
      b = plan.backend ∧ n = plan.retry.maxAttempts ∧
        (endings seen).length = plan.retry.maxAttempts ∧ (∀ e ∈ endings seen, e.Passing plan) ∧
        ∃ e, (endings seen).getLast? = some e ∧ e.failure? plan = some f) ∧
    (∀ b f, c.stage = .finished (.error (.backend b f)) ↔
      b = plan.backend ∧ (endings seen).getLast? = some (.failed f) ∧ f.category ≠ .transient) ∧
    (∀ b, c.stage = .finished (.error (.circuitOpen b)) ↔ b = plan.backend ∧ .refused ∈ seen) ∧
    (∀ u v, seen = u ++ .refused :: v → v = []) ∧
    (∀ b n, c.stage = .finished (.error (.deadlineExceeded b n)) →
      b = plan.backend ∧ n = starts seen) ∧
    (c.isOver = true → c.stage ≠ .cancelled →
      (((∀ v, c.stage ≠ .finished (.ok v)) →
        (∀ b n f, c.stage ≠ .finished (.error (.retriesExhausted b n f))) →
        (∀ b f, c.stage ≠ .finished (.error (.backend b f))) →
        (∀ b, c.stage ≠ .finished (.error (.circuitOpen b))) →
        c.stage = .finished (.error (.deadlineExceeded plan.backend (starts seen)))) ↔
      ¬ (Clock.after? now plan.retry.deadline = none ∨ Stranded plan (start plan now) turns))) := by
  intro c seen
  have h : Chronicle plan c seen := chronicle_run hmax now turns
  refine ⟨h.starts_eq ▸ h.attempts_le, fun i => h.passing_of_lt, h.ok_iff, h.exhausted_iff,
    h.backend_iff, h.circuitOpen_iff, fun u v => h.refused_last,
    fun b n => h.deadlineExceeded_eq, fun hover hleft => ?_⟩
  rw [← crashed_iff plan now turns]
  constructor
  · -- a call that has crashed has none of these answers
    rintro hanswer ⟨fault, hcrash⟩
    have hs : c.stage = .crashed fault := hcrash
    have hlate := hanswer (by simp [hs]) (by simp [hs]) (by simp [hs]) (by simp [hs])
    cases hs.symm.trans hlate
  · intro hcrash
    exact h.deadlineExceeded_of_over hover hleft fun fault hs => hcrash ⟨fault, hs⟩

/-- Two attempts that fail, with no delay between them. -/
theorem answer_of_two_failures :
    let plan : CallPlan := {
      backend := "b", timeout := .ofSecs 30, factor := fun _ => ⟨1, 0⟩
      retry := { maxAttempts := 2, baseDelay := .zero } }
    let f : Failure := { category := .transient, message := "m" }
    let turns : List (CallTurn String) :=
      [.attempt, .complete (.error f), .wake, .attempt, .complete (.error f)].map
        fun event => { now := 0, breakers := {}, event }
    let c := (start plan 0).run plan turns
    0 < plan.retry.maxAttempts ∧ c.stage = .finished (.error (.retriesExhausted "b" 2 f)) ∧
      ¬ (Clock.after? 0 plan.retry.deadline = none ∨ Stranded plan (start plan 0) turns) := by
  intro plan f turns c
  have hmax : 0 < plan.retry.maxAttempts := by decide
  obtain ⟨-, -, -, hexhausted, -, -, -, -, hlast⟩ := answer_iff plan 0 turns hmax
  have hends : endings ((start plan 0).marks plan turns) = [.failed f, .failed f] := by decide
  have hs : c.stage = .finished (.error (.retriesExhausted "b" 2 f)) := by
    refine (hexhausted "b" 2 f).mpr ?_
    rw [hends]
    refine ⟨rfl, rfl, rfl, fun e he => ?_, _, rfl, rfl⟩
    obtain rfl : e = .failed f := by simpa using he
    exact ⟨f, rfl, rfl⟩
  refine ⟨hmax, hs, (hlast ?_ ?_).mp fun _ hno _ _ => absurd hs (hno "b" 2 f)⟩
  · show c.isOver = true
    unfold isOver
    rw [hs]
  · show c.stage ≠ .cancelled
    simp [hs]

/-- The first delay is as long as a duration can be, and after it the call has no answer, though its
deadline is a minute away and no other answer is due. -/
theorem no_answer_after_longest_delay :
    let plan : CallPlan := {
      backend := "b", timeout := .ofSecs 30, factor := fun _ => ⟨1, -1⟩
      retry := {
        maxAttempts := 3, deadline := .ofSecs 60
        baseDelay := .ofSecs 18446744073709551615, maxDelay := .ofSecs 18446744073709551615 } }
    let turns : List (CallTurn String) := [
      { now := 0, breakers := {}, event := .attempt },
      { now := 0, breakers := {}
        event := .complete (.error { category := .transient, message := "m" }) }]
    let c := (start plan 0).run plan turns
    0 < plan.retry.maxAttempts ∧ c.isOver = true ∧ c.stage ≠ .cancelled ∧
      ∀ result, c.stage ≠ .finished result := by
  intro plan turns c
  have hs : c.stage = .crashed .wakeUp := fault?_eq_some.mp (by decide)
  exact ⟨by decide, by decide, by simp [hs], fun result => by simp [hs]⟩

end Call

end Dispatch
