/-
Dispatch/Proofs/Handling/Exchange.lean

An exchange lands whole, once, or not at all.

`Progress` says, for every stage of a handling, what the log has of it: which calls it has made,
what they were answered, and what others have landed between them.  A handling that waits to store
its reply has opened its conversation and landed nothing; one that waits after a conflict has in
addition been overtaken by others.  A turn of somebody else only makes the last part of the log
longer (`Progress.step_other`), and a turn of its own moves a handling from one line of `Progress`
to the next.

That a conflict means that others have landed something comes from the versions: since a
conversation was answered, its version has moved by what was landed, and by nothing else.
-/
import Dispatch.Proofs.Handling.Concurrent

namespace Dispatch

/-! ### How far a handling has come -/

/-- The call that has opened the conversation of a handling. -/
def TaskRequest.openedAs (r : TaskRequest) (i : Nat) (history : Conversation) :
    Served (Option Nat) where
  client := some i
  call := .getOrCreate r.conversation r.task.project
  answer := .ok (some history)

/-- A call of a handling that has landed an exchange behind `old`. -/
def TaskRequest.landedAs (r : TaskRequest) (i : Nat) (old exchange : List Message)
    (stored : Conversation) : Served (Option Nat) where
  client := some i
  call := .append r.conversation exchange old.length
  answer := .ok (some stored)

/-- Others have landed at least twice between the first call of a handling and its last, which is
an append. -/
def Overtaken (r : TaskRequest) (i : Nat) (rs : List (Served (Option Nat))) : Prop :=
  ∃ before history between last after,
    rs = before ++ r.openedAs i history :: (between ++ last :: after) ∧
    Silent i before ∧ Silent i after ∧
    last.client = some i ∧
    (∃ messages expected, last.call = .append r.conversation messages expected) ∧
    2 ≤ (strangers i r.conversation between).length

/-- What the log has of a handling at each of its stages. -/
inductive Progress (r : TaskRequest) (i : Nat) :
    Option HandlingStage → List (Served (Option Nat)) → Prop
  | waiting {rs : List (Served (Option Nat))} (h : Silent i rs) : Progress r i none rs
  | opening {rs : List (Served (Option Nat))} (h : Silent i rs) : Progress r i (some .opening) rs
  | onward {before since : List (Served (Option Nat))} {history : Conversation}
      {stage : HandlingStage} (hb : Silent i before) (hs : Silent i since)
      (h : Onward r history stage) :
      Progress r i (some stage) (before ++ r.openedAs i history :: since)
  | reloading {before between since : List (Served (Option Nat))} {history : Conversation}
      {x : Served (Option Nat)} {reply : Reply} (hb : Silent i before) (hm : Silent i between)
      (hs : Silent i since) (hx : x.landing? = none) (hreply : reply.Whole r)
      (hpos : 1 ≤ (strangers i r.conversation between).length) :
      Progress r i (some (.reloading reply))
        (before ++ r.openedAs i history :: (between ++ x :: since))
  | storingAgain {before between between' since : List (Served (Option Nat))}
      {history fresh : Conversation} {x y : Served (Option Nat)} {reply : Reply}
      (hb : Silent i before) (hm : Silent i between) (hm' : Silent i between')
      (hs : Silent i since) (hx : x.landing? = none) (hy : y.call = .load r.conversation)
      (hfresh : y.answer = .ok (some fresh)) (hreply : reply.Whole r)
      (hpos : 1 ≤ (strangers i r.conversation between).length) :
      Progress r i (some (.storingAgain fresh.version reply))
        (before ++ r.openedAs i history :: (between ++ x :: (between' ++ y :: since)))
  | stored {before since : List (Served (Option Nat))} {old : List Message} {stamp : Timestamp}
      {stored : Conversation} {response : TaskResponse} (hb : landedBy i before = [])
      (hs : Silent i since) (hid : response.conversation = r.conversation)
      (hversion : response.version = old.length + 2)
      (hmessages : stored.messages = old ++ [Message.said .user r.task.payload stamp,
        Message.said .assistant response.content stamp]) :
      Progress r i (some (.finished (.ok response)))
        (before ++ r.landedAs i old [Message.said .user r.task.payload stamp,
          Message.said .assistant response.content stamp] stored :: since)
  | failed {rs : List (Served (Option Nat))} {e : HandlingError} (h : landedBy i rs = [])
      (hcode : e.code = "version_conflict" → Overtaken r i rs) :
      Progress r i (some (.finished (.error e))) rs
  | cancelled {rs : List (Served (Option Nat))} (h : landedBy i rs = []) :
      Progress r i (some .cancelled) rs

/-! #### Turns of others -/

theorem Overtaken.append_singleton {r : TaskRequest} {i : Nat} {rs : List (Served (Option Nat))}
    {x : Served (Option Nat)} (h : Overtaken r i rs) (hx : x.client ≠ some i) :
    Overtaken r i (rs ++ [x]) := by
  obtain ⟨before, history, between, last, after, rfl, hb, ha, hlast⟩ := h
  refine ⟨before, history, between, last, after ++ [x], ?_, hb, ha.append_singleton hx, hlast⟩
  simp

namespace Progress

variable {r : TaskRequest} {i : Nat} {stage : Option HandlingStage}
  {rs : List (Served (Option Nat))} {x : Served (Option Nat)}

/-- What others do leaves a handling where it is. -/
theorem step_other (h : Progress r i stage rs) (hx : x.client ≠ some i) :
    Progress r i stage (rs ++ [x]) := by
  -- in every case the call joins the last part of the log, where the handling is silent
  cases h with
  | waiting h => exact .waiting (h.append_singleton hx)
  | opening h => exact .opening (h.append_singleton hx)
  | onward hb hs h =>
    rw [List.append_assoc, List.cons_append]
    exact .onward hb (hs.append_singleton hx) h
  | reloading hb hm hs hnone hreply hpos =>
    rw [List.append_assoc, List.cons_append, List.append_assoc, List.cons_append]
    exact .reloading hb hm (hs.append_singleton hx) hnone hreply hpos
  | storingAgain hb hm hm' hs hnone hload hfresh hreply hpos =>
    rw [List.append_assoc, List.cons_append, List.append_assoc, List.cons_append,
      List.append_assoc, List.cons_append]
    exact .storingAgain hb hm hm' (hs.append_singleton hx) hnone hload hfresh hreply hpos
  | stored hb hs hid hversion hmessages =>
    rw [List.append_assoc, List.cons_append]
    exact .stored hb (hs.append_singleton hx) hid hversion hmessages
  | failed h hcode =>
    refine .failed ?_ fun he => (hcode he).append_singleton hx
    rw [landedBy_append, h, List.nil_append]
    exact landedBy_of_silent (by simpa [Silent] using hx)
  | cancelled h =>
    refine .cancelled ?_
    rw [landedBy_append, h, List.nil_append]
    exact landedBy_of_silent (by simpa [Silent] using hx)

/-- Until it has succeeded, a handling has landed nothing. -/
theorem landedBy_eq_nil (h : Progress r i stage rs)
    (hstage : ∀ response, stage ≠ some (.finished (.ok response))) : landedBy i rs = [] := by
  cases h with
  | waiting h => exact landedBy_of_silent h
  | opening h => exact landedBy_of_silent h
  | onward hb hs _ =>
    rw [landedBy_append, landedBy_of_silent hb, landedBy_cons_of_none rfl, landedBy_of_silent hs]
    rfl
  | reloading hb hm hs hnone _ _ =>
    rw [landedBy_append, landedBy_of_silent hb, landedBy_cons_of_none rfl, landedBy_append,
      landedBy_of_silent hm, landedBy_cons_of_none hnone, landedBy_of_silent hs]
    rfl
  | storingAgain hb hm hm' hs hnone hload _ _ _ =>
    have hnone' := Served.landing?_of_load hload
    rw [landedBy_append, landedBy_of_silent hb, landedBy_cons_of_none rfl, landedBy_append,
      landedBy_of_silent hm, landedBy_cons_of_none hnone, landedBy_append,
      landedBy_of_silent hm', landedBy_cons_of_none hnone', landedBy_of_silent hs]
    rfl
  | stored _ _ _ _ _ => exact absurd rfl (hstage _)
  | failed h _ => exact h
  | cancelled h => exact h

/-! #### Turns of its own -/

variable {w : Handlings} {d : Dispatcher} {now : Nat} {s : Shared} {at' : Timestamp}

/-- A handling that has landed nothing may be given up. -/
theorem cancel {stage : HandlingStage} (h : Progress r i (some stage) rs) :
    Progress r i (some (Handling.cancel s stage).2) rs := by
  have hnil := h.landedBy_eq_nil
  cases stage with
  | finished result => exact h
  | crashed fault => exact h
  | cancelled => exact h
  | opening => exact .cancelled (hnil nofun)
  | calling history reason current rest => exact .cancelled (hnil nofun)
  | storing version reply => exact .cancelled (hnil nofun)
  | reloading reply => exact .cancelled (hnil nofun)
  | storingAgain version reply => exact .cancelled (hnil nofun)

theorem begin (h : Progress r i none rs) :
    Progress r i (some (Handling.begin r now s).2) rs := by
  cases h with
  | waiting h =>
    rcases Handling.begin_cases r now s with hstage | ⟨e, he, hstage⟩ <;> rw [hstage]
    · exact .opening h
    · exact .failed (landedBy_of_silent h) fun hcode => absurd hcode he

theorem callStep {stage : HandlingStage} (h : Progress r i (some stage) rs)
    (step : CallPlan → Breakers → Call Response → Breakers × Call Response) :
    Progress r i (some (Handling.callStep d r now step s stage).2) rs := by
  cases stage with
  | calling history reason current rest =>
    cases h with
    | onward hb hs h =>
      cases h with
      | calling _ _ _ => exact .onward hb hs Handling.onward_callStep
  | opening => exact h
  | storing version reply => exact h
  | reloading reply => exact h
  | storingAgain version reply => exact h
  | finished result => exact h
  | cancelled => exact h
  | crashed fault => exact h

/-! #### What a stage says of the log -/

theorem of_opening (h : Progress r i (some .opening) rs) : Silent i rs := by
  cases h with
  | opening h => exact h
  | onward _ _ h => cases h

theorem of_storing {version : Nat} {reply : Reply}
    (h : Progress r i (some (.storing version reply)) rs) :
    reply.Whole r ∧ ∃ before history since, rs = before ++ r.openedAs i history :: since ∧
      Silent i before ∧ Silent i since ∧ version = history.version := by
  cases h with
  | onward hb hs h =>
    cases h with
    | storing hreply => exact ⟨hreply, _, _, _, rfl, hb, hs, rfl⟩

theorem of_reloading {reply : Reply} (h : Progress r i (some (.reloading reply)) rs) :
    reply.Whole r ∧ ∃ before history between x since,
      rs = before ++ r.openedAs i history :: (between ++ x :: since) ∧
      Silent i before ∧ Silent i between ∧ Silent i since ∧ x.landing? = none ∧
      1 ≤ (strangers i r.conversation between).length := by
  cases h with
  | onward _ _ h => cases h
  | reloading hb hm hs hx hreply hpos =>
    exact ⟨hreply, _, _, _, _, _, rfl, hb, hm, hs, hx, hpos⟩

theorem of_storingAgain {version : Nat} {reply : Reply}
    (h : Progress r i (some (.storingAgain version reply)) rs) :
    reply.Whole r ∧ ∃ before history between x between' y since fresh,
      rs = before ++ r.openedAs i history :: (between ++ x :: (between' ++ y :: since)) ∧
      Silent i before ∧ Silent i since ∧ y.call = .load r.conversation ∧
      y.answer = .ok (some fresh) ∧ version = fresh.version ∧
      1 ≤ (strangers i r.conversation between).length := by
  cases h with
  | onward _ _ h => cases h
  | storingAgain hb hm hm' hs hx hy hfresh hreply hpos =>
    exact ⟨hreply, _, _, _, _, _, _, _, _, rfl, hb, hs, hy, hfresh, rfl, hpos⟩

theorem of_stored {response : TaskResponse}
    (h : Progress r i (some (.finished (.ok response))) rs) :
    response.conversation = r.conversation ∧ ∃ before old stamp stored since,
      let exchange := [Message.said .user r.task.payload stamp,
        Message.said .assistant response.content stamp]
      rs = before ++ r.landedAs i old exchange stored :: since ∧
      landedBy i before = [] ∧ Silent i since ∧ response.version = old.length + 2 ∧
      stored.messages = old ++ exchange := by
  cases h with
  | onward _ _ h => cases h
  | stored hb hs hid hversion hmessages =>
    exact ⟨hid, _, _, _, _, _, rfl, hb, hs, hversion, hmessages⟩

theorem of_failed {e : HandlingError} (h : Progress r i (some (.finished (.error e))) rs)
    (hcode : e.code = "version_conflict") : Overtaken r i rs := by
  cases h with
  | onward _ _ h =>
    cases h with
    | failed hne => exact absurd hcode hne
  | failed _ hovertaken => exact hovertaken hcode

/-! #### Answers of the store -/

variable {l : StoreLog (Option Nat)} {t : Timestamp} {reply : Reply} {version : Nat}

/-- An append that was accepted has landed the exchange. -/
theorem succeed (hsound : l.Sound) (hnil : landedBy i l.served = []) (hreply : reply.Whole r)
    {c : Conversation} (hc : l.get? r.conversation = some c) (hversion : c.version = version)
    (ha : l.answer (.append r.conversation reply.exchange version) t
      = .ok (some (c.extended reply.exchange t))) :
    Progress r i (some (Handling.succeed r reply (c.extended reply.exchange t) s).2)
      (l.serve (some i) (.append r.conversation reply.exchange version) t).served := by
  obtain ⟨stamp, hexchange⟩ := hreply
  have hlength := (hsound.present hc).1
  subst hversion
  rw [StoreLog.served_serve, ha, hexchange, hlength]
  refine .stored hnil (fun _ => nofun) rfl ?_ rfl
  show c.version + _ = _
  rw [hlength]
  rfl

/-- A call that has failed has landed nothing. -/
theorem landedBy_serve_of_error {call : StoreCall} {e : StoreError}
    (hnil : landedBy i l.served = []) (ha : l.answer call t = .error e) :
    landedBy i (l.serve (some i) call t).served = [] := by
  rw [StoreLog.served_serve, landedBy_append, hnil, ha, List.nil_append]
  exact landedBy_cons_of_none (Served.landing?_of_error rfl)

/-- An append of the exchange is accepted, and ends the handling with a response; or others have
come first; or the conversation is gone. -/
theorem append_ends (s : Shared) (t : Timestamp) (version : Nat) (hsound : l.Sound)
    (hnil : landedBy i l.served = []) (hreply : reply.Whole r) :
    let call : StoreCall := .append r.conversation reply.exchange version
    let served := (l.serve (some i) call t).served
    (∃ c, l.answer call t = .ok (some c) ∧
      Progress r i (some (Handling.succeed r reply c s).2) served) ∨
    (∃ c, l.answer call t = .error (.versionConflict version c.version) ∧
      l.get? r.conversation = some c ∧ c.version ≠ version) ∨
    (∃ e, l.answer call t = .error (.notFound e) ∧
      Progress r i (some (Handling.fail (.ofStore (.notFound e)) s).2) served) := by
  intro call served
  rcases l.append_cases (some i) r.conversation reply.exchange version t with
    ⟨c, hc, heq, ha, -⟩ | ⟨c, hc, hne, ha, -⟩ | ⟨-, ha, -⟩
  · exact Or.inl ⟨_, ha, succeed hsound hnil hreply hc heq ha⟩
  · exact Or.inr (Or.inl ⟨c, ha, hc, hne⟩)
  · refine Or.inr (Or.inr ⟨_, ha, .failed (landedBy_serve_of_error hnil ha) fun hcode => ?_⟩)
    obtain ⟨_, _, he⟩ := HandlingError.code_ofStore_eq hcode
    cases he

theorem answered_opening (h : Progress r i (some .opening) l.served) :
    let call : StoreCall := .getOrCreate r.conversation r.task.project
    Progress r i (some (Handling.answered d r now (l.answer call t) s .opening).2)
      (l.serve (some i) call t).served := by
  intro call
  obtain ⟨history, ha⟩ : ∃ history, l.answer call t = .ok (some history) := l.exists_getOrCreate ..
  rw [StoreLog.served_serve, ha]
  exact .onward h.of_opening (fun _ => nofun) Handling.onward_route

theorem answered_storing (hsound : l.Sound) (hmem : l.Remembers)
    (h : Progress r i (some (.storing version reply)) l.served) :
    let call : StoreCall := .append r.conversation reply.exchange version
    Progress r i (some (Handling.answered d r now (l.answer call t) s (.storing version reply)).2)
      (l.serve (some i) call t).served := by
  intro call
  have hnil := h.landedBy_eq_nil nofun
  obtain ⟨hreply, before, history, since, hserved, hb, hs, hversion⟩ := h.of_storing
  rcases append_ends s t version hsound hnil hreply with
    ⟨c, ha, hend⟩ | ⟨c, ha, hc, hne⟩ | ⟨_, ha, hend⟩
  · rw [ha]
    exact hend
  · -- somebody has landed something since the conversation was opened
    have hlanded : landed r.conversation since ≠ [] :=
      hmem.landed_ne_nil hserved rfl hc (hversion ▸ hne)
    rw [ha, StoreLog.served_serve, hserved, ha, List.append_assoc, List.cons_append]
    exact .reloading hb hs (fun _ => nofun) rfl hreply (strangers_pos hlanded hs)
  · rw [ha]
    exact hend

theorem answered_reloading (h : Progress r i (some (.reloading reply)) l.served) :
    let call : StoreCall := .load r.conversation
    Progress r i (some (Handling.answered d r now (l.answer call t) s (.reloading reply)).2)
      (l.serve (some i) call t).served := by
  intro call
  have hnil := h.landedBy_eq_nil nofun
  obtain ⟨hreply, before, history, between, x, since, hserved, hb, hm, hs, hx, hpos⟩ :=
    h.of_reloading
  have ha : l.answer call t = .ok (l.get? r.conversation) := rfl
  rcases hc : l.get? r.conversation with - | fresh
  · -- a conversation does not go away, but nothing would be landed if it did
    rw [ha, hc]
    refine .failed ?_ fun hcode => ?_
    · rw [StoreLog.served_serve, landedBy_append, hnil, List.nil_append]
      exact landedBy_cons_of_none (Served.landing?_of_load rfl)
    · obtain ⟨_, _, he⟩ := HandlingError.code_ofStore_eq hcode
      cases he
  · rw [ha, hc, StoreLog.served_serve, hserved, List.append_assoc, List.cons_append,
      List.append_assoc, List.cons_append]
    exact .storingAgain hb hm hs (fun _ => nofun) hx rfl (ha.trans (by rw [hc])) hreply hpos

theorem answered_storingAgain (hsound : l.Sound) (hmem : l.Remembers)
    (h : Progress r i (some (.storingAgain version reply)) l.served) :
    let call : StoreCall := .append r.conversation reply.exchange version
    Progress r i
      (some (Handling.answered d r now (l.answer call t) s (.storingAgain version reply)).2)
      (l.serve (some i) call t).served := by
  intro call
  have hnil := h.landedBy_eq_nil nofun
  obtain ⟨hreply, before, history, between, x, between', y, since, fresh, hserved, hb, hs, hy,
    hfresh, hversion, hpos⟩ := h.of_storingAgain
  rcases append_ends s t version hsound hnil hreply with
    ⟨c, ha, hend⟩ | ⟨c, ha, hc, hne⟩ | ⟨_, ha, hend⟩
  · rw [ha]
    exact hend
  · -- somebody has landed something since the conversation was read again
    rw [ha]
    refine .failed (landedBy_serve_of_error hnil ha) fun _ => ?_
    have hsplit : l.served = (before ++ r.openedAs i history :: (between ++ x :: between'))
        ++ y :: since := by
      rw [hserved]
      simp
    have hid : y.call.id = r.conversation := by rw [hy]; rfl
    have hlanded : landed r.conversation since ≠ [] := by
      rw [← hid] at hc ⊢
      exact hmem.landed_ne_nil hsplit hfresh hc (hversion ▸ hne)
    have hpos' := strangers_pos hlanded hs
    refine ⟨before, history, between ++ x :: (between' ++ y :: since),
      { client := some i, call, answer := l.answer call t }, [], ?_, hb, fun _ => nofun, rfl,
      ⟨_, _, rfl⟩, ?_⟩
    · rw [StoreLog.served_serve, hserved]
      simp
    · have happ : between ++ x :: (between' ++ y :: since)
          = between ++ ((x :: between') ++ [y]) ++ since := by simp
      rw [happ, strangers_append, strangers_append, List.length_append, List.length_append]
      omega
  · rw [ha]
    exact hend

/-- A handling that is answered moves on. -/
theorem answered {stage : HandlingStage} {call : StoreCall} (hsound : l.Sound)
    (hmem : l.Remembers) (h : Progress r i (some stage) l.served)
    (hcall : Handling.request? r stage = some call) :
    Progress r i (some (Handling.answered d r now (l.answer call t) s stage).2)
      (l.serve (some i) call t).served := by
  cases stage with
  | opening =>
    obtain rfl := Option.some.inj hcall
    exact h.answered_opening
  | storing version reply =>
    obtain rfl := Option.some.inj hcall
    exact h.answered_storing hsound hmem
  | reloading reply =>
    obtain rfl := Option.some.inj hcall
    exact h.answered_reloading
  | storingAgain version reply =>
    obtain rfl := Option.some.inj hcall
    exact h.answered_storingAgain hsound hmem
  | calling history reason current rest => cases hcall
  | finished result => cases hcall
  | cancelled => cases hcall
  | crashed fault => cases hcall

/-- What has been landed stays where it is. -/
theorem stored_spec {response : TaskResponse} (hmem : l.Remembers)
    (h : Progress r i (some (.finished (.ok response))) l.served) :
    response.conversation = r.conversation ∧ 2 ≤ response.version ∧
    ∃ c stamp, l.get? r.conversation = some c ∧
      let user := Message.said .user r.task.payload stamp
      let assistant := Message.said .assistant response.content stamp
      c.messages[response.version - 2]? = some user ∧
      c.messages[response.version - 1]? = some assistant ∧
      landedBy i l.served
        = [⟨some i, r.conversation, [user, assistant], response.version - 2⟩] := by
  obtain ⟨hid, before, old, stamp, stored, since, hserved, hb, hs, hversion, hmessages⟩ :=
    h.of_stored
  obtain ⟨c, hc, -, hgrown⟩ := hmem before _ since stored hserved rfl
  have hminus : response.version - 2 = old.length ∧ response.version - 1 = old.length + 1 := by
    omega
  refine ⟨hid, by omega, c, stamp, hc, ?_, ?_, ?_⟩
  · rw [hgrown, hmessages, hminus.1]
    simp
  · rw [hgrown, hmessages, hminus.2]
    simp
  · rw [hserved, landedBy_append, hb, landedBy_cons_of_some rfl rfl, landedBy_of_silent hs,
      hminus.1]
    rfl

end Progress

/-! ### Runs -/

namespace Handlings

variable {d : Dispatcher} {tasks : Nat → TaskRequest} {w : Handlings}

/-- What holds of handlings at all times. -/
structure Consistent (tasks : Nat → TaskRequest) (w : Handlings) : Prop where
  sound : w.log.Sound
  remembers : w.log.Remembers
  progress : ∀ i, Progress (tasks i) i (w.stage i) w.log.served

namespace Consistent

theorem advance (h : Consistent tasks w) {i : Nat} {next : Shared × HandlingStage}
    (hi : Progress (tasks i) i (some next.2) w.log.served) :
    Consistent tasks (w.advance i next) where
  sound := h.sound
  remembers := h.remembers
  progress j := by
    by_cases hj : j = i
    · subst hj
      rw [advance_stage_self]
      exact hi
    · rw [advance_stage_of_ne w hj]
      exact h.progress j

/-- What others call for concerns no handling. -/
theorem serve (h : Consistent tasks w) (call : StoreCall) (now : Timestamp) :
    Consistent tasks (w.serve none call now) where
  sound := h.sound.serve none call now
  remembers := h.remembers.serve none call now
  progress i := (h.progress i).step_other nofun

theorem serve_advance (h : Consistent tasks w) {i : Nat} {call : StoreCall} {now : Timestamp}
    {next : Shared × HandlingStage}
    (hi : Progress (tasks i) i (some next.2) (w.log.serve (some i) call now).served) :
    Consistent tasks ((w.serve (some i) call now).advance i next) where
  sound := h.sound.serve (some i) call now
  remembers := h.remembers.serve (some i) call now
  progress j := by
    by_cases hj : j = i
    · subst hj
      rw [advance_stage_self]
      exact hi
    · rw [advance_stage_of_ne _ hj]
      refine (h.progress j).step_other fun heq => hj ?_
      exact (Option.some.inj heq).symm

theorem step (h : Consistent tasks w) (e : HandlingTurn) : Consistent tasks (w.step d tasks e) := by
  cases e with
  | begin i now =>
    simp only [Handlings.step]
    split
    · next hstage => exact h.advance (Progress.begin (hstage ▸ h.progress i))
    · exact h
  | store i now =>
    simp only [Handlings.step]
    split
    · exact h
    · next stage hstage =>
      split
      · exact h
      · next call hcall =>
        exact h.serve_advance (Progress.answered h.sound h.remembers (hstage ▸ h.progress i) hcall)
  | call i now step =>
    simp only [Handlings.step]
    split
    · exact h
    · next stage hstage => exact h.advance (Progress.callStep (hstage ▸ h.progress i) step)
  | cancel i =>
    simp only [Handlings.step]
    split
    · exact h
    · next stage hstage => exact h.advance (Progress.cancel (hstage ▸ h.progress i))
  | other call now => exact h.serve call now

theorem run (h : Consistent tasks w) (turns : List HandlingTurn) :
    Consistent tasks (w.run d tasks turns) := by
  induction turns generalizing w with
  | nil => exact h
  | cons e turns ih => exact ih (h.step e)

/-- At first nothing has been called for. -/
theorem start (shared : Shared) : Consistent tasks { shared } where
  sound := fun _ => .absent
  remembers pre r mid c hserved _ := by simp at hserved
  progress _ := .waiting (by simp [Silent])

end Consistent

/-- **An exchange lands whole, once, or not at all.**  Handlings take turns with each other and with
others who call the store, in whatever order.  One that ends with a response has landed once: the
payload of its task and the content of the response, at the two positions before the version that
it names.  One that ends with an error, or has not ended, has landed nothing.  It reports a conflict
only if others have landed at least twice between the call that opened its conversation and its
last append. -/
theorem exchange_whole_or_not (d : Dispatcher) (tasks : Nat → TaskRequest) (shared : Shared)
    (turns : List HandlingTurn) (i : Nat) :
    let w := run d tasks { shared } turns
    let id := (tasks i).conversation
    (∀ c, w.log.get? id = some c → c.version = c.messages.length ∧
      c.messages = (w.log.landings id).flatMap Landing.messages) ∧
    match w.stage i with
    | some (.finished (.ok response)) =>
      response.conversation = id ∧ 2 ≤ response.version ∧
      ∃ c stamp, w.log.get? id = some c ∧
        let user := Message.said .user (tasks i).task.payload stamp
        let assistant := Message.said .assistant response.content stamp
        c.messages[response.version - 2]? = some user ∧
        c.messages[response.version - 1]? = some assistant ∧
        landedBy i w.log.served
          = [⟨some i, id, [user, assistant], response.version - 2⟩]
    | some (.finished (.error e)) =>
      landedBy i w.log.served = [] ∧
        (e.code = "version_conflict" → Overtaken (tasks i) i w.log.served)
    | _ => landedBy i w.log.served = [] := by
  intro w id
  have h : Consistent tasks w := (Consistent.start shared).run turns
  refine ⟨fun c hc => ?_, ?_⟩
  · obtain ⟨hversion, hmessages, -⟩ := h.sound.present hc
    exact ⟨hversion, hmessages⟩
  · have hi := h.progress i
    have hnil := hi.landedBy_eq_nil
    rcases hstage : w.stage i with - | stage <;> rw [hstage] at hi hnil
    · exact hnil nofun
    · cases stage with
      | finished result =>
        cases result with
        | ok response => exact hi.stored_spec h.remembers
        | error e => exact ⟨hnil nofun, hi.of_failed⟩
      | opening => exact hnil nofun
      | calling history reason current rest => exact hnil nofun
      | storing version reply => exact hnil nofun
      | reloading reply => exact hnil nofun
      | storingAgain version reply => exact hnil nofun
      | cancelled => exact hnil nofun
      | crashed fault => exact hnil nofun

end Handlings

end Dispatch
