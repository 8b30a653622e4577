/-
Dispatch/Proofs/Store/History.lean

No update is lost, and none is made twice.

An append names the version that its caller has seen, and is accepted exactly if that is the
version of the conversation.  Since the version counts the messages, the landings on a
conversation form a chain: each starts where the one before it has ended (`Chained`).  So the
history can be put together again from the landings alone, whatever order they are found in, by
the versions that they expected (`flatMap_messages_of_perm`).

The last theorem puts this together with what single calls do.
-/
import Dispatch.Proofs.Store.Log

namespace Dispatch

variable {ι : Type}

/-! ### Chains of landings -/

/-- Along a chain, each landing ends before the next begins. -/
theorem Chained.pairwise {n : Nat} {as : List (Landing ι)} (h : Chained n as) :
    (∀ a ∈ as, n ≤ a.expected) ∧
      as.Pairwise fun a b => a.expected + a.messages.length ≤ b.expected := by
  induction as generalizing n with
  | nil => exact ⟨by simp, .nil⟩
  | cons a as ih =>
    obtain ⟨rfl, hrest⟩ := h
    obtain ⟨hle, hpair⟩ := ih hrest
    refine ⟨fun b hb => ?_, List.pairwise_cons.mpr ⟨hle, hpair⟩⟩
    rcases List.mem_cons.mp hb with rfl | hb
    · exact Nat.le_refl _
    · exact Nat.le_trans (Nat.le_add_right ..) (hle b hb)

/-- Landings without messages add nothing. -/
theorem flatMap_messages_filter (as : List (Landing ι)) :
    (as.filter fun a => a.messages ≠ []).flatMap Landing.messages
      = as.flatMap Landing.messages := by
  induction as with
  | nil => rfl
  | cons a as ih =>
    by_cases ha : a.messages = []
    · rw [List.filter_cons_of_neg (by simpa using ha), ih, List.flatMap_cons, ha, List.nil_append]
    · rw [List.filter_cons_of_pos (by simpa using ha), List.flatMap_cons, ih, List.flatMap_cons]

/-- **The landings of a chain, sorted by the versions that they expected, make the history.** -/
theorem flatMap_messages_of_perm {as bs : List (Landing ι)} (has : Chained 0 as)
    (hperm : bs.Perm as) (hbs : bs.Pairwise fun a b => a.expected ≤ b.expected) :
    bs.flatMap Landing.messages = as.flatMap Landing.messages := by
  rw [← flatMap_messages_filter as, ← flatMap_messages_filter bs]
  -- without the empty ones, no two landings expected the same version
  have hstrict : (as.filter fun a => a.messages ≠ []).Pairwise
      fun a b => a.expected < b.expected := by
    refine List.Pairwise.imp_of_mem (fun {a b} ha _ hab => ?_)
      (has.pairwise.2.sublist List.filter_sublist)
    have hne : a.messages ≠ [] := by simpa using (List.mem_filter.mp ha).2
    have hpos := List.length_pos_iff.mpr hne
    omega
  have hinj : ∀ {a b}, a ∈ (as.filter fun a => a.messages ≠ []) →
      b ∈ (as.filter fun a => a.messages ≠ []) → a.expected = b.expected → a = b := by
    intro a b ha hb
    refine List.Pairwise.forall_of_forall_of_flip (R := fun a b => a.expected = b.expected → a = b)
      (fun _ _ _ => rfl) (hstrict.imp fun hlt heq => ?_) (hstrict.imp fun hlt heq => ?_) ha hb
    · exact absurd heq (Nat.ne_of_lt hlt)
    · exact absurd heq (Nat.ne_of_gt hlt)
  have hperm' := hperm.filter fun a => a.messages ≠ []
  refine congrArg (List.flatMap Landing.messages) (hperm'.eq_of_pairwise
    (fun a b ha hb hab hba => hinj (hperm'.subset ha) hb (Nat.le_antisymm hab hba))
    (hbs.sublist List.filter_sublist) (hstrict.imp Nat.le_of_lt))

/-- Landings of a chain that add something expected different versions. -/
theorem Chained.pairwise_expected_ne {as : List (Landing ι)} (h : Chained 0 as) :
    as.Pairwise fun a b => a.messages ≠ [] → b.messages ≠ [] → a.expected ≠ b.expected := by
  refine h.pairwise.2.imp fun {a b} hab ha _ => ?_
  have hpos := List.length_pos_iff.mpr ha
  omega

/-! ### What every call does -/

namespace StoreLog

variable {w : StoreLog ι} {id : String} {batch : List Message} {expected : Nat} {now : Timestamp}

/-- What an append answers says whether it was made. -/
theorem append_spec (w : StoreLog ι) (client : ι) (id : String) (batch : List Message)
    (expected : Nat) (now : Timestamp) :
    let w' := w.serve client (.append id batch expected) now
    let answer := w.answer (.append id batch expected) now
    ((∃ x, answer = .ok x) ↔ ∃ c, w.get? id = some c ∧ c.version = expected) ∧
    (∀ c, w.get? id = some c → c.version = expected →
      ∃ c', w'.get? id = some c' ∧ answer = .ok (some c') ∧
        c'.messages = c.messages ++ batch ∧ c'.project = c.project) ∧
    (answer = .error (.notFound id) ↔ w.get? id = none) ∧
    (∀ c, w.get? id = some c → c.version ≠ expected →
      answer = .error (.versionConflict expected c.version)) ∧
    ∀ e, answer = .error e → w'.store = w.store := by
  intro w' answer
  rcases w.append_cases client id batch expected now with
    ⟨c, hc, heq, ha, hc'⟩ | ⟨c, hc, hne, ha, hw⟩ | ⟨hn, ha, hw⟩
  · -- accepted
    refine ⟨?_, ?_, ?_, ?_, ?_⟩
    · exact ⟨fun _ => ⟨c, hc, heq⟩, fun _ => ⟨_, ha⟩⟩
    · intro d hd _
      obtain rfl := Option.some.inj (hc.symm.trans hd)
      exact ⟨_, hc', ha, rfl, rfl⟩
    · simp [answer, ha, hc]
    · intro d hd hne
      obtain rfl := Option.some.inj (hc.symm.trans hd)
      exact absurd heq hne
    · intro e he
      exact absurd (ha.symm.trans he) nofun
  · -- refused for its version
    refine ⟨?_, ?_, ?_, ?_, fun _ _ => hw⟩
    · simp [answer, ha, hc, hne]
    · intro d hd heq
      obtain rfl := Option.some.inj (hc.symm.trans hd)
      exact absurd heq hne
    · simp [answer, ha, hc]
    · intro d hd _
      obtain rfl := Option.some.inj (hc.symm.trans hd)
      exact ha
  · -- refused for want of a conversation
    refine ⟨?_, ?_, ?_, ?_, fun _ _ => hw⟩
    · simp [answer, ha, hn]
    · intro d hd
      exact absurd (hn.symm.trans hd) nofun
    · exact ⟨fun _ => hn, fun _ => ha⟩
    · intro d hd
      exact absurd (hn.symm.trans hd) nofun

/-- A conversation that is there is not started again. -/
theorem getOrCreate_of_some {c : Conversation} (h : w.get? id = some c) (client : ι)
    (project : Option String) (now : Timestamp) :
    w.answer (.getOrCreate id project) now = .ok (some c) ∧
      (w.serve client (.getOrCreate id project) now).store = w.store := by
  generalize hs : (w.serve client (.getOrCreate id project) now).store = s'
  generalize ha : w.answer (.getOrCreate id project) now = answer
  cases answers_of_eq hs ha with
  | started hn => exact absurd (hn.symm.trans h) nofun
  | opened hc => exact ⟨congrArg Except.ok (hc.symm.trans h), rfl⟩

/-- A conversation that is not there is started, with the project that is asked for. -/
theorem getOrCreate_of_none (h : w.get? id = none) (client : ι) (project : Option String)
    (now : Timestamp) :
    w.answer (.getOrCreate id project) now = .ok (some (.start id project now)) ∧
      (w.serve client (.getOrCreate id project) now).get? id
        = some (.start id project now) := by
  unfold get?
  generalize hs : (w.serve client (.getOrCreate id project) now).store = s'
  generalize ha : w.answer (.getOrCreate id project) now = answer
  cases answers_of_eq hs ha with
  | started _ => exact ⟨rfl, Table.get?_insert_self ..⟩
  | opened hc => exact absurd (h.symm.trans hc) nofun

/-- A call is about one conversation, and leaves the others alone. -/
theorem get?_serve_of_ne {call : StoreCall} {other : String} (h : other ≠ call.id) (client : ι)
    (now : Timestamp) : (w.serve client call now).get? other = w.get? other := by
  unfold get?
  generalize hs : (w.serve client call now).store = s'
  generalize ha : w.answer call now = answer
  cases answers_of_eq hs ha with
  | started _ => exact Table.get?_insert_ne _ h _
  | landed _ _ => exact Table.get?_insert_ne _ h _
  | opened _ => rfl
  | conflict _ _ => rfl
  | missing _ => rfl
  | loaded _ => rfl

/-- **No update is lost or made twice.**  Whoever calls an empty store, in whatever order, the
following holds of the store after it.  The version of a conversation counts its messages.  An
append is accepted exactly if the conversation is there with the version that is expected, and
then puts the messages behind those that are there; otherwise it says why not, and changes nothing.
A conversation that is there is not started again; one that is not there is started without
messages, and with its project.  A load is answered what there is, and changes nothing.  No call
touches another conversation than its own.  So the history of a conversation is made of its
landings, sorted by the versions that they expected, and these differ. -/
theorem run_lossless (turns : List (StoreTurn ι)) :
    let w := run {} turns
    (∀ id c, w.get? id = some c → c.version = c.messages.length) ∧
    (∀ client id batch expected now,
      let w' := w.serve client (.append id batch expected) now
      let answer := w.answer (.append id batch expected) now
      ((∃ x, answer = .ok x) ↔ ∃ c, w.get? id = some c ∧ c.version = expected) ∧
      (∀ c, w.get? id = some c → c.version = expected →
        ∃ c', w'.get? id = some c' ∧ answer = .ok (some c') ∧
          c'.messages = c.messages ++ batch ∧ c'.project = c.project) ∧
      (answer = .error (.notFound id) ↔ w.get? id = none) ∧
      (∀ c, w.get? id = some c → c.version ≠ expected →
        answer = .error (.versionConflict expected c.version)) ∧
      ∀ e, answer = .error e → w'.store = w.store) ∧
    (∀ client id project now,
      let w' := w.serve client (.getOrCreate id project) now
      let answer := w.answer (.getOrCreate id project) now
      (∀ c, w.get? id = some c → answer = .ok (some c) ∧ w'.store = w.store) ∧
      (w.get? id = none → ∃ c, answer = .ok (some c) ∧ w'.get? id = some c ∧
        c.project = project ∧ c.messages = [] ∧ c.version = 0)) ∧
    (∀ client id now, w.answer (.load id) now = .ok (w.get? id) ∧
      (w.serve client (.load id) now).store = w.store) ∧
    (∀ client call now other, other ≠ call.id →
      (w.serve client call now).get? other = w.get? other) ∧
    (∀ id c, w.get? id = some c →
      c.messages = (w.landings id).flatMap Landing.messages ∧
      (w.landings id).Pairwise (fun a b => a.expected ≤ b.expected) ∧
      ∀ as : List (Landing ι), as.Perm (w.landings id) →
        as.Pairwise (fun a b => a.expected ≤ b.expected) →
        c.messages = as.flatMap Landing.messages) ∧
    ∀ id, (w.landings id).Pairwise fun a b =>
      a.messages ≠ [] → b.messages ≠ [] → a.expected ≠ b.expected := by
  intro w
  have hsound : w.Sound := sound_run turns
  refine ⟨?_, ?_, ?_, ?_, ?_, ?_, ?_⟩
  · intro id c hc
    exact (hsound.present hc).1
  · intro client id batch expected now
    exact append_spec w client id batch expected now
  · intro client id project now w' answer
    refine ⟨fun c hc => getOrCreate_of_some hc client project now, fun hn => ?_⟩
    obtain ⟨hanswer, hc⟩ := getOrCreate_of_none hn client project now
    exact ⟨_, hanswer, hc, rfl, rfl, rfl⟩
  · intro client id now
    exact ⟨rfl, rfl⟩
  · intro client call now other hne
    exact get?_serve_of_ne hne client now
  · intro id c hc
    obtain ⟨-, hmessages, hchain⟩ := hsound.present hc
    refine ⟨hmessages, hchain.pairwise.2.imp (Nat.le_trans (Nat.le_add_right ..)), ?_⟩
    intro as hperm has
    rw [flatMap_messages_of_perm hchain hperm has]
    exact hmessages
  · intro id
    exact (hsound.chained id).pairwise_expected_ne

end StoreLog

end Dispatch
