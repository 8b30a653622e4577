/-
Dispatch/Conversation/Window.lean

Cutting a conversation to a number of tokens.

Pinned messages come first: the newest of them are kept as long as they fit.  Then the newest
of the others are kept, as long as they fit beside those.  Each class stops at the first
message that does not fit, so what is kept of it is the newest part without a hole; and the
messages that are kept keep their order.
-/
import Dispatch.Conversation.Basic

namespace Dispatch

/-- How many of the first costs fit a budget, and what they come to; counting starts at
`used`. -/
def fitting (budget used : Nat) : List Nat → Nat × Nat
  | [] => (0, used)
  | cost :: rest =>
    if budget < used + cost then (0, used)
    else
      let r := fitting budget (used + cost) rest
      (r.1 + 1, r.2)

/-- Keeps the first `pinned` pinned messages and the first `recent` others. -/
def keepFirst (pinned recent : Nat) : List Message → List Message
  | [] => []
  | m :: rest =>
    match m.pinned, pinned, recent with
    | true, 0, r => keepFirst 0 r rest
    | true, p + 1, r => m :: keepFirst p r rest
    | false, p, 0 => keepFirst p 0 rest
    | false, p, r + 1 => m :: keepFirst p r rest

/-- The messages of a class, newest first. -/
def newestFirst (pinned : Bool) (messages : List Message) : List Message :=
  messages.reverse.filter fun m => m.pinned = pinned

/-- The messages of a history that fit a budget. -/
def windowMessages (budget : Nat) (messages : List Message) : List Message :=
  let pinned := fitting budget 0 ((newestFirst true messages).map Message.tokens)
  let recent := fitting budget pinned.2 ((newestFirst false messages).map Message.tokens)
  (keepFirst pinned.1 recent.1 messages.reverse).reverse

/-- A conversation cut to a budget; everything but the messages stays. -/
def Conversation.window (c : Conversation) (budget : Nat) : Conversation :=
  { c with messages := windowMessages budget c.messages }

end Dispatch
