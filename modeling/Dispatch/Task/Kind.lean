/-
Dispatch/Task/Kind.lean

Kinds of task.

Two orders matter.  `TaskKind.byPriority` is the order in which classification tries the kinds;
`TaskKind.byName` is the order of rule tables.  `TaskKind.ofTag?` and `TaskKind.tag` are inverse
(`TaskKind.ofTag?_eq_some_iff`).
-/

namespace Dispatch

/-- What a task asks for. -/
inductive TaskKind where
  | codeEdit | codeGeneration | research | terminalAutomation | generalChat
  deriving DecidableEq, Repr, Inhabited

namespace TaskKind

/-- The order of classification: the first kind that matches wins. -/
def byPriority : List TaskKind :=
  [codeEdit, research, terminalAutomation, codeGeneration, generalChat]

/-- The order of rule tables. -/
def byName : List TaskKind :=
  [codeEdit, codeGeneration, research, terminalAutomation, generalChat]

/-- The tag of a kind in configuration files. -/
def tag : TaskKind → String
  | codeEdit => "code-edit"
  | codeGeneration => "code-generation"
  | research => "research"
  | terminalAutomation => "terminal-automation"
  | generalChat => "general-chat"

/-- The kind of a tag. -/
def ofTag? (s : String) : Option TaskKind := byPriority.find? fun k => k.tag = s

/-- The position of a kind in the order of classification. -/
def priority (k : TaskKind) : Nat := byPriority.idxOf k

/-- What to say about a tag that names no kind. -/
def unknownTagMessage (s : String) : String := s!"unknown task kind: '{s}'"

theorem mem_byName (k : TaskKind) : k ∈ byName := by cases k <;> decide

theorem tag_injective {a b : TaskKind} (h : a.tag = b.tag) : a = b := by
  cases a <;> cases b <;> first | rfl | exact absurd h (by decide)

theorem ofTag?_tag (k : TaskKind) : ofTag? k.tag = some k := by cases k <;> decide

theorem ofTag?_eq_some_iff {s : String} {k : TaskKind} : ofTag? s = some k ↔ s = k.tag := by
  constructor
  · intro h
    have := List.find?_some h
    simpa using (of_decide_eq_true this).symm
  · rintro rfl
    exact ofTag?_tag k

end TaskKind

end Dispatch
