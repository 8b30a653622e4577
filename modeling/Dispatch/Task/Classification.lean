/-
Dispatch/Task/Classification.lean

The kind of a task, from keywords in its payload.

Every kind but the last has a list of keywords, and the kinds are tried in order of priority.
A keyword counts at the start of a word and in any letter case: `tests` and `debugging` count,
`prefix` does not count as `fix`.  The keywords of terminal work count as whole words only.
-/
import Dispatch.Task.Kind
import Dispatch.Text.Word

namespace Dispatch

/-- Keywords, and whether they have to end where a word ends. -/
structure Keywords where
  words : List String
  wholeWord : Bool := false

namespace Keywords

/-- Editing, fixing or reasoning about existing code. -/
def codeEdit : Keywords :=
  { words := ["refactor", "edit", "fix", "bug", "function", "class", "import", "code", "file",
      "module", "package", "syntax", "error", "compile", "test", "debug", "implement", "rewrite",
      "optimise", "optimize"] }

/-- Looking things up or asking for explanations. -/
def research : Keywords :=
  { words := ["research", "find", "search", "what is", "explain", "how does", "information",
      "article", "paper", "source", "citation", "reference", "learn about", "tell me about",
      "investigate"] }

/-- Shell and workflow automation. -/
def terminal : Keywords :=
  { words := ["run", "execute", "command", "terminal", "shell", "script", "automate", "workflow",
      "cli", "bash", "zsh"]
    wholeWord := true }

/-- Producing something new. -/
def generation : Keywords :=
  { words := ["generate", "create", "write", "make", "build", "new", "scaffold", "boilerplate",
      "template"] }

/-- What follows a keyword at the front of a text, in any letter case. -/
def strip? : List Char → List Char → Option (List Char)
  | [], text => some text
  | _ :: _, [] => none
  | w :: word, c :: text => if foldCase c = w then strip? word text else none

/-- Whether one of the keywords stands at the front of a text and ends where it has to. -/
def matchHere (k : Keywords) (text : List Char) : Bool :=
  k.words.any fun word =>
    match strip? word.toList text with
    | some rest => !(k.wholeWord && startsInWord rest)
    | none => false

/-- Whether one of the keywords stands at the start of a word; `inWord` says whether the
character before the text belongs to a word. -/
def occursFrom (k : Keywords) (inWord : Bool) : List Char → Bool
  | [] => false
  | c :: text => (!inWord && k.matchHere (c :: text)) || k.occursFrom (isWordChar c) text

/-- Whether one of the keywords occurs in a payload. -/
def occurs (k : Keywords) (payload : String) : Bool := k.occursFrom false payload.toList

end Keywords

/-- The kind of a payload: the first in order of priority whose keywords occur. -/
def TaskKind.classify (payload : String) : TaskKind :=
  if Keywords.codeEdit.occurs payload then .codeEdit
  else if Keywords.research.occurs payload then .research
  else if Keywords.terminal.occurs payload then .terminalAutomation
  else if Keywords.generation.occurs payload then .codeGeneration
  else .generalChat

end Dispatch
