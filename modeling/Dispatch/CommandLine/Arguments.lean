/-
Dispatch/CommandLine/Arguments.lean

The arguments of the command line.

Options may stand anywhere among the arguments of a command, the value of an option follows it
or an equals sign, and everything behind `--` is taken as it is.  An option is given once at
most.  The first argument that does not fit ends the reading.
-/
import Dispatch.Backend.Capabilities

namespace Dispatch.CommandLine

/-- Texts that the command line explains. -/
inductive Topic where
  | overview | check | route
  deriving DecidableEq, Repr

/-- What the command line is asked to do. -/
inductive Command where
  | version
  | help (topic : Topic)
  /-- Check a configuration file. -/
  | check (path : String)
  /-- Show where a payload would go. -/
  | route (path payload : String) (backend : Option String) (needs : Requirements)
  deriving DecidableEq, Repr

/-- Why reading ends before the last argument. -/
inductive Stop where
  | helpWanted
  | wrongUsage
  deriving DecidableEq, Repr

/-! ### One argument -/

/-- The forms that an argument can have. -/
inductive Argument where
  /-- Everything that follows is taken as it is. -/
  | escape
  | longOption (name : String) (value : Option String)
  /-- Letters behind a single hyphen. -/
  | letters (first : Char)
  | plain (text : String)

/-- The form of an argument. -/
def Argument.ofText (text : String) : Argument :=
  match text.toList with
  | ['-', '-'] => .escape
  | '-' :: '-' :: rest =>
    let name := rest.takeWhile (· ≠ '=')
    let value := match rest.drop name.length with
      | _ :: value => some (String.ofList value)
      | [] => none
    .longOption (String.ofList name) value
  | '-' :: c :: _ => .letters c
  | _ => .plain text

/-- The value of an option, attached or in the next argument, and what follows. -/
def optionValue (attached : Option String) (rest : List String) :
    Except Stop (String × List String) :=
  match attached, rest with
  | some value, rest => .ok (value, rest)
  | none, [] => .error .wrongUsage
  | none, text :: rest =>
    match Argument.ofText text with
    | .plain value => .ok (value, rest)
    | _ => .error .wrongUsage

theorem length_optionValue {attached : Option String} {rest after : List String}
    {value : String} (h : optionValue attached rest = .ok (value, after)) :
    after.length ≤ rest.length := by
  unfold optionValue at h
  split at h
  · cases h; exact Nat.le_refl _
  · cases h
  · split at h
    · cases h; simp
    · cases h

/-- A whole number of 32 bits; a sign is allowed. -/
def count? (text : String) : Option Nat :=
  let (negative, digits) := match text.toList with
    | '-' :: rest => (true, rest)
    | '+' :: rest => (false, rest)
    | rest => (false, rest)
  if digits.isEmpty || !digits.all Char.isDigit then none
  else
    let n := digits.foldl (fun n d => n * 10 + (d.toNat - '0'.toNat)) 0
    if n < UInt32.size ∧ (negative → n = 0) then some n else none

/-! ### The commands -/

/-- Reads the arguments of `check`. -/
def readCheck (path : Option String) (escaped : Bool) : List String → Except Stop Command
  | [] => match path with
    | some path => .ok (.check path)
    | none => .error .wrongUsage
  | text :: rest =>
    let place (text : String) : Except Stop Command :=
      if path.isNone && !text.isEmpty then readCheck (some text) escaped rest
      else .error .wrongUsage
    if escaped then place text
    else match Argument.ofText text with
      | .escape => readCheck path true rest
      | .plain text => place text
      | .longOption "help" none => .error .helpWanted
      | .letters 'h' => .error .helpWanted
      | _ => .error .wrongUsage

/-- The arguments of `route` read so far. -/
structure RouteArguments where
  path : Option String := none
  payload : Option String := none
  backend : Option String := none
  streaming : Bool := false
  codeContext : Bool := false
  minTokens : Option Nat := none

/-- The command, once all arguments are read. -/
def RouteArguments.command (a : RouteArguments) : Except Stop Command :=
  match a.path, a.payload with
  | some path, some payload =>
    .ok (.route path payload a.backend {
      streaming := a.streaming
      codeContext := a.codeContext
      minContextTokens := a.minTokens })
  | _, _ => .error .wrongUsage

/-- Puts an argument without a name into its place. -/
def RouteArguments.place (a : RouteArguments) (text : String) : Except Stop RouteArguments :=
  if a.path.isNone then
    if text.isEmpty then .error .wrongUsage else .ok { a with path := some text }
  else if a.payload.isNone then .ok { a with payload := some text }
  else .error .wrongUsage

/-- Reads the arguments of `route`. -/
def readRoute (a : RouteArguments) (escaped : Bool) (args : List String) :
    Except Stop Command :=
  match args with
  | [] => a.command
  | text :: rest =>
    if escaped then
      match a.place text with
      | .ok a => readRoute a true rest
      | .error e => .error e
    else match Argument.ofText text with
      | .escape => readRoute a true rest
      | .plain text =>
        match a.place text with
        | .ok a => readRoute a false rest
        | .error e => .error e
      | .longOption "help" none => .error .helpWanted
      | .letters 'h' => .error .helpWanted
      | .longOption "streaming" none =>
        if a.streaming then .error .wrongUsage
        else readRoute { a with streaming := true } false rest
      | .longOption "code-context" none =>
        if a.codeContext then .error .wrongUsage
        else readRoute { a with codeContext := true } false rest
      | .longOption "backend" attached =>
        match h : optionValue attached rest with
        | .error e => .error e
        | .ok (value, after) =>
          if a.backend.isSome then .error .wrongUsage
          else
            have := length_optionValue h
            readRoute { a with backend := some value } false after
      | .longOption "min-tokens" attached =>
        match h : optionValue attached rest with
        | .error e => .error e
        | .ok (value, after) =>
          match count? value with
          | none => .error .wrongUsage
          | some n =>
            if a.minTokens.isSome then .error .wrongUsage
            else
              have := length_optionValue h
              readRoute { a with minTokens := some n } false after
      | _ => .error .wrongUsage
termination_by args.length
decreasing_by all_goals (simp only [List.length_cons]; omega)

/-- Help in place of a command that asks for it. -/
def orHelp (topic : Topic) : Except Stop Command → Option Command
  | .ok c => some c
  | .error .helpWanted => some (.help topic)
  | .error .wrongUsage => none

/-- The command that the arguments ask for; none if they make no sense. -/
def Command.ofArguments? : List String → Option Command
  | [] => none
  | text :: rest =>
    match Argument.ofText text with
    | .plain "check" => orHelp .check (readCheck none false rest)
    | .plain "route" => orHelp .route (readRoute {} false rest)
    | .plain "help" =>
      match rest with
      | [] | ["help"] => some (.help .overview)
      | ["check"] => some (.help .check)
      | ["route"] => some (.help .route)
      | _ => none
    | .longOption "help" none => some (.help .overview)
    | .letters 'h' => some (.help .overview)
    | .longOption "version" none => some .version
    | .letters 'V' => some .version
    | _ => none

end Dispatch.CommandLine
