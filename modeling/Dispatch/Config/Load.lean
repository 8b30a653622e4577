/-
Dispatch/Config/Load.lean

From a text to a configuration.

A text becomes a document, the document is checked against the form of configurations, then
read, then checked for what the form cannot say (`Config.ofDocument`).  Each of the four steps
has its own kind of error.
-/
import Dispatch.Config.Codec
import Dispatch.Config.Form
import Dispatch.Config.Validation
import Dispatch.Json.Parser
import Dispatch.Yaml.Value

namespace Dispatch

/-- Why a configuration cannot be had. -/
inductive LoadError where
  /-- The file is not there, or holds no text. -/
  | unreadable
  | yaml (cause : Yaml.Error)
  | json (cause : Json.ParseError)
  /-- The document has not the form of a configuration; every offence has a message. -/
  | form (messages : List String)
  /-- A value that has the right form cannot be held. -/
  | data
  | fault (cause : ConfigFault)
  deriving DecidableEq, Repr

/-- The text of an error, where the library words it itself. -/
def LoadError.message? : LoadError → Option String
  | form messages => some ("Config does not match schema: " ++ "; ".intercalate messages)
  | fault cause => some cause.message
  | unreadable | yaml _ | json _ | data => none

namespace Config

/-- The configuration of a document. -/
def ofDocument (document : Json) : Except LoadError Config :=
  if !Form.document.valid document then .error (.form (Form.document.messages document))
  else match Config.ofJson? document with
    | none => .error .data
    | some c =>
      match c.validate with
      | .error f => .error (.fault f)
      | .ok () => .ok c

/-- The configuration of a JSON text. -/
def ofJsonText (text : String) : Except LoadError Config :=
  match Json.parse text with
  | .error e => .error (.json e)
  | .ok document => ofDocument document

/-- The configuration of a YAML text. -/
def ofYamlText (text : String) : Except LoadError Config :=
  match Yaml.parse text with
  | .error e => .error (.yaml e)
  | .ok document => ofDocument document

/-- The last component of a path. -/
def fileName (path : String) : String :=
  String.ofList ((path.toList.reverse.dropWhile (· = '/')).takeWhile (· ≠ '/')).reverse

/-- What follows the last point of a file name, unless the point comes first. -/
def extension? (path : String) : Option String :=
  let name := (fileName path).toList.reverse
  let after := name.takeWhile (· ≠ '.')
  if name.drop (after.length + 1) = [] then none else some (String.ofList after.reverse)

/-- The configuration of a file: JSON where its name ends so, YAML otherwise.  Without a content
the file is not there. -/
def ofFile (path : String) (content : Option ByteArray) : Except LoadError Config :=
  match content.bind String.fromUTF8? with
  | none => .error .unreadable
  | some text => if extension? path = some "json" then ofJsonText text else ofYamlText text

end Config

end Dispatch
