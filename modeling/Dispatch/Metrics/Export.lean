/-
Dispatch/Metrics/Export.lean

Metrics as the text that monitoring systems read.

The text has a block for every family that has a sample, in name order: a line of help, a line
with the type, and a line for every sample, in the order of the label values.  Values are floats
of 64 bits, written without an exponent.
-/
import Dispatch.Metrics.Basic

namespace Dispatch

/-- A value with its labels. -/
structure Sample where
  /-- What the name of the family is followed by. -/
  ending : String := ""
  labels : List (String × String) := []
  value : Float

/-- A metric with all of its samples. -/
structure Family where
  name : String
  help : String
  kind : String
  samples : List Sample

namespace Sample

/-- A character of a label value. -/
def escape (c : Char) : List Char :=
  if c = '\\' then ['\\', '\\']
  else if c = '\x22' then ['\\', '\x22']
  else if c = '\n' then ['\\', 'n']
  else [c]

/-- A label with its value. -/
def labelText (label : String × String) : String :=
  label.1 ++ "=\x22" ++ String.ofList (label.2.toList.flatMap escape) ++ "\x22"

/-- All labels. -/
def labelsText (labels : List (String × String)) : String :=
  if labels.isEmpty then "" else "\x7b" ++ ",".intercalate (labels.map labelText) ++ "\x7d"

/-- The line of a sample. -/
def line (s : Sample) (name : String) : String :=
  name ++ s.ending ++ labelsText s.labels ++ " " ++ Binary64.positional s.value

end Sample

/-- The lines of a family. -/
def Family.lines (f : Family) : List String :=
  ("# HELP " ++ f.name ++ " " ++ f.help) :: ("# TYPE " ++ f.name ++ " " ++ f.kind) ::
    f.samples.map fun s => s.line f.name

namespace Metrics

/-- A count as a float. -/
def float (n : Nat) : Float := n.toUInt64.toFloat

/-- The samples of counters by one label. -/
def countSamples (label : String) (c : Counters) : List Sample :=
  c.entries.map fun e => { labels := [(label, e.1)], value := float e.2 }

/-- The samples of counters by two labels; the first is the backend. -/
def gridSamples (label : String) (g : CounterGrid) : List Sample :=
  g.entries.flatMap fun row => row.2.entries.map fun e =>
    { labels := [("backend", row.1), (label, e.1)], value := float e.2 }

/-- The samples of the latencies of a backend. -/
def latencySamples (backend : String) (l : Latencies) : List Sample :=
  let bucket (bound : String) (n : Nat) : Sample :=
    { ending := "_bucket", labels := [("backend", backend), ("le", bound)], value := float n }
  List.zipWith (fun b n => bucket (Binary64.positional b) n) Latencies.bounds l.within
    ++ [bucket "+Inf" l.count,
      { ending := "_sum", labels := [("backend", backend)], value := l.sum },
      { ending := "_count", labels := [("backend", backend)], value := float l.count }]

/-- Every family, in name order. -/
def allFamilies (m : Metrics) : List Family := [
  { name := "switchyard_active_tasks"
    help := "Tasks being handled"
    kind := "gauge"
    samples := [{ value := m.active.toInt64.toFloat }] },
  { name := "switchyard_backend_call_duration_seconds"
    help := "Backend call latency including retries"
    kind := "histogram"
    samples := m.latencies.entries.flatMap fun e => latencySamples e.1 e.2 },
  { name := "switchyard_backend_call_errors_total"
    help := "Failed backend calls by error code"
    kind := "counter"
    samples := gridSamples "code" m.callErrors },
  { name := "switchyard_backend_calls_total"
    help := "Backend calls by result"
    kind := "counter"
    samples := gridSamples "result" m.calls },
  { name := "switchyard_task_errors_total"
    help := "Failed tasks by error code"
    kind := "counter"
    samples := countSamples "code" m.taskErrors },
  { name := "switchyard_tokens_total"
    help := "Tokens reported by backends"
    kind := "counter"
    samples := gridSamples "direction" m.tokens }]

/-- The families that have a sample. -/
def families (m : Metrics) : List Family := m.allFamilies.filter fun f => !f.samples.isEmpty

/-- The lines of the whole text. -/
def exportLines (m : Metrics) : List String := m.families.flatMap Family.lines

end Metrics

end Dispatch
