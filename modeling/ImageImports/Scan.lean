import ImageImports.Finding
import ImageImports.Calendar.Instant
import ImageImports.Image.Stored

/-!
# Scans

A scan is the account of one inspected file: when it began and ended, what was found, and the stored
analysis.  It is built up in steps, each of which is checked before anything changes.

## Main results

* `severityCounts_map_fst` — the counts list every severity once, in order.
-/

namespace ImageImports

open Schema (Checked Fault FaultKind)
open Calendar (Instant)

/-- The account of one inspected file. -/
structure Scan where
  toolName : String
  target : String
  started : Instant
  ended? : Option Instant := none
  success : Bool := false
  findings : List Finding := []
  summary : String := ""
  /-- What is kept along with the account, the stored analysis among it. -/
  metadata : List (String × Json) := []
  deriving Inhabited

namespace Scan

/-! ## What follows from an account -/

/-- Microseconds from beginning to end, none while there is no end.  The clocks of beginning and end
may not be comparable. -/
def duration? (s : Scan) : Option (Option Int) := s.ended?.map (·.since? s.started)

/-- How many findings there are of each severity, the gravest first. -/
def severityCounts (s : Scan) : List (Severity × Nat) :=
  Severity.all.map fun severity => (severity, s.findings.countP (·.severity = severity))

theorem severityCounts_map_fst (s : Scan) : s.severityCounts.map (·.1) = Severity.all := by
  simp [severityCounts, Severity.all]

/-- The gravest severity found. -/
def highestSeverity? (s : Scan) : Option Severity :=
  Severity.all.find? fun severity => s.findings.any (·.severity = severity)

/-- The analysis that the account keeps, if it keeps one. -/
def analysis (s : Scan) : Checked (Option Analysis) := Analysis.ofStored s.metadata

/-- The summary drawn from the findings. -/
def defaultSummary (s : Scan) : String :=
  let parts := (s.severityCounts.filter fun (_, n) => 0 < n).map fun (severity, n) =>
    s!"{severity.word}: {n}"
  let listed := if parts.isEmpty then "none" else ", ".intercalate parts
  s!"Analysis complete. Findings: {s.findings.length} ({listed})"

/-! ## Steps -/

/-- A text that is not empty. -/
def nonEmpty (j : Json) : Checked String := (Schema.text j).bind (Schema.withLength 1 none)

/-- The account that a record's fields stand for; one that does not say when it began began `now`. -/
def ofFields (now : Instant) (fields : List (String × Json)) : Checked Scan :=
  Scan.mk
    <$> Schema.required fields "tool_name" nonEmpty
    <*> Schema.required fields "target" nonEmpty
    <*> Schema.field fields "start_time" now Instant.read
    <*> Schema.field fields "end_time" none (Schema.optional Instant.read)
    <*> Schema.field fields "success" false Schema.truth
    <*> Schema.field fields "findings" [] (Schema.list Finding.decode)
    <*> Schema.field fields "summary" "" Schema.text
    <*> Schema.field fields "metadata" [] Schema.mapping

/-- A new account. -/
def begin (now : Instant) (toolName target : String) : Checked Scan :=
  ofFields now [("tool_name", .text toolName), ("target", .text target)]

/-- Why a step was refused. -/
inductive Refusal where
  | faults (fs : List Fault)
  /-- What was to be set follows from the rest. -/
  | derived

/-- The names of what follows from an account and cannot be set. -/
def derivedNames : List String :=
  ["duration_seconds", "severity_counts", "highest_severity", "finding_count", "model_extra",
    "model_fields_set"]

/-- The account with an attribute set to a checked value.  Names that begin with an underscore are
free for notes, of which the account keeps none. -/
def set (s : Scan) (name : String) (value : Json) : Except Refusal Scan :=
  let checked : Checked Scan := match name with
    | "tool_name" => (nonEmpty value).map fun toolName => { s with toolName }
    | "target" => (nonEmpty value).map fun target => { s with target }
    | "start_time" => (Instant.read value).map fun started => { s with started }
    | "end_time" => (Schema.optional Instant.read value).map fun ended? => { s with ended? }
    | "success" => (Schema.truth value).map fun success => { s with success }
    | "findings" => (Schema.list Finding.decode value).map fun findings => { s with findings }
    | "summary" => (Schema.text value).map fun summary => { s with summary }
    | "metadata" => (Schema.mapping value).map fun metadata => { s with metadata }
    | _ => if name.front = '_' then .ok s else .fault .attributeUnknown
  if name ∈ derivedNames then .error .derived
  else match checked.within name with
    | .ok s => .ok s
    | .faults fs => .error (.faults fs)

/-- The account with one more finding. -/
def add (s : Scan) (f : Finding) : Scan := { s with findings := s.findings ++ [f] }

/-- The account ended `now`, with the given summary or the one drawn from the findings. -/
def finalize (s : Scan) (now : Instant) (summary? : Option String := none) : Scan :=
  { s with ended? := some now, summary := summary?.getD s.defaultSummary }

/-- One step in the building of an account. -/
inductive Step where
  | add (fields : List (String × Json))
  | set (name : String) (value : Json)
  /-- Ends the account with a summary, or with the one drawn from the findings. -/
  | finalize (summary : Json)

/-- Takes a step.  What is refused changes nothing, except that an account ends also when its summary
is refused. -/
def step (now : Instant) (s : Scan) : Step → Scan × Option Refusal
  | .add fields => match Finding.ofFields fields with
    | .ok f => (s.add f, none)
    | .faults fs => (s, some (.faults fs))
  | .set name value => match s.set name value with
    | .ok s => (s, none)
    | .error refusal => (s, some refusal)
  | .finalize summary => match (Schema.optional Schema.text summary).within "summary" with
    | .ok summary? => (s.finalize now summary?, none)
    | .faults fs => ({ s with ended? := some now }, some (.faults fs))

end Scan

end ImageImports
