import ImageImports.Schema
import ImageImports.Json.Printer

/-!
# Findings

A finding is one diagnosis about a file: how grave it is, what it is called, what it means and what
supports it.  Its texts are trimmed when it is made, a title has between 1 and 256 characters and a
description at least one.

## Main results

* `Severity.ofWord?_word` — every severity is read back from its word.
-/

namespace ImageImports

open Schema (Checked)

/-- How grave a finding is. -/
inductive Severity where
  | critical
  | high
  | medium
  | low
  | info
  deriving DecidableEq, Inhabited

namespace Severity

/-- All severities, the gravest first. -/
def all : List Severity := [critical, high, medium, low, info]

/-- The word a severity is stored and shown as. -/
def word : Severity → String
  | critical => "CRITICAL"
  | high => "HIGH"
  | medium => "MEDIUM"
  | low => "LOW"
  | info => "INFO"

/-- The severity that a word stands for. -/
def ofWord? (s : String) : Option Severity := all.find? (·.word = s)

@[simp] theorem ofWord?_word (s : Severity) : ofWord? s.word = some s := by
  cases s <;> decide

end Severity

/-- One diagnosis about a file. -/
structure Finding where
  severity : Severity
  title : String
  description : String
  evidence : String := ""
  recommendation : String := ""
  references : List String := []
  deriving DecidableEq, Inhabited

namespace Finding

/-- The most characters of a title. -/
def maxTitle : Nat := 256

/-- A title: trimmed, then measured. -/
def checkTitle (s : String) : Checked String := Schema.withLength 1 (some maxTitle) (Text.trim s)

/-- A description: trimmed, and not empty then. -/
def checkDescription (s : String) : Checked String := Schema.withLength 1 none (Text.trim s)

/-- The finding with its texts trimmed and measured. -/
def check (f : Finding) : Checked Finding :=
  (fun title description => { f with
      title, description
      evidence := Text.trim f.evidence
      recommendation := Text.trim f.recommendation
      references := f.references.map Text.trim })
    <$> (checkTitle f.title).within "title"
    <*> (checkDescription f.description).within "description"

/-- The text that any value supports a finding as: texts as they are, lists and records in the
interchange format, other values as they are called. -/
def evidenceText : Json → String
  | .text s => s
  | .null => "None"
  | .bool b => if b then "True" else "False"
  | .int n => toString n
  | .real x => Decimal.shortest x
  | value => value.compact

/-- The finding that a record's fields stand for. -/
def ofFields (fields : List (String × Json)) : Checked Finding :=
  Finding.mk
    <$> Schema.required fields "severity" (Schema.word Severity.ofWord?)
    <*> Schema.required fields "title" (fun j => (Schema.text j).bind checkTitle)
    <*> Schema.required fields "description" (fun j => (Schema.text j).bind checkDescription)
    <*> Schema.field fields "evidence" "" (fun j => .ok (Text.trim (evidenceText j)))
    <*> Schema.field fields "recommendation" "" (fun j => (Schema.text j).map Text.trim)
    <*> Schema.field fields "references" []
        (Schema.list fun j => (Schema.text j).map Text.trim)

/-- The finding that a record stands for. -/
def decode (j : Json) : Checked Finding := (Schema.record j).bind ofFields

/-- The finding as a record. -/
def encode (f : Finding) : Json :=
  .object
    [("severity", .text f.severity.word), ("title", .text f.title),
      ("description", .text f.description), ("evidence", .text f.evidence),
      ("recommendation", .text f.recommendation), ("references", .ofTexts f.references)]

end Finding

end ImageImports
