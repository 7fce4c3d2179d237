import ImageImports.Console.Rule
import ImageImports.Console.Table
import ImageImports.Finding

/-!
# Prints on the screen

Everything shown is a sequence of prints.  A print is laid out as a whole before any of it shows, so
one with a faulty tag leaves nothing, and what was printed before it stays.

## Main results

* `shown_append` — what two sequences of prints show, one after the other.
-/

namespace ImageImports.Console

/-- The lines of a print, or the fault that keeps it from showing. -/
abbrev Print := Except Fault (List String)

/-- What prints leave on the screen. -/
structure Shown where
  lines : List String := []
  fault : Option Fault := none
  deriving DecidableEq

/-- What some prints leave: the lines of all prints before the first faulty one. -/
def shown : List Print → Shown
  | [] => {}
  | .error fault :: _ => { fault := some fault }
  | .ok lines :: rest =>
    let more := shown rest
    { more with lines := lines ++ more.lines }

theorem shown_append (first second : List Print) :
    shown (first ++ second) =
      match (shown first).fault with
      | some _ => shown first
      | none => { shown second with lines := (shown first).lines ++ (shown second).lines } := by
  induction first with
  | nil => simp [shown]
  | cons print rest ih =>
    cases print with
    | error fault => simp [shown]
    | ok lines =>
      simp only [List.cons_append, shown, ih]
      cases h : (shown rest).fault <;> simp [h]

/-- Lines of at most `n` cells as texts. -/
def onScreen (n : Nat) (lines : List (List Char)) : List String :=
  lines.map fun line => String.ofList (crop n line)

/-- A print of a text with markup. -/
def paragraph (n : Nat) (text : String) : Print :=
  (fun text => onScreen n (flow n .loose .fold text)) <$> Markup.plain text

/-- A print of a blank line. -/
def blank : Print := .ok [""]

/-- A print of a rule. -/
def rule (n : Nat) : Print := .ok (onScreen n [divider n])

/-- The head of a section: a rule with its title, which holds no markup, and a blank line. -/
def sectionHead (n : Nat) (title : String) : List Print :=
  [(fun title => onScreen n [titledRule n title]) <$>
      Markup.plain ("  " ++ Markup.escape title ++ "  "),
    blank]

/-- The program's name and version in a panel. -/
def banner (n : Nat) (version : String) : Print :=
  let text := "PEScope  static PE import analysis\nVersion: " ++ version
  .ok (onScreen n (Panel.lines { columns := 2, text := Markup.verbatim text } n))

/-- What a message is about. -/
inductive Tone where
  | success
  | warning
  | error
  | info
  deriving DecidableEq

/-- What stands before a message. -/
def Tone.lead : Tone → String
  | .success => "[✔] SUCCESS: "
  | .warning => "[⚠] WARNING: "
  | .error => "[✘] ERROR: "
  | .info => "[ℹ] INFO: "

/-- A message with markup. -/
def message (n : Nat) (tone : Tone) (text : String) : Print := paragraph n (tone.lead ++ text)

/-- A print of a table. -/
def tablePrint (n : Nat) (t : Table) : Print := onScreen n <$> t.lines n

/-- A table of texts without markup, under headers with markup.  Columns beyond the given styles have
none. -/
def textTable (title : String) (headers : List String) (rows : List (List String))
    (caption : String := "") (styles : List String := []) : Table where
  title := title
  caption := caption
  columns := headers.zipIdx.map fun (header, i) => { header, style := styles.getD i "" }
  rows := rows.map (·.map Markup.escape)

/-- A table of findings in their order. -/
def findingsTable (findings : List Finding) : Table where
  title := "Findings"
  columns :=
    [{ header := "#", align := .right, fixed? := some 4 },
      { header := "Severity", fixed? := some 10 }, { header := "Title" },
      { header := "Description" }]
  rows := findings.zipIdx.map fun (f, i) =>
    [toString (i + 1), f.severity.word, Markup.escape f.title, Markup.escape f.description]
  ruled := true

end ImageImports.Console
