import ImageImports.Log
import ImageImports.Log.Template
import ImageImports.Json.Printer
import ImageImports.Text

/-!
# Journals

A journal writes records that pass its threshold, each on a line of its own or as plain text.  It is
written through views: each view stands for one image, or for none, and knows the operation it is in.
Operations open and close like brackets.  A record carries the component of the journal and the image
and the operation of the view it was noted through.  They are attributes of the record, put over
whatever a call adds to it, so nothing in its message or its data can change these three.
-/

namespace ImageImports.Log

/-! ## Thresholds -/

/-- The words that name a threshold, in capital letters. -/
def thresholdWords : List (String × Nat) :=
  [("CRITICAL", 50), ("FATAL", 50), ("ERROR", 40), ("WARN", 30), ("WARNING", 30), ("INFO", 20),
    ("DEBUG", 10), ("NOTSET", 0)]

/-- Words that name something else than a threshold, with what that is. -/
def otherWords : List (String × String) :=
  [("BASIC_FORMAT", "%(levelname)s:%(name)s:%(message)s"), ("_STYLES", "")]

/-- Why a threshold cannot be set. -/
inductive ThresholdFault where
  /-- The word names a text that is no threshold. -/
  | unknown (text : String)
  /-- The word names no number and no text. -/
  | noNumber
  deriving DecidableEq, Inhabited

/-- How the fault is told. -/
def ThresholdFault.message : ThresholdFault → String
  | unknown text => s!"Unknown level: {Text.quoted text}"
  | noNumber => "Level not an integer or a valid string"

/-- The rank that a word names; an unknown word stands for that of information. -/
def threshold (word : String) : Except ThresholdFault Nat :=
  let word := word.toUpper
  match otherWords.lookup word with
  | some "" => .error .noNumber
  | some text => .error (.unknown text)
  | none => .ok ((thresholdWords.lookup word).getD Level.info.rank)

/-- The rank that counts: without a threshold of its own a journal takes that of warnings. -/
def effectiveThreshold (rank : Nat) : Nat := if rank = 0 then Level.warning.rank else rank

/-! ## Views -/

/-- What records are noted through. -/
structure View where
  component : String
  operation? : Option String := none
  image? : Option String := none
  deriving DecidableEq, Inhabited

namespace View

/-- A view of an image that begins in the same operation. -/
def forImage (v : View) (image : String) : View := { v with image? := some image }

end View

/-- An operation that is open: the view it was opened on, and the operation that view was in
before. -/
structure OpenBlock where
  view : Nat
  before? : Option String
  deriving DecidableEq, Inhabited

/-- A journal with its views, the first of which stands for no image. -/
structure Journal where
  component : String
  threshold : Nat
  /-- Whether records are written as lines of the interchange format. -/
  structured : Bool
  views : List View
  /-- The open operations, the innermost first. -/
  blocks : List OpenBlock := []
  deriving Inhabited

/-! ## Calls -/

/-- A request to note something. -/
structure Call where
  level : Level
  template : String
  values : List Json := []
  /-- Further named data, some of which says how the record is made. -/
  data : List (String × Json) := []
  /-- Whether the failure that is being handled belongs to the record unless the data says
  otherwise. -/
  withFailure : Bool := false
  /-- The failure that is being handled. -/
  failure? : Option String := none
  deriving Inhabited

/-- Why a call is refused. -/
inductive CallFault where
  | kind
  | value (message : String)
  /-- The name belongs to the record itself. -/
  | reserved (name : String)
  deriving DecidableEq, Inhabited

/-- The names of data that say how a record is made. -/
def directiveNames : List String := ["exc_info", "stack_info", "stacklevel"]

/-- The names that a call gives its own parts. -/
def partNames : List String := ["msg", "self"]

/-- The name under which additions to a record are given. -/
def additionsName : String := "extra"

/-- The names of a record's own attributes. -/
def attributeNames : List String :=
  ["message", "asctime", "name", "msg", "args", "levelname", "levelno", "pathname", "filename",
    "module", "exc_info", "exc_text", "stack_info", "lineno", "funcName", "created", "msecs",
    "relativeCreated", "thread", "threadName", "processName", "process"]

/-- What an item of a list of pairs adds.  Only texts name an attribute; what has another name is never
read. -/
def pairAdditions (index : Nat) : Json → Except CallFault (List (String × Json))
  | .list [.text name, value] => .ok [(name, value)]
  | .list [.list _, _] | .list [.object _, _] => .error .kind
  | .list [_, _] => .ok []
  | .text s => match s.toList with
    | [name, value] => .ok [(String.singleton name, .text (String.singleton value))]
    | _ => .error (.value (lengthMessage s.length))
  | .list items => .error (.value (lengthMessage items.length))
  | .object [(name, _), (value, _)] => .ok [(name, .text value)]
  | .object fields => .error (.value (lengthMessage fields.length))
  | _ => .error .kind
where
  /-- How an item that is no pair is told. -/
  lengthMessage (length : Nat) : String :=
    s!"dictionary update sequence element #{index} has length {length}; 2 is required"

/-- What a list of pairs adds, from an index on. -/
def listAdditions (index : Nat) : List Json → Except CallFault (List (String × Json))
  | [] => .ok []
  | item :: rest => do
    let first ← pairAdditions index item
    let more ← listAdditions (index + 1) rest
    return first ++ more

/-- The additions to a record, by name; where a name is added twice, the last one counts. -/
def additions (value : Json) : Except CallFault (List (String × Json)) :=
  if !value.isTruthy then .ok []
  else match value with
    | .object fields => .ok fields
    | .list items => listAdditions 0 items
    | .text s => listAdditions 0 (s.toList.map fun c => .text (String.singleton c))
    | _ => .error .kind

/-- Whether a value can say how far up the caller of a call is. -/
def isCount : Json → Bool
  | .int _ | .bool _ | .real _ => true
  | _ => false

/-- The message of a call, none when its values do not fit its template. -/
def Call.message? (c : Call) : Option String :=
  match c.values with
  | [] => some c.template
  | [.object (field :: fields)] => render? c.template (.byName (field :: fields))
  | values => render? c.template (.byPosition values)

/-- The data that is kept with the record. -/
def Call.keptData (c : Call) : List (String × Json) :=
  c.data.filter fun (name, _) => !(directiveNames.contains name || name = additionsName)

/-- Whether the failure that is being handled belongs to the record. -/
def Call.wantsFailure (c : Call) : Bool :=
  match Json.lookup? c.data "exc_info" with
  | some value => value.isTruthy
  | none => c.withFailure

/-- How a failure is told on one line. -/
def failureText (message : String) : String :=
  if message.isEmpty then "ValueError" else s!"ValueError: {message}"

/-- What stands for a failure when there is none. -/
def noFailureText : String := "NoneType: None"

/-- The name under which the records of a component are written. -/
def loggerName (component : String) : String := s!"pescope.{component}"

/-- The text that stands for the time of a record. -/
def timeText : String := "T"

/-- The name under which the data of a record is kept. -/
def keptName : String := "scope_extra"

/-- What a view puts over the additions to a record: its context, and the data that is kept. -/
def View.attributes (v : View) (kept : List (String × Json)) : List (String × Json) :=
  [("component", .text v.component), ("operation", Json.ofText? v.operation?),
    ("image", Json.ofText? v.image?), (keptName, .object kept)]

/-- The attributes of a record that are written as its context, in the order in which they are
written. -/
def contextNames : List String := ["component", "operation", "image"]

/-- A field for an attribute that says something. -/
def contextField? (attributes : List (String × Json)) (name : String) : Option (String × Json) :=
  match Json.lookup? attributes name with
  | none | some .null => none
  | some value => some (name, value)

/-- The field for the data that is kept, if there is any. -/
def keptField? (attributes : List (String × Json)) : Option (String × Json) :=
  ((Json.lookup? attributes keptName).filter Json.isTruthy).map (("extra", ·))

/-- The field for the failure that is being handled, told on one line. -/
def Call.failureField? (c : Call) : Option (String × Json) :=
  if c.wantsFailure then c.failure?.map fun message =>
    ("exc_info", .text ((Text.lines (failureText message)).getLast?.getD ""))
  else none

/-- The fields of a record: the time, the level, the message, the context, the data. -/
def recordFields (component : String) (attributes : List (String × Json)) (c : Call) (message : String) :
    List (String × Json) :=
  [("timestamp", .text timeText), ("level", .text c.level.word),
    ("logger", .text (loggerName component)), ("message", .text message)]
    ++ contextNames.filterMap (contextField? attributes)
    ++ (keptField? attributes).toList
    ++ c.failureField?.toList

/-- A record as plain lines. -/
def plainRecord (component : String) (c : Call) (message : String) : String :=
  let line := " | ".intercalate
    [timeText, Text.padRight 8 c.level.word, loggerName component, message]
  if !c.wantsFailure then line
  else
    line ++ (if message.endsWith "\n" then "" else "\n")
      ++ match c.failure? with
        | some message => failureText message
        | none => noFailureText

/-- What a record makes its message with.  An attribute of that name hides it, and the record is never
written. -/
def messageMaker : String := "getMessage"

/-- What is done with a journal. -/
inductive Step where
  /-- Makes a view of an image from another view. -/
  | view (parent : Nat) (image : String)
  /-- Opens an operation on a view. -/
  | enter (view : Nat) (name : String)
  /-- Closes the innermost operation of a view. -/
  | exit (view : Nat)
  | note (view : Nat) (call : Call)
  /-- Notes beginning and end of a piece of work, and what is said inside it. -/
  | timed (view : Nat) (label : String) (inner? : Option String)

namespace Journal

/-- A journal of a component with one view. -/
def start (component : String) (threshold : Nat) (structured : Bool) : Journal where
  component := component
  threshold := effectiveThreshold threshold
  structured := structured
  views := [{ component }]

/-- The view of a number; every number that a view was given stands for it. -/
def viewAt (j : Journal) (index : Nat) : View := j.views[index]?.getD { component := j.component }

/-- The lines that a call writes through a view.  The context of the view is put over the additions to
the record, so that they cannot stand for it. -/
def note (j : Journal) (view : Nat) (c : Call) : Except CallFault (List String) := do
  if c.data.any fun (name, _) => partNames.contains name then throw .kind
  let added ← additions ((Json.lookup? c.data additionsName).getD .null)
  if c.level.rank < j.threshold then return []
  if !((Json.lookup? c.data "stacklevel").all isCount) then throw .kind
  let attributes := added ++ (j.viewAt view).attributes c.keptData
  match (attributes.map (·.1)).find? attributeNames.contains with
  | some name => throw (.reserved name)
  | none =>
    return match c.message?, (attributes.map (·.1)).contains messageMaker with
      | some message, false =>
        if j.structured then [(Json.object (recordFields j.component attributes c message)).compact]
        else Text.lines (plainRecord j.component c message)
      | _, _ => []

/-- The journal with one more view, of an image. -/
def addView (j : Journal) (parent : Nat) (image : String) : Journal :=
  { j with views := j.views ++ [(j.viewAt parent).forImage image] }

/-- The journal with the operation of a view set. -/
def setOperation (j : Journal) (view : Nat) (operation? : Option String) : Journal :=
  { j with views := j.views.modify view fun v => { v with operation? } }

/-- The journal with an operation opened on a view. -/
def enter (j : Journal) (view : Nat) (name : String) : Journal :=
  let before? := (j.viewAt view).operation?
  { j.setOperation view (some name) with blocks := ⟨view, before?⟩ :: j.blocks }

/-- The journal with the innermost operation that is open on a view closed. -/
def exit (j : Journal) (view : Nat) : Journal :=
  match j.blocks.find? (·.view = view) with
  | none => j
  | some block =>
    { j.setOperation view block.before? with blocks := j.blocks.eraseP (·.view = view) }

/-- The lines around a piece of work that is timed, and of what is noted inside it. -/
def timed (j : Journal) (view : Nat) (label : String) (inner? : Option String) :
    Except CallFault (List String) := do
  let before ← j.note view { level := .debug, template := "Started: %s", values := [.text label] }
  let inside ← match inner? with
    | some message => j.note view { level := .info, template := message }
    | none => pure []
  let after ← j.note view
    { level := .debug, template := "Completed: %s (T sec)", values := [.text label] }
  return before ++ inside ++ after

/-- Takes a step.  A step that writes lines leaves the journal as it is. -/
def step (j : Journal) : Step → Journal × Except CallFault (List String)
  | .view parent image => (j.addView parent image, .ok [])
  | .enter view name => (j.enter view name, .ok [])
  | .exit view => (j.exit view, .ok [])
  | .note view call => (j, j.note view call)
  | .timed view label inner? => (j, j.timed view label inner?)

/-- Takes steps in order, with the lines or the refusal of each. -/
def run (j : Journal) : List Step → Journal × List (Except CallFault (List String))
  | [] => (j, [])
  | s :: steps =>
    let (there, answer) := j.step s
    let (last, answers) := there.run steps
    (last, answer :: answers)

end Journal

end ImageImports.Log
