import ImageImports.Reader

/-!
# Byte sources and programs over them

A source is a reader that has a display name and can be closed.  A `Step` asks one thing of it, and
a block of steps can be bracketed so that the head comes back to where it stood when the block
began.  Running a program answers every step in order; a step that fails leaves the rest to run.

A closed source still knows its size and its name.  It refuses a position outside its range and
answers a read of nothing, both without looking at the bytes; everything else fails, and a file says
what it was that it could not do.

What a file is read into is made before the read, as large as the count says, however few bytes are
left; bytes in memory are only copied as far as there are any.
-/

namespace ImageImports

/-- Where the bytes of a source come from. -/
inductive Medium where
  | memory
  | file
  deriving DecidableEq, Inhabited

/-- A reader with a name, open until it is closed. -/
structure Source where
  reader : Reader
  name : String
  medium : Medium
  isOpen : Bool
  deriving Inhabited

namespace Source

/-- The name of a source that nobody named. -/
def memoryName : String := "<memory>"

/-- A source over bytes in memory. -/
def ofBytes (bytes : ByteArray) (name : String) : Source :=
  ⟨{ data := bytes }, name, .memory, true⟩

/-- A source over the contents of a file. -/
def ofFile (bytes : ByteArray) (name : String) : Source :=
  ⟨{ data := bytes }, name, .file, true⟩

/-- Where the head stands, none once the source is closed. -/
def tell? (s : Source) : Option Nat := if s.isOpen then some s.reader.pos else none

/-- One thing asked of a source. -/
inductive Step where
  | seek (offset : Int)
  | tell
  | read (count : Int)
  | readExact (count : Int)
  | readAt (offset count : Int)
  | readText (maxLength : Int)
  | readTextAt (offset maxLength : Int)
  | size
  | name
  | close
  /-- Runs the steps and puts the head back. -/
  | preserve (steps : List Step)
  deriving Inhabited

/-- What is done with the bytes of a source. -/
inductive Act where
  | seek
  | tell
  | read
  deriving DecidableEq, Inhabited

/-- Why a step failed. -/
inductive Fault where
  /-- The source is closed. -/
  | closed (medium : Medium) (act : Act)
  /-- The count has more than 63 bits. -/
  | countTooLarge
  /-- No block of bytes can be that large. -/
  | blockTooLarge
  /-- Memory has no room for a block of bytes that large. -/
  | noMemory
  deriving DecidableEq, Inhabited

/-- What a step answers. -/
inductive Answer where
  | nothing
  | flag (b : Bool)
  | number (n : Nat)
  | name (s : String)
  | bytes (b : Option ByteArray)
  | text (s : Option String)
  /-- The position that was saved, and what the inner steps answered. -/
  | preserved (saved : Nat) (inner : List (Except Fault Answer × Option Nat))
  deriving Inhabited

/-- What a step answers, and where the head stands after it. -/
abbrev Outcome := Except Fault Answer × Option Nat

/-- The least count that a read refuses. -/
def countLimit : Int := 0x8000000000000000

/-- The least size that no block of bytes can have; its head takes 33 bytes. -/
def blockLimit : Int := countLimit - 33

/-- The least size of a block of bytes that memory has no room for. -/
def memoryLimit : Int := 0x800000000

/-- Why no block of `count` bytes can be made for a read. -/
def blockFault? (s : Source) (count : Int) : Option Fault :=
  match s.medium with
  | .memory => none
  | .file =>
    if blockLimit ≤ count then some .blockTooLarge
    else if memoryLimit ≤ count then some .noMemory
    else none

/-- The failure of an act that needs an open source. -/
def closedFault? (s : Source) (act : Act) : Option Fault :=
  if s.isOpen then none else some (.closed s.medium act)

/-- Why a read of `count` bytes cannot start: nothing is wrong with a read of nothing. -/
def readFault? (s : Source) (count : Int) : Option Fault :=
  if count ≤ 0 then none
  else if countLimit ≤ count then some .countTooLarge
  else (s.closedFault? .read).or (s.blockFault? count)

/-- Answers from the reader, unless something stands in the way. -/
def answer (s : Source) (fault? : Option Fault) (ask : Reader → Answer × Reader) :
    Except Fault Answer × Source :=
  match fault? with
  | some fault => (.error fault, s)
  | none =>
    let (value, reader) := ask s.reader
    (.ok value, { s with reader })

/-- Whether `offset` lies between the two ends. -/
def inRange (s : Source) (offset : Int) : Bool := 0 ≤ offset && offset ≤ s.reader.size

/-- Moves the head, if the offset lies in the source. -/
def seek (s : Source) (offset : Int) : Except Fault Answer × Source :=
  s.answer (if s.inRange offset then s.closedFault? .seek else none) fun r =>
    match r.seek? offset with
    | some there => (.flag true, there)
    | none => (.flag false, r)

mutual

/-- Answers one step. -/
def step (s : Source) : Step → Except Fault Answer × Source
  | .seek offset => s.seek offset
  | .tell => s.answer (s.closedFault? .tell) fun r => (.number r.pos, r)
  | .read count => s.answer (s.readFault? count) fun r =>
      let (block, after) := r.read count
      (.bytes (some block), after)
  | .readExact count => s.answer (s.readFault? count) fun r =>
      let (block?, after) := r.readExact count
      (.bytes block?, after)
  | .readAt offset count =>
      let fault? :=
        (s.closedFault? .tell).or (if s.inRange offset then s.readFault? count else none)
      s.answer fault? fun r =>
        let (block?, after) := r.readAt offset count
        (.bytes block?, after)
  | .readText maxLength =>
      s.answer (if 0 ≤ maxLength then s.closedFault? .read else none) fun r =>
        let (text?, after) := r.readText maxLength
        (.text text?, after)
  | .readTextAt offset maxLength => s.answer (s.closedFault? .tell) fun r =>
      let (text?, after) := r.readTextAt offset maxLength
      (.text text?, after)
  | .size => (.ok (.number s.reader.size), s)
  | .name => (.ok (.name s.name), s)
  | .close => (.ok .nothing, { s with isOpen := false })
  | .preserve steps =>
    match s.closedFault? .tell with
    | some fault => (.error fault, s)
    | none =>
      let saved := s.reader.pos
      let (inner, after) := s.run steps
      match after.closedFault? .seek with
      | some fault => (.error fault, after)
      | none =>
        (.ok (.preserved saved inner), { after with reader := { after.reader with pos := saved } })

/-- Answers the steps in order. -/
def run (s : Source) : List Step → List Outcome × Source
  | [] => ([], s)
  | step :: rest =>
    let (value, after) := s.step step
    let (outcomes, last) := after.run rest
    ((value, after.tell?) :: outcomes, last)

end

/-- How the failure is told. -/
def Fault.message : Fault → String
  | .closed .memory _ => "I/O operation on closed file."
  | .closed .file .seek => "seek of closed file"
  | .closed .file .tell => "I/O operation on closed file"
  | .closed .file .read => "read of closed file"
  | .countTooLarge => "cannot fit 'int' into an index-sized integer"
  | .blockTooLarge => "byte string is too large"
  | .noMemory => ""

end Source

end ImageImports
