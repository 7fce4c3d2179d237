import ImageImports.Directory
import ImageImports.Import.Table
import ImageImports.Import.Limits
import ImageImports.Log

/-!
# Reading an import directory

Two phases share one reading head.

1. *Descriptors.*  Records are read one after the other until one has neither table.  The library
   name of each is read aside.  When a name cannot be read, the array ends there, provided that at
   least one library was accepted: loaders tolerate what follows.
2. *Lookup tables.*  For every accepted library the thunks are read one after the other until a
   zero.  A thunk that is no ordinal points to a hint and a name, which are read aside.

Whatever goes wrong ends the whole reading, and what was collected so far is kept.  Every loop is
bounded by the raw data of the section its table starts in, by the limits, and by the file.

## Main results

* `Context.libraryName_snd`, `Context.withHintName_snd` — what is read aside leaves the head where
  it was.
* `Context.readDescriptors`, `Context.readEntries` — total because an exact read leaves less to read
  (`Reader.left_lt_of_readExact`), and what is read aside leaves no more.
-/

namespace ImageImports.Import

/-! ## Causes -/

/-- The width of an image's addresses. -/
inductive Width where
  | narrow
  | wide
  deriving DecidableEq, Inhabited

namespace Width

/-- The number of bits of a thunk. -/
def bits : Width → Nat
  | narrow => 32
  | wide => 64

/-- The number of bytes of a thunk. -/
def bytes : Width → Nat
  | narrow => 4
  | wide => 8

/-- The width of that many bits. -/
def ofBits? : Option Int → Option Width
  | some 32 => some narrow
  | some 64 => some wide
  | _ => none

theorem bytes_pos (w : Width) : (0 : Int) < w.bytes := by cases w <;> decide

end Width

/-- Everything that ends the reading of an import directory early. -/
inductive Cause where
  /-- The optional header gave no width. -/
  | widthUnknown
  | directoryUnreachable (e : DataDirectory.Unreachable)
  | directoryBeyondEnd (offset : Int)
  | descriptorsUnterminated (position : Nat)
  | descriptorUnreadable (position : Nat)
  | firstNameUnreadable (nameRva : Int) (position : Nat)
  | tooManyLibraries (limit : String) (position : Nat)
  /-- The offset is there when the address has one that lies outside the file. -/
  | lookupUnreachable (library : String) (rva : Int) (offset? : Option Int)
  | lookupInDescriptors (library : String) (offset : Int)
  | lookupUnterminated (library : String) (position : Nat)
  | lookupUnreadable (library : String) (position : Nat)
  | tooManyEntries (library limit : String) (position : Nat)
  | hintUnreachable (library : String) (rva : Int)
  | hintUnreadable (library : String) (offset : Int)
  deriving DecidableEq, Inhabited

namespace Cause

open Bytes (hexNumber)

/-- The kind that a cause is stored as. -/
def kind : Cause → FailureKind
  | widthUnknown => .headerUnavailable
  | directoryUnreachable .. => .directoryUnreachable
  | directoryBeyondEnd .. | descriptorUnreadable .. => .descriptorUnreadable
  | firstNameUnreadable .. => .descriptorNameUnreadable
  | descriptorsUnterminated .. | tooManyLibraries .. | lookupUnterminated .. | tooManyEntries .. =>
    .tableTooLarge
  | lookupUnreachable .. => .lookupTableUnreachable
  | lookupInDescriptors .. => .possibleLoop
  | lookupUnreadable .. => .lookupTableUnreadable
  | hintUnreachable .. => .hintNameTableUnreachable
  | hintUnreadable .. => .hintNameUnreadable

/-- How a cause is told. -/
def message : Cause → String
  | widthUnknown => "The optional header was not parsed; image bitness is unknown."
  | directoryUnreachable e => e.message
  | directoryBeyondEnd offset =>
    s!"Import directory offset {hexNumber offset} is beyond the end of the file."
  | descriptorsUnterminated _ =>
    "The import descriptor array runs past the end of its section without a terminating entry."
  | descriptorUnreadable position =>
    s!"Could not read the import descriptor at {hexNumber position}."
  | firstNameUnreadable nameRva _ =>
    s!"Could not read the name of the first import descriptor (name RVA {hexNumber nameRva})."
  | tooManyLibraries limit _ => s!"More than {limit} import descriptors."
  | lookupUnreachable library rva _ =>
    s!"Could not reach the import lookup table of {library} (RVA {hexNumber rva})."
  | lookupInDescriptors library offset =>
    s!"The import lookup table of {library} points back into the import descriptor array (offset {hexNumber offset})."
  | lookupUnterminated library _ =>
    s!"The import lookup table of {library} runs past the end of its section without a terminating entry."
  | lookupUnreadable library position =>
    s!"Could not read the import lookup table of {library} at {hexNumber position}."
  | tooManyEntries library limit _ => s!"{library} imports more than {limit} symbols."
  | hintUnreachable library rva =>
    s!"Could not reach the hint/name entry of an import from {library} (RVA {hexNumber rva})."
  | hintUnreadable library offset =>
    s!"Could not read the hint/name entry of an import from {library} at {hexNumber offset}."

/-- The offset, or the address where there is no offset, at which the reading ended. -/
def offset? : Cause → Option Int
  | widthUnknown => none
  | directoryUnreachable e => some e.rva
  | directoryBeyondEnd offset => some offset
  | descriptorsUnterminated position | descriptorUnreadable position => some position
  | firstNameUnreadable _ position | tooManyLibraries _ position => some position
  | lookupUnreachable _ rva offset? => some (offset?.getD rva)
  | lookupInDescriptors _ offset => some offset
  | lookupUnterminated _ position | lookupUnreadable _ position => some position
  | tooManyEntries _ _ position => some position
  | hintUnreachable _ rva => some rva
  | hintUnreadable _ offset => some offset

/-- The library whose symbols were being read. -/
def library : Cause → String
  | lookupUnreachable library .. | lookupInDescriptors library .. | lookupUnterminated library ..
  | lookupUnreadable library .. | tooManyEntries library .. | hintUnreachable library ..
  | hintUnreadable library .. => library
  | _ => ""

/-- The failure that a cause is stored as. -/
def failure (c : Cause) : Failure := ⟨c.kind, c.message, c.offset?, c.library⟩

end Cause

/-- Why the reading ended early: the image, or the settings. -/
inductive Stop where
  | aborted (cause : Cause)
  | fault (fault : SettingFault)
  deriving DecidableEq, Inhabited

/-- How one of the loops ended. -/
inductive Ending where
  | complete
  /-- The rest is tolerated, with a warning. -/
  | abandoned (warning : String)
  | stopped (stop : Stop)
  deriving DecidableEq, Inhabited

/-- What one of the loops collected, where it left the head, and how it ended. -/
structure Scan (α : Type) where
  items : List α
  reader : Reader
  ending : Ending

namespace Scan

variable {α : Type}

/-- A loop that ended without another item. -/
def finished (reader : Reader) (ending : Ending) : Scan α := ⟨[], reader, ending⟩

/-- A loop that the image ended. -/
def aborted (reader : Reader) (cause : Cause) : Scan α := ⟨[], reader, .stopped (.aborted cause)⟩

/-- A loop that the settings ended. -/
def faulted (reader : Reader) (fault : SettingFault) : Scan α := ⟨[], reader, .stopped (.fault fault)⟩

/-- The loop with one more item in front. -/
def cons (item : α) (scan : Scan α) : Scan α := { scan with items := item :: scan.items }

end Scan

/-! ## Phase 1: descriptors -/

/-- What the loops know about the image. -/
structure Context where
  sections : SectionMap
  width : Width
  limits : Limits

/-- Whether a table that must not go past `tableEnd?` would do so at `stop`. -/
def runsPast (tableEnd? : Option Int) (stop : Int) : Bool :=
  match tableEnd? with
  | some tableEnd => tableEnd < stop
  | none => false

namespace Context

/-- Where the library name of a descriptor is looked for. -/
def nameOffset? (ctx : Context) (d : Descriptor) : Option Int :=
  match ctx.sections.toOffset? d.nameRva with
  | some offset => some offset
  | none => if ctx.limits.nameOffsetFallback then some d.nameRva else none

/-- The library name of a descriptor; it is read aside. -/
def libraryName (ctx : Context) (r : Reader) (d : Descriptor) :
    Except SettingFault (Option String) × Reader :=
  match ctx.nameOffset? d with
  | none => (.ok none, r)
  | some offset => ctx.limits.maxTextLength.readTextAt r offset

/-- Looking for a library name leaves the head where it was. -/
theorem libraryName_snd (ctx : Context) (r : Reader) (d : Descriptor) :
    (ctx.libraryName r d).2 = r := by
  rw [libraryName]
  split
  · rfl
  · exact Limit.readTextAt_snd ..

theorem eq_of_libraryName {ctx : Context} {r back : Reader} {d : Descriptor}
    {name? : Except SettingFault (Option String)} (h : ctx.libraryName r d = (name?, back)) :
    back = r := by
  rw [← ctx.libraryName_snd r d, h]

/-- The warning about the first descriptor whose name is tolerated not to be there. -/
def abandonedWarning (count : Nat) (d : Descriptor) : String :=
  s!"Could not read the name of import descriptor #{count} (name RVA {Bytes.hexNumber d.nameRva}); keeping the {count} libraries read so far."

/-- What a limit that `count` items have reached ends a loop with. -/
def limitStop (limit : Limit) (cause : Cause) : Stop :=
  match limit.comparisonFault? ">=" with
  | some fault => .fault fault
  | none => .aborted cause

/-- Reads descriptors from the head on; `count` of them were accepted before. -/
def readDescriptors (ctx : Context) (tableEnd? : Option Int) (r : Reader) (count : Nat) :
    Scan Descriptor :=
  if runsPast tableEnd? (r.pos + Descriptor.recordSize) then
    .aborted r (.descriptorsUnterminated r.pos)
  else match _h : r.readExact Descriptor.recordSize with
    | (none, after) => .aborted after (.descriptorUnreadable r.pos)
    | (some record, after) =>
      let d := Descriptor.decode record
      if d.isSentinel then .finished after .complete
      else match _hname : ctx.libraryName after d with
        | (.error fault, back) => .faulted back fault
        | (.ok none, back) =>
          if count = 0 then .aborted back (.firstNameUnreadable d.nameRva r.pos)
          else .finished back (.abandoned (abandonedWarning count d))
        | (.ok (some name), back) =>
          let limit := ctx.limits.maxLibraries
          if limit.reachedBy count then
            .finished back (.stopped (limitStop limit (.tooManyLibraries limit.label r.pos)))
          else (ctx.readDescriptors tableEnd? back (count + 1)).cons { d with name }
  termination_by r.size - r.pos
  decreasing_by
    rw [eq_of_libraryName _hname]
    exact Reader.left_lt_of_readExact _h (by decide)

/-! ## Phase 2: lookup tables -/

/-- The entry with the hint and the name at an offset. -/
def hintNameAt (ctx : Context) (library : String) (e : Entry) (offset : Int) (r : Reader) :
    Except Stop Entry × Reader :=
  match (r.seek? offset).map (·.readExact 2) with
  | none => (.error (.aborted (.hintUnreadable library offset)), r)
  | some (none, after) => (.error (.aborted (.hintUnreadable library offset)), after)
  | some (some hint, after) =>
    match ctx.limits.maxTextLength.readText after with
    | (.error fault, last) => (.error (.fault fault), last)
    | (.ok none, last) => (.error (.aborted (.hintUnreadable library offset)), last)
    | (.ok (some name), last) =>
      (.ok { e with hint := some (Bytes.littleEndian hint : Int), name }, last)

/-- Adds the hint and the name to an entry that has them; they are read aside. -/
def withHintName (ctx : Context) (library : String) (r : Reader) (e : Entry) :
    Except Stop Entry × Reader :=
  if e.isOrdinal then (.ok e, r)
  else match ctx.sections.toOffset? e.hintNameRva with
    | none => (.error (.aborted (.hintUnreachable library e.hintNameRva)), r)
    | some offset => r.aside (ctx.hintNameAt library e offset)

theorem data_hintNameAt (ctx : Context) (library : String) (e : Entry) (offset : Int) (r : Reader) :
    (ctx.hintNameAt library e offset r).2.data = r.data := by
  have hdata {got : Option ByteArray} {after : Reader}
      (h : (r.seek? offset).map (·.readExact 2) = some (got, after)) : after.data = r.data := by
    obtain ⟨there, hthere, hread⟩ := Option.map_eq_some_iff.1 h
    rw [← Reader.data_seek? hthere, ← there.data_readExact 2, hread]
  rw [hintNameAt]
  split
  · rfl
  · next hread => exact hdata hread
  · next hint after hread =>
    have htext := ctx.limits.maxTextLength.data_readText after
    split
    · next hname => exact (hname ▸ htext).trans (hdata hread)
    · next hname => exact (hname ▸ htext).trans (hdata hread)
    · next hname => exact (hname ▸ htext).trans (hdata hread)

/-- Looking for a hint and a name leaves the head where it was. -/
theorem withHintName_snd (ctx : Context) (library : String) (r : Reader) (e : Entry) :
    (ctx.withHintName library r e).2 = r := by
  rw [withHintName]
  split
  · rfl
  · split
    · rfl
    · exact r.aside_snd _ (ctx.data_hintNameAt ..)

theorem eq_of_withHintName {ctx : Context} {library : String} {r back : Reader} {e : Entry}
    {result : Except Stop Entry} (h : ctx.withHintName library r e = (result, back)) :
    back = r := by
  rw [← ctx.withHintName_snd library r e, h]

/-- Reads thunks from the head on; `count` of them were accepted before. -/
def readEntries (ctx : Context) (library : String) (tableEnd? : Option Int) (r : Reader)
    (count : Nat) : Scan Entry :=
  if runsPast tableEnd? (r.pos + ctx.width.bytes) then .aborted r (.lookupUnterminated library r.pos)
  else match _h : r.readExact ctx.width.bytes with
    | (none, after) => .aborted after (.lookupUnreadable library r.pos)
    | (some thunk, after) =>
      let value := Bytes.littleEndian thunk
      if value = 0 then .finished after .complete
      else
        let limit := ctx.limits.maxEntriesPerLibrary
        if limit.reachedBy count then
          .finished after (.stopped (limitStop limit (.tooManyEntries library limit.label r.pos)))
        else match _hentry : ctx.withHintName library after (.ofThunk value (ctx.width.bits - 1)) with
          | (.error stop, back) => .finished back (.stopped stop)
          | (.ok entry, back) => (ctx.readEntries library tableEnd? back (count + 1)).cons entry
  termination_by r.size - r.pos
  decreasing_by
    rw [eq_of_withHintName _hentry]
    exact Reader.left_lt_of_readExact _h ctx.width.bytes_pos

/-- Reads the lookup table of a library; the descriptor array lies in `[arrayStart, arrayEnd)`. -/
def readLookupTable (ctx : Context) (arrayStart arrayEnd : Int) (r : Reader) (d : Descriptor) :
    Scan Entry :=
  let rva := d.lookupRva
  match ctx.sections.toOffset? rva with
  | none => .aborted r (.lookupUnreachable d.name rva none)
  | some offset =>
    match r.seek? offset with
    | none => .aborted r (.lookupUnreachable d.name rva (some offset))
    | some there =>
      if arrayStart ≤ offset ∧ offset < arrayEnd then
        .aborted there (.lookupInDescriptors d.name offset)
      else ctx.readEntries d.name (ctx.sections.rawEndAt? rva) there 0

/-- Reads the lookup tables in order.  A library behind the one that ended the reading is kept
without symbols. -/
def readLookupTables (ctx : Context) (arrayStart arrayEnd : Int) (r : Reader) :
    List Descriptor → List Library × Reader × Option Stop
  | [] => ([], r, none)
  | d :: rest =>
    let scan := ctx.readLookupTable arrayStart arrayEnd r d
    match scan.ending with
    | .stopped stop => (⟨d, scan.items⟩ :: rest.map (⟨·, []⟩), scan.reader, some stop)
    | _ =>
      let (libraries, reader, stop?) := ctx.readLookupTables arrayStart arrayEnd scan.reader rest
      (⟨d, scan.items⟩ :: libraries, reader, stop?)

end Context

/-! ## Libraries named twice -/

/-- A library name with the case of its letters ignored; the names of an image are ASCII. -/
def nameKey (name : String) : String := name.map Char.toLower

/-- One warning per name that several descriptors have, at its first occurrence. -/
def duplicateWarnings (names : List String) : List String :=
  go [] names
where
  /-- `seen` are the keys of the names before `rest`. -/
  go (seen : List String) : List String → List String
    | [] => []
    | name :: rest =>
      let key := nameKey name
      let count := 1 + (rest.filter (nameKey · = key)).length
      let warnings := go (key :: seen) rest
      if key ∈ seen ∨ count = 1 then warnings
      else s!"Library {name} is imported by {count} descriptors." :: warnings

/-! ## The whole directory -/

/-- What the reading of an import directory leaves. -/
structure Outcome where
  table : Table
  /-- The head, wherever the reading left it. -/
  reader : Reader
  log : List Log.Record
  /-- A setting that could not be used; the table is then of no use either. -/
  fault? : Option SettingFault

/-- The operation that records of an import directory are noted in. -/
def operationName : String := "import_directory"

/-- A table, the libraries read before `stop?` kept. -/
def outcome (bits : Option Int) (libraries : List Library) (present : Bool) (warnings : List String)
    (reader : Reader) (notes : List Log.Record) (stop? : Option Stop) : Outcome :=
  let cause? := match stop? with
    | some (.aborted cause) => some cause
    | _ => none
  let warned : List Log.Record := warnings.map fun message => ⟨.warning, none, message⟩
  let aborted : List Log.Record := cause?.toList.map fun cause =>
    ⟨.error, none, s!"Import parsing aborted ({cause.kind.word}): {cause.message}"⟩
  { table := {
      libraries
      bits := ((Width.ofBits? bits).getD .narrow).bits
      directoryPresent := present
      error := cause?.map Cause.failure
      warnings }
    reader
    log := (notes ++ warned ++ aborted).map (·.within operationName)
    fault? := match stop? with
      | some (.fault fault) => some fault
      | _ => none }

/-- Reads the import directory at a known place. -/
def readAt (ctx : Context) (bits : Option Int) (location : DataDirectory.Location) (r : Reader) :
    Outcome :=
  match r.seek? location.offset with
  | none =>
    outcome bits [] true [] r [] (some (.aborted (.directoryBeyondEnd location.offset)))
  | some there =>
    let scan := ctx.readDescriptors (ctx.sections.rawEndAt? location.rva) there 0
    let unread : List Library := scan.items.map (⟨·, []⟩)
    match scan.ending with
    | .stopped stop => outcome bits unread true [] scan.reader [] (some stop)
    | ending =>
      let abandoned := match ending with
        | .abandoned warning => [warning]
        | _ => []
      let warnings := abandoned ++ duplicateWarnings (scan.items.map (·.name))
      let (libraries, reader, stop?) :=
        ctx.readLookupTables location.offset scan.reader.pos scan.reader scan.items
      outcome bits libraries true warnings reader [] stop?

/-- Reads the import directory of an image. -/
def read (r : Reader) (sections : SectionMap) (directories : List DataDirectory)
    (bits : Option Int) (limits : Limits) : Outcome :=
  match Width.ofBits? bits with
  | none => outcome bits [] true [] r [] (some (.aborted .widthUnknown))
  | some width =>
    match DataDirectory.locate directories sections DataDirectory.importIndex with
    | .error e => outcome bits [] true [] r [] (some (.aborted (.directoryUnreachable e)))
    | .ok none =>
      outcome bits [] false [] r [⟨.debug, none, "Image has no import directory"⟩] none
    | .ok (some location) => readAt ⟨sections, width, limits⟩ bits location r

end ImageImports.Import
