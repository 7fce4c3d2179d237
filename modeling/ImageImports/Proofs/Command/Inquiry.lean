import ImageImports.Proofs.Command.Options

/-!
# Inquiries

An inquiry is a command line that only asks: it names files that can be read, and it may
say which library is listed, what is searched for, whether case counts, and whether a
record is shown.  It stores nothing and leaves all settings at their defaults.  Its parts
make a request whose values are the last ones given, whatever the order of the parts is.

## Main results

* `Request.ofParts_inquiry` — the parts of an inquiry make the request that they say.
-/

namespace ImageImports.Command

/-- A part that asks for something to be shown, or names a file to show it of. -/
def Part.asks : Part → Bool
  | .path _ => true
  | .flag name => name = .json ∨ name = .ignoreCase
  | .value name _ => name = .library ∨ name = .search ∨ name = .libraryPattern

/-- Parts that only ask, of files that can be read.  Patterns can be read, and what is
listed is no name that begins a tag of markup. -/
structure Inquiry (files : Files) (parts : List Part) : Prop where
  asks : ∀ part ∈ parts, part.asks = true
  somePath : Request.pathsOf parts ≠ []
  readable : ∀ path ∈ Request.pathsOf parts, ∃ bytes, files.read? path = some bytes
  search : ∀ text, .value .search text ∈ parts → Succeeds (Import.nameTest text true)
  libraryPattern : ∀ text, .value .libraryPattern text ∈ parts →
    Succeeds (Import.nameTest text true)
  library : ∀ text, .value .library text ∈ parts → '[' ∉ text.toList

namespace Request

/-- The request that the parts of an inquiry say. -/
def ofInquiry (parts : List Part) : Request where
  paths := pathsOf parts
  library? := lastValue? parts .library
  search? := lastValue? parts .search
  libraryPattern := (lastValue? parts .libraryPattern).getD Import.anyLibrary
  ignoreCase := parts.contains (.flag .ignoreCase)
  json := parts.contains (.flag .json)

/-- Nothing but what is asked is in the request that an inquiry says. -/
theorem ofGiven_inquiry {files : Files} {parts : List Part} (h : Inquiry files parts) :
    ofGiven parts = ofInquiry parts := by
  have hoption (name : OptionName) (hname : (Part.value name "").asks = false) :
      lastValue? parts name = none := by
    refine lastValue?_eq_none fun text hmem => ?_
    have hasks : (Part.value name text).asks = true := h.asks _ hmem
    exact absurd (hname.symm.trans hasks) Bool.false_ne_true
  have hverbose : parts.contains (.flag .verbose) = false := by
    refine Bool.eq_false_iff.2 fun hmem => ?_
    exact absurd (h.asks _ (List.contains_iff_mem.1 hmem)) (by decide)
  rw [ofGiven, hoption .output rfl, hoption .config rfl, hverbose]
  rfl

/-- **The parts of an inquiry are a request**: the files are those that are named, and
every option has the last value that is given for it. -/
theorem ofParts_inquiry {files : Files} {parts : List Part} (h : Inquiry files parts) :
    ofParts files parts = .ok (ofInquiry parts) := by
  have hhelp : .flag .help ∉ parts := fun hmem => absurd (h.asks _ hmem) (by decide)
  have hpaths : ∀ path ∈ pathsOf parts, Succeeds (checkPath files true path) :=
    fun path hpath => succeeds_checkPath_iff.2 (h.readable path hpath)
  have haccepted : ∀ name text, lastValue? parts name = some text →
      Accepted files text name := by
    intro name text hlast
    have hmem := lastValue?_eq_some hlast
    have hname : name = .library ∨ name = .search ∨ name = .libraryPattern :=
      of_decide_eq_true (h.asks _ hmem)
    rcases hname with rfl | rfl | rfl
    · trivial
    · exact succeeds_checkPattern_iff.2 (h.search text hmem)
    · exact succeeds_checkPattern_iff.2 (h.libraryPattern text hmem)
  rw [ofParts_accepted hhelp h.somePath hpaths haccepted, ofGiven_inquiry h]

end Request

end ImageImports.Command
