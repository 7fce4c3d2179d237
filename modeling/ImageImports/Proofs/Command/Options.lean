import ImageImports.Command.Request
import ImageImports.Proofs.PathName
import ImageImports.Proofs.Success

/-!
# The request that a command line makes

Options may be given in any order and more than once.  A command line makes a request as soon
as it names files that are there and the last value given for each option passes that
option's check, and the request has these last values: neither the order of the parts nor a
value that is overruled shows in it.

## Main results

* `withOptions_accepted` — taking options in one by one gives each its last value.
* `ofParts_accepted` — the request that the parts of a command line make.
-/

namespace ImageImports.Command.Request

/-! ## Values that are given -/

/-- Whether some parts give a value for an option. -/
def gives (parts : List Part) (name : OptionName) : Bool :=
  parts.any fun
    | .value other _ => other = name
    | _ => false

/-- The last value of an option is one that is given for it. -/
theorem lastValue?_eq_some {parts : List Part} {name : OptionName} {text : String}
    (h : lastValue? parts name = some text) : .value name text ∈ parts := by
  rw [lastValue?, List.findSome?_eq_some_iff] at h
  obtain ⟨before, part, behind, heq, hpart, -⟩ := h
  have hmem : part ∈ parts := by
    rw [← List.mem_reverse, heq]
    exact List.mem_append_right before List.mem_cons_self
  split at hpart
  · split at hpart
    · next hname =>
      cases hpart
      rwa [← hname]
    · cases hpart
  · cases hpart

/-- An option has a last value when it is given one. -/
theorem isSome_lastValue? (parts : List Part) (name : OptionName) :
    (lastValue? parts name).isSome = gives parts name := by
  rw [lastValue?, gives, List.isSome_findSome?, List.any_reverse]
  congr 1
  funext part
  cases part with
  | value other text =>
    by_cases hname : other = name
    · simp [hname]
    · simp [hname]
  | flag other => rfl
  | path text => rfl

/-- An option that is given no value has no last one. -/
theorem lastValue?_eq_none {parts : List Part} {name : OptionName}
    (h : ∀ text, .value name text ∉ parts) : lastValue? parts name = none := by
  cases hlast : lastValue? parts name with
  | none => rfl
  | some text => exact absurd (lastValue?_eq_some hlast) (h text)

/-- The value of an option passes the check of that option. -/
def Accepted (files : Files) (text : String) : OptionName → Prop
  | .search | .libraryPattern => Succeeds (checkPattern text)
  | .output => Succeeds (checkPath files false text)
  | .config => Succeeds (checkPath files true text)
  | _ => True

theorem succeeds_checkPattern_iff {text : String} :
    Succeeds (checkPattern text) ↔ Succeeds (Import.nameTest text true) := by
  rw [checkPattern]
  cases Import.nameTest text true with
  | ok test => exact iff_of_true (succeeds_ok _) (succeeds_ok _)
  | error fault =>
    refine iff_of_false ?_ (not_succeeds_error fault)
    cases fault <;> exact not_succeeds_error _

/-- A path name passes the check for files that must be there when its file can be read. -/
theorem succeeds_checkPath_iff {files : Files} {path : String} :
    Succeeds (checkPath files true path) ↔ ∃ bytes, files.read? path = some bytes := by
  rw [checkPath, Files.read?]
  constructor
  · intro h
    split at h
    · exact absurd h (not_succeeds_error _)
    · split at h
      · exact absurd h (not_succeeds_error _)
      · exact absurd h (not_succeeds_error _)
      · exact absurd h (not_succeeds_error _)
      · next bytes hfind =>
        rw [hfind]
        exact ⟨bytes, rfl⟩
  · rintro ⟨bytes, hread⟩
    obtain ⟨there, hreach⟩ := Files.read?_eq_some_iff.1 hread
    obtain ⟨⟨-, hzero⟩, -⟩ := Files.reach_eq_ok_iff.1 hreach
    rw [if_neg hzero, Files.find?, hreach]
    exact succeeds_ok _

/-- Where a report goes that is stored under a name; nowhere when the name is empty. -/
def storedUnder (text : String) : Option String := if text.isEmpty then none else some text

/-- The request that parts say. -/
def ofGiven (parts : List Part) : Request where
  paths := pathsOf parts
  library? := lastValue? parts .library
  search? := lastValue? parts .search
  libraryPattern := (lastValue? parts .libraryPattern).getD Import.anyLibrary
  ignoreCase := parts.contains (.flag .ignoreCase)
  json := parts.contains (.flag .json)
  output? := (lastValue? parts .output).bind storedUnder
  config? := lastValue? parts .config
  verbose := parts.contains (.flag .verbose)

/-! ## Taking the options in -/

section

variable {files : Files} {all : List Part}

/-- A request with the options of some parts: an option that is given and not yet seen
gets its last value among all parts. -/
def taking (all : List Part) (seen : List OptionName) (r : Request)
    (parts : List Part) : Request :=
  let last? (name : OptionName) : Option String :=
    if gives parts name ∧ name ∉ seen then lastValue? all name else none
  { r with
    library? := (last? .library).or r.library?
    search? := (last? .search).or r.search?
    libraryPattern := (last? .libraryPattern).getD r.libraryPattern
    ignoreCase := r.ignoreCase || parts.contains (.flag .ignoreCase)
    json := r.json || parts.contains (.flag .json)
    output? := ((last? .output).map storedUnder).getD r.output?
    config? := (last? .config).or r.config?
    verbose := r.verbose || parts.contains (.flag .verbose) }

/-- A value that passes its check is taken in. -/
theorem withValue_accepted {name : OptionName} (r : Request) {text : String}
    (haccepted : Accepted files text name) (hlast : lastValue? all name = some text) :
    r.withValue files name text = .ok (taking all [] r [.value name text]) := by
  cases name with
  | search =>
    obtain ⟨⟨⟩, hcheck⟩ := haccepted
    simp [withValue, hcheck, Except.map, taking, gives, hlast]
  | libraryPattern =>
    obtain ⟨⟨⟩, hcheck⟩ := haccepted
    simp [withValue, hcheck, Except.map, taking, gives, hlast]
  | output =>
    obtain ⟨⟨⟩, hcheck⟩ := haccepted
    simp [withValue, hcheck, Except.map, taking, gives, hlast, storedUnder]
  | config =>
    obtain ⟨⟨⟩, hcheck⟩ := haccepted
    simp [withValue, hcheck, Except.map, taking, gives, hlast]
  | library | ignoreCase | json | verbose | help => simp [withValue, taking, gives, hlast]

theorem withOptions_accepted
    (haccepted : ∀ name text, lastValue? all name = some text → Accepted files text name)
    {parts : List Part} (hparts : ∀ part ∈ parts, part ∈ all) (seen : List OptionName)
    (r : Request) : r.withOptions files all seen parts = .ok (taking all seen r parts) := by
  -- An option counts once, with its last value among all parts, so `all` stays as it is
  -- while the parts are gone through.
  induction parts generalizing seen r with
  | nil => simp [withOptions, taking, gives]
  | cons part rest ih =>
    have hrest := ih fun other hother => hparts other (List.mem_cons_of_mem part hother)
    cases part with
    | path text =>
      rw [withOptions, hrest]
      simp [taking, gives]
    | flag name =>
      rw [withOptions, hrest]
      cases name <;> simp [taking, gives, withFlag]
    | value name text =>
      rw [withOptions]
      split
      · next hseen =>
        have hmem : name ∈ seen := List.contains_iff_mem.1 hseen
        rw [hrest]
        cases name <;> simp [taking, gives, hmem]
      · next hseen =>
        have hmem : name ∉ seen := fun hmem => hseen (List.contains_iff_mem.2 hmem)
        have hgiven : gives all name = true :=
          List.any_eq_true.2 ⟨_, hparts _ List.mem_cons_self, decide_eq_true rfl⟩
        obtain ⟨last, hlast⟩ :=
          Option.isSome_iff_exists.1 ((isSome_lastValue? all name).trans hgiven)
        rw [hlast, Option.getD_some, withValue_accepted r (haccepted name last hlast) hlast]
        show withOptions _ _ _ _ _ = _
        rw [hrest]
        cases name <;> simp [taking, gives, hlast, hmem]

end

/-! ## The whole request -/

/-- Without options that were seen before, an option has its last value, or none. -/
theorem taking_all (parts : List Part) :
    { taking parts [] {} parts with paths := pathsOf parts } = ofGiven parts := by
  have hlast (name : OptionName) :
      (if gives parts name ∧ name ∉ [] then lastValue? parts name else none) =
        lastValue? parts name := by
    by_cases hgiven : gives parts name = true
    · rw [if_pos ⟨hgiven, List.not_mem_nil⟩]
    · rw [← isSome_lastValue?, Option.not_isSome_iff_eq_none] at hgiven
      rw [hgiven, ite_self]
  have hstored : ((lastValue? parts .output).map storedUnder).getD none =
      (lastValue? parts .output).bind storedUnder := by
    cases lastValue? parts .output with
    | none => rfl
    | some text => rfl
  simp only [taking, ofGiven, hlast, hstored, Option.or_none, Bool.false_or]

/-- **The parts of a command line are a request** when files are named that are there, no help
is asked for, and the last value of every option passes its check. -/
theorem ofParts_accepted {files : Files} {parts : List Part} (hhelp : .flag .help ∉ parts)
    (hsome : pathsOf parts ≠ [])
    (hpaths : ∀ path ∈ pathsOf parts, Succeeds (checkPath files true path))
    (haccepted : ∀ name text, lastValue? parts name = some text → Accepted files text name) :
    ofParts files parts = .ok (ofGiven parts) := by
  have hnohelp : ¬ parts.contains (.flag .help) = true :=
    fun hmem => hhelp (List.contains_iff_mem.1 hmem)
  have hnonempty : ¬ (pathsOf parts).isEmpty = true :=
    fun hempty => hsome (List.isEmpty_iff.1 hempty)
  obtain ⟨⟨⟩, hchecked⟩ := succeeds_forM_iff.2 hpaths
  rw [ofParts, if_neg hnohelp, withOptions_accepted haccepted fun part hpart => hpart]
  simp only [bind, Except.bind, if_neg hnonempty, hchecked]
  exact congrArg Except.ok (taking_all parts)

end ImageImports.Command.Request
