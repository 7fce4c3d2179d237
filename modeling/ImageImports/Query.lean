import ImageImports.Import.Table
import ImageImports.Pattern

/-!
# Questions to an import table

Names in file order, the symbols of one library, and search.  Search is written over two tests, one
of library names and one of symbol names.  A test can fail to give an answer for a name; the first
name without an answer ends the search.  The functions at the end pair it with patterns that must
match a whole name, and say which pattern is at fault when one cannot be read.
-/

namespace ImageImports.Import

/-! ## Search by tests -/

/-- A test of names that can fail to give an answer. -/
abbrev NameTest := String → Except Pattern.PatternFault Bool

/-- The members of a list whose name passes a test. -/
def select {α : Type} (name : α → String) (test : NameTest) :
    List α → Except Pattern.PatternFault (List α)
  | [] => .ok []
  | a :: rest => do
    let passes ← test (name a)
    let others ← select name test rest
    return if passes then a :: others else others

/-- The names of a library that can be searched for; ordinals and empty names cannot. -/
def Library.searchable (l : Library) : List String :=
  (l.entries.filter fun e => !e.isOrdinal && !e.name.isEmpty).map (·.name)

/-- The symbols of a library that pass a test. -/
def Library.symbolsWhere (test : NameTest) (l : Library) :
    Except Pattern.PatternFault (List String) :=
  select id test l.searchable

namespace Table

/-- The names of all libraries in file order, repetitions kept. -/
def libraryNames (t : Table) : List String := t.libraries.map Library.name

/-- What the first library of that name lists, nothing when there is none.  There is no answer when
one of its symbols cannot be listed. -/
def functionsOf? (t : Table) (name : String) : Option (List String) :=
  match t.libraries.find? (·.name = name) with
  | some library => library.labels?
  | none => some []

/-- The libraries whose name passes a test. -/
def librariesWhere (t : Table) (test : NameTest) : Except Pattern.PatternFault (List Library) :=
  select Library.name test t.libraries

/-- The symbols that pass a test, by library, libraries without any left out. -/
def symbolsByLibrary (t : Table) (symbols libraries : NameTest) :
    Except Pattern.PatternFault (List (String × List String)) := do
  let chosen ← t.librariesWhere libraries
  let found ← chosen.mapM fun l => (l.symbolsWhere symbols).map (l.name, ·)
  return found.filter fun (_, names) => !names.isEmpty

end Table

/-! ## Search by patterns -/

/-- A test of whole names by a pattern. -/
def nameTest (pattern : String) (caseSensitive : Bool) : Except Pattern.PatternFault NameTest :=
  (Pattern.parse pattern !caseSensitive).map Pattern.Parsed.matchesAll

/-- The pattern that libraries are searched by unless asked otherwise: any run of characters on one
line. -/
def anyLibrary : String := ".*"

namespace Table

/-- The libraries whose whole name matches a pattern. -/
def findLibraries (t : Table) (pattern : String) (caseSensitive : Bool) :
    Except Pattern.PatternFault (List Library) :=
  nameTest pattern caseSensitive >>= t.librariesWhere

/-- The symbols whose whole name matches a pattern, by library. -/
def searchByLibrary (t : Table) (symbols libraries : String) (caseSensitive : Bool) :
    Except Pattern.PatternFault (List (String × List String)) := do
  let symbolTest ← nameTest symbols caseSensitive
  let libraryTest ← nameTest libraries caseSensitive
  t.symbolsByLibrary symbolTest libraryTest

/-- The symbols whose whole name matches a pattern, in file order. -/
def search (t : Table) (symbols libraries : String) (caseSensitive : Bool) :
    Except Pattern.PatternFault (List String) :=
  (t.searchByLibrary symbols libraries caseSensitive).map fun found => found.flatMap (·.2)

end Table

end ImageImports.Import
