/-!
# Words of a command line

A command line is a list of words.  A word that begins with a dash and is longer than it names
options: one by its long name behind two dashes, or several by letters behind one.  An option that
takes a value finds it in the rest of its word or in the next word.  Two dashes alone end the
options, and every other word is a path.

## Main results

* `read_paths` — words that do not begin with a dash are paths.
* `read_after_dashes` — so is every word behind two dashes.
-/

namespace ImageImports.Command

/-- The options of the command. -/
inductive OptionName where
  | library
  | search
  | libraryPattern
  | ignoreCase
  | json
  | output
  | config
  | verbose
  | help
  deriving DecidableEq, Repr

namespace OptionName

/-- Whether the option takes a value. -/
def takesValue : OptionName → Bool
  | library | search | libraryPattern | output | config => true
  | ignoreCase | json | verbose | help => false

/-- The long names. -/
def longNames : List (String × OptionName) :=
  [("--library", library), ("--search", search), ("--library-pattern", libraryPattern),
    ("--ignore-case", ignoreCase), ("--json", json), ("--output", output), ("--config", config),
    ("--verbose", verbose), ("--help", help)]

/-- The letters. -/
def letters : List (Char × OptionName) :=
  [('l', library), ('s', search), ('i', ignoreCase), ('o', output), ('c', config), ('v', verbose)]

end OptionName

/-- A part of what a command line says. -/
inductive Part where
  | flag (name : OptionName)
  | value (name : OptionName) (text : String)
  | path (text : String)
  deriving DecidableEq, Repr

/-- Why words are no command line. -/
inductive WordFault where
  | unknown (name : String)
  /-- The option takes a value, and no word is left. -/
  | missingValue (name : OptionName)
  /-- The option takes no value, and one is tied to it. -/
  | needlessValue (name : OptionName)
  deriving DecidableEq, Repr

/-- What a word says, and the option whose value is the next word. -/
abbrev WordParts := Except WordFault (List Part × Option OptionName)

/-- What the letters behind a dash say. -/
def readLetters : List Char → WordParts
  | [] => .ok ([], none)
  | c :: rest =>
    match OptionName.letters.lookup c with
    | none => .error (.unknown (String.ofList ['-', c]))
    | some name =>
      if name.takesValue then
        if rest.isEmpty then .ok ([], some name)
        else .ok ([.value name (String.ofList rest)], none)
      else (readLetters rest).map fun (parts, pending) => (.flag name :: parts, pending)

/-- What a long name with an optional value says. -/
def readLong (word : List Char) : WordParts :=
  let name := String.ofList (word.takeWhile (· ≠ '='))
  match OptionName.longNames.lookup name, word.dropWhile (· ≠ '=') with
  | none, _ => .error (.unknown name)
  | some name, [] => .ok (if name.takesValue then ([], some name) else ([.flag name], none))
  | some name, _ :: value =>
    if name.takesValue then .ok ([.value name (String.ofList value)], none)
    else .error (.needlessValue name)

/-- What a word says that is not two dashes. -/
def readWord (word : String) : WordParts :=
  match word.toList with
  | '-' :: '-' :: rest => readLong ('-' :: '-' :: rest)
  | '-' :: c :: rest => readLetters (c :: rest)
  | _ => .ok ([.path word], none)

/-- What words say behind an option that still lacks its value, or behind none. -/
def readAfter : Option OptionName → List String → Except WordFault (List Part)
  | none, [] => .ok []
  | some name, [] => .error (.missingValue name)
  | some name, value :: rest => (readAfter none rest).map (.value name value :: ·)
  | none, word :: rest =>
    if word = "--" then .ok (rest.map .path)
    else match readWord word with
      | .error fault => .error fault
      | .ok (parts, pending) => (readAfter pending rest).map (parts ++ ·)

/-- What the words of a command line say. -/
def read (words : List String) : Except WordFault (List Part) := readAfter none words

theorem read_after_dashes (words : List String) : read ("--" :: words) = .ok (words.map .path) := by
  simp [read, readAfter]

theorem readWord_path {word : String} (h : word.toList.head? ≠ some '-') :
    readWord word = .ok ([.path word], none) := by
  unfold readWord
  split <;> simp_all

theorem read_paths {words : List String} (h : ∀ w ∈ words, w.toList.head? ≠ some '-') :
    read words = .ok (words.map .path) := by
  induction words with
  | nil => rfl
  | cons w rest ih =>
    have hw := h w (by simp)
    have hne : w ≠ "--" := by
      rintro rfl
      exact hw rfl
    have hrest : readAfter none rest = .ok (rest.map .path) := ih fun v hv => h v (by simp [hv])
    simp [read, readAfter, hne, readWord_path hw, hrest, Except.map]

end ImageImports.Command
