import ImageImports.Console.Literal
import ImageImports.Console.Picture
import ImageImports.Console.Style

/-!
# Markup

A text for the screen may hold tags in square brackets: `[bold]` opens a style, `[/bold]` closes it
and `[/]` closes the one opened last.  A bracket whose first character is no lower-case letter, `#`,
`/` or `@` is text, and a backslash before a tag makes it text.  Closing what is not open is a
fault, and so is closing a tag that hands a handler what is no value.  Styles show no trace on a
plain screen, so laying out a text drops its tags.  A name between colons shows as its picture.

## Main results

* `ofTag?_length` — reading a tag leaves less to read.
-/

namespace ImageImports.Console

/-- Why something cannot be laid out. -/
inductive Fault where
  /-- A tag closes a style that is not open. -/
  | notOpen (style : String)
  /-- A tag closes the last style while none is open. -/
  | nothingOpen
  /-- What asks for a style does not name one. -/
  | noStyle (name : String) (cause : Style.StyleFault)
  /-- A colour has numbers that cannot be read. -/
  | noNumber (message : String)
  /-- A handler cannot take what a tag hands it. -/
  | noHandling
  /-- A size is too large for a number with a fraction. -/
  | sizeTooLarge
  deriving DecidableEq, Repr

namespace Markup

/-- Whether a character behind an opening bracket begins a tag. -/
def startsTag (c : Char) : Bool := ('a' ≤ c && c ≤ 'z') || c = '#' || c = '/' || c = '@'

/-- The inside of a tag and what follows it, for a text behind an opening bracket. -/
def ofTag? : List Char → Option (List Char × List Char)
  | [] => none
  | c :: rest =>
    if startsTag c then
      match rest.dropWhile (fun x => x ≠ '[' ∧ x ≠ ']') with
      | ']' :: after => some (c :: rest.takeWhile (fun x => x ≠ '[' ∧ x ≠ ']'), after)
      | _ => none
    else none

theorem ofTag?_length {cs inner after : List Char} (h : ofTag? cs = some (inner, after)) :
    after.length < cs.length := by
  cases cs with
  | nil => simp [ofTag?] at h
  | cons c rest =>
    simp only [ofTag?] at h
    split at h
    · split at h
      · next after' heq =>
        simp only [Option.some.injEq, Prod.mk.injEq] at h
        have := (List.dropWhile_sublist (l := rest) (fun x => decide (x ≠ '[' ∧ x ≠ ']'))).length_le
        rw [heq, h.2] at this
        simp only [List.length_cons] at this ⊢
        omega
      · simp at h
    · simp at h

/-- A part of a text: characters that stand for themselves, or a tag with the number of backslashes
before it. -/
inductive Piece where
  | text (cs : List Char)
  | tag (slashes : Nat) (inner : List Char)

/-- The pieces of a text in front of which `slashes` backslashes stand. -/
def pieces (slashes : Nat) : List Char → List Piece
  | [] => if slashes = 0 then [] else [.text (List.replicate slashes '\\')]
  | c :: rest =>
    if c = '\\' then pieces (slashes + 1) rest
    else if c = '[' then
      match h : ofTag? rest with
      | some (inner, after) =>
        have := ofTag?_length h
        .tag slashes inner :: pieces 0 after
      | none => .text (List.replicate slashes '\\' ++ [c]) :: pieces 0 rest
    else .text (List.replicate slashes '\\' ++ [c]) :: pieces 0 rest
termination_by cs => cs.length

/-- The pieces with neighbouring texts made one. -/
def merged : List Piece → List Piece
  | [] => []
  | .tag slashes inner :: rest => .tag slashes inner :: merged rest
  | .text cs :: rest =>
    match merged rest with
    | .text more :: rest => .text (cs ++ more) :: rest
    | rest => .text cs :: rest

/-- A piece written so that it is text: a tag has its backslashes doubled and one more put before
it. -/
def Piece.escaped : Piece → List Char
  | .text cs => cs
  | .tag slashes inner => List.replicate (2 * slashes + 1) '\\' ++ '[' :: inner ++ [']']

/-- The text as markup that shows it.  A single backslash at the end is doubled, so that it cannot
guard a tag written behind it. -/
def escape (s : String) : String :=
  let out := (pieces 0 s.toList).flatMap Piece.escaped
  String.ofList <| match out.reverse with
    | ['\\'] => out ++ ['\\']
    | '\\' :: c :: _ => if c = '\\' then out else out ++ ['\\']
    | _ => out

/-- Whether a character moves the cursor or rings instead of showing. -/
def isDropped (c : Char) : Bool := [7, 8, 11, 12, 13].contains c.toNat

/-- Characters of a text, where the backslash before a bracket does not show. -/
def unguarded : List Char → List Char
  | '\\' :: '[' :: rest => '[' :: unguarded rest
  | c :: rest => c :: unguarded rest
  | [] => []

/-- The name of a tag's style: what stands before an equals sign. -/
def tagName (inner : List Char) : List Char := inner.takeWhile (· ≠ '=')

/-- A tag that opens a style. -/
structure Opening where
  /-- The canonical name of the style. -/
  name : String
  /-- What stands behind the equals sign. -/
  parameters : List Char

/-- Closes a style: a handler has to take what its tag hands it. -/
def Opening.close (o : Opening) : Except Fault Unit :=
  if o.name.front = '@' && !o.parameters.isEmpty && !Literal.isHandled o.parameters then
    .error .noHandling
  else .ok ()

/-- The open styles, the last one first, after a tag. -/
def turn (opened : List Opening) (inner : List Char) : Except Fault (List Opening) :=
  match tagName inner with
  | '/' :: name =>
    let name := String.ofList (Text.trimList (fun c => Unicode.isBlank c.toNat) name)
    if name.isEmpty then
      match opened with
      | o :: rest => o.close.map fun _ => rest
      | [] => .error .nothingOpen
    else do
      let name ← (Style.canonical name).mapError .noNumber
      match opened.find? (·.name = name) with
      | some o => o.close.map fun _ => opened.eraseP (·.name = name)
      | none => .error (.notOpen name)
  | name => do
    let canonical ← (Style.canonical (String.ofList name)).mapError .noNumber
    return ⟨canonical, inner.drop (name.length + 1)⟩ :: opened

/-- What shows of some pieces while the given styles are open. -/
def shown (opened : List Opening) : List Piece → Except Fault (List Char)
  | [] => .ok []
  | .text cs :: rest => (Picture.pictured (unguarded cs) ++ ·) <$> shown opened rest
  | .tag slashes inner :: rest =>
    let before := List.replicate (slashes / 2) '\\'
    if slashes % 2 = 1 then
      (before ++ Picture.pictured ('[' :: inner ++ [']']) ++ ·) <$> shown opened rest
    else do
      let opened ← turn opened inner
      (before ++ ·) <$> shown opened rest

/-- What shows of a text as it stands. -/
def verbatim (s : String) : List Char := s.toList.filter (!isDropped ·)

/-- What shows of a text with markup. -/
def plain (s : String) : Except Fault (List Char) :=
  (·.filter (!isDropped ·)) <$> shown [] (merged (pieces 0 s.toList))

end Markup

end ImageImports.Console
