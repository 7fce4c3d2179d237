import ImageImports.Bytes
import ImageImports.Decimal.Reading
import ImageImports.Pattern.Syntax
import ImageImports.Unicode.CharacterName
import ImageImports.Unicode.Name
import ImageImports.Unicode.Word

/-!
# Reading search patterns

A pattern text is first cut into tokens: a character, or a character behind a backslash.  Sequences
and alternations are then read by recursive descent; the fuel is twice the number of tokens, since
every step takes one and every nesting costs one.

Options are known before the first item they apply to, because options for the whole pattern may
only stand at its beginning.

## Main results

* `parse` — reads a pattern, or says why it is none.
-/

namespace ImageImports.Pattern

/-- Why a text is no pattern, or a pattern gives no answer. -/
inductive PatternFault where
  /-- It breaks the grammar. -/
  | malformed
  /-- A repetition count is too large to be stored. -/
  | countTooLarge
  /-- A repetition count has more digits than are read. -/
  | countTooLong (digits : Nat)
  /-- Classes are asked to be of ASCII and of all scripts. -/
  | conflictingClasses
  /-- The pattern was found with a group that ends before it begins. -/
  | crossedGroup
  deriving DecidableEq, Inhabited

/-- How a fault other than of the grammar is told. -/
def PatternFault.message : PatternFault → String
  | malformed => "malformed pattern"
  | countTooLarge => "the repetition number is too large"
  | countTooLong digits => Decimal.tooLongText digits
  | conflictingClasses => "ASCII and UNICODE flags are incompatible"
  | crossedGroup =>
    "The span of capturing group is wrong, please report a bug for the re module."

/-- A character of a pattern, behind a backslash or not. -/
structure Token where
  char : Char
  escaped : Bool
  deriving DecidableEq, Inhabited

/-- Cuts a pattern into tokens; a backslash at the end is an error. -/
def tokens? : List Char → Option (List Token)
  | [] => some []
  | ['\\'] => none
  | '\\' :: c :: rest => (tokens? rest).map (⟨c, true⟩ :: ·)
  | c :: rest => (tokens? rest).map (⟨c, false⟩ :: ·)

/-- What a token looks like in the pattern. -/
def Token.text (t : Token) : List Char := if t.escaped then ['\\', t.char] else [t.char]

/-- Whether a token is that character, not behind a backslash. -/
def Token.is (t : Token) (c : Char) : Bool := !t.escaped && t.char = c

/-- Options of a pattern. -/
structure Options where
  ignoreCase : Bool := false
  multiline : Bool := false
  dotAll : Bool := false
  verbose : Bool := false
  /-- Classes are of ASCII. -/
  ascii : Bool := false
  /-- Classes were asked to be of all scripts, which they are anyway. -/
  unicode : Bool := false
  /-- Repetitions are not allowed. -/
  template : Bool := false
  deriving DecidableEq, Inhabited

namespace Options

/-- How characters are compared. -/
def fold (o : Options) : Fold := if !o.ignoreCase then .exact else if o.ascii then .ascii else .unicode

/-- The options with another letter turned on. -/
def add (o : Options) : Char → Options
  | 'i' => { o with ignoreCase := true }
  | 'm' => { o with multiline := true }
  | 's' => { o with dotAll := true }
  | 'x' => { o with verbose := true }
  | 'a' => { o with ascii := true }
  | 'u' => { o with unicode := true }
  | 't' => { o with template := true }
  | _ => o

/-- The options with a letter turned off. -/
def remove (o : Options) : Char → Options
  | 'i' => { o with ignoreCase := false }
  | 'm' => { o with multiline := false }
  | 's' => { o with dotAll := false }
  | 'x' => { o with verbose := false }
  | _ => o

/-- The options inside a group that turns letters on and off: the kinds of classes replace one
another. -/
def within (o : Options) (added removed : List Char) : Options :=
  let o := if added.contains 'a' ∨ added.contains 'u' then { o with ascii := false, unicode := false }
    else o
  removed.foldl remove (added.foldl add o)

end Options

/-- What the parser knows apart from the text that is left. -/
structure Progress where
  options : Options
  /-- The number of the next group. -/
  nextGroup : Nat := 1
  names : List (String × Nat) := []
  /-- The spans of the groups that are closed. -/
  closed : List (Nat × Span) := []
  /-- The number of the next group when the outermost look behind began. -/
  lookBehind? : Option Nat := none
  /-- Groups that conditions ask about. -/
  asked : List Nat := []
  deriving Inhabited

/-- The span of a group, as far as it is known. -/
def Progress.groupSpan (s : Progress) (number : Nat) : Span := (s.closed.lookup number).getD ⟨0, 0⟩

/-- A read of part of a pattern. -/
abbrev Read (α : Type) := Except PatternFault α

/-- A fault of the grammar. -/
def malformed {α : Type} : Read α := .error .malformed

/-! ## Escapes -/

/-- Up to `n` tokens that satisfy a test, as characters. -/
def takeUpTo (n : Nat) (test : Char → Bool) (ts : List Token) : List Char × List Token :=
  match n, ts with
  | n + 1, t :: rest =>
    if !t.escaped && test t.char then
      let (cs, rest) := takeUpTo n test rest
      (t.char :: cs, rest)
    else ([], ts)
  | _, _ => ([], ts)

/-- Whether a character is a hexadecimal digit. -/
def isHexDigit (c : Char) : Bool := (Bytes.hexValue? c).isSome

/-- Whether a character is an octal digit. -/
def isOctalDigit (c : Char) : Bool := '0' ≤ c && c ≤ '7'

/-- The number that digits spell in a base. -/
def digitsIn (base : Nat) (digits : List Char) : Nat :=
  digits.foldl (fun n c => n * base + (Bytes.hexValue? c).getD 0) 0

/-- Exactly `n` hexadecimal digits as a code point. -/
def hexEscape (n : Nat) (ts : List Token) : Read (Nat × List Token) :=
  let (digits, rest) := takeUpTo n isHexDigit ts
  let code := digitsIn 16 digits
  if digits.length = n ∧ code < 0x110000 then .ok (code, rest) else malformed

/-- The text of the tokens before one that is `stop`, and the tokens behind it; there must be some. -/
def textUntil (stop : Char) (ts : List Token) : Read (String × List Token) :=
  let inside := ts.takeWhile (!·.is stop)
  match ts.drop inside.length with
  | [] => malformed
  | _ :: rest =>
    if inside.isEmpty then malformed else .ok (String.ofList (inside.flatMap Token.text), rest)

/-- The name in braces behind `\N`. -/
def namedEscape : List Token → Read (Nat × List Token)
  | t :: rest =>
    if t.is '\x7b' then do
      let (name, rest) ← textUntil '\x7d' rest
      match Unicode.characterNamed? name with
      | some code => .ok (code, rest)
      | none => malformed
    else malformed
  | [] => malformed

/-- The control characters that have a letter. -/
def controlEscapes : List (Char × Nat) :=
  [('a', 7), ('f', 12), ('n', 10), ('r', 13), ('t', 9), ('v', 11), ('\\', 92)]

/-- The class that a letter stands for. -/
def categoryEscape? (ascii : Bool) : Char → Option SetItem
  | 'd' => some (.category .digit false ascii)
  | 'D' => some (.category .digit true ascii)
  | 's' => some (.category .blank false ascii)
  | 'S' => some (.category .blank true ascii)
  | 'w' => some (.category .word false ascii)
  | 'W' => some (.category .word true ascii)
  | _ => none

/-- The escapes that name a code point and mean the same everywhere. -/
def codeEscape? (c : Char) (ts : List Token) : Option (Read (Nat × List Token)) :=
  match c with
  | 'x' => some (hexEscape 2 ts)
  | 'u' => some (hexEscape 4 ts)
  | 'U' => some (hexEscape 8 ts)
  | 'N' => some (namedEscape ts)
  | _ => none

/-- An escape inside a set. -/
def setEscape (ascii : Bool) (c : Char) (ts : List Token) : Read (SetItem × List Token) :=
  match controlEscapes.lookup c, categoryEscape? ascii c, codeEscape? c ts with
  | some code, _, _ => .ok (.literal code, ts)
  | none, some item, _ => .ok (item, ts)
  | none, none, some read => read.map fun (code, rest) => (.literal code, rest)
  | none, none, none =>
    if c = 'b' then .ok (.literal 8, ts)
    else if isOctalDigit c then
      let (more, rest) := takeUpTo 2 isOctalDigit ts
      let code := digitsIn 8 (c :: more)
      if code ≤ 255 then .ok (.literal code, rest) else malformed
    else if c.isAlphanum then malformed
    else .ok (.literal c.toNat, ts)

/-- Whether a group may be referred to: it is closed, and began before the outermost look behind. -/
def referable (s : Progress) (number : Nat) : Bool :=
  (s.closed.lookup number).isSome && s.lookBehind?.all (number < ·)

/-- A condition may ask about a group that is not closed, unless in a look behind. -/
def askable (s : Progress) (number : Nat) : Bool := s.lookBehind?.isNone || referable s number

/-- A reference by number, or a code point of three octal digits. -/
def numberEscape (s : Progress) (o : Options) (c : Char) (ts : List Token) : Read (Node × List Token) :=
  let (second, rest) := takeUpTo 1 Char.isDigit ts
  let octal? : Option (Nat × List Token) :=
    if isOctalDigit c ∧ second.all isOctalDigit ∧ !second.isEmpty then
      match takeUpTo 1 isOctalDigit rest with
      | ([], _) => none
      | (third, rest) => some (digitsIn 8 (c :: second ++ third), rest)
    else none
  match octal? with
  | some (code, rest) =>
    if code ≤ 255 then .ok (.char (.literal code false o.fold), rest) else malformed
  | none =>
    let number := digitsIn 10 (c :: second)
    if number < s.nextGroup ∧ referable s number then .ok (.backref number o.fold, rest) else malformed

/-- An escape outside sets. -/
def escape (s : Progress) (o : Options) (c : Char) (ts : List Token) : Read (Node × List Token) :=
  let literal (code : Nat) : Node := .char (.literal code false o.fold)
  match controlEscapes.lookup c, categoryEscape? o.ascii c, codeEscape? c ts with
  | some code, _, _ => .ok (literal code, ts)
  | none, some item, _ => .ok (.char (.set [item] false o.fold), ts)
  | none, none, some read => read.map fun (code, rest) => (literal code, rest)
  | none, none, none =>
    match c with
    | 'A' => .ok (.anchor .textStart, ts)
    | 'Z' => .ok (.anchor .textEnd, ts)
    | 'b' => .ok (.anchor (.boundary false o.ascii), ts)
    | 'B' => .ok (.anchor (.boundary true o.ascii), ts)
    | '0' =>
      let (more, rest) := takeUpTo 2 isOctalDigit ts
      .ok (literal (digitsIn 8 more), rest)
    | c =>
      if c.isDigit then numberEscape s o c ts
      else if c.isAlpha then malformed
      else .ok (literal c.toNat, ts)

/-! ## Sets -/

/-- One end of a range, or a whole member. -/
def setMember (ascii : Bool) (t : Token) (ts : List Token) : Read (SetItem × List Token) :=
  if t.escaped then setEscape ascii t.char ts else .ok (.literal t.char.toNat, ts)

/-- The members up to the closing bracket, which is a member where it comes first. -/
def setMembers (ascii : Bool) : Nat → List SetItem → List Token → Read (List SetItem × List Token)
  | 0, _, _ => malformed
  | _ + 1, _, [] => malformed
  | fuel + 1, found, t :: rest =>
    if t.is ']' ∧ !found.isEmpty then .ok (found.reverse, rest)
    else do
      let (first, rest) ← setMember ascii t rest
      match rest with
      | dash :: rest' =>
        if dash.is '-' then
          match rest' with
          | [] => malformed
          | t :: rest =>
            if t.is ']' then .ok ((.literal 45 :: first :: found).reverse, rest)
            else
              let (last, rest) ← setMember ascii t rest
              match first, last with
              | .literal low, .literal high =>
                if high < low then malformed
                else setMembers ascii fuel (.range low high :: found) rest
              | _, _ => malformed
        else setMembers ascii fuel (first :: found) (dash :: rest')
      | [] => malformed

/-- The test of a set: one that names a single character is that character. -/
def setTest (items : List SetItem) (negated : Bool) (fold : Fold) : CharTest :=
  match items.eraseDups with
  | [.literal code] => .literal code negated fold
  | items => .set items negated fold

/-- A set behind its opening bracket. -/
def readSet (o : Options) (ts : List Token) : Read (Node × List Token) := do
  let negated := ts.head?.any (·.is '^')
  let ts := if negated then ts.tail else ts
  let (items, rest) ← setMembers o.ascii (ts.length + 1) [] ts
  .ok (.char (setTest items negated o.fold), rest)

/-! ## Repetitions -/

/-- The count that digits spell, nothing when there are none. -/
def count (digits : List Char) : Read Nat :=
  if Decimal.maxDigits < digits.length then .error (.countTooLong digits.length)
  else
    let n := digitsIn 10 digits
    if Span.maxRepeat ≤ n then .error .countTooLarge else .ok n

/-- The bounds in braces, none when the brace is an ordinary character. -/
def braceBounds? (ts : List Token) : Option (Read (Nat × Option Nat) × List Token) :=
  let (low, rest) := takeUpTo ts.length Char.isDigit ts
  let (high, rest, ranged) : List Char × List Token × Bool := match rest with
    | t :: rest' =>
      if t.is ',' then
        let (high, rest) := takeUpTo rest'.length Char.isDigit rest'
        (high, rest, true)
      else (low, rest, false)
    | [] => (low, rest, false)
  match rest with
  | t :: rest =>
    if t.is '\x7d' ∧ (ranged ∨ !low.isEmpty) then
      let bounds : Read (Nat × Option Nat) := do
        let least ← count low
        if high.isEmpty then return (least, none)
        let most ← count high
        if most < least then malformed else return (least, some most)
      some (bounds, rest)
    else none
  | [] => none

/-- The bounds of a repetition sign, with what is left. -/
def bounds? (sign : Char) (ts : List Token) : Option (Read (Nat × Option Nat) × List Token) :=
  match sign with
  | '?' => some (.ok (0, some 1), ts)
  | '*' => some (.ok (0, none), ts)
  | '+' => some (.ok (1, none), ts)
  | '\x7b' => braceBounds? ts
  | _ => none

/-- Whether the next token is that character; if so it is taken. -/
def accept (c : Char) : List Token → Bool × List Token
  | t :: rest => if t.is c then (true, rest) else (false, t :: rest)
  | [] => (false, [])

/-- The greed that a sign behind a repetition asks for. -/
def greedOf (ts : List Token) : Greed × List Token :=
  match accept '?' ts with
  | (true, rest) => (.lazy, rest)
  | (false, ts) =>
    match accept '+' ts with
    | (true, rest) => (.possessive, rest)
    | (false, ts) => (.greedy, ts)

/-- Puts a repetition around the last item. -/
def repeatLast (o : Options) (items : List Node) (least : Nat) (most? : Option Nat) (greed : Greed) :
    Read (List Node) :=
  match items with
  | [] | .anchor _ :: _ | .rep .. :: _ => malformed
  | last :: before => if o.template then malformed else .ok (.rep greed least most? last :: before)

/-! ## Alternations -/

/-- Whether two items are the same test on the text; groups never are. -/
def sameItem : Node → Node → Bool
  | .char s, .char t => s == t
  | .anchor a, .anchor b => a == b
  | .backref m _, .backref n _ => m == n
  | _, _ => false

/-- The items that all alternatives begin with, and what is left of each; `fuel` bounds their
number. -/
def commonItems : Nat → List (List Node) → List Node × List (List Node)
  | 0, alternatives => ([], alternatives)
  | fuel + 1, alternatives =>
    match alternatives.head?.bind List.head? with
    | none => ([], alternatives)
    | some item =>
      if alternatives.all fun a => a.head?.any (sameItem item) then
        let (items, left) := commonItems fuel (alternatives.map List.tail)
        (item :: items, left)
      else ([], alternatives)

/-- The members of the set that a one-item alternative amounts to. -/
def asMembers? : List Node → Option (List SetItem)
  | [.char (.literal code false _)] => some [.literal code]
  | [.char (.set items false _)] => some items
  | _ => none

/-- An alternative, kept apart when it is an alternation itself. -/
def alternative (items : List Node) : Node :=
  match Node.ofList items with
  | node@(.alt ..) => .group none node
  | node => node

/-- An alternation: what the alternatives share comes first, and single characters become a set. -/
def alternation (o : Options) (alternatives : List (List Node)) : List Node :=
  match alternatives with
  | [only] => only
  | _ =>
    let longest := (alternatives.map List.length).foldl max 0
    let (shared, left) := commonItems longest alternatives
    match left.mapM asMembers? with
    | some members => shared ++ [.char (.set members.flatten false o.fold)]
    | none => shared ++ [.alternatives (left.map alternative)]

/-! ## Groups -/

/-- The letters that options have. -/
def optionLetters : List Char := ['i', 'L', 'm', 's', 'x', 'a', 't', 'u']

/-- What the option letters behind `(?` turn out to be. -/
inductive OptionGroup where
  /-- Options for the whole pattern. -/
  | everywhere (added : List Char)
  /-- Options for a group whose body follows. -/
  | inside (added removed : List Char)

/-- Option letters up to one of `stops`, and which it was. -/
def lettersUntil (stops : List Char) : List Token → Read (List Char × Char × List Token)
  | [] => malformed
  | t :: rest =>
    if t.escaped then malformed
    else if stops.contains t.char then .ok ([], t.char, rest)
    else if optionLetters.contains t.char then do
      let (letters, stop, rest) ← lettersUntil stops rest
      .ok (t.char :: letters, stop, rest)
    else malformed

/-- Whether letters ask for the classes of a locale, or for those of ASCII and of all scripts. -/
def badClasses (letters : List Char) : Bool :=
  letters.contains 'L' || (letters.contains 'a' && letters.contains 'u')

/-- Options behind `(?`. -/
def readOptions (ts : List Token) : Read (OptionGroup × List Token) := do
  let (added, stop, rest) ← lettersUntil [')', '-', ':'] ts
  if badClasses added then malformed
  else if stop = ')' then .ok (.everywhere added, rest)
  else if added.contains 't' then malformed
  else if stop = ':' then .ok (.inside added [], rest)
  else
    let (removed, _, rest) ← lettersUntil [':'] rest
    if removed.isEmpty ∨ removed.any (['a', 'u', 'L', 't'].contains ·)
        ∨ removed.any (added.contains ·) then malformed
    else .ok (.inside added removed, rest)

/-- What stands between `(` and the body of a group. -/
inductive Opening where
  | capture (name? : Option String)
  | plain
  | atomic
  | options (added removed : List Char)
  | look (behind negated : Bool)
  | condition (number : Nat)
  /-- A whole item, with nothing more to read. -/
  | item (node : Node)
  /-- A comment, or options for the whole pattern. -/
  | nothing (added : List Char)

/-- The name of a group, between angle brackets. -/
def groupName (stop : Char) (ts : List Token) : Read (String × List Token) := do
  let (name, rest) ← textUntil stop ts
  if Unicode.isName name then .ok (name, rest) else malformed

/-- The number that decimal digits of any script spell, with single underscores between them;
`found` is what those before amount to, and `afterDigit` whether the last character was one. -/
def digitRun? : Nat → Bool → List Char → Option Nat
  | found, afterDigit, [] => if afterDigit then some found else none
  | found, afterDigit, c :: rest =>
    match Unicode.digitValue? c.toNat with
    | some d => digitRun? (found * 10 + d) true rest
    | none => if c = '_' ∧ afterDigit then digitRun? found false rest else none

/-- Whether a character is a blank around the number of a group.  Where the whole text is of ASCII
the four separators are no blanks. -/
def isPadding (ascii : Bool) (c : Char) : Bool :=
  Unicode.isBlank c.toNat && !(ascii && 0x1C ≤ c.toNat && c.toNat ≤ 0x1F)

/-- A number between blanks, with a plus sign or without. -/
def paddedNumber? (s : String) : Option Nat :=
  let cs := s.toList
  let pad := isPadding (cs.all (·.toNat < 128))
  let cs := ((cs.dropWhile pad).reverse.dropWhile pad).reverse
  let cs := match cs with
    | '+' :: rest => rest
    | cs => cs
  if Decimal.maxDigits < (cs.filter (· ≠ '_')).length then none else digitRun? 0 false cs

/-- The group that a condition asks about. -/
def conditionGroup (s : Progress) (ts : List Token) : Read (Nat × List Token) := do
  let (name, rest) ← textUntil ')' ts
  if Unicode.isName name then
    match s.names.lookup name with
    | some number => .ok (number, rest)
    | none => malformed
  else match paddedNumber? name with
    | some number => if number = 0 then malformed else .ok (number, rest)
    | none => malformed

/-- A group that begins with `(?P`. -/
def namedGroup (s : Progress) (o : Options) : List Token → Read (Opening × List Token)
  | t :: rest =>
    if t.is '<' then do
      let (name, rest) ← groupName '>' rest
      .ok (.capture (some name), rest)
    else if t.is '=' then do
      let (name, rest) ← groupName ')' rest
      match s.names.lookup name with
      | some number =>
        if referable s number then .ok (.item (.backref number o.fold), rest) else malformed
      | none => malformed
    else malformed
  | [] => malformed

/-- What stands between `(` and the body of a group; `atStart` when nothing stands before it. -/
def readOpening (s : Progress) (o : Options) (atStart : Bool) (ts : List Token) :
    Read (Opening × List Token) :=
  match accept '?' ts with
  | (false, ts) => .ok (.capture none, ts)
  | (true, []) => malformed
  | (true, t :: rest) =>
    if t.escaped then malformed
    else match t.char with
      | 'P' => namedGroup s o rest
      | ':' => .ok (.plain, rest)
      | '>' => .ok (.atomic, rest)
      | '#' =>
        match rest.dropWhile (!·.is ')') with
        | [] => malformed
        | _ :: rest => .ok (.nothing [], rest)
      | '=' => .ok (.look false false, rest)
      | '!' => .ok (.look false true, rest)
      | '<' =>
        match rest with
        | t :: rest =>
          if t.is '=' then .ok (.look true false, rest)
          else if t.is '!' then .ok (.look true true, rest)
          else malformed
        | [] => malformed
      | '(' => do
        let (number, rest) ← conditionGroup s rest
        if askable s number then .ok (.condition number, rest) else malformed
      | c =>
        if c = '-' ∨ optionLetters.contains c then do
          match ← readOptions (t :: rest) with
          | (.everywhere added, rest) =>
            if atStart then .ok (.nothing added, rest) else malformed
          | (.inside added removed, rest) => .ok (.options added removed, rest)
        else malformed

/-! ## Sequences -/

/-- Opens a capturing group. -/
def Progress.openGroup (s : Progress) (name? : Option String) : Read (Nat × Progress) :=
  let number := s.nextGroup
  match name? with
  | none => .ok (number, { s with nextGroup := number + 1 })
  | some name =>
    if (s.names.lookup name).isSome then malformed
    else .ok (number, { s with nextGroup := number + 1, names := (name, number) :: s.names })

/-- Closes a capturing group. -/
def Progress.closeGroup (s : Progress) (number : Nat) (body : Node) : Progress :=
  { s with closed := (number, body.span s.groupSpan) :: s.closed }

/-- The closing parenthesis of a group. -/
def expectClose (ts : List Token) : Read (List Token) :=
  match accept ')' ts with
  | (true, rest) => .ok rest
  | (false, _) => malformed

/-- The items that an item of a sequence stands for: a plain group stands for those in it. -/
def spliced : Node → List Node
  | .group none body => body.items
  | node => [node]

/-- Skips a comment of the verbose layout. -/
def skipLine (ts : List Token) : List Token := (ts.dropWhile (!·.is '\n')).tail

/-- The blanks that the verbose layout ignores. -/
def isLayoutBlank (t : Token) : Bool :=
  !t.escaped && [' ', '\t', '\n', '\r', '\x0b', '\x0c'].contains t.char

mutual

/-- Alternatives up to a closing parenthesis or the end.  `outermost` when options for the whole
pattern may stand at the beginning. -/
def readAlternatives : Nat → Bool → Progress → Options → List Token →
    Read (List (List Node) × Progress × Options × List Token)
  | 0, _, _, _, _ => malformed
  | fuel + 1, outermost, s, o, ts => do
    let (items, s, o, ts) ← readItems fuel outermost s o [] ts
    match accept '|' ts with
    | (false, ts) => .ok ([items], s, o, ts)
    | (true, ts) =>
      let (others, s, o, ts) ← readRest fuel s o ts
      .ok (items :: others, s, o, ts)

/-- The alternatives behind a bar. -/
def readRest : Nat → Progress → Options → List Token →
    Read (List (List Node) × Progress × Options × List Token)
  | 0, _, _, _ => malformed
  | fuel + 1, s, o, ts => readAlternatives fuel false s o ts

/-- Items up to a bar, a closing parenthesis or the end; `found` are those read, last one first. -/
def readItems : Nat → Bool → Progress → Options → List Node → List Token →
    Read (List Node × Progress × Options × List Token)
  | 0, _, _, _, _, _ => malformed
  | _ + 1, _, s, o, found, [] => .ok (found.reverse.flatMap spliced, s, o, [])
  | fuel + 1, first, s, o, found, t :: rest =>
    if t.is '|' ∨ t.is ')' then .ok (found.reverse.flatMap spliced, s, o, t :: rest)
    else if o.verbose ∧ isLayoutBlank t then readItems fuel first s o found rest
    else if o.verbose ∧ t.is '#' then readItems fuel first s o found (skipLine rest)
    else if t.escaped then do
      let (node, rest) ← escape s o t.char rest
      readItems fuel first s o (node :: found) rest
    else match t.char with
      | '[' => do
        let (node, rest) ← readSet o rest
        readItems fuel first s o (node :: found) rest
      | '.' => readItems fuel first s o (.char (.any o.dotAll) :: found) rest
      | '^' =>
        let a : Anchor := if o.multiline then .lineStart else .textStart
        readItems fuel first s o (.anchor a :: found) rest
      | '$' =>
        let a : Anchor := if o.multiline then .lineEnd else .lastLineEnd
        readItems fuel first s o (.anchor a :: found) rest
      | '(' => do
        match ← readOpening s o (first && found.isEmpty) rest with
        | (.nothing added, rest) =>
          let o := added.foldl .add o
          readItems fuel first { s with options := added.foldl .add s.options } o found rest
        | (opening, rest) =>
          let (node, s, rest) ← readGroup fuel s o opening rest
          readItems fuel first s o (node :: found) rest
      | c =>
        match bounds? c rest with
        | some (bounds, rest) => do
          let (least, most?) ← bounds
          let (greed, rest) := greedOf rest
          let found ← repeatLast o found least most? greed
          readItems fuel first s o found rest
        | none => readItems fuel first s o (.char (.literal c.toNat false o.fold) :: found) rest

/-- The body of a group, with its closing parenthesis. -/
def readGroup : Nat → Progress → Options → Opening → List Token → Read (Node × Progress × List Token)
  | 0, _, _, _, _ => malformed
  | fuel + 1, s, o, opening, ts =>
    match opening with
    | .item node => .ok (node, s, ts)
    | .nothing _ => malformed
    | .capture name? => do
      let (number, s) ← s.openGroup name?
      let (body, s, ts) ← readBody fuel s o ts
      .ok (.group (some number) body, s.closeGroup number body, ts)
    | .plain => do
      let (body, s, ts) ← readBody fuel s o ts
      .ok (.group none body, s, ts)
    | .options added removed => do
      -- Wrapped twice, so that it stays an item of its own where plain groups are spliced.
      let (body, s, ts) ← readBody fuel s (o.within added removed) ts
      .ok (.group none (.group none body), s, ts)
    | .atomic => do
      let (body, s, ts) ← readBody fuel s o ts
      .ok (.atomic body, s, ts)
    | .look behind negated => do
      let outer := s.lookBehind?
      let s := if behind ∧ outer.isNone then { s with lookBehind? := some s.nextGroup } else s
      let (body, s, ts) ← readBody fuel s o ts
      .ok (.look behind negated body, { s with lookBehind? := outer }, ts)
    | .condition number => do
      let s := { s with asked := number :: s.asked }
      let (yes, s, _, ts) ← readItems fuel false s o [] ts
      match accept '|' ts with
      | (false, ts) =>
        let ts ← expectClose ts
        .ok (.conditional number (.ofList yes) .empty, s, ts)
      | (true, ts) =>
        let (no, s, _, ts) ← readItems fuel false s o [] ts
        let ts ← expectClose ts
        .ok (.conditional number (.ofList yes) (.ofList no), s, ts)

/-- Alternatives and a closing parenthesis. -/
def readBody : Nat → Progress → Options → List Token → Read (Node × Progress × List Token)
  | 0, _, _, _ => malformed
  | fuel + 1, s, o, ts => do
    let (alternatives, s, _, ts) ← readAlternatives fuel false s o ts
    let ts ← expectClose ts
    .ok (.ofList (alternation o alternatives), s, ts)

end

/-! ## Whole patterns -/

/-- A pattern that was read: its tree, and the spans of its groups. -/
structure Parsed where
  node : Node
  groupSpan : Nat → Span

/-- Reads a pattern. -/
def parse (text : String) (ignoreCase : Bool) : Read Parsed := do
  let some ts := tokens? text.toList | malformed
  let o : Options := { ignoreCase }
  let (alternatives, s, o, rest) ← readAlternatives (4 * ts.length + 4) true { options := o } o ts
  if s.options.ascii ∧ s.options.unicode then .error .conflictingClasses
  else if !rest.isEmpty ∨ s.asked.any (s.nextGroup ≤ ·) then malformed
  else
    let node := Node.ofList (alternation o alternatives)
    if node.looksFixed s.groupSpan then .ok ⟨node, s.groupSpan⟩ else malformed

end ImageImports.Pattern
