import ImageImports.Bytes
import ImageImports.Text
import ImageImports.Unicode.CharacterName.Ancient
import ImageImports.Unicode.CharacterName.Eastern
import ImageImports.Unicode.CharacterName.Forms
import ImageImports.Unicode.CharacterName.Marks
import ImageImports.Unicode.CharacterName.Notation
import ImageImports.Unicode.CharacterName.Pictures
import ImageImports.Unicode.CharacterName.Shapes
import ImageImports.Unicode.CharacterName.Southern
import ImageImports.Unicode.CharacterName.Western
import ImageImports.Unicode.Ranges

/-!
# Characters by name

Every character has at most one proper name, and some have further ones.  Names are looked up
without regard to case.  Syllables of Hangul and unified ideographs are named by a rule, and only in
capital letters; the other names stand in tables of runs of consecutive characters.

In a run a small letter stands before each name and says how many words the name shares with the
name before it, `a` for none; the shared words are left out.
-/

namespace ImageImports.Unicode

/-! ## Names in tables -/

/-- The words of a text between single blanks or line ends. -/
def nameWords (cs : List Char) : List (List Char) :=
  Text.splitList (fun c => c = ' ' || c = '\n') cs

/-- The entries of a run: how many words are shared, and what follows them. -/
def runEntries (run : String) : List (Nat × List (List Char)) :=
  (run.toList.foldr (fun c (rest, entries) =>
    if c.isLower then
      ([], (c.toNat - 'a'.toNat, (nameWords rest).filter (!·.isEmpty)) :: entries)
    else (c :: rest, entries)) ([], [])).2

/-- How many words two names share at their beginning. -/
def sharedWords : List (List Char) → List (List Char) → Nat
  | v :: vs, w :: ws => if v = w then sharedWords vs ws + 1 else 0
  | _, _ => 0

/-- The index of a name among the entries of a run; the name before the first entry shares `shared`
words with it. -/
def indexIn? (name : List (List Char)) (shared : Nat) :
    List (Nat × List (List Char)) → Option Nat
  | [] => none
  | (kept, words) :: rest =>
    if shared < kept then (indexIn? name shared rest).map (· + 1)
    else if name.drop kept = words then some 0
    else (indexIn? name (kept + sharedWords (name.drop kept) words) rest).map (· + 1)

/-- All runs. -/
def nameRuns : List (Nat × String) :=
  westernNames ++ southernNames ++ marksNames ++ shapesNames ++ easternNames ++ formsNames
    ++ ancientNames ++ notationNames ++ picturesNames

/-- The names that characters have besides their proper ones. -/
def otherNames : List (Nat × String) :=
  [
    (0x0, "NUL;NULL"), (0x1, "START OF HEADING;SOH"), (0x2, "START OF TEXT;STX"),
    (0x3, "END OF TEXT;ETX"), (0x4, "END OF TRANSMISSION;EOT"), (0x5, "ENQUIRY;ENQ"),
    (0x6, "ACKNOWLEDGE;ACK"), (0x7, "ALERT;BEL"), (0x8, "BACKSPACE;BS"),
    (0x9, "CHARACTER TABULATION;HORIZONTAL TABULATION;HT;TAB"),
    (0xa, "LINE FEED;NEW LINE;END OF LINE;EOL;LF;NL"),
    (0xb, "LINE TABULATION;VERTICAL TABULATION;VT"), (0xc, "FORM FEED;FF"),
    (0xd, "CARRIAGE RETURN;CR"), (0xe, "SHIFT OUT;LOCKING-SHIFT ONE;SO"),
    (0xf, "SHIFT IN;LOCKING-SHIFT ZERO;SI"), (0x10, "DATA LINK ESCAPE;DLE"),
    (0x11, "DEVICE CONTROL ONE;DC1"), (0x12, "DEVICE CONTROL TWO;DC2"),
    (0x13, "DEVICE CONTROL THREE;DC3"), (0x14, "DEVICE CONTROL FOUR;DC4"),
    (0x15, "NEGATIVE ACKNOWLEDGE;NAK"), (0x16, "SYNCHRONOUS IDLE;SYN"),
    (0x17, "END OF TRANSMISSION BLOCK;ETB"), (0x18, "CANCEL;CAN"), (0x19, "END OF MEDIUM;EOM"),
    (0x1a, "SUBSTITUTE;SUB"), (0x1b, "ESCAPE;ESC"),
    (0x1c, "INFORMATION SEPARATOR FOUR;FILE SEPARATOR;FS"),
    (0x1d, "INFORMATION SEPARATOR THREE;GROUP SEPARATOR;GS"),
    (0x1e, "INFORMATION SEPARATOR TWO;RECORD SEPARATOR;RS"),
    (0x1f, "INFORMATION SEPARATOR ONE;UNIT SEPARATOR;US"), (0x20, "SP"), (0x7f, "DELETE;DEL"),
    (0x80, "PADDING CHARACTER;PAD"), (0x81, "HIGH OCTET PRESET;HOP"),
    (0x82, "BREAK PERMITTED HERE;BPH"), (0x83, "NO BREAK HERE;NBH"), (0x84, "INDEX;IND"),
    (0x85, "NEXT LINE;NEL"), (0x86, "START OF SELECTED AREA;SSA"),
    (0x87, "END OF SELECTED AREA;ESA"),
    (0x88, "CHARACTER TABULATION SET;HORIZONTAL TABULATION SET;HTS"),
    (0x89, "CHARACTER TABULATION WITH JUSTIFICATION;HORIZONTAL TABULATION WITH JUSTIFICATION;HTJ"),
    (0x8a, "LINE TABULATION SET;VERTICAL TABULATION SET;VTS"),
    (0x8b, "PARTIAL LINE FORWARD;PARTIAL LINE DOWN;PLD"),
    (0x8c, "PARTIAL LINE BACKWARD;PARTIAL LINE UP;PLU"),
    (0x8d, "REVERSE LINE FEED;REVERSE INDEX;RI"), (0x8e, "SINGLE SHIFT TWO;SINGLE-SHIFT-2;SS2"),
    (0x8f, "SINGLE SHIFT THREE;SINGLE-SHIFT-3;SS3"), (0x90, "DEVICE CONTROL STRING;DCS"),
    (0x91, "PRIVATE USE ONE;PRIVATE USE-1;PU1"), (0x92, "PRIVATE USE TWO;PRIVATE USE-2;PU2"),
    (0x93, "SET TRANSMIT STATE;STS"), (0x94, "CANCEL CHARACTER;CCH"),
    (0x95, "MESSAGE WAITING;MW"), (0x96, "START OF GUARDED AREA;START OF PROTECTED AREA;SPA"),
    (0x97, "END OF GUARDED AREA;END OF PROTECTED AREA;EPA"), (0x98, "START OF STRING;SOS"),
    (0x99, "SINGLE GRAPHIC CHARACTER INTRODUCER;SGC"), (0x9a, "SINGLE CHARACTER INTRODUCER;SCI"),
    (0x9b, "CONTROL SEQUENCE INTRODUCER;CSI"), (0x9c, "STRING TERMINATOR;ST"),
    (0x9d, "OPERATING SYSTEM COMMAND;OSC"), (0x9e, "PRIVACY MESSAGE;PM"),
    (0x9f, "APPLICATION PROGRAM COMMAND;APC"), (0xa0, "NBSP"), (0xad, "SHY"),
    (0x1a2, "LATIN CAPITAL LETTER GHA"), (0x1a3, "LATIN SMALL LETTER GHA"), (0x34f, "CGJ"),
    (0x61c, "ALM"), (0x709, "SYRIAC SUBLINEAR COLON SKEWED LEFT"),
    (0xcde, "KANNADA LETTER LLLA"), (0xe9d, "LAO LETTER FO FON"), (0xe9f, "LAO LETTER FO FAY"),
    (0xea3, "LAO LETTER RO"), (0xea5, "LAO LETTER LO"),
    (0xfd0, "TIBETAN MARK BKA- SHOG GI MGO RGYAN"), (0x11ec, "HANGUL JONGSEONG YESIEUNG-KIYEOK"),
    (0x11ed, "HANGUL JONGSEONG YESIEUNG-SSANGKIYEOK"),
    (0x11ee, "HANGUL JONGSEONG SSANGYESIEUNG"), (0x11ef, "HANGUL JONGSEONG YESIEUNG-KHIEUKH"),
    (0x180b, "FVS1"), (0x180c, "FVS2"), (0x180d, "FVS3"), (0x180e, "MVS"), (0x180f, "FVS4"),
    (0x200b, "ZWSP"), (0x200c, "ZWNJ"), (0x200d, "ZWJ"), (0x200e, "LRM"), (0x200f, "RLM"),
    (0x202a, "LRE"), (0x202b, "RLE"), (0x202c, "PDF"), (0x202d, "LRO"), (0x202e, "RLO"),
    (0x202f, "NNBSP"), (0x205f, "MMSP"), (0x2060, "WJ"), (0x2066, "LRI"), (0x2067, "RLI"),
    (0x2068, "FSI"), (0x2069, "PDI"), (0x2118, "WEIERSTRASS ELLIPTIC FUNCTION"),
    (0x2448, "MICR ON US SYMBOL"), (0x2449, "MICR DASH SYMBOL"),
    (0x2b7a, "LEFTWARDS TRIANGLE-HEADED ARROW WITH DOUBLE VERTICAL STROKE"),
    (0x2b7c, "RIGHTWARDS TRIANGLE-HEADED ARROW WITH DOUBLE VERTICAL STROKE"),
    (0xa015, "YI SYLLABLE ITERATION MARK"), (0xaa6e, "MYANMAR LETTER KHAMTI LLA"),
    (0xfe18, "PRESENTATION FORM FOR VERTICAL RIGHT WHITE LENTICULAR BRACKET"),
    (0xfeff, "BYTE ORDER MARK;BOM;ZWNBSP"), (0x122d4, "CUNEIFORM SIGN NU11 TENU"),
    (0x122d5, "CUNEIFORM SIGN NU11 OVER NU11 BUR OVER BUR"),
    (0x16e56, "MEDEFAIDRIN CAPITAL LETTER H"), (0x16e57, "MEDEFAIDRIN CAPITAL LETTER NG"),
    (0x16e76, "MEDEFAIDRIN SMALL LETTER H"), (0x16e77, "MEDEFAIDRIN SMALL LETTER NG"),
    (0x1b001, "HENTAIGANA LETTER E-1"),
    (0x1d0c5, "BYZANTINE MUSICAL SYMBOL FTHORA SKLIRON CHROMA VASIS")]

/-- The character with a proper name that is written in a table. -/
def properNamed? (name : List Char) : Option Nat :=
  nameRuns.findSome? fun (first, run) =>
    (indexIn? (nameWords name) 0 (runEntries run)).map (first + ·)

/-- The character with a further name. -/
def otherNamed? (name : List Char) : Option Nat :=
  (otherNames.find? fun (_, names) =>
    (Text.splitList (· = ';') names.toList).contains name).map (·.1)

/-! ## Names by rule -/

/-- The number that is written in a text to a base, none when a character is no digit. -/
def numberIn? (base : Nat) (cs : List Char) : Option Nat :=
  if cs.isEmpty then none
  else cs.foldlM (fun n c => match Bytes.hexValue? c with
    | some d => if d < base then some (n * base + d) else none
    | none => none) 0

/-- The scripts of ideographs whose names end in their code, with their first and last ones. -/
def codedNames : List (String × Ranges) :=
  [
    ("CJK COMPATIBILITY IDEOGRAPH-", #[(0xf900, 0xfa6d), (0xfa70, 0xfad9), (0x2f800, 0x2fa1d)]),
    ("KHITAN SMALL SCRIPT CHARACTER-", #[(0x18b00, 0x18cd5)]),
    ("NUSHU CHARACTER-", #[(0x1b170, 0x1b2fb)])]

/-- The character whose name ends in its code. -/
def codedNamed? (name : List Char) : Option Nat :=
  codedNames.findSome? fun (start, ranges) =>
    if !start.toList.isPrefixOf name then none
    else
      let digits := name.drop start.length
      (numberIn? 16 digits).bind fun code =>
        if ranges.contains code && digits.head? ≠ some '0' then some code else none

/-- The unified ideographs. -/
def ideographRanges : Ranges :=
  #[
    (0x3400, 0x4dbf), (0x4e00, 0x9fff), (0x20000, 0x2a6df), (0x2a700, 0x2b738), (0x2b740, 0x2b81d),
    (0x2b820, 0x2cea1), (0x2ceb0, 0x2ebe0), (0x30000, 0x3134a)]

/-- The unified ideograph that a code of four or five capital digits names. -/
def ideographNamed? (digits : List Char) : Option Nat :=
  if (digits.length = 4 || digits.length = 5) && !digits.any Char.isLower then
    (numberIn? 16 digits).filter ideographRanges.contains
  else none

/-- The names of the first letters of syllables. -/
def leadNames : List String :=
  ["G", "GG", "N", "D", "DD", "R", "M", "B", "BB", "S", "SS", "", "J", "JJ", "C", "K", "T", "P",
    "H"]

/-- The names of the vowels of syllables. -/
def vowelNames : List String :=
  ["A", "AE", "YA", "YAE", "EO", "E", "YEO", "YE", "O", "WA", "WAE", "OE", "YO", "U", "WEO", "WE",
    "WI", "YU", "EU", "YI", "I"]

/-- The names of the last letters of syllables. -/
def tailNames : List String :=
  ["", "G", "GG", "GS", "N", "NJ", "NH", "D", "L", "LG", "LM", "LB", "LS", "LT", "LP", "LH", "M",
    "B", "BS", "S", "SS", "NG", "J", "C", "K", "T", "P", "H"]

/-- The index of the longest of some names at the head of a text, and what follows it. -/
def longestAt? (names : List String) (cs : List Char) : Option (Nat × List Char) :=
  let fitting := names.zipIdx.filter fun (name, _) => name.toList.isPrefixOf cs
  (fitting.foldl (fun best (name, i) => match best with
    | some (length, _) => if length < name.length then some (name.length, i) else best
    | none => some (name.length, i)) none).map fun (length, i) => (i, cs.drop length)

/-- The syllable that the names of its letters name. -/
def hangulNamed? (cs : List Char) : Option Nat := do
  let (lead, cs) ← longestAt? leadNames cs
  let (vowel, cs) ← longestAt? vowelNames cs
  let (tail, cs) ← longestAt? tailNames cs
  if cs.isEmpty then some (0xac00 + (lead * 21 + vowel) * 28 + tail) else none

/-- The selector of a variation by its short name: there are 256 of them. -/
def selectorNamed? (name : List Char) : Option Nat :=
  match name with
  | 'V' :: 'S' :: digits =>
    (numberIn? 10 digits).bind fun n =>
      if digits.head? = some '0' || n = 0 || 256 < n then none
      else if n ≤ 16 then some (0xfe00 + n - 1) else some (0xe0100 + n - 17)
  | _ => none

/-- What stands in a text behind a beginning that it has. -/
def behind? (start : String) (cs : List Char) : Option (List Char) :=
  if start.toList.isPrefixOf cs then some (cs.drop start.length) else none

/-- The code point of the character with a name. -/
def characterNamed? (name : String) : Option Nat :=
  match behind? "HANGUL SYLLABLE " name.toList, behind? "CJK UNIFIED IDEOGRAPH-" name.toList with
  | some letters, _ => hangulNamed? letters
  | none, some digits => ideographNamed? digits
  | none, none =>
    let capitals := name.toList.map Char.toUpper
    (codedNamed? capitals).or <| (selectorNamed? capitals).or <|
      (otherNamed? capitals).or (properNamed? capitals)

end ImageImports.Unicode
