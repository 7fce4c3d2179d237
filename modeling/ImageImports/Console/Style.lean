import ImageImports.Decimal.Reading
import ImageImports.Text
import ImageImports.Text.Quoted
import ImageImports.Unicode.Case
import ImageImports.Unicode.Word

/-!
# Names of styles

A style is named by words: attributes such as `bold` or `b`, a colour, a colour behind `on`, and a
link.  Two names of one style have the same canonical name, in which the attributes stand in a fixed
order, then the colours and the link; a name that is no style stands for itself in lower case.  The
parts of the screen have names for their styles as well.
-/

namespace ImageImports.Console.Style

/-! ## Words and names -/

/-- A text in lower case. -/
def lowerCase (s : String) : String := String.ofList (Unicode.lowerText s.toList)

/-- The attributes in their order, each with the words that set it. -/
def attributes : List (String × List String) :=
  [("bold", ["bold", "b"]), ("dim", ["dim", "d"]), ("italic", ["italic", "i"]),
    ("underline", ["underline", "u"]), ("blink", ["blink"]), ("blink2", ["blink2"]),
    ("reverse", ["reverse", "r"]), ("conceal", ["conceal", "c"]), ("strike", ["strike", "s"]),
    ("underline2", ["underline2", "uu"]), ("frame", ["frame"]), ("encircle", ["encircle"]),
    ("overline", ["overline", "o"])]

/-- The attribute that a word sets. -/
def attributeOf? (word : String) : Option String :=
  (attributes.find? (·.2.contains word)).map Prod.fst

/-- Colours that have a name. -/
def colourNames : List String :=
  [
    "black", "red", "green", "yellow", "blue", "magenta", "cyan", "white", "bright_black",
    "bright_red", "bright_green", "bright_yellow", "bright_blue", "bright_magenta", "bright_cyan",
    "bright_white", "navy_blue", "dark_blue", "blue3", "blue1", "dark_green", "deep_sky_blue4",
    "dodger_blue3", "dodger_blue2", "green4", "spring_green4", "turquoise4", "deep_sky_blue3",
    "dodger_blue1", "green3", "spring_green3", "dark_cyan", "light_sea_green", "deep_sky_blue2",
    "deep_sky_blue1", "spring_green2", "cyan3", "dark_turquoise", "turquoise2", "green1",
    "spring_green1", "medium_spring_green", "cyan2", "cyan1", "dark_red", "deep_pink4", "purple4",
    "purple3", "blue_violet", "orange4", "medium_purple4", "slate_blue3", "royal_blue1",
    "chartreuse4", "dark_sea_green4", "pale_turquoise4", "steel_blue", "steel_blue3",
    "cornflower_blue", "chartreuse3", "cadet_blue", "sky_blue3", "steel_blue1", "pale_green3",
    "sea_green3", "aquamarine3", "medium_turquoise", "chartreuse2", "sea_green2", "sea_green1",
    "aquamarine1", "dark_slate_gray2", "dark_magenta", "dark_violet", "purple", "light_pink4",
    "plum4", "medium_purple3", "slate_blue1", "yellow4", "wheat4", "light_slate_grey",
    "light_slate_gray", "medium_purple", "light_slate_blue", "dark_olive_green3",
    "dark_sea_green", "light_sky_blue3", "sky_blue2", "dark_sea_green3", "dark_slate_gray3",
    "sky_blue1", "chartreuse1", "light_green", "pale_green1", "dark_slate_gray1", "red3",
    "medium_violet_red", "magenta3", "dark_orange3", "indian_red", "hot_pink3", "medium_orchid3",
    "medium_orchid", "medium_purple2", "dark_goldenrod", "light_salmon3", "rosy_brown",
    "medium_purple1", "gold3", "dark_khaki", "navajo_white3", "light_steel_blue3",
    "light_steel_blue", "yellow3", "dark_sea_green2", "light_cyan3", "light_sky_blue1",
    "green_yellow", "dark_olive_green2", "dark_sea_green1", "pale_turquoise1", "deep_pink3",
    "magenta2", "hot_pink2", "orchid", "medium_orchid1", "orange3", "light_pink3", "pink3",
    "plum3", "violet", "light_goldenrod3", "tan", "misty_rose3", "thistle3", "plum2", "khaki3",
    "light_goldenrod2", "light_yellow3", "light_steel_blue1", "yellow2", "dark_olive_green1",
    "honeydew2", "light_cyan1", "red1", "deep_pink2", "deep_pink1", "magenta1", "orange_red1",
    "indian_red1", "hot_pink", "dark_orange", "salmon1", "light_coral", "pale_violet_red1",
    "orchid2", "orchid1", "orange1", "sandy_brown", "light_salmon1", "light_pink1", "pink1",
    "plum1", "gold1", "navajo_white1", "misty_rose1", "thistle1", "yellow1", "light_goldenrod1",
    "khaki1", "wheat1", "cornsilk1", "grey0", "gray0", "grey3", "gray3", "grey7", "gray7",
    "grey11", "gray11", "grey15", "gray15", "grey19", "gray19", "grey23", "gray23", "grey27",
    "gray27", "grey30", "gray30", "grey35", "gray35", "grey37", "gray37", "grey39", "gray39",
    "grey42", "gray42", "grey46", "gray46", "grey50", "gray50", "grey53", "gray53", "grey54",
    "gray54", "grey58", "gray58", "grey62", "gray62", "grey63", "gray63", "grey66", "gray66",
    "grey69", "gray69", "grey70", "gray70", "grey74", "gray74", "grey78", "gray78", "grey82",
    "gray82", "grey84", "gray84", "grey85", "gray85", "grey89", "gray89", "grey93", "gray93",
    "grey100", "gray100"]

/-- Names that stand for a style of the screen's parts. -/
def partNames : List String :=
  [
    "bar.back", "bar.complete", "bar.finished", "bar.pulse", "black", "blink", "blink2", "bold",
    "bright", "code", "cyan", "dim", "emphasize", "green", "inspect.async_def", "inspect.attr",
    "inspect.attr.dunder", "inspect.callable", "inspect.class", "inspect.def", "inspect.doc",
    "inspect.equals", "inspect.error", "inspect.help", "inspect.value.border", "iso8601.date",
    "iso8601.time", "iso8601.timezone", "italic", "json.bool_false", "json.bool_true",
    "json.brace", "json.key", "json.null", "json.number", "json.str", "layout.tree.column",
    "layout.tree.row", "live.ellipsis", "log.level", "log.message", "log.path", "log.time",
    "logging.keyword", "logging.level.critical", "logging.level.debug", "logging.level.error",
    "logging.level.info", "logging.level.notset", "logging.level.warning", "magenta",
    "markdown.block_quote", "markdown.code", "markdown.code_block", "markdown.em", "markdown.emph",
    "markdown.h1", "markdown.h1.border", "markdown.h2", "markdown.h3", "markdown.h4",
    "markdown.h5", "markdown.h6", "markdown.h7", "markdown.hr", "markdown.item",
    "markdown.item.bullet", "markdown.item.number", "markdown.kbd", "markdown.link",
    "markdown.link_url", "markdown.list", "markdown.paragraph", "markdown.s", "markdown.strong",
    "markdown.table.border", "markdown.table.header", "markdown.text",
    "none", "pretty", "progress.data.speed", "progress.description", "progress.download",
    "progress.elapsed", "progress.filesize", "progress.filesize.total", "progress.percentage",
    "progress.remaining", "progress.spinner", "prompt", "prompt.choices", "prompt.default",
    "prompt.invalid", "prompt.invalid.choice", "red", "repr.attrib_equal", "repr.attrib_name",
    "repr.attrib_value", "repr.bool_false", "repr.bool_true", "repr.brace", "repr.call",
    "repr.comma", "repr.ellipsis", "repr.error", "repr.eui48", "repr.eui64", "repr.filename",
    "repr.indent", "repr.ipv4", "repr.ipv6", "repr.none", "repr.number", "repr.number_complex",
    "repr.path", "repr.str", "repr.tag_contents", "repr.tag_end", "repr.tag_name",
    "repr.tag_start", "repr.url", "repr.uuid", "reset", "reverse", "rule.line", "rule.text",
    "scope.banner", "scope.border", "scope.dim", "scope.equals", "scope.error", "scope.info",
    "scope.key", "scope.key.special", "scope.section", "scope.success", "scope.warning",
    "status.spinner", "strike", "strong", "table.caption", "table.cell", "table.footer",
    "table.header", "table.title", "traceback.border", "traceback.border.syntax_error",
    "traceback.error", "traceback.exc_type", "traceback.exc_value", "traceback.group.border",
    "traceback.note", "traceback.offset", "traceback.text", "traceback.title", "tree", "tree.line",
    "underline", "white", "yellow"]

/-- The number that decimal digits of any script spell. -/
def component? (digits : List Char) : Option Nat :=
  if digits.isEmpty then none
  else digits.foldlM (fun n d => (Unicode.digitValue? d.toNat).map (10 * n + ·)) 0

/-- What stands between `before` and a closing bracket that ends the text. -/
def between? (before : String) (cs : List Char) : Option (List Char) :=
  if before.toList.isPrefixOf cs && cs.getLast? = some ')' then
    some (cs.drop before.length).dropLast
  else none

/-! ## What is no style -/

/-- Why a word is no colour. -/
inductive ColourFault where
  | unknown
  | numberTooLarge
  | notThreeComponents
  | componentTooLarge
  /-- A component has no digits, or too many. -/
  | componentUnreadable (digits : Nat)
  deriving DecidableEq, Repr

/-- The fault of a word in words. -/
def ColourFault.message (word : String) : ColourFault → String
  | .unknown => Text.quoted word ++ " is not a valid color"
  | .numberTooLarge => "color number must be <= 255 in " ++ Text.quoted (lowerCase word)
  | .notThreeComponents => "expected three components in " ++ Text.quoted word
  | .componentTooLarge => "color components must be <= 255 in " ++ Text.quoted word
  | .componentUnreadable 0 => "invalid literal for int() with base 10: ''"
  | .componentUnreadable digits => Decimal.tooLongText digits

/-- Why a text is no style. -/
inductive StyleFault where
  /-- Nothing follows `on`. -/
  | noBackground
  | background (word : String) (cause : ColourFault)
  | colour (word : String) (cause : ColourFault)
  /-- What follows `not` is no attribute. -/
  | noAttribute (word : String)
  /-- Nothing follows `link`. -/
  | noTarget
  deriving DecidableEq, Repr

/-- The fault in words. -/
def StyleFault.message : StyleFault → String
  | .noBackground => "color expected after 'on'"
  | .background word cause =>
    "unable to parse " ++ Text.quoted word ++ " as background color; " ++ cause.message word
  | .colour word cause =>
    "unable to parse " ++ Text.quoted word ++ " as color; " ++ cause.message word
  | .noAttribute word => "expected style attribute after 'not', found " ++ Text.quoted word
  | .noTarget => "URL expected after 'link'"

/-- What is said, whatever the style is asked for, of a colour whose numbers cannot be read. -/
def StyleFault.unreadable? : StyleFault → Option String
  | .background word (.componentUnreadable digits) | .colour word (.componentUnreadable digits) =>
    some (ColourFault.message word (.componentUnreadable digits))
  | _ => none

/-- What is said where a style is asked for by a name that is none. -/
def StyleFault.messageFor (fault : StyleFault) (name : String) : String :=
  "Failed to get style " ++ Text.quoted name ++ "; " ++ fault.message

/-! ## Reading a style -/

/-- Whether a word is a colour: `default`, a name, six hexadecimal digits behind `#`, a number in
`color(…)`, or three numbers in `rgb(…)`. -/
def checkColour (word : String) : Except ColourFault Unit :=
  let low := lowerCase word
  if low = "default" || colourNames.contains low then .ok ()
  else match low.toList with
    | '#' :: digits =>
      if digits.length = 6 && digits.all fun d => d.isDigit || ('a' ≤ d && d ≤ 'f') then .ok ()
      else .error .unknown
    | cs =>
      match between? "color(" cs, between? "rgb(" cs with
      | some digits, _ =>
        if 3 < digits.length || !digits.all Char.isDigit then .error .unknown
        else match component? digits with
          | some n => if n ≤ 255 then .ok () else .error .numberTooLarge
          | none => .error .unknown
      | none, some inner =>
        let parts := Text.splitList (· = ',') inner
        if inner.isEmpty || !inner.all fun c => Unicode.isDigit c.toNat || c = ',' then .error .unknown
        else if parts.length ≠ 3 then .error .notThreeComponents
        else if let some part := parts.find? fun part =>
            part.isEmpty || Decimal.maxDigits < part.length then
          .error (.componentUnreadable part.length)
        else if parts.all fun part => (component? part).any (· ≤ 255) then .ok ()
        else .error .componentTooLarge
      | none, none => .error .unknown

/-- What the words of a style set. -/
structure Setting where
  /-- Attributes that are switched on or off. -/
  switches : List (String × Bool) := []
  colour : Option String := none
  background : Option String := none
  link : Option String := none

namespace Setting

/-- The setting with an attribute switched on or off; the last switch counts. -/
def switch (s : Setting) (attr : String) (on : Bool) : Setting :=
  { s with switches := (attr, on) :: s.switches }

/-- The canonical name. -/
def name (s : Setting) : String :=
  let switches := attributes.filterMap fun (attr, _) =>
    (s.switches.lookup attr).map fun on => if on then attr else "not " ++ attr
  let words := switches ++ s.colour.toList ++ (s.background.toList.map ("on " ++ ·))
    ++ (s.link.toList.map ("link " ++ ·))
  if words.isEmpty then "none" else " ".intercalate words

end Setting

/-- What some words set, on top of what is set. -/
def ofWords (s : Setting) : List String → Except StyleFault Setting
  | [] => .ok s
  | word :: rest =>
    let low := lowerCase word
    if low = "on" then
      match rest with
      | colour :: rest =>
        match checkColour colour with
        | .ok () => ofWords { s with background := lowerCase colour } rest
        | .error cause => .error (.background colour cause)
      | [] => .error .noBackground
    else if low = "not" then
      match rest with
      | word :: rest =>
        match attributeOf? word with
        | some attr => ofWords (s.switch attr false) rest
        | none => .error (.noAttribute word)
      | [] => .error (.noAttribute "")
    else if low = "link" then
      match rest with
      | target :: rest => ofWords { s with link := target } rest
      | [] => .error .noTarget
    else match attributeOf? low with
      | some attr => ofWords (s.switch attr true) rest
      | none =>
        match checkColour low with
        | .ok () => ofWords { s with colour := low } rest
        | .error cause => .error (.colour low cause)

/-- The words of a text, which blanks part. -/
def words (s : String) : List String :=
  ((Text.splitList (fun c => Unicode.isBlank c.toNat) s.toList).filter (!·.isEmpty)).map
    String.ofList

/-- What a style sets. -/
def parse (name : String) : Except StyleFault Setting :=
  if words name = ["none"] then .ok {} else ofWords {} (words name)

/-- The canonical name of a style, or what is said when it cannot be read. -/
def canonical (name : String) : Except String String :=
  match parse name with
  | .ok setting => .ok setting.name
  | .error fault => match fault.unreadable? with
    | some message => .error message
    | none => .ok <|
      lowerCase (String.ofList (Text.trimList (fun c => Unicode.isBlank c.toNat) name.toList))

/-- Whether a text is a style or a name of one. -/
def check (name : String) : Except StyleFault Unit :=
  if partNames.contains name then .ok () else (fun _ => ()) <$> parse name

end ImageImports.Console.Style
