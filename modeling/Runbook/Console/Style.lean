import Runbook.Number.Written
import Runbook.Text.Digit
import Runbook.Text.Letter
import Runbook.Text.Line

/-!
# Styles in markup

A style is a list of words: attributes, a colour, a colour behind the word `on`, and a link. Two
spellings of a style are the same if their words name the same attributes and colours; words that
form no style are compared as they are, but for case.
-/

namespace Runbook.Console

/-- The names of colours. -/
def colourNames : List String :=
  ["aquamarine1", "aquamarine3", "black", "blue", "blue1", "blue3", "blue_violet", "bright_black",
   "bright_blue", "bright_cyan", "bright_green", "bright_magenta", "bright_red", "bright_white",
   "bright_yellow", "cadet_blue", "chartreuse1", "chartreuse2", "chartreuse3", "chartreuse4",
   "cornflower_blue", "cornsilk1", "cyan", "cyan1", "cyan2", "cyan3", "dark_blue", "dark_cyan",
   "dark_goldenrod", "dark_green", "dark_khaki", "dark_magenta", "dark_olive_green1",
   "dark_olive_green2", "dark_olive_green3", "dark_orange", "dark_orange3", "dark_red",
   "dark_sea_green", "dark_sea_green1", "dark_sea_green2", "dark_sea_green3", "dark_sea_green4",
   "dark_slate_gray1", "dark_slate_gray2", "dark_slate_gray3", "dark_turquoise", "dark_violet",
   "deep_pink1", "deep_pink2", "deep_pink3", "deep_pink4", "deep_sky_blue1", "deep_sky_blue2",
   "deep_sky_blue3", "deep_sky_blue4", "dodger_blue1", "dodger_blue2", "dodger_blue3", "gold1",
   "gold3", "gray0", "gray100", "gray11", "gray15", "gray19", "gray23", "gray27", "gray3",
   "gray30", "gray35", "gray37", "gray39", "gray42", "gray46", "gray50", "gray53", "gray54",
   "gray58", "gray62", "gray63", "gray66", "gray69", "gray7", "gray70", "gray74", "gray78",
   "gray82", "gray84", "gray85", "gray89", "gray93", "green", "green1", "green3", "green4",
   "green_yellow", "grey0", "grey100", "grey11", "grey15", "grey19", "grey23", "grey27", "grey3",
   "grey30", "grey35", "grey37", "grey39", "grey42", "grey46", "grey50", "grey53", "grey54",
   "grey58", "grey62", "grey63", "grey66", "grey69", "grey7", "grey70", "grey74", "grey78",
   "grey82", "grey84", "grey85", "grey89", "grey93", "honeydew2", "hot_pink", "hot_pink2",
   "hot_pink3", "indian_red", "indian_red1", "khaki1", "khaki3", "light_coral", "light_cyan1",
   "light_cyan3", "light_goldenrod1", "light_goldenrod2", "light_goldenrod3", "light_green",
   "light_pink1", "light_pink3", "light_pink4", "light_salmon1", "light_salmon3",
   "light_sea_green", "light_sky_blue1", "light_sky_blue3", "light_slate_blue",
   "light_slate_gray", "light_slate_grey", "light_steel_blue", "light_steel_blue1",
   "light_steel_blue3", "light_yellow3", "magenta", "magenta1", "magenta2", "magenta3",
   "medium_orchid", "medium_orchid1", "medium_orchid3", "medium_purple", "medium_purple1",
   "medium_purple2", "medium_purple3", "medium_purple4", "medium_spring_green",
   "medium_turquoise", "medium_violet_red", "misty_rose1", "misty_rose3", "navajo_white1",
   "navajo_white3", "navy_blue", "orange1", "orange3", "orange4", "orange_red1", "orchid",
   "orchid1", "orchid2", "pale_green1", "pale_green3", "pale_turquoise1", "pale_turquoise4",
   "pale_violet_red1", "pink1", "pink3", "plum1", "plum2", "plum3", "plum4", "purple", "purple3",
   "purple4", "red", "red1", "red3", "rosy_brown", "royal_blue1", "salmon1", "sandy_brown",
   "sea_green1", "sea_green2", "sea_green3", "sky_blue1", "sky_blue2", "sky_blue3", "slate_blue1",
   "slate_blue3", "spring_green1", "spring_green2", "spring_green3", "spring_green4",
   "steel_blue", "steel_blue1", "steel_blue3", "tan", "thistle1", "thistle3", "turquoise2",
   "turquoise4", "violet", "wheat1", "wheat4", "white", "yellow", "yellow1", "yellow2", "yellow3",
   "yellow4"]

/-- The names of styles that a console knows besides those that words spell. -/
def themeStyles : List String :=
  ["reset", "bright", "strong", "code", "emphasize", "inspect.attr", "inspect.attr.dunder",
   "inspect.callable", "inspect.async_def", "inspect.def", "inspect.class", "inspect.error",
   "inspect.equals", "inspect.help", "inspect.doc", "inspect.value.border", "live.ellipsis",
   "layout.tree.row", "layout.tree.column", "logging.keyword", "logging.level.notset",
   "logging.level.debug", "logging.level.info", "logging.level.warning", "logging.level.error",
   "logging.level.critical", "log.level", "log.time", "log.message", "log.path", "repr.ellipsis",
   "repr.indent", "repr.error", "repr.str", "repr.brace", "repr.comma", "repr.ipv4", "repr.ipv6",
   "repr.eui48", "repr.eui64", "repr.tag_start", "repr.tag_name", "repr.tag_contents",
   "repr.tag_end", "repr.attrib_name", "repr.attrib_equal", "repr.attrib_value", "repr.number",
   "repr.number_complex", "repr.bool_true", "repr.bool_false", "repr.none", "repr.url",
   "repr.uuid", "repr.call", "repr.path", "repr.filename", "rule.line", "rule.text", "json.brace",
   "json.bool_true", "json.bool_false", "json.null", "json.number", "json.str", "json.key",
   "prompt", "prompt.choices", "prompt.default", "prompt.invalid", "prompt.invalid.choice",
   "pretty", "scope.border", "scope.key", "scope.key.special", "scope.equals", "table.header",
   "table.footer", "table.cell", "table.title", "table.caption", "traceback.error",
   "traceback.border.syntax_error", "traceback.border", "traceback.text", "traceback.title",
   "traceback.exc_type", "traceback.exc_value", "traceback.offset", "bar.back", "bar.complete",
   "bar.finished", "bar.pulse", "progress.description", "progress.filesize",
   "progress.filesize.total", "progress.download", "progress.elapsed", "progress.percentage",
   "progress.remaining", "progress.data.speed", "progress.spinner", "status.spinner", "tree",
   "tree.line", "markdown.paragraph", "markdown.text", "markdown.em", "markdown.emph",
   "markdown.strong", "markdown.code", "markdown.code_block", "markdown.block_quote",
   "markdown.list", "markdown.item", "markdown.item.bullet", "markdown.item.number", "markdown.hr",
   "markdown.h1.border", "markdown.h1", "markdown.h2", "markdown.h3", "markdown.h4", "markdown.h5",
   "markdown.h6", "markdown.h7", "markdown.link", "markdown.link_url", "markdown.s",
   "iso8601.date", "iso8601.time", "iso8601.timezone"]

/-- The attributes by their names, in the order in which a style lists them. -/
def attributeNames : List (String × String) :=
  [("bold", "bold"), ("b", "bold"), ("dim", "dim"), ("d", "dim"), ("italic", "italic"),
    ("i", "italic"), ("underline", "underline"), ("u", "underline"), ("blink", "blink"),
    ("blink2", "blink2"), ("reverse", "reverse"), ("r", "reverse"), ("conceal", "conceal"),
    ("c", "conceal"), ("strike", "strike"), ("s", "strike"), ("underline2", "underline2"),
    ("uu", "underline2"), ("frame", "frame"), ("encircle", "encircle"), ("overline", "overline"),
    ("o", "overline")]

/-- Whether a text is the number of a shade, with digits of any script. -/
def isShade (s : List Char) : Bool := (readNat? 10 (s.map Text.asciiDigit)).any (· ≤ 255)

/-- The text between the given front and a closing parenthesis at the end. -/
def between? (front : String) (s : List Char) : Option (List Char) :=
  if front.toList.isPrefixOf s && s.getLast? = some ')' then
    some (s.drop front.length).dropLast
  else none

/-- Why words form no style: a word is not known, or a shade of a colour is no number. -/
inductive StyleFault where
  | unknownWord
  | badShade
  deriving DecidableEq, Repr

/-- Whether a word in small letters names a colour by its red, green and blue shades. A shade that
is left out is a fault of its own. -/
def isMixedColour (word : List Char) : Except StyleFault Bool :=
  match between? "rgb(" word with
  | none => .ok false
  | some numbers =>
    let shades := Text.splitOn ',' numbers
    let isNumber (shade : List Char) : Bool := (readNat? 10 (shade.map Text.asciiDigit)).isSome
    if numbers.isEmpty || shades.length != 3 || !shades.all fun s => s.isEmpty || isNumber s then
      .ok false
    else if shades.all isNumber then .ok (shades.all isShade)
    else .error .badShade

/-- Whether a word in small letters names a colour. -/
def isColour (word : String) : Except StyleFault Bool :=
  let s := word.toList
  let isHex (c : Char) : Bool := c.isDigit || ('a' ≤ c && c ≤ 'f')
  let isSimple := word = "default" || colourNames.contains word
    || (s.head? = some '#' && s.length = 7 && (s.drop 1).all isHex)
    || (match between? "color(" s with
      | some digits => digits.length ≤ 3 && digits.all Char.isDigit && isShade digits
      | none => false)
  if isSimple then .ok true else isMixedColour s

/-- The colour that a word names. -/
def colour (word : String) : Except StyleFault String :=
  (isColour (Text.lowerString word)).bind fun isKnown =>
    if isKnown then .ok (Text.lowerString word) else .error .unknownWord

/-- The parts of a style that have been read. -/
structure StyleWords where
  attributes : List (String × Bool)
  colour : Option String
  background : Option String
  link : Option String
  deriving DecidableEq, Repr

/-- Reads the words of a style. -/
def readStyle (style : StyleWords) : List String → Except StyleFault StyleWords
  | [] => .ok style
  | word :: words =>
    let small := Text.lowerString word
    if small = "on" then
      match words with
      | name :: words =>
        (colour name).bind fun name => readStyle { style with background := some name } words
      | [] => .error .unknownWord
    else if small = "not" then
      match words with
      | name :: words =>
        match attributeNames.lookup name with
        | some trait =>
          readStyle { style with attributes := (trait, false) :: style.attributes } words
        | none => .error .unknownWord
      | [] => .error .unknownWord
    else if small = "link" then
      match words with
      | name :: words => readStyle { style with link := some name } words
      | [] => .error .unknownWord
    else
      match attributeNames.lookup small with
      | some trait =>
        readStyle { style with attributes := (trait, true) :: style.attributes } words
      | none =>
        (colour small).bind fun name => readStyle { style with colour := some name } words

/-- The style that a text spells. -/
def styleOf (s : List Char) : Except StyleFault StyleWords :=
  readStyle ⟨[], none, none, none⟩ ((Text.words s).map String.ofList)

/-- The one spelling of a style: its attributes in their order, its colours, its link. -/
def spelling (style : StyleWords) : String :=
  let attributes := (attributeNames.map Prod.snd).eraseDups.filterMap fun name =>
    (style.attributes.lookup name).map fun isSet => if isSet then name else "not " ++ name
  let colours := style.colour.toList ++ (style.background.map ("on " ++ ·)).toList
  let parts := attributes ++ colours ++ (style.link.map ("link " ++ ·)).toList
  if parts.isEmpty then "none" else " ".intercalate parts

/-- The name under which an opening and a closing tag meet. -/
def styleName (s : List Char) : Except StyleFault String :=
  match styleOf s with
  | .ok style => .ok (spelling style)
  | .error .unknownWord => .ok (Text.lowerString (Text.trimString (String.ofList s)))
  | .error .badShade => .error .badShade

end Runbook.Console
