import PluginKit.Number.Whole
import PluginKit.Text.Digit
import PluginKit.Text.Lower

/-!
Styles of printed texts: attributes that are on or off, two colors and a link. A style is written as words,
and has one canonical text. Themes name styles.
-/

namespace PluginKit

structure Style where
  -- Attributes that are on or off, the latest word on each first.
  attributes : List (String × Bool)
  color : Option String
  background : Option String
  link : Option String
  deriving DecidableEq

namespace Style

def none : Style := ⟨[], .none, .none, .none⟩

/-! ## Errors -/

inductive ColorFault where
  | unknown (word : String)
  | number (word : String)
  | components (word : String)
  | component (word : String)
  | unreadable (fault : Whole.Fault)
  deriving DecidableEq

def ColorFault.message : ColorFault → String
  | .unknown word => Text.quoted word ++ " is not a valid color"
  | .number word => "color number must be <= 255 in " ++ Text.quoted word
  | .components word => "expected three components in " ++ Text.quoted word
  | .component word => "color components must be <= 255 in " ++ Text.quoted word
  | .unreadable fault => fault.message

inductive Fault where
  | noBackground
  | background (word : String) (fault : ColorFault)
  | noAttribute (word : String)
  | noLink
  | color (word : String) (fault : ColorFault)
  deriving DecidableEq

namespace Fault

def message : Fault → String
  | .noBackground => "color expected after 'on'"
  | .background word fault =>
    "unable to parse " ++ Text.quoted word ++ " as background color; " ++ fault.message
  | .noAttribute word => "expected style attribute after 'not', found " ++ Text.quoted word
  | .noLink => "URL expected after 'link'"
  | .color word fault => "unable to parse " ++ Text.quoted word ++ " as color; " ++ fault.message

def unreadable? : Fault → Option Whole.Fault
  | .background _ (.unreadable fault) => some fault
  | .color _ (.unreadable fault) => some fault
  | _ => .none

end Fault

/-! ## Words -/

def attributeNames : List (String × List String) :=
  [("bold", ["b"]), ("dim", ["d"]), ("italic", ["i"]), ("underline", ["u"]), ("blink", []),
    ("blink2", []), ("reverse", ["r"]), ("conceal", ["c"]), ("strike", ["s"]),
    ("underline2", ["uu"]), ("frame", []), ("encircle", []), ("overline", ["o"])]

def attribute? (word : String) : Option String :=
  (attributeNames.find? fun (name, short) => name = word || short.contains word).map Prod.fst

def colorNames : List String :=
  (Text.Ranges.words [
    "default black red green yellow blue magenta cyan white bright_black bright_red bright_green",
    "bright_yellow bright_blue bright_magenta bright_cyan bright_white grey0 gray0 navy_blue dark_blue",
    "blue3 blue1 dark_green deep_sky_blue4 dodger_blue3 dodger_blue2 green4 spring_green4 turquoise4",
    "deep_sky_blue3 dodger_blue1 green3 spring_green3 dark_cyan light_sea_green deep_sky_blue2",
    "deep_sky_blue1 spring_green2 cyan3 dark_turquoise turquoise2 green1 spring_green1",
    "medium_spring_green cyan2 cyan1 dark_red deep_pink4 purple4 purple3 blue_violet orange4 grey37",
    "gray37 medium_purple4 slate_blue3 royal_blue1 chartreuse4 dark_sea_green4 pale_turquoise4 steel_blue",
    "steel_blue3 cornflower_blue chartreuse3 cadet_blue sky_blue3 steel_blue1 pale_green3 sea_green3",
    "aquamarine3 medium_turquoise chartreuse2 sea_green2 sea_green1 aquamarine1 dark_slate_gray2",
    "dark_magenta dark_violet purple light_pink4 plum4 medium_purple3 slate_blue1 yellow4 wheat4 grey53",
    "gray53 light_slate_grey light_slate_gray medium_purple light_slate_blue dark_olive_green3",
    "dark_sea_green light_sky_blue3 sky_blue2 dark_sea_green3 dark_slate_gray3 sky_blue1 chartreuse1",
    "light_green pale_green1 dark_slate_gray1 red3 medium_violet_red magenta3 dark_orange3 indian_red",
    "hot_pink3 medium_orchid3 medium_orchid medium_purple2 dark_goldenrod light_salmon3 rosy_brown grey63",
    "gray63 medium_purple1 gold3 dark_khaki navajo_white3 grey69 gray69 light_steel_blue3",
    "light_steel_blue yellow3 dark_sea_green2 light_cyan3 light_sky_blue1 green_yellow dark_olive_green2",
    "dark_sea_green1 pale_turquoise1 deep_pink3 magenta2 hot_pink2 orchid medium_orchid1 orange3",
    "light_pink3 pink3 plum3 violet light_goldenrod3 tan misty_rose3 thistle3 plum2 khaki3",
    "light_goldenrod2 light_yellow3 grey84 gray84 light_steel_blue1 yellow2 dark_olive_green1 honeydew2",
    "light_cyan1 red1 deep_pink2 deep_pink1 magenta1 orange_red1 indian_red1 hot_pink dark_orange salmon1",
    "light_coral pale_violet_red1 orchid2 orchid1 orange1 sandy_brown light_salmon1 light_pink1 pink1",
    "plum1 gold1 navajo_white1 misty_rose1 thistle1 yellow1 light_goldenrod1 khaki1 wheat1 cornsilk1",
    "grey100 gray100 grey3 gray3 grey7 gray7 grey11 gray11 grey15 gray15 grey19 gray19 grey23 gray23",
    "grey27 gray27 grey30 gray30 grey35 gray35 grey39 gray39 grey42 gray42 grey46 gray46 grey50 gray50",
    "grey54 gray54 grey58 gray58 grey62 gray62 grey66 gray66 grey70 gray70 grey74 gray74 grey78 gray78",
    "grey82 gray82 grey85 gray85 grey89 gray89 grey93 gray93"]).map String.ofList

def lower (word : String) : String := String.ofList (Text.lower word.toList)

def inside? (opening : String) (word : List Char) : Option (List Char) :=
  if opening.toList.isPrefixOf word && word.getLast? = some ')' then
    some (word.drop opening.length).dropLast
  else .none

def readColor (word : String) : Except ColorFault String := do
  let name := lower word
  let s := name.toList
  if colorNames.contains name then return name
  if s.length = 7 && s.head? = some '#' && s.tail.all fun c => (Text.hexValue? c).isSome then return name
  match inside? "color(" s, inside? "rgb(" s with
  | some digits, _ =>
    if digits.isEmpty || 3 < digits.length || !digits.all Text.isAsciiDigit then throw (.unknown word)
    else if 255 < Text.decimalValue digits then throw (.number name)
    else return name
  | .none, some given =>
    if given.isEmpty || !given.all (fun c => c = ',' || (Text.digitValue? c).isSome) then
      throw (.unknown word)
    let parts := given.splitOn ','
    if parts.length ≠ 3 then throw (.components word)
    let numbers ← parts.mapM fun part =>
      (Whole.parse 10 (String.ofList part)).mapError ColorFault.unreadable
    if numbers.any (255 < ·) then throw (.component word) else return name
  | .none, .none => throw (.unknown word)

/-! ## Reading and writing -/

def put (style : Style) (name : String) (on : Bool) : Style :=
  { style with attributes := (name, on) :: style.attributes.filter (·.1 ≠ name) }

def addWords (style : Style) : List String → Except Fault Style
  | [] => .ok style
  | word :: rest =>
    let small := lower word
    if small = "on" then
      match rest with
      | [] => .error .noBackground
      | next :: more => match readColor next with
        | .ok name => addWords { style with background := some name } more
        | .error fault => .error (.background next fault)
    else if small = "not" then
      match rest with
      | [] => .error (.noAttribute "")
      | next :: more => match attribute? next with
        | some name => addWords (style.put name false) more
        | .none => .error (.noAttribute next)
    else if small = "link" then
      match rest with
      | [] => .error .noLink
      | next :: more => addWords { style with link := some next } more
    else match attribute? small with
      | some name => addWords (style.put name true) rest
      | .none => match readColor small with
        | .ok name => addWords { style with color := some name } rest
        | .error fault => .error (.color small fault)

def words (s : List Char) : List String :=
  ((s.splitOnP Text.isBlank).filter fun word => !word.isEmpty).map String.ofList

def parse (s : List Char) : Except Fault Style :=
  if Text.trim s = "none".toList then .ok none else addWords none (words s)

def text (style : Style) : String :=
  let attributes := attributeNames.filterMap fun (name, _) =>
    (style.attributes.lookup name).map fun on => if on then name else "not " ++ name
  let parts := attributes ++ style.color.toList ++ (style.background.map ("on " ++ ·)).toList ++
    (style.link.map ("link " ++ ·)).toList
  if parts.isEmpty then "none" else " ".intercalate parts

/-! ## Themes -/

def themeNames : List String :=
  (Text.Ranges.words [
    "success error warning info debug muted header subheader accent highlight link path version size",
    "reset bright strong code emphasize inspect.attr inspect.attr.dunder inspect.callable",
    "inspect.async_def inspect.def inspect.class inspect.error inspect.equals inspect.help inspect.doc",
    "inspect.value.border live.ellipsis layout.tree.row layout.tree.column logging.keyword",
    "logging.level.notset logging.level.debug logging.level.info logging.level.warning",
    "logging.level.error logging.level.critical log.level log.time log.message log.path repr.ellipsis",
    "repr.indent repr.error repr.str repr.brace repr.comma repr.ipv4 repr.ipv6 repr.eui48 repr.eui64",
    "repr.tag_start repr.tag_name repr.tag_contents repr.tag_end repr.attrib_name repr.attrib_equal",
    "repr.attrib_value repr.number repr.number_complex repr.bool_true repr.bool_false repr.none repr.url",
    "repr.uuid repr.call repr.path repr.filename rule.line rule.text json.brace json.bool_true",
    "json.bool_false json.null json.number json.str json.key prompt prompt.choices prompt.default",
    "prompt.invalid prompt.invalid.choice pretty scope.border scope.key scope.key.special scope.equals",
    "table.header table.footer table.cell table.title table.caption traceback.error",
    "traceback.border.syntax_error traceback.border traceback.text traceback.title traceback.exc_type",
    "traceback.exc_value traceback.offset bar.back bar.complete bar.finished bar.pulse",
    "progress.description progress.filesize progress.filesize.total progress.download progress.elapsed",
    "progress.percentage progress.remaining progress.data.speed progress.spinner status.spinner tree",
    "tree.line markdown.paragraph markdown.text markdown.em markdown.emph markdown.strong markdown.code",
    "markdown.code_block markdown.block_quote markdown.list markdown.item markdown.item.bullet",
    "markdown.item.number markdown.hr markdown.h1.border markdown.h1 markdown.h2 markdown.h3 markdown.h4",
    "markdown.h5 markdown.h6 markdown.h7 markdown.link markdown.link_url markdown.s iso8601.date",
    "iso8601.time iso8601.timezone traceback.note traceback.group.border markdown.table.border",
    "markdown.table.header"]).map String.ofList

def fault? (name : String) : Option Fault :=
  if themeNames.contains name then .none
  else match parse name.toList with
    | .ok _ => .none
    | .error fault => some fault

end Style

end PluginKit
