import BuildRepair.Text.Line
import BuildRepair.Text.Number

/-
  Styles of printed text by name. A style is a list of words: attributes, some with a short name,
  a color, `on` with the color behind the text, and `link` with an address. `normalName` writes a
  style in one order, so two names of one style become the same; other names are only put in small
  letters.
-/

namespace BuildRepair.Console

/-- The attributes in their order, each with its short name if it has one. -/
def attributes : List (String × Option String) := [
  ("bold", some "b"), ("dim", some "d"), ("italic", some "i"), ("underline", some "u"),
  ("blink", none), ("blink2", none), ("reverse", some "r"), ("conceal", some "c"),
  ("strike", some "s"), ("underline2", some "uu"), ("frame", none), ("encircle", none),
  ("overline", some "o")]

/-- The names of colors, between blanks. -/
def colorLines : List String := [
  "black red green yellow blue magenta cyan white bright_black bright_red bright_green",
  "bright_yellow bright_blue bright_magenta bright_cyan bright_white grey0 gray0 navy_blue",
  "dark_blue blue3 blue1 dark_green deep_sky_blue4 dodger_blue3 dodger_blue2 green4",
  "spring_green4 turquoise4 deep_sky_blue3 dodger_blue1 green3 spring_green3 dark_cyan",
  "light_sea_green deep_sky_blue2 deep_sky_blue1 spring_green2 cyan3 dark_turquoise turquoise2",
  "green1 spring_green1 medium_spring_green cyan2 cyan1 dark_red deep_pink4 purple4 purple3",
  "blue_violet orange4 grey37 gray37 medium_purple4 slate_blue3 royal_blue1 chartreuse4",
  "dark_sea_green4 pale_turquoise4 steel_blue steel_blue3 cornflower_blue chartreuse3 cadet_blue",
  "sky_blue3 steel_blue1 pale_green3 sea_green3 aquamarine3 medium_turquoise chartreuse2",
  "sea_green2 sea_green1 aquamarine1 dark_slate_gray2 dark_magenta dark_violet purple",
  "light_pink4 plum4 medium_purple3 slate_blue1 yellow4 wheat4 grey53 gray53 light_slate_grey",
  "light_slate_gray medium_purple light_slate_blue dark_olive_green3 dark_sea_green",
  "light_sky_blue3 sky_blue2 dark_sea_green3 dark_slate_gray3 sky_blue1 chartreuse1 light_green",
  "pale_green1 dark_slate_gray1 red3 medium_violet_red magenta3 dark_orange3 indian_red",
  "hot_pink3 medium_orchid3 medium_orchid medium_purple2 dark_goldenrod light_salmon3 rosy_brown",
  "grey63 gray63 medium_purple1 gold3 dark_khaki navajo_white3 grey69 gray69 light_steel_blue3",
  "light_steel_blue yellow3 dark_sea_green2 light_cyan3 light_sky_blue1 green_yellow",
  "dark_olive_green2 dark_sea_green1 pale_turquoise1 deep_pink3 magenta2 hot_pink2 orchid",
  "medium_orchid1 orange3 light_pink3 pink3 plum3 violet light_goldenrod3 tan misty_rose3",
  "thistle3 plum2 khaki3 light_goldenrod2 light_yellow3 grey84 gray84 light_steel_blue1 yellow2",
  "dark_olive_green1 honeydew2 light_cyan1 red1 deep_pink2 deep_pink1 magenta1 orange_red1",
  "indian_red1 hot_pink dark_orange salmon1 light_coral pale_violet_red1 orchid2 orchid1 orange1",
  "sandy_brown light_salmon1 light_pink1 pink1 plum1 gold1 navajo_white1 misty_rose1 thistle1",
  "yellow1 light_goldenrod1 khaki1 wheat1 cornsilk1 grey100 gray100 grey3 gray3 grey7 gray7",
  "grey11 gray11 grey15 gray15 grey19 gray19 grey23 gray23 grey27 gray27 grey30 gray30 grey35",
  "gray35 grey39 gray39 grey42 gray42 grey46 gray46 grey50 gray50 grey54 gray54 grey58 gray58",
  "grey62 gray62 grey66 gray66 grey70 gray70 grey74 gray74 grey78 gray78 grey82 gray82 grey85",
  "gray85 grey89 gray89 grey93 gray93"]

/-- The attribute that a word names. -/
def attribute? (word : List Char) : Option String :=
  let w := String.ofList word
  (attributes.find? fun a => a.1 == w || a.2 == some w).map (·.1)

/-- Whether a text is a number of up to three digits that is less than 256. -/
def isByteText (s : List Char) : Bool :=
  !s.isEmpty && s.length ≤ 3 && s.all Text.isAsciiDigit && Text.decimalValue s < 256

/-- The text between two others. -/
def between? (opening closing : String) (s : List Char) : Option (List Char) :=
  let inner := s.drop opening.length
  if opening.toList.isPrefixOf s && closing.toList.isSuffixOf inner then
    some (inner.take (inner.length - closing.length))
  else none

/-- Whether a word in small letters names a color: by its name, by six hexadecimal digits, by its
number or by its three parts. -/
def isColor (word : List Char) : Bool :=
  let isNamed := (colorLines.any fun line => (Text.splitOn ' ' line.toList).contains word)
  let isHex :=
    match word with
    | '#' :: digits =>
      digits.length == 6 && digits.all fun c => (Text.hexValue? c).isSome
    | _ => false
  let isNumber := (between? "color(" ")" word).any isByteText
  let isTriple := (between? "rgb(" ")" word).any fun s =>
    let parts := Text.splitOn ',' s
    parts.length == 3 && parts.all isByteText
  word == "default".toList || isNamed || isHex || isNumber || isTriple

/-- A style as it is read. -/
structure Style where
  /-- Attributes that are set or, with false, taken away; the last word on one counts. -/
  given : List (String × Bool) := []
  color : Option (List Char) := none
  behind : Option (List Char) := none
  link : Option (List Char) := none

/-- Reads the words of a style. -/
def Style.read (s : Style) : List (List Char) → Option Style
  | [] => some s
  | word :: rest =>
    let small := Text.lowerText word
    if small = "on".toList then
      match rest with
      | color :: rest =>
        let color := Text.lowerText color
        if isColor color then read { s with behind := some color } rest else none
      | [] => none
    else if small = "not".toList then
      match rest with
      | word :: rest =>
        match attribute? word with
        | some a => read { s with given := s.given ++ [(a, false)] } rest
        | none => none
      | [] => none
    else if small = "link".toList then
      match rest with
      | address :: rest => read { s with link := some address } rest
      | [] => none
    else
      match attribute? small with
      | some a => read { s with given := s.given ++ [(a, true)] } rest
      | none => if isColor small then read { s with color := some small } rest else none

/-- A style in words. -/
def Style.words (s : Style) : List (List Char) :=
  let ofAttribute (a : String) : List (List Char) :=
    match s.given.reverse.find? (·.1 == a) with
    | some (_, true) => [a.toList]
    | some (_, false) => ["not".toList, a.toList]
    | none => []
  attributes.flatMap (fun a => ofAttribute a.1) ++ s.color.toList ++
    s.behind.elim [] (fun color => ["on".toList, color]) ++
    s.link.elim [] fun address => ["link".toList, address]

/-- The pieces of a text between its blanks. -/
def wordsOf (s : List Char) : List (List Char) :=
  (Text.splitOn ' ' (s.map fun c => if Text.isBlank c then ' ' else c)).filter (· ≠ [])

/-- The name of a style in normal form; the style without words is `none`. -/
def normalName (name : List Char) : List Char :=
  let trimmed := Text.trim name
  if trimmed = "none".toList then trimmed
  else
    match Style.read {} (wordsOf trimmed) with
    | none => Text.lowerText trimmed
    | some s => if s.words = [] then "none".toList else Text.joinWith [' '] s.words

end BuildRepair.Console
