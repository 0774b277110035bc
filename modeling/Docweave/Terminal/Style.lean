import Docweave.Text.Case
import Docweave.Text.Space
import Docweave.Text.Word
import Docweave.Value.Numeral

/-!
# Styles

A style is named by words: attributes such as `bold`, which may be denied by `not`, a colour, a colour behind
`on` for the background, and a target behind `link`. Two names that mean the same style have one normal form, by
which a tag is closed. A name that means no style stands for itself.
-/

namespace Docweave.Terminal

/-- Why a text names no style: it is not written as one, or a colour lacks one of its numbers. -/
inductive StyleError where
  | malformed
  | missingNumber
  deriving DecidableEq, Repr

/-- A style: the attributes that are set or denied, colours and a target. -/
structure Style where
  attributes : List (Text × Bool) := []
  color : Option Text := none
  background : Option Text := none
  target : Option Text := none

namespace Style

/-- The names of attributes, in the order in which they are written. -/
def attributeNames : List Text :=
  ["bold", "dim", "italic", "underline", "blink", "blink2", "reverse", "conceal", "strike", "underline2", "frame",
    "encircle", "overline"]

/-- Short names of attributes. -/
def shortNames : List (Text × Text) :=
  [("d", "dim"), ("b", "bold"), ("i", "italic"), ("u", "underline"), ("r", "reverse"), ("c", "conceal"),
    ("s", "strike"), ("uu", "underline2"), ("o", "overline")]

/-- The attribute that a word names. -/
def attribute? (word : Text) : Option Text :=
  if word ∈ attributeNames then some word else shortNames.lookup word

/-- The names of colours, with white space between them. -/
def colorNames : String :=
  "black red green yellow blue magenta cyan white bright_black bright_red bright_green bright_yellow
  bright_blue bright_magenta bright_cyan bright_white grey0 gray0 navy_blue dark_blue blue3 blue1
  dark_green deep_sky_blue4 dodger_blue3 dodger_blue2 green4 spring_green4 turquoise4 deep_sky_blue3
  dodger_blue1 green3 spring_green3 dark_cyan light_sea_green deep_sky_blue2 deep_sky_blue1 spring_green2
  cyan3 dark_turquoise turquoise2 green1 spring_green1 medium_spring_green cyan2 cyan1 dark_red
  deep_pink4 purple4 purple3 blue_violet orange4 grey37 gray37 medium_purple4 slate_blue3 royal_blue1
  chartreuse4 dark_sea_green4 pale_turquoise4 steel_blue steel_blue3 cornflower_blue chartreuse3
  cadet_blue sky_blue3 steel_blue1 pale_green3 sea_green3 aquamarine3 medium_turquoise chartreuse2
  sea_green2 sea_green1 aquamarine1 dark_slate_gray2 dark_magenta dark_violet purple light_pink4 plum4
  medium_purple3 slate_blue1 yellow4 wheat4 grey53 gray53 light_slate_grey light_slate_gray medium_purple
  light_slate_blue dark_olive_green3 dark_sea_green light_sky_blue3 sky_blue2 dark_sea_green3
  dark_slate_gray3 sky_blue1 chartreuse1 light_green pale_green1 dark_slate_gray1 red3 medium_violet_red
  magenta3 dark_orange3 indian_red hot_pink3 medium_orchid3 medium_orchid medium_purple2 dark_goldenrod
  light_salmon3 rosy_brown grey63 gray63 medium_purple1 gold3 dark_khaki navajo_white3 grey69 gray69
  light_steel_blue3 light_steel_blue yellow3 dark_sea_green2 light_cyan3 light_sky_blue1 green_yellow
  dark_olive_green2 dark_sea_green1 pale_turquoise1 deep_pink3 magenta2 hot_pink2 orchid medium_orchid1
  orange3 light_pink3 pink3 plum3 violet light_goldenrod3 tan misty_rose3 thistle3 plum2 khaki3
  light_goldenrod2 light_yellow3 grey84 gray84 light_steel_blue1 yellow2 dark_olive_green1 honeydew2
  light_cyan1 red1 deep_pink2 deep_pink1 magenta1 orange_red1 indian_red1 hot_pink dark_orange salmon1
  light_coral pale_violet_red1 orchid2 orchid1 orange1 sandy_brown light_salmon1 light_pink1 pink1 plum1
  gold1 navajo_white1 misty_rose1 thistle1 yellow1 light_goldenrod1 khaki1 wheat1 cornsilk1 grey100
  gray100 grey3 gray3 grey7 gray7 grey11 gray11 grey15 gray15 grey19 gray19 grey23 gray23 grey27 gray27
  grey30 gray30 grey35 gray35 grey39 gray39 grey42 gray42 grey46 gray46 grey50 gray50 grey54 gray54
  grey58 gray58 grey62 gray62 grey66 gray66 grey70 gray70 grey74 gray74 grey78 gray78 grey82 gray82
  grey85 gray85 grey89 gray89 grey93 gray93"

/-- What stands between a lead and a closing parenthesis. -/
def inParentheses? (lead text : Text) : Option Text := do
  let inner ← Text.after? (lead ++ "(") text
  if inner.getLast? = some ')' then some inner.dropLast else none

/-- Whether a text is a small decimal number of at most three ASCII digits. -/
def isPaletteNumber (text : Text) : Bool :=
  text.all Char.isDigit && 1 ≤ text.length && text.length ≤ 3 && Numeral.ofDigits 10 text ≤ 255

/-- Check that the three parts of a colour are given and are not too large. -/
def checkParts (inner : Text) : Except StyleError Unit :=
  let parts := Text.splitChar ',' inner
  if parts.length ≠ 3 then .error .malformed
  else if parts.any List.isEmpty then .error .missingNumber
  else if parts.all fun part => Numeral.ofDigits 10 (part.map Numeral.plainDigit) ≤ 255 then .ok ()
  else .error .malformed

/-- Read the name of a colour: one of the names that are known, six hexadecimal digits behind a `#`, the number of
a colour, or its three parts. -/
def readColor (word : Text) : Except StyleError Text := do
  let name := Text.strip (Text.lower word)
  if name = "default".toList ∨ name ∈ Text.words colorNames then return name
  if let '#' :: digits := name then
    if digits.length = 6 ∧ digits.all fun digit => digit.isDigit || ('a' ≤ digit && digit ≤ 'f') then return name
  if ((inParentheses? "color" name).any isPaletteNumber) then return name
  match inParentheses? "rgb" name with
  | some inner =>
    if inner.isEmpty || !inner.all fun char => Text.isDigit char || char == ',' then throw .malformed
    checkParts inner
    return name
  | none => throw .malformed

/-- The words that take the word behind them with them. -/
inductive Lead where
  | background
  | denied
  | target
  deriving DecidableEq, Repr

/-- The lead that a word is. -/
def lead? (word : Text) : Option Lead :=
  [(("on" : Text), Lead.background), ("not", .denied), ("link", .target)].lookup (Text.lower word)

/-- Set what a lead and the word behind it ask for. -/
def withPair (style : Style) (word : Text) : Lead → Except StyleError Style
  | .background => do return { style with background := some (← readColor word) }
  | .target => .ok { style with target := some word }
  | .denied =>
    match attribute? word with
    | some name => .ok { style with attributes := (name, false) :: style.attributes }
    | none => .error .malformed

/-- Set what a single word asks for. -/
def withWord (style : Style) (word : Text) : Except StyleError Style :=
  match attribute? (Text.lower word) with
  | some name => .ok { style with attributes := (name, true) :: style.attributes }
  | none => do return { style with color := some (← readColor word) }

/-- Read the words of a style. `lead` is the word before them if it takes one of them with it. -/
def readWords (style : Style) (lead : Option Lead) : List Text → Except StyleError Style
  | [] => if lead.isNone then .ok style else .error .malformed
  | word :: rest =>
    match lead, lead? word with
    | some lead, _ => do readWords (← style.withPair word lead) none rest
    | none, some lead => readWords style (some lead) rest
    | none, none => do readWords (← style.withWord word) none rest

/-- Read a style. The word `none` alone names the style that changes nothing. -/
def read (text : Text) : Except StyleError Style :=
  if Text.strip text = "none".toList then .ok {} else readWords {} none (Text.words text)

/-- The words of a style, in a fixed order. -/
def written (style : Style) : Text :=
  let attributes := attributeNames.filterMap fun (name : Text) =>
    (style.attributes.lookup name).map fun isSet => if isSet then name else "not ".toList ++ name
  let words := attributes ++ style.color.toList ++ (style.background.map ("on ".toList ++ ·)).toList
    ++ (style.target.map ("link ".toList ++ ·)).toList
  if words.isEmpty then "none" else Text.join [' '] words

/-- The normal form of the name of a style. -/
def normalName (name : Text) : Except StyleError Text :=
  match read name with
  | .ok style => .ok style.written
  | .error .malformed => .ok (Text.lower (Text.strip name))
  | .error error => .error error

end Style

end Docweave.Terminal
