import Bindery.Display.Fault
import Bindery.Text.Blank
import Bindery.Text.Digit
import Bindery.Text.Lowercase

/-!
Contract: the names of text styles, and when two of them mean the same style.

Owns:
- the grammar: attributes, each with short names, colours by name or number, a colour behind the
  word for the background, a word that turns an attribute off, and a link;
- `normalise`, which puts the parts of a style in a fixed order with their long names. What is no
  style is left alone, except for its case and the blanks around it.

Nothing here is visible in plain output; the names only decide which tags belong together. A colour
by three numbers of which one is left out is no style but a fault.
-/

namespace Bindery.Display.StyleName

/-- The attributes in the order in which they are written. -/
def attributes : List String := [
  "bold", "dim", "italic", "underline", "blink", "blink2", "reverse", "conceal", "strike",
  "underline2", "frame", "encircle", "overline"]

def shortNames : List (String × String) := [
  ("d", "dim"), ("b", "bold"), ("i", "italic"), ("u", "underline"), ("r", "reverse"),
  ("c", "conceal"), ("s", "strike"), ("uu", "underline2"), ("o", "overline")]

def attributeOf (word : String) : Option String :=
  if attributes.contains word then some word else shortNames.lookup word

def colourNames : List String := [
  "black", "red", "green", "yellow", "blue", "magenta", "cyan", "white", "bright_black",
  "bright_red", "bright_green", "bright_yellow", "bright_blue", "bright_magenta", "bright_cyan",
  "bright_white", "grey0", "gray0", "navy_blue", "dark_blue", "blue3", "blue1", "dark_green",
  "deep_sky_blue4", "dodger_blue3", "dodger_blue2", "green4", "spring_green4", "turquoise4",
  "deep_sky_blue3", "dodger_blue1", "green3", "spring_green3", "dark_cyan", "light_sea_green",
  "deep_sky_blue2", "deep_sky_blue1", "spring_green2", "cyan3", "dark_turquoise", "turquoise2",
  "green1", "spring_green1", "medium_spring_green", "cyan2", "cyan1", "dark_red", "deep_pink4",
  "purple4", "purple3", "blue_violet", "orange4", "grey37", "gray37", "medium_purple4",
  "slate_blue3", "royal_blue1", "chartreuse4", "dark_sea_green4", "pale_turquoise4", "steel_blue",
  "steel_blue3", "cornflower_blue", "chartreuse3", "cadet_blue", "sky_blue3", "steel_blue1",
  "pale_green3", "sea_green3", "aquamarine3", "medium_turquoise", "chartreuse2", "sea_green2",
  "sea_green1", "aquamarine1", "dark_slate_gray2", "dark_magenta", "dark_violet", "purple",
  "light_pink4", "plum4", "medium_purple3", "slate_blue1", "yellow4", "wheat4", "grey53",
  "gray53", "light_slate_grey", "light_slate_gray", "medium_purple", "light_slate_blue",
  "dark_olive_green3", "dark_sea_green", "light_sky_blue3", "sky_blue2", "dark_sea_green3",
  "dark_slate_gray3", "sky_blue1", "chartreuse1", "light_green", "pale_green1",
  "dark_slate_gray1", "red3", "medium_violet_red", "magenta3", "dark_orange3", "indian_red",
  "hot_pink3", "medium_orchid3", "medium_orchid", "medium_purple2", "dark_goldenrod",
  "light_salmon3", "rosy_brown", "grey63", "gray63", "medium_purple1", "gold3", "dark_khaki",
  "navajo_white3", "grey69", "gray69", "light_steel_blue3", "light_steel_blue", "yellow3",
  "dark_sea_green2", "light_cyan3", "light_sky_blue1", "green_yellow", "dark_olive_green2",
  "dark_sea_green1", "pale_turquoise1", "deep_pink3", "magenta2", "hot_pink2", "orchid",
  "medium_orchid1", "orange3", "light_pink3", "pink3", "plum3", "violet", "light_goldenrod3",
  "tan", "misty_rose3", "thistle3", "plum2", "khaki3", "light_goldenrod2", "light_yellow3",
  "grey84", "gray84", "light_steel_blue1", "yellow2", "dark_olive_green1", "honeydew2",
  "light_cyan1", "red1", "deep_pink2", "deep_pink1", "magenta1", "orange_red1", "indian_red1",
  "hot_pink", "dark_orange", "salmon1", "light_coral", "pale_violet_red1", "orchid2", "orchid1",
  "orange1", "sandy_brown", "light_salmon1", "light_pink1", "pink1", "plum1", "gold1",
  "navajo_white1", "misty_rose1", "thistle1", "yellow1", "light_goldenrod1", "khaki1", "wheat1",
  "cornsilk1", "grey100", "gray100", "grey3", "gray3", "grey7", "gray7", "grey11", "gray11",
  "grey15", "gray15", "grey19", "gray19", "grey23", "gray23", "grey27", "gray27", "grey30",
  "gray30", "grey35", "gray35", "grey39", "gray39", "grey42", "gray42", "grey46", "gray46",
  "grey50", "gray50", "grey54", "gray54", "grey58", "gray58", "grey62", "gray62", "grey66",
  "gray66", "grey70", "gray70", "grey74", "gray74", "grey78", "gray78", "grey82", "gray82",
  "grey85", "gray85", "grey89", "gray89", "grey93", "gray93"]

/-- The digits between the opening and the closing of a numbered colour. -/
def inside (opening : String) (word : List Char) : Option (List Char) :=
  if opening.toList.isPrefixOf word && word.getLast? = some ')' then
    some (word.drop opening.length).dropLast
  else none

/-- The value of a decimal digit of any script. -/
def digitValue (c : Char) : Nat :=
  match Text.digitZeros.find? fun start => start ≤ c.toNat && c.toNat < start + 10 with
  | some start => c.toNat - start
  | none => 0

def readNumber (digits : List Char) : Except DisplayFault Nat :=
  if digits.isEmpty then .error .emptyNumber
  else if Number.digitLimit < digits.length then .error (.tooManyDigits digits.length)
  else .ok (digits.foldl (fun total c => total * 10 + digitValue c) 0)

def splitCommas : List Char → List (List Char)
  | [] => [[]]
  | c :: rest =>
      if c = ',' then [] :: splitCommas rest
      else
        match splitCommas rest with
        | [] => [[c]]
        | part :: parts => (c :: part) :: parts

/-- A hexadecimal digit in small letters. -/
def isHexDigit (c : Char) : Bool :=
  c.isDigit || ('a' ≤ c && c ≤ 'f')

/-- Whether what stands between the brackets of a colour by three numbers is such a colour. -/
def isTriple (content : List Char) : Except DisplayFault Bool :=
  let parts := splitCommas content
  if !content.isEmpty && content.all (fun c => c = ',' || Text.isDecimalDigit c) &&
      parts.length = 3 then
    (parts.mapM readNumber).map fun numbers => numbers.all (· ≤ 255)
  else .ok false

/-- Whether a word in small letters is a colour. -/
def isColour (word : String) : Except DisplayFault Bool :=
  let chars := word.toList
  if word = "default" || colourNames.contains word then .ok true
  else
    match chars, inside "color(" chars, inside "rgb(" chars with
    | '#' :: digits, _, _ => .ok (digits.length = 6 && digits.all isHexDigit)
    | _, some digits, _ =>
        .ok (!digits.isEmpty && digits.length ≤ 3 && digits.all Char.isDigit &&
          digits.foldl (fun total c => total * 10 + digitValue c) 0 ≤ 255)
    | _, _, some content => isTriple content
    | _, _, _ => .ok false

/-- A style as it is read: what was said of attributes, last word first, the two colours and the
link. -/
structure Style where
  said : List (String × Bool)
  colour : Option String
  background : Option String
  link : Option String
deriving DecidableEq, Repr

def Style.plain : Style := ⟨[], none, none, none⟩

def readWords : Style → List String → Except DisplayFault (Option Style)
  | style, [] => .ok (some style)
  | style, first :: rest =>
      let word := Text.lower first
      if word = "on" then
        match rest with
        | colour :: more => do
            let name := Text.lower colour
            if ← isColour name then readWords { style with background := some name } more
            else return none
        | [] => .ok none
      else if word = "not" then
        match rest with
        | named :: more =>
            match attributeOf named with
            | some name => readWords { style with said := (name, false) :: style.said } more
            | none => .ok none
        | [] => .ok none
      else if word = "link" then
        match rest with
        | target :: more => readWords { style with link := some target } more
        | [] => .ok none
      else
        match attributeOf word with
        | some name => readWords { style with said := (name, true) :: style.said } rest
        | none => do
            if ← isColour word then readWords { style with colour := some word } rest
            else return none

/-- Cuts a text at blanks, `word` being the one begun. -/
def splitBlanksFrom : (word : List Char) → List Char → List (List Char)
  | word, [] => if word.isEmpty then [] else [word]
  | word, c :: rest =>
      if Text.isBlank c then
        if word.isEmpty then splitBlanksFrom [] rest else word :: splitBlanksFrom [] rest
      else splitBlanksFrom (word ++ [c]) rest

def splitBlanks (text : List Char) : List (List Char) :=
  splitBlanksFrom [] text

/-- The words of a style in their fixed order. -/
def Style.words (style : Style) : List String :=
  let shown := attributes.filterMap fun name =>
    (style.said.lookup name).map fun state => if state then name else "not " ++ name
  let colour := style.colour.toList
  let background := (style.background.map fun name => ["on", name]).getD []
  let link := (style.link.map fun target => ["link", target]).getD []
  shown ++ colour ++ background ++ link

def Style.render (style : Style) : String :=
  let words := style.words
  if words.isEmpty then "none" else " ".intercalate words

def read (name : List Char) : Except DisplayFault (Option Style) :=
  if Text.trim name = "none".toList then .ok (some .plain)
  else readWords .plain ((splitBlanks name).map String.ofList)

def normalise (name : List Char) : Except DisplayFault String :=
  (read name).map fun style =>
    match style with
    | some style => style.render
    | none => Text.lower (String.ofList (Text.trim name))

end Bindery.Display.StyleName
