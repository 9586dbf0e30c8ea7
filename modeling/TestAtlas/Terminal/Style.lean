import TestAtlas.Data.Numeral
import TestAtlas.Text.Casing

/-!
Names of text styles. Only the name matters where nothing is coloured: two
names stand for the same style when their normal forms agree.
-/

namespace TestAtlas
namespace Terminal

namespace Style

/-- The attributes with the other words for them, in the order of the normal form. -/
def attributes : List (String × List String) := [
  ("bold", ["b"]), ("dim", ["d"]), ("italic", ["i"]), ("underline", ["u"]), ("blink", []),
  ("blink2", []), ("reverse", ["r"]), ("conceal", ["c"]), ("strike", ["s"]),
  ("underline2", ["uu"]), ("frame", []), ("encircle", []), ("overline", ["o"])]

def attribute? (word : String) : Option String :=
  (attributes.find? fun a => a.1 == word || a.2.contains word).map (·.1)

/-- The colours that have names. -/
def colors : List String := [
  "black", "red", "green", "yellow", "blue", "magenta", "cyan", "white", "bright_black",
  "bright_red", "bright_green", "bright_yellow", "bright_blue", "bright_magenta", "bright_cyan",
  "bright_white", "grey0", "gray0", "navy_blue", "dark_blue", "blue3", "blue1", "dark_green",
  "deep_sky_blue4", "dodger_blue3", "dodger_blue2", "green4", "spring_green4", "turquoise4",
  "deep_sky_blue3", "dodger_blue1", "green3", "spring_green3", "dark_cyan", "light_sea_green",
  "deep_sky_blue2", "deep_sky_blue1", "spring_green2", "cyan3", "dark_turquoise", "turquoise2",
  "green1", "spring_green1", "medium_spring_green", "cyan2", "cyan1", "dark_red", "deep_pink4",
  "purple4", "purple3", "blue_violet", "orange4", "grey37", "gray37", "medium_purple4",
  "slate_blue3", "royal_blue1", "chartreuse4", "dark_sea_green4", "pale_turquoise4", "steel_blue",
  "steel_blue3", "cornflower_blue", "chartreuse3", "cadet_blue", "sky_blue3", "steel_blue1",
  "pale_green3", "sea_green3", "aquamarine3", "medium_turquoise", "chartreuse2", "sea_green2",
  "sea_green1", "aquamarine1", "dark_slate_gray2", "dark_magenta", "dark_violet", "purple",
  "light_pink4", "plum4", "medium_purple3", "slate_blue1", "yellow4", "wheat4", "grey53", "gray53",
  "light_slate_grey", "light_slate_gray", "medium_purple", "light_slate_blue", "dark_olive_green3",
  "dark_sea_green", "light_sky_blue3", "sky_blue2", "dark_sea_green3", "dark_slate_gray3",
  "sky_blue1", "chartreuse1", "light_green", "pale_green1", "dark_slate_gray1", "red3",
  "medium_violet_red", "magenta3", "dark_orange3", "indian_red", "hot_pink3", "medium_orchid3",
  "medium_orchid", "medium_purple2", "dark_goldenrod", "light_salmon3", "rosy_brown", "grey63",
  "gray63", "medium_purple1", "gold3", "dark_khaki", "navajo_white3", "grey69", "gray69",
  "light_steel_blue3", "light_steel_blue", "yellow3", "dark_sea_green2", "light_cyan3",
  "light_sky_blue1", "green_yellow", "dark_olive_green2", "dark_sea_green1", "pale_turquoise1",
  "deep_pink3", "magenta2", "hot_pink2", "orchid", "medium_orchid1", "orange3", "light_pink3",
  "pink3", "plum3", "violet", "light_goldenrod3", "tan", "misty_rose3", "thistle3", "plum2",
  "khaki3", "light_goldenrod2", "light_yellow3", "grey84", "gray84", "light_steel_blue1",
  "yellow2", "dark_olive_green1", "honeydew2", "light_cyan1", "red1", "deep_pink2", "deep_pink1",
  "magenta1", "orange_red1", "indian_red1", "hot_pink", "dark_orange", "salmon1", "light_coral",
  "pale_violet_red1", "orchid2", "orchid1", "orange1", "sandy_brown", "light_salmon1",
  "light_pink1", "pink1", "plum1", "gold1", "navajo_white1", "misty_rose1", "thistle1", "yellow1",
  "light_goldenrod1", "khaki1", "wheat1", "cornsilk1", "grey100", "gray100", "grey3", "gray3",
  "grey7", "gray7", "grey11", "gray11", "grey15", "gray15", "grey19", "gray19", "grey23", "gray23",
  "grey27", "gray27", "grey30", "gray30", "grey35", "gray35", "grey39", "gray39", "grey42",
  "gray42", "grey46", "gray46", "grey50", "gray50", "grey54", "gray54", "grey58", "gray58",
  "grey62", "gray62", "grey66", "gray66", "grey70", "gray70", "grey74", "gray74", "grey78",
  "gray78", "grey82", "gray82", "grey85", "gray85", "grey89", "gray89", "grey93", "gray93"]

def isHexDigit (c : Char) : Bool := c.isDigit || ('a' ≤ c && c ≤ 'f')

def number (digits : List Char) : Nat := digits.foldl (fun n c => n * 10 + (c.toNat - 48)) 0

/-- What stands between a word with an opening bracket and the closing one. -/
def argument? (word text : List Char) : Option (List Char) :=
  if word.isPrefixOf text && text.getLast? = some ')' then
    some ((text.drop word.length).dropLast)
  else none

def isNumbered (text : List Char) : Bool :=
  (argument? "color(".toList text).any fun digits =>
    !digits.isEmpty && digits.length ≤ 3 && digits.all Char.isDigit && number digits ≤ 255

/-- Why words are no style. -/
inductive Problem where
  | notAStyle
  /-- A part of a mixed colour is no number. -/
  | number (problem : Numeral.Problem)
  deriving DecidableEq, Repr

/-- The shares of a mixed colour, if the text consists of digits and commas. -/
def shares? (text : List Char) : Option (List (List Char)) :=
  match argument? "rgb(".toList text with
  | none => none
  | some shares =>
      if !shares.isEmpty && shares.all fun c => Numeral.isDigit c || c == ',' then
        some (shares.splitOn ',')
      else none

/-- Checks a mixed colour: three numbers that are not too large. -/
def checkMixed (text : List Char) : Except Problem Unit :=
  match shares? text with
  | none => .error .notAStyle
  | some shares =>
      if shares.length ≠ 3 then .error .notAStyle
      else
        match shares.mapM fun share => Numeral.read (String.ofList share) with
        | .error problem => .error (.number problem)
        | .ok numbers => if numbers.all (· ≤ 255) then .ok () else .error .notAStyle

/-- Whether a word in small letters is a colour by its name or its number. -/
def isColor (word : String) : Bool :=
  word == "default" || colors.contains word ||
    match word.toList with
    | '#' :: digits => digits.length == 6 && digits.all isHexDigit
    | text => isNumbered text

/-- Checks that a word in small letters is a colour. -/
def checkColor (word : String) : Except Problem Unit :=
  if isColor word then .ok () else checkMixed word.toList

/-- What a style sets. -/
structure Setting where
  attributes : List (String × Bool) := []
  color? : Option String := none
  background? : Option String := none
  link? : Option String := none

namespace Setting

/-- Reads words into a setting. -/
def ofWords (setting : Setting) : List String → Except Problem Setting
  | [] => .ok setting
  | word :: rest =>
      let small := Casing.lower word
      if small = "on" || small = "not" || small = "link" then
        match rest with
        | [] => .error .notAStyle
        | next :: others =>
            if small = "on" then do
              let color := Casing.lower next
              checkColor color
              { setting with background? := some color }.ofWords others
            else if small = "not" then
              match attribute? next with
              | none => .error .notAStyle
              | some name =>
                  { setting with attributes := (name, false) :: setting.attributes }.ofWords others
            else { setting with link? := some next }.ofWords others
      else
        match attribute? small with
        | some name =>
            { setting with attributes := (name, true) :: setting.attributes }.ofWords rest
        | none => do
            checkColor small
            { setting with color? := some small }.ofWords rest

/-- The words of a setting in their normal order; the last word on an attribute counts. -/
def words (setting : Setting) : List String :=
  (Style.attributes.filterMap fun a =>
      (setting.attributes.find? fun s => s.1 == a.1).map fun s =>
        if s.2 then a.1 else "not " ++ a.1)
    ++ setting.color?.toList
    ++ (setting.background?.map ("on " ++ ·)).toList
    ++ (setting.link?.map ("link " ++ ·)).toList

end Setting

/-- The words of a name. -/
def wordsOf (name : List Char) : List String :=
  (name.splitOnP Blank.isBlank).filter (!·.isEmpty) |>.map String.ofList

/-- The normal form of a style's name. A name that does not describe a style has blanks at its
ends and capital letters removed only. -/
def normalize (name : List Char) : Except Numeral.Problem (List Char) :=
  let words := wordsOf name
  if words.isEmpty || words = ["none"] then .ok "none".toList
  else
    match Setting.ofWords {} words with
    | .ok setting =>
        if setting.words.isEmpty then .ok "none".toList
        else .ok (String.intercalate " " setting.words).toList
    | .error .notAStyle =>
        .ok (Casing.lower (String.ofList (Blank.trim Blank.isBlank name))).toList
    | .error (.number problem) => .error problem

/-- Applies a style, which is left out if its name does not describe one. -/
def apply (name : List Char) : Except Numeral.Problem Unit :=
  match Setting.ofWords {} (wordsOf name) with
  | .error (.number problem) => .error problem
  | _ => .ok ()

end Style
end Terminal
end TestAtlas
