import Supergraph.Text.Pattern

/-!
# Tags

A tag tells what a node means. A scalar that is written without quotes means a text only if nothing
else claims it: truth values, integers, floating-point numbers, null, dates and a few marks are
recognised by their form. The forms are those of YAML 1.1.

## Main definitions

* `Tag` — what a node means
* `Tag.ofPlain` — what a scalar without quotes means
* `Tag.ofName` — the tag of a full name
-/

namespace Supergraph.Yaml

open Text (Pattern)

/-- What a node means: a scalar, a collection, or the entries or the value of the mapping around
it. -/
inductive Tag where
  | text
  | null
  | bool
  | int
  | float
  | timestamp
  | binary
  | merge
  | value
  | sequence
  | mapping
  | set
  /-- A sequence of mappings with one entry each, which means pairs. -/
  | pairs
  /-- A tag that nothing is known of. -/
  | other
  deriving DecidableEq, Repr, Inhabited

namespace Tag

/-- A digit from `0` to `9`. -/
def digit : Pattern := .one Char.isDigit

/-- Digits and underscores, perhaps none. -/
def looseDigits : Pattern := .star (.one fun c => c.isDigit || c == '_')

/-- A sign or nothing. -/
def sign : Pattern := .opt (.oneOf "-+")

/-- Sixtieths: a colon and a number below sixty, once or more often. -/
def sixtieths : Pattern :=
  .plus (.all [.oneOf ":", .opt (.oneOf "012345"), digit])

/-- The texts of the truth values. -/
def boolPattern : Pattern :=
  .anyOf ["yes", "Yes", "YES", "no", "No", "NO", "true", "True", "TRUE", "false", "False", "FALSE",
    "on", "On", "ON", "off", "Off", "OFF"]

/-- The exponent of a floating-point number, which needs its sign. -/
def exponentPattern : Pattern :=
  .all [.oneOf "eE", .oneOf "-+", .plus digit]

/-- The texts of the floating-point numbers: all have a point. -/
def floatPattern : Pattern :=
  .alt (.all [sign, digit, looseDigits, .oneOf ".", looseDigits, .opt exponentPattern])
    (.alt (.all [.oneOf ".", digit, looseDigits, .opt exponentPattern])
      (.alt (.all [sign, digit, looseDigits, sixtieths, .oneOf ".", looseDigits])
        (.alt (.all [sign, .oneOf ".", .anyOf ["inf", "Inf", "INF"]])
          (.all [.oneOf ".", .anyOf ["nan", "NaN", "NAN"]]))))

/-- The texts of the integers: binary, octal, decimal, hexadecimal and sexagesimal ones. -/
def intPattern : Pattern :=
  .alt (.all [sign, .word "0b", .plus (.oneOf "01_")])
    (.alt (.all [sign, .word "0", .plus (.oneOf "01234567_")])
      (.alt (.all [sign, .alt (.word "0") (.all [.oneOf "123456789", looseDigits])])
        (.alt (.all [sign, .word "0x", .plus (.oneOf "0123456789abcdefABCDEF_")])
          (.all [sign, .oneOf "123456789", looseDigits, sixtieths]))))

/-- The texts of null. -/
def nullPattern : Pattern :=
  .anyOf ["~", "null", "Null", "NULL", ""]

/-- A run of spaces and tabs. -/
def spaces : Pattern := .star (.oneOf " \t")

/-- Two digits. -/
def twoDigits : Pattern := .all [digit, digit]

/-- One digit or two. -/
def oneOrTwoDigits : Pattern := .all [digit, .opt digit]

/-- A date, or a date with a time of day and perhaps a zone. -/
def timestampPattern : Pattern :=
  let year := Pattern.all [twoDigits, twoDigits]
  .alt (.all [year, .oneOf "-", twoDigits, .oneOf "-", twoDigits])
    (.all [year, .oneOf "-", oneOrTwoDigits, .oneOf "-", oneOrTwoDigits,
      .alt (.oneOf "Tt") (.plus (.oneOf " \t")), oneOrTwoDigits, .oneOf ":", twoDigits, .oneOf ":",
      twoDigits, .opt (.all [.oneOf ".", .star digit]),
      .opt (.all [spaces, .alt (.oneOf "Z")
        (.all [.oneOf "-+", oneOrTwoDigits, .opt (.all [.oneOf ":", twoDigits])])])])

/-- The forms in the order in which they are tried. -/
def forms : List (Pattern × Tag) :=
  [(boolPattern, bool), (floatPattern, float), (intPattern, int), (.word "<<", merge),
    (nullPattern, null), (timestampPattern, timestamp), (.word "=", value),
    (.anyOf ["!", "&", "*"], other)]

/-- A nonempty text without the line feed that ends it, if one does. -/
def withoutLineFeed (cs : List Char) : List Char :=
  if 1 < cs.length ∧ cs.getLast? = some '\n' then cs.dropLast else cs

/-- What a scalar without quotes means. One line feed may end it. -/
def ofPlain (cs : List Char) : Tag :=
  ((forms.find? fun form => form.1.accepts (withoutLineFeed cs)).map Prod.snd).getD text

/-- What every tag of YAML itself begins with. -/
def standardStem : String := "tag:yaml.org,2002:"

/-- The tags of YAML itself by their names. -/
def standardNames : List (String × Tag) :=
  [("str", text), ("null", null), ("bool", bool), ("int", int), ("float", float),
    ("timestamp", timestamp), ("binary", binary), ("merge", merge), ("value", value),
    ("seq", sequence), ("map", mapping), ("set", set), ("omap", pairs), ("pairs", pairs)]

/-- The tag of a full name. -/
def ofName (name : String) : Tag :=
  ((standardNames.find? fun t => standardStem ++ t.1 = name).map Prod.snd).getD other

end Tag

end Supergraph.Yaml
