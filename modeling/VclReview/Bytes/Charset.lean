/-
  VclReview/Bytes/Charset.lean
  ============================
  **Character encodings and their names.**  A name is looked up without regard to
  case, and any run of characters other than ASCII letters, digits and points
  counts as one separator, so that `ISO-8859-1` and `iso 8859_1` are one name.
  Every encoding has a name of its own and aliases; in an alias a point counts as
  a separator too.
-/
import VclReview.Bytes.Reading
import VclReview.Bytes.Utf16
import VclReview.Bytes.CodePage

namespace VclReview

/-- The character encodings that can be read. -/
inductive Charset where
  | utf8
  | utf8Marked
  | utf16
  | utf16Ordered (order : Utf16.ByteOrder)
  | ascii
  | latin1
  | windows1251
  | windows1252
  deriving DecidableEq

namespace Charset

/-- The text that the data encodes. -/
def decode? : Charset → Bytes → Option Text
  | utf8, data => Utf8.decode? data
  | utf8Marked, 0xEF :: 0xBB :: 0xBF :: rest => Utf8.decode? rest
  | utf8Marked, data => Utf8.decode? data
  | utf16, data => Utf16.decodeMarked? data
  | utf16Ordered order, data => Utf16.decode? order data
  | ascii, data => data.mapM CodePage.ascii?
  | latin1, data => data.mapM CodePage.latin1?
  | windows1251, data => data.mapM CodePage.windows1251?
  | windows1252, data => data.mapM CodePage.windows1252?

/-- Whether the character belongs to the words of an encoding's name. -/
def isNameChar (c : Char) : Bool := c.isAlphanum || c == '.'

/-- The name in lower case, its words separated by single underscores. -/
def canonicalName (name : Text) : Text :=
  List.intercalate ['_'] (Text.pieces (!isNameChar ·) (name.map Char.toLower))

/-- The name of each encoding. -/
def names : List (Text × Charset) :=
  [("utf_8", utf8), ("utf_8_sig", utf8Marked), ("utf_16", utf16),
   ("utf_16_le", utf16Ordered .little), ("utf_16_be", utf16Ordered .big), ("ascii", ascii),
   ("latin_1", latin1), ("cp1251", windows1251), ("cp1252", windows1252)]

/-- The aliases of each encoding. -/
def aliases : List (Charset × List Text) :=
  [(utf8, ["utf8", "u8", "utf", "utf8_ucs2", "utf8_ucs4", "cp65001"]),
   (utf16, ["utf16", "u16"]),
   (utf16Ordered .little, ["utf_16le", "unicodelittleunmarked"]),
   (utf16Ordered .big, ["utf_16be", "unicodebigunmarked"]),
   (ascii,
    ["us_ascii", "us", "646", "iso646_us", "iso_646.irv_1991", "iso_ir_6", "cp367", "ibm367",
     "csascii", "ansi_x3.4_1968", "ansi_x3_4_1968", "ansi_x3.4_1986"]),
   (latin1,
    ["latin1", "latin", "l1", "8859", "iso8859", "iso8859_1", "iso_8859_1", "iso_8859_1_1987",
     "iso_ir_100", "cp819", "ibm819", "csisolatin1"]),
   (windows1251, ["windows_1251", "1251"]),
   (windows1252, ["windows_1252", "1252"])]

/-- The encoding with the given alias. -/
def aliased? (name : Text) : Option Charset := (aliases.find? (·.2.elem name)).map (·.1)

/-- The name with every point made a separator. -/
def withoutPoints (name : Text) : Text := name.map fun c => if c = '.' then '_' else c

/-- The encoding with the given name. -/
def named? (name : Text) : Option Charset :=
  let name := canonicalName name
  aliased? name <|> aliased? (withoutPoints name) <|> names.lookup name

end Charset

/-- The reader that knows these encodings and takes all data to be in the given one,
    if any, on a machine that never runs out of memory. -/
def TextReader.guessing (detected : Option Text) : TextReader where
  detect _ := detected
  decode name data := .ok ((Charset.named? name).bind (Charset.decode? · data))
  affords _ := true
  affords_usual _ _ := rfl

end VclReview
