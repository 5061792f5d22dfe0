/-
  VclReview/Bytes/Reading.lean
  ============================
  **Reading a file as text.**  At most a given number of bytes is read, in two
  steps: a head of up to 4096 bytes and then the rest.  Data that looks binary,
  in its head or as a whole, is not text.  Text is taken to be UTF-8, or else to
  be in the encoding that a detector names.

  What reading relies on is a `TextReader`: the detector, the encodings that can be
  looked up, and the memory of the machine.
-/
import VclReview.Bytes.Utf8
import VclReview.Text.Letter

namespace VclReview

/-- Why reading goes wrong, apart from the file. -/
inductive ReadError where
  /-- The number of bytes asked for is below minus one. -/
  | negativeLength
  /-- The number of bytes asked for has more than 64 bits. -/
  | unfitLength
  /-- No data can have the number of bytes asked for. -/
  | excessiveLength
  /-- There is no memory for the number of bytes asked for. -/
  | noMemory
  /-- The name of the detected encoding holds the character zero. -/
  | nulInCharset
  /-- The detected encoding gives neither a text nor up, but fails in its own way. -/
  | encoding (message : Text)
  deriving DecidableEq

def ReadError.message : ReadError → Text
  | .negativeLength => "read length must be non-negative or -1"
  | .unfitLength => "cannot fit 'int' into an index-sized integer"
  | .excessiveLength => "byte string is too large"
  | .noMemory => ""
  | .nulInCharset => "embedded null character"
  | .encoding message => message

namespace Bytes

/-- The number of bytes read from a file unless another limit is given. -/
def usualLimit : Int := 20000000

end Bytes

/-- What reading a text relies on. -/
structure TextReader (α : Type := Char) where
  /-- Names the encoding that some data seems to be in, or none. -/
  detect : Bytes → Option Text
  /-- The text of data in the encoding with the given name.  There is none if no
      encoding has that name or the data does not fit it; an encoding that fails in
      any other way gives a message. -/
  decode : Text → Bytes → Except Text (Option (List α))
  /-- Whether there is memory for so many bytes. -/
  affords : Int → Bool
  /-- There is memory for what is read from a file unless another limit is given. -/
  affords_usual : ∀ count, count ≤ Bytes.usualLimit → affords count = true

namespace Bytes

variable {α : Type} [Letter α]

/-- The greatest number of bytes that can be asked for. -/
def maxLength : Int := 9223372036854775807

/-- The greatest number of bytes that data can have. -/
def maxDataLength : Int := maxLength - 33

/-- Why the given number of bytes cannot be read. -/
def lengthError? (reader : TextReader α) (count : Int) : Option ReadError :=
  if count < -maxLength - 1 ∨ maxLength < count then some .unfitLength
  else if count < -1 then some .negativeLength
  else if maxDataLength < count then some .excessiveLength
  else if !reader.affords count then some .noMemory
  else none

/-- Takes up to the given number of bytes off the data, all of them for minus
    one. -/
def read (reader : TextReader α) (count : Int) (data : Bytes) :
    Except ReadError (Bytes × Bytes) :=
  match lengthError? reader count with
  | some error => .error error
  | none => if count = -1 then .ok (data, []) else .ok (data.splitAt count.toNat)

/-- The number of bytes of the head. -/
def headLength : Int := 4096

/-- Whether a detected name asks for no second attempt: it is empty, or it names
    an encoding that plain UTF-8 covers. -/
def isCovered (name : Text) : Bool :=
  let lowered := name.map Char.toLower
  name = [] || lowered = "utf-8" || lowered = "ascii"

/-- The text in the detected encoding. -/
def decodeDetected (reader : TextReader α) (data : Bytes) : Except ReadError (Option (List α)) :=
  match reader.detect data with
  | none => .ok none
  | some name =>
    if isCovered name then .ok none
    else if name.elem '\x00' then .error .nulInCharset
    else (reader.decode name data).mapError .encoding

/-- The text of data that is not binary. -/
def decodeText (reader : TextReader α) (data : Bytes) : Except ReadError (Option (List α)) :=
  match Utf8.decode? data with
  | some text => .ok (some (Letter.spell text))
  | none => decodeDetected reader data

/-- The text of the first `limit` bytes, all of them for minus one; nothing for
    data that is binary or that no encoding fits. -/
def readText (reader : TextReader α) (limit : Int) (data : Bytes) :
    Except ReadError (Option (List α)) := do
  let (head, later) ← read reader (min headLength limit) data
  if looksBinary head then return none
  let (rest, _) ← read reader (limit - head.length) later
  let whole := head ++ rest
  if looksBinary whole then return none
  decodeText reader whole

end Bytes

end VclReview
