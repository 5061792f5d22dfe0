/-
  VclReview/Disk/Launch.lean
  ==========================
  **Running a program.**  A name with a slash in it is used as it stands, any
  other is looked for in the directory of programs.  A file that starts with the
  marks `#!` is a script: it is run by the interpreter that its first line names,
  with the rest of the line, if any, and the file as its first arguments
  (`Script.ofBytes?`).  Interpreters may in turn be scripts, five deep.
-/
import VclReview.Bytes.Utf8
import VclReview.Disk.Lookup

namespace VclReview

/-! ### Scripts -/

/-- How a script is run. -/
structure Script where
  interpreter : Text
  /-- The argument that follows it. -/
  argument : Option Text
  deriving DecidableEq

namespace Script

/-- How many bytes of a file are looked at; zeros stand for those after its end. -/
def headLength : Nat := 256

/-- Whether the byte is a space or a tab. -/
def isGap (b : UInt8) : Bool := b == 32 || b == 9

/-- Whether the byte ends a name. -/
def endsName (b : UInt8) : Bool := isGap b || b == 0

/-- The first line of a script after its marks, given the bytes that are looked
    at.  Without a newline among them before any zero, it is all of them but the
    last, provided that the name in it is seen to end. -/
def line? (bytes : Bytes) : Option Bytes :=
  if 10 ∈ bytes.takeWhile (· != 0) then some (bytes.takeWhile (· != 10))
  else if (bytes.dropWhile isGap).any endsName then some bytes.dropLast
  else none

/-- The bytes without the spaces and tabs at both ends. -/
def trim (line : Bytes) : Bytes := ((line.dropWhile isGap).reverse.dropWhile isGap).reverse

/-- What the line of a script says, if it names an interpreter.  The argument is all
    that follows the name, up to a zero. -/
def ofLine? (line : Bytes) : Option Script :=
  let name := (trim line).takeWhile (!endsName ·)
  let rest := (trim line).dropWhile (!endsName ·)
  if trim line = [] then none
  else
    some
      { interpreter := Utf8.decodeLossy name
        argument :=
          match rest with
          | [] | 0 :: _ => none
          | _ => some (Utf8.decodeLossy ((rest.dropWhile isGap).takeWhile (· != 0))) }

/-- How a file with the given contents is run, if it is a script. -/
def ofBytes? (bytes : Bytes) : Option Script :=
  match bytes.take headLength ++ List.replicate (headLength - bytes.length) 0 with
  | 0x23 :: 0x21 :: rest => (line? rest).bind ofLine?
  | _ => none

end Script

/-! ### Programs -/

/-- How an attempt to run a program ends. -/
inductive Launch where
  /-- An argument holds the character zero. -/
  | nulInArgument
  /-- The program could not be started. -/
  | refused (fault : Fault)
  /-- The program did not end in time. -/
  | timedOut
  /-- The program ended; the arguments are what it got after its own name. -/
  | ended (status : Int) (stdout stderr : Bytes) (arguments : List Text)
  deriving DecidableEq

/-- What running a program comes to, if time is no concern. -/
def Program.run (program : Program) (arguments : List Text) : Launch :=
  if program.hangs then .timedOut
  else .ended program.status program.stdout program.stderr arguments

namespace FileTree

/-- The directory in which programs are looked for. -/
def programFolder : Text := "bin"

/-- The text under which a program with the given name is looked for. -/
def programPath (name : Text) : Text :=
  if name.elem '/' then name else programFolder ++ "/" ++ name

/-- The file that a text leads to, if it may be run. -/
def runnable (tree : FileTree) (file : Text) : Except Fault FileData :=
  match tree.locateText file with
  | .error fault => .error fault
  | .ok (.free _ _) => .error .notFound
  | .ok (.occupied _ (.file data)) => if data.executable then .ok data else .error .denied
  | .ok _ => .error .denied

/-- Runs the file that a text leads to.  The number bounds the chain of
    interpreters, to which the one that runs the program itself belongs. -/
def run (tree : FileTree) : Nat → (file : Text) → (arguments : List Text) → Launch
  | 0, file, _ =>
    match tree.runnable file with
    | .error fault => .refused fault
    | .ok _ => .refused .tooManyLinks
  | interpreters + 1, file, arguments =>
    match tree.runnable file with
    | .error fault => .refused fault
    | .ok data =>
      match data.program with
      | some program =>
        if interpreters = 0 then .refused .tooManyLinks else program.run arguments
      | none =>
        match Script.ofBytes? data.bytes with
        | none => .refused .notRunnable
        | some script =>
          run tree interpreters script.interpreter
            (script.argument.toList ++ file :: arguments)

/-- The number of files that may be looked into before one that can be run without
    another is found. -/
def maxInterpreters : Nat := 6

/-- The number of bytes at which an argument is too long. -/
def argumentLimit : Nat := 131072

/-- Runs a command: the name of a program and its arguments. -/
def launch (tree : FileTree) (name : Text) (arguments : List Text) : Launch :=
  let file := programPath name
  if (name :: arguments).any (·.elem '\x00') then .nulInArgument
  else
    match tree.runnable file with
    | .error fault => .refused fault
    | .ok _ =>
      if arguments.any (argumentLimit ≤ Text.byteCount ·) then .refused .longArgument
      else tree.run maxInterpreters file arguments

end FileTree

end VclReview
