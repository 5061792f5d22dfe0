/-
  VclReview/Disk/Fault.lean
  =========================
  **What can go wrong with a file**, with the number and the words of each fault.
-/
import VclReview.Text.Letter
import VclReview.Text.Quoted

namespace VclReview

/-- The reasons for which an operation on a file is refused. -/
inductive Fault where
  | notFound
  | noDevice
  | longArgument
  | notRunnable
  | denied
  | alreadyThere
  | notDirectory
  | isDirectory
  | invalid
  | longName
  | tooManyLinks
  | addressInUse
  deriving DecidableEq

def Fault.number : Fault → Nat
  | .notFound => 2
  | .noDevice => 6
  | .longArgument => 7
  | .notRunnable => 8
  | .denied => 13
  | .alreadyThere => 17
  | .notDirectory => 20
  | .isDirectory => 21
  | .invalid => 22
  | .longName => 36
  | .tooManyLinks => 40
  | .addressInUse => 98

def Fault.words : Fault → Text
  | .notFound => "No such file or directory"
  | .noDevice => "No such device or address"
  | .longArgument => "Argument list too long"
  | .notRunnable => "Exec format error"
  | .denied => "Permission denied"
  | .alreadyThere => "File exists"
  | .notDirectory => "Not a directory"
  | .isDirectory => "Is a directory"
  | .invalid => "Invalid argument"
  | .longName => "File name too long"
  | .tooManyLinks => "Too many levels of symbolic links"
  | .addressInUse => "Address already in use"

/-- Whether the fault only says that a path leads nowhere. -/
def Fault.meansAbsent : Fault → Bool
  | .notFound | .notDirectory | .tooManyLinks => true
  | _ => false

def Fault.numbered (fault : Fault) : Text :=
  "[Errno " ++ Text.ofNat fault.number ++ "] " ++ fault.words

/-- The fault of an operation on the file with the given name. -/
def Fault.about (fault : Fault) (name : Text) : Text :=
  fault.numbered ++ ": " ++ Text.quoted name

/-- What a text with surrogates lacks to be written as UTF-8. -/
def SurrogateRun.message (run : SurrogateRun) : Text :=
  let place : Text := Text.ofNat run.position
  match run.indices with
  | [index] =>
    "'utf-8' codec can't encode character '\\u" ++
      Text.hex 4 (CodePoint.firstSurrogate + index) ++ "' in position " ++ place ++
      ": surrogates not allowed"
  | indices =>
    "'utf-8' codec can't encode characters in position " ++ place ++ "-" ++
      Text.ofNat (run.position + indices.length - 1) ++ ": surrogates not allowed"

/-- An operation on a file that did not succeed. -/
inductive DiskError where
  /-- It was refused; the name is the one that was asked for. -/
  | refused (fault : Fault) (name : Text)
  /-- A link was refused; the name is the one that it was to have. -/
  | linkRefused (fault : Fault) (target name : Text)
  | socketRefused (fault : Fault)
  /-- The name has too many bytes for a socket, so it was not even asked for. -/
  | longSocketName
  /-- The name holds the character zero, so it could not even be asked for. -/
  | nulInName
  /-- The text for the file holds surrogates, and the file has been emptied. -/
  | unencodable (run : SurrogateRun)
  deriving DecidableEq

/-- The wording of a failed operation.  The words for a socket do not say which one
    it was. -/
def DiskError.message : DiskError → Text
  | .refused fault name => fault.about name
  | .linkRefused fault target name => fault.about target ++ " -> " ++ Text.quoted name
  | .socketRefused fault => fault.numbered
  | .longSocketName => "AF_UNIX path too long"
  | .nulInName => "embedded null byte"
  | .unencodable run => run.message

end VclReview
