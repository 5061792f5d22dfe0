/-
  VclReview/CommandLine/Parse.lean
  ================================
  **Reading the command line.**  Every argument is first told apart on its own:
  an option, an unknown option, the separator `--`, or a plain argument
  (`Argument.ofText`).  Then they are taken from left to right (`consume`).  An
  option takes its value from after an equals sign or from the plain argument
  that follows; the first plain argument that no option takes is the path.  The
  separator after an equals sign is no value and leaves the option blank.
  Arguments that nothing takes are an error only once all others have been read.

  An option may be shortened as long as only one spelling starts so.  A text that
  starts with a dash is a plain argument if it looks like a negative number or
  has a space in it.
-/
import VclReview.CommandLine.Settings

namespace VclReview

/-- A mistake in the command line. -/
inductive UsageError where
  /-- A shortened option fits several spellings. -/
  | ambiguous (argument : Text) (spellings : List Text)
  | noValue (flag : Flag)
  | notWhole (flag : Flag) (value : Text)
  | notReal (flag : Flag) (value : Text)
  /-- An option that stands alone was given a value. -/
  | needlessValue (flag : Flag) (value : Text)
  | leftOver (arguments : List Text)
  deriving DecidableEq

def UsageError.message : UsageError → Text
  | .ambiguous argument spellings =>
    "ambiguous option: " ++ argument ++ " could match " ++ List.intercalate [',', ' '] spellings
  | .noValue flag => "argument " ++ flag.label ++ ": expected one argument"
  | .notWhole flag value =>
    "argument " ++ flag.label ++ ": invalid int value: " ++ Text.quoted value
  | .notReal flag value =>
    "argument " ++ flag.label ++ ": invalid float value: " ++ Text.quoted value
  | .needlessValue flag value =>
    "argument " ++ flag.label ++ ": ignored explicit argument " ++ Text.quoted value
  | .leftOver arguments =>
    "unrecognized arguments: " ++ List.intercalate [' '] arguments

/-- Why reading the command line ends without settings. -/
inductive ParseStop where
  | help
  | mistake (error : UsageError)
  deriving DecidableEq

/-- The text that separates options from plain arguments. -/
def separator : Text := "--"

/-- An argument on its own. -/
inductive Argument where
  /-- The separator. -/
  | divider
  /-- An argument that is no option. -/
  | plain (text : Text)
  /-- An option, and the value after its equals sign, if any. -/
  | option (flag : Flag) (value : Option Text)
  /-- The short option for help with a value, after an equals sign or without one. -/
  | shortHelp (value : Text)
  /-- An option that does not exist. -/
  | unknown (text : Text)
  deriving DecidableEq

namespace Argument

/-- The parts of a text before and after its first equals sign. -/
def splitValue (text : Text) : Text × Option Text := Numeral.breakAt (· == '=') text

/-- The short spelling of the option for help. -/
def shortSpelling : Text := "-h"

/-- The argument for an option spelled out in full. -/
def spelled? (spelling : Text) (value : Option Text) : Option Argument :=
  match value with
  | some value =>
    if spelling = shortSpelling then some (.shortHelp value)
    else (Flag.spellings.lookup spelling).map (.option · (some value))
  | none => (Flag.spellings.lookup spelling).map (.option · none)

/-- Whether a text looks like a negative number: a dash and digits, with a point
    at most before the last of them.  A newline at the end does not count. -/
def looksNegative (text : Text) : Bool :=
  let body := if text.getLast? = some '\n' then text.dropLast else text
  match body with
  | '-' :: number =>
    match Numeral.breakAt (· == '.') number with
    | (whole, none) => whole ≠ [] && whole.all Text.isDigit
    | (whole, some fraction) =>
      whole.all Text.isDigit && fraction ≠ [] && fraction.all Text.isDigit
  | _ => false

/-- The ways in which a text can be read as a shortened option. -/
def shortened (text : Text) : List (Text × Argument) :=
  if Text.startsWith "--" text then
    let (name, value) := splitValue text
    (Flag.spellings.filter fun (spelling, _) => Text.startsWith name spelling).map
      fun (spelling, flag) => (spelling, .option flag value)
  else
    match Text.dropLead? shortSpelling text with
    | some value => [(shortSpelling, .shortHelp value)]
    | none => []

/-- The argument for a text that is no option, shortened or not, though it starts
    with a dash. -/
def ofStray (text : Text) : Argument :=
  if looksNegative text ∨ ' ' ∈ text then .plain text else .unknown text

/-- Tells what a text is that stands before any separator. -/
def ofText (text : Text) : Except UsageError Argument :=
  if text.head? ≠ some '-' then .ok (.plain text)
  else
    match spelled? text none with
    | some argument => .ok argument
    | none =>
      if text = "-" then .ok (.plain text)
      else
        let (name, value) := splitValue text
        match (if value.isSome then spelled? name value else none) with
        | some argument => .ok argument
        | none =>
          match shortened text with
          | [] => .ok (ofStray text)
          | [(_, argument)] => .ok argument
          | several => .error (.ambiguous text (several.map (·.1)))

/-- Tells what the texts of a command line are.  After the separator all are plain
    arguments. -/
def ofTexts : List Text → Except UsageError (List Argument)
  | [] => .ok []
  | text :: rest =>
    if text = separator then .ok (.divider :: rest.map .plain)
    else do
      let head ← ofText text
      let tail ← ofTexts rest
      return head :: tail

end Argument

namespace CommandLine

/-- How far reading has come. -/
structure Progress where
  settings : Settings
  /-- Whether a plain argument has been taken as the path. -/
  pathTaken : Bool
  /-- Whether that happened with the very last argument. -/
  pathJustTaken : Bool
  /-- The arguments that nothing took, last one first. -/
  leftOver : List Text

/-- The state before the first argument. -/
def Progress.init : Progress := ⟨.usual, false, false, []⟩

/-- Sets the value of an option. -/
def setValue (settings : Settings) (flag : Flag) (value : Text) : Except UsageError Settings :=
  match flag with
  | .out => .ok { settings with out := some (.value (Path.ofText value)) }
  | .globs => .ok { settings with globs := .value value }
  | .excluded => .ok { settings with excluded := .value value }
  | .adminHost => .ok (settings.withAdmin fun admin => { admin with host := .value value })
  | .secretFile =>
    .ok (settings.withAdmin fun admin => { admin with secret := .value (Path.ofText value) })
  | .binary => .ok (settings.withAdmin fun admin => { admin with binary := .value value })
  | .maxFileSize =>
    match Numeral.whole? value with
    | some size => .ok { settings with maxFileSize := .value size }
    | none => .error (.notWhole flag value)
  | .adminPort =>
    match Numeral.whole? value with
    | some port => .ok (settings.withAdmin fun admin => { admin with port := .value port })
    | none => .error (.notWhole flag value)
  | .adminTimeout =>
    match Numeral.real? value with
    | some timeout =>
      .ok (settings.withAdmin fun admin => { admin with timeout := .value (.real timeout) })
    | none => .error (.notReal flag value)
  | _ => .ok settings

/-- Takes the value of an option. -/
def Progress.take (progress : Progress) (flag : Flag) (value : Text) : Except ParseStop Progress :=
  match setValue progress.settings flag value with
  | .ok settings => .ok { progress with settings, pathJustTaken := false }
  | .error error => .error (.mistake error)

/-- Takes what follows the equals sign of an option. -/
def Progress.takeJoined (progress : Progress) (flag : Flag) (value : Text) :
    Except ParseStop Progress :=
  if value = separator then
    .ok { progress with settings := progress.settings.blank flag, pathJustTaken := false }
  else progress.take flag value

/-- Takes an option that stands alone. -/
def Progress.switchOn (progress : Progress) (flag : Flag) : Except ParseStop Progress :=
  if flag = .help then .error .help
  else .ok { progress with settings := progress.settings.switchOn flag, pathJustTaken := false }

/-- Takes a plain argument that no option has taken. -/
def Progress.takePlain (progress : Progress) (text : Text) : Progress :=
  if progress.pathTaken then
    { progress with leftOver := text :: progress.leftOver, pathJustTaken := false }
  else
    { progress with
      settings := { progress.settings with path := some (Path.ofText text) }
      pathTaken := true
      pathJustTaken := true }

/-- Passes the separator, which belongs to the path before or after it. -/
def Progress.divide (progress : Progress) : Progress :=
  if progress.pathTaken ∧ ¬ progress.pathJustTaken then
    { progress with leftOver := separator :: progress.leftOver }
  else { progress with pathJustTaken := false }

/-- Leaves an unknown option over. -/
def Progress.leave (progress : Progress) (text : Text) : Progress :=
  { progress with leftOver := text :: progress.leftOver, pathJustTaken := false }

/-- What becomes of the value of the short option for help: it can only be the same
    option again, any number of times. -/
def shortHelp : Text → ParseStop
  | ['h'] => .help
  | 'h' :: rest => shortHelp rest
  | value => .mistake (.needlessValue .help value)

/-- Takes arguments from left to right. -/
def consume (progress : Progress) : List Argument → Except ParseStop Progress
  | [] => .ok progress
  | .divider :: rest => consume progress.divide rest
  | .plain text :: rest => consume (progress.takePlain text) rest
  | .unknown text :: rest => consume (progress.leave text) rest
  | .shortHelp value :: _ => .error (shortHelp value)
  | .option flag (some value) :: rest =>
    if flag.standsAlone then .error (.mistake (.needlessValue flag value))
    else
      match progress.takeJoined flag value with
      | .ok next => consume next rest
      | .error stop => .error stop
  | .option flag none :: rest =>
    if flag.standsAlone then
      match progress.switchOn flag with
      | .ok next => consume next rest
      | .error stop => .error stop
    else
      match rest with
      | .plain value :: others =>
        match progress.take flag value with
        | .ok next => consume next others
        | .error stop => .error stop
      | _ => .error (.mistake (.noValue flag))

/-- The settings that a command line asks for. -/
def parse (arguments : List Text) : Except ParseStop Settings :=
  match Argument.ofTexts arguments with
  | .error error => .error (.mistake error)
  | .ok found =>
    match consume .init found with
    | .error stop => .error stop
    | .ok progress =>
      if progress.leftOver = [] then .ok progress.settings
      else .error (.mistake (.leftOver progress.leftOver.reverse))

end CommandLine

end VclReview
