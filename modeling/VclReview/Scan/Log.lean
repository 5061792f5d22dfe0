/-
  VclReview/Scan/Log.lean
  =======================
  **The log.**  What happens during a run is an `Event`, which knows its level,
  where it comes from and its words.  A `Logger` writes an event once for each of
  its handlers if the level is high enough.  Preparing a logger for a run adds a
  handler only if there is none, and sets the level anew.
-/
import VclReview.Path

namespace VclReview

/-- How important an event is. -/
inductive Level where
  | info
  | warning
  deriving DecidableEq

/-- The name of a level. -/
def Level.text : Level → Text
  | .info => "INFO"
  | .warning => "WARNING"

/-- Something that happens during a run. -/
inductive Event where
  /-- A file has been scanned, on its own or, if `inFolder`, as part of a
      directory. -/
  | scanned (inFolder : Bool) (file : Path) (lines recognized : Nat)
  | unmeasured (file : Path) (reason : Text)
  /-- A file in a directory is too large. -/
  | oversized (file : Path) (size : Nat) (limit : Int)
  /-- The files of a directory have been chosen. -/
  | discovered (count : Nat) (root : Path)
  /-- A chosen file could not be scanned. -/
  | skipped (file : Path) (reason : Text)
  /-- The administration program is about to be run. -/
  | running (command : List Text)
  /-- The administration program has answered. -/
  | listed (count : Nat)
  | auditFailed (reason : Text)
  deriving DecidableEq

namespace Event

def level : Event → Level
  | unmeasured .. | skipped .. | auditFailed .. => .warning
  | _ => .info

/-- The part of the program that an event comes from. -/
def source : Event → Text
  | scanned false .. => "vclscan.singlefilescanner"
  | scanned true .. => "vclscan.directoryscanner.singlefilescanner"
  | unmeasured .. | oversized .. | discovered .. | skipped .. => "vclscan.directoryscanner"
  | running _ | listed _ => "vclscan.varnishadmprobe"
  | auditFailed _ => "vclscan"

/-- The words of an event.  How long a scan took is not known, and is given as no time at
    all. -/
def message : Event → Text
  | scanned _ file lines recognized =>
    "Scanned " ++ file.toText ++ ": " ++ Text.ofNat lines ++ " line(s), " ++
      Text.ofNat recognized ++ " recognized, 0.000s"
  | unmeasured file reason => "Unable to stat " ++ file.toText ++ ": " ++ reason
  | oversized file size limit =>
    "Skipping " ++ file.toText ++ " (" ++ Text.ofNat size ++ " bytes > " ++ Text.ofInt limit ++
      ")"
  | discovered count root =>
    "Discovered " ++ Text.ofNat count ++ " file(s) to scan under " ++ root.toText
  | skipped file reason => "Skipping " ++ file.toText ++ ": " ++ reason
  | running command => "Running " ++ List.intercalate [' '] command
  | listed count =>
    "vcl.list returned " ++ Text.ofNat count ++ " active header token(s)"
  | auditFailed reason => "Header audit failed: " ++ reason

/-- The log line of an event, without the time stamp that it begins with. -/
def line (event : Event) : Text :=
  "[" ++ event.level.text ++ "] " ++ event.source ++ " - " ++ event.message

end Event

/-- What writes the log. -/
structure Logger where
  /-- How many handlers write each event. -/
  handlers : Nat
  /-- The least level that is written; unset means warnings only. -/
  threshold : Option Level
  deriving DecidableEq

namespace Logger

/-- A logger that has not been prepared. -/
def fresh : Logger := ⟨0, none⟩

/-- The logger prepared for a run that shows all events, or only warnings. -/
def configure (logger : Logger) (verbose : Bool) : Logger where
  handlers := if logger.handlers = 0 then 1 else logger.handlers
  threshold := some (if verbose then .info else .warning)

/-- Whether the logger writes events of the level. -/
def shows (logger : Logger) (level : Level) : Bool :=
  level = .warning || logger.threshold = some .info

/-- The lines written for an event. -/
def write (logger : Logger) (event : Event) : List Text :=
  if logger.shows event.level then List.replicate logger.handlers event.line else []

/-- The lines written for events. -/
def writeAll (logger : Logger) (events : List Event) : List Text := events.flatMap logger.write

end Logger

end VclReview
