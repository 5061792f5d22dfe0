/-
  VclReview/Run.lean
  ==================
  **One run of the program.**  A run starts from a `Site`, the files, the logger and
  what the machine brings to reading and waiting, and ends with an `Outcome`: what is
  printed, what is logged, and the files and the logger that are left.

  A run that gets past its input prints the whole analysis, then audits the live
  configuration unless that is switched off, and last writes the report.  Only
  the report changes files.
-/
import VclReview.CommandLine.Help
import VclReview.CommandLine.Parse
import VclReview.Directive.Builtin
import VclReview.Report.Folder

namespace VclReview

/-- What a run starts from. -/
structure Site where
  tree : FileTree
  logger : Logger
  reader : TextReader
  clock : Clock

/-- What ends a run without an exit status. -/
inductive Crash where
  /-- It cannot be told whether the input exists. -/
  | input (error : DiskError)
  | scan (error : ScanError)
  /-- The administration program could not be run or waited for. -/
  | probe (failure : ProbeFailure)
  | report (error : DiskError)
  /-- A report is asked for, but no directory for it. -/
  | noReportFolder
  deriving DecidableEq

def Crash.message : Crash → Text
  | .input error => error.message
  | .scan error => error.message
  | .probe failure => failure.message
  | .report error => error.message
  | .noReportFolder => "'list' object has no attribute 'mkdir'"

/-- What a run leaves behind. -/
structure Outcome where
  /-- The exit status, or what ended the run without one. -/
  status : Except Crash Nat
  /-- The lines on standard output. -/
  printed : List Text
  /-- The lines on standard error about a mistake in the command line. -/
  complaint : List Text
  /-- What happened, for the log. -/
  events : List Event
  bars : List ProgressBar
  /-- The arguments of each program that was run to its end. -/
  runs : List (List Text)
  tree : FileTree
  logger : Logger

/-- The exit status of a run that did all it was asked. -/
def exitDone : Nat := 0

/-- The exit status of a run without usable input. -/
def exitInput : Nat := 1

/-- The exit status of a run with a mistake in its command line. -/
def exitMistake : Nat := 2

/-- The exit status of a run whose audit failed. -/
def exitAudit : Nat := 3

/-- The lines on standard error. -/
def Outcome.stderr (outcome : Outcome) : List Text :=
  outcome.complaint ++ outcome.logger.writeAll outcome.events

/-- A run that ends before anything happens. -/
def Site.leave (site : Site) (status : Except Crash Nat) (printed complaint : List Text) :
    Outcome :=
  { status, printed, complaint, events := [], bars := [], runs := [], tree := site.tree,
    logger := site.logger }

/-! ### The analysis -/

/-- Scans what a path leads to: all of a directory, or one file. -/
def scanPath (tree : FileTree) (reader : TextReader) (settings : Settings) (path : Path) : Scan :=
  if tree.isFolder path then scanFolder tree reader Shape.builtin (settings.folder path)
  else
    match scanFile tree reader Shape.builtin path with
    | .error error => ⟨[], [], [], some error⟩
    | .ok annotations => ⟨[(path, annotations)], [scannedEvent false path annotations], [], none⟩

/-- The line about a directory in which nothing was found to analyse. -/
def emptyNotice (settings : Settings) (path : Path) : Text :=
  "No files matching '" ++ settings.globs.text id ++ "' found under '" ++ path.toText ++ "'."

/-- The lines about one file. -/
def fileReport (lineNumbers : Bool) (file : Path) (annotations : List Annotation) : List Text :=
  ("Analyzing Varnish Configuration File: " ++ file.toText) :: render lineNumbers annotations

/-- The lines about all files. -/
def analysis (tree : FileTree) (settings : Settings) (path : Path) (results : Results) :
    List Text :=
  (if tree.isFolder path ∧ results = [] then [emptyNotice settings path] else [])
    ++ results.flatMap fun (file, annotations) =>
      fileReport settings.lineNumbers file annotations

/-! ### The audit -/

/-- What an audit leaves behind. -/
structure Audit where
  /-- The lines to print, if there was an audit. -/
  lines : Option (List Text)
  status : Nat
  events : List Event
  runs : List (List Text)

/-- Audits the live configuration unless that is switched off.  A probe that cannot
    even fail ends the run. -/
def runAudit (clock : Clock) (tree : FileTree) (settings : Settings) :
    Except (ProbeFailure × List Event) Audit :=
  if settings.noAudit then .ok ⟨none, exitDone, [], []⟩
  else
    let probed := probe clock tree settings.admin
    match probed.headers with
    | .ok headers => .ok ⟨some (auditHeaders headers), exitDone, probed.events, probed.runs⟩
    | .error (.failed error) =>
      let failure : Event := .auditFailed error.message
      .ok ⟨some [failure.message], exitAudit, probed.events ++ [failure], probed.runs⟩
    | .error failure => .error (failure, probed.events)

/-! ### The whole run -/

/-- Writes the report, if one is asked for. -/
def writeReport (tree : FileTree) (settings : Settings) (results : Results)
    (audit : Option (List Text)) : FileTree × Option Crash :=
  match settings.out with
  | none => (tree, none)
  | some .blank => (tree, some .noReportFolder)
  | some (.value folder) =>
    let attempt := Report.write tree folder results audit
    (attempt.tree, attempt.failure.map .report)

/-- What follows once the input has been scanned. -/
def finish (site : Site) (settings : Settings) (path : Path) (scan : Scan) : Outcome :=
  let printed := analysis site.tree settings path scan.results
  match runAudit site.clock site.tree settings with
  | .error (failure, events) =>
    { status := .error (.probe failure), printed, complaint := []
      events := scan.events ++ events, bars := scan.bars, runs := [], tree := site.tree,
      logger := site.logger }
  | .ok audit =>
    let (tree, crash) := writeReport site.tree settings scan.results audit.lines
    { status := match crash with
        | some crash => .error crash
        | none => .ok audit.status
      printed := printed ++ audit.lines.getD []
      complaint := []
      events := scan.events ++ audit.events
      bars := scan.bars
      runs := audit.runs
      tree
      logger := site.logger }

/-- What follows once the scan of the input has been stopped. -/
def abandon (site : Site) (scan : Scan) (error : ScanError) : Outcome :=
  let outcome :=
    if error.blamesFile then site.leave (.ok exitInput) ["Error: " ++ error.message] []
    else site.leave (.error (.scan error)) [] []
  { outcome with events := scan.events, bars := scan.bars }

/-- A run with the given settings. -/
def runWith (site : Site) (settings : Settings) : Outcome :=
  match settings.path with
  | none =>
    site.leave (.ok exitInput)
      ["Usage: " ++ CommandLine.programName ++ " <path_to_varnish_config_file>"] []
  | some path =>
    match site.tree.obstacle? path with
    | some fault => site.leave (.error (.input (.refused fault path.toText))) [] []
    | none =>
      if !site.tree.pathExists path then
        site.leave (.ok exitInput)
          ["Error: Configuration file '" ++ path.toText ++ "' not found!"] []
      else
        let site := { site with logger := site.logger.configure settings.verbose }
        let scan := scanPath site.tree site.reader settings path
        match scan.stop with
        | some error => abandon site scan error
        | none => finish site settings path scan

/-- A run with the given command line. -/
def run (site : Site) (arguments : List Text) : Outcome :=
  match CommandLine.parse arguments with
  | .ok settings => runWith site settings
  | .error .help => site.leave (.ok exitDone) CommandLine.help []
  | .error (.mistake error) =>
    site.leave (.ok exitMistake) []
      (CommandLine.usage ++ [CommandLine.programName ++ ": error: " ++ error.message])

end VclReview
