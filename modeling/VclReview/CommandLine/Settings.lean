/-
  VclReview/CommandLine/Settings.lean
  ===================================
  **What the command line can ask for**: the options with their spellings, what
  each of them sets, and what is set if it is left out.  An option that takes a
  value can also be made blank.
-/
import VclReview.Audit.Probe
import VclReview.Numeral.Real
import VclReview.Scan.Folder
import VclReview.Text.Fields

namespace VclReview

/-- The options. -/
inductive Flag where
  | help
  | lineNumbers
  | out
  | noAudit
  | verbose
  | globs
  | excluded
  | maxFileSize
  | noProgress
  | adminHost
  | adminPort
  | secretFile
  | binary
  | adminTimeout
  deriving DecidableEq

namespace Flag

/-- The spellings of the options, in the order in which they are listed. -/
def spellings : List (Text × Flag) :=
  [("-h", help), ("--help", help), ("--line-numbers", lineNumbers), ("--out", out),
   ("--no-audit", noAudit), ("--verbose", verbose), ("--include", globs),
   ("--exclude", excluded), ("--max-file-size", maxFileSize), ("--no-progress", noProgress),
   ("--admin-host", adminHost), ("--admin-port", adminPort), ("--secret-file", secretFile),
   ("--varnishadm", binary), ("--admin-timeout", adminTimeout)]

/-- Whether the option stands alone, without a value. -/
def standsAlone : Flag → Bool
  | help | lineNumbers | noAudit | verbose | noProgress => true
  | _ => false

/-- The option as messages name it: all its spellings. -/
def label (flag : Flag) : Text :=
  List.intercalate ['/'] ((spellings.filter (·.2 = flag)).map (·.1))

end Flag

/-- Everything that the command line sets. -/
structure Settings where
  path : Option Path
  lineNumbers : Bool
  /-- The directory for the report, if one is asked for. -/
  out : Option (Setting Path)
  noAudit : Bool
  verbose : Bool
  /-- The globs of the files to scan, as they were given. -/
  globs : Setting Text
  /-- The names of the directories to pass over, as they were given. -/
  excluded : Setting Text
  maxFileSize : Setting Int
  noProgress : Bool
  admin : AdminSettings

namespace Settings

/-- The settings of an empty command line. -/
def usual : Settings where
  path := none
  lineNumbers := false
  out := none
  noAudit := false
  verbose := false
  globs := .value "*.vcl"
  excluded := .value ".git,.venv,node_modules,venv,.tox,__pycache__"
  maxFileSize := .value usualSizeLimit
  noProgress := false
  admin := .usual

/-- The settings with an option that stands alone. -/
def switchOn (settings : Settings) : Flag → Settings
  | .lineNumbers => { settings with lineNumbers := true }
  | .noAudit => { settings with noAudit := true }
  | .verbose => { settings with verbose := true }
  | .noProgress => { settings with noProgress := true }
  | _ => settings

def withAdmin (settings : Settings) (change : AdminSettings → AdminSettings) : Settings :=
  { settings with admin := change settings.admin }

/-- The settings with an option made blank that takes a value. -/
def blank (settings : Settings) : Flag → Settings
  | .out => { settings with out := some .blank }
  | .globs => { settings with globs := .blank }
  | .excluded => { settings with excluded := .blank }
  | .maxFileSize => { settings with maxFileSize := .blank }
  | .adminHost => settings.withAdmin fun admin => { admin with host := .blank }
  | .adminPort => settings.withAdmin fun admin => { admin with port := .blank }
  | .secretFile => settings.withAdmin fun admin => { admin with secret := .blank }
  | .binary => settings.withAdmin fun admin => { admin with binary := .blank }
  | .adminTimeout => settings.withAdmin fun admin => { admin with timeout := .blank }
  | _ => settings

/-- How the settings for a directory follow from the command line. -/
def folder (settings : Settings) (root : Path) : FolderSettings where
  root := root
  globs := settings.globs.items Text.names
  excluded := settings.excluded.items Text.names
  sizeLimit := settings.maxFileSize
  showProgress := !settings.noProgress
  progressTitle := usualProgressTitle

end Settings

end VclReview
