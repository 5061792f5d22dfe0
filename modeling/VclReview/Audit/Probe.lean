/-
  VclReview/Audit/Probe.lean
  ==========================
  **Asking a running cache for its headers.**  The administration program is run
  once; its listing counts only if it ends with status zero.  Every other outcome
  is an error of its own, so that a failed probe never looks like an empty
  configuration.
-/
import VclReview.Audit.Advice
import VclReview.Audit.Listing
import VclReview.Audit.Wait
import VclReview.Numeral.Significant
import VclReview.Scan.Log

namespace VclReview

/-- How to reach the administration interface. -/
structure AdminSettings where
  host : Setting Text
  port : Setting Int
  /-- The file with the shared secret. -/
  secret : Setting Path
  /-- The administration program. -/
  binary : Setting Text
  /-- How many seconds to wait for it. -/
  timeout : Setting Seconds

namespace AdminSettings

/-- The settings unless others are given. -/
def usual : AdminSettings where
  host := .value "127.0.0.1"
  port := .value 6082
  secret := .value ⟨.root, ["etc", "varnish", "secret"]⟩
  binary := .value "varnishadm"
  timeout := .value (.real 30.0)

/-- The address of the interface. -/
def endpoint (settings : AdminSettings) : Text :=
  settings.host.text id ++ ":" ++ settings.port.text Text.ofInt

/-- The seconds to wait, by their leading digits. -/
def timeoutText (settings : AdminSettings) : Text :=
  settings.timeout.text fun seconds => Numeral.significant seconds.toFloat

/-- The arguments of the administration program. -/
def arguments (settings : AdminSettings) : List Text :=
  ["-T", settings.endpoint, "-S", settings.secret.text Path.toText, "vcl.list"]

/-- The whole command, unless no program is set. -/
def command? (settings : AdminSettings) : Option (List Text) :=
  match settings.binary with
  | .value binary => some (binary :: settings.arguments)
  | .blank => none

end AdminSettings

/-- Why the listing could not be obtained. -/
inductive ProbeError where
  | notFound (binary : Text)
  | notRunnable (binary : Text)
  | notStarted (binary : Text) (fault : Fault)
  | noAnswer (binary timeout endpoint : Text)
  | failed (binary : Text) (status : Int) (detail : Text)
  deriving DecidableEq

def ProbeError.message : ProbeError → Text
  | .notFound binary => binary ++ " not found"
  | .notRunnable binary => binary ++ " is not executable"
  | .notStarted binary fault => binary ++ " could not be started: " ++ fault.about binary
  | .noAnswer binary timeout endpoint =>
    binary ++ " did not answer within " ++ timeout ++ "s (endpoint " ++ endpoint ++ ")"
  | .failed binary status detail =>
    binary ++ " exited with status " ++ Text.ofInt status ++ ": " ++ detail

/-- Why there are no headers to audit. -/
inductive ProbeFailure where
  | noProgram
  /-- The command cannot be run at all: it holds the character zero. -/
  | malformed
  | wait (error : WaitError)
  /-- The source of headers does not say how to list them. -/
  | noListing
  | failed (error : ProbeError)
  deriving DecidableEq

def ProbeFailure.message : ProbeFailure → Text
  | .noProgram => "sequence item 0: expected str instance, list found"
  | .malformed => "embedded null byte"
  | .wait error => error.message
  | .noListing => "list_active_configuration_headers must be implemented in subclasses"
  | .failed error => error.message

/-- The text that a program has written. -/
def writtenText (bytes : Bytes) : Text := Text.unifyBreaks (Utf8.decodeLossy bytes)

/-- What a program that failed has to say: the first of its two outputs that is
    not blank. -/
def failureDetail (stdout stderr : Bytes) : Text :=
  let complaint := Text.trim (writtenText stderr)
  let answer := Text.trim (writtenText stdout)
  if complaint ≠ [] then complaint else if answer ≠ [] then answer else "no output"

/-- The headers that the outcome of running the administration program shows. -/
def headersOf (settings : AdminSettings) (binary : Text) :
    Launch → Except ProbeFailure (List Text)
  | .nulInArgument => .error .malformed
  | .refused .notFound => .error (.failed (.notFound binary))
  | .refused .denied => .error (.failed (.notRunnable binary))
  | .refused fault => .error (.failed (.notStarted binary fault))
  | .timedOut =>
    .error (.failed
      (.noAnswer binary settings.timeoutText settings.endpoint))
  | .ended status stdout stderr _ =>
    if status = 0 then .ok (listedHeaders (writtenText stdout))
    else .error (.failed (.failed binary status (failureDetail stdout stderr)))

/-- What a probe leaves behind. -/
structure Probe where
  headers : Except ProbeFailure (List Text)
  events : List Event
  /-- The arguments of each program that was run to its end. -/
  runs : List (List Text)

/-- The arguments of the program, if it was run to its end. -/
def Launch.run? : Launch → Option (List Text)
  | .ended _ _ _ arguments => some arguments
  | _ => none

/-- The event of an answer. -/
def listedEvent? : Except ProbeFailure (List Text) → Option Event
  | .ok headers => some (.listed headers.length)
  | .error _ => none

/-- Probes the running cache. -/
def probe (clock : Clock) (tree : FileTree) (settings : AdminSettings) : Probe :=
  match settings.binary with
  | .blank => ⟨.error .noProgram, [], []⟩
  | .value binary =>
    let started : Event := .running (binary :: settings.arguments)
    match (tree.launch binary settings.arguments).within clock settings.timeout with
    | .error error => ⟨.error (.wait error), [started], []⟩
    | .ok launch =>
      let headers := headersOf settings binary launch
      ⟨headers, started :: (listedEvent? headers).toList, launch.run?.toList⟩

/-- Where headers come from. -/
inductive HeaderSource where
  /-- A source that does not say how to list headers. -/
  | unspecified
  | cache (clock : Clock) (tree : FileTree) (settings : AdminSettings)

def HeaderSource.audit : HeaderSource → Except ProbeFailure (List Text)
  | unspecified => .error .noListing
  | cache clock tree settings => (probe clock tree settings).headers.map auditHeaders

end VclReview
