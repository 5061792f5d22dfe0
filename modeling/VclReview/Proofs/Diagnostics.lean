/-
  VclReview/Proofs/Diagnostics.lean
  =================================
  **What is said on standard error.**  The parts of the program share one logger, and each has
  a logger of its own below it (`Loggers`).  Whoever calls one of them prepares the shared
  logger first, again and again.  Still it never gets a second handler
  (`HandledOnce.foldl_after`), and the loggers below it write what it would write itself
  (`write_ofProgram`).

  A run is the same whatever the logger was before, apart from what it says
  (`runWith_withLogger`).  So **what a call says does not depend on the calls before it**:
  `speaksAsFirst_after`.
-/
import Mathlib.Data.List.Infix
import Mathlib.Logic.Function.Basic
import VclReview.Proofs.Runs

namespace VclReview

/-! ### Loggers below each other -/

/-- The loggers of a process.  A name consists of parts, and a logger stands below those whose
    names its own begins with; the one without any part stands above all others. -/
abbrev Loggers := List Text → Logger

namespace Loggers

/-- The name of the logger that the parts of the program share. -/
def programName : List Text := ["vclscan"]

/-- The loggers before anything has been done with them. -/
def untouched : Loggers := fun name => if name = [] then ⟨0, some .warning⟩ else .fresh

/-- The loggers if only that of the program has been touched. -/
def ofProgram (logger : Logger) : Loggers := Function.update untouched programName logger

/-- The logger with the name and those above it, the nearest first. -/
def upwards (loggers : Loggers) (name : List Text) : List Logger := name.inits.reverse.map loggers

/-- The nearest of them that has a threshold decides which events are written. -/
def shows (loggers : Loggers) (name : List Text) (level : Level) : Bool :=
  ((loggers.upwards name).findSome? (·.threshold)).all fun least =>
    level = .warning || least = .info

/-- The parts of the name of the logger that an event is told to. -/
def nameOf (event : Event) : List Text := Text.splitWhere (· == '.') event.source

/-- The lines written for an event, one by each handler on its way up.  If there is none, the
    words of a warning are written alone. -/
def write (loggers : Loggers) (event : Event) : List Text :=
  let name := nameOf event
  if loggers.shows name event.level then
    let written := (loggers.upwards name).flatMap fun logger =>
      List.replicate logger.handlers event.line
    if written = [] ∧ event.level = .warning then [event.message] else written
  else []

end Loggers

/-- What is done with the loggers. -/
inductive Logging where
  /-- The logger of the program is prepared. -/
  | configure (verbose : Bool)
  | tell (event : Event)

namespace Loggers

def after (loggers : Loggers) : Logging → Loggers
  | .configure verbose =>
    Function.update loggers programName ((loggers programName).configure verbose)
  | .tell _ => loggers

def lines (loggers : Loggers) : Logging → List Text
  | .configure _ => []
  | .tell event => loggers.write event

def allLines (loggers : Loggers) : List Logging → List Text
  | [] => []
  | act :: acts => loggers.lines act ++ (loggers.after act).allLines acts

/-! ### The loggers of the program -/

variable {logger : Logger}

theorem upwards_ofProgram (logger : Logger) (below : List Text) :
    (ofProgram logger).upwards (programName ++ below) =
      List.replicate below.length .fresh ++ [logger, ⟨0, some .warning⟩] := by
  have hbelow : (below.inits.map fun name => ofProgram logger (programName ++ name)) =
      logger :: List.replicate below.length .fresh := by
    cases below with
    | nil => rfl
    | cons part below =>
      refine congrArg (logger :: ·) (List.eq_replicate_iff.2 ⟨by simp, ?_⟩)
      intro other hother
      simp only [List.map_map, List.mem_map] at hother
      obtain ⟨name, -, rfl⟩ := hother
      rfl
  calc (ofProgram logger).upwards (programName ++ below)
      = (⟨0, some .warning⟩ ::
          below.inits.map fun name => ofProgram logger (programName ++ name)).reverse := by
        rw [upwards, List.map_reverse, programName, List.singleton_append, List.inits_cons,
          List.map_cons, List.map_map]
        rfl
    _ = _ := by
        rw [hbelow, List.reverse_cons, List.reverse_cons, List.reverse_replicate,
          List.append_assoc]
        rfl

/-- Every event is told to the logger of the program or to one below it. -/
theorem programName_prefix_nameOf (event : Event) : programName <+: nameOf event := by
  let parts := Text.splitWhere (· == '.')
  have hprogram : programName <+: parts "vclscan" := by decide
  have hfile : programName <+: parts "vclscan.singlefilescanner" := by decide
  have hfolder : programName <+: parts "vclscan.directoryscanner" := by decide
  have hnested : programName <+: parts "vclscan.directoryscanner.singlefilescanner" := by decide
  have hprobe : programName <+: parts "vclscan.varnishadmprobe" := by decide
  cases event with
  | scanned inFolder =>
    cases inFolder with
    | false => exact hfile
    | true => exact hnested
  | unmeasured | oversized | discovered | skipped => exact hfolder
  | running | listed => exact hprobe
  | auditFailed => exact hprogram

/-- **A logger below that of the program writes what that one would write.** -/
theorem write_ofProgram (hhandlers : 0 < logger.handlers) (event : Event) :
    (ofProgram logger).write event = logger.write event := by
  obtain ⟨below, hbelow⟩ := programName_prefix_nameOf event
  have hwritten : ((ofProgram logger).upwards (nameOf event)).flatMap (fun logger =>
      List.replicate logger.handlers event.line) = List.replicate logger.handlers event.line := by
    rw [← hbelow, upwards_ofProgram]
    simp [Logger.fresh]
  have hsome : List.replicate logger.handlers event.line ≠ [] :=
    fun hnone => hhandlers.ne' ((List.replicate_eq_nil_iff _).1 hnone)
  have hshows : (ofProgram logger).shows (nameOf event) event.level =
      logger.shows event.level := by
    rw [shows, ← hbelow, upwards_ofProgram, List.findSome?_append]
    cases hthreshold : logger.threshold with
    | none => simp [Logger.fresh, Logger.shows, hthreshold]
    | some least => simp [Logger.fresh, Logger.shows, hthreshold]
  simp only [write, Logger.write, hwritten, hshows, hsome, false_and, if_false]

/-! ### Not more than one handler -/

/-- No logger has a handler, except that of the program, which has one at most. -/
def HandledOnce (loggers : Loggers) : Prop :=
  ∀ name, (loggers name).handlers ≤ if name = programName then 1 else 0

theorem handledOnce_ofProgram (h : logger.handlers ≤ 1) : (ofProgram logger).HandledOnce := by
  intro name
  by_cases hname : name = programName
  · rw [if_pos hname, ofProgram, hname, Function.update_self]
    exact h
  · rw [if_neg hname, ofProgram, Function.update_of_ne hname, untouched]
    split
    · exact le_rfl
    · exact le_rfl

theorem HandledOnce.after {loggers : Loggers} (h : loggers.HandledOnce) (act : Logging) :
    (loggers.after act).HandledOnce := by
  cases act with
  | tell => exact h
  | configure verbose =>
    intro name
    by_cases hname : name = programName
    · have hone := h programName
      rw [if_pos rfl] at hone
      rw [if_pos hname, Loggers.after, hname, Function.update_self, Logger.configure]
      split
      · exact le_rfl
      · exact hone
    · rw [Loggers.after, Function.update_of_ne hname]
      exact h name

theorem HandledOnce.foldl_after {loggers : Loggers} (h : loggers.HandledOnce)
    (acts : List Logging) : (acts.foldl Loggers.after loggers).HandledOnce := by
  induction acts generalizing loggers with
  | nil => exact h
  | cons act acts ih => exact ih (h.after act)

/-! ### Events told one after the other -/

theorem after_configure (logger : Logger) (verbose : Bool) :
    (ofProgram logger).after (.configure verbose) = ofProgram (logger.configure verbose) := by
  rw [after, ofProgram, Function.update_self, Function.update_idem, ofProgram]

theorem foldl_after_tell (loggers : Loggers) (events : List Event) :
    (events.map .tell).foldl after loggers = loggers := by
  induction events with
  | nil => rfl
  | cons event events ih => exact ih

theorem allLines_tell (hhandlers : 0 < logger.handlers) (events : List Event) :
    (ofProgram logger).allLines (events.map .tell) = logger.writeAll events := by
  induction events with
  | nil => rfl
  | cons event events ih =>
    rw [List.map_cons, allLines, lines, write_ofProgram hhandlers, after, ih]
    rfl

end Loggers

namespace Logger

theorem handlers_configure {logger : Logger} (h : logger.handlers ≤ 1) (verbose : Bool) :
    (logger.configure verbose).handlers = 1 := by
  rw [configure]
  split
  case isTrue => rfl
  case isFalse hone => exact le_antisymm h (Nat.pos_of_ne_zero hone)

/-- A prepared logger writes each event once that it is to show. -/
theorem writeAll_configure {logger : Logger} (h : logger.handlers ≤ 1) (verbose : Bool)
    (events : List Event) : (logger.configure verbose).writeAll events =
      (events.filter fun event => event.level = .warning ∨ verbose = true).map Event.line := by
  have hwrite (event : Event) : (logger.configure verbose).write event =
      if event.level = .warning ∨ verbose = true then [event.line] else [] := by
    rw [write, handlers_configure h]
    cases verbose <;> simp [shows, configure]
  induction events with
  | nil => rfl
  | cons event events ih =>
    rw [writeAll] at ih
    rw [writeAll, List.flatMap_cons, ih, hwrite]
    split
    case isTrue hshown => simp [hshown]
    case isFalse hhidden => simp [hhidden]

end Logger

/-! ### A run with another logger -/

def Site.withLogger (site : Site) (logger : Logger) : Site := { site with logger := logger }

def Outcome.withLogger (outcome : Outcome) (logger : Logger) : Outcome :=
  { outcome with logger := logger }

/-- Whether a run gets so far as to prepare the logger. -/
def Settings.prepares (settings : Settings) (tree : FileTree) : Bool :=
  settings.path.any tree.pathExists

/-- The logger that a run with the settings leaves. -/
def Settings.loggerAfter (settings : Settings) (tree : FileTree) (logger : Logger) : Logger :=
  if settings.prepares tree then logger.configure settings.verbose else logger

section

variable {settings : Settings} {path : Path}

theorem finish_withLogger (site : Site) (scan : Scan) (logger : Logger) :
    finish (site.withLogger logger) settings path scan =
      (finish site settings path scan).withLogger logger := by
  unfold finish Site.withLogger
  simp only
  split
  · rfl
  · rfl

theorem abandon_withLogger (site : Site) (scan : Scan) (error : ScanError) (logger : Logger) :
    abandon (site.withLogger logger) scan error =
      (abandon site scan error).withLogger logger := by
  unfold abandon
  cases error.blamesFile with
  | true => rfl
  | false => rfl

/-- A run that does not get as far as its input leaves at once. -/
theorem runWith_eq_leave {site : Site} (h : settings.prepares site.tree = false) (logger : Logger) :
    runWith (site.withLogger logger) settings =
      (site.withLogger logger).leave (runWith site settings).status
        (runWith site settings).printed [] := by
  unfold Settings.prepares at h
  cases hpath : settings.path with
  | none =>
    unfold runWith
    rw [hpath]
    rfl
  | some path =>
    rw [hpath, Option.any_some] at h
    unfold runWith Site.withLogger
    cases hobstacle : site.tree.obstacle? path with
    | some fault =>
      simp only [hpath, hobstacle]
      rfl
    | none =>
      simp only [hpath, hobstacle, h, Bool.not_false, if_true]
      rfl

/-- **All that a run owes to the logger it starts with is the logger that it leaves.** -/
theorem runWith_withLogger (site : Site) (settings : Settings) (logger : Logger) :
    runWith (site.withLogger logger) settings =
      (runWith site settings).withLogger (settings.loggerAfter site.tree logger) := by
  cases hprepares : settings.prepares site.tree with
  | false =>
    have hsame : runWith site settings = _ := runWith_eq_leave hprepares site.logger
    rw [runWith_eq_leave hprepares, hsame, Settings.loggerAfter, hprepares]
    rfl
  | true =>
    obtain ⟨path, hpath, hthere⟩ := Option.any_eq_true _ _ |>.1 hprepares
    let prepared := site.withLogger (site.logger.configure settings.verbose)
    rw [Settings.loggerAfter, if_pos hprepares]
    cases hstop : (scanPath site.tree site.reader settings path).stop with
    | some error =>
      have hother : runWith (site.withLogger logger) settings = _ :=
        runWith_of_stop hpath hthere hstop
      rw [hother, runWith_of_stop hpath hthere hstop]
      exact abandon_withLogger prepared _ error _
    | none =>
      have hother : runWith (site.withLogger logger) settings = _ :=
        runWith_of_reads_eq_finish ⟨hpath, hthere, hstop⟩
      rw [hother, runWith_of_reads_eq_finish ⟨hpath, hthere, hstop⟩]
      exact finish_withLogger prepared _ _

end

/-! ### Calls -/

/-- What can happen in a process. -/
inductive Call where
  | configure (verbose : Bool)
  /-- The logger is prepared and a file is scanned, on its own. -/
  | scanFile (verbose : Bool) (shapes : List Shape) (file : Path)
  | scanFolder (verbose : Bool) (shapes : List Shape) (settings : FolderSettings)
  | probe (verbose : Bool) (settings : AdminSettings)
  | run (arguments : List Text)
  /-- The files are changed by others. -/
  | edit (tree : FileTree)

namespace Call

/-- Whether the call asks for all events. -/
def verbose : Call → Bool
  | configure verbose | scanFile verbose .. | scanFolder verbose .. | probe verbose _ => verbose
  | run arguments => (CommandLine.parse arguments).toOption.any (·.verbose)
  | edit _ => false

/-- Whether the call prepares the logger. -/
def prepares (site : Site) : Call → Bool
  | configure _ | scanFile .. | scanFolder .. | probe .. => true
  | run arguments => (CommandLine.parse arguments).toOption.any (·.prepares site.tree)
  | edit _ => false

def events (site : Site) : Call → List Event
  | scanFile _ shapes file =>
    match VclReview.scanFile site.tree site.reader shapes file with
    | .ok annotations => [scannedEvent false file annotations]
    | .error _ => []
  | scanFolder _ shapes settings =>
    (VclReview.scanFolder site.tree site.reader shapes settings).events
  | probe _ settings => (VclReview.probe site.clock site.tree settings).events
  | run arguments => (VclReview.run site arguments).events
  | configure _ | edit _ => []

/-- What is wrong with the command line of the call. -/
def complaint (site : Site) : Call → List Text
  | run arguments => (VclReview.run site arguments).complaint
  | configure _ | scanFile .. | scanFolder .. | probe .. | edit _ => []

/-- What the call does with the loggers, one after the other. -/
def acts (site : Site) (call : Call) : List Logging :=
  (if call.prepares site then [.configure call.verbose] else []) ++ (call.events site).map .tell

/-- The site that the call leaves to the next one. -/
def leaves (site : Site) : Call → Site
  | run arguments =>
    let outcome := VclReview.run site arguments
    { site with tree := outcome.tree, logger := outcome.logger }
  | edit tree => { site with tree := tree }
  | configure verbose | scanFile verbose .. | scanFolder verbose .. | probe verbose _ =>
    site.withLogger (site.logger.configure verbose)

/-- The lines that the call writes on standard error. -/
def stderr (site : Site) : Call → List Text
  | run arguments => (VclReview.run site arguments).stderr
  | edit _ => []
  | call => (call.leaves site).logger.writeAll (call.events site)

/-! ### One call -/

variable {site : Site}

/-- The logger that the call leaves. -/
def loggerAfter (site : Site) (call : Call) (logger : Logger) : Logger :=
  if call.prepares site then logger.configure call.verbose else logger

theorem run_withLogger (site : Site) (arguments : List Text) (logger : Logger) :
    VclReview.run (site.withLogger logger) arguments =
      (VclReview.run site arguments).withLogger ((run arguments).loggerAfter site logger) := by
  rw [loggerAfter, prepares, verbose]
  cases hparse : CommandLine.parse arguments with
  | ok settings =>
    rw [run_of_parse hparse, run_of_parse hparse]
    exact runWith_withLogger site settings logger
  | error refusal =>
    unfold VclReview.run
    rw [hparse]
    cases refusal with
    | help => rfl
    | mistake => rfl

theorem events_withLogger (call : Call) (logger : Logger) :
    call.events (site.withLogger logger) = call.events site := by
  cases call with
  | run arguments =>
    exact (congrArg Outcome.events (run_withLogger site arguments logger) :)
  | configure | scanFile | scanFolder | probe | edit => rfl

theorem complaint_withLogger (call : Call) (logger : Logger) :
    call.complaint (site.withLogger logger) = call.complaint site := by
  cases call with
  | run arguments =>
    exact (congrArg Outcome.complaint (run_withLogger site arguments logger) :)
  | configure | scanFile | scanFolder | probe | edit => rfl

theorem logger_leaves (call : Call) :
    (call.leaves site).logger = call.loggerAfter site site.logger := by
  cases call with
  | run arguments => exact congrArg Outcome.logger (run_withLogger site arguments site.logger)
  | configure | scanFile | scanFolder | probe | edit => rfl

theorem stderr_eq_writeAll (call : Call) : call.stderr site =
    call.complaint site ++ (call.leaves site).logger.writeAll (call.events site) := by
  cases call with
  | run | configure | scanFile | scanFolder | probe | edit => rfl

/-- Nothing is told before the logger has been prepared. -/
theorem events_of_not_prepares {call : Call} (h : call.prepares site = false) :
    call.events site = [] := by
  cases call with
  | configure | edit => rfl
  | scanFile | scanFolder | probe => cases h
  | run arguments =>
    rw [prepares] at h
    rw [events]
    cases hparse : CommandLine.parse arguments with
    | ok settings =>
      rw [hparse] at h
      rw [run_of_parse hparse]
      exact congrArg Outcome.events (runWith_eq_leave h site.logger)
    | error refusal =>
      unfold VclReview.run
      rw [hparse]
      cases refusal with
      | help => rfl
      | mistake => rfl

/-- The lines of a call, each event of which is written once if it is to be shown. -/
theorem stderr_eq (h : site.logger.handlers ≤ 1) (call : Call) : call.stderr site =
    call.complaint site ++ ((call.events site).filter fun event =>
      event.level = .warning ∨ call.verbose = true).map Event.line := by
  rw [stderr_eq_writeAll, logger_leaves, loggerAfter]
  cases hprepares : call.prepares site with
  | true => rw [if_pos rfl, Logger.writeAll_configure h]
  | false =>
    rw [events_of_not_prepares hprepares]
    rfl

theorem allLines_acts (h : site.logger.handlers ≤ 1) (call : Call) :
    (Loggers.ofProgram site.logger).allLines (call.acts site) =
      (call.leaves site).logger.writeAll (call.events site) := by
  rw [logger_leaves, loggerAfter, acts]
  cases hprepares : call.prepares site with
  | true =>
    have hone := Logger.handlers_configure h call.verbose
    rw [if_pos rfl, if_pos rfl, List.singleton_append, Loggers.allLines, Loggers.after_configure,
      Loggers.allLines_tell (hone.symm ▸ Nat.one_pos)]
    rfl
  | false =>
    rw [events_of_not_prepares hprepares]
    rfl

theorem foldl_after_acts (call : Call) :
    (call.acts site).foldl Loggers.after (Loggers.ofProgram site.logger) =
      Loggers.ofProgram (call.leaves site).logger := by
  rw [logger_leaves, loggerAfter, acts, List.foldl_append, Loggers.foldl_after_tell]
  cases call.prepares site with
  | true => exact Loggers.after_configure site.logger call.verbose
  | false => rfl

/-! ### Any number of calls -/

/-- What the call says owes nothing to what has been called before it. -/
structure SpeaksAsFirst (call : Call) (site : Site) : Prop where
  /-- Not even while the call lasts is there a second handler. -/
  one_handler : ∀ acts, acts <+: call.acts site →
    (acts.foldl Loggers.after (Loggers.ofProgram site.logger)).HandledOnce
  left : (call.acts site).foldl Loggers.after (Loggers.ofProgram site.logger) =
    Loggers.ofProgram (call.leaves site).logger
  /-- The events go through the loggers of the parts that they come from. -/
  through_loggers : call.stderr site =
    call.complaint site ++ (Loggers.ofProgram site.logger).allLines (call.acts site)
  as_first : call.stderr site = call.stderr (site.withLogger .fresh)
  each_once : call.stderr site =
    call.complaint site ++ ((call.events site).filter fun event =>
      event.level = .warning ∨ call.verbose = true).map Event.line

theorem speaksAsFirst_of_handlers (h : site.logger.handlers ≤ 1) (call : Call) :
    call.SpeaksAsFirst site where
  one_handler acts _ := (Loggers.handledOnce_ofProgram h).foldl_after acts
  left := call.foldl_after_acts
  through_loggers := by rw [stderr_eq_writeAll, allLines_acts h]
  as_first := by
    have hfresh : (site.withLogger .fresh).logger.handlers ≤ 1 := Nat.zero_le 1
    rw [stderr_eq h, stderr_eq hfresh, events_withLogger, complaint_withLogger]
  each_once := stderr_eq h call

theorem handlers_leaves (h : site.logger.handlers ≤ 1) (call : Call) :
    (call.leaves site).logger.handlers ≤ 1 := by
  have hone := (Loggers.handledOnce_ofProgram h).foldl_after (call.acts site)
    Loggers.programName
  rwa [foldl_after_acts, if_pos rfl, Loggers.ofProgram, Function.update_self] at hone

theorem handlers_foldl_leaves (h : site.logger.handlers ≤ 1) (calls : List Call) :
    (calls.foldl leaves site).logger.handlers ≤ 1 := by
  induction calls generalizing site with
  | nil => exact h
  | cons call calls ih => exact ih (handlers_leaves h call)

/-- **What a call says does not depend on what has been called before.**  After any number of
    calls in a process that starts without a handler, there is one handler at most, and the
    next call says what it would say as the first one on the same files: each warning once,
    and each other event once if the call itself asks for all events. -/
theorem speaksAsFirst_after (site : Site) (before : List Call) (call : Call) :
    call.SpeaksAsFirst (before.foldl leaves (site.withLogger .fresh)) :=
  speaksAsFirst_of_handlers (handlers_foldl_leaves (Nat.zero_le 1) before) call

end Call

end VclReview
