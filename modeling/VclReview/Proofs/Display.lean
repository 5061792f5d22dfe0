/-
  VclReview/Proofs/Display.lean
  =============================
  **What is shown does not interfere.**  Two command lines that differ in what is to be shown
  only, the log, the progress or the numbers of the lines, lead to runs that do the same
  (`run_ends_alike`).  Line numbers add a line with its place before the messages about each
  line, and nothing else that is printed about lines begins with a bracket (`filter_render`).
-/
import VclReview.Proofs.Flags
import VclReview.Proofs.Readback
import VclReview.Proofs.Runs

namespace VclReview

/-! ### Places -/

/-- The line that says where the line of an annotation stands. -/
def Annotation.place (a : Annotation) : Text :=
  "[" ++ a.location ++ ":" ++ Text.ofInt a.lineNumber ++ "]"

theorem Annotation.head?_place (a : Annotation) : a.place.head? = some '[' := rfl

theorem render_false (annotations : List Annotation) :
    render false annotations = annotations.flatMap (·.messages) := rfl

theorem render_true (annotations : List Annotation) :
    render true annotations = annotations.flatMap fun a => a.place :: a.messages := rfl

theorem not_prefix_of_mem_said {shape : Shape} (hshape : shape ∈ Shape.builtin) {lead line m : Text}
    (hlead : lead ∈ unspokenLeads) (hm : m ∈ shape.said line) : ¬ lead <+: m := by
  rcases List.mem_cons.1 hm with rfl | hadvice
  · have hapart : ∀ lead ∈ unspokenLeads, Apart lead ['C'] := by decide
    exact (hapart lead hlead).not_prefix_left
      (singleton_prefix_iff.2 (Shape.head?_opening hshape line))
  · obtain ⟨template, htemplate, rfl⟩ := List.mem_map.1 hadvice
    obtain ⟨text, htext, rfl⟩ := List.mem_map.1 htemplate
    have hunadvised : lead ∈ unadvisedLeads :=
      List.mem_cons_of_mem _ (List.mem_cons_of_mem _ hlead)
    exact (Shape.advice_continues shape hshape text htext).not_prefix_text hunadvised _

theorem not_prefix_of_mem_unrecognizedLines {lead line m : Text} (hlead : lead ∈ unspokenLeads)
    (hm : m ∈ Annotation.unrecognizedLines line) : ¬ lead <+: m := by
  have hapart : ∀ lead ∈ unspokenLeads, Apart lead ['U'] ∧ Apart lead ['W'] := by decide
  rcases List.mem_cons.1 hm with rfl | hm
  · exact (hapart lead hlead).1.not_prefix_left (singleton_prefix_iff.2 rfl)
  · obtain rfl := List.mem_singleton.1 hm
    exact (hapart lead hlead).2.not_prefix_left (singleton_prefix_iff.2 rfl)

/-- No message of the language can be taken for a place, or for a line that says that there is
    nothing, whatever it is about. -/
theorem not_prefix_of_mem_messages {lead line m location : Text} {lineNumber : Int}
    (hlead : lead ∈ unspokenLeads)
    (hm : m ∈ (annotationOf line lineNumber location).messages) : ¬ lead <+: m := by
  cases htaker : taker? line with
  | none =>
    simp only [annotationOf, htaker] at hm
    exact not_prefix_of_mem_unrecognizedLines hlead hm
  | some shape =>
    simp only [annotationOf, htaker] at hm
    exact not_prefix_of_mem_said (mem_builtin_of_taker? htaker) hlead hm

theorem filter_render {annotations : List Annotation}
    (h : ∀ a ∈ annotations, ∀ m ∈ a.messages, m.head? ≠ some '[') :
    (render true annotations).filter (·.head? = some '[') = annotations.map (·.place) ∧
      (render true annotations).filter (·.head? ≠ some '[') = render false annotations := by
  rw [render_true, render_false]
  induction annotations with
  | nil => exact ⟨rfl, rfl⟩
  | cons a rest ih =>
    obtain ⟨hplaces, hothers⟩ := ih fun b hb => h b (List.mem_cons_of_mem a hb)
    have hmessage := h a List.mem_cons_self
    have hnone : a.messages.filter (·.head? = some '[') = [] := by
      rw [List.filter_eq_nil_iff]
      intro m hm
      simpa using hmessage m hm
    have hall : a.messages.filter (·.head? ≠ some '[') = a.messages := by
      rw [List.filter_eq_self]
      intro m hm
      simpa using hmessage m hm
    simp only [List.flatMap_cons, List.filter_append, List.map_cons]
    constructor
    · rw [List.filter_cons_of_pos (by simp [a.head?_place]), hnone, hplaces]
      rfl
    · rw [List.filter_cons_of_neg (by simp [a.head?_place]), hall, hothers]

/-! ### Scans -/

/-- The settings with another choice of what is shown. -/
def Settings.showing (settings : Settings) (lineNumbers verbose noProgress : Bool) : Settings :=
  { settings with lineNumbers := lineNumbers, verbose := verbose, noProgress := noProgress }

/-- The scans find the same and tell the same. -/
structure Scan.FindsAs (other scan : Scan) : Prop where
  results : other.results = scan.results
  events : other.events = scan.events
  stop : other.stop = scan.stop

theorem scanFiles_showProgress (tree : FileTree) (reader : TextReader) (shapes : List Shape)
    (settings : FolderSettings) (shown : Bool) (files : List Path) :
    (scanFiles tree reader shapes { settings with showProgress := shown } files).FindsAs
      (scanFiles tree reader shapes settings files) := by
  unfold scanFiles
  simp only
  split
  · exact ⟨rfl, rfl, rfl⟩
  · exact ⟨rfl, rfl, rfl⟩

theorem scanFolder_showProgress (tree : FileTree) (reader : TextReader) (shapes : List Shape)
    (settings : FolderSettings) (shown : Bool) :
    (scanFolder tree reader shapes { settings with showProgress := shown }).FindsAs
      (scanFolder tree reader shapes settings) := by
  -- neither the verdicts nor the chosen files depend on what is shown
  have hjudge (names : List Text) :
      FolderSettings.judge { settings with showProgress := shown } tree names =
        settings.judge tree names := rfl
  have hchosen : FolderSettings.chosen? { settings with showProgress := shown } tree =
      settings.chosen? tree := rfl
  have hrefusal : FolderSettings.refusal? { settings with showProgress := shown } tree =
      settings.refusal? tree := rfl
  unfold scanFolder
  simp only [hjudge, hchosen, hrefusal]
  split
  · exact ⟨rfl, rfl, rfl⟩
  split
  · exact ⟨rfl, rfl, rfl⟩
  · obtain ⟨hresults, hevents, hstop⟩ := scanFiles_showProgress tree reader shapes settings shown _
    refine ⟨hresults, ?_, hstop⟩
    simp only [hevents]

theorem scanPath_showing (tree : FileTree) (reader : TextReader) (settings : Settings) (path : Path)
    (lineNumbers verbose noProgress : Bool) :
    (scanPath tree reader (settings.showing lineNumbers verbose noProgress) path).FindsAs
      (scanPath tree reader settings path) := by
  unfold scanPath
  by_cases hfolder : tree.isFolder path = true
  · rw [if_pos hfolder, if_pos hfolder]
    exact scanFolder_showProgress tree reader Shape.builtin (settings.folder path) _
  · rw [if_neg hfolder, if_neg hfolder]
    split
    · exact ⟨rfl, rfl, rfl⟩
    · exact ⟨rfl, rfl, rfl⟩

/-! ### Runs -/

/-- The runs end alike: with the same status, the same files and the same programs run. -/
structure Outcome.EndsAs (other outcome : Outcome) : Prop where
  status : other.status = outcome.status
  tree : other.tree = outcome.tree
  attempts : other.attempts = outcome.attempts
  runs : other.runs = outcome.runs

variable {clock : Clock} {tree : FileTree} {site : Site} {settings : Settings} {path : Path}
  {lineNumbers verbose noProgress : Bool}

theorem runAudit_showing : runAudit clock tree (settings.showing lineNumbers verbose noProgress) =
    runAudit clock tree settings := rfl

theorem writeReport_showing {results : Results} {audit : Option (List Text)} :
    writeReport tree (settings.showing lineNumbers verbose noProgress) results audit =
      writeReport tree settings results audit := rfl

theorem finish_showing {other scan : Scan} (h : other.FindsAs scan) (site : Site)
    (logger : Logger) (settings : Settings) (path : Path) :
    (finish { site with logger := logger } (settings.showing lineNumbers verbose noProgress)
      path other).EndsAs (finish site settings path scan) := by
  unfold finish
  simp only [runAudit_showing, writeReport_showing, h.results, h.events]
  split
  · exact ⟨rfl, rfl, rfl, rfl⟩
  · exact ⟨rfl, rfl, rfl, rfl⟩

theorem abandon_showing {other scan : Scan} (h : other.FindsAs scan) (site : Site)
    (logger : Logger) (error : ScanError) :
    (abandon { site with logger := logger } other error).EndsAs (abandon site scan error) ∧
      (abandon { site with logger := logger } other error).printed =
        (abandon site scan error).printed := by
  have hattempts := congrArg (List.filterMap Event.command?) h.events
  unfold abandon
  cases error.blamesFile with
  | true => exact ⟨⟨rfl, rfl, hattempts, rfl⟩, rfl⟩
  | false => exact ⟨⟨rfl, rfl, hattempts, rfl⟩, rfl⟩

/-- The lines of the audit, if there is one. -/
def Settings.auditLines (settings : Settings) (clock : Clock) (tree : FileTree) : List Text :=
  match runAudit clock tree settings with
  | .ok audit => audit.lines.getD []
  | .error _ => []

theorem printed_of_reads (h : site.Reads settings path) :
    (runWith site settings).printed =
      site.account settings path ++ settings.auditLines site.clock site.tree := by
  unfold Settings.auditLines
  cases haudit : runAudit site.clock site.tree settings with
  | ok audit =>
    obtain ⟨hprinted, -⟩ := runWith_of_reads h haudit
    exact hprinted
  | error failure =>
    obtain ⟨hprinted, -⟩ := runWith_of_no_answer h haudit
    rw [hprinted, List.append_nil]

/-- A run does the same whatever is to be shown and however the log is written, and unless it
    is about line numbers it also prints the same. -/
theorem runWith_showing (site : Site) (settings : Settings) (logger : Logger)
    (lineNumbers verbose noProgress : Bool) :
    (runWith { site with logger := logger }
        (settings.showing lineNumbers verbose noProgress)).EndsAs (runWith site settings) ∧
      (lineNumbers = settings.lineNumbers →
        (runWith { site with logger := logger }
          (settings.showing lineNumbers verbose noProgress)).printed =
            (runWith site settings).printed) := by
  cases hpath : settings.path with
  | none =>
    unfold runWith
    simp only [Settings.showing, hpath]
    exact ⟨⟨rfl, rfl, rfl, rfl⟩, fun _ => rfl⟩
  | some path =>
    cases hthere : site.tree.pathExists path with
    | false =>
      unfold runWith
      simp only [Settings.showing, hpath, hthere]
      split
      · exact ⟨⟨rfl, rfl, rfl, rfl⟩, fun _ => rfl⟩
      · exact ⟨⟨rfl, rfl, rfl, rfl⟩, fun _ => rfl⟩
    | true =>
      have hscan := scanPath_showing site.tree site.reader settings path lineNumbers verbose
        noProgress
      cases hstop : (scanPath site.tree site.reader settings path).stop with
      | some error =>
        have hother : runWith { site with logger := logger }
            (settings.showing lineNumbers verbose noProgress) = _ :=
          runWith_of_stop hpath hthere (hscan.stop.trans hstop)
        rw [hother, runWith_of_stop hpath hthere hstop]
        obtain ⟨hends, hprinted⟩ := abandon_showing hscan
          { site with logger := site.logger.configure settings.verbose }
          (logger.configure verbose) error
        exact ⟨hends, fun _ => hprinted⟩
      | none =>
        have hreads : site.Reads settings path := ⟨hpath, hthere, hstop⟩
        have hreads' : Site.Reads { site with logger := logger }
            (settings.showing lineNumbers verbose noProgress) path :=
          ⟨hpath, hthere, hscan.stop.trans hstop⟩
        constructor
        · rw [runWith_of_reads_eq_finish hreads, runWith_of_reads_eq_finish hreads']
          exact finish_showing hscan { site with logger := site.logger.configure settings.verbose }
            (logger.configure verbose) settings path
        · rintro rfl
          rw [printed_of_reads hreads, printed_of_reads hreads']
          rfl

/-- The lines about each file, with those given for each annotation. -/
def Results.told (results : Results) (lines : Annotation → List Text) : List Text :=
  results.flatMap fun (file, annotations) =>
    ("Analyzing Varnish Configuration File: " ++ file.toText) :: annotations.flatMap lines

/-- Of each annotation of the results the one run prints the messages, and the other its place
    and the messages; all else is printed by both. -/
def Outcome.AddsPlaces (numbered plain : Outcome) (results : Results) : Prop :=
  ∃ before after, plain.printed = before ++ results.told (·.messages) ++ after ∧
    numbered.printed = before ++ results.told (fun a => a.place :: a.messages) ++ after

theorem runWith_lineNumbers (h : site.Reads settings path) (hplain : settings.lineNumbers = false) :
    (runWith site (settings.showing true verbose noProgress)).AddsPlaces (runWith site settings)
      (analysed site.tree site.reader (settings.inputFiles site.tree path)) := by
  have hscan := scanPath_showing site.tree site.reader settings path true verbose noProgress
  have hreads : site.Reads (settings.showing true verbose noProgress) path :=
    ⟨h.given, h.there, hscan.stop.trans h.goes_on⟩
  rw [Outcome.AddsPlaces, printed_of_reads h, printed_of_reads hreads]
  refine ⟨_, settings.auditLines site.clock site.tree, ?_, rfl⟩
  rw [Site.account, analysis, hplain]
  rfl

/-! ### Command lines -/

/-- Whether the option is about what is shown. -/
def Flag.isDisplay : Flag → Bool
  | .lineNumbers | .verbose | .noProgress => true
  | _ => false

/-- The command line is the given one with options about what is shown, added anywhere in front
    of the separator. -/
inductive CommandLine.Adorns (base : List Text) : List Text → Prop where
  | bare : Adorns base base
  | insert {front back : List Text} {spelling : Text} {flag : Flag}
      (rest : Adorns base (front ++ back)) (hfront : separator ∉ front)
      (hspelling : Argument.ofText spelling = .ok (.option flag none))
      (hflag : flag.isDisplay = true) : Adorns base (front ++ spelling :: back)

theorem Settings.switchOn_eq_showing {flag : Flag} (hflag : flag.isDisplay = true)
    (settings : Settings) : ∃ lineNumbers verbose noProgress,
      settings.switchOn flag = settings.showing lineNumbers verbose noProgress := by
  cases flag with
  | lineNumbers => exact ⟨true, settings.verbose, settings.noProgress, rfl⟩
  | verbose => exact ⟨settings.lineNumbers, true, settings.noProgress, rfl⟩
  | noProgress => exact ⟨settings.lineNumbers, settings.verbose, true, rfl⟩
  | help | out | noAudit | globs | excluded | maxFileSize | adminHost | adminPort | secretFile
  | binary | adminTimeout => cases hflag

theorem Flag.standsAlone_of_isDisplay {flag : Flag} (h : flag.isDisplay = true) :
    flag.standsAlone = true ∧ flag ≠ .help := by
  cases flag <;> simp_all [isDisplay, standsAlone]

theorem CommandLine.Adorns.parse {base arguments : List Text} (h : Adorns base arguments)
    (hparse : CommandLine.parse arguments = .ok settings) :
    ∃ plain lineNumbers verbose noProgress, CommandLine.parse base = .ok plain ∧
      settings = plain.showing lineNumbers verbose noProgress := by
  induction h generalizing settings with
  | bare => exact ⟨settings, _, _, _, hparse, rfl⟩
  | insert rest hfront hspelling hflag ih =>
    obtain ⟨halone, hhelp⟩ := Flag.standsAlone_of_isDisplay hflag
    obtain ⟨others, hothers, rfl⟩ := parse_insert_flag hfront hspelling halone hhelp hparse
    obtain ⟨plain, _, _, _, hplain, rfl⟩ := ih hothers
    obtain ⟨_, _, _, heq⟩ := Settings.switchOn_eq_showing hflag (plain.showing _ _ _)
    exact ⟨plain, _, _, _, hplain, heq⟩

/-- **What is to be shown does not interfere with what is done.**  Command lines that are the
    same up to the options about what is shown lead to the same files, the same programs run
    and the same status.  They print the same, but for the places in front of the messages. -/
theorem run_ends_alike (site : Site) (base arguments others : List Text)
    (settings changed : Settings)
    (harguments : CommandLine.Adorns base arguments) (hothers : CommandLine.Adorns base others)
    (hparse : CommandLine.parse arguments = .ok settings)
    (hchanged : CommandLine.parse others = .ok changed) :
    (run site others).EndsAs (run site arguments) ∧
      (changed.lineNumbers = settings.lineNumbers →
        (run site others).printed = (run site arguments).printed) ∧
      (settings.lineNumbers = false → changed.lineNumbers = true →
        ∀ path, site.Reads settings path → (run site others).AddsPlaces (run site arguments)
          (analysed site.tree site.reader (settings.inputFiles site.tree path))) ∧
      ∀ annotations, (∀ a ∈ annotations, ∃ line lineNumber location,
          annotate Shape.builtin line lineNumber location = .ok a) →
        (render true annotations).filter (·.head? = some '[') = annotations.map (·.place) ∧
          (render true annotations).filter (·.head? ≠ some '[') = render false annotations := by
  obtain ⟨plain, _, _, _, hplain, hsettings⟩ := harguments.parse hparse
  obtain ⟨plain', lineNumbers, verbose, noProgress, hplain', hshown⟩ := hothers.parse hchanged
  obtain rfl := Except.ok.inj (hplain.symm.trans hplain')
  obtain rfl : changed = settings.showing lineNumbers verbose noProgress := by
    rw [hshown, hsettings]
    rfl
  rw [run_of_parse hparse, run_of_parse hchanged]
  obtain ⟨hends, hprinted⟩ :=
    runWith_showing site settings site.logger lineNumbers verbose noProgress
  refine ⟨hends, hprinted, ?_, ?_⟩
  · rintro hwithout rfl path hreads
    exact runWith_lineNumbers hreads hwithout
  · intro annotations hmade
    apply filter_render
    intro a ha m hm
    obtain ⟨line, lineNumber, location, hannotate⟩ := hmade a ha
    obtain rfl := Except.ok.inj ((annotate_builtin line lineNumber location).symm.trans hannotate)
    rw [Ne, ← singleton_prefix_iff]
    exact not_prefix_of_mem_messages (by decide) hm

theorem run_ends_alike_of_scattered_flags :
    let site := Site.ofTree (FileTree.withProgram ⟨[], [110, 111], 1, false⟩)
    let outcome := run site ["a.vcl", "--out", "o"]
    let other := run site ["--verb", "a.vcl", "--line-numbers", "--out", "o", "--no-progress"]
    other.EndsAs outcome ∧ outcome.status = .ok 3 ∧
      other.AddsPlaces outcome (analysed site.tree site.reader [⟨.relative, ["a.vcl"]⟩]) ∧
      outcome.runs ≠ [] := by
  intro site outcome other
  have hone := @CommandLine.Adorns.insert ["a.vcl", "--out", "o"] ["a.vcl"] ["--out", "o"]
    "--line-numbers" .lineNumbers .bare (by decide) rfl rfl
  have htwo := @CommandLine.Adorns.insert _ ["a.vcl", "--line-numbers", "--out", "o"] []
    "--no-progress" .noProgress hone (by decide) rfl rfl
  have hthree := @CommandLine.Adorns.insert _ []
    ["a.vcl", "--line-numbers", "--out", "o", "--no-progress"] "--verb" .verbose htwo (by decide)
    rfl rfl
  obtain ⟨hends, -, hplaces, -⟩ := run_ends_alike site _ _ _ _
    ((Settings.reporting "a.vcl" "o").showing true true true) .bare hthree parse_reporting rfl
  refine ⟨hends, by decide +kernel, ?_, by decide +kernel⟩
  exact hplaces rfl rfl ⟨.relative, ["a.vcl"]⟩ ⟨rfl, by decide +kernel, by decide +kernel⟩

end VclReview
