/-
  VclReview/Proofs/Probing.lean
  =============================
  **How a probe ends.**  A program that is started ends in time or not, and one that has
  ended got the arguments of the command last (`run_cases`).  So a probe comes to headers
  or to an error of its own exactly if the program can be asked (`probe_answers_iff`):
  there is a program to run, its command holds no character zero, and either it cannot be
  started or the time to wait for it can be measured.  Whatever comes of it, the command
  has been tried once (`commands_probe`).  An audit prints what an answer says, and ends
  the run where there is none (`runAudit_cases`).
-/
import VclReview.Proofs.Input
import VclReview.Run

namespace VclReview

/-! ### Running a program -/

namespace FileTree

variable (tree : FileTree)

/-- A program that is run is refused, or does not end, or ends with these arguments as
    its last ones. -/
theorem run_cases (interpreters : Nat) (file : Text) (arguments : List Text) :
    (∃ fault, tree.run interpreters file arguments = .refused fault) ∨
      tree.run interpreters file arguments = .timedOut ∨
        ∃ status stdout stderr received,
          tree.run interpreters file arguments = .ended status stdout stderr received ∧
            arguments <:+ received := by
  induction interpreters generalizing file arguments with
  | zero =>
    unfold run
    split
    · exact Or.inl ⟨_, rfl⟩
    · exact Or.inl ⟨_, rfl⟩
  | succ interpreters ih =>
    unfold run
    split
    · exact Or.inl ⟨_, rfl⟩
    split
    case h_1 program _ =>
      split
      · exact Or.inl ⟨_, rfl⟩
      unfold Program.run
      split
      · exact Or.inr (Or.inl rfl)
      · exact Or.inr (Or.inr ⟨_, _, _, _, rfl, List.suffix_rfl⟩)
    case h_2 data _ =>
      split
      · exact Or.inl ⟨_, rfl⟩
      case h_2 script _ =>
        -- an interpreter gets the script and its arguments after one of its own
        rcases ih script.interpreter (script.argument.toList ++ file :: arguments) with
          hrefused | htimedOut | ⟨status, stdout, stderr, received, hended, hsuffix⟩
        · exact Or.inl hrefused
        · exact Or.inr (Or.inl htimedOut)
        · refine Or.inr (Or.inr ⟨status, stdout, stderr, received, hended, ?_⟩)
          have hargument : arguments <:+ script.argument.toList ++ file :: arguments :=
            (List.suffix_cons file arguments).trans (List.suffix_append _ _)
          exact hargument.trans hsuffix

theorem launch_cases (name : Text) (arguments : List Text) :
    (∃ text ∈ name :: arguments, '\x00' ∈ text) ∧
        tree.launch name arguments = .nulInArgument ∨
      (∀ text ∈ name :: arguments, '\x00' ∉ text) ∧
        ((∃ fault, tree.launch name arguments = .refused fault) ∨
          tree.launch name arguments = .timedOut ∨
            ∃ status stdout stderr received,
              tree.launch name arguments = .ended status stdout stderr received ∧
                arguments <:+ received) := by
  unfold launch
  simp only
  split
  case isTrue hnul =>
    refine Or.inl ⟨?_, rfl⟩
    simpa [-List.any_cons] using hnul
  case isFalse hnul =>
    refine Or.inr ⟨?_, ?_⟩
    · intro text htext hzero
      exact hnul (List.any_eq_true.2 ⟨text, htext, List.elem_eq_true_of_mem hzero⟩)
    · split
      · exact Or.inl ⟨_, rfl⟩
      split
      · exact Or.inl ⟨_, rfl⟩
      · exact tree.run_cases maxInterpreters (programPath name) arguments

end FileTree

/-! ### Waiting for it -/

/-- The clock and the timer can hold the seconds to wait. -/
def Measurable (clock : Clock) (seconds : Setting Seconds) : Prop :=
  ∃ given count wait, seconds = .value given ∧ given.toFloat? = some count ∧
    Wait.ofSeconds clock count = .ok wait

/-- The program has been started. -/
def Launch.Started : Launch → Prop
  | .nulInArgument | .refused _ => False
  | .timedOut | .ended .. => True

theorem Launch.within_of_started {launch : Launch} (h : launch.Started) (clock : Clock)
    (seconds : Setting Seconds) : launch.within clock seconds =
      match seconds with
      | .blank => .error .unset
      | .value given =>
        match given.toFloat? with
        | none => .error .beyondDoubles
        | some count => (Wait.ofSeconds clock count).map fun
          | .none => .timedOut
          | .enough => launch := by
  cases launch with
  | nulInArgument => exact h.elim
  | refused fault => exact h.elim
  | timedOut => rfl
  | ended => rfl

/-- Waiting changes nothing or cuts the program short; only the time to wait for a program
    that has been started can be an error. -/
theorem Launch.within_cases (launch : Launch) (clock : Clock) (seconds : Setting Seconds) :
    (launch.Started → Measurable clock seconds) ∧
        (launch.within clock seconds = .ok launch ∨ launch.within clock seconds = .ok .timedOut) ∨
      (launch.Started ∧ ¬ Measurable clock seconds) ∧
        ∃ error, launch.within clock seconds = .error error := by
  by_cases hstarted : launch.Started
  · rw [Launch.within_of_started hstarted]
    cases seconds with
    | blank =>
      refine Or.inr ⟨⟨hstarted, ?_⟩, _, rfl⟩
      rintro ⟨given, -, -, hgiven, -⟩
      cases hgiven
    | value given =>
      cases hcount : given.toFloat? with
      | none =>
        refine Or.inr ⟨⟨hstarted, ?_⟩, .beyondDoubles, by simp only [hcount]⟩
        rintro ⟨given, count, -, hgiven, hsome, -⟩
        cases hgiven
        cases hcount.symm.trans hsome
      | some count =>
        cases hwait : Wait.ofSeconds clock count with
        | error error =>
          refine Or.inr ⟨⟨hstarted, ?_⟩, error, by simp only [hcount, hwait, Except.map]⟩
          rintro ⟨given, count, wait, hgiven, hsome, hok⟩
          cases hgiven
          cases hcount.symm.trans hsome
          cases hwait.symm.trans hok
        | ok wait =>
          refine Or.inl ⟨fun _ => ⟨given, count, wait, rfl, hcount, hwait⟩, ?_⟩
          simp only [hcount, hwait, Except.map]
          cases wait with
          | none => exact Or.inr rfl
          | enough => exact Or.inl rfl
  · refine Or.inl ⟨fun h => absurd h hstarted, Or.inl ?_⟩
    cases launch with
    | nulInArgument => rfl
    | refused fault => rfl
    | timedOut => exact absurd trivial hstarted
    | ended => exact absurd trivial hstarted

/-! ### The probe -/

/-- There is a program to ask, its command holds no character zero, and it cannot be
    started or can be waited for. -/
def AdminSettings.CanAsk (settings : AdminSettings) (clock : Clock) (tree : FileTree) : Prop :=
  ∃ binary, settings.binary = .value binary ∧
    (∀ text ∈ binary :: settings.arguments, '\x00' ∉ text) ∧
      ((∃ fault, tree.launch binary settings.arguments = .refused fault) ∨
        Measurable clock settings.timeout)

/-- The probe comes to headers or to an error of its own. -/
def Probe.Answers (probe : Probe) : Prop :=
  (∃ headers, probe.headers = .ok headers) ∨ ∃ error, probe.headers = .error (.failed error)

variable {clock : Clock} {tree : FileTree} {settings : AdminSettings}

theorem headersOf_answers (settings : AdminSettings) (binary : Text) {launch : Launch}
    (h : launch ≠ .nulInArgument) :
    (∃ headers, headersOf settings binary launch = .ok headers) ∨
      ∃ error, headersOf settings binary launch = .error (.failed error) := by
  cases launch with
  | nulInArgument => exact absurd rfl h
  | refused fault => cases fault <;> exact Or.inr ⟨_, rfl⟩
  | timedOut => exact Or.inr ⟨_, rfl⟩
  | ended status stdout stderr received =>
    unfold headersOf
    simp only
    split
    · exact Or.inl ⟨_, rfl⟩
    · exact Or.inr ⟨_, rfl⟩

theorem probe_of_launch {binary : Text} {launch : Launch} (hbinary : settings.binary = .value binary)
    (h : (tree.launch binary settings.arguments).within clock settings.timeout = .ok launch) :
    (probe clock tree settings).headers = headersOf settings binary launch := by
  unfold probe
  simp only [hbinary, h]

/-- **A probe answers exactly if the program can be asked.** -/
theorem probe_answers_iff : (probe clock tree settings).Answers ↔ settings.CanAsk clock tree := by
  cases hbinary : settings.binary with
  | blank =>
    unfold Probe.Answers probe AdminSettings.CanAsk
    simp [hbinary]
  | value binary =>
    have hask : settings.CanAsk clock tree ↔
        (∀ text ∈ binary :: settings.arguments, '\x00' ∉ text) ∧
          ((∃ fault, tree.launch binary settings.arguments = .refused fault) ∨
            Measurable clock settings.timeout) := by
      simp [AdminSettings.CanAsk, hbinary]
    rw [hask]
    rcases tree.launch_cases binary settings.arguments with
      ⟨⟨text, htext, hzero⟩, hlaunch⟩ | ⟨hnul, hlaunch⟩
    · refine iff_of_false ?_ fun h => h.1 text htext hzero
      unfold Probe.Answers probe
      simp [hbinary, hlaunch, Launch.within, headersOf]
    -- every other launch answers once it has been waited for
    have hne : tree.launch binary settings.arguments ≠ .nulInArgument := by
      rintro heq
      rcases hlaunch with ⟨fault, h⟩ | h | ⟨_, _, _, _, h, -⟩
      all_goals cases heq.symm.trans h
    have hstarted : (tree.launch binary settings.arguments).Started ↔
        ¬ ∃ fault, tree.launch binary settings.arguments = .refused fault := by
      rcases hlaunch with ⟨fault, h⟩ | h | ⟨_, _, _, _, h, -⟩
      all_goals
        rw [h]
        simp [Launch.Started]
    rcases (tree.launch binary settings.arguments).within_cases clock settings.timeout with
      ⟨hmeasurable, hwithin⟩ | ⟨⟨hlaunched, hmeasurable⟩, error, hwithin⟩
    · refine iff_of_true ?_ ⟨hnul, ?_⟩
      · unfold Probe.Answers
        rcases hwithin with hwithin | hwithin
        · rw [probe_of_launch hbinary hwithin]
          exact headersOf_answers settings binary hne
        · rw [probe_of_launch hbinary hwithin]
          exact headersOf_answers settings binary (by simp)
      · by_cases hrefused : ∃ fault, tree.launch binary settings.arguments = .refused fault
        · exact Or.inl hrefused
        · exact Or.inr (hmeasurable (hstarted.2 hrefused))
    · refine iff_of_false ?_ ?_
      · unfold Probe.Answers probe
        simp [hbinary, hwithin]
      · rintro ⟨-, hrefused | h⟩
        · exact hstarted.1 hlaunched hrefused
        · exact hmeasurable h

theorem commands_probe (clock : Clock) (tree : FileTree) (settings : AdminSettings) :
    (probe clock tree settings).events.filterMap Event.command? = settings.command?.toList := by
  have hlisted (headers : Except ProbeFailure (List Text)) :
      (listedEvent? headers).toList.filterMap Event.command? = [] := by
    cases headers <;> rfl
  unfold probe AdminSettings.command?
  cases settings.binary with
  | blank => rfl
  | value binary =>
    simp only
    split
    · rfl
    · exact congrArg _ (hlisted _)

/-- At most one program is run to its end, and it gets the arguments of the command. -/
theorem runs_probe (clock : Clock) (tree : FileTree) (settings : AdminSettings) :
    (probe clock tree settings).runs = [] ∨
      ∃ received, (probe clock tree settings).runs = [received] ∧
        settings.arguments <:+ received := by
  unfold probe
  cases settings.binary with
  | blank => exact Or.inl rfl
  | value binary =>
    simp only
    rcases (tree.launch binary settings.arguments).within_cases clock settings.timeout with
      ⟨-, hwithin | hwithin⟩ | ⟨-, error, hwithin⟩
    · rw [hwithin]
      rcases tree.launch_cases binary settings.arguments with
        ⟨-, hlaunch⟩ | ⟨-, ⟨fault, hlaunch⟩ | hlaunch | ⟨_, _, _, received, hlaunch, hsuffix⟩⟩
      · exact Or.inl (by rw [hlaunch]; rfl)
      · exact Or.inl (by rw [hlaunch]; rfl)
      · exact Or.inl (by rw [hlaunch]; rfl)
      · exact Or.inr ⟨received, by rw [hlaunch]; rfl, hsuffix⟩
    · rw [hwithin]
      exact Or.inl rfl
    · rw [hwithin]
      exact Or.inl rfl

/-! ### The audit -/

theorem runAudit_of_noAudit {clock : Clock} {tree : FileTree} {settings : Settings}
    (h : settings.noAudit = true) :
    runAudit clock tree settings = .ok ⟨none, 0, [], []⟩ := by
  unfold runAudit
  rw [if_pos h]
  rfl

/-- An audit is switched off, or comes to headers, or fails, or ends the run. -/
theorem runAudit_cases (clock : Clock) (tree : FileTree) (settings : Settings) :
    settings.noAudit = true ∧ runAudit clock tree settings = .ok ⟨none, 0, [], []⟩ ∨
      settings.noAudit = false ∧
        ((∃ headers, (probe clock tree settings.admin).headers = .ok headers ∧
            runAudit clock tree settings = .ok
              ⟨some (auditHeaders headers), 0, (probe clock tree settings.admin).events,
                (probe clock tree settings.admin).runs⟩) ∨
          (∃ error, (probe clock tree settings.admin).headers = .error (.failed error) ∧
            runAudit clock tree settings = .ok
              ⟨some ["Header audit failed: " ++ error.message], 3,
                (probe clock tree settings.admin).events ++ [.auditFailed error.message],
                (probe clock tree settings.admin).runs⟩) ∨
          ¬ (probe clock tree settings.admin).Answers ∧
            ∃ failure, runAudit clock tree settings =
              .error (failure, (probe clock tree settings.admin).events)) := by
  unfold runAudit Probe.Answers
  cases settings.noAudit with
  | true => exact Or.inl ⟨rfl, rfl⟩
  | false =>
    refine Or.inr ⟨rfl, ?_⟩
    simp only [Bool.false_eq_true, if_false]
    cases (probe clock tree settings.admin).headers with
    | ok headers => exact Or.inl ⟨headers, rfl, rfl⟩
    | error failure =>
      cases failure with
      | failed error => exact Or.inr (Or.inl ⟨error, rfl, rfl⟩)
      | noProgram | malformed | wait | noListing => exact Or.inr (Or.inr ⟨by simp, _, rfl⟩)

/-- There is an audit, or none is asked for, unless the program cannot be asked. -/
theorem runAudit_eq_ok_iff {clock : Clock} {tree : FileTree} {settings : Settings} :
    (∃ audit, runAudit clock tree settings = .ok audit) ↔
      (settings.noAudit = false → settings.admin.CanAsk clock tree) := by
  rcases runAudit_cases clock tree settings with
    ⟨hoff, haudit⟩ | ⟨hon, ⟨headers, hheaders, haudit⟩ | ⟨error, herror, haudit⟩ |
      ⟨hsilent, failure, haudit⟩⟩
  · exact iff_of_true ⟨_, haudit⟩ fun hon => by cases hoff.symm.trans hon
  · exact iff_of_true ⟨_, haudit⟩ fun _ => probe_answers_iff.1 (Or.inl ⟨headers, hheaders⟩)
  · exact iff_of_true ⟨_, haudit⟩ fun _ => probe_answers_iff.1 (Or.inr ⟨error, herror⟩)
  · refine iff_of_false ?_ fun hask => hsilent (probe_answers_iff.2 (hask hon))
    rintro ⟨audit, hother⟩
    cases haudit.symm.trans hother

theorem status_of_runAudit {clock : Clock} {tree : FileTree} {settings : Settings}
    {audit : Audit}
    (h : runAudit clock tree settings = .ok audit) : audit.status = 0 ∨ audit.status = 3 := by
  rcases runAudit_cases clock tree settings with
    ⟨-, haudit⟩ | ⟨-, ⟨headers, -, haudit⟩ | ⟨error, -, haudit⟩ | ⟨-, failure, haudit⟩⟩
  · cases haudit.symm.trans h
    exact Or.inl rfl
  · cases haudit.symm.trans h
    exact Or.inl rfl
  · cases haudit.symm.trans h
    exact Or.inr rfl
  · cases haudit.symm.trans h

end VclReview
