/-
  VclReview/Proofs/Flags.lean
  ===========================
  **Flags in a command line.**  An option that stands alone touches one setting, and no
  other argument looks at that setting.  So the option in front of a command line has the
  same effect as setting it afterwards (`parse_cons_flag`).  Within a command line the option
  can keep another one from its value, or a separator from the path; but where that ends well
  it has the same effect too (`parse_insert_flag`).

  Arguments are taken one by one, or an option together with its value (`consume_induction`).
  What holds of a whole command line is shown for each of the two.
-/
import VclReview.CommandLine.Parse

namespace VclReview.CommandLine

variable {arguments : List Text} {settings : Settings}

/-- The state of reading with an option set that stands alone. -/
def Progress.mark (flag : Flag) (progress : Progress) : Progress :=
  { progress with settings := progress.settings.switchOn flag }

/-- The state in which the last argument was not the path. -/
def Progress.past (progress : Progress) : Progress := { progress with pathJustTaken := false }

theorem blank_switchOn (settings : Settings) (flag other : Flag) :
    (settings.switchOn flag).blank other = (settings.blank other).switchOn flag := by
  cases flag <;> cases other <;> rfl

theorem switchOn_comm (settings : Settings) (flag other : Flag) :
    (settings.switchOn flag).switchOn other = (settings.switchOn other).switchOn flag := by
  cases flag <;> cases other <;> rfl

theorem setValue_switchOn (settings : Settings) (flag other : Flag) (value : Text) :
    setValue (settings.switchOn flag) other value =
      (setValue settings other value).map (·.switchOn flag) := by
  unfold setValue
  cases other with
  | maxFileSize => cases Numeral.whole? value <;> cases flag <;> rfl
  | adminPort => cases Numeral.whole? value <;> cases flag <;> rfl
  | adminTimeout => cases Numeral.real? value <;> cases flag <;> rfl
  | help | lineNumbers | out | noAudit | verbose | globs | excluded | noProgress | adminHost
  | secretFile | binary => cases flag <;> rfl

theorem take_mark (progress : Progress) (flag other : Flag) (value : Text) :
    (progress.mark flag).take other value = (progress.take other value).map (·.mark flag) := by
  unfold Progress.take Progress.mark
  simp only [setValue_switchOn]
  cases setValue progress.settings other value <;> rfl

theorem takeJoined_mark (progress : Progress) (flag other : Flag) (value : Text) :
    (progress.mark flag).takeJoined other value =
      (progress.takeJoined other value).map (·.mark flag) := by
  unfold Progress.takeJoined
  rw [take_mark]
  split
  · simp only [Progress.mark, blank_switchOn]
    rfl
  · rfl

theorem switchOn_mark (progress : Progress) (flag other : Flag) :
    (progress.mark flag).switchOn other = (progress.switchOn other).map (·.mark flag) := by
  unfold Progress.switchOn
  split
  · rfl
  · simp only [Progress.mark, switchOn_comm progress.settings flag other]
    rfl

theorem takePlain_mark (progress : Progress) (flag : Flag) (text : Text) :
    (progress.mark flag).takePlain text = (progress.takePlain text).mark flag := by
  unfold Progress.takePlain Progress.mark
  cases progress.pathTaken with
  | true => rfl
  | false => cases flag <;> rfl

theorem divide_mark (progress : Progress) (flag : Flag) :
    (progress.mark flag).divide = progress.divide.mark flag := by
  unfold Progress.divide Progress.mark
  split <;> rfl

/-! ### Argument by argument -/

/-- Takes an argument without looking at the next one. -/
def Progress.read (progress : Progress) : Argument → Except ParseStop Progress
  | .divider => .ok progress.divide
  | .plain text => .ok (progress.takePlain text)
  | .unknown text => .ok (progress.leave text)
  | .shortHelp value => .error (shortHelp value)
  | .option flag (some value) =>
    if flag.standsAlone then .error (.mistake (.needlessValue flag value))
    else progress.takeJoined flag value
  | .option flag none =>
    if flag.standsAlone then progress.switchOn flag else .error (.mistake (.noValue flag))

/-- The argument is an option, and its value comes next. -/
inductive HasValue : Argument → List Argument → Prop where
  | next {flag : Flag} {value : Text} {rest : List Argument} : ¬ flag.standsAlone = true →
      HasValue (.option flag none) (.plain value :: rest)

theorem consume_value {progress : Progress} {flag : Flag} {value : Text} {rest : List Argument}
    (halone : ¬ flag.standsAlone = true) :
    consume progress (.option flag none :: .plain value :: rest) =
      (progress.take flag value).bind (consume · rest) := by
  rw [consume, if_neg halone]
  cases progress.take flag value <;> rfl

theorem consume_cons {progress : Progress} {argument : Argument} {rest : List Argument}
    (h : ¬ HasValue argument rest) :
    consume progress (argument :: rest) = (progress.read argument).bind (consume · rest) := by
  cases argument with
  | divider => rw [consume]; rfl
  | plain text => rw [consume]; rfl
  | unknown text => rw [consume]; rfl
  | shortHelp value => rfl
  | option flag value =>
    by_cases halone : flag.standsAlone = true
    case pos =>
      cases value with
      | some value =>
        rw [consume, Progress.read, if_pos halone, if_pos halone]
        rfl
      | none =>
        rw [consume.eq_def, Progress.read]
        simp only [halone, if_true]
        cases progress.switchOn flag <;> rfl
    case neg =>
      cases value with
      | some value =>
        rw [consume, Progress.read, if_neg halone, if_neg halone]
        cases progress.takeJoined flag value <;> rfl
      | none =>
        rw [consume, Progress.read, if_neg halone, if_neg halone]
        · rfl
        · rintro value others rfl
          exact h (.next halone)

/-- Arguments are taken one by one, or together with their value. -/
@[elab_as_elim]
theorem consume_induction {motive : List Argument → Prop} (nil : motive [])
    (single : ∀ argument rest, ¬ HasValue argument rest → motive rest → motive (argument :: rest))
    (value : ∀ flag value rest, ¬ flag.standsAlone = true → motive rest →
      motive (.option flag none :: .plain value :: rest))
    (found : List Argument) : motive found := by
  induction hlength : found.length using Nat.strongRecOn generalizing found with
  | _ length ih =>
    cases found with
    | nil => exact nil
    | cons argument rest =>
      have hshorter : rest.length < length := by simp [← hlength]
      by_cases hvalue : HasValue argument rest
      case pos =>
        cases hvalue with
        | next halone => exact value _ _ _ halone (ih _ (Nat.lt_of_succ_lt hshorter) _ rfl)
      case neg => exact single argument rest hvalue (ih _ hshorter _ rfl)

theorem not_hasValue_of_standsAlone {flag : Flag} {rest : List Argument}
    (halone : flag.standsAlone = true) : ¬ HasValue (.option flag none) rest := by
  intro hvalue
  cases hvalue with
  | next h => exact h halone

theorem consume_alone {progress : Progress} {flag : Flag} {rest : List Argument}
    (halone : flag.standsAlone = true) :
    consume progress (.option flag none :: rest) =
      (progress.switchOn flag).bind (consume · rest) := by
  rw [consume_cons (not_hasValue_of_standsAlone halone), Progress.read, if_pos halone]

theorem read_mark (flag : Flag) (progress : Progress) (argument : Argument) :
    (progress.mark flag).read argument = (progress.read argument).map (·.mark flag) := by
  cases argument with
  | divider => exact congrArg Except.ok (divide_mark progress flag)
  | plain text => exact congrArg Except.ok (takePlain_mark progress flag text)
  | unknown text => rfl
  | shortHelp value => rfl
  | option other value =>
    by_cases halone : other.standsAlone = true
    · cases value with
      | some value => simp only [Progress.read, halone, if_true]; rfl
      | none => simp only [Progress.read, halone, if_true, switchOn_mark]
    · cases value with
      | some value => simp only [Progress.read, halone, takeJoined_mark]; rfl
      | none => simp only [Progress.read, halone]; rfl

/-- No argument looks at what the option sets. -/
theorem consume_mark (flag : Flag) (progress : Progress) (found : List Argument) :
    consume (progress.mark flag) found = (consume progress found).map (·.mark flag) := by
  induction found using consume_induction generalizing progress with
  | nil => rfl
  | single argument rest hvalue ih =>
    rw [consume_cons hvalue, consume_cons hvalue, read_mark]
    cases progress.read argument with
    | error stop => rfl
    | ok next => exact ih next
  | value other value rest halone ih =>
    rw [consume_value halone, consume_value halone, take_mark]
    cases progress.take other value with
    | error stop => rfl
    | ok next => exact ih next

theorem ne_separator_of_option {spelling : Text} {flag : Flag}
    (h : Argument.ofText spelling = .ok (.option flag none)) : spelling ≠ separator := by
  rintro rfl
  have hambiguous : (Argument.ofText separator).isOk = false := by decide
  rw [h] at hambiguous
  cases hambiguous

/-- Setting an option that stands alone succeeds, but for the one that asks for help. -/
theorem switchOn_eq_ok {flag : Flag} (hhelp : flag ≠ .help) (progress : Progress) :
    progress.switchOn flag = .ok (progress.past.mark flag) := by
  unfold Progress.switchOn
  rw [if_neg hhelp]
  rfl

theorem parse_eq_ok_iff : parse arguments = .ok settings ↔
    ∃ found progress, Argument.ofTexts arguments = .ok found ∧
      consume .init found = .ok progress ∧ progress.leftOver = [] ∧
        progress.settings = settings := by
  unfold parse
  cases Argument.ofTexts arguments with
  | error error => simp
  | ok found =>
    cases hprogress : consume .init found with
    | error stop => simp [hprogress]
    | ok progress =>
      simp only [hprogress]
      split
      case isTrue hleft => simp [hprogress, hleft]
      case isFalse hleft => simp [hprogress, hleft]

/-- An option that stands alone, in front of a command line, is set as if afterwards. -/
theorem parse_cons_flag {spelling : Text} {flag : Flag}
    (hspelling : Argument.ofText spelling = .ok (.option flag none))
    (halone : flag.standsAlone = true) (hhelp : flag ≠ .help)
    (hparse : parse arguments = .ok settings) :
    parse (spelling :: arguments) = .ok (settings.switchOn flag) := by
  obtain ⟨found, progress, hfound, hprogress, hleft, rfl⟩ := parse_eq_ok_iff.1 hparse
  have htexts : Argument.ofTexts (spelling :: arguments) = .ok (.option flag none :: found) := by
    rw [Argument.ofTexts, if_neg (ne_separator_of_option hspelling), hspelling, hfound]
    rfl
  have hconsume : consume .init (.option flag none :: found) = .ok (progress.mark flag) := by
    rw [consume_alone halone, switchOn_eq_ok hhelp]
    exact (consume_mark flag .init found).trans (by rw [hprogress]; rfl)
  exact parse_eq_ok_iff.2 ⟨_, _, htexts, hconsume, hleft, rfl⟩

theorem parse_noAudit_cons (hparse : parse arguments = .ok settings) :
    parse ("--no-audit" :: arguments) = .ok (settings.switchOn .noAudit) :=
  parse_cons_flag rfl rfl (by decide) hparse

/-! ### Flags anywhere in a command line -/

theorem leftOver_take {progress next : Progress} {flag : Flag} {value : Text}
    (h : progress.take flag value = .ok next) : next.leftOver = progress.leftOver := by
  unfold Progress.take at h
  split at h
  · cases h
    rfl
  · cases h

theorem leftOver_takeJoined {progress next : Progress} {flag : Flag} {value : Text}
    (h : progress.takeJoined flag value = .ok next) : next.leftOver = progress.leftOver := by
  unfold Progress.takeJoined at h
  split at h
  · cases h
    rfl
  · exact leftOver_take h

theorem leftOver_switchOn {progress next : Progress} {flag : Flag}
    (h : progress.switchOn flag = .ok next) : next.leftOver = progress.leftOver := by
  unfold Progress.switchOn at h
  split at h
  · cases h
  · cases h
    rfl

theorem leftOver_suffix_of_read {progress next : Progress} {argument : Argument}
    (h : progress.read argument = .ok next) : progress.leftOver <:+ next.leftOver := by
  cases argument with
  | divider =>
    cases h
    unfold Progress.divide
    split
    · exact List.suffix_cons _ _
    · exact List.suffix_rfl
  | plain text =>
    cases h
    unfold Progress.takePlain
    split
    · exact List.suffix_cons _ _
    · exact List.suffix_rfl
  | unknown text =>
    cases h
    exact List.suffix_cons _ _
  | shortHelp value => cases h
  | option flag value =>
    cases value with
    | some value =>
      rw [Progress.read] at h
      split at h
      · cases h
      · exact leftOver_takeJoined h ▸ List.suffix_rfl
    | none =>
      rw [Progress.read] at h
      split at h
      · exact leftOver_switchOn h ▸ List.suffix_rfl
      · cases h

/-- What has been left over stays so. -/
theorem leftOver_suffix_of_consume {progress final : Progress} {found : List Argument}
    (h : consume progress found = .ok final) : progress.leftOver <:+ final.leftOver := by
  induction found using consume_induction generalizing progress with
  | nil =>
    cases h
    exact List.suffix_rfl
  | single argument rest hvalue ih =>
    rw [consume_cons hvalue] at h
    cases hread : progress.read argument with
    | error stop =>
      rw [hread] at h
      cases h
    | ok next =>
      rw [hread] at h
      exact (leftOver_suffix_of_read hread).trans (ih h)
  | value flag value rest halone ih =>
    rw [consume_value halone] at h
    cases htake : progress.take flag value with
    | error stop =>
      rw [htake] at h
      cases h
    | ok next =>
      rw [htake] at h
      rw [← leftOver_take htake]
      exact ih h

/-- Reading goes on where it has come to, unless an option still waits for its value. -/
theorem consume_append (progress : Progress) (found later : List Argument) :
    consume progress (found ++ later) = (consume progress found).bind (consume · later) ∨
      ∃ text rest, later = .plain text :: rest ∧
        ∃ flag, consume progress found = .error (.mistake (.noValue flag)) := by
  induction found using consume_induction generalizing progress with
  | nil => exact Or.inl rfl
  | single argument rest hvalue ih =>
    by_cases hjoined : HasValue argument (rest ++ later)
    case pos =>
      -- the value is the first of the later arguments
      generalize heq : rest ++ later = all at hjoined
      cases hjoined with
      | @next flag value others halone =>
        cases rest with
        | nil =>
          refine Or.inr ⟨value, others, heq, flag, ?_⟩
          rw [consume_cons hvalue, Progress.read, if_neg halone]
          rfl
        | cons head rest =>
          cases heq
          exact absurd (.next halone) hvalue
    case neg =>
      rw [List.cons_append, consume_cons hjoined, consume_cons hvalue]
      cases progress.read argument with
      | error stop => exact Or.inl rfl
      | ok next => exact ih next
  | value flag value rest halone ih =>
    rw [List.cons_append, List.cons_append, consume_value halone, consume_value halone]
    cases progress.take flag value with
    | error stop => exact Or.inl rfl
    | ok next => exact ih next

/-- Whether the last argument was the path matters to a separator only. -/
theorem read_past {progress : Progress} {argument : Argument} (h : argument ≠ .divider) :
    progress.past.read argument = progress.read argument := by
  cases argument with
  | divider => exact absurd rfl h
  | plain text => rfl
  | unknown text => rfl
  | shortHelp value => rfl
  | option flag value =>
    cases value with
    | some value => rfl
    | none => rfl

theorem settings_consume_past {progress final : Progress} {found : List Argument}
    (h : consume progress.past found = .ok final) (hleft : final.leftOver = []) :
    ∃ other, consume progress found = .ok other ∧ other.leftOver = [] ∧
      other.settings = final.settings := by
  cases found using consume_induction with
  | nil =>
    cases h
    exact ⟨progress, rfl, hleft, rfl⟩
  | single argument rest hvalue =>
    refine ⟨final, ?_, hleft, rfl⟩
    rw [consume_cons hvalue] at h ⊢
    by_cases hdivider : argument = .divider
    case neg => rwa [read_past hdivider] at h
    subst hdivider
    cases htaken : progress.pathTaken with
    | true =>
      have hsuffix := leftOver_suffix_of_consume h
      rw [hleft, Progress.divide, if_pos ⟨htaken, by simp [Progress.past]⟩] at hsuffix
      simp at hsuffix
    | false =>
      rw [← h]
      simp [Progress.read, Progress.divide, Progress.past, htaken]
  | value flag value rest halone =>
    refine ⟨final, ?_, hleft, rfl⟩
    rw [consume_value halone] at h ⊢
    exact h

/-- An option that stands alone is set wherever it is found. -/
theorem consume_insert {progress final : Progress} {found later : List Argument} {flag : Flag}
    (halone : flag.standsAlone = true) (hhelp : flag ≠ .help)
    (h : consume progress (found ++ .option flag none :: later) = .ok final)
    (hleft : final.leftOver = []) :
    ∃ other, consume progress (found ++ later) = .ok other ∧ other.leftOver = [] ∧
      final.settings = other.settings.switchOn flag := by
  rcases consume_append progress found (.option flag none :: later) with heq | ⟨text, rest, hcons, -⟩
  case inr => cases hcons
  rw [heq] at h
  cases hfound : consume progress found with
  | error stop =>
    rw [hfound] at h
    cases h
  | ok middle =>
    rw [hfound, Except.bind, consume_alone halone, switchOn_eq_ok hhelp, Except.bind,
      consume_mark] at h
    cases hlater : consume middle.past later with
    | error stop =>
      rw [hlater] at h
      cases h
    | ok last =>
      rw [hlater] at h
      cases h
      obtain ⟨other, hother, hnone, hsettings⟩ := settings_consume_past hlater hleft
      refine ⟨other, ?_, hnone, by rw [hsettings]; rfl⟩
      rcases consume_append progress found later with heq | ⟨-, -, -, flag, hwaits⟩
      · rw [heq, hfound]
        exact hother
      · cases hfound.symm.trans hwaits

/-- Texts in front of a separator are told apart one by one. -/
theorem ofTexts_append {front back : List Text} (h : separator ∉ front) :
    Argument.ofTexts (front ++ back) =
      (Argument.ofTexts front).bind fun found =>
        (Argument.ofTexts back).map fun later => found ++ later := by
  induction front with
  | nil =>
    rw [List.nil_append]
    cases Argument.ofTexts back <;> rfl
  | cons text rest ih =>
    have hrest : separator ∉ rest := fun hmem => h (List.mem_cons_of_mem text hmem)
    have htext : text ≠ separator := fun heq => h (heq ▸ List.mem_cons_self)
    rw [List.cons_append, Argument.ofTexts, Argument.ofTexts, if_neg htext, if_neg htext, ih hrest]
    cases Argument.ofText text with
    | error error => rfl
    | ok head =>
      cases Argument.ofTexts rest with
      | error error => rfl
      | ok tail => cases Argument.ofTexts back <;> rfl

/-- **An option that stands alone, anywhere in front of a separator, is set as if afterwards.** -/
theorem parse_insert_flag {front back : List Text} {spelling : Text} {flag : Flag}
    (hfront : separator ∉ front) (hspelling : Argument.ofText spelling = .ok (.option flag none))
    (halone : flag.standsAlone = true) (hhelp : flag ≠ .help)
    (hparse : parse (front ++ spelling :: back) = .ok settings) :
    ∃ others, parse (front ++ back) = .ok others ∧ settings = others.switchOn flag := by
  obtain ⟨found, progress, hfound, hprogress, hleft, rfl⟩ := parse_eq_ok_iff.1 hparse
  have hback : Argument.ofTexts (spelling :: back) =
      (Argument.ofTexts back).map fun later => .option flag none :: later := by
    rw [Argument.ofTexts, if_neg (ne_separator_of_option hspelling), hspelling]
    cases Argument.ofTexts back <;> rfl
  rw [ofTexts_append hfront, hback] at hfound
  cases hearlier : Argument.ofTexts front with
  | error error =>
    rw [hearlier] at hfound
    cases hfound
  | ok earlier =>
    cases hlater : Argument.ofTexts back with
    | error error =>
      rw [hearlier, hlater] at hfound
      cases hfound
    | ok later =>
      rw [hearlier, hlater] at hfound
      cases hfound
      obtain ⟨other, hother, hnone, hsettings⟩ := consume_insert halone hhelp hprogress hleft
      refine ⟨other.settings, parse_eq_ok_iff.2 ⟨earlier ++ later, other, ?_, hother, hnone, rfl⟩,
        hsettings⟩
      rw [ofTexts_append hfront, hearlier, hlater]
      rfl

end VclReview.CommandLine
