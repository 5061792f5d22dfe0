/-
  VclReview/Proofs/Landing.lean
  =============================
  **Where writing lands.**  A text is written through links, so it lands at a place that
  need not be the one its path names.  Writing succeeds exactly if there is such a place
  (`writeText_cases`), and no text that is written changes where another one lands
  (`landing?_putText`).  So of the files of a report that land at one place the last one
  stays (`writeArtifacts_rewrote`), and writing the same report again changes nothing
  (`write_again`).
-/
import VclReview.Proofs.ReportFiles

namespace VclReview

/-- The place of a file that is made or written at the end of a way, if one can be. -/
def Located.landing? : Located → Option Place
  | .free folder name => some (folder ++ [name])
  | .occupied place (.file _) => some place
  | .occupied _ _ => none

namespace FileTree

/-- The place where a text lands that is written at the path. -/
def landing? (tree : FileTree) (path : Path) : Option Place :=
  (tree.locate .create path).toOption.bind Located.landing?

/-- The file at the place. -/
def file? (tree : FileTree) (place : Place) : Option FileData :=
  match tree.get? place with
  | some (.file data) => some data
  | _ => none

/-- The file that a text makes of the one that was there before, if any. -/
def FileData.rewritten (text : Text) : Option FileData → FileData
  | none => ⟨Utf8.encode text, false, none⟩
  | some data => FileData.overwrite data (Utf8.encode text)

/-- The tree after a text has landed at the place. -/
def putText (tree : FileTree) (place : Place) (text : Text) : FileTree :=
  tree.put place (.file (FileData.rewritten text (tree.file? place)))

/-- Nothing or a file is at the place. -/
def TakesFile (tree : FileTree) (place : Place) : Prop :=
  place ≠ [] ∧ (tree.get? place = none ∨ ∃ data, tree.get? place = some (.file data))

variable {tree : FileTree} {aim : Aim} {links : Nat} {start place other : Place}
  {steps : List Step} {path : Path} {text : Text}

theorem FileData.rewritten_rewritten (text first : Text) (old : Option FileData) :
    rewritten text (some (rewritten first old)) = rewritten text old := by
  cases old <;> rfl

/-! ### One text -/

theorem takesFile_of_landing? (h : tree.landing? path = some place) : tree.TakesFile place := by
  unfold landing? at h
  cases hlocate : tree.locate .create path with
  | error fault => simp [hlocate, Except.toOption] at h
  | ok located =>
    have hstands := locate_standsIn hlocate
    simp only [hlocate, Except.toOption, Option.bind_some] at h
    cases located with
    | free folder name =>
      cases h
      exact ⟨by simp, Or.inl hstands⟩
    | occupied place entry =>
      cases entry with
      | file data =>
        cases h
        have hget := hstands.resolve_left (by simp)
        refine ⟨?_, Or.inr ⟨data, hget⟩⟩
        rintro rfl
        cases hget
      | folder | link | socket => cases h

theorem file?_eq_none (h : tree.get? place = none) : tree.file? place = none := by
  rw [file?, h]

theorem file?_eq_some {data : FileData} (h : tree.get? place = some (.file data)) :
    tree.file? place = some data := by
  rw [file?, h]

/-- **A text is written where it lands**, and not at all if it lands nowhere. -/
theorem writeText_cases (tree : FileTree) (path : Path) (text : Text) :
    (∃ place, path.hasNul = false ∧ tree.landing? path = some place ∧
        tree.writeText path text = ⟨tree.putText place text, none⟩) ∨
      (path.hasNul = true ∨ tree.landing? path = none) ∧
        (tree.writeText path text).failure ≠ none := by
  rw [writeText_char]
  unfold writeFile putFile landing?
  cases hnul : path.hasNul with
  | true => exact Or.inr ⟨Or.inl rfl, by simp⟩
  | false =>
    simp only [Bool.false_eq_true, if_false, false_or, true_and]
    cases hlocate : tree.locate .create path with
    | error fault => exact Or.inr ⟨rfl, by simp⟩
    | ok located =>
      have hstands := locate_standsIn hlocate
      cases located with
      | free folder name =>
        refine Or.inl ⟨_, rfl, ?_⟩
        rw [putText, file?_eq_none hstands]
        rfl
      | occupied place entry =>
        cases entry with
        | file data =>
          refine Or.inl ⟨_, rfl, ?_⟩
          rw [putText, file?_eq_some (hstands.resolve_left (by simp))]
          rfl
        | folder | link | socket => exact Or.inr ⟨rfl, by simp⟩

/-- What ends at a name that stands in a directory lands under that name. -/
theorem eq_of_landing?_standing {name : Text}
    (h : (tree.standing start name).landing? = some place) : place = start ++ [name] := by
  unfold standing at h
  cases hget : tree.get? (start ++ [name]) with
  | none =>
    rw [hget] at h
    exact (Option.some.inj h).symm
  | some entry =>
    rw [hget] at h
    cases entry with
    | file data => exact (Option.some.inj h).symm
    | folder | link | socket => cases h

/-! ### Landing after another text has been written -/

theorem landing_walk_put (h : tree.TakesFile place) (data : FileData)
    {follow follow' : Place → List Step → Except Fault Located}
    (hfollow : ∀ start steps, (follow' start steps).toOption.bind Located.landing? =
      (follow start steps).toOption.bind Located.landing?) :
    ((tree.put place (.file data)).walk .create follow' start steps).toOption.bind
        Located.landing? =
      (tree.walk .create follow start steps).toOption.bind Located.landing? := by
  induction steps generalizing start with
  | nil => rfl
  | cons step rest ih =>
    cases step with
    | stay => exact ih
    | slash => exact ih
    | up => exact ih
    | into name =>
      simp only [walk]
      split
      · rfl
      split
      · rfl
      by_cases hplace : start ++ [name] = place
      · -- the way comes to the place itself, where it can only end
        rw [hplace, get?_put_self tree _ h.1]
        rcases h.2 with hget | ⟨old, hget⟩
        · rw [hget]
          by_cases hrest : rest = []
          · simp [hrest, Except.toOption, Located.landing?, hplace]
          · simp [hrest, Except.toOption]
        · rw [hget]
          by_cases hrest : rest = []
          · simp [hrest, Except.toOption, Located.landing?]
          · simp [hrest, Except.toOption]
      · rw [get?_put_of_ne tree _ hplace]
        split
        · rfl
        · exact ih
        · split
          · rfl
          · exact hfollow _ _
        · rfl

theorem landing_resolve_put (h : tree.TakesFile place) (data : FileData) :
    ((tree.put place (.file data)).resolve .create links start steps).toOption.bind
        Located.landing? =
      (tree.resolve .create links start steps).toOption.bind Located.landing? := by
  induction links generalizing start steps with
  | zero => exact landing_walk_put h data fun _ _ => rfl
  | succ links ih => exact landing_walk_put h data fun _ _ => ih

theorem landing?_putText (h : tree.TakesFile place) (text : Text) (path : Path) :
    (tree.putText place text).landing? path = tree.landing? path := by
  unfold putText landing? locate
  have horigin : (tree.put place (.file (FileData.rewritten text (tree.file? place)))).origin
      path.anchor = tree.origin path.anchor := rfl
  rw [horigin]
  split
  · rfl
  · exact landing_resolve_put h _

theorem get?_putText (h : tree.TakesFile place) (text : Text) (other : Place) :
    (tree.putText place text).get? other =
      if other = place then some (.file (FileData.rewritten text (tree.file? place)))
      else tree.get? other := by
  unfold putText
  by_cases hother : other = place
  · rw [if_pos hother, hother, get?_put_self tree _ h.1]
  · rw [if_neg hother, get?_put_of_ne tree _ hother]

theorem waysIn_putText (h : tree.TakesFile place) (text : Text) :
    tree.WaysIn (tree.putText place text) := by
  rcases h.2 with hget | ⟨data, hget⟩
  · exact waysIn_put (by simp [hget]) (by simp [hget]) _
  · exact waysIn_put (by simp [hget]) (by simp [hget]) _

end FileTree

/-! ### The files of a report -/

namespace Report

open FileTree

variable {tree : FileTree} {folder : Path} {contents : Artifact → Text}
  {artifacts : List Artifact} {artifact : Artifact} {place : Place}

/-- The artifact can be written into the directory. -/
def Lands (tree : FileTree) (folder : Path) (artifact : Artifact) : Prop :=
  (folder.child artifact.fileName).hasNul = false ∧
    ∃ place, tree.landing? (folder.child artifact.fileName) = some place

/-- The last of the artifacts that land at the place. -/
def lastAt? (tree : FileTree) (folder : Path) (artifacts : List Artifact) (place : Place) :
    Option Artifact :=
  artifacts.reverse.find? fun artifact =>
    tree.landing? (folder.child artifact.fileName) = some place

theorem lastAt?_cons (tree : FileTree) (folder : Path) (artifact : Artifact)
    (rest : List Artifact) (place : Place) :
    lastAt? tree folder (artifact :: rest) place =
      (lastAt? tree folder rest place).or
        (if tree.landing? (folder.child artifact.fileName) = some place then some artifact
          else none) := by
  unfold lastAt?
  rw [List.reverse_cons, List.find?_append, List.find?_singleton]
  simp

/-- What the place holds after the artifacts have been written, if the last of them that
    lands there is the given one, if any. -/
def left? (tree : FileTree) (contents : Artifact → Text) (place : Place) :
    Option Artifact → Option Entry
  | none => tree.get? place
  | some artifact => some (.file (FileData.rewritten (contents artifact) (tree.file? place)))

/-- The artifacts have been written, wherever they landed, and nothing else has changed. -/
structure Rewrote (tree after : FileTree) (folder : Path) (contents : Artifact → Text)
    (artifacts : List Artifact) : Prop where
  ways : tree.WaysIn after
  landing : ∀ path, after.landing? path = tree.landing? path
  get? : ∀ place, after.get? place =
    left? tree contents place (lastAt? tree folder artifacts place)

theorem rewrote_nil (tree : FileTree) (folder : Path) (contents : Artifact → Text) :
    Rewrote tree tree folder contents [] :=
  ⟨WaysIn.refl tree, fun _ => rfl, fun _ => rfl⟩

theorem Rewrote.cons {after : FileTree}
    (hlands : tree.landing? (folder.child artifact.fileName) = some place)
    (hrest : Rewrote (tree.putText place (contents artifact)) after folder contents artifacts) :
    Rewrote tree after folder contents (artifact :: artifacts) where
  ways := (waysIn_putText (takesFile_of_landing? hlands) _).trans hrest.ways
  landing path := by
    rw [hrest.landing, landing?_putText (takesFile_of_landing? hlands)]
  get? other := by
    have htakes := takesFile_of_landing? hlands
    have hlast : lastAt? (tree.putText place (contents artifact)) folder artifacts other =
        lastAt? tree folder artifacts other := by
      simp only [lastAt?, landing?_putText htakes]
    rw [hrest.get? other, hlast, lastAt?_cons, hlands]
    by_cases hother : other = place
    · subst hother
      have hfile : (tree.putText other (contents artifact)).file? other =
          some (FileData.rewritten (contents artifact) (tree.file? other)) := by
        apply file?_eq_some
        rw [get?_putText htakes, if_pos rfl]
      -- a later artifact that lands here replaces all that this one has written
      cases lastAt? tree folder artifacts other with
      | none => simp [left?, get?_putText htakes]
      | some later => simp [left?, hfile, FileData.rewritten_rewritten]
    · have hsame : (tree.putText place (contents artifact)).get? other = tree.get? other := by
        rw [get?_putText htakes, if_neg hother]
      have hfile : (tree.putText place (contents artifact)).file? other = tree.file? other := by
        rw [file?, hsame, file?]
      cases lastAt? tree folder artifacts other with
      | none => simp [left?, hsame, Ne.symm hother]
      | some later => simp [left?, hfile]

theorem writeArtifacts_rewrote
    (h : (writeArtifacts folder contents tree artifacts).failure = none) :
    (∀ artifact ∈ artifacts, Lands tree folder artifact) ∧
      Rewrote tree (writeArtifacts folder contents tree artifacts).tree folder contents
        artifacts := by
  induction artifacts generalizing tree with
  | nil => exact ⟨by simp, rewrote_nil tree folder contents⟩
  | cons artifact rest ih =>
    rw [writeArtifacts] at h ⊢
    rcases tree.writeText_cases (folder.child artifact.fileName) (contents artifact) with
      ⟨place, hnul, hlands, hwritten⟩ | ⟨-, hfailure⟩
    · rw [hwritten] at h ⊢
      obtain ⟨hall, hrest⟩ := ih h
      refine ⟨?_, hrest.cons hlands⟩
      intro other hother
      rcases List.mem_cons.1 hother with rfl | hother
      · exact ⟨hnul, place, hlands⟩
      · obtain ⟨hnul', place', hlands'⟩ := hall other hother
        rw [landing?_putText (takesFile_of_landing? hlands)] at hlands'
        exact ⟨hnul', place', hlands'⟩
    · rcases Attempt.andThen_cases (tree.writeText _ (contents artifact)) _ with
        ⟨-, heq⟩ | ⟨hnone, -⟩
      · rw [heq] at h
        exact absurd h hfailure
      · exact absurd hnone hfailure

theorem failure_writeArtifacts (contents : Artifact → Text)
    (h : ∀ artifact ∈ artifacts, Lands tree folder artifact) :
    (writeArtifacts folder contents tree artifacts).failure = none := by
  induction artifacts generalizing tree with
  | nil => rfl
  | cons artifact rest ih =>
    rw [writeArtifacts]
    obtain ⟨⟨hnul, place, hlands⟩, hrest⟩ := List.forall_mem_cons.1 h
    rcases tree.writeText_cases (folder.child artifact.fileName) (contents artifact) with
      ⟨place', -, hlands', hwritten⟩ | ⟨hnowhere, -⟩
    · rw [hwritten]
      apply ih
      intro other hother
      obtain ⟨hnul', place'', hlands''⟩ := hrest other hother
      refine ⟨hnul', place'', ?_⟩
      rw [landing?_putText (takesFile_of_landing? hlands'), hlands'']
    · rcases hnowhere with hnul' | hnowhere
      · cases hnul.symm.trans hnul'
      · cases hlands.symm.trans hnowhere

variable {results : Results} {audit : Option (List Text)}

theorem write_rewrote (h : (write tree folder results audit).failure = none) :
    (tree.makeFolders folder).tree.isFolder folder = true ∧
      (∀ artifact, Lands (tree.makeFolders folder).tree folder artifact) ∧
        Rewrote (tree.makeFolders folder).tree (write tree folder results audit).tree folder
          (Artifact.contents results audit) Artifact.all := by
  unfold write at h ⊢
  rcases Attempt.andThen_cases (tree.makeFolders folder) _ with ⟨hfailure, heq⟩ | ⟨hmade, heq⟩
  · rw [heq] at h
    exact absurd h hfailure
  · rw [heq] at h ⊢
    obtain ⟨hlands, hrewrote⟩ := writeArtifacts_rewrote h
    exact ⟨(tree.makeFolders_prepares folder).isFolder hmade,
      fun artifact => hlands artifact artifact.mem_all, hrewrote⟩

theorem write_of_isFolder (h : tree.isFolder folder = true) :
    write tree folder results audit =
      writeArtifacts folder (Artifact.contents results audit) tree Artifact.all := by
  rw [write, makeFolders_of_isFolder h]
  rfl

/-- **Writing a report once more changes nothing.** -/
theorem write_again (h : (write tree folder results audit).failure = none) :
    (write (write tree folder results audit).tree folder results audit).failure = none ∧
      (write (write tree folder results audit).tree folder results audit).tree.workDir =
        (write tree folder results audit).tree.workDir ∧
      ∀ place, (write (write tree folder results audit).tree folder results audit).tree.get? place =
        (write tree folder results audit).tree.get? place := by
  obtain ⟨hfolder, hlands, hfirst⟩ := write_rewrote h
  generalize (write tree folder results audit).tree = after at hfirst ⊢
  generalize (tree.makeFolders folder).tree = made at hfolder hlands hfirst
  obtain ⟨home, hhome⟩ := Option.isSome_iff_exists.1 hfolder
  have hstays : after.isFolder folder = true :=
    Option.isSome_iff_exists.2 ⟨home, folder?_of_waysIn hfirst.ways hhome⟩
  have hlandsAgain : ∀ artifact ∈ Artifact.all, Lands after folder artifact := by
    intro artifact _
    obtain ⟨hnul, place, hplace⟩ := hlands artifact
    exact ⟨hnul, place, by rw [hfirst.landing, hplace]⟩
  rw [write_of_isFolder hstays]
  have hfailure := failure_writeArtifacts (Artifact.contents results audit) hlandsAgain
  obtain ⟨-, hsecond⟩ := writeArtifacts_rewrote hfailure
  refine ⟨hfailure, hsecond.ways.workDir, ?_⟩
  intro place
  have hlast : lastAt? after folder Artifact.all place =
      lastAt? made folder Artifact.all place := by
    simp only [lastAt?, hfirst.landing]
  rw [hsecond.get? place, hlast]
  have hget := hfirst.get? place
  cases hartifact : lastAt? made folder Artifact.all place with
  | none => rfl
  | some artifact =>
    rw [hartifact] at hget
    rw [left?, file?_eq_some hget, FileData.rewritten_rewritten, hget]
    rfl

end Report

end VclReview
