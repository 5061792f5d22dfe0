/-
  VclReview/Proofs/SoundTrees.lean
  ================================
  **Trees as a disk has them.**  A table of places is the tree of a disk if each entry
  stands in a directory and its names are such as files can have (`Sound`).  What leads to
  an entry are then directories (`Sound.folder_above`), and making directories, files,
  links and sockets keeps all this (`Sound.plant`, `Sound.write`).

  Without links a path that goes from a directory to an entry below it leads there,
  unless a name is too long (`status_join`).
-/
import VclReview.Proofs.Landing
import VclReview.Proofs.PathTexts
import VclReview.Proofs.Search
import Mathlib.Data.List.Induction

namespace VclReview

/-- The name can be that of a file: a path asks for it by itself, and it holds no character
    zero. -/
def ProperName (name : Text) : Prop := Step.ofName name = .into name ∧ '\x00' ∉ name

/-- The step asks for no name but a proper one. -/
def Step.Proper (step : Step) : Prop := ∀ name, step = .into name → ProperName name

namespace FileTree

/-- Each entry stands in a directory under a proper name, and so does the working
    directory. -/
structure Sound (tree : FileTree) : Prop where
  workDir : tree.get? tree.workDir = some .folder
  parent : ∀ place name entry, tree.get? (place ++ [name]) = some entry →
    tree.get? place = some .folder
  name : ∀ place name entry, tree.get? (place ++ [name]) = some entry → ProperName name
  target : ∀ place target, tree.get? place = some (.link target) → '\x00' ∉ target

/-- There are no links. -/
def LinkFree (tree : FileTree) : Prop := ∀ place target, tree.get? place ≠ some (.link target)

variable {tree other : FileTree} {aim : Aim} {links : Nat} {start folder place : Place}
  {steps : List Step} {name : Text} {names : List Text} {root path : Path} {entry : Entry}

/-! ### Tables -/

instance (name : Text) : Decidable (ProperName name) :=
  inferInstanceAs (Decidable (Step.ofName name = .into name ∧ '\x00' ∉ name))

theorem linkFree_of_forall (h : ∀ entry ∈ tree.entries, ∀ target, entry.2 ≠ .link target) :
    tree.LinkFree := by
  intro place target hget
  refine h _ (mem_entries_of_get? ?_ hget) target rfl
  rintro rfl
  cases hget

/-- Without links soundness is seen entry by entry. -/
theorem LinkFree.sound (hlinks : tree.LinkFree) (hworkDir : tree.get? tree.workDir = some .folder)
    (h : ∀ entry ∈ tree.entries, tree.get? entry.1.dropLast = some .folder ∧
      ∀ name ∈ entry.1, ProperName name) : tree.Sound := by
  have hmem {place : Place} {name : Text} {entry : Entry}
      (hget : tree.get? (place ++ [name]) = some entry) :
      (place ++ [name], entry) ∈ tree.entries := mem_entries_of_get? (by simp) hget
  constructor
  case workDir => exact hworkDir
  case parent =>
    intro place name entry hget
    obtain ⟨hparent, -⟩ := h _ (hmem hget)
    rwa [List.dropLast_concat] at hparent
  case name =>
    intro place name entry hget
    obtain ⟨-, hnames⟩ := h _ (hmem hget)
    exact hnames name (by simp)
  case target =>
    intro place target hget
    exact absurd hget (hlinks place target)

/-! ### What leads to an entry -/

/-- What leads to an entry are directories. -/
theorem Sound.folder_above (h : tree.Sound) {after : List Text} (hafter : after ≠ [])
    (hget : tree.get? (place ++ after) = some entry) : tree.get? place = some .folder := by
  induction after using List.reverseRecOn generalizing entry with
  | nil => exact absurd rfl hafter
  | append_singleton before name ih =>
    rw [← List.append_assoc] at hget
    have hparent := h.parent _ _ _ hget
    by_cases hbefore : before = []
    · rwa [hbefore, List.append_nil] at hparent
    · exact ih hbefore hparent

theorem Sound.liesBelow (h : tree.Sound) (hnames : names ≠ [])
    (hget : tree.get? (folder ++ names) = some entry) : tree.LiesBelow folder names := by
  refine ⟨hnames, ⟨entry, hget⟩, ?_⟩
  rintro before after rfl - hafter
  rw [← List.append_assoc] at hget
  exact h.folder_above hafter hget

theorem Sound.properName (h : tree.Sound) (hget : tree.get? (place ++ names) = some entry)
    (hname : name ∈ names) : ProperName name := by
  obtain ⟨before, after, rfl⟩ := List.append_of_mem hname
  have hsplit : place ++ (before ++ name :: after) = place ++ before ++ [name] ++ after := by
    simp
  rw [hsplit] at hget
  by_cases hafter : after = []
  · rw [hafter, List.append_nil] at hget
    exact h.name _ _ _ hget
  · exact h.name _ _ _ (h.folder_above hafter hget)

theorem Sound.dropLast (h : tree.Sound) (hget : tree.get? place = some .folder) :
    tree.get? place.dropLast = some .folder := by
  rcases List.eq_nil_or_concat place with rfl | ⟨above, name, rfl⟩
  · exact hget
  · rw [List.concat_eq_append] at hget ⊢
    rw [List.dropLast_concat]
    exact h.parent _ _ _ hget

/-! ### Free names -/

theorem proper_ofName (h : '\x00' ∉ name) : (Step.ofName name).Proper := by
  intro other hother
  have hname : other = name := by
    unfold Step.ofName at hother
    split at hother
    · cases hother
    split at hother
    · cases hother
    split at hother
    · cases hother
    · exact (Step.into.inj hother).symm
  subst hname
  exact ⟨hother, h⟩

theorem proper_steps (h : path.hasNul = false) : ∀ step ∈ path.steps, step.Proper := by
  intro step hstep
  obtain ⟨name, hname, rfl⟩ := List.mem_map.1 hstep
  apply proper_ofName
  have hfree := List.any_eq_false.1 h name hname
  simpa using hfree

theorem proper_ofText {target : Text} (h : '\x00' ∉ target) :
    ∀ step ∈ Step.ofText target, step.Proper := by
  intro step hstep
  obtain ⟨name, hname, rfl⟩ := List.mem_map.1 hstep
  apply proper_ofName
  intro hnul
  apply h
  rw [← Text.intercalate_splitWhere '/' target]
  exact Text.mem_intercalate hname hnul

theorem walk_free_proper (hsound : tree.Sound) (hstart : tree.get? start = some .folder)
    (hsteps : ∀ step ∈ steps, step.Proper)
    {follow : Place → List Step → Except Fault Located}
    (hfollow : ∀ start steps, tree.get? start = some .folder →
      (∀ step ∈ steps, Step.Proper step) → follow start steps = .ok (.free folder name) →
        tree.get? folder = some .folder ∧ ProperName name)
    (h : tree.walk aim follow start steps = .ok (.free folder name)) :
    tree.get? folder = some .folder ∧ ProperName name := by
  -- on the steps; a way has always come to a directory before its last name
  induction steps generalizing start with
  | nil => cases h
  | cons step rest ih =>
    obtain ⟨hstep, hrest⟩ := List.forall_mem_cons.1 hsteps
    cases step with
    | stay => exact ih hstart hrest h
    | slash => exact ih hstart hrest h
    | up => exact ih (hsound.dropLast hstart) hrest h
    | into name' =>
      simp only [walk] at h
      split at h
      · cases h
      split at h
      · cases h
      split at h
      case h_1 hget =>
        split at h
        · cases h
          exact ⟨hstart, hstep _ rfl⟩
        · cases h
      case h_2 hget => exact ih hget hrest h
      case h_3 target hget =>
        split at h
        · cases h
        · refine hfollow _ _ ?_ ?_ h
          · split
            · rfl
            · exact hstart
          · intro step hmem
            rcases List.mem_append.1 hmem with hmem | hmem
            · exact proper_ofText (hsound.target _ _ hget) step hmem
            · exact hrest step hmem
      case h_4 =>
        split at h
        · cases h
        · cases h

theorem resolve_free_proper (hsound : tree.Sound) (hstart : tree.get? start = some .folder)
    (hsteps : ∀ step ∈ steps, step.Proper)
    (h : tree.resolve aim links start steps = .ok (.free folder name)) :
    tree.get? folder = some .folder ∧ ProperName name := by
  induction links generalizing start steps with
  | zero =>
    refine walk_free_proper hsound hstart hsteps ?_ h
    intro _ _ _ _ hfollow
    cases hfollow
  | succ links ih => exact walk_free_proper hsound hstart hsteps (fun _ _ => ih) h

theorem Sound.locate_free (hsound : tree.Sound) (hnul : path.hasNul = false)
    (h : tree.locate aim path = .ok (.free folder name)) :
    tree.get? folder = some .folder ∧ ProperName name := by
  unfold locate at h
  split at h
  · cases h
  · refine resolve_free_proper hsound ?_ (proper_steps hnul) h
    unfold origin
    split
    · exact hsound.workDir
    · rfl

/-! ### Soundness is kept -/

/-- What is put in a directory under a proper name, at a free place or at that of a file,
    leaves a tree sound. -/
theorem Sound.put (hsound : tree.Sound) (hplace : tree.TakesFile (folder ++ [name]))
    (hfolder : tree.get? folder = some .folder) (hname : ProperName name)
    (hentry : ∀ target, entry = .link target → '\x00' ∉ target) :
    (tree.put (folder ++ [name]) entry).Sound := by
  -- no directory is lost, so what stood in one still does
  have hnotFolder : tree.get? (folder ++ [name]) ≠ some .folder := by
    rcases hplace.2 with hget | ⟨data, hget⟩
    · simp [hget]
    · simp [hget]
  have hkept {other : Place} (hget : tree.get? other = some .folder) :
      (tree.put (folder ++ [name]) entry).get? other = some .folder := by
    rw [get?_put_of_ne, hget]
    rintro rfl
    exact hnotFolder hget
  have hsame {other : Place} (hother : other ≠ folder ++ [name]) :
      (tree.put (folder ++ [name]) entry).get? other = tree.get? other :=
    get?_put_of_ne tree entry hother
  constructor
  case workDir => exact hkept hsound.workDir
  case parent =>
    intro above last other hget
    by_cases hother : above ++ [last] = folder ++ [name]
    · rw [(List.append_inj' hother rfl).1]
      exact hkept hfolder
    · rw [hsame hother] at hget
      exact hkept (hsound.parent _ _ _ hget)
  case name =>
    intro above last other hget
    by_cases hother : above ++ [last] = folder ++ [name]
    · have hlast : last = name := by simpa using (List.append_inj' hother rfl).2
      rw [hlast]
      exact hname
    · rw [hsame hother] at hget
      exact hsound.name _ _ _ hget
  case target =>
    intro other target hget
    by_cases hother : other = folder ++ [name]
    · rw [hother, get?_put_self tree entry (by simp)] at hget
      exact hentry target (Option.some.inj hget)
    · rw [hsame hother] at hget
      exact hsound.target _ _ hget

theorem Sound.put_free (hsound : tree.Sound) (hnul : path.hasNul = false)
    (h : tree.locate aim path = .ok (.free folder name))
    (hentry : ∀ target, entry = .link target → '\x00' ∉ target) :
    (tree.put (folder ++ [name]) entry).Sound := by
  obtain ⟨hfolder, hname⟩ := hsound.locate_free hnul h
  exact hsound.put ⟨by simp, Or.inl (locate_standsIn h)⟩ hfolder hname hentry

theorem Sound.put_file (hsound : tree.Sound) {old data : FileData}
    (hget : tree.get? place = some (.file old)) : (tree.put place (.file data)).Sound := by
  rcases List.eq_nil_or_concat place with rfl | ⟨folder, name, rfl⟩
  · cases hget
  · rw [List.concat_eq_append] at hget ⊢
    exact hsound.put ⟨by simp, Or.inr ⟨old, hget⟩⟩ (hsound.parent _ _ _ hget)
      (hsound.name _ _ _ hget) (by simp)

theorem Sound.addFolder (hsound : tree.Sound) (hnul : path.hasNul = false)
    (h : tree.addFolder path = .ok other) : other.Sound := by
  unfold FileTree.addFolder at h
  split at h
  case h_1 hlocate =>
    cases h
    exact hsound.put_free hnul hlocate (by simp)
  case h_2 => cases h
  case h_3 => cases h

theorem Sound.settle (hsound : tree.Sound) (fault : Fault) (path : Path) :
    (tree.settle fault path).tree.Sound := by
  unfold FileTree.settle
  split
  · exact hsound
  · exact hsound

theorem Sound.makeFolder (hsound : tree.Sound) (hnul : path.hasNul = false) :
    (tree.makeFolder path).tree.Sound := by
  unfold FileTree.makeFolder
  split
  case h_1 hok => exact hsound.addFolder hnul hok
  case h_2 => exact hsound
  case h_3 => exact hsound.settle _ _

theorem Sound.andThen {attempt : Attempt} {next : FileTree → Attempt}
    (hattempt : attempt.tree.Sound) (hnext : ∀ tree, tree.Sound → (next tree).tree.Sound) :
    (attempt.andThen next).tree.Sound := by
  rcases attempt.andThen_cases next with ⟨-, heq⟩ | ⟨-, heq⟩
  · rw [heq]
    exact hattempt
  · rw [heq]
    exact hnext _ hattempt

theorem Sound.makeFoldersUp (hsound : tree.Sound) (anchor : Anchor) (reversed : List Text)
    (hnul : (⟨anchor, reversed.reverse⟩ : Path).hasNul = false) :
    (tree.makeFoldersUp anchor reversed).tree.Sound := by
  induction reversed with
  | nil => exact hsound.makeFolder hnul
  | cons name above ih =>
    have habove : (⟨anchor, above.reverse⟩ : Path).hasNul = false := by
      simp only [Path.hasNul, List.reverse_cons, List.any_append, Bool.or_eq_false_iff] at hnul ⊢
      exact hnul.1
    unfold FileTree.makeFoldersUp
    simp only
    split
    case h_1 hok => exact hsound.addFolder hnul hok
    case h_2 => exact (ih habove).andThen fun _ h => h.makeFolder hnul
    case h_3 => exact hsound.settle _ _

theorem Sound.makeFolders (hsound : tree.Sound) (path : Path) :
    (tree.makeFolders path).tree.Sound := by
  unfold FileTree.makeFolders
  split
  case isTrue => exact hsound
  case isFalse hnul =>
    apply hsound.makeFoldersUp
    rw [List.reverse_reverse]
    simpa using hnul

theorem Sound.putFile (hsound : tree.Sound) (path : Path)
    (become : Option FileData → FileData) : (tree.putFile path become).tree.Sound := by
  unfold FileTree.putFile
  split
  case isTrue => exact hsound
  case isFalse hnul =>
    split
    case h_1 hlocate => exact hsound.put_free (by simpa using hnul) hlocate (by simp)
    case h_2 place data hlocate =>
      exact hsound.put_file ((locate_standsIn hlocate).resolve_left (by simp))
    case h_3 => exact hsound
    case h_4 => exact hsound
    case h_5 => exact hsound

theorem Sound.makeLink (hsound : tree.Sound) (path : Path) (target : Text) :
    (tree.makeLink path target).tree.Sound := by
  unfold FileTree.makeLink
  simp only
  split
  case isTrue => exact hsound
  case isFalse hnul =>
    simp only [Bool.or_eq_true, not_or, Bool.not_eq_true] at hnul
    split
    case h_1 => exact hsound
    case h_2 hlocate =>
      apply hsound.put_free hnul.1 hlocate
      intro other hother
      cases hother
      simpa using hnul.2
    case h_3 => exact hsound
    case h_4 => exact hsound

theorem Sound.makeSocket (hsound : tree.Sound) (path : Path) :
    (tree.makeSocket path).tree.Sound := by
  unfold FileTree.makeSocket
  split
  case isTrue => exact hsound
  case isFalse hnul =>
    split
    · exact hsound
    split
    case h_1 hlocate => exact hsound.put_free (by simpa using hnul) hlocate (by simp)
    case h_2 => exact hsound
    case h_3 => exact hsound

/-- **Planting entries keeps a tree sound.** -/
theorem Sound.plant (hsound : tree.Sound) (path : Path) (entry : Entry) :
    (tree.plant path entry).tree.Sound := by
  apply (hsound.makeFolders _).andThen
  intro tree hsound
  cases entry with
  | folder => exact hsound.makeFolders path
  | file data => exact hsound.putFile path _
  | link target => exact hsound.makeLink path target
  | socket => exact hsound.makeSocket path

theorem Sound.writeArtifacts (hsound : tree.Sound) (folder : Path) (contents : Artifact → Text)
    (artifacts : List Artifact) :
    (Report.writeArtifacts folder contents tree artifacts).tree.Sound := by
  induction artifacts generalizing tree with
  | nil => exact hsound
  | cons artifact rest ih =>
    rw [Report.writeArtifacts, writeText_char]
    exact (hsound.putFile _ _).andThen fun _ h => ih h

/-- **Writing a report keeps a tree sound.** -/
theorem Sound.write (hsound : tree.Sound) (folder : Path) (results : Results)
    (audit : Option (List Text)) : (Report.write tree folder results audit).tree.Sound :=
  (hsound.makeFolders folder).andThen fun _ h => h.writeArtifacts folder _ _

/-! ### Without links -/

theorem LiesBelow.tail {next : Text} {rest : List Text}
    (h : tree.LiesBelow start (name :: next :: rest)) :
    tree.get? (start ++ [name]) = some .folder ∧
      tree.LiesBelow (start ++ [name]) (next :: rest) := by
  obtain ⟨-, ⟨entry, hget⟩, hway⟩ := h
  refine ⟨hway [name] (next :: rest) rfl (by simp) (by simp), by simp, ⟨entry, ?_⟩, ?_⟩
  · rwa [List.append_assoc, List.singleton_append]
  · intro before after heq _ hafter
    rw [List.append_assoc]
    exact hway ([name] ++ before) after (by rw [List.append_assoc, ← heq]; rfl) (by simp) hafter

/-- A way of names leads down to the entry, unless one of them is too long. -/
theorem walk_names (hlinks : tree.LinkFree) (hbelow : tree.LiesBelow start names)
    (hget : tree.get? (start ++ names) = some entry)
    (follow : Place → List Step → Except Fault Located) :
    tree.walk .use follow start (names.map .into) = .ok (.occupied (start ++ names) entry) ∨
      tree.walk .use follow start (names.map .into) = .error .longName := by
  induction names generalizing start with
  | nil => exact absurd rfl hbelow.1
  | cons name rest ih =>
    by_cases hshort : Text.byteCount name ≤ maxNameBytes
    · cases rest with
      | nil =>
        refine Or.inl ?_
        rw [List.map_singleton, walk_into hshort (hlinks _), standing, hget]
      | cons next rest =>
        obtain ⟨hfolder, htail⟩ := hbelow.tail
        have hplace : start ++ name :: next :: rest = start ++ [name] ++ next :: rest := by simp
        rw [hplace] at hget ⊢
        rw [List.map_cons, walk_through_folder hshort (by simp) hfolder]
        exact ih htail hget
    · refine Or.inr ?_
      rw [List.map_cons, walk, if_neg (by simp), if_pos (Nat.not_le.1 hshort)]

/-- **Without links an entry below a directory is where its names say**, unless a name on
    the way or the whole path is too long. -/
theorem status_join (hlinks : tree.LinkFree) (hfolder : tree.folder? root = some folder)
    (hsteps : ∀ name ∈ names, Step.ofName name = .into name)
    (hbelow : tree.LiesBelow folder names) (hget : tree.get? (folder ++ names) = some entry) :
    tree.status (root.join names) = .ok (folder ++ names, entry) ∨
      tree.status (root.join names) = .error .longName := by
  obtain ⟨left, hlocate⟩ := locate_join .use hbelow.1 hsteps hfolder
  unfold status
  split at hlocate
  case isTrue =>
    rw [hlocate]
    exact Or.inr rfl
  case isFalse =>
    have hwalk : tree.resolve .use left folder (names.map .into) =
          .ok (.occupied (folder ++ names) entry) ∨
        tree.resolve .use left folder (names.map .into) = .error .longName := by
      cases left with
      | zero => exact walk_names hlinks hbelow hget _
      | succ left => exact walk_names hlinks hbelow hget _
    rcases hwalk with hwalk | hwalk
    · rw [hlocate, hwalk]
      exact Or.inl rfl
    · rw [hlocate, hwalk]
      exact Or.inr rfl

/-- Where nothing is in the way of a search, it leads to all that it finds. -/
theorem Sound.status_of_liesBelow (hsound : tree.Sound) (hlinks : tree.LinkFree)
    (hclear : tree.Unobstructed root) (hfolder : tree.folder? root = some folder)
    (hbelow : tree.LiesBelow folder names) (hget : tree.get? (folder ++ names) = some entry) :
    (root.join names).hasNul = false ∧
      tree.status (root.join names) = .ok (folder ++ names, entry) := by
  have hproper : ∀ name ∈ names, ProperName name := fun name => hsound.properName hget
  have hnul : (root.join names).hasNul = false := by
    rw [Path.hasNul, Path.join, List.any_append, Bool.or_eq_false_iff]
    refine ⟨(folder?_eq_some_iff.1 hfolder).1, List.any_eq_false.2 ?_⟩
    intro name hname
    simpa using (hproper name hname).2
  refine ⟨hnul, ?_⟩
  rcases status_join hlinks hfolder (fun name hname => (hproper name hname).1) hbelow hget with
    hstatus | hstatus
  · exact hstatus
  · have hobstacle := hclear.2 names ⟨folder, hfolder, hbelow⟩
    simp [obstacle?, hnul, hstatus, Fault.meansAbsent] at hobstacle

end FileTree

end VclReview
