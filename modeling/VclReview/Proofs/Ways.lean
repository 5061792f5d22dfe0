/-
  VclReview/Proofs/Ways.lean
  ==========================
  **Ways in a tree that changes.**  A way passes through directories and links only.  So
  it leads to the same place in every tree that has at least these (`status_of_waysIn`,
  `folder?_of_waysIn`), and what lies below the directory at its end is looked up there
  (`locate_join`, `locate_child`).  Making a directory ends with a path that leads to one,
  and adds nothing but directories at free places (`makeFolders_prepares`).
-/
import VclReview.Disk.Update

namespace VclReview

/-- An attempt is gone on with exactly if it has not failed. -/
theorem Attempt.andThen_cases (attempt : Attempt) (next : FileTree → Attempt) :
    attempt.failure ≠ none ∧ attempt.andThen next = attempt ∨
      attempt.failure = none ∧ attempt.andThen next = next attempt.tree := by
  unfold Attempt.andThen
  cases attempt.failure with
  | some error => exact Or.inl ⟨by simp, rfl⟩
  | none => exact Or.inr ⟨rfl, rfl⟩

namespace FileTree

variable {tree other : FileTree} {aim : Aim} {links : Nat} {start home place : Place}
  {steps : List Step} {name : Text} {path : Path}

/-! ### Ways and their ends -/

/-- All directories and links of the tree are also in the other one, which is seen from
    the same working directory. -/
structure WaysIn (tree other : FileTree) : Prop where
  workDir : other.workDir = tree.workDir
  folder : ∀ place, tree.get? place = some .folder → other.get? place = some .folder
  link : ∀ place target, tree.get? place = some (.link target) →
    other.get? place = some (.link target)

theorem WaysIn.refl (tree : FileTree) : tree.WaysIn tree := ⟨rfl, fun _ h => h, fun _ _ h => h⟩

theorem WaysIn.trans {third : FileTree} (h : tree.WaysIn other) (h' : other.WaysIn third) :
    tree.WaysIn third where
  workDir := h'.workDir.trans h.workDir
  folder place hplace := h'.folder place (h.folder place hplace)
  link place target hplace := h'.link place target (h.link place target hplace)

theorem waysIn_put (hfolder : tree.get? place ≠ some .folder)
    (hlink : ∀ target, tree.get? place ≠ some (.link target)) (entry : Entry) :
    tree.WaysIn (tree.put place entry) where
  workDir := rfl
  folder other hother := by
    have hne : other ≠ place := by
      rintro rfl
      exact hfolder hother
    rw [get?_put_of_ne tree entry hne, hother]
  link other target hother := by
    have hne : other ≠ place := by
      rintro rfl
      exact hlink target hother
    rw [get?_put_of_ne tree entry hne, hother]

/-- A way that leads on from a name passes through a directory or a link there, or ends
    there at something else. -/
theorem walk_into_eq_occupied {follow : Place → List Step → Except Fault Located}
    {rest : List Step} {entry : Entry}
    (h : tree.walk .use follow start (.into name :: rest) = .ok (.occupied home entry)) :
    Text.byteCount name ≤ maxNameBytes ∧
      (tree.get? (start ++ [name]) = some .folder ∧
          tree.walk .use follow (start ++ [name]) rest = .ok (.occupied home entry) ∨
        (∃ target, tree.get? (start ++ [name]) = some (.link target) ∧
          follow (if Text.startsWith "/" target then [] else start)
            (Step.ofText target ++ rest) = .ok (.occupied home entry)) ∨
        rest = [] ∧ home = start ++ [name] ∧ tree.get? home = some entry ∧ entry ≠ .folder) := by
  simp only [walk, reduceCtorEq, false_and, if_false, and_false] at h
  split at h
  · cases h
  case isFalse hshort =>
  refine ⟨Nat.not_lt.1 hshort, ?_⟩
  split at h
  · split at h
    · cases h
    · cases h
  case h_2 hget => exact Or.inl ⟨hget, h⟩
  case h_3 target hget => exact Or.inr (Or.inl ⟨target, hget, h⟩)
  case h_4 other hfolder _ hget =>
    split at h
    case isTrue hrest =>
      cases h
      exact Or.inr (Or.inr ⟨hrest, rfl, hget, hfolder⟩)
    · cases h

theorem walk_into_eq_folder {follow : Place → List Step → Except Fault Located}
    {rest : List Step}
    (h : tree.walk .use follow start (.into name :: rest) = .ok (.occupied home .folder)) :
    Text.byteCount name ≤ maxNameBytes ∧
      (tree.get? (start ++ [name]) = some .folder ∧
          tree.walk .use follow (start ++ [name]) rest = .ok (.occupied home .folder) ∨
        ∃ target, tree.get? (start ++ [name]) = some (.link target) ∧
          follow (if Text.startsWith "/" target then [] else start)
            (Step.ofText target ++ rest) = .ok (.occupied home .folder)) := by
  obtain ⟨hshort, hfolder | hlink | ⟨-, -, -, hentry⟩⟩ := walk_into_eq_occupied h
  · exact ⟨hshort, Or.inl hfolder⟩
  · exact ⟨hshort, Or.inr hlink⟩
  · exact absurd rfl hentry

theorem walk_through_folder {follow : Place → List Step → Except Fault Located}
    {rest : List Step} (hshort : Text.byteCount name ≤ maxNameBytes)
    (haim : ¬ (aim = .create ∧ Step.endInSlash rest = true))
    (hget : tree.get? (start ++ [name]) = some .folder) :
    tree.walk aim follow start (.into name :: rest) =
      tree.walk aim follow (start ++ [name]) rest := by
  rw [walk, if_neg haim, if_neg (Nat.not_lt.2 hshort), hget]

theorem walk_through_link {follow : Place → List Step → Except Fault Located}
    {rest : List Step} {target : Text} (hshort : Text.byteCount name ≤ maxNameBytes)
    (haim : ¬ (aim = .create ∧ Step.endInSlash rest = true))
    (hrest : ¬ (rest = [] ∧ aim = .entry))
    (hget : tree.get? (start ++ [name]) = some (.link target)) :
    tree.walk aim follow start (.into name :: rest) =
      follow (if Text.startsWith "/" target then [] else start) (Step.ofText target ++ rest) := by
  rw [walk, if_neg haim, if_neg (Nat.not_lt.2 hshort), hget]
  exact if_neg hrest

/-- What stands at a name in a directory. -/
def standing (tree : FileTree) (folder : Place) (name : Text) : Located :=
  match tree.get? (folder ++ [name]) with
  | none => .free folder name
  | some entry => .occupied (folder ++ [name]) entry

theorem walk_into {follow : Place → List Step → Except Fault Located}
    (hshort : Text.byteCount name ≤ maxNameBytes)
    (hlink : ∀ target, tree.get? (home ++ [name]) ≠ some (.link target)) :
    tree.walk aim follow home [.into name] = .ok (tree.standing home name) := by
  have hname : ¬ maxNameBytes < Text.byteCount name := Nat.not_lt.2 hshort
  simp only [walk, Step.endInSlash, hname, if_false, if_true, bne_self_eq_false, Bool.false_and,
    Bool.false_eq_true, and_false, standing]
  split <;> rename_i hget
  · rw [hget]
  · rw [hget]
  · exact absurd hget (hlink _)
  · rw [hget]

/-- The entries at the ends of two ways to a place: both are directories, or the second
    stands there in the other tree and is no link. -/
def EndsAt (other : FileTree) (home : Place) (entry last : Entry) : Prop :=
  entry = .folder ∧ last = .folder ∨
    entry ≠ .folder ∧ other.get? home = some last ∧ ∀ target, last ≠ .link target

theorem walk_of_waysIn (h : tree.WaysIn other) {entry last : Entry}
    (hend : other.EndsAt home entry last)
    {follow follow' : Place → List Step → Except Fault Located}
    (hfollow : ∀ start steps, follow start steps = .ok (.occupied home entry) →
      follow' start steps = .ok (.occupied home last))
    (hwalk : tree.walk .use follow start steps = .ok (.occupied home entry)) :
    other.walk .use follow' start steps = .ok (.occupied home last) := by
  induction steps generalizing start with
  | nil =>
    cases hwalk
    rcases hend with ⟨-, rfl⟩ | ⟨hentry, -⟩
    · rfl
    · exact absurd rfl hentry
  | cons step rest ih =>
    cases step with
    | stay => exact ih hwalk
    | slash => exact ih hwalk
    | up => exact ih hwalk
    | into name =>
      obtain ⟨hshort, ⟨hget, hrest⟩ | ⟨target, hget, hrest⟩ | ⟨rfl, rfl, -, hentry⟩⟩ :=
        walk_into_eq_occupied hwalk
      · rw [walk_through_folder hshort (by simp) (h.folder _ hget)]
        exact ih hrest
      · rw [walk_through_link hshort (by simp) (by simp) (h.link _ target hget)]
        exact hfollow _ _ hrest
      · rcases hend with ⟨hfolder, -⟩ | ⟨-, hget, hlink⟩
        · exact absurd hfolder hentry
        · rw [walk_into hshort (by simpa [hget] using hlink), standing, hget]

theorem resolve_of_waysIn (h : tree.WaysIn other) {entry last : Entry}
    (hend : other.EndsAt home entry last)
    (hresolve : tree.resolve .use links start steps = .ok (.occupied home entry)) :
    other.resolve .use links start steps = .ok (.occupied home last) := by
  induction links generalizing start steps with
  | zero =>
    refine walk_of_waysIn h hend ?_ hresolve
    intro _ _ hfollow
    cases hfollow
  | succ links ih => exact walk_of_waysIn h hend (fun _ _ => ih) hresolve

theorem WaysIn.origin (h : tree.WaysIn other) (anchor : Anchor) :
    other.origin anchor = tree.origin anchor := by
  unfold FileTree.origin
  rw [h.workDir]

theorem status_eq_ok_iff {entry : Entry} : tree.status path = .ok (place, entry) ↔
    Text.byteCount path.toText < pathLimit ∧
      tree.resolve .use maxLinks (tree.origin path.anchor) path.steps =
        .ok (.occupied place entry) := by
  unfold status locate
  by_cases hlong : pathLimit ≤ Text.byteCount path.toText
  · simp [hlong, Nat.not_lt.2 hlong]
  · simp only [hlong, if_false, Nat.not_le.1 hlong, true_and]
    cases tree.resolve .use maxLinks (tree.origin path.anchor) path.steps with
    | error fault => simp
    | ok located => cases located <;> simp

/-- **What a path leads to is found at the same place as long as no directory and no link
    is lost**, even if a file there has changed. -/
theorem status_of_waysIn (h : tree.WaysIn other) {entry last : Entry}
    (hend : other.EndsAt place entry last) (hstatus : tree.status path = .ok (place, entry)) :
    other.status path = .ok (place, last) := by
  rw [status_eq_ok_iff] at hstatus ⊢
  rw [h.origin]
  exact ⟨hstatus.1, resolve_of_waysIn h hend hstatus.2⟩

theorem folder?_eq_some_iff_status : tree.folder? path = some home ↔
    path.hasNul = false ∧ tree.status path = .ok (home, .folder) := by
  unfold folder?
  cases path.hasNul with
  | true => simp
  | false =>
    cases tree.status path with
    | error fault => simp
    | ok found =>
      obtain ⟨place, entry⟩ := found
      cases entry <;> simp

theorem folder?_eq_some_iff : tree.folder? path = some home ↔
    path.hasNul = false ∧ Text.byteCount path.toText < pathLimit ∧
      tree.resolve .use maxLinks (tree.origin path.anchor) path.steps =
        .ok (.occupied home .folder) := by
  rw [folder?_eq_some_iff_status, status_eq_ok_iff]

/-- **A directory stays where it is as long as no directory and no link is lost.** -/
theorem folder?_of_waysIn (h : tree.WaysIn other) (hfolder : tree.folder? path = some home) :
    other.folder? path = some home := by
  rw [folder?_eq_some_iff_status] at hfolder ⊢
  exact ⟨hfolder.1, status_of_waysIn h (Or.inl ⟨rfl, rfl⟩) hfolder.2⟩

/-! ### What stands at the end -/

/-- What a way is said to end at is there. -/
def Located.StandsIn (tree : FileTree) : Located → Prop
  | .free folder name => tree.get? (folder ++ [name]) = none
  | .occupied place entry => entry = .folder ∨ tree.get? place = some entry

theorem walk_standsIn {follow : Place → List Step → Except Fault Located} {located : Located}
    (hfollow : ∀ start steps, follow start steps = .ok located → Located.StandsIn tree located)
    (h : tree.walk aim follow start steps = .ok located) : Located.StandsIn tree located := by
  induction steps generalizing start with
  | nil =>
    cases h
    exact Or.inl rfl
  | cons step rest ih =>
    cases step with
    | stay => exact ih h
    | slash => exact ih h
    | up => exact ih h
    | into name =>
      simp only [walk] at h
      split at h
      · cases h
      split at h
      · cases h
      split at h
      case h_1 hget =>
        split at h
        · cases h
          exact hget
        · cases h
      case h_2 => exact ih h
      case h_3 hget =>
        split at h
        · cases h
          exact Or.inr hget
        · exact hfollow _ _ h
      case h_4 hget =>
        split at h
        · cases h
          exact Or.inr hget
        · cases h

theorem resolve_standsIn {located : Located}
    (h : tree.resolve aim links start steps = .ok located) : Located.StandsIn tree located := by
  induction links generalizing start steps with
  | zero =>
    refine walk_standsIn ?_ h
    intro _ _ hfollow
    cases hfollow
  | succ links ih => exact walk_standsIn (fun _ _ => ih) h

theorem locate_standsIn {located : Located} (h : tree.locate aim path = .ok located) :
    Located.StandsIn tree located := by
  unfold locate at h
  split at h
  · cases h
  · exact resolve_standsIn h

theorem get?_of_status {entry : Entry} (h : tree.status path = .ok (place, entry))
    (hfolder : entry ≠ .folder) : tree.get? place = some entry := by
  unfold status at h
  split at h
  case h_1 hlocate =>
    cases h
    exact (locate_standsIn hlocate).resolve_left hfolder
  case h_2 => cases h
  case h_3 => cases h

theorem contentsAt_eq_ok_iff {bytes : Bytes} : tree.contentsAt path = .ok bytes ↔
    path.hasNul = false ∧
      ∃ place data, tree.status path = .ok (place, .file data) ∧ data.bytes = bytes := by
  unfold contentsAt
  cases path.hasNul with
  | true => simp
  | false =>
    cases tree.status path with
    | error fault => simp
    | ok found =>
      obtain ⟨place, entry⟩ := found
      cases entry with
      | file data => simp [and_assoc]
      | folder | link | socket => simp

/-! ### What lies below a directory -/

theorem endInSlash_append {more : List Step} (hmore : more.any (· != .slash) = true)
    (steps : List Step) : Step.endInSlash (steps ++ more) = false := by
  obtain ⟨step, hstep, hne⟩ := List.any_eq_true.1 hmore
  have hall : (steps ++ more).all (· == .slash) = false :=
    List.all_eq_false.2 ⟨step, List.mem_append_right steps hstep, by simpa using hne⟩
  rw [Step.endInSlash, hall, Bool.and_false]

theorem walk_append {more : List Step} (hmore : more.any (· != .slash) = true)
    {follow follow' : Place → List Step → Except Fault Located}
    (hfollow : ∀ start steps, follow start steps = .ok (.occupied home .folder) →
      ∃ left, follow' start (steps ++ more) = tree.resolve aim left home more)
    (h : tree.walk .use follow start steps = .ok (.occupied home .folder)) :
    tree.walk aim follow' start (steps ++ more) = tree.walk aim follow' home more ∨
      ∃ left, tree.walk aim follow' start (steps ++ more) =
        tree.resolve aim left home more := by
  induction steps generalizing start with
  | nil =>
    cases h
    exact Or.inl rfl
  | cons step rest ih =>
    cases step with
    | stay => exact ih h
    | slash => exact ih h
    | up => exact ih h
    | into name' =>
      have hon : ¬ (aim = .create ∧ Step.endInSlash (rest ++ more) = true) := by
        simp [endInSlash_append hmore]
      have hne : more ≠ [] := by
        rintro rfl
        cases hmore
      obtain ⟨hshort, ⟨hget, hrest⟩ | ⟨target, hget, hrest⟩⟩ := walk_into_eq_folder h
      · rw [List.cons_append, walk_through_folder hshort hon hget]
        exact ih hrest
      · obtain ⟨left, hleft⟩ := hfollow _ _ hrest
        rw [List.cons_append, walk_through_link hshort hon (by simp [hne]) hget,
          ← List.append_assoc]
        exact Or.inr ⟨left, hleft⟩

/-- What is looked for below the end of a way is looked for from there, though fewer
    links may be left. -/
theorem resolve_append (aim : Aim) {more : List Step} (hmore : more.any (· != .slash) = true)
    (h : tree.resolve .use links start steps = .ok (.occupied home .folder)) :
    ∃ left, tree.resolve aim links start (steps ++ more) = tree.resolve aim left home more := by
  have hcases : tree.resolve aim links start (steps ++ more) = tree.resolve aim links home more ∨
      ∃ left, tree.resolve aim links start (steps ++ more) =
        tree.resolve aim left home more := by
    induction links generalizing start steps with
    | zero =>
      refine walk_append hmore ?_ h
      intro _ _ hfollow
      cases hfollow
    | succ links ih =>
      refine walk_append hmore ?_ h
      intro start steps hfollow
      exact (ih hfollow).elim (fun hsame => ⟨links, hsame⟩) id
  exact hcases.elim (fun hsame => ⟨links, hsame⟩) id

/-- The entries below a directory are looked for from the directory. -/
theorem locate_join (aim : Aim) {names : List Text} (hnames : names ≠ [])
    (hsteps : ∀ name ∈ names, Step.ofName name = .into name)
    (hfolder : tree.folder? path = some home) :
    ∃ left, tree.locate aim (path.join names) =
      if pathLimit ≤ Text.byteCount (path.join names).toText then .error .longName
      else tree.resolve aim left home (names.map .into) := by
  obtain ⟨-, -, hresolve⟩ := folder?_eq_some_iff.1 hfolder
  have hmore : (names.map Step.into).any (· != .slash) = true := by
    obtain ⟨name, rest, rfl⟩ := List.exists_cons_of_ne_nil hnames
    simp
  obtain ⟨left, hleft⟩ := resolve_append aim hmore hresolve
  have hsteps : (path.join names).steps = path.steps ++ names.map .into := by
    rw [Path.steps, Path.join, List.map_append, List.map_congr_left hsteps]
    rfl
  refine ⟨left, ?_⟩
  unfold locate
  rw [hsteps]
  show (if _ then _ else tree.resolve aim maxLinks (tree.origin path.anchor) _) = _
  rw [hleft]

/-- **An entry of a directory is looked up in the directory**, unless it is a link. -/
theorem locate_child (aim : Aim) (hfolder : tree.folder? path = some home)
    (hstep : Step.ofName name = .into name)
    (hshort : Text.byteCount name ≤ maxNameBytes)
    (hlink : ∀ target, tree.get? (home ++ [name]) ≠ some (.link target)) :
    tree.locate aim (path.child name) =
      if pathLimit ≤ Text.byteCount (path.child name).toText then .error .longName
      else .ok (tree.standing home name) := by
  obtain ⟨left, hleft⟩ := locate_join aim (List.cons_ne_nil name []) (by simpa using hstep) hfolder
  have hend : tree.resolve aim left home [.into name] = .ok (tree.standing home name) := by
    cases left with
    | zero => rw [resolve, walk_into hshort hlink]
    | succ left => rw [resolve, walk_into hshort hlink]
  rw [List.map_singleton, hend] at hleft
  exact hleft

/-! ### Making directories -/

/-- The other tree has further directories at places that are free in this one, and is
    the same otherwise. -/
structure AddsFolders (tree other : FileTree) : Prop where
  workDir : other.workDir = tree.workDir
  get? : ∀ place, other.get? place = tree.get? place ∨
    tree.get? place = none ∧ other.get? place = some .folder

theorem AddsFolders.refl (tree : FileTree) : tree.AddsFolders tree := ⟨rfl, fun _ => Or.inl rfl⟩

theorem AddsFolders.trans {third : FileTree} (h : tree.AddsFolders other)
    (h' : other.AddsFolders third) : tree.AddsFolders third where
  workDir := h'.workDir.trans h.workDir
  get? place := by
    rcases h'.get? place with hsame' | ⟨hfree', hnew'⟩
    · rw [hsame']
      exact h.get? place
    · rcases h.get? place with hsame | ⟨-, hnew⟩
      · exact Or.inr ⟨hsame ▸ hfree', hnew'⟩
      · cases hfree'.symm.trans hnew

theorem AddsFolders.get?_of_some (h : tree.AddsFolders other) {entry : Entry}
    (hget : tree.get? place = some entry) : other.get? place = some entry := by
  rcases h.get? place with hsame | ⟨hfree, -⟩
  · rw [hsame, hget]
  · cases hfree.symm.trans hget

theorem AddsFolders.waysIn (h : tree.AddsFolders other) : tree.WaysIn other :=
  ⟨h.workDir, fun _ => h.get?_of_some, fun _ _ => h.get?_of_some⟩

theorem AddsFolders.link_iff (h : tree.AddsFolders other) {target : Text} :
    other.get? place = some (.link target) ↔ tree.get? place = some (.link target) := by
  rcases h.get? place with hsame | ⟨hfree, hnew⟩
  · rw [hsame]
  · rw [hfree, hnew]
    simp

/-- A free end is free, and becomes the end of a way once a directory is there. -/
theorem walk_eq_free {follow follow' : Place → List Step → Except Fault Located}
    {folder : Place}
    (hfollow : ∀ start steps, follow start steps = .ok (.free folder name) →
      tree.get? (folder ++ [name]) = none ∧
        follow' start steps = .ok (.occupied (folder ++ [name]) .folder))
    (h : tree.walk .entry follow start steps = .ok (.free folder name)) :
    tree.get? (folder ++ [name]) = none ∧
      (tree.put (folder ++ [name]) .folder).walk .use follow' start steps =
        .ok (.occupied (folder ++ [name]) .folder) := by
  induction steps generalizing start with
  | nil => cases h
  | cons step rest ih =>
    cases step with
    | stay => exact ih h
    | slash => exact ih h
    | up => exact ih h
    | into name' =>
      simp only [walk, reduceCtorEq, false_and, if_false, and_false] at h ⊢
      split at h
      · cases h
      case isFalse hshort =>
      rw [if_neg hshort]
      -- the way cannot pass through the end itself, where nothing is yet
      have hkept {entry : Entry} (hget : tree.get? (start ++ [name']) = some entry)
          (hfree : tree.get? (folder ++ [name]) = none) :
          (tree.put (folder ++ [name]) .folder).get? (start ++ [name']) = some entry := by
        rw [get?_put_of_ne, hget]
        intro heq
        rw [heq, hfree] at hget
        cases hget
      split at h
      case h_1 hget =>
        split at h
        · cases h
          subst_vars
          refine ⟨hget, ?_⟩
          rw [get?_put_self tree .folder (by simp)]
          rfl
        · cases h
      case h_2 hget =>
        obtain ⟨hfree, hwalk⟩ := ih h
        exact ⟨hfree, by rw [hkept hget hfree]; exact hwalk⟩
      case h_3 target hget =>
        split at h
        · cases h
        obtain ⟨hfree, hend⟩ := hfollow _ _ h
        exact ⟨hfree, by rw [hkept hget hfree]; exact hend⟩
      case h_4 hget =>
        split at h
        · cases h
        · cases h

theorem resolve_eq_free {folder : Place}
    (h : tree.resolve .entry links start steps = .ok (.free folder name)) :
    tree.get? (folder ++ [name]) = none ∧
      (tree.put (folder ++ [name]) .folder).resolve .use links start steps =
        .ok (.occupied (folder ++ [name]) .folder) := by
  induction links generalizing start steps with
  | zero =>
    refine walk_eq_free ?_ h
    intro _ _ hfollow
    cases hfollow
  | succ links ih => exact walk_eq_free (fun _ _ => ih) h

theorem addFolder_eq_ok (hnul : path.hasNul = false) (h : tree.addFolder path = .ok other) :
    ∃ place, tree.get? place = none ∧ other = tree.put place .folder ∧
      other.folder? path = some place := by
  unfold addFolder locate at h
  split at h
  case h_2 => cases h
  case h_3 => cases h
  case h_1 folder name hlocate =>
    cases h
    split at hlocate
    · cases hlocate
    case isFalse hshort =>
    obtain ⟨hfree, hresolve⟩ := resolve_eq_free hlocate
    refine ⟨folder ++ [name], hfree, rfl, ?_⟩
    rw [folder?_eq_some_iff]
    exact ⟨hnul, Nat.not_le.1 hshort, hresolve⟩

theorem addsFolders_put (hfree : tree.get? place = none) :
    tree.AddsFolders (tree.put place .folder) := by
  refine ⟨rfl, fun other => ?_⟩
  by_cases hother : other = place
  · subst hother
    refine Or.inr ⟨hfree, get?_put_self tree .folder ?_⟩
    rintro rfl
    cases hfree
  · exact Or.inl (get?_put_of_ne tree .folder hother)

/-- The path, or one that it starts with, leads to the directory at the place. -/
def OnTheWay (tree : FileTree) (path : Path) (place : Place) : Prop :=
  ∃ parts, parts <+: path.parts ∧ tree.folder? ⟨path.anchor, parts⟩ = some place

theorem OnTheWay.mono (h : tree.OnTheWay path place) (hways : tree.WaysIn other) :
    other.OnTheWay path place := by
  obtain ⟨parts, hparts, hfolder⟩ := h
  exact ⟨parts, hparts, folder?_of_waysIn hways hfolder⟩

/-- The attempt adds nothing but directories on the way, and unless it fails the path leads
    to one. -/
structure Prepares (tree : FileTree) (path : Path) (attempt : Attempt) : Prop where
  adds : tree.AddsFolders attempt.tree
  onTheWay : ∀ place, attempt.tree.get? place = tree.get? place ∨
    attempt.tree.OnTheWay path place
  isFolder : attempt.failure = none → attempt.tree.isFolder path = true

theorem prepares_of_failure (tree : FileTree) (path : Path) (error : DiskError) :
    tree.Prepares path ⟨tree, some error⟩ :=
  ⟨AddsFolders.refl tree, fun _ => Or.inl rfl, fun h => by cases h⟩

theorem prepares_of_addFolder (hnul : path.hasNul = false) (h : tree.addFolder path = .ok other) :
    tree.Prepares path ⟨other, none⟩ := by
  obtain ⟨place, hfree, rfl, hfolder⟩ := addFolder_eq_ok hnul h
  refine ⟨addsFolders_put hfree, ?_, fun _ => Option.isSome_iff_exists.2 ⟨place, hfolder⟩⟩
  intro other
  by_cases hother : other = place
  · exact Or.inr ⟨path.parts, List.prefix_rfl, hother ▸ hfolder⟩
  · exact Or.inl (get?_put_of_ne tree .folder hother)

theorem settle_prepares (tree : FileTree) (fault : Fault) (path : Path) :
    tree.Prepares path (tree.settle fault path) := by
  unfold settle
  split
  case isTrue hfolder => exact ⟨AddsFolders.refl tree, fun _ => Or.inl rfl, fun _ => hfolder⟩
  case isFalse => exact tree.prepares_of_failure path _

theorem makeFolder_prepares (tree : FileTree) (hnul : path.hasNul = false) :
    tree.Prepares path (tree.makeFolder path) := by
  unfold makeFolder
  split
  case h_1 hok => exact prepares_of_addFolder hnul hok
  case h_2 => exact tree.prepares_of_failure path _
  case h_3 fault _ _ => exact tree.settle_prepares fault path

/-- What is made on the way to a directory above is on the way to the one itself. -/
theorem Prepares.below {attempt : Attempt} {anchor : Anchor} {above : List Text}
    (h : tree.Prepares ⟨anchor, above⟩ attempt) (name : Text) (place : Place) :
    attempt.tree.get? place = tree.get? place ∨
      attempt.tree.OnTheWay ⟨anchor, above ++ [name]⟩ place := by
  rcases h.onTheWay place with hsame | ⟨parts, hparts, hfolder⟩
  · exact Or.inl hsame
  · exact Or.inr ⟨parts, hparts.trans (List.prefix_append above [name]), hfolder⟩

theorem makeFoldersUp_prepares (tree : FileTree) (anchor : Anchor) (reversed : List Text)
    (hnul : (⟨anchor, reversed.reverse⟩ : Path).hasNul = false) :
    tree.Prepares ⟨anchor, reversed.reverse⟩ (tree.makeFoldersUp anchor reversed) := by
  induction reversed with
  | nil => exact tree.makeFolder_prepares hnul
  | cons name above ih =>
    unfold makeFoldersUp
    simp only
    split
    case h_1 hok => exact prepares_of_addFolder hnul hok
    case h_2 =>
      -- the directories above come first, and then the one itself
      have habove : (⟨anchor, above.reverse⟩ : Path).hasNul = false := by
        simp only [Path.hasNul, List.reverse_cons, List.any_append, Bool.or_eq_false_iff] at hnul ⊢
        exact hnul.1
      have hupper := ih habove
      have hway := hupper.below name
      rw [← List.reverse_cons] at hway
      rcases (tree.makeFoldersUp anchor above).andThen_cases (·.makeFolder _) with
        ⟨hfailure, heq⟩ | ⟨-, heq⟩
      · rw [heq]
        exact ⟨hupper.adds, hway, fun h => absurd h hfailure⟩
      · have hlower := makeFolder_prepares (tree.makeFoldersUp anchor above).tree hnul
        rw [heq]
        refine ⟨hupper.adds.trans hlower.adds, ?_, hlower.isFolder⟩
        intro place
        rcases hlower.onTheWay place with hsame | hnew
        · rw [hsame]
          exact (hway place).imp_right fun h => h.mono hlower.adds.waysIn
        · exact Or.inr hnew
    case h_3 fault _ _ => exact tree.settle_prepares fault _

/-- **Directories are made at free places on the way only, and then the path leads to
    one.** -/
theorem makeFolders_prepares (tree : FileTree) (path : Path) :
    tree.Prepares path (tree.makeFolders path) := by
  unfold makeFolders
  split
  case isTrue => exact tree.prepares_of_failure path _
  case isFalse hnul =>
    have hprepares := tree.makeFoldersUp_prepares path.anchor path.parts.reverse
    rw [List.reverse_reverse] at hprepares
    exact hprepares (by simpa using hnul)

/-! ### Making a directory that is there -/

theorem walk_entry_of_folder {follow follow' : Place → List Step → Except Fault Located}
    (hfollow : ∀ start steps, follow start steps = .ok (.occupied home .folder) →
      ∃ place entry, follow' start steps = .ok (.occupied place entry))
    (h : tree.walk .use follow start steps = .ok (.occupied home .folder)) :
    ∃ place entry, tree.walk .entry follow' start steps = .ok (.occupied place entry) := by
  induction steps generalizing start with
  | nil => exact ⟨_, _, rfl⟩
  | cons step rest ih =>
    cases step with
    | stay => exact ih h
    | slash => exact ih h
    | up => exact ih h
    | into name =>
      obtain ⟨hshort, ⟨hget, hrest⟩ | ⟨target, hget, hrest⟩⟩ := walk_into_eq_folder h
      · rw [walk_through_folder hshort (by simp) hget]
        exact ih hrest
      · by_cases hlast : rest = []
        · subst hlast
          refine ⟨start ++ [name], .link target, ?_⟩
          rw [walk, if_neg (by simp), if_neg (Nat.not_lt.2 hshort), hget]
          simp
        · rw [walk_through_link hshort (by simp) (by simp [hlast]) hget]
          exact hfollow _ _ hrest

theorem resolve_entry_of_folder
    (h : tree.resolve .use links start steps = .ok (.occupied home .folder)) :
    ∃ place entry, tree.resolve .entry links start steps = .ok (.occupied place entry) := by
  induction links generalizing start steps with
  | zero =>
    refine walk_entry_of_folder ?_ h
    intro _ _ hfollow
    cases hfollow
  | succ links ih => exact walk_entry_of_folder (fun _ _ => ih) h

theorem addFolder_of_isFolder (h : tree.isFolder path = true) :
    tree.addFolder path = .error .alreadyThere := by
  obtain ⟨home, hhome⟩ := Option.isSome_iff_exists.1 h
  obtain ⟨-, hshort, hresolve⟩ := folder?_eq_some_iff.1 hhome
  obtain ⟨place, entry, hentry⟩ := resolve_entry_of_folder hresolve
  unfold addFolder locate
  rw [if_neg (Nat.not_le.2 hshort), hentry]

/-- A directory that is already there is left as it is. -/
theorem makeFolders_of_isFolder (h : tree.isFolder path = true) :
    tree.makeFolders path = ⟨tree, none⟩ := by
  have hnul : path.hasNul = false := by
    obtain ⟨home, hhome⟩ := Option.isSome_iff_exists.1 h
    exact (folder?_eq_some_iff.1 hhome).1
  have hsettle : tree.settle .alreadyThere path = ⟨tree, none⟩ := by
    rw [settle, if_pos h]
  obtain ⟨anchor, parts⟩ := path
  unfold makeFolders
  rw [if_neg (by simp [hnul])]
  rcases List.eq_nil_or_concat parts with rfl | ⟨above, name, rfl⟩
  · simp only [List.reverse_nil, makeFoldersUp, makeFolder, addFolder_of_isFolder h, hsettle]
  · rw [List.concat_eq_append] at h hsettle ⊢
    simp only [List.reverse_append, List.reverse_cons, List.reverse_nil, List.nil_append,
      List.singleton_append, makeFoldersUp, List.reverse_reverse, addFolder_of_isFolder h, hsettle]

end FileTree

end VclReview
