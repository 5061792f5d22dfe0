/-
  VclReview/Proofs/Search.lean
  ============================
  **What a search finds, and what is in its way.**  An entry lies below a directory if
  all that leads to it are directories, no link among them (`LiesBelow`).  A search
  finds exactly these entries, each once and in the order of their names
  (`mem_entriesBelow_iff`, `pairwise_entriesBelow`).

  The one thing that can be in its way is a name that is too long
  (`obstacle?_eq_some`): it may be the path of an entry or the target of a link.
-/
import VclReview.Disk.Lookup
import VclReview.Proofs.Sorting

namespace VclReview.FileTree

variable {tree : FileTree} {folder : Place} {root path : Path} {names : List Text} {fault : Fault}

/-! ### Obstacles -/

/-- A way that is to be used ends in an error only if there is nothing at its end or a
    name is too long. -/
theorem walk_eq_error {follow : Place → List Step → Except Fault Located}
    (hfollow : ∀ folder steps fault, follow folder steps = .error fault →
      fault.meansAbsent = true ∨ fault = .longName)
    (folder : Place) (steps : List Step) (h : tree.walk .use follow folder steps = .error fault) :
    fault.meansAbsent = true ∨ fault = .longName := by
  induction steps generalizing folder with
  | nil => cases h
  | cons step rest ih =>
    cases step with
    | stay => exact ih folder h
    | slash => exact ih folder h
    | up => exact ih folder.dropLast h
    | into name =>
      simp only [walk, reduceCtorEq, false_and, if_false, and_false] at h
      split at h
      · cases h
        exact Or.inr rfl
      split at h
      · split at h
        · cases h
        · cases h
          exact Or.inl rfl
      · exact ih _ h
      -- the target of a link may fail in its own way
      · exact hfollow _ _ _ h
      · split at h
        · cases h
        · cases h
          exact Or.inl rfl

theorem resolve_eq_error (links : Nat) (folder : Place) (steps : List Step)
    (h : tree.resolve .use links folder steps = .error fault) :
    fault.meansAbsent = true ∨ fault = .longName := by
  induction links generalizing folder steps fault with
  | zero =>
    refine walk_eq_error ?_ folder steps h
    intro folder steps fault h
    cases h
    exact Or.inl rfl
  | succ links ih => exact walk_eq_error (fun _ _ _ h => ih _ _ h) folder steps h

theorem status_eq_error (h : tree.status path = .error fault) :
    fault.meansAbsent = true ∨ fault = .longName := by
  unfold status at h
  split at h
  · cases h
  · cases h
    exact Or.inl rfl
  case h_3 hlocate =>
    cases h
    unfold locate at hlocate
    split at hlocate
    · cases hlocate
      exact Or.inr rfl
    · exact resolve_eq_error _ _ _ hlocate

/-- **Only a name that is too long is in the way.** -/
theorem obstacle?_eq_some (h : tree.obstacle? path = some fault) : fault = .longName := by
  unfold obstacle? at h
  split at h
  · cases h
  split at h
  · cases h
  case h_2 hstatus =>
    split at h
    · cases h
    case isFalse habsent =>
      cases h
      exact (status_eq_error hstatus).resolve_left habsent

/-! ### Entries below a directory -/

/-- Something stands at the end of the way, and everything on the way is a directory. -/
def LiesBelow (tree : FileTree) (folder : Place) (names : List Text) : Prop :=
  names ≠ [] ∧ (∃ entry, tree.get? (folder ++ names) = some entry) ∧
    ∀ before after, names = before ++ after → before ≠ [] → after ≠ [] →
      tree.get? (folder ++ before) = some .folder

theorem reaches_iff : tree.reaches folder names = true ↔
    ∀ before after, names = before ++ after → before ≠ [] → after ≠ [] →
      tree.get? (folder ++ before) = some .folder := by
  unfold reaches
  simp only [List.all_eq_true, List.mem_range, Bool.or_eq_true, decide_eq_true_eq]
  constructor
  · rintro h before after rfl hbefore hafter
    have hlt : before.length < (before ++ after).length := by
      have := List.length_pos_iff.2 hafter
      rw [List.length_append]
      omega
    have hne : before.length ≠ 0 := fun hzero => hbefore (List.length_eq_zero_iff.1 hzero)
    simpa using (h before.length hlt).resolve_left hne
  · intro h n hn
    by_cases hzero : n = 0
    · exact Or.inl hzero
    · refine Or.inr (h (names.take n) (names.drop n) (List.take_append_drop n names).symm ?_ ?_)
      · intro htake
        rcases List.take_eq_nil_iff.1 htake with h | h
        · exact hzero h
        · simp [h] at hn
      · intro hdrop
        have := List.drop_eq_nil_iff.1 hdrop
        omega

theorem mem_entries_of_get? {place : Place} {entry : Entry} (hplace : place ≠ [])
    (h : tree.get? place = some entry) : (place, entry) ∈ tree.entries := by
  rw [get?, if_neg hplace] at h
  obtain ⟨before, after, hentries, -⟩ := List.lookup_eq_some_iff.1 h
  rw [hentries]
  exact List.mem_append_cons_self

theorem get?_eq_some_iff_lookup {place : Place} (h : place ≠ []) :
    (∃ entry, tree.get? place = some entry) ↔ ∃ entry, (place, entry) ∈ tree.entries := by
  have hget : tree.get? place = tree.entries.lookup place := by simp [get?, h]
  rw [hget, ← Option.isSome_iff_exists, List.lookup_isSome_iff]
  simp only [beq_iff_eq]
  constructor
  · rintro ⟨⟨other, entry⟩, hmem, rfl⟩
    exact ⟨entry, hmem⟩
  · rintro ⟨entry, hmem⟩
    exact ⟨(place, entry), hmem, rfl⟩

/-- The names that lead from the directory to a place, if it lies below. -/
def wayTo? (folder place : Place) : Option (List Text) :=
  if folder.isPrefixOf place ∧ folder ≠ place then some (place.drop folder.length) else none

theorem wayTo?_eq_some_iff {place : Place} :
    wayTo? folder place = some names ↔ names ≠ [] ∧ place = folder ++ names := by
  unfold wayTo?
  constructor
  · intro h
    split at h
    case isTrue hbelow =>
      obtain ⟨rest, rfl⟩ := List.isPrefixOf_iff_prefix.1 hbelow.1
      simp only [List.drop_left, Option.some.injEq] at h
      subst h
      refine ⟨fun hnil => hbelow.2 ?_, rfl⟩
      simp [hnil]
    case isFalse => cases h
  · rintro ⟨hne, rfl⟩
    simp [List.isPrefixOf_iff_prefix, hne]

theorem below_eq (tree : FileTree) (folder : Place) : tree.below folder =
    sortWith namesInOrder
      ((tree.entries.filterMap fun e => wayTo? folder e.1).filter (tree.reaches folder)) := rfl

theorem mem_below_iff : names ∈ tree.below folder ↔ tree.LiesBelow folder names := by
  rw [below_eq, mem_sortWith, List.mem_filter, reaches_iff, List.mem_filterMap]
  unfold LiesBelow
  constructor
  · rintro ⟨⟨⟨place, entry⟩, hmem, hway⟩, hreaches⟩
    obtain ⟨hne, rfl⟩ := wayTo?_eq_some_iff.1 hway
    have hplace : folder ++ names ≠ [] := by simp [hne]
    exact ⟨hne, (get?_eq_some_iff_lookup hplace).2 ⟨entry, hmem⟩, hreaches⟩
  · rintro ⟨hne, hentry, hreaches⟩
    have hplace : folder ++ names ≠ [] := by simp [hne]
    obtain ⟨entry, hmem⟩ := (get?_eq_some_iff_lookup hplace).1 hentry
    exact ⟨⟨_, hmem, wayTo?_eq_some_iff.2 ⟨hne, rfl⟩⟩, hreaches⟩

theorem namesInOrder_iff_le {other : List Text} :
    namesInOrder names other = true ↔ names ≤ other := by
  have hlex : List.lex other names Text.before = true ↔ other < names := by
    rw [List.lex_eq_true_iff_lex]
    simp only [Text.before_iff_lt]
    exact Iff.rfl
  unfold namesInOrder
  rw [Bool.not_eq_true', ← Bool.not_eq_true, hlex, not_lt]

/-- No two entries have the same names, so the order is strict. -/
theorem pairwise_below (tree : FileTree) (folder : Place) :
    (tree.below folder).Pairwise (· < ·) := by
  have hways : (tree.entries.filterMap fun e => wayTo? folder e.1).Pairwise (· ≠ ·) := by
    rw [List.pairwise_filterMap]
    refine (List.pairwise_map.1 tree.distinct).imp ?_
    rintro e e' hne names hnames other hother rfl
    exact hne ((wayTo?_eq_some_iff.1 hnames).2.trans (wayTo?_eq_some_iff.1 hother).2.symm)
  have htotal (names other : List Text) :
      namesInOrder names other = true ∨ namesInOrder other names = true := by
    simpa only [namesInOrder_iff_le] using le_total names other
  have htrans (names other third : List Text) : namesInOrder names other = true →
      namesInOrder other third = true → namesInOrder names third = true := by
    simpa only [namesInOrder_iff_le] using le_trans
  rw [below_eq]
  apply (pairwise_sortWith htotal htrans (hways.filter _)).imp
  intro names other h
  apply lt_of_le_of_ne (namesInOrder_iff_le.1 h.1)
  intro heq
  exact h.2 (namesInOrder_iff_le.2 heq.ge) heq

/-! ### The search -/

/-- The entries below what the path leads to. -/
def EntryBelow (tree : FileTree) (root : Path) (names : List Text) : Prop :=
  ∃ folder, tree.folder? root = some folder ∧ tree.LiesBelow folder names

theorem EntryBelow.ne_nil (h : tree.EntryBelow root names) : names ≠ [] := by
  obtain ⟨folder, -, hne, -⟩ := h
  exact hne

/-- Nothing is in the way of a search: neither at the root, nor at any entry below it. -/
def Unobstructed (tree : FileTree) (root : Path) : Prop :=
  tree.obstacle? root = none ∧
    ∀ names, tree.EntryBelow root names → tree.obstacle? (root.join names) = none

/-- The names of all entries below what the path leads to, in order. -/
def entriesBelow (tree : FileTree) (root : Path) : List (List Text) :=
  match tree.folder? root with
  | some folder => tree.below folder
  | none => []

theorem mem_entriesBelow_iff : names ∈ tree.entriesBelow root ↔ tree.EntryBelow root names := by
  unfold entriesBelow EntryBelow
  cases hfolder : tree.folder? root with
  | none => simp
  | some folder => simp [mem_below_iff]

instance : Decidable (tree.Unobstructed root) :=
  decidable_of_iff (tree.obstacle? root = none ∧
    ∀ names ∈ tree.entriesBelow root, tree.obstacle? (root.join names) = none) (by
      simp only [Unobstructed, mem_entriesBelow_iff])

theorem pairwise_entriesBelow (tree : FileTree) (root : Path) :
    (tree.entriesBelow root).Pairwise (· < ·) := by
  unfold entriesBelow
  cases tree.folder? root with
  | none => exact List.Pairwise.nil
  | some folder => exact tree.pairwise_below folder

theorem barrier?_eq_some {error : DiskError}
    (h : tree.barrier? root folder names = some error) :
    tree.obstacle? (root.join names) ≠ none ∧ ∃ name, error = .refused .longName name := by
  unfold barrier? at h
  split at h
  case h_3 => cases h
  all_goals
    obtain ⟨fault, hfault, rfl⟩ := Option.map_eq_some_iff.1 h
    refine ⟨by simp [hfault], ?_⟩
    rw [obstacle?_eq_some hfault]
    exact ⟨_, rfl⟩

/-- **A search finds all entries below, or a name that is too long is in its way.** -/
theorem search_cases (tree : FileTree) (root : Path) :
    tree.search root = .ok (tree.entriesBelow root) ∧ tree.obstacle? root = none ∨
      ¬ tree.Unobstructed root ∧ ∃ name, tree.search root = .error (.refused .longName name) := by
  unfold search
  cases hroot : tree.obstacle? root with
  | some fault =>
    refine Or.inr ⟨?_, root.toText, by rw [obstacle?_eq_some hroot]⟩
    intro h
    cases hroot.symm.trans h.1
  | none =>
    cases hfolder : tree.folder? root with
    | none => exact Or.inl ⟨by simp [entriesBelow, hfolder], rfl⟩
    | some folder =>
      simp only [and_true]
      cases hbarrier : (tree.below folder).findSome? (tree.barrier? root folder) with
      | none => exact Or.inl (by simp [entriesBelow, hfolder])
      | some error =>
        obtain ⟨names, hmem, hnames⟩ := List.exists_of_findSome?_eq_some hbarrier
        obtain ⟨hobstacle, name, rfl⟩ := barrier?_eq_some hnames
        refine Or.inr ⟨?_, name, rfl⟩
        intro h
        exact hobstacle (h.2 names ⟨folder, hfolder, mem_below_iff.1 hmem⟩)

end VclReview.FileTree
