/-
  VclReview/Proofs/FurtherShape.lean
  ==================================
  **A further shape takes what is left to it.**  A definition under a new label and a new name
  replaces nothing: its shape is one more visit (`Catalogue.visited_add`), one more survivor
  (`survives_insert`), and if discovery goes on to succeed it stands at one place among the
  shapes that were found without it (`Catalogue.discover_add`).

  A shape that has been put in changes the trial of a line only if it takes the line and all
  before it leave it.  `further_shape_takes_rest` says what follows for annotations.
-/
import VclReview.Proofs.Discovery
import VclReview.Proofs.Language

namespace VclReview

/-! ### One more visit -/

theorem Group.place_ne_of_lt {group other : Group} (h : group.place < other.place) :
    group ≠ other := by
  rintro rfl
  exact Nat.lt_irrefl _ h

theorem Definition.VisitedBefore.asymm {definition other : Definition}
    (h : definition.VisitedBefore other) : ¬ other.VisitedBefore definition := by
  rcases h with hgroup | ⟨hsame, hlabel⟩
  · rintro (hback | ⟨hsame, -⟩)
    · exact Nat.lt_asymm hgroup hback
    · exact Group.place_ne_of_lt hgroup hsame.symm
  · rintro (hback | ⟨-, hback⟩)
    · exact Group.place_ne_of_lt hback hsame.symm
    · exact lt_asymm hlabel hback

/-- The definition has a label that its group does not have yet, and a name that none of the
    ranked shapes has, up to case. -/
structure Definition.FreshIn (definition : Definition) (catalogue : Catalogue) : Prop where
  label : ∀ d ∈ catalogue.definitions,
    d.group = definition.group → d.shape.label ≠ definition.shape.label
  key : ∀ d ∈ catalogue.definitions, d.shape.rank ≠ none → d.shape.key ≠ definition.shape.key

namespace Catalogue

variable {catalogue : Catalogue} {definition : Definition}

/-- Nothing is replaced. -/
theorem besides_of_fresh (hfresh : definition.FreshIn catalogue) :
    catalogue.besides definition = catalogue.definitions := by
  apply List.filter_eq_self.2
  intro d hd
  exact decide_eq_true (hfresh.label d hd)

theorem order_add (hfresh : definition.FreshIn catalogue) :
    ∃ front back, catalogue.order = front ++ back ∧
      (catalogue.add definition).order = front ++ definition :: back := by
  have hperm : (catalogue.add definition).order.Perm (definition :: catalogue.definitions) := by
    refine (perm_order _).trans ?_
    rw [definitions_add, besides_of_fresh hfresh]
    exact List.perm_append_singleton definition catalogue.definitions
  have hpairwise := pairwise_order (catalogue.add definition)
  obtain ⟨front, back, horder⟩ := List.append_of_mem (hperm.mem_iff.2 List.mem_cons_self)
  rw [horder] at hperm hpairwise
  have hrest : (front ++ back).Perm catalogue.order :=
    ((List.perm_middle.symm.trans hperm).cons_inv).trans (perm_order catalogue).symm
  have hsublist : (front ++ back).Sublist (front ++ definition :: back) :=
    (List.Sublist.refl front).append (List.sublist_cons_self definition back)
  refine ⟨front, back, ?_, horder⟩
  symm
  apply hrest.eq_of_pairwise _ (hpairwise.sublist hsublist) (pairwise_order catalogue)
  intro d e _ _ hde hed
  exact absurd hed hde.asymm

/-- The visits with the definition are those without it and one more in between. -/
theorem visited_add (hfresh : definition.FreshIn catalogue) :
    ∃ front back, catalogue.visited = front ++ back ∧
      (catalogue.add definition).visited = front ++ definition.shape :: back := by
  obtain ⟨front, back, horder, hadd⟩ := order_add hfresh
  refine ⟨front.map (·.shape), back.map (·.shape), ?_, ?_⟩
  · rw [← map_shape_order, horder, List.map_append]
  · rw [← map_shape_order, hadd, List.map_append, List.map_cons]

theorem mem_visited_iff {shape : Shape} :
    shape ∈ catalogue.visited ↔ ∃ d ∈ catalogue.definitions, d.shape = shape := by
  rw [← map_shape_order, List.mem_map]
  simp only [(perm_order catalogue).mem_iff]

end Catalogue

/-! ### One more survivor -/

theorem Shape.Survives.mem {visits : List Shape} {shape : Shape} (h : shape.Survives visits) :
    shape ∈ visits := by
  obtain ⟨-, earlier, later, rfl, -⟩ := h
  simp

/-- A ranked shape of a new key survives wherever it is visited, and so do all that survive
    without it. -/
theorem survives_insert {further shape : Shape} (hrank : further.rank ≠ none)
    {front back : List Shape}
    (hkey : ∀ s ∈ front ++ back, s.rank ≠ none → s.key ≠ further.key) :
    shape.Survives (front ++ further :: back) ↔
      shape = further ∨ shape.Survives (front ++ back) := by
  -- by induction on the visits after it, the last one first
  induction back using List.reverseRecOn with
  | nil =>
    rw [List.append_nil] at hkey ⊢
    rw [survives_concat]
    constructor
    · rintro (⟨hsame, -⟩ | ⟨hsurvives, -⟩)
      · exact Or.inl hsame
      · exact Or.inr hsurvives
    · rintro (hsame | hsurvives)
      · exact Or.inl ⟨hsame, hrank⟩
      · refine Or.inr ⟨hsurvives, fun _ heq => ?_⟩
        exact hkey shape hsurvives.mem hsurvives.1 heq.symm
  | append_singleton back last ih =>
    rw [← List.append_assoc] at hkey
    have hbefore (s : Shape) (hs : s ∈ front ++ back) : s.rank ≠ none → s.key ≠ further.key :=
      hkey s (List.mem_append_left _ hs)
    have hlast : last.rank ≠ none → last.key ≠ further.key := hkey last (by simp)
    rw [← List.cons_append, ← List.append_assoc, ← List.append_assoc, survives_concat,
      survives_concat, ih hbefore]
    constructor
    · rintro (hsame | ⟨hfurther | hsurvives, hkept⟩)
      · exact Or.inr (Or.inl hsame)
      · exact Or.inl hfurther
      · exact Or.inr (Or.inr ⟨hsurvives, hkept⟩)
    · rintro (rfl | hsame | ⟨hsurvives, hkept⟩)
      · exact Or.inr ⟨Or.inl rfl, hlast⟩
      · exact Or.inl hsame
      · exact Or.inr ⟨Or.inr hsurvives, hkept⟩

/-! ### One more shape to try -/

theorem Shape.Precedes.ne {shape other : Shape} (h : shape.Precedes other) : shape ≠ other := by
  rintro rfl
  exact h.asymm h

/-- **A fresh definition puts its shape among the others, at the place of its rank.** -/
theorem Catalogue.discover_add {catalogue : Catalogue} {definition : Definition}
    {shapes more : List Shape} (hfresh : definition.FreshIn catalogue)
    (hrank : definition.shape.rank ≠ none)
    (hwithout : catalogue.discover = .ok shapes)
    (hwith : (catalogue.add definition).discover = .ok more) :
    ∃ earlier later, shapes = earlier ++ later ∧ more = earlier ++ definition.shape :: later ∧
      (∀ s ∈ earlier, s.Precedes definition.shape) ∧
      ∀ s ∈ later, definition.shape.Precedes s := by
  obtain ⟨hranked, hmem, -⟩ := discover_eq_ok hwithout
  obtain ⟨hrankedMore, hmemMore, -⟩ := discover_eq_ok hwith
  obtain ⟨front, back, hvisited, hvisitedMore⟩ := visited_add hfresh
  have hkey : ∀ s ∈ front ++ back, s.rank ≠ none → s.key ≠ definition.shape.key := by
    rw [← hvisited]
    intro s hs
    obtain ⟨d, hd, rfl⟩ := mem_visited_iff.1 hs
    exact hfresh.key d hd
  have hmembers (s : Shape) : s ∈ more ↔ s = definition.shape ∨ s ∈ shapes := by
    rw [hmemMore, hmem, hvisited, hvisitedMore, survives_insert hrank hkey]
  have hnew : definition.shape ∉ shapes := by
    rw [hmem, hvisited]
    intro hsurvives
    exact hkey _ hsurvives.mem hrank rfl
  obtain ⟨earlier, later, rfl⟩ := List.append_of_mem ((hmembers _).2 (Or.inl rfl))
  obtain ⟨hearlier, hlater, hbetween⟩ := List.pairwise_append.1 hrankedMore
  obtain ⟨hafter, hlater⟩ := List.pairwise_cons.1 hlater
  have hbefore : ∀ s ∈ earlier, s.Precedes definition.shape := fun s hs => hbetween s hs _ (by simp)
  -- without the new shape, the list is in ascending rank and has the same members
  have hsublist : (earlier ++ later).Sublist (earlier ++ definition.shape :: later) :=
    (List.Sublist.refl earlier).append (List.sublist_cons_self _ later)
  have hrest : (earlier ++ later).Pairwise Shape.Precedes := hrankedMore.sublist hsublist
  have hsame (s : Shape) : s ∈ shapes ↔ s ∈ earlier ++ later := by
    constructor
    · intro hs
      have hne : s ≠ definition.shape := fun heq => hnew (heq ▸ hs)
      have hin := (hmembers s).2 (Or.inr hs)
      simpa [hne] using hin
    · intro hs
      have hne : s ≠ definition.shape := by
        rcases List.mem_append.1 hs with hs | hs
        · exact (hbefore s hs).ne
        · exact (hafter s hs).ne.symm
      exact ((hmembers s).1 (hsublist.subset hs)).resolve_left hne
  have hperm : shapes.Perm (earlier ++ later) :=
    (List.perm_ext_iff_of_nodup (hranked.imp Shape.Precedes.ne)
      (hrest.imp Shape.Precedes.ne)).2 hsame
  refine ⟨earlier, later, ?_, rfl, hbefore, hafter⟩
  apply hperm.eq_of_pairwise _ hranked hrest
  intro s t _ _ hst hts
  exact absurd hts hst.asymm

/-! ### The trial with one more shape -/

section Insertion

variable {line : Text} {shape : Shape} {earlier later : List Shape}

/-- A trial that ends among the earlier shapes does not get to the later ones. -/
theorem firstMatch_append_of_not_leaves (h : ¬ ∀ s ∈ earlier, s.Leaves line) (later : List Shape) :
    firstMatch line (earlier ++ later) = firstMatch line earlier := by
  induction earlier with
  | nil => exact absurd (by simp) h
  | cons s earlier ih =>
    rw [List.cons_append]
    rcases s.trial line with hnone | htakes | hleaves
    · rw [firstMatch_cons_of_test_eq_none hnone, firstMatch_cons_of_test_eq_none hnone]
    · rw [firstMatch_cons_of_takes htakes, firstMatch_cons_of_takes htakes]
    · rw [firstMatch_cons_of_leaves hleaves, firstMatch_cons_of_leaves hleaves]
      apply ih
      intro hall
      exact h (List.forall_mem_cons.2 ⟨hleaves, hall⟩)

/-- What is said about a line depends on the shapes only by the trial. -/
theorem annotate_congr {shapes others : List Shape}
    (h : firstMatch line shapes = firstMatch line others) (lineNumber : Int) (location : Text) :
    annotate shapes line lineNumber location = annotate others line lineNumber location := by
  simp only [annotate, h]

theorem annotate_insert_of_leaves (h : shape.Leaves line) (lineNumber : Int) (location : Text) :
    annotate (earlier ++ shape :: later) line lineNumber location =
      annotate (earlier ++ later) line lineNumber location := by
  apply annotate_congr
  by_cases hearlier : ∀ s ∈ earlier, s.Leaves line
  · rw [firstMatch_append_of_leaves hearlier, firstMatch_append_of_leaves hearlier,
      firstMatch_cons_of_leaves h]
  · rw [firstMatch_append_of_not_leaves hearlier, firstMatch_append_of_not_leaves hearlier]

theorem annotate_insert_of_not_reached (h : ¬ ∀ s ∈ earlier, s.Leaves line) (lineNumber : Int)
    (location : Text) : annotate (earlier ++ shape :: later) line lineNumber location =
      annotate (earlier ++ later) line lineNumber location := by
  apply annotate_congr
  rw [firstMatch_append_of_not_leaves h, firstMatch_append_of_not_leaves h]

theorem annotate_insert_of_takes (hearlier : ∀ s ∈ earlier, s.Leaves line)
    (h : shape.Takes line) (lineNumber : Int) (location : Text) :
    annotate (earlier ++ shape :: later) line lineNumber location =
      annotate [shape] line lineNumber location := by
  apply annotate_congr
  rw [firstMatch_append_of_leaves hearlier, firstMatch_cons_of_takes h, firstMatch_cons_of_takes h]

/-- If no earlier shape takes the line and not all leave it, one cannot be asked, and there is
    no annotation. -/
theorem annotate_of_untestable (hleaves : ¬ ∀ s ∈ earlier, s.Leaves line)
    (htakes : ∀ s ∈ earlier, ¬ s.Takes line) (later : List Shape) (lineNumber : Int)
    (location : Text) :
    annotate (earlier ++ later) line lineNumber location = .error .untestable := by
  have hfirst : firstMatch line (earlier ++ later) = .error .untestable := by
    rw [firstMatch_append_of_not_leaves hleaves]
    rcases firstMatch_cases line earlier with ⟨-, hall⟩ | ⟨s, -, hreached, hs⟩ | ⟨herror, -⟩
    · exact absurd hall hleaves
    · exact absurd hs (htakes s hreached.mem)
    · exact herror
  simp only [annotate, hfirst]

/-- **A shape that has been put in makes a difference only to a line that it takes and all
    before it leave.** -/
theorem annotate_insert_of_ne {lineNumber : Int} {location : Text} (htest : shape.test ≠ none)
    (h : annotate (earlier ++ shape :: later) line lineNumber location ≠
      annotate (earlier ++ later) line lineNumber location) :
    shape.Takes line ∧ (∀ s ∈ earlier, s.Leaves line) ∧
      annotate (earlier ++ shape :: later) line lineNumber location =
        annotate [shape] line lineNumber location := by
  by_cases hearlier : ∀ s ∈ earlier, s.Leaves line
  case neg => exact absurd (annotate_insert_of_not_reached hearlier lineNumber location) h
  rcases shape.trial line with huntestable | htakes | hleaves
  · exact absurd huntestable htest
  · exact ⟨htakes, hearlier, annotate_insert_of_takes hearlier htakes lineNumber location⟩
  · exact absurd (annotate_insert_of_leaves hleaves lineNumber location) h

end Insertion

/-! ### Annotations with one more shape -/

/-- **A further shape takes what is left to it.**  Let discovery succeed without and with a
    definition under a new label and a new name, so that its rank is new as well.  What is said
    about a line changes only if the new shape takes the line and no shape of lower rank does,
    and then it is what the new shape says; if no shape of lower rank takes it, the new one is
    kept from it only by one that cannot be asked.  A shape that is ranked last changes nothing
    about a line that another one takes. -/
theorem further_shape_takes_rest {further : List Definition} {definition : Definition}
    {shapes more : List Shape} (hfresh : definition.FreshIn (Catalogue.extended further))
    (hrank : definition.shape.rank ≠ none) (htest : definition.shape.test ≠ none)
    (hwithout : (Catalogue.extended further).discover = .ok shapes)
    (hwith : (Catalogue.extended (further ++ [definition])).discover = .ok more) :
    (∀ line lineNumber location,
      (annotate more line lineNumber location ≠ annotate shapes line lineNumber location →
        definition.shape.Takes line ∧
        (∀ s ∈ shapes, s.Precedes definition.shape → ¬ s.Takes line) ∧
        annotate more line lineNumber location =
          annotate [definition.shape] line lineNumber location) ∧
      (definition.shape.Takes line →
        (∀ s ∈ shapes, s.Precedes definition.shape → ¬ s.Takes line) →
        annotate more line lineNumber location =
            annotate [definition.shape] line lineNumber location ∨
          annotate more line lineNumber location = .error .untestable ∧
            annotate shapes line lineNumber location = .error .untestable)) ∧
    ((∀ s ∈ shapes, s.Precedes definition.shape) → ∀ line lineNumber location,
      (∃ s ∈ shapes, s.Takes line) →
        annotate more line lineNumber location = annotate shapes line lineNumber location) := by
  have hadd : Catalogue.extended (further ++ [definition]) =
      (Catalogue.extended further).add definition := List.foldl_append
  rw [hadd] at hwith
  obtain ⟨earlier, later, rfl, rfl, hearlier, hlater⟩ :=
    Catalogue.discover_add hfresh hrank hwithout hwith
  refine ⟨?_, ?_⟩
  · intro line lineNumber location
    constructor
    · intro hchanged
      obtain ⟨htakes, hleaves, hnew⟩ := annotate_insert_of_ne htest hchanged
      refine ⟨htakes, ?_, hnew⟩
      intro s hs hprecedes hsline
      rcases List.mem_append.1 hs with hs | hs
      · exact hsline.not_leaves (hleaves s hs)
      · exact hprecedes.asymm (hlater s hs)
    · intro htakes hnone
      by_cases hleaves : ∀ s ∈ earlier, s.Leaves line
      · exact Or.inl (annotate_insert_of_takes hleaves htakes lineNumber location)
      · have hnone : ∀ s ∈ earlier, ¬ s.Takes line :=
          fun s hs => hnone s (List.mem_append_left _ hs) (hearlier s hs)
        exact Or.inr ⟨annotate_of_untestable hleaves hnone _ lineNumber location,
          annotate_of_untestable hleaves hnone _ lineNumber location⟩
  · rintro hlast line lineNumber location ⟨s, hs, htakes⟩
    apply annotate_insert_of_not_reached
    intro hleaves
    rcases List.mem_append.1 hs with hs | hs
    · exact htakes.not_leaves (hleaves s hs)
    · exact (hlast s (List.mem_append_right _ hs)).asymm (hlater s hs)

/-- A shape for probes. -/
def Definition.probe : Definition where
  group := .blocks
  shape :=
    { Shape.root with
      label := "ProbeShape"
      name := "Probe"
      rank := some 35
      test := some fun line => Text.contains ".probe" line
      extract := fun line => [("probe", Text.column line 3)]
      message := "Configuration: The backend is watched by '{probe}'." }

/-- A line about a probe and a port goes to the shape for probes, which is ranked before that for
    ports. -/
theorem further_shape_takes_probe_line :
    let line : Text := ".probe = alive; .port = 80;"
    let more : List Shape := [.version, .backend, .host, Definition.probe.shape, .port, .acl,
      .inclusion, .subroutine, .synth, .requestHeader, .ttl, .grace]
    Definition.probe.FreshIn (Catalogue.extended []) ∧
      (Catalogue.extended []).discover = .ok Shape.builtin ∧
      (Catalogue.extended [Definition.probe]).discover = .ok more ∧
      (∃ a, annotate Shape.builtin line 4 "main.vcl" = .ok a ∧ a.directive = "port") ∧
      ∃ a, annotate more line 4 "main.vcl" = .ok a ∧ a.directive = "Probe" ∧
        a.messages = [("Configuration: The backend is watched by 'alive;'." : Text)] := by
  intro line more
  have hfresh : Definition.probe.FreshIn (Catalogue.extended []) :=
    ⟨by decide, by decide⟩
  have hmore : (Catalogue.extended [Definition.probe]).discover = .ok more := rfl
  have hrest := further_shape_takes_rest hfresh (by decide) (by simp [Definition.probe])
    discover_builtin hmore
  have htakes : Definition.probe.shape.Takes line := ⟨_, rfl, by decide⟩
  have hport : ∀ s ∈ Shape.builtin, s.accepts line = true → s.rank = some 40 := by decide
  have hnone : ∀ s ∈ Shape.builtin, s.Precedes Definition.probe.shape → ¬ s.Takes line := by
    rintro s hs ⟨low, high, hlow, hhigh, hlt⟩ hline
    cases hlow.symm.trans (hport s hs (Shape.accepts_iff.2 hline))
    cases hhigh
    omega
  refine ⟨hfresh, discover_builtin, hmore, ⟨_, rfl, rfl⟩, ?_⟩
  rcases (hrest.1 line 4 "main.vcl").2 htakes hnone with hnew | ⟨-, herror⟩
  · exact ⟨_, hnew, rfl, rfl⟩
  · cases herror

end VclReview
