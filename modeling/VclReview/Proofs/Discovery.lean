/-
  VclReview/Proofs/Discovery.lean
  ===============================
  **What discovery finds, and when it fails.**  The survivors of a catalogue are sorted
  by rank.  Since the sort is stable, survivors of one rank stay in the order in which
  their keys were first met, so the first two neighbours of one rank are the first two
  survivors of the smallest rank that is shared.  `discover_extended` says this of the
  shapes of the language with any further definitions, and what follows for a trial.
-/
import VclReview.Proofs.Survivors
import VclReview.Proofs.Trial

namespace VclReview

/-! ### Shared ranks -/

/-- The shape survives the visits and has the rank. -/
def Shape.SurvivesAt (visits : List Shape) (rank : Int) (shape : Shape) : Prop :=
  shape.Survives visits ∧ shape.rank = some rank

/-- Two survivors have the rank. -/
def RankShared (visits : List Shape) (rank : Int) : Prop :=
  ∃ s t : Shape, s ≠ t ∧ s.SurvivesAt visits rank ∧ t.SurvivesAt visits rank

/-- The error is about the smallest shared rank.  It names the two survivors of that
    rank whose keys were met before those of all others, in this order. -/
def SharedRank.NamesFirst (visits : List Shape) (error : SharedRank) : Prop :=
  (∀ rank, RankShared visits rank → error.rank ≤ rank) ∧
    ∃ s t : Shape, s.SurvivesAt visits error.rank ∧ t.SurvivesAt visits error.rank ∧
      error.first = s.name ∧ error.second = t.name ∧
      firstMet visits s.key < firstMet visits t.key ∧
      ∀ u : Shape, u.SurvivesAt visits error.rank →
        u = s ∨ u = t ∨ firstMet visits t.key < firstMet visits u.key

/-! ### The survivors in order -/

/-- In ascending rank; at one rank, in the order in which the keys were first met. -/
def InTrialOrder (visits : List Shape) (a b : Int × Shape) : Prop :=
  a.1 ≤ b.1 ∧ (b.1 ≤ a.1 → firstMet visits a.2.key < firstMet visits b.2.key)

namespace Catalogue

def ranksInOrder (a b : Int × Shape) : Bool := decide (a.1 ≤ b.1)

/-- The survivors with their ranks, sorted by rank. -/
def ranked (catalogue : Catalogue) : List (Int × Shape) := sortWith ranksInOrder catalogue.found

variable {catalogue : Catalogue} {rank : Int} {shape : Shape}

theorem mem_ranked_iff :
    (rank, shape) ∈ catalogue.ranked ↔ shape.SurvivesAt catalogue.visited rank := by
  have htally := tally_foldl catalogue.visited
  unfold ranked found Shape.SurvivesAt
  rw [mem_sortWith, List.mem_map]
  constructor
  · rintro ⟨⟨key, entry⟩, hmem, rfl⟩
    obtain ⟨hsurvives, hrank, -⟩ := (htally.mem_iff key rank shape).1 hmem
    exact ⟨hsurvives, hrank⟩
  · rintro ⟨hsurvives, hrank⟩
    exact ⟨(shape.key, rank, shape), (htally.mem_iff _ _ _).2 ⟨hsurvives, hrank, rfl⟩, rfl⟩

theorem pairwise_ranked (catalogue : Catalogue) :
    catalogue.ranked.Pairwise (InTrialOrder catalogue.visited) := by
  have htally := tally_foldl catalogue.visited
  have hfound : catalogue.found.Pairwise fun a b =>
      firstMet catalogue.visited a.2.key < firstMet catalogue.visited b.2.key := by
    refine List.pairwise_map.2 ((List.pairwise_map.1 htally.ascending).imp_of_mem ?_)
    intro a b ha hb hlt
    rwa [((htally.mem_iff _ _ _).1 ha).2.2, ((htally.mem_iff _ _ _).1 hb).2.2]
  have htotal (a b : Int × Shape) : ranksInOrder a b = true ∨ ranksInOrder b a = true := by
    simp only [ranksInOrder, decide_eq_true_eq]
    omega
  have htrans (a b c : Int × Shape) :
      ranksInOrder a b = true → ranksInOrder b c = true → ranksInOrder a c = true := by
    simp only [ranksInOrder, decide_eq_true_eq]
    omega
  apply (pairwise_sortWith htotal htrans hfound).imp
  intro a b hle
  simpa only [InTrialOrder, ranksInOrder, decide_eq_true_eq] using hle

end Catalogue

/-! ### The first neighbours of one rank -/

/-- In a list sorted by rank, either no two ranks are equal, or the error is about the
    first two neighbours of one rank, and before them no two ranks are equal. -/
theorem sharedRank?_cases {list : List (Int × Shape)} (h : list.Pairwise fun a b => a.1 ≤ b.1) :
    sharedRank? list = none ∧ list.Pairwise (fun a b => a.1 < b.1) ∨
      ∃ error before s t after, sharedRank? list = some error ∧
        list = before ++ (error.rank, s) :: (error.rank, t) :: after ∧
        (before ++ [(error.rank, s)]).Pairwise (fun a b => a.1 < b.1) ∧
        error.first = s.name ∧ error.second = t.name := by
  fun_induction sharedRank? list with
  | case1 s q t rest =>
    exact Or.inr ⟨_, [], s, t, rest, rfl, rfl, List.pairwise_singleton _ _, rfl, rfl⟩
  | case2 r s q t rest hne ih =>
    obtain ⟨hhead, htail⟩ := List.pairwise_cons.1 h
    -- the first rank is below the second, so it is below all that follow
    have hlt : ∀ a ∈ (q, t) :: rest, r < a.1 := by
      intro a ha
      have hq : r ≤ q := hhead (q, t) (by simp)
      rcases List.mem_cons.1 ha with rfl | ha
      · omega
      · have := (List.pairwise_cons.1 htail).1 a ha
        simp only at this
        omega
    rcases ih htail with ⟨hnone, hstrict⟩ | ⟨error, before, s', t', after, hsome, heq, hstrict, h⟩
    · exact Or.inl ⟨hnone, List.pairwise_cons.2 ⟨hlt, hstrict⟩⟩
    · refine Or.inr ⟨error, (r, s) :: before, s', t', after, hsome, by rw [heq]; rfl, ?_, h⟩
      refine List.pairwise_cons.2 ⟨?_, hstrict⟩
      intro a ha
      apply hlt a
      rw [heq]
      rcases List.mem_append.1 ha with ha | ha
      · simp [ha]
      · simp [List.mem_singleton.1 ha]
  | case3 list hshort =>
    match list, hshort with
    | [], _ => exact Or.inl ⟨rfl, List.Pairwise.nil⟩
    | [a], _ => exact Or.inl ⟨rfl, List.pairwise_singleton _ _⟩
    | a :: b :: rest, hshort => exact absurd rfl (hshort a.1 a.2 b.1 b.2 rest)

theorem eq_of_same_rank {list : List (Int × Shape)} (h : list.Pairwise fun a b => a.1 < b.1)
    {rank : Int} {s t : Shape} (hs : (rank, s) ∈ list) (ht : (rank, t) ∈ list) : s = t := by
  rcases eq_or_of_pairwise h hs ht with heq | hlt | hlt
  · exact congrArg Prod.snd heq
  · exact absurd hlt (Int.lt_irrefl rank)
  · exact absurd hlt (Int.lt_irrefl rank)

/-! ### Discovery -/

namespace Catalogue

variable {catalogue : Catalogue}

/-- `discover` sorts in a `let`; here the sorted list has its name. -/
theorem discover_eq (catalogue : Catalogue) : catalogue.discover =
    match sharedRank? catalogue.ranked with
    | some error => .error error
    | none => .ok (catalogue.ranked.map (·.2)) := rfl

theorem discover_cases (catalogue : Catalogue) :
    (sharedRank? catalogue.ranked = none ∧
      catalogue.discover = .ok (catalogue.ranked.map (·.2))) ∨
    ∃ error, sharedRank? catalogue.ranked = some error ∧ catalogue.discover = .error error := by
  rw [discover_eq]
  cases sharedRank? catalogue.ranked with
  | none => exact Or.inl ⟨rfl, rfl⟩
  | some error => exact Or.inr ⟨error, rfl, rfl⟩

/-- The shapes found are the survivors, in strictly ascending rank. -/
theorem discover_eq_ok {shapes : List Shape} (h : catalogue.discover = .ok shapes) :
    shapes.Pairwise Shape.Precedes ∧ (∀ s, s ∈ shapes ↔ s.Survives catalogue.visited) ∧
      ∀ rank, ¬ RankShared catalogue.visited rank := by
  rcases catalogue.discover_cases with ⟨hnone, hok⟩ | ⟨error, -, herror⟩
  · cases hok.symm.trans h
    have hstrict : catalogue.ranked.Pairwise fun a b => a.1 < b.1 := by
      rcases sharedRank?_cases (catalogue.pairwise_ranked.imp And.left) with
        ⟨-, hstrict⟩ | ⟨error, _, _, _, _, hsome, -⟩
      · exact hstrict
      · cases hnone.symm.trans hsome
    refine ⟨?_, ?_, ?_⟩
    · refine List.pairwise_map.2 (hstrict.imp_of_mem ?_)
      intro a b ha hb hlt
      exact ⟨a.1, b.1, (mem_ranked_iff.1 ha).2, (mem_ranked_iff.1 hb).2, hlt⟩
    · intro s
      constructor
      · intro hs
        obtain ⟨⟨rank, shape⟩, hmem, rfl⟩ := List.mem_map.1 hs
        exact (mem_ranked_iff.1 hmem).1
      · intro hs
        obtain ⟨rank, hrank⟩ := Option.ne_none_iff_exists'.1 hs.1
        exact List.mem_map.2 ⟨(rank, s), mem_ranked_iff.2 ⟨hs, hrank⟩, rfl⟩
    · rintro rank ⟨s, t, hne, hs, ht⟩
      exact hne (eq_of_same_rank hstrict (mem_ranked_iff.2 hs) (mem_ranked_iff.2 ht))
  · cases herror.symm.trans h

/-! ### The first two survivors of a shared rank -/

theorem ranked_eq_of_error {error : SharedRank} (h : catalogue.discover = .error error) :
    ∃ before s t after,
      catalogue.ranked = before ++ (error.rank, s) :: (error.rank, t) :: after ∧
      (before ++ [(error.rank, s)]).Pairwise (fun a b => a.1 < b.1) ∧
      error.first = s.name ∧ error.second = t.name := by
  rcases catalogue.discover_cases with ⟨-, hok⟩ | ⟨error, hsome, herror⟩
  · cases hok.symm.trans h
  · cases herror.symm.trans h
    rcases sharedRank?_cases (catalogue.pairwise_ranked.imp And.left) with
      ⟨hnone, -⟩ | ⟨error, before, s, t, after, hsome', hsplit⟩
    · cases hnone.symm.trans hsome
    · cases hsome.symm.trans hsome'
      exact ⟨before, s, t, after, hsplit⟩

section Neighbours

variable {rank : Int} {s t u : Shape} {before after : List (Int × Shape)}

theorem firstMet_lt_of_neighbours
    (h : catalogue.ranked = before ++ (rank, s) :: (rank, t) :: after) :
    firstMet catalogue.visited s.key < firstMet catalogue.visited t.key := by
  have horder := catalogue.pairwise_ranked
  rw [h] at horder
  have htail := (List.pairwise_append.1 horder).2.1
  have hnext := (List.pairwise_cons.1 htail).1 (rank, t) (by simp)
  exact hnext.2 (Int.le_refl rank)

/-- What comes after the neighbours comes after both in the order of trial. -/
theorem inTrialOrder_of_mem_after
    (h : catalogue.ranked = before ++ (rank, s) :: (rank, t) :: after) {entry : Int × Shape}
    (hentry : entry ∈ after) : InTrialOrder catalogue.visited (rank, t) entry := by
  have horder := catalogue.pairwise_ranked
  rw [h] at horder
  have htail := (List.pairwise_cons.1 (List.pairwise_append.1 horder).2.1).2
  exact (List.pairwise_cons.1 htail).1 entry hentry

theorem survivesAt_cases (h : catalogue.ranked = before ++ (rank, s) :: (rank, t) :: after)
    {q : Int} (hu : u.SurvivesAt catalogue.visited q) :
    (q, u) ∈ before ∨ q = rank ∧ u = s ∨ q = rank ∧ u = t ∨ (q, u) ∈ after := by
  have hmem := mem_ranked_iff.2 hu
  rw [h] at hmem
  simpa only [List.mem_append, List.mem_cons, Prod.mk.injEq] using hmem

/-- No rank below that of the first neighbours is shared. -/
theorem le_of_rankShared (h : catalogue.ranked = before ++ (rank, s) :: (rank, t) :: after)
    (hstrict : (before ++ [(rank, s)]).Pairwise fun a b => a.1 < b.1) {q : Int}
    (hshared : RankShared catalogue.visited q) : rank ≤ q := by
  by_contra hlow
  have hbefore {w : Shape} (hw : w.SurvivesAt catalogue.visited q) : (q, w) ∈ before := by
    rcases survivesAt_cases h hw with hw | ⟨rfl, -⟩ | ⟨rfl, -⟩ | hw
    · exact hw
    · exact absurd (Int.le_refl q) hlow
    · exact absurd (Int.le_refl q) hlow
    · exact absurd (inTrialOrder_of_mem_after h hw).1 hlow
  obtain ⟨u, v, hne, hu, hv⟩ := hshared
  exact hne (eq_of_same_rank (List.pairwise_append.1 hstrict).1 (hbefore hu) (hbefore hv))

/-- All other survivors of the shared rank were met later. -/
theorem eq_or_met_later (h : catalogue.ranked = before ++ (rank, s) :: (rank, t) :: after)
    (hstrict : (before ++ [(rank, s)]).Pairwise fun a b => a.1 < b.1)
    (hu : u.SurvivesAt catalogue.visited rank) :
    u = s ∨ u = t ∨ firstMet catalogue.visited t.key < firstMet catalogue.visited u.key := by
  rcases survivesAt_cases h hu with hu | ⟨-, rfl⟩ | ⟨-, rfl⟩ | hu
  · have hlt := (List.pairwise_append.1 hstrict).2.2 (rank, u) hu _ (List.mem_singleton.2 rfl)
    exact absurd hlt (Int.lt_irrefl rank)
  · exact Or.inl rfl
  · exact Or.inr (Or.inl rfl)
  · exact Or.inr (Or.inr ((inTrialOrder_of_mem_after h hu).2 (Int.le_refl rank)))

end Neighbours

theorem discover_eq_error {error : SharedRank} (h : catalogue.discover = .error error) :
    RankShared catalogue.visited error.rank ∧ error.NamesFirst catalogue.visited := by
  obtain ⟨before, s, t, after, hranked, hstrict, hfirst, hsecond⟩ := ranked_eq_of_error h
  have hs : s.SurvivesAt catalogue.visited error.rank := mem_ranked_iff.1 (by simp [hranked])
  have ht : t.SurvivesAt catalogue.visited error.rank := mem_ranked_iff.1 (by simp [hranked])
  have hmet := firstMet_lt_of_neighbours hranked
  constructor
  · refine ⟨s, t, ?_, hs, ht⟩
    rintro rfl
    exact Nat.lt_irrefl _ hmet
  · constructor
    · intro rank hshared
      exact le_of_rankShared hranked hstrict hshared
    · refine ⟨s, t, hs, ht, hfirst, hsecond, hmet, ?_⟩
      intro u hu
      exact eq_or_met_later hranked hstrict hu

end Catalogue

/-! ### Discovery with further definitions -/

/-- **Discovery with any further definitions.**  All definitions are visited in one
    order.  Discovery fails exactly when two survivors share a rank, and then names
    the first two of the smallest such rank.  Otherwise it finds each survivor once, in
    strictly ascending rank; so a line is given to the matching shape of least rank,
    and its trial fails exactly when a shape without a test precedes all matching
    ones. -/
theorem discover_extended (further : List Definition) :
    ∃ order : List Definition,
      order.Perm (Catalogue.extended further).definitions ∧
      order.Pairwise Definition.VisitedBefore ∧
      ((∃ error, (Catalogue.extended further).discover = .error error) ↔
        ∃ rank, RankShared (order.map (·.shape)) rank) ∧
      (∀ error, (Catalogue.extended further).discover = .error error →
        RankShared (order.map (·.shape)) error.rank ∧
          error.NamesFirst (order.map (·.shape)) ∧
          error.message = "Directive shapes " ++ Text.quoted error.first ++ " and " ++
            Text.quoted error.second ++ " share ORDER " ++ Text.ofInt error.rank) ∧
      ∀ shapes, (Catalogue.extended further).discover = .ok shapes →
        (∀ s, s ∈ shapes ↔ s.Survives (order.map (·.shape))) ∧
          shapes.Pairwise Shape.Precedes ∧
          ∀ line,
            (∀ shape, firstMatch line shapes = .ok (some shape) ↔
              shape ∈ shapes ∧ shape.Takes line ∧
                (∀ s ∈ shapes, s.Takes line → s = shape ∨ shape.Precedes s) ∧
                ∀ s ∈ shapes, s.test = none → shape.Precedes s) ∧
            (firstMatch line shapes = .error .untestable ↔
              ∃ s ∈ shapes, s.test = none ∧ ∀ t ∈ shapes, t.Takes line → s.Precedes t) := by
  generalize Catalogue.extended further = catalogue
  refine ⟨catalogue.order, catalogue.perm_order, catalogue.pairwise_order, ?_⟩
  rw [Catalogue.map_shape_order]
  refine ⟨⟨?_, ?_⟩, ?_, ?_⟩
  · rintro ⟨error, herror⟩
    exact ⟨error.rank, (Catalogue.discover_eq_error herror).1⟩
  · rintro ⟨rank, hshared⟩
    cases hdiscover : catalogue.discover with
    | error error => exact ⟨error, rfl⟩
    | ok shapes => exact absurd hshared ((Catalogue.discover_eq_ok hdiscover).2.2 rank)
  · intro error herror
    obtain ⟨hshared, hnames⟩ := Catalogue.discover_eq_error herror
    exact ⟨hshared, hnames, rfl⟩
  · intro shapes hok
    obtain ⟨hranked, hmem, -⟩ := Catalogue.discover_eq_ok hok
    refine ⟨hmem, hranked, ?_⟩
    intro line
    constructor
    · intro shape
      exact firstMatch_ranked_eq_some_iff hranked
    · exact firstMatch_ranked_eq_error_iff hranked

/-- A further shape clashes with the one of the language that has its rank. -/
example :
    (Catalogue.builtin.add
      ⟨.base, { Shape.root with label := "P", name := "p", rank := some 10 }⟩).discover =
        .error ⟨"version", "p", 10⟩ := rfl

end VclReview
