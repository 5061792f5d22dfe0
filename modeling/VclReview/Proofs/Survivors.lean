/-
  VclReview/Proofs/Survivors.lean
  ===============================
  **Which shapes of a catalogue remain.**  A catalogue is visited in one order:
  group by group, and by label within a group (`Catalogue.pairwise_order`).  Visiting
  keeps a tally.  What the tally holds after a list of visits is said without it
  (`tally_foldl`): the last ranked shape of each key survives (`Shape.Survives`), and the
  survivors stand in the order in which their keys were first met (`firstMet`).
-/
import VclReview.Directive.Catalogue
import VclReview.Proofs.Sorting
import Mathlib.Data.List.Induction
import Mathlib.Data.List.Perm.Basic

namespace VclReview

/-! ### The order of visits -/

/-- The place of a group among the groups. -/
def Group.place : Group → Nat
  | .backend => 0
  | .base => 1
  | .blocks => 2
  | .statements => 3

/-- The group of the first comes earlier, or it is the same and the label does. -/
def Definition.VisitedBefore (definition other : Definition) : Prop :=
  definition.group.place < other.group.place ∨
    definition.group = other.group ∧ definition.shape.label < other.shape.label

namespace Catalogue

/-- The definitions of the language and further ones, added one after the other. -/
def extended (further : List Definition) : Catalogue := further.foldl add builtin

def labelsInOrder (definition other : Definition) : Bool :=
  Text.inOrder definition.shape.label other.shape.label

/-- The definitions of a catalogue in the order in which they are visited. -/
def order (catalogue : Catalogue) : List Definition :=
  Group.all.flatMap fun group => sortWith labelsInOrder (catalogue.ofGroup group)

theorem map_shape_order (catalogue : Catalogue) :
    catalogue.order.map (·.shape) = catalogue.visited := by
  unfold order visited
  rw [List.map_flatMap]
  congr
  funext group
  exact map_sortWith (fun s t => Text.inOrder s.label t.label) Definition.shape _

/-- Each definition belongs to one of the groups. -/
theorem perm_flatMap_group (definitions : List Definition) :
    (Group.all.flatMap fun group => definitions.filter (·.group = group)).Perm definitions := by
  induction definitions with
  | nil => exact List.Perm.refl _
  | cons definition rest ih =>
    refine List.Perm.trans ?_ (ih.cons definition)
    -- the definition stands at the head of the part of its own group
    cases hgroup : definition.group <;>
      simp only [Group.all, List.flatMap_cons, List.flatMap_nil, List.append_nil,
        List.filter_cons, hgroup, decide_true, if_true, reduceCtorEq, decide_false,
        Bool.false_eq_true, if_false, List.cons_append]
    case backend => exact List.Perm.refl _
    case base => exact List.perm_middle
    case blocks =>
      rw [← List.append_assoc, ← List.append_assoc]
      exact List.perm_middle
    case statements =>
      simp only [← List.append_assoc]
      exact List.perm_middle

theorem perm_order (catalogue : Catalogue) : catalogue.order.Perm catalogue.definitions :=
  (List.Perm.flatMap_left Group.all fun _ _ => perm_sortWith _).trans
    (perm_flatMap_group catalogue.definitions)

theorem pairwise_order (catalogue : Catalogue) :
    catalogue.order.Pairwise Definition.VisitedBefore := by
  have hgroup {group : Group} {d : Definition}
      (hd : d ∈ sortWith labelsInOrder (catalogue.ofGroup group)) : d.group = group := by
    simpa using (List.mem_filter.1 (mem_sortWith.1 hd)).2
  refine List.pairwise_flatMap.2 ⟨?_, ?_⟩
  · intro group _
    have htotal (d e : Definition) : labelsInOrder d e = true ∨ labelsInOrder e d = true := by
      simpa only [labelsInOrder, Text.inOrder_iff_le] using le_total _ _
    have htrans (d e f : Definition) :
        labelsInOrder d e = true → labelsInOrder e f = true → labelsInOrder d f = true := by
      simpa only [labelsInOrder, Text.inOrder_iff_le] using le_trans
    apply (pairwise_sortWith htotal htrans (catalogue.apart.filter _)).imp_of_mem
    intro d e hd he hle
    have hsame : d.group = e.group := (hgroup hd).trans (hgroup he).symm
    refine Or.inr ⟨hsame, lt_of_le_of_ne (Text.inOrder_iff_le.1 hle.1) ?_⟩
    intro heq
    exact hle.2 (Text.inOrder_iff_le.2 heq.ge) hsame heq
  · have hplace : Group.all.Pairwise fun g k => g.place < k.place := by decide
    apply hplace.imp
    intro group group' hlt d hd e he
    left
    rwa [hgroup hd, hgroup he]

end Catalogue

/-! ### The shapes that survive -/

/-- What shapes with names that agree up to case have in common. -/
def Shape.key (shape : Shape) : Text := Text.lower shape.name

/-- The last ranked shape of its key among those visited. -/
def Shape.Survives (visits : List Shape) (shape : Shape) : Prop :=
  shape.rank ≠ none ∧ ∃ earlier later, visits = earlier ++ shape :: later ∧
    ∀ other ∈ later, other.rank ≠ none → other.key ≠ shape.key

theorem survives_concat {visits : List Shape} {last shape : Shape} :
    shape.Survives (visits ++ [last]) ↔
      shape = last ∧ last.rank ≠ none ∨
        shape.Survives visits ∧ (last.rank ≠ none → last.key ≠ shape.key) := by
  constructor
  · rintro ⟨hranked, earlier, later, heq, hlater⟩
    rcases List.eq_nil_or_concat' later with rfl | ⟨later, other, rfl⟩
    · obtain ⟨-, hlast⟩ := List.append_inj' heq rfl
      cases hlast
      exact Or.inl ⟨rfl, hranked⟩
    · rw [← List.cons_append, ← List.append_assoc] at heq
      obtain ⟨rfl, hlast⟩ := List.append_inj' heq rfl
      cases hlast
      refine Or.inr ⟨⟨hranked, earlier, later, rfl, ?_⟩, hlater last (by simp)⟩
      intro s hs
      exact hlater s (by simp [hs])
  · rintro (⟨rfl, hranked⟩ | ⟨⟨hranked, earlier, later, rfl, hlater⟩, hlast⟩)
    · exact ⟨hranked, visits, [], rfl, by simp⟩
    · refine ⟨hranked, earlier, later ++ [last], by simp, ?_⟩
      intro s hs
      rcases List.mem_append.1 hs with hs | hs
      · exact hlater s hs
      · rw [List.mem_singleton.1 hs]
        exact hlast

/-- How many shapes are visited before the first ranked one of the key. -/
def firstMet (visits : List Shape) (key : Text) : Nat :=
  visits.findIdx fun shape => shape.rank.isSome && decide (shape.key = key)

/-- A ranked shape of the key is among those visited. -/
def Met (visits : List Shape) (key : Text) : Prop :=
  ∃ shape ∈ visits, shape.rank ≠ none ∧ shape.key = key

theorem met_iff_firstMet_lt {visits : List Shape} {key : Text} :
    Met visits key ↔ firstMet visits key < visits.length := by
  unfold Met firstMet
  rw [List.findIdx_lt_length]
  simp [Option.ne_none_iff_isSome]

theorem met_concat {visits : List Shape} {last : Shape} {key : Text} :
    Met (visits ++ [last]) key ↔ Met visits key ∨ last.rank ≠ none ∧ last.key = key := by
  unfold Met
  constructor
  · rintro ⟨shape, hmem, h⟩
    rcases List.mem_append.1 hmem with hmem | hmem
    · exact Or.inl ⟨shape, hmem, h⟩
    · obtain rfl := List.mem_singleton.1 hmem
      exact Or.inr h
  · rintro (⟨shape, hmem, h⟩ | h)
    · exact ⟨shape, by simp [hmem], h⟩
    · exact ⟨last, by simp, h⟩

/-- Later visits do not change when a key was first met. -/
theorem firstMet_concat_of_met {visits : List Shape} {key : Text} (h : Met visits key)
    (last : Shape) : firstMet (visits ++ [last]) key = firstMet visits key := by
  have hlt := met_iff_firstMet_lt.1 h
  unfold firstMet at hlt ⊢
  rw [List.findIdx_append, if_pos hlt]

theorem length_le_firstMet_concat {visits : List Shape} {key : Text} (h : ¬ Met visits key)
    (last : Shape) : visits.length ≤ firstMet (visits ++ [last]) key := by
  have hlt := mt met_iff_firstMet_lt.2 h
  unfold firstMet at hlt ⊢
  rw [List.findIdx_append, if_neg hlt]
  exact Nat.le_add_left _ _

/-! ### The tally -/

namespace Catalogue

variable {key : Text} {rank : Int} {shape : Shape} {entries : List (Text × Int × Shape)}

theorem keys_put : (put key rank shape entries).map Prod.fst =
    if key ∈ entries.map Prod.fst then entries.map Prod.fst
    else entries.map Prod.fst ++ [key] := by
  induction entries with
  | nil => rfl
  | cons entry rest ih =>
    unfold put
    by_cases heq : entry.1 = key
    · simp [heq]
    · have hne : key ≠ entry.1 := fun h => heq h.symm
      rw [if_neg heq, List.map_cons, ih, List.map_cons]
      simp only [List.mem_cons, hne, false_or]
      split
      · rfl
      · rfl

/-- Where no key occurs twice, exactly the entry of the key is replaced. -/
theorem mem_put (h : (entries.map Prod.fst).Nodup) {entry : Text × Int × Shape} :
    entry ∈ put key rank shape entries ↔
      entry = (key, rank, shape) ∨ entry ∈ entries ∧ entry.1 ≠ key := by
  induction entries with
  | nil => simp [put]
  | cons first rest ih =>
    obtain ⟨hfirst, hrest⟩ := List.nodup_cons.1 h
    unfold put
    by_cases heq : first.1 = key
    · have hne (hentry : entry ∈ rest) : entry.1 ≠ key := by
        intro hkey
        exact hfirst (List.mem_map.2 ⟨entry, hentry, hkey.trans heq.symm⟩)
      rw [if_pos heq, List.mem_cons, List.mem_cons]
      constructor
      · rintro (h | h)
        · exact Or.inl h
        · exact Or.inr ⟨Or.inr h, hne h⟩
      · rintro (h | ⟨rfl | h, hkey⟩)
        · exact Or.inl h
        · exact absurd heq hkey
        · exact Or.inr h
    · rw [if_neg heq, List.mem_cons, ih hrest, List.mem_cons]
      constructor
      · rintro (rfl | h | ⟨h, hkey⟩)
        · exact Or.inr ⟨Or.inl rfl, heq⟩
        · exact Or.inl h
        · exact Or.inr ⟨Or.inr h, hkey⟩
      · rintro (h | ⟨h | h, hkey⟩)
        · exact Or.inr (Or.inl h)
        · exact Or.inl h
        · exact Or.inr (Or.inr ⟨h, hkey⟩)

end Catalogue

/-- What the tally holds after the visits: the survivors, each with its key and its
    rank, in the order in which the keys were first met. -/
structure Tally (visits : List Shape) (entries : List (Text × Int × Shape)) : Prop where
  mem_iff : ∀ key rank shape, (key, rank, shape) ∈ entries ↔
    shape.Survives visits ∧ shape.rank = some rank ∧ shape.key = key
  mem_keys_iff : ∀ key, key ∈ entries.map Prod.fst ↔ Met visits key
  ascending : (entries.map Prod.fst).Pairwise fun a b => firstMet visits a < firstMet visits b

namespace Tally

variable {visits : List Shape} {entries : List (Text × Int × Shape)}

theorem nodup_keys (h : Tally visits entries) : (entries.map Prod.fst).Nodup := by
  apply h.ascending.imp
  intro a b hlt heq
  simp [heq] at hlt

theorem ascending_concat (h : Tally visits entries) (last : Shape) :
    (entries.map Prod.fst).Pairwise fun a b =>
      firstMet (visits ++ [last]) a < firstMet (visits ++ [last]) b := by
  apply h.ascending.imp_of_mem
  intro a b ha hb hlt
  rwa [firstMet_concat_of_met ((h.mem_keys_iff a).1 ha),
    firstMet_concat_of_met ((h.mem_keys_iff b).1 hb)]

/-- A shape without a rank is passed over. -/
theorem concat_of_unranked (h : Tally visits entries) {last : Shape} (hrank : last.rank = none) :
    Tally (visits ++ [last]) entries where
  mem_iff key rank shape := by
    rw [h.mem_iff, survives_concat]
    simp [hrank]
  mem_keys_iff key := by
    rw [h.mem_keys_iff, met_concat]
    simp [hrank]
  ascending := h.ascending_concat last

/-- A shape with a rank takes the place of the last one of its key. -/
theorem concat_of_ranked (h : Tally visits entries) {last : Shape} {rank : Int}
    (hrank : last.rank = some rank) :
    Tally (visits ++ [last]) (Catalogue.put last.key rank last entries) where
  mem_iff key q shape := by
    rw [Catalogue.mem_put h.nodup_keys, h.mem_iff, survives_concat]
    simp only [hrank, Prod.mk.injEq, ne_eq, reduceCtorEq, not_false_eq_true, and_true,
      forall_const]
    constructor
    · rintro (⟨rfl, rfl, rfl⟩ | ⟨⟨hsurvives, hq, rfl⟩, hkey⟩)
      · exact ⟨Or.inl rfl, hrank, rfl⟩
      · exact ⟨Or.inr ⟨hsurvives, fun heq => hkey heq.symm⟩, hq, rfl⟩
    · rintro ⟨rfl | ⟨hsurvives, hkey⟩, hq, rfl⟩
      · exact Or.inl ⟨rfl, Option.some.inj (hq.symm.trans hrank), rfl⟩
      · exact Or.inr ⟨⟨hsurvives, hq, rfl⟩, fun heq => hkey heq.symm⟩
  mem_keys_iff key := by
    have hmet := h.mem_keys_iff key
    rw [Catalogue.keys_put, met_concat, ← hmet]
    simp only [hrank, ne_eq, reduceCtorEq, not_false_eq_true, true_and]
    split
    case isTrue hmem =>
      constructor
      · exact Or.inl
      · rintro (h | rfl)
        · exact h
        · exact hmem
    case isFalse hmem =>
      rw [List.mem_append, List.mem_singleton, eq_comm (a := key)]
  ascending := by
    rw [Catalogue.keys_put]
    split
    case isTrue => exact h.ascending_concat last
    case isFalse hmem =>
      -- a new key is met now, and all others were met before
      refine List.pairwise_append.2 ⟨h.ascending_concat last, List.pairwise_singleton _ _, ?_⟩
      intro a ha b hb
      obtain rfl := List.mem_singleton.1 hb
      have hmet := (h.mem_keys_iff a).1 ha
      have hunmet : ¬ Met visits last.key := fun hmet => hmem ((h.mem_keys_iff _).2 hmet)
      rw [firstMet_concat_of_met hmet]
      exact lt_of_lt_of_le (met_iff_firstMet_lt.1 hmet) (length_le_firstMet_concat hunmet last)

theorem concat (h : Tally visits entries) (last : Shape) :
    Tally (visits ++ [last]) (Catalogue.visit entries last) := by
  unfold Catalogue.visit
  cases hrank : last.rank with
  | none => exact h.concat_of_unranked hrank
  | some rank => exact h.concat_of_ranked hrank

end Tally

/-- **The tally of any visits.** -/
theorem tally_foldl (visits : List Shape) : Tally visits (visits.foldl Catalogue.visit []) := by
  induction visits using List.reverseRecOn with
  | nil =>
    refine ⟨?_, ?_, List.Pairwise.nil⟩
    · intro key rank shape
      simp [Shape.Survives]
    · intro key
      simp [Met]
  | append_singleton visits last ih =>
    rw [List.foldl_append]
    exact ih.concat last

end VclReview
