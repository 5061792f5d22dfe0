/-
  VclReview/Proofs/Names.lean
  ===========================
  **Lists of names on the command line.**  A list is divided at every comma
  (`names_append_comma`), and a part without commas holds one name or, if it is blank, none
  (`names_of_no_comma`).  These two equations leave nothing open.  What comes out are names that
  can be listed (`Listable`), so writing them down as a list again and reading that changes
  nothing; and no directory is scanned for empty globs or with empty names to pass over.
-/
import VclReview.Bytes.Charset
import VclReview.Proofs.PathTexts
import VclReview.Proofs.Trimming
import VclReview.Run

namespace VclReview

namespace Text

variable {list name : Text}

/-- A name that lists can hold: it has a character, but no comma and no blank at its ends. -/
structure Listable (name : Text) : Prop where
  ne_nil : name ≠ []
  no_comma : ',' ∉ name
  bare : Bare isBlank name

/-- Whether the character divides a list. -/
def isComma (c : Char) : Bool := c == ','

theorem names_eq (list : Text) :
    names list = ((splitWhere isComma list).map trim).filter (!·.isEmpty) := rfl

theorem names_append_comma (list more : Text) :
    names (list ++ ',' :: more) = names list ++ names more := by
  have hcomma : isComma ',' = true := rfl
  rw [names_eq, splitWhere_append_cons hcomma, List.map_append, List.filter_append, ← names_eq,
    ← names_eq]

theorem names_of_no_comma (h : ',' ∉ list) :
    names list = if trim list = [] then [] else [trim list] := by
  have hparts : ∀ c ∈ list, isComma c = false := beq_eq_false_of_not_mem h
  rw [names_eq, splitWhere_of_forall hparts]
  by_cases hblank : trim list = []
  · simp [hblank]
  · simp [hblank]

theorem listable_of_mem_names (h : name ∈ names list) : Listable name := by
  obtain ⟨hname, hne⟩ := List.mem_filter.1 h
  obtain ⟨part, hpart, rfl⟩ := List.mem_map.1 hname
  refine ⟨by simpa using hne, fun hcomma => ?_, bare_trimWhere isBlank part⟩
  have hseparates := mem_splitWhere hpart ',' (mem_of_mem_trimWhere hcomma)
  cases hseparates

/-- Listable names that have been joined by commas come apart again. -/
theorem names_intercalate {entries : List Text} (h : ∀ name ∈ entries, Listable name) :
    names (List.intercalate [','] entries) = entries := by
  by_cases hnone : entries = []
  · subst hnone
    rfl
  have hcomma : isComma ',' = true := rfl
  have hparts : ∀ name ∈ entries, ∀ c ∈ name, isComma c = false := fun name hname =>
    beq_eq_false_of_not_mem (h name hname).no_comma
  have htrim : entries.map trim = entries :=
    calc entries.map trim
      _ = entries.map id :=
        List.map_congr_left fun name hname => trimWhere_of_bare (h name hname).bare
      _ = entries := List.map_id entries
  rw [names_eq, splitWhere_intercalate hcomma hnone hparts, htrim, List.filter_eq_self]
  intro name hname
  simpa using (h name hname).ne_nil

/-- Lists are read by dividing them at their commas. -/
structure DividesLists (read : Text → List Text) : Prop where
  divided : ∀ list more, read (list ++ "," ++ more) = read list ++ read more
  single : ∀ list, ',' ∉ list → ∀ name, Trimmed isBlank list name →
    read list = if name = [] then [] else [name]
  listable : ∀ list, ∀ name ∈ read list, Listable name
  rejoined : ∀ list, read (List.intercalate "," (read list)) = read list

theorem dividesLists_names : DividesLists names where
  divided list more := by
    rw [List.append_assoc]
    exact names_append_comma list more
  single list hcomma name hname := by
    rw [names_of_no_comma hcomma, hname.eq, trim]
  listable list name := listable_of_mem_names
  rejoined list := names_intercalate fun name => listable_of_mem_names

theorem listable_of_mem_items {setting : Setting Text} (h : name ∈ setting.items names) :
    Listable name := by
  cases setting with
  | value list => exact listable_of_mem_names h
  | blank => cases h

end Text

/-- **Lists of names are divided at their commas, and a directory is scanned with listable names
    only**, whatever the options for globs and excluded directories hold. -/
theorem names_divide_lists :
    Text.DividesLists Text.names ∧
    ∀ (tree : FileTree) (reader : TextReader) (settings : Settings) (root : Path),
      tree.isFolder root = true →
      scanPath tree reader settings root =
        scanFolder tree reader Shape.builtin (settings.folder root) ∧
      (∀ pattern ∈ (settings.folder root).globs, Text.Listable pattern) ∧
      ∀ directory ∈ (settings.folder root).excluded, Text.Listable directory := by
  refine ⟨Text.dividesLists_names, ?_⟩
  intro tree reader settings root hfolder
  refine ⟨?_, fun _ => Text.listable_of_mem_items, fun _ => Text.listable_of_mem_items⟩
  rw [scanPath, if_pos hfolder]

/-- Parts that are blank in any script name nothing. -/
theorem names_divide_lists_with_blank_parts :
    let tree := FileTree.bare ["etc"]
    let settings := { Settings.usual with globs := .value ", *.vcl ,\u2003,,.\u00A0,\t" }
    let folder := settings.folder ⟨.relative, []⟩
    tree.isFolder ⟨.relative, []⟩ = true ∧ folder.globs = ["*.vcl".toList, ['.']] ∧
      (∀ pattern ∈ folder.globs, Text.Listable pattern) ∧
        Text.names " *.vcl " = ["*.vcl".toList] := by
  intro tree settings folder
  have hfolder : tree.isFolder ⟨.relative, []⟩ = true := by decide
  obtain ⟨-, hglobs, -⟩ :=
    names_divide_lists.2 tree (.guessing none) settings ⟨.relative, []⟩ hfolder
  have htrimmed : Text.Trimmed Text.isBlank " *.vcl " "*.vcl" := Text.trimmed_iff.2 (by decide)
  refine ⟨hfolder, by decide, hglobs, ?_⟩
  exact names_divide_lists.1.single " *.vcl " (by decide) "*.vcl" htrimmed

end VclReview
