/-
  VclReview/Proofs/Readback.lean
  ==============================
  **The printed analysis can be read back.**  The messages about one line are a
  block: the first one opens it and no other message of the language looks like an
  opening (`isBlock_messages`).  So a printed analysis falls apart into its blocks in
  one way only (`flatten_blocks_inj`).

  Within a block the first message decides.  The words before the first slot tell the
  shapes apart (`Shape.eq_of_opening_eq`), and what stands in the slots is found again
  between the fixed words around it.  Only the message about request headers has two
  slots; there the first value ends at the first space, as it is a piece of a column
  (`Shape.requestHeader_tells`).
-/
import VclReview.Proofs.Fields
import VclReview.Proofs.Language
import Mathlib.Data.List.Pairwise

namespace VclReview

/-! ### Blocks of lines -/

section Blocks

variable {β : Type} {opens : β → Bool}

/-- The first line opens the block and no later one does. -/
def OpenedBy (opens : β → Bool) (lines : List β) : Prop :=
  ∃ opening others, lines = opening :: others ∧ opens opening = true ∧
    ∀ m ∈ others, opens m = false

theorem takeWhile_flatten_blocks {blocks : List (List β)}
    (h : ∀ b ∈ blocks, OpenedBy opens b) : blocks.flatten.takeWhile (!opens ·) = [] := by
  cases blocks with
  | nil => rfl
  | cons block rest =>
    obtain ⟨opening, others, rfl, hopening, -⟩ := h block (by simp)
    simp [hopening]

/-- After its opening, a block goes on to the next opening. -/
theorem takeWhile_block {others : List β} {blocks : List (List β)}
    (hothers : ∀ m ∈ others, opens m = false) (h : ∀ b ∈ blocks, OpenedBy opens b) :
    (others ++ blocks.flatten).takeWhile (!opens ·) = others := by
  rw [List.takeWhile_append_of_pos fun m hm => by simp [hothers m hm],
    takeWhile_flatten_blocks h, List.append_nil]

theorem flatten_blocks_inj {blocks blocks' : List (List β)}
    (h : ∀ b ∈ blocks, OpenedBy opens b) (h' : ∀ b ∈ blocks', OpenedBy opens b)
    (heq : blocks.flatten = blocks'.flatten) : blocks = blocks' := by
  induction blocks generalizing blocks' with
  | nil =>
    cases blocks' with
    | nil => rfl
    | cons block' rest' =>
      obtain ⟨opening, others, rfl, -⟩ := h' block' (by simp)
      simp at heq
  | cons block rest ih =>
    obtain ⟨opening, others, rfl, -, hothers⟩ := h block (by simp)
    cases blocks' with
    | nil => simp at heq
    | cons block' rest' =>
      obtain ⟨opening', others', rfl, -, hothers'⟩ := h' block' (by simp)
      simp only [List.flatten_cons, List.cons_append, List.cons.injEq] at heq
      obtain ⟨rfl, htail⟩ := heq
      have hrest : ∀ b ∈ rest, OpenedBy opens b := fun b hb => h b (by simp [hb])
      have hrest' : ∀ b ∈ rest', OpenedBy opens b := fun b hb => h' b (by simp [hb])
      have heqothers : others = others' := by
        rw [← takeWhile_block hothers hrest, htail, takeWhile_block hothers' hrest']
      subst heqothers
      rw [ih hrest hrest' (List.append_cancel_left htail)]

/-- Lines that come in blocks are the same exactly if the blocks are. -/
theorem flatMap_blocks_eq_iff {α : Type} {block : α → List β}
    (h : ∀ item, OpenedBy opens (block item)) {items items' : List α} :
    items.flatMap block = items'.flatMap block ↔ items.map block = items'.map block := by
  have hblocks (items : List α) : ∀ b ∈ items.map block, OpenedBy opens b := by
    intro b hb
    obtain ⟨item, -, rfl⟩ := List.mem_map.1 hb
    exact h item
  rw [List.flatMap_def, List.flatMap_def]
  exact ⟨flatten_blocks_inj (hblocks items) (hblocks items'), congrArg List.flatten⟩

end Blocks

/-! ### Blocks of messages -/

/-- Whether the message is the first one about its line: these begin with
    "Configuration" or "Unrecognized", and no other message has such a first letter. -/
def opensBlock (message : Text) : Bool :=
  message.head? = some 'C' || message.head? = some 'U'

/-- The first message opens the block and no later one does. -/
def IsBlock (messages : List Text) : Prop :=
  ∃ opening others, messages = opening :: others ∧ opensBlock opening = true ∧
    ∀ m ∈ others, opensBlock m = false

/-! ### How messages begin -/

/-- The words before the first slot of a template. -/
def Template.lead : Template → Text
  | .words text :: _ => text
  | _ => []

/-- The words before the first slot of the message of a shape. -/
def Shape.lead (shape : Shape) : Text := (Template.read shape.message).lead

theorem Template.lead_prefix_text (values : Values) (template : Template) :
    template.lead <+: template.text values := by
  cases template with
  | nil => exact List.prefix_rfl
  | cons piece rest =>
    cases piece with
    | words text => exact ⟨_, (Template.text_cons values (.words text) rest).symm⟩
    | slot name | elaborate name | flaw error => exact List.nil_prefix

theorem Shape.lead_eq (shape : Shape) {words : String} {chars : List Char}
    (h : shape.message = words.toList) (hwords : words = String.ofList chars) :
    shape.lead = (Template.read chars).lead := by
  rw [lead, h, toList_eq hwords]

/-- Neither text is a beginning of the other. -/
def Apart (text other : Text) : Prop := ¬ text <+: other ∧ ¬ other <+: text

theorem Apart.symm {text other : Text} (h : Apart text other) : Apart other text :=
  ⟨h.2, h.1⟩

instance (text other : Text) : Decidable (Apart text other) :=
  inferInstanceAs (Decidable (_ ∧ _))

theorem leads_builtin :
    (∀ lead ∈ Shape.builtin.map Shape.lead, "Configuration: ".toList <+: lead) ∧
      (Shape.builtin.map Shape.lead).Pairwise Apart := by
  have hchars : "Configuration: ".toList = _ := toList_eq rfl
  simp only [Shape.builtin, List.map_cons, List.map_nil, hchars, Shape.version.lead_eq rfl rfl,
    Shape.backend.lead_eq rfl rfl, Shape.host.lead_eq rfl rfl, Shape.port.lead_eq rfl rfl,
    Shape.acl.lead_eq rfl rfl, Shape.inclusion.lead_eq rfl rfl,
    Shape.subroutine.lead_eq rfl rfl, Shape.synth.lead_eq rfl rfl,
    Shape.requestHeader.lead_eq rfl rfl, Shape.ttl.lead_eq rfl rfl, Shape.grace.lead_eq rfl rfl]
  decide +kernel

/-- A text that begins like the one does not begin like the other. -/
theorem Apart.not_prefix_left {lead other text : Text} (h : Apart lead other)
    (hother : other <+: text) : ¬ lead <+: text := by
  intro hlead
  rcases List.prefix_or_prefix_of_prefix hlead hother with hshort | hlong
  · exact h.1 hshort
  · exact h.2 hlong

/-- How no message begins: like a place, or like a line that says that there is nothing. -/
def unspokenLeads : List Text := [['['], ['N', 'o', ' ']]

/-- How no advice begins: as above, or like the first message about a line. -/
def unadvisedLeads : List Text := ['C'] :: ['U'] :: unspokenLeads

/-- The template begins with words that are apart from how no advice begins. -/
def Template.Continues (template : Template) : Prop :=
  ∀ lead ∈ unadvisedLeads, Apart lead template.lead

instance (template : Template) : Decidable template.Continues :=
  inferInstanceAs (Decidable (∀ lead ∈ unadvisedLeads, Apart lead template.lead))

theorem Shape.advice_continues :
    ∀ shape ∈ Shape.builtin, ∀ text ∈ shape.advice, (Template.read text).Continues := by
  have hof {shape : Shape} {texts : List Text} (htexts : shape.advice = texts)
      (h : ∀ text ∈ texts, (Template.read text).Continues) :
      ∀ text ∈ shape.advice, (Template.read text).Continues := htexts ▸ h
  simp only [Shape.builtin, List.forall_mem_cons]
  refine ⟨?version, ?backend, ?host, ?port, ?acl, ?inclusion, ?subroutine, ?synth,
    ?requestHeader, ?ttl, ?grace, by simp⟩
  case backend => exact hof rfl (List.forall_mem_nil _)
  case version | host | port | acl | inclusion | subroutine | synth | requestHeader =>
    exact hof (cons_toList_eq rfl rfl) (by decide +kernel)
  case ttl | grace => exact hof (cons_toList_eq rfl (cons_toList_eq rfl rfl)) (by decide +kernel)

/-- Advice with values in it begins like the words before the first of them. -/
theorem Template.Continues.not_prefix_text {template : Template} (h : template.Continues)
    {lead : Text} (hlead : lead ∈ unadvisedLeads) (values : Values) :
    ¬ lead <+: template.text values :=
  (h lead hlead).not_prefix_left (Template.lead_prefix_text values template)

/-! ### The messages about a line are a block -/

theorem singleton_prefix_iff {text : Text} {c : Char} : [c] <+: text ↔ text.head? = some c := by
  cases text with
  | nil => simp
  | cons d rest => simp [eq_comm]

theorem opensBlock_eq_false_iff {message : Text} : opensBlock message = false ↔
    ¬ ['C'] <+: message ∧ ¬ ['U'] <+: message := by
  simp [opensBlock, singleton_prefix_iff]

theorem opensBlock_eq_false {template : Template} (h : template.Continues) (values : Values) :
    opensBlock (template.text values) = false :=
  opensBlock_eq_false_iff.2
    ⟨h.not_prefix_text (by decide) values, h.not_prefix_text (by decide) values⟩

/-- The first message of a shape about a line. -/
def Shape.opening (shape : Shape) (line : Text) : Text :=
  (Template.read shape.message).text (shape.extract line)

theorem Shape.configuration_prefix_opening {shape : Shape} (hshape : shape ∈ Shape.builtin)
    (line : Text) : "Configuration: ".toList <+: shape.opening line :=
  (leads_builtin.1 _ (List.mem_map.2 ⟨shape, hshape, rfl⟩)).trans (Template.lead_prefix_text _ _)

theorem Shape.head?_opening {shape : Shape} (hshape : shape ∈ Shape.builtin) (line : Text) :
    (shape.opening line).head? = some 'C' :=
  head?_eq_some_of_isPrefix (configuration_prefix_opening hshape line) rfl

theorem isBlock_said {shape : Shape} (hshape : shape ∈ Shape.builtin) (line : Text) :
    IsBlock (shape.said line) := by
  refine ⟨shape.opening line, _, rfl, ?_, ?_⟩
  · simp [opensBlock, Shape.head?_opening hshape line]
  · intro m hm
    obtain ⟨template, htemplate, rfl⟩ := List.mem_map.1 hm
    obtain ⟨text, htext, rfl⟩ := List.mem_map.1 htemplate
    exact opensBlock_eq_false (Shape.advice_continues shape hshape text htext) _

theorem isBlock_unrecognizedLines (line : Text) :
    IsBlock <| Annotation.unrecognizedLines line := by
  have hwarning {words : String} {c : Char} {chars : List Char}
      (h : words = String.ofList (c :: chars)) (hc : c ≠ 'C' ∧ c ≠ 'U') :
      ∀ m ∈ [words.toList], opensBlock m = false := by
    rw [toList_eq h]
    simp [opensBlock, hc]
  exact ⟨_, _, rfl, by simp [opensBlock], hwarning rfl (by decide)⟩

theorem isBlock_messages (line : Text) (lineNumber : Int) (location : Text) :
    IsBlock (annotationOf line lineNumber location).messages := by
  cases htaker : taker? line with
  | none =>
    simp only [annotationOf, htaker]
    exact isBlock_unrecognizedLines line
  | some shape =>
    simp only [annotationOf, htaker]
    exact isBlock_said (mem_builtin_of_taker? htaker) line

/-! ### What the first message says -/

/-- The values that the shape reads can be told from its first message. -/
def Shape.Tells (shape : Shape) : Prop :=
  ∀ line line', shape.opening line = shape.opening line' →
    shape.extract line = shape.extract line'

/-- The first message of a shape is no message about an unrecognized line. -/
theorem Shape.opening_ne_unrecognized {shape : Shape} (hshape : shape ∈ Shape.builtin)
    (line line' : Text) : shape.opening line ≠ "Unrecognized line: " ++ line' := by
  intro h
  have hhead := head?_opening hshape line
  rw [h] at hhead
  simp at hhead

theorem Shape.tells_of_no_value {shape : Shape} (h : ∀ line, shape.extract line = []) :
    shape.Tells := fun line line' _ => by rw [h line, h line']

/-- The name of the slot of a template with words before and after it. -/
def Template.soleSlot? : Template → Option Text
  | [.words _, .slot name, .words _] => some name
  | _ => none

/-- The names of the two slots of a template with words on either side, and the words between
    them. -/
def Template.slotPair? : Template → Option (Text × Text × Text)
  | [.words _, .slot name, .words between, .slot name', .words _] => some (name, between, name')
  | _ => none

theorem Template.soleSlot?_eq_some {template : Template} {name : Text}
    (h : template.soleSlot? = some name) :
    ∃ before after, template = [.words before, .slot name, .words after] := by
  unfold soleSlot? at h
  split at h
  · cases h
    exact ⟨_, _, rfl⟩
  · cases h

theorem Template.slotPair?_eq_some {template : Template} {name between name' : Text}
    (h : template.slotPair? = some (name, between, name')) :
    ∃ before after, template =
      [.words before, .slot name, .words between, .slot name', .words after] := by
  unfold slotPair? at h
  split at h
  · cases h
    exact ⟨_, _, rfl⟩
  · cases h

theorem Shape.tells_of_one_slot {shape : Shape} {chars : Text} (name : Text)
    {value : Text → Text} (hchars : shape.message = chars)
    (hslot : (Template.read chars).soleSlot? = some name)
    (hextract : ∀ line, shape.extract line = [(name, value line)]) : shape.Tells := by
  obtain ⟨before, after, hmessage⟩ := Template.soleSlot?_eq_some hslot
  rw [← hchars] at hmessage
  intro line line' h
  have hopening (l : Text) : shape.opening l = before ++ (value l ++ after) := by
    simp [opening, hmessage, hextract, Piece.text]
  rw [hopening, hopening] at h
  have hvalue : value line = value line' := List.append_cancel_right (List.append_cancel_left h)
  rw [hextract, hextract, hvalue]

/-- What stands before the first `c` is determined. -/
theorem append_cons_inj {c : Char} {front front' back back' : Text} (h : c ∉ front)
    (h' : c ∉ front') (heq : front ++ c :: back = front' ++ c :: back') :
    front = front' ∧ back = back' := by
  induction front generalizing front' with
  | nil =>
    cases front' with
    | nil => simpa using heq
    | cons d front' =>
      rw [List.nil_append, List.cons_append, List.cons.injEq] at heq
      exact absurd heq.1 fun hd => h' (by simp [hd])
  | cons d front ih =>
    cases front' with
    | nil =>
      rw [List.nil_append, List.cons_append, List.cons.injEq] at heq
      exact absurd heq.1 fun hd => h (by simp [hd])
    | cons d' front' =>
      simp only [List.cons_append, List.cons.injEq] at heq
      obtain ⟨rfl, htail⟩ := heq
      obtain ⟨rfl, hback⟩ := ih (fun hc => h (by simp [hc])) (fun hc => h' (by simp [hc])) htail
      exact ⟨rfl, hback⟩

/-- Where the first value has no `gap`, the first `gap` after the fixed words is one
    of the words between the two values. -/
theorem Shape.tells_of_two_slots {shape : Shape} {chars between name name' : Text}
    {quote gap : Char} {rest : Text} {value value' : Text → Text} (hnames : name' ≠ name)
    (hchars : shape.message = chars)
    (hslots : (Template.read chars).slotPair? = some (name, between, name'))
    (hextract : ∀ line, shape.extract line = [(name, value line), (name', value' line)])
    (hbetween : between = quote :: gap :: rest) (hquote : gap ≠ quote)
    (hgap : ∀ line, gap ∉ value line) : shape.Tells := by
  obtain ⟨before, after, hmessage⟩ := Template.slotPair?_eq_some hslots
  rw [← hchars] at hmessage
  intro line line' h
  have hopening (l : Text) : shape.opening l =
      before ++ ((value l ++ [quote]) ++ gap :: (rest ++ (value' l ++ after))) := by
    have hbeq : (name' == name) = false := by simpa using hnames
    have hlookup : List.lookup name' [(name, value l), (name', value' l)] = some (value' l) := by
      simp [List.lookup_cons, hbeq]
    simp [opening, hmessage, hextract, hbetween, Piece.text, hlookup]
  have hfront (l : Text) : gap ∉ value l ++ [quote] := by
    simp [hgap l, hquote]
  rw [hopening, hopening] at h
  obtain ⟨hvalue, hback⟩ :=
    append_cons_inj (hfront line) (hfront line') (List.append_cancel_left h)
  have hvalue' := List.append_cancel_right (List.append_cancel_left hback)
  rw [hextract, hextract, List.append_cancel_right hvalue, hvalue']

/-- A header name is a piece of a column and has no space. -/
theorem Shape.requestHeader_tells : Shape.requestHeader.Tells := by
  have hspace (line : Text) : ' ' ∉ Text.leadingColumn line "req.http." := fun hmem =>
    absurd (Text.not_gap_of_mem_leadingColumn _ hmem) (by decide)
  have hslots {chars : Text} (hchars : requestHeader.message = chars)
      (h : (Template.read chars).slotPair? =
        some ("header".toList, "' to '".toList, "value".toList)) :
      requestHeader.Tells :=
    tells_of_two_slots (by decide) hchars h (fun _ => rfl) (toList_eq rfl) (by decide) hspace
  exact hslots (toList_eq rfl) (by decide +kernel)

theorem Shape.tells_of_mem_builtin : ∀ shape ∈ Shape.builtin, shape.Tells := by
  simp only [Shape.builtin, List.forall_mem_cons]
  refine ⟨?version, ?backend, ?host, ?port, ?acl, ?inclusion, ?subroutine, ?synth,
    requestHeader_tells, ?ttl, ?grace, by simp⟩
  case version => exact tells_of_no_value fun _ => rfl
  case backend | acl | subroutine =>
    exact tells_of_one_slot "name" (toList_eq rfl) (by decide +kernel) fun _ => rfl
  case host => exact tells_of_one_slot "host" (toList_eq rfl) (by decide +kernel) fun _ => rfl
  case port => exact tells_of_one_slot "port" (toList_eq rfl) (by decide +kernel) fun _ => rfl
  case inclusion =>
    exact tells_of_one_slot "filename" (toList_eq rfl) (by decide +kernel) fun _ => rfl
  case synth => exact tells_of_one_slot "code" (toList_eq rfl) (by decide +kernel) fun _ => rfl
  case ttl => exact tells_of_one_slot "ttl" (toList_eq rfl) (by decide +kernel) fun _ => rfl
  case grace => exact tells_of_one_slot "grace" (toList_eq rfl) (by decide +kernel) fun _ => rfl

/-- The words before the first slot tell the shapes apart. -/
theorem Shape.eq_of_opening_eq {shape shape' : Shape} {line line' : Text}
    (hshape : shape ∈ Shape.builtin) (hshape' : shape' ∈ Shape.builtin)
    (h : shape.opening line = shape'.opening line') : shape = shape' := by
  have hlead : shape.lead <+: shape.opening line :=
    Template.lead_prefix_text _ _
  have hlead' : shape'.lead <+: shape.opening line :=
    h ▸ Template.lead_prefix_text _ _
  by_contra hne
  have hsymm : Std.Symm fun s t : Shape => Apart s.lead t.lead :=
    ⟨fun _ _ => Apart.symm⟩
  have hapart := (List.pairwise_map.1 leads_builtin.2).forall hshape hshape' hne
  exact hapart.not_prefix_left hlead' hlead

/-! ### The whole analysis -/

/-- **The messages about a line say what has been read from it**, and repeat it where it
    is unrecognized. -/
theorem annotationOf_inj_of_messages {line line' : Text} {lineNumber lineNumber' : Int}
    {location location' : Text}
    (h : (annotationOf line lineNumber location).messages =
      (annotationOf line' lineNumber' location').messages) :
    (annotationOf line lineNumber location).directive =
        (annotationOf line' lineNumber' location').directive ∧
      (annotationOf line lineNumber location).values =
        (annotationOf line' lineNumber' location').values ∧
      ((annotationOf line lineNumber location).directive = Annotation.unrecognized →
        line = line') := by
  cases htaker : taker? line with
  | none =>
    cases htaker' : taker? line' with
    | none =>
      simp only [annotationOf, htaker, htaker'] at h ⊢
      have hline : line = line' := List.append_cancel_left (List.cons.inj h).1
      exact ⟨trivial, trivial, fun _ => hline⟩
    | some shape' =>
      simp only [annotationOf, htaker, htaker'] at h
      have hopening := (List.cons.inj h).1.symm
      exact absurd hopening
        (Shape.opening_ne_unrecognized (mem_builtin_of_taker? htaker') line' line)
  | some shape =>
    have hshape := mem_builtin_of_taker? htaker
    cases htaker' : taker? line' with
    | none =>
      simp only [annotationOf, htaker, htaker'] at h
      exact absurd (List.cons.inj h).1 (Shape.opening_ne_unrecognized hshape line line')
    | some shape' =>
      have hshape' := mem_builtin_of_taker? htaker'
      simp only [annotationOf, htaker, htaker'] at h ⊢
      have hopening : shape.opening line = shape'.opening line' := (List.cons.inj h).1
      obtain rfl := Shape.eq_of_opening_eq hshape hshape' hopening
      refine ⟨rfl, Shape.tells_of_mem_builtin shape hshape line line' hopening, ?_⟩
      intro hname
      exact absurd hname (Shape.name_ne_unrecognized shape hshape)

theorem render_eq_flatten (annotations : List Annotation) :
    render false annotations = (annotations.map (·.messages)).flatten := by
  simp [render, List.flatMap_def]

/-- **Two lists of lines whose printed analyses agree have the same annotations**, up to
    what is not printed: where the lines stand, and how recognized lines are written. -/
theorem render_builtin_inj (lines lines' : List Text) (location location' : Text)
    (start start' : Int) :
    ∃ annotations annotations',
      annotateFrom Shape.builtin location start lines = .ok annotations ∧
      annotateFrom Shape.builtin location' start' lines' = .ok annotations' ∧
      annotations.length = lines.length ∧ annotations'.length = lines'.length ∧
      (render false annotations = render false annotations' →
        lines.length = lines'.length ∧
        ∀ (i : Nat) a a', annotations[i]? = some a → annotations'[i]? = some a' →
          a.directive = a'.directive ∧ a.values = a'.values ∧
          (a.directive = Annotation.unrecognized → lines[i]? = lines'[i]?)) := by
  refine ⟨_, _, annotateFrom_builtin location start lines,
    annotateFrom_builtin location' start' lines', length_annotationsOf _ _ _,
    length_annotationsOf _ _ _, ?_⟩
  intro h
  rw [render_eq_flatten, render_eq_flatten] at h
  have hblocks (location : Text) (start : Int) (lines : List Text) :
      ∀ b ∈ (annotationsOf location start lines).map (·.messages), IsBlock b := by
    simp only [annotationsOf, List.map_map, List.forall_mem_map]
    rintro ⟨line, i⟩ -
    exact isBlock_messages line _ _
  have hmessages := flatten_blocks_inj (hblocks _ _ _) (hblocks _ _ _) h
  refine ⟨by simpa using congrArg List.length hmessages, ?_⟩
  intro i a a' ha ha'
  have hmessage : a.messages = a'.messages := by
    have hget := congrArg (·[i]?) hmessages
    simpa [ha, ha'] using hget
  rw [getElem?_annotationsOf] at ha ha'
  obtain ⟨line, hline, rfl⟩ := Option.map_eq_some_iff.1 ha
  obtain ⟨line', hline', rfl⟩ := Option.map_eq_some_iff.1 ha'
  obtain ⟨hdirective, hvalues, htext⟩ := annotationOf_inj_of_messages hmessage
  refine ⟨hdirective, hvalues, ?_⟩
  intro h
  rw [hline, hline', htext h]

/-- One version line may be written as another; the annotations are the same. -/
theorem render_respelled_version :
    ∃ annotations annotations',
      annotateFrom Shape.builtin "a.vcl" 1 ["vcl 4.0;", ['}']] = .ok annotations ∧
      annotateFrom Shape.builtin "b.vcl" 7 [" vcl 4.0; #", ['}']] = .ok annotations' ∧
      render false annotations = render false annotations' ∧
      ∀ (i : Nat) (a a' : Annotation), annotations[i]? = some a → annotations'[i]? = some a' →
        a.directive = a'.directive := by
  obtain ⟨annotations, annotations', h, h', -, -, himp⟩ :=
    render_builtin_inj ["vcl 4.0;", ['}']] [" vcl 4.0; #", ['}']] "a.vcl" "b.vcl" 1 7
  have hrender : render false annotations = render false annotations' := by
    cases h.symm.trans (annotateFrom_builtin _ _ _)
    cases h'.symm.trans (annotateFrom_builtin _ _ _)
    decide +kernel
  exact ⟨annotations, annotations', h, h', hrender,
    fun i a a' ha ha' => ((himp hrender).2 i a a' ha ha').1⟩

end VclReview
