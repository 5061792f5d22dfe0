/-
  VclReview/Proofs/JsonWriting.lean
  =================================
  **What is written as JSON.**  A document says a value (`Json.value`), and both on one line and
  on many it is written as JSON for that value and for no other (`denotes_compact`,
  `denotes_pretty`, `Denotes.unique`).  Whatever its texts hold, the characters of a document
  are ASCII (`ascii_pretty`).

  `annotations.json` is written so, and from it the annotations are read back:
  `annotationsJson_records`.
-/
import VclReview.Proofs.JsonGrammar
import VclReview.Report.Artifact
import Mathlib.Algebra.Group.Nat.Defs

namespace VclReview

namespace Json

/-! ### Characters and strings -/

theorem hexDigit?_digitChar : ∀ d < 16, hexDigit? (Nat.digitChar d) = some d := by decide

/-- The last of the digits, and the others as those of a smaller number. -/
theorem hex_succ {width : Nat} (hwidth : 0 < width) (n : Nat) :
    Text.hex (width + 1) n = Text.hex width (n / 16) ++ [Nat.digitChar (n % 16)] := by
  by_cases hn : n < 16
  · have hzero : n / 16 = 0 := by omega
    have hfill : List.replicate (width - 1) '0' ++ ['0'] = List.replicate width '0' := by
      rw [← List.replicate_succ', Nat.sub_add_cancel hwidth]
    have hdigits : Nat.toDigits 16 0 = ['0'] := rfl
    rw [Text.hex, Text.hex, Nat.toDigits_of_lt_base hn, hzero, Nat.mod_eq_of_lt hn, hdigits]
    exact congrArg (· ++ [n.digitChar]) hfill.symm
  · rw [Text.hex, Text.hex, Nat.toDigits_eq_if (by decide), if_neg hn, List.length_append,
      List.length_singleton, Nat.add_sub_add_right, List.append_assoc]

theorem hexValue?_hex {width n : Nat} (h : n < 16 ^ (width + 1)) :
    (Text.hex (width + 1) n).length = width + 1 ∧
      hexValue? (Text.hex (width + 1) n) = some n := by
  induction width generalizing n with
  | zero =>
    have hlast : hexDigit? (Nat.digitChar n) = some n := hexDigit?_digitChar n (by omega)
    rw [Text.hex, Nat.toDigits_of_lt_base (by omega)]
    refine ⟨rfl, ?_⟩
    simp [hexValue?, hlast]
  | succ width ih =>
    have hsmaller : n / 16 < 16 ^ (width + 1) := by
      rw [Nat.pow_succ] at h
      omega
    obtain ⟨hlength, hvalue⟩ := ih hsmaller
    have hlast := hexDigit?_digitChar (n % 16) (Nat.mod_lt n (by decide))
    rw [hexValue?] at hvalue
    rw [hex_succ (Nat.succ_pos width), List.length_append, hlength, hexValue?,
      List.foldlM_append, hvalue]
    refine ⟨rfl, ?_⟩
    simp [hlast, Nat.div_add_mod]

theorem unitDigits_hex {n : Nat} (h : n < 0x10000) : UnitDigits n (Text.hex 4 n) :=
  hexValue?_hex (by omega)

theorem escape_codeEscape (c : Char) : ∃ text, codeEscape c = '\\' :: text ∧ Escape c text := by
  have hvalid : c.toNat < 0xD800 ∨ 0xDFFF < c.toNat ∧ c.toNat < 0x110000 := c.valid
  by_cases hplane : c.toNat < 0x10000
  · exact ⟨_, if_pos hplane, .unit (unitDigits_hex hplane)⟩
  · refine ⟨_, if_neg hplane, .pair (unitDigits_hex ?_) (unitDigits_hex ?_) ?_ ?_ ?_⟩
    all_goals omega

/-- A character of printable ASCII. -/
def Printed (c : Char) : Prop := 0x20 ≤ c.toNat ∧ c.toNat < 0x7F

instance (c : Char) : Decidable (Printed c) := inferInstanceAs (Decidable (_ ∧ _))

/-- How a character is written between quotes: by a letter, as it stands, or by its code. -/
theorem escape_cases (c : Char) :
    (∃ letter, (letter, c) ∈ shortEscapes ∧ escape c = ['\\', letter]) ∨
      (Printed c ∧ c ≠ '"' ∧ c ≠ '\\' ∧ escape c = [c]) ∨ escape c = codeEscape c := by
  unfold escape
  split
  case isTrue h => exact Or.inl ⟨'"', by subst h; decide, rfl⟩
  case isFalse hquote =>
    split
    case isTrue h => exact Or.inl ⟨'\\', by subst h; decide, rfl⟩
    case isFalse hbackslash =>
      split
      case isTrue h => exact Or.inl ⟨'n', by subst h; decide, rfl⟩
      split
      case isTrue h => exact Or.inl ⟨'r', by subst h; decide, rfl⟩
      split
      case isTrue h => exact Or.inl ⟨'t', by subst h; decide, rfl⟩
      split
      case isTrue h => exact Or.inl ⟨'f', by subst h; decide, rfl⟩
      split
      case isTrue h => exact Or.inl ⟨'b', by subst h; decide, rfl⟩
      split
      case isTrue h => exact Or.inr (Or.inl ⟨h, hquote, hbackslash, rfl⟩)
      exact Or.inr (Or.inr rfl)

theorem spelledChar_escape (c : Char) : SpelledChar c (escape c) := by
  rcases escape_cases c with
    ⟨letter, hletter, hescape⟩ | ⟨hprinted, hquote, hbackslash, hescape⟩ | hescape
  · exact hescape ▸ .escaped (.short hletter)
  · exact hescape ▸ .plain hprinted.1 hquote hbackslash
  · obtain ⟨text, htext, hcode⟩ := escape_codeEscape c
    exact (hescape.trans htext) ▸ .escaped hcode

theorem spelledText_escape (text : Text) : SpelledText text (text.flatMap escape) := by
  induction text with
  | nil => exact .nil
  | cons c text ih => exact .cons (spelledChar_escape c) ih

theorem spelled_string (text : Text) : (Token.string text).Spelled (string text) :=
  .string (spelledText_escape text)

/-! ### Numbers -/

theorem digits_ofNat (n : Nat) : Digits (Text.ofNat n) :=
  ⟨Nat.toDigits_ne_nil, fun _ => Nat.isDigit_of_mem_toDigits (by decide) (by decide)⟩

theorem whole_ofNat (n : Nat) : Whole (Text.ofNat n) := by
  refine ⟨digits_ofNat n, ?_⟩
  induction n using Nat.strongRecOn with
  | _ n ih =>
    rw [Text.ofNat, Nat.toDigits_eq_if (by decide)]
    split
    case isTrue h =>
      intro hhead
      rw [Option.some.inj hhead]
    case isFalse h =>
      -- the digits in front of the last one are those of a smaller number, and not of zero
      intro hhead
      rw [List.head?_append_of_ne_nil _ Nat.toDigits_ne_nil] at hhead
      have hzero := congrArg (Nat.ofDigitChars 10 · 0) (ih (n / 10) (by omega) hhead)
      rw [Text.ofNat, Nat.ofDigitChars_ten_toDigits] at hzero
      have : n / 10 = 0 := hzero
      omega

theorem spelledInteger_ofInt (n : Int) : SpelledInteger n (Text.ofInt n) := by
  cases n with
  | ofNat n =>
    have h := SpelledInteger.plain (whole_ofNat n)
    rwa [Text.ofNat, Nat.ofDigitChars_ten_toDigits] at h
  | negSucc n =>
    have h := SpelledInteger.negative (whole_ofNat (n + 1))
    rwa [Text.ofNat, Nat.ofDigitChars_ten_toDigits] at h

/-! ### Tokens -/

section Tokens

variable {tokens : List Token} {rest : Text}

theorem Lexed.space {gap : Text} (hgap : Space gap) (h : Lexed tokens rest) :
    Lexed tokens (gap ++ rest) := by
  cases h with
  | done hend => exact .done (List.forall_mem_append.2 ⟨hgap, hend⟩)
  | token hbefore htoken hstop hrest =>
    rw [List.append_assoc, ← List.append_assoc, ← List.append_assoc]
    exact .token (List.forall_mem_append.2 ⟨hgap, hbefore⟩) htoken hstop hrest

theorem Lexed.cons {token : Token} {text : Text} (htoken : token.Spelled text)
    (hstop : token.isNumber = true → Stops rest) (h : Lexed tokens rest) :
    Lexed (token :: tokens) (text ++ rest) := by
  have hnone : Space [] := fun _ hc => by cases hc
  exact .token hnone htoken hstop h

theorem Lexed.mark {c : Char} (hc : c ∈ marks) (h : Lexed tokens rest) :
    Lexed (.mark c :: tokens) (c :: rest) :=
  .cons (.mark hc) (fun hnumber => by cases hnumber) h

theorem Lexed.string (text : Text) (h : Lexed tokens rest) :
    Lexed (.string text :: tokens) (Json.string text ++ rest) :=
  .cons (spelled_string text) (fun hnumber => by cases hnumber) h

theorem stops_cons {c : Char} (hc : inNumber c = false) (text : Text) : Stops (c :: text) := by
  rintro d hd
  obtain rfl : c = d := Option.some.inj hd
  exact hc

end Tokens

/-! ### Documents -/

mutual

/-- What a document says. -/
def value : Json → Value
  | str text => .string text
  | num n => .number (.integer n)
  | arr items => .array (values items)
  | obj fields => .object (members fields)

def values : List Json → List Value
  | [] => []
  | item :: rest => value item :: values rest

def members : List (Text × Json) → List (Text × Value)
  | [] => []
  | (name, document) :: rest => (name, value document) :: members rest

end

theorem values_eq_map (items : List Json) : values items = items.map value := by
  induction items with
  | nil => rfl
  | cons item rest ih => rw [values, ih, List.map_cons]

theorem members_eq_map (fields : List (Text × Json)) :
    members fields = fields.map fun field => (field.1, field.2.value) := by
  induction fields with
  | nil => rfl
  | cons field rest ih => rw [members, ih, List.map_cons]

theorem space_space : Space [' '] := by
  intro c hc
  rw [List.mem_singleton.1 hc]
  rfl

mutual

theorem lexed_compact : ∀ (document : Json) {tokens : List Token} {rest : Text},
    Lexed tokens rest → Stops rest →
      Lexed (document.value.tokens ++ tokens) (document.compact ++ rest)
  | str text, _, _, h, _ => .string text h
  | num n, _, _, h, hstop => .cons (.number (.integer (spelledInteger_ofInt n))) (fun _ => hstop) h
  | arr items, tokens, rest, h, _ => by
    simp only [value, Value.tokens, compact, List.cons_append, List.append_assoc]
    exact .mark (by decide) (lexed_compactItems items (.mark (by decide) h)
      (stops_cons (by decide) rest))
  | obj fields, tokens, rest, h, _ => by
    simp only [value, Value.tokens, compact, List.cons_append, List.append_assoc]
    exact .mark (by decide) (lexed_compactFields fields (.mark (by decide) h)
      (stops_cons (by decide) rest))

theorem lexed_compactItems : ∀ (items : List Json) {tokens : List Token} {rest : Text},
    Lexed tokens rest → Stops rest →
      Lexed (Value.itemTokens (values items) ++ tokens) (compactItems items ++ rest)
  | [], _, _, h, _ => h
  | [item], _, _, h, hstop => lexed_compact item h hstop
  | item :: next :: others, _, _, h, hstop => by
    simp only [values, Value.itemTokens, compactItems, List.cons_append, List.append_assoc]
    have hothers := lexed_compactItems (next :: others) h hstop
    exact lexed_compact item (.mark (by decide) (hothers.space space_space))
      (stops_cons (by decide) _)

theorem lexed_compactFields : ∀ (fields : List (Text × Json)) {tokens : List Token} {rest : Text},
    Lexed tokens rest → Stops rest →
      Lexed (Value.memberTokens (members fields) ++ tokens) (compactFields fields ++ rest)
  | [], _, _, h, _ => h
  | [(name, document)], _, _, h, hstop => by
    simp only [members, Value.memberTokens, compactFields, List.cons_append, List.append_assoc]
    exact .string name (.mark (by decide) ((lexed_compact document h hstop).space space_space))
  | (name, document) :: next :: others, _, _, h, hstop => by
    simp only [members, Value.memberTokens, compactFields, List.cons_append, List.append_assoc]
    have hothers := lexed_compactFields (next :: others) h hstop
    refine .string name (.mark (by decide) (Lexed.space space_space ?_))
    exact lexed_compact document (.mark (by decide) (hothers.space space_space))
      (stops_cons (by decide) _)

end

theorem space_newLine (level : Nat) : Space (newLine level) := by
  intro c hc
  rcases List.mem_cons.1 hc with rfl | hc
  · rfl
  · rw [List.eq_of_mem_replicate hc]
    rfl

mutual

theorem lexed_prettyAt : ∀ (level : Nat) (document : Json) {tokens : List Token} {rest : Text},
    Lexed tokens rest → Stops rest →
      Lexed (document.value.tokens ++ tokens) (document.prettyAt level ++ rest)
  | _, str text, _, _, h, _ => .string text h
  | _, num n, _, _, h, hstop =>
    .cons (.number (.integer (spelledInteger_ofInt n))) (fun _ => hstop) h
  | _, arr [], _, _, h, _ => .mark (by decide) (.mark (by decide) h)
  | level, arr (item :: others), tokens, rest, h, _ => by
    simp only [value, values, Value.tokens, Value.itemTokens_eq_row, Value.row_cons, prettyAt,
      List.cons_append, List.append_assoc]
    have hclose : Lexed (.mark ']' :: tokens) (newLine level ++ ']' :: rest) :=
      .space (space_newLine level) (.mark (by decide) h)
    have hothers := lexed_prettyItems (level + 1) others hclose (stops_cons (by decide) _)
    refine .mark (by decide) (.space (space_newLine (level + 1)) ?_)
    exact lexed_prettyAt (level + 1) item hothers.1 hothers.2
  | _, obj [], _, _, h, _ => .mark (by decide) (.mark (by decide) h)
  | level, obj ((name, document) :: others), tokens, rest, h, _ => by
    simp only [value, members, Value.tokens, Value.memberTokens_eq_row, Value.row_cons,
      Value.memberBlock, prettyAt, List.cons_append, List.append_assoc]
    have hclose : Lexed (.mark '}' :: tokens) (newLine level ++ '}' :: rest) :=
      .space (space_newLine level) (.mark (by decide) h)
    have hothers := lexed_prettyFields (level + 1) others hclose (stops_cons (by decide) _)
    refine .mark (by decide) (.space (space_newLine (level + 1)) (.string name ?_))
    refine .mark (by decide) (Lexed.space space_space ?_)
    exact lexed_prettyAt (level + 1) document hothers.1 hothers.2

/-- What follows an item can be read, and it ends the number that the item may be. -/
theorem lexed_prettyItems : ∀ (level : Nat) (items : List Json) {tokens : List Token}
    {rest : Text}, Lexed tokens rest → Stops rest →
      Lexed (Value.behind Value.tokens (values items) ++ tokens) (prettyItems level items ++ rest) ∧
        Stops (prettyItems level items ++ rest)
  | _, [], _, _, h, hstop => ⟨h, hstop⟩
  | level, item :: others, _, _, h, hstop => by
    simp only [values, Value.behind_cons, prettyItems, List.cons_append, List.append_assoc]
    have hothers := lexed_prettyItems level others h hstop
    have hitem := lexed_prettyAt level item hothers.1 hothers.2
    exact ⟨.mark (by decide) (hitem.space (space_newLine level)), stops_cons (by decide) _⟩

theorem lexed_prettyFields : ∀ (level : Nat) (fields : List (Text × Json)) {tokens : List Token}
    {rest : Text}, Lexed tokens rest → Stops rest →
      Lexed (Value.behind Value.memberBlock (members fields) ++ tokens)
          (prettyFields level fields ++ rest) ∧
        Stops (prettyFields level fields ++ rest)
  | _, [], _, _, h, hstop => ⟨h, hstop⟩
  | level, (name, document) :: others, _, _, h, hstop => by
    simp only [members, Value.behind_cons, Value.memberBlock, prettyFields, List.cons_append,
      List.append_assoc]
    have hothers := lexed_prettyFields level others h hstop
    have hvalue := lexed_prettyAt level document hothers.1 hothers.2
    refine ⟨.mark (by decide) (.space (space_newLine level) (.string name ?_)),
      stops_cons (by decide) _⟩
    exact .mark (by decide) (hvalue.space space_space)

end

theorem stops_nil : Stops [] := by
  intro c hc
  cases hc

/-- **On one line a document is written as JSON for what it says.** -/
theorem denotes_compact (document : Json) : Denotes document.compact document.value := by
  have h := lexed_compact document (.done fun _ hc => by cases hc) stops_nil
  rwa [List.append_nil, List.append_nil] at h

/-- **And so it is on many lines.** -/
theorem denotes_pretty (document : Json) : Denotes document.pretty document.value := by
  have h := lexed_prettyAt 0 document (.done fun _ hc => by cases hc) stops_nil
  rwa [List.append_nil, List.append_nil] at h

/-! ### The characters of documents -/

theorem printed_digitChar : ∀ d < 16, Printed (Nat.digitChar d) := by decide

theorem printed_toDigits (n : Nat) : ∀ c ∈ Nat.toDigits 16 n, Printed c := by
  induction n using Nat.strongRecOn with
  | _ n ih =>
    rw [Nat.toDigits_eq_if (by decide)]
    split
    case isTrue h => exact List.forall_mem_singleton.2 (printed_digitChar n h)
    case isFalse h =>
      exact List.forall_mem_append.2 ⟨ih (n / 16) (by omega),
        List.forall_mem_singleton.2 (printed_digitChar (n % 16) (Nat.mod_lt n (by decide)))⟩

theorem printed_unitEscape (unit : Nat) : ∀ c ∈ unitEscape unit, Printed c := by
  have hhex : ∀ c ∈ Text.hex 4 unit, Printed c := by
    refine List.forall_mem_append.2 ⟨fun c hc => ?_, printed_toDigits unit⟩
    rw [List.eq_of_mem_replicate hc]
    decide
  exact List.forall_mem_cons.2 ⟨by decide, List.forall_mem_cons.2 ⟨by decide, hhex⟩⟩

theorem printed_codeEscape (c : Char) : ∀ d ∈ codeEscape c, Printed d := by
  unfold codeEscape
  split
  · exact printed_unitEscape _
  · exact List.forall_mem_append.2 ⟨printed_unitEscape _, printed_unitEscape _⟩

theorem printed_escape (c : Char) : ∀ d ∈ escape c, Printed d := by
  have hletters : ∀ e ∈ shortEscapes, Printed e.1 := by decide
  rcases escape_cases c with ⟨letter, hletter, hescape⟩ | ⟨hprinted, -, -, hescape⟩ | hescape
  · rw [hescape]
    exact List.forall_mem_cons.2 ⟨by decide, List.forall_mem_singleton.2 (hletters _ hletter)⟩
  · rw [hescape]
    exact List.forall_mem_singleton.2 hprinted
  · rw [hescape]
    exact printed_codeEscape c

theorem printed_pointEscape (p : CodePoint) : ∀ c ∈ pointEscape p, Printed c := by
  cases p with
  | char c => exact printed_escape c
  | surrogate index => exact printed_unitEscape _

section Documents

variable {α : Type} [Letter α]

theorem printed_string (text : List α) : ∀ c ∈ string text, Printed c := by
  have hinside : ∀ c ∈ text.flatMap (fun a => pointEscape (Letter.point a)), Printed c := by
    intro c hc
    obtain ⟨a, -, ha⟩ := List.mem_flatMap.1 hc
    exact printed_pointEscape _ c ha
  exact List.forall_mem_append.2 ⟨List.forall_mem_cons.2 ⟨by decide, hinside⟩,
    List.forall_mem_singleton.2 (by decide)⟩

theorem printed_ofInt (n : Int) : ∀ c ∈ Text.ofInt n, Printed c := by
  intro c hc
  rcases (spelledInteger_ofInt n).mem c hc with hdigit | rfl
  · obtain ⟨hlow, hhigh⟩ := Char.isDigit_iff_toNat.1 hdigit
    exact ⟨Nat.le_trans (by decide) hlow, Nat.lt_of_le_of_lt hhigh (by decide)⟩
  · decide

mutual

/-- A document on one line has no other characters, and so no line break. -/
theorem printed_compact : ∀ document : Json α, ∀ c ∈ document.compact, Printed c
  | str text => printed_string text
  | num n => printed_ofInt n
  | arr items => by
    simp only [compact, List.forall_mem_append, List.forall_mem_cons]
    exact ⟨⟨by decide, printed_compactItems items⟩, by decide, List.forall_mem_nil _⟩
  | obj fields => by
    simp only [compact, List.forall_mem_append, List.forall_mem_cons]
    exact ⟨⟨by decide, printed_compactFields fields⟩, by decide, List.forall_mem_nil _⟩

theorem printed_compactItems : ∀ items : List (Json α), ∀ c ∈ compactItems items, Printed c
  | [] => by simp [compactItems]
  | [item] => printed_compact item
  | item :: next :: others => by
    simp only [compactItems, List.forall_mem_append, List.forall_mem_cons]
    exact ⟨printed_compact item, by decide, by decide, printed_compactItems (next :: others)⟩

theorem printed_compactFields : ∀ fields : List (List α × Json α),
    ∀ c ∈ compactFields fields, Printed c
  | [] => by simp [compactFields]
  | [(name, document)] => by
    simp only [compactFields, List.forall_mem_append, List.forall_mem_cons]
    exact ⟨printed_string name, by decide, by decide, printed_compact document⟩
  | (name, document) :: next :: others => by
    simp only [compactFields, List.forall_mem_append, List.forall_mem_cons]
    exact ⟨⟨printed_string name, by decide, by decide, printed_compact document⟩,
      by decide, by decide, printed_compactFields (next :: others)⟩

end

end Documents

/-- A line break, or a character of printable ASCII. -/
def Laid (c : Char) : Prop := c = '\n' ∨ Printed c

instance (c : Char) : Decidable (Laid c) := inferInstanceAs (Decidable (_ ∨ _))

theorem Laid.toNat_lt {c : Char} (h : Laid c) : c.toNat < 0x80 := by
  rcases h with rfl | hprinted
  · decide
  · exact Nat.lt_succ_of_lt hprinted.2

theorem laid_newLine (level : Nat) : ∀ c ∈ newLine level, Laid c := by
  refine List.forall_mem_cons.2 ⟨by decide, fun c hc => ?_⟩
  rw [List.eq_of_mem_replicate hc]
  decide

theorem laid_string (text : Text) : ∀ c ∈ string text, Laid c :=
  fun c hc => Or.inr (printed_string text c hc)

mutual

theorem laid_prettyAt : ∀ (level : Nat) (document : Json), ∀ c ∈ document.prettyAt level, Laid c
  | _, str text => laid_string text
  | _, num n => fun c hc => Or.inr (printed_ofInt n c hc)
  | _, arr [] => by
    simp only [prettyAt]
    exact List.all_iff_forall_prop.1 rfl
  | level, arr (item :: others) => by
    simp only [prettyAt, List.forall_mem_append, List.forall_mem_cons]
    exact ⟨⟨⟨⟨⟨by decide, laid_newLine (level + 1)⟩, laid_prettyAt (level + 1) item⟩,
      laid_prettyItems (level + 1) others⟩, laid_newLine level⟩, by decide, List.forall_mem_nil _⟩
  | _, obj [] => by
    simp only [prettyAt]
    exact List.all_iff_forall_prop.1 rfl
  | level, obj ((name, document) :: others) => by
    simp only [prettyAt, List.forall_mem_append, List.forall_mem_cons]
    exact ⟨⟨⟨⟨⟨⟨by decide, laid_newLine (level + 1)⟩, laid_string name⟩,
      by decide, by decide, laid_prettyAt (level + 1) document⟩,
      laid_prettyFields (level + 1) others⟩, laid_newLine level⟩, by decide, List.forall_mem_nil _⟩

theorem laid_prettyItems : ∀ (level : Nat) (items : List Json),
    ∀ c ∈ prettyItems level items, Laid c
  | _, [] => by simp [prettyItems]
  | level, item :: others => by
    simp only [prettyItems, List.forall_mem_append, List.forall_mem_cons]
    exact ⟨⟨⟨by decide, laid_newLine level⟩, laid_prettyAt level item⟩,
      laid_prettyItems level others⟩

theorem laid_prettyFields : ∀ (level : Nat) (fields : List (Text × Json)),
    ∀ c ∈ prettyFields level fields, Laid c
  | _, [] => by simp [prettyFields]
  | level, (name, document) :: others => by
    simp only [prettyFields, List.forall_mem_append, List.forall_mem_cons]
    exact ⟨⟨⟨⟨by decide, laid_newLine level⟩, laid_string name⟩,
      by decide, by decide, laid_prettyAt level document⟩, laid_prettyFields level others⟩

end

/-- **A document is written in ASCII only.** -/
theorem ascii_pretty (document : Json) : ∀ c ∈ document.pretty, c.toNat < 0x80 :=
  fun c hc => (laid_prettyAt 0 document c hc).toNat_lt

end Json

/-! ### The annotations of a report -/

open Json

/-- What a report records of an annotation. -/
def Annotation.record (a : Annotation) : Json.Value :=
  .object
    [("file_location", .string a.location),
     ("line_num", .number (.integer a.lineNumber)),
     ("text", .string a.text),
     ("directive", .string a.directive),
     ("values", .object (a.values.map fun (name, value) => (name, .string value))),
     ("messages", .array (a.messages.map .string))]

/-- The annotations of all files, in the order of the report. -/
def Results.annotations (results : Results) : List Annotation := results.flatMap (·.2)

theorem value_valuesJson (values : Values) : (Report.valuesJson values).value =
    .object (values.map fun (name, value) => (name, .string value)) := by
  rw [Report.valuesJson, Json.value, members_eq_map, List.map_map]
  rfl

theorem value_annotationJson (a : Annotation) : (Report.annotationJson a).value = a.record := by
  have hmessages : Json.values (a.messages.map .str) = a.messages.map .string := by
    rw [values_eq_map, List.map_map]
    rfl
  simp only [Report.annotationJson, Json.value, members, value_valuesJson, hmessages,
    Annotation.record, Letter.spell_char]

theorem annotationsJson_eq (results : Results) : Report.annotationsJson results =
    (Json.arr (results.annotations.map Report.annotationJson)).pretty := by
  rw [Report.annotationsJson, Results.annotations, List.map_flatMap]

theorem denotes_annotationsJson (results : Results) :
    Denotes (Report.annotationsJson results)
      (.array (results.annotations.map Annotation.record)) := by
  have hdenotes := denotes_pretty (Json.arr (results.annotations.map Report.annotationJson))
  have hrecords : (results.annotations.map Report.annotationJson).map Json.value =
      results.annotations.map Annotation.record := by
    rw [List.map_map]
    exact List.map_congr_left fun a _ => value_annotationJson a
  rwa [← annotationsJson_eq, Json.value, values_eq_map, hrecords] at hdenotes

theorem string_values_inj {values values' : Values}
    (h : (values.map fun (name, value) => (name, Json.Value.string value)) =
      values'.map fun (name, value) => (name, Json.Value.string value)) : values = values' := by
  refine List.map_injective_iff.2 ?_ h
  rintro ⟨name, value⟩ ⟨name', value'⟩ heq
  cases heq
  rfl

theorem Annotation.record_inj {a b : Annotation} (h : a.record = b.record) : a = b := by
  obtain ⟨lineNumber, text, directive, messages, values, location⟩ := a
  obtain ⟨lineNumber', text', directive', messages', values', location'⟩ := b
  simp only [record, Value.object.injEq, List.cons.injEq, Prod.mk.injEq, Value.string.injEq,
    Value.number.injEq, Number.integer.injEq, Value.array.injEq, true_and, and_true] at h
  obtain ⟨rfl, rfl, rfl, rfl, hvalues, hmessages⟩ := h
  have hinjective : Function.Injective Value.string := fun _ _ => Value.string.inj
  rw [string_values_inj hvalues, List.map_injective_iff.2 hinjective hmessages]

/-- **The record of the annotations is a faithful one.**  It is written in ASCII only, it is
    JSON for the list of what is recorded of each annotation and for nothing else, and so it is
    the same for two reports exactly if their annotations are. -/
theorem annotationsJson_records (results : Results) (audit : Option (List Text)) :
    (∀ c ∈ Artifact.annotationsJson.contents results audit, c.toNat < 0x80) ∧
      (∀ value, Denotes (Artifact.annotationsJson.contents results audit) value ↔
        value = .array (results.annotations.map Annotation.record)) ∧
      ∀ results' audit', Artifact.annotationsJson.contents results' audit' =
          Artifact.annotationsJson.contents results audit ↔
        results'.annotations = results.annotations := by
  have hdenotes := denotes_annotationsJson results
  refine ⟨?_, ?_, ?_⟩
  · exact ascii_pretty _
  · intro value
    constructor
    · intro h
      exact h.unique hdenotes
    · rintro rfl
      exact hdenotes
  · intro results' audit'
    change Report.annotationsJson results' = Report.annotationsJson results ↔ _
    constructor
    · intro h
      have hsame := (denotes_annotationsJson results').unique (h ▸ hdenotes)
      exact List.map_injective_iff.2 (fun _ _ => Annotation.record_inj) (Value.array.inj hsame)
    · intro h
      rw [annotationsJson_eq, annotationsJson_eq, h]

end VclReview
