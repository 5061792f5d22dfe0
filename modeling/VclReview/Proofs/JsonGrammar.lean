/-
  VclReview/Proofs/JsonGrammar.lean
  =================================
  **What a JSON text says.**  A JSON text is a row of tokens with white space before, between
  and behind them (`Lexed`): marks, names, numbers and strings.  It denotes a value if its
  tokens are those of the value (`Denotes`).

  **A JSON text says one thing** (`Denotes.unique`).  From left to right, the first character of
  a token tells its kind, and each kind tells where the token ends (`Token.Spelled.append_inj`).
  So a text has one row of tokens (`Lexed.unique`), and a row of tokens is the row of at most
  one value (`Value.determined`).
-/
import VclReview.Proofs.Spans
import VclReview.Report.Json
import Mathlib.Data.Bool.AllAny
import Mathlib.Data.List.Basic

namespace VclReview.Json

/-! ### Characters -/

/-- The letters that stand for a character when they follow a backslash. -/
def shortEscapes : List (Char × Char) :=
  [('"', '"'), ('\\', '\\'), ('/', '/'), ('b', '\x08'), ('f', '\x0c'), ('n', '\n'),
   ('r', '\r'), ('t', '\t')]

/-- The value of a hexadecimal digit, whose letter may be of either case. -/
def hexDigit? (c : Char) : Option Nat :=
  if '0' ≤ c ∧ c ≤ '9' then some (c.toNat - '0'.toNat)
  else if 'a' ≤ c ∧ c ≤ 'f' then some (c.toNat - 'a'.toNat + 10)
  else if 'A' ≤ c ∧ c ≤ 'F' then some (c.toNat - 'A'.toNat + 10)
  else none

/-- The number that hexadecimal digits denote. -/
def hexValue? (digits : Text) : Option Nat :=
  digits.foldlM (fun n c => (hexDigit? c).map (16 * n + ·)) 0

/-- The text consists of the four hexadecimal digits of a UTF-16 unit. -/
def UnitDigits (unit : Nat) (text : Text) : Prop := text.length = 4 ∧ hexValue? text = some unit

/-- What can follow a backslash, for the character that it then stands for.  A character beyond
    the first plane is given by its two surrogates. -/
inductive Escape : Char → Text → Prop where
  | short {letter c : Char} : (letter, c) ∈ shortEscapes → Escape c [letter]
  | unit {c : Char} {digits : Text} : UnitDigits c.toNat digits → Escape c ('u' :: digits)
  | pair {c : Char} {high low : Nat} {digits digits' : Text} :
      UnitDigits high digits → UnitDigits low digits' →
      0xD800 ≤ high ∧ high < 0xDC00 → 0xDC00 ≤ low ∧ low < 0xE000 →
      c.toNat = 0x10000 + (high - 0xD800) * 0x400 + (low - 0xDC00) →
      Escape c ('u' :: digits ++ '\\' :: 'u' :: digits')

/-- A character of a string as it can be written between the quotes. -/
inductive SpelledChar : Char → Text → Prop where
  | plain {c : Char} : 0x20 ≤ c.toNat → c ≠ '"' → c ≠ '\\' → SpelledChar c [c]
  | escaped {c : Char} {text : Text} : Escape c text → SpelledChar c ('\\' :: text)

/-- The characters of a string as they can be written one after the other. -/
inductive SpelledText : Text → Text → Prop where
  | nil : SpelledText [] []
  | cons {c : Char} {cs text rest : Text} :
      SpelledChar c text → SpelledText cs rest → SpelledText (c :: cs) (text ++ rest)

/-! ### Numbers -/

/-- A run of digits. -/
def Digits (text : Text) : Prop := text ≠ [] ∧ ∀ c ∈ text, c.isDigit = true

/-- A run of digits that begins with a zero only if it is nothing but that. -/
def Whole (text : Text) : Prop := Digits text ∧ (text.head? = some '0' → text = ['0'])

inductive SpelledInteger : Int → Text → Prop where
  | plain {digits : Text} :
      Whole digits → SpelledInteger (Nat.ofDigitChars 10 digits 0) digits
  | negative {digits : Text} :
      Whole digits → SpelledInteger (-Nat.ofDigitChars 10 digits 0) ('-' :: digits)

def Fraction (text : Text) : Prop := text = [] ∨ ∃ digits, Digits digits ∧ text = '.' :: digits

def Exponent (text : Text) : Prop :=
  text = [] ∨ ∃ mark sign digits, (mark = 'e' ∨ mark = 'E') ∧
    (sign = [] ∨ sign = ['+'] ∨ sign = ['-']) ∧ Digits digits ∧ text = mark :: sign ++ digits

/-- A number: an integer, or as it is written if it has a fraction or an exponent. -/
inductive Number where
  | integer (n : Int)
  | decimal (literal : Text)
  deriving DecidableEq

inductive Number.Spelled : Number → Text → Prop where
  | integer {n : Int} {text : Text} : SpelledInteger n text → Spelled (.integer n) text
  | decimal {n : Int} {whole fraction exponent : Text} :
      SpelledInteger n whole → Fraction fraction → Exponent exponent →
      fraction ++ exponent ≠ [] →
      Spelled (.decimal (whole ++ fraction ++ exponent)) (whole ++ fraction ++ exponent)

/-- The characters that numbers are written with. -/
def inNumber (c : Char) : Bool := c.isDigit || ['-', '+', '.', 'e', 'E'].elem c

/-- A number before the text ends where the text begins. -/
def Stops (text : Text) : Prop := ∀ c, text.head? = some c → inNumber c = false

/-! ### Tokens -/

inductive Token where
  | mark (c : Char)
  | name (word : Text)
  | number (n : Number)
  | string (text : Text)
  deriving DecidableEq

def marks : List Char := ['[', ']', '{', '}', ':', ',']

def names : List Text := ["null", "true", "false"]

inductive Token.Spelled : Token → Text → Prop where
  | mark {c : Char} : c ∈ marks → Spelled (.mark c) [c]
  | name {word : Text} : word ∈ names → Spelled (.name word) word
  | number {n : Number} {text : Text} : n.Spelled text → Spelled (.number n) text
  | string {text body : Text} : SpelledText text body → Spelled (.string text) ('"' :: body ++ ['"'])

def Token.isNumber : Token → Bool
  | number _ => true
  | _ => false

/-- The white space that may stand around tokens. -/
def isSpace (c : Char) : Bool := [' ', '\t', '\n', '\r'].elem c

def Space (text : Text) : Prop := ∀ c ∈ text, isSpace c = true

/-- The text consists of these tokens and of white space.  A number is not cut in two. -/
inductive Lexed : List Token → Text → Prop where
  | done {gap : Text} : Space gap → Lexed [] gap
  | token {token : Token} {tokens : List Token} {gap text rest : Text} :
      Space gap → token.Spelled text → (token.isNumber = true → Stops rest) →
      Lexed tokens rest → Lexed (token :: tokens) (gap ++ text ++ rest)

/-! ### Values -/

/-- What a JSON text can say.  An object keeps the order of its members. -/
inductive Value where
  | null
  | boolean (b : Bool)
  | number (n : Number)
  | string (text : Text)
  | array (items : List Value)
  | object (members : List (Text × Value))

/-- The name of a truth value. -/
def truthName : Bool → Text
  | true => "true"
  | false => "false"

namespace Value

mutual

def tokens : Value → List Token
  | null => [.name "null"]
  | boolean b => [.name (truthName b)]
  | number n => [.number n]
  | string text => [.string text]
  | array items => .mark '[' :: itemTokens items ++ [.mark ']']
  | object members => .mark '{' :: memberTokens members ++ [.mark '}']

def itemTokens : List Value → List Token
  | [] => []
  | [item] => item.tokens
  | item :: next :: rest => item.tokens ++ .mark ',' :: itemTokens (next :: rest)

def memberTokens : List (Text × Value) → List Token
  | [] => []
  | [(name, value)] => .string name :: .mark ':' :: value.tokens
  | (name, value) :: next :: rest =>
    .string name :: .mark ':' :: value.tokens ++ .mark ',' :: memberTokens (next :: rest)

end

end Value

/-- The text is JSON for the value. -/
def Denotes (text : Text) (value : Value) : Prop := Lexed value.tokens text

/-! ### Where tokens end -/

theorem UnitDigits.append_inj {unit unit' : Nat} {text text' rest rest' : Text}
    (h : UnitDigits unit text) (h' : UnitDigits unit' text')
    (heq : text ++ rest = text' ++ rest') : unit = unit' ∧ rest = rest' := by
  obtain ⟨rfl, hrest⟩ := List.append_inj heq (h.1.trans h'.1.symm)
  exact ⟨Option.some.inj (h.2.symm.trans h'.2), hrest⟩

theorem shortEscapes_unique : ∀ e ∈ shortEscapes, ∀ e' ∈ shortEscapes, e.1 = e'.1 → e = e' := by
  decide

theorem not_short_unit : ∀ e ∈ shortEscapes, e.1 ≠ 'u' := by decide

/-- No character is a surrogate. -/
theorem toNat_not_surrogate (c : Char) : ¬ (0xD800 ≤ c.toNat ∧ c.toNat < 0xDC00) := by
  have hvalid : c.toNat < 0xD800 ∨ 0xDFFF < c.toNat ∧ c.toNat < 0x110000 := c.valid
  omega

theorem Escape.append_inj {c c' : Char} {text text' rest rest' : Text} (h : Escape c text)
    (h' : Escape c' text') (heq : text ++ rest = text' ++ rest') : c = c' ∧ rest = rest' := by
  cases h with
  | short hletter =>
    cases h' with
    | short hletter' =>
      obtain ⟨rfl, hrest⟩ := List.cons.inj heq
      cases shortEscapes_unique _ hletter _ hletter' rfl
      exact ⟨rfl, hrest⟩
    | unit | pair => exact absurd (List.cons.inj heq).1 (not_short_unit _ hletter)
  | unit hunit =>
    cases h' with
    | short hletter' => exact absurd (List.cons.inj heq).1.symm (not_short_unit _ hletter')
    | unit hunit' =>
      obtain ⟨hcode, hrest⟩ := hunit.append_inj hunit' (List.cons.inj heq).2
      exact ⟨Char.toNat_inj.1 hcode, hrest⟩
    | pair hhigh' _ hrange' _ _ =>
      simp only [List.cons_append, List.append_assoc, List.cons.injEq, true_and] at heq
      obtain ⟨hcode, -⟩ := hunit.append_inj hhigh' heq
      exact absurd (hcode ▸ hrange') (toNat_not_surrogate c)
  | pair hhigh hlow hrange hrange₂ hcode =>
    cases h' with
    | short hletter' => exact absurd (List.cons.inj heq).1.symm (not_short_unit _ hletter')
    | unit hunit' =>
      simp only [List.cons_append, List.append_assoc, List.cons.injEq, true_and] at heq
      obtain ⟨hcode', -⟩ := hhigh.append_inj hunit' heq
      exact absurd (hcode' ▸ hrange) (toNat_not_surrogate c')
    | pair hhigh' hlow' hrange' hrange₂' hcode' =>
      simp only [List.cons_append, List.append_assoc, List.cons.injEq, true_and] at heq
      obtain ⟨rfl, hrest⟩ := hhigh.append_inj hhigh' heq
      simp only [List.cons.injEq, true_and] at hrest
      obtain ⟨rfl, hrest⟩ := hlow.append_inj hlow' hrest
      exact ⟨Char.toNat_inj.1 (hcode.trans hcode'.symm), hrest⟩

theorem SpelledChar.append_inj {c c' : Char} {text text' rest rest' : Text}
    (h : SpelledChar c text) (h' : SpelledChar c' text') (heq : text ++ rest = text' ++ rest') :
    c = c' ∧ rest = rest' := by
  cases h with
  | plain _ _ hbackslash =>
    cases h' with
    | plain => exact List.cons.inj heq
    | escaped => exact absurd (List.cons.inj heq).1 hbackslash
  | escaped hescape =>
    cases h' with
    | plain _ _ hbackslash => exact absurd (List.cons.inj heq).1.symm hbackslash
    | escaped hescape' => exact hescape.append_inj hescape' (List.cons.inj heq).2

theorem SpelledChar.head {c : Char} {text : Text} (h : SpelledChar c text) (rest : Text) :
    (text ++ rest).head? ≠ some '"' := by
  cases h with
  | plain _ hquote _ => simpa using hquote
  | escaped => simp

theorem SpelledText.append_inj {cs cs' text text' rest rest' : Text} (h : SpelledText cs text)
    (h' : SpelledText cs' text') (heq : text ++ '"' :: rest = text' ++ '"' :: rest') :
    cs = cs' ∧ rest = rest' := by
  induction h generalizing cs' text' with
  | nil =>
    cases h' with
    | nil => exact ⟨rfl, (List.cons.inj heq).2⟩
    | cons hc' _ =>
      rw [List.append_assoc] at heq
      exact absurd (congrArg List.head? heq).symm (hc'.head _)
  | cons hc _ ih =>
    cases h' with
    | nil =>
      rw [List.append_assoc] at heq
      exact absurd (congrArg List.head? heq) (hc.head _)
    | cons hc' hcs' =>
      rw [List.append_assoc, List.append_assoc] at heq
      obtain ⟨rfl, htail⟩ := hc.append_inj hc' heq
      obtain ⟨rfl, hrest⟩ := ih hcs' htail
      exact ⟨rfl, hrest⟩

/-! ### Numbers -/

theorem Whole.head {digits : Text} (h : Whole digits) :
    ∃ c rest, digits = c :: rest ∧ c.isDigit = true := by
  obtain ⟨⟨hne, hdigits⟩, -⟩ := h
  obtain ⟨c, rest, rfl⟩ := List.exists_cons_of_ne_nil hne
  exact ⟨c, rest, rfl, hdigits c List.mem_cons_self⟩

theorem SpelledInteger.head {n : Int} {text : Text} (h : SpelledInteger n text) :
    ∃ c rest, text = c :: rest ∧ (c.isDigit = true ∨ c = '-') := by
  cases h with
  | plain hwhole =>
    obtain ⟨c, rest, rfl, hc⟩ := hwhole.head
    exact ⟨c, rest, rfl, Or.inl hc⟩
  | negative _ => exact ⟨'-', _, rfl, Or.inr rfl⟩

theorem SpelledInteger.mem {n : Int} {text : Text} (h : SpelledInteger n text) :
    ∀ c ∈ text, c.isDigit = true ∨ c = '-' := by
  intro c hc
  cases h with
  | plain hwhole => exact Or.inl (hwhole.1.2 c hc)
  | negative hwhole =>
    rcases List.mem_cons.1 hc with rfl | hc
    · exact Or.inr rfl
    · exact Or.inl (hwhole.1.2 c hc)

theorem SpelledInteger.unique {n n' : Int} {text : Text} (h : SpelledInteger n text)
    (h' : SpelledInteger n' text) : n = n' := by
  have hsign {digits : Text} (hwhole : Whole ('-' :: digits)) : False :=
    absurd (hwhole.1.2 '-' List.mem_cons_self) (by decide)
  cases h with
  | plain hwhole =>
    cases h' with
    | plain => rfl
    | negative => exact (hsign hwhole).elim
  | negative hwhole =>
    cases h' with
    | plain hwhole' => exact (hsign hwhole').elim
    | negative => rfl

theorem Fraction.mem {text : Text} (h : Fraction text) : ∀ c ∈ text, inNumber c = true := by
  rcases h with rfl | ⟨digits, hdigits, rfl⟩
  · simp
  · refine List.forall_mem_cons.2 ⟨by decide, fun c hc => ?_⟩
    simp [inNumber, hdigits.2 c hc]

theorem Exponent.mem {text : Text} (h : Exponent text) : ∀ c ∈ text, inNumber c = true := by
  rcases h with rfl | ⟨mark, sign, digits, hmark, hsign, hdigits, rfl⟩
  · simp
  · have hdigit : ∀ c ∈ digits, inNumber c = true := by
      intro c hc
      simp [inNumber, hdigits.2 c hc]
    refine List.forall_mem_append.2 ⟨List.forall_mem_cons.2 ⟨?_, ?_⟩, hdigit⟩
    · rcases hmark with rfl | rfl <;> decide
    · rcases hsign with rfl | rfl | rfl <;> exact List.all_iff_forall_prop.1 rfl

/-- A fraction or an exponent begins with a character that no integer has. -/
theorem exists_mem_decimal {fraction exponent : Text} (hfraction : Fraction fraction)
    (hexponent : Exponent exponent) (hne : fraction ++ exponent ≠ []) :
    ∃ c ∈ fraction ++ exponent, ¬ (c.isDigit = true ∨ c = '-') := by
  rcases hfraction with rfl | ⟨digits, -, rfl⟩
  · rcases hexponent with rfl | ⟨mark, sign, digits, hmark, -, -, rfl⟩
    · exact absurd rfl hne
    · refine ⟨mark, by simp, ?_⟩
      rcases hmark with rfl | rfl <;> decide
  · exact ⟨'.', by simp, by decide⟩

namespace Number

theorem Spelled.head {n : Number} {text : Text} (h : n.Spelled text) :
    ∃ c rest, text = c :: rest ∧ (c.isDigit = true ∨ c = '-') := by
  cases h with
  | integer hinteger => exact hinteger.head
  | decimal hwhole =>
    obtain ⟨c, rest, rfl, hc⟩ := hwhole.head
    exact ⟨c, _, by rw [List.append_assoc, List.cons_append], hc⟩

theorem Spelled.mem {n : Number} {text : Text} (h : n.Spelled text) :
    ∀ c ∈ text, inNumber c = true := by
  have hinside {n : Int} {text : Text} (hinteger : SpelledInteger n text) :
      ∀ c ∈ text, inNumber c = true := by
    intro c hc
    rcases hinteger.mem c hc with hdigit | rfl
    · simp [inNumber, hdigit]
    · decide
  cases h with
  | integer hinteger => exact hinside hinteger
  | decimal hwhole hfraction hexponent _ =>
    exact List.forall_mem_append.2
      ⟨List.forall_mem_append.2 ⟨hinside hwhole, hfraction.mem⟩, hexponent.mem⟩

theorem Spelled.unique {n n' : Number} {text : Text} (h : n.Spelled text) (h' : n'.Spelled text) :
    n = n' := by
  -- what makes a decimal of the text is no part of an integer
  have hapart {n : Int} {whole fraction exponent : Text} (hfraction : Fraction fraction)
      (hexponent : Exponent exponent) (hne : fraction ++ exponent ≠ [])
      (hinteger : SpelledInteger n (whole ++ fraction ++ exponent)) : False := by
    obtain ⟨c, hc, hnot⟩ := exists_mem_decimal hfraction hexponent hne
    rw [List.append_assoc] at hinteger
    exact hnot (hinteger.mem c (List.mem_append_right whole hc))
  cases h with
  | integer hinteger =>
    cases h' with
    | integer hinteger' => rw [hinteger.unique hinteger']
    | decimal _ hfraction hexponent hne => exact (hapart hfraction hexponent hne hinteger).elim
  | @decimal _ whole fraction exponent _ hfraction hexponent hne =>
    generalize htext : whole ++ fraction ++ exponent = text at h'
    cases h' with
    | integer hinteger' => exact (hapart hfraction hexponent hne (htext ▸ hinteger')).elim
    | decimal => rfl

theorem Spelled.append_inj {n n' : Number} {text text' rest rest' : Text} (h : n.Spelled text)
    (h' : n'.Spelled text') (hrest : Stops rest) (hrest' : Stops rest')
    (heq : text ++ rest = text' ++ rest') : n = n' ∧ rest = rest' := by
  obtain ⟨rfl, hsame⟩ := append_inj_of_run h.mem h'.mem hrest hrest' heq
  exact ⟨h.unique h', hsame⟩

end Number

/-! ### Tokens -/

namespace Token

/-- The kinds of tokens, numbered. -/
def kind : Token → Nat
  | mark _ => 0
  | name _ => 1
  | number _ => 2
  | string _ => 3

/-- The kind of the tokens that begin with the character; none begins with white space. -/
def kindFrom (c : Char) : Nat :=
  if c.isDigit || c == '-' then 2
  else if marks.elem c then 0
  else if c == '"' then 3
  else if isSpace c then 4
  else 1

theorem kindFrom_of_mem_marks : ∀ c ∈ marks, kindFrom c = 0 := List.all_iff_forall_prop.1 rfl

theorem kindFrom_of_mem_names : ∀ word ∈ names, word.head?.map kindFrom = some 1 := by decide

theorem kindFrom_of_number {c : Char} (h : c.isDigit = true ∨ c = '-') : kindFrom c = 2 :=
  if_pos (by simpa using h)

theorem kindFrom_of_space {c : Char} (h : isSpace c = true) : kindFrom c = 4 := by
  have hspaces : ∀ c ∈ [' ', '\t', '\n', '\r'], kindFrom c = 4 := List.all_iff_forall_prop.1 rfl
  exact hspaces c (List.elem_iff.1 h)

theorem kind_lt (token : Token) : token.kind < 4 := by
  cases token with
  | mark | name | number | string => simp [kind]

theorem names_unique :
    ∀ word ∈ names, ∀ word' ∈ names, word.head? = word'.head? → word = word' := by
  decide

/-- **The first character of a token tells its kind.** -/
theorem Spelled.head {token : Token} {text : Text} (h : token.Spelled text) :
    ∃ c rest, text = c :: rest ∧ kindFrom c = token.kind := by
  cases h with
  | mark hmark => exact ⟨_, [], rfl, kindFrom_of_mem_marks _ hmark⟩
  | name hname =>
    have hkind := kindFrom_of_mem_names _ hname
    cases text with
    | nil => cases hkind
    | cons c rest => exact ⟨c, rest, rfl, Option.some.inj hkind⟩
  | number hnumber =>
    obtain ⟨c, rest, rfl, hc⟩ := hnumber.head
    exact ⟨c, rest, rfl, kindFrom_of_number hc⟩
  | string => exact ⟨'"', _, rfl, rfl⟩

theorem Spelled.kind_eq {token token' : Token} {text text' rest rest' : Text}
    (h : token.Spelled text) (h' : token'.Spelled text') (heq : text ++ rest = text' ++ rest') :
    token.kind = token'.kind := by
  obtain ⟨c, others, rfl, hc⟩ := h.head
  obtain ⟨c', others', rfl, hc'⟩ := h'.head
  rw [← hc, ← hc', (List.cons.inj heq).1]

/-- **What is read next from a text is one token.** -/
theorem Spelled.append_inj {token token' : Token} {text text' rest rest' : Text}
    (h : token.Spelled text) (h' : token'.Spelled text')
    (hrest : token.isNumber = true → Stops rest) (hrest' : token'.isNumber = true → Stops rest')
    (heq : text ++ rest = text' ++ rest') : token = token' ∧ rest = rest' := by
  have hkind := h.kind_eq h' heq
  cases h with
  | mark =>
    cases h' with
    | mark =>
      obtain ⟨rfl, hsame⟩ := List.cons.inj heq
      exact ⟨rfl, hsame⟩
    | name | number | string => cases hkind
  | name hname =>
    cases h' with
    | name hname' =>
      have hhead {word : Text} (hword : word ∈ names) (rest : Text) :
          (word ++ rest).head? = word.head? :=
        List.head?_append_of_ne_nil _ ((by decide : ∀ word ∈ names, word ≠ []) word hword)
      have hheads := congrArg List.head? heq
      rw [hhead hname, hhead hname'] at hheads
      obtain rfl := names_unique _ hname _ hname' hheads
      exact ⟨rfl, List.append_cancel_left heq⟩
    | mark | number | string => cases hkind
  | number hnumber =>
    cases h' with
    | number hnumber' =>
      obtain ⟨rfl, hsame⟩ := hnumber.append_inj hnumber' (hrest rfl) (hrest' rfl) heq
      exact ⟨rfl, hsame⟩
    | mark | name | string => cases hkind
  | string htext =>
    cases h' with
    | string htext' =>
      simp only [List.cons_append, List.append_assoc, List.cons.injEq, true_and] at heq
      obtain ⟨rfl, hsame⟩ := htext.append_inj htext' heq
      exact ⟨rfl, hsame⟩
    | mark | name | number => cases hkind

theorem Spelled.not_space {token : Token} {text : Text} (h : token.Spelled text) (rest : Text) :
    ∀ c, (text ++ rest).head? = some c → isSpace c = false := by
  obtain ⟨d, others, rfl, hd⟩ := h.head
  rintro c hc
  obtain rfl : d = c := Option.some.inj hc
  rw [← Bool.not_eq_true]
  intro hspace
  have hlt := token.kind_lt
  rw [← hd, kindFrom_of_space hspace] at hlt
  exact absurd hlt (Nat.lt_irrefl 4)

end Token

/-- **A text has one row of tokens.** -/
theorem Lexed.unique {tokens tokens' : List Token} {text : Text} (h : Lexed tokens text)
    (h' : Lexed tokens' text) : tokens = tokens' := by
  induction h generalizing tokens' with
  | @done gap hgap =>
    cases h' with
    | done => rfl
    | token _ htoken' =>
      obtain ⟨c, others, rfl, -⟩ := htoken'.head
      have hspace := hgap c (by simp)
      rw [htoken'.not_space [] c rfl] at hspace
      cases hspace
  | @token token tokens gap text rest hgap htoken hstop _ ih =>
    generalize hwhole : gap ++ text ++ rest = whole at h'
    cases h' with
    | done hgap' =>
      obtain ⟨c, others, rfl, -⟩ := htoken.head
      have hspace := hgap' c (by simp [← hwhole])
      rw [htoken.not_space [] c rfl] at hspace
      cases hspace
    | token hgap' htoken' hstop' hrest' =>
      rw [List.append_assoc, List.append_assoc] at hwhole
      obtain ⟨-, hbody⟩ := append_inj_of_run hgap hgap' (htoken.not_space _)
        (htoken'.not_space _) hwhole
      obtain ⟨rfl, rfl⟩ := htoken.append_inj htoken' hstop hstop' hbody
      rw [ih hrest']

/-! ### Values -/

namespace Value

/-- No value begins with a mark that closes. -/
theorem tokens_append_ne (value : Value) {c : Char} (hc : c = ']' ∨ c = '}')
    (more rest : List Token) : value.tokens ++ more ≠ .mark c :: rest := by
  cases value with
  | null | boolean | number | string => simp [tokens]
  | array | object =>
    rcases hc with rfl | rfl
    · simp [tokens]
    · simp [tokens]

section Row

variable {α : Type} {block : α → List Token}

/-- The tokens of each item, with commas between the items. -/
def row (block : α → List Token) : List α → List Token
  | [] => []
  | [item] => block item
  | item :: next :: rest => block item ++ .mark ',' :: row block (next :: rest)

/-- The tokens behind an item of a row. -/
def behind (block : α → List Token) : List α → List Token
  | [] => []
  | next :: rest => .mark ',' :: row block (next :: rest)

theorem row_cons (item : α) (others : List α) :
    row block (item :: others) = block item ++ behind block others := by
  cases others with
  | nil => exact (List.append_nil _).symm
  | cons next rest => rfl

theorem behind_cons (next : α) (rest : List α) :
    behind block (next :: rest) = .mark ',' :: (block next ++ behind block rest) := by
  rw [behind, row_cons]

/-- The items of a row are determined if each item is, and if the closing mark is told apart
    from an item and from a comma. -/
theorem row_append_inj {close : Char} (hcomma : close ≠ ',') {items items' : List α}
    (hitem : ∀ item ∈ items, ∀ item' rest rest',
      block item ++ rest = block item' ++ rest' → item = item' ∧ rest = rest')
    (hclose : ∀ item more rest, block item ++ more ≠ .mark close :: rest) {rest rest' : List Token}
    (h : row block items ++ .mark close :: rest = row block items' ++ .mark close :: rest') :
    items = items' ∧ rest = rest' := by
  induction items generalizing items' with
  | nil =>
    cases items' with
    | nil => exact ⟨rfl, (List.cons.inj h).2⟩
    | cons item' others' =>
      rw [row_cons, List.append_assoc] at h
      exact absurd h.symm (hclose _ _ _)
  | cons item others ih =>
    cases items' with
    | nil =>
      rw [row_cons, List.append_assoc] at h
      exact absurd h (hclose _ _ _)
    | cons item' others' =>
      rw [row_cons, row_cons, List.append_assoc, List.append_assoc] at h
      obtain ⟨rfl, hbehind⟩ := hitem item List.mem_cons_self item' _ _ h
      cases others with
      | nil =>
        cases others' with
        | nil => exact ⟨rfl, (List.cons.inj hbehind).2⟩
        | cons => exact absurd (Token.mark.inj (List.cons.inj hbehind).1) hcomma
      | cons next rest =>
        cases others' with
        | nil => exact absurd (Token.mark.inj (List.cons.inj hbehind).1).symm hcomma
        | cons =>
          obtain ⟨hothers, hrest⟩ := ih (fun other hother => hitem other
            (List.mem_cons_of_mem item hother)) (List.cons.inj hbehind).2
          exact ⟨congrArg (item :: ·) hothers, hrest⟩

end Row

theorem itemTokens_eq_row (items : List Value) : itemTokens items = row tokens items := by
  induction items with
  | nil => rfl
  | cons item others ih =>
    cases others with
    | nil => rfl
    | cons => rw [itemTokens, row, ih]

/-- The tokens of one member of an object. -/
def memberBlock (member : Text × Value) : List Token :=
  .string member.1 :: .mark ':' :: member.2.tokens

theorem memberTokens_eq_row (members : List (Text × Value)) :
    memberTokens members = row memberBlock members := by
  induction members with
  | nil => rfl
  | cons member others ih =>
    cases others with
    | nil => rfl
    | cons =>
      rw [memberTokens, row, ih]
      rfl

theorem null_ne_truthName : ∀ b, "null".toList ≠ truthName b := by decide

theorem truthName_inj : ∀ b b', truthName b = truthName b' → b = b' := by decide

/-- The value is determined by its tokens, whatever follows them. -/
def Determined (value : Value) : Prop :=
  ∀ value' rest rest', value.tokens ++ rest = value'.tokens ++ rest' →
    value = value' ∧ rest = rest'

theorem Determined.memberBlock {name : Text} {value : Value} (h : value.Determined) :
    ∀ member rest rest', memberBlock (name, value) ++ rest = memberBlock member ++ rest' →
      (name, value) = member ∧ rest = rest' := by
  rintro ⟨name', value'⟩ rest rest' heq
  simp only [Value.memberBlock, List.cons_append, List.cons.injEq, Token.string.injEq,
    true_and] at heq
  obtain ⟨rfl, htokens⟩ := heq
  obtain ⟨rfl, hrest⟩ := h value' rest rest' htokens
  exact ⟨rfl, hrest⟩

mutual

theorem determined : ∀ value : Value, value.Determined
  | null => by
    intro value' rest rest' h
    cases value' with
    | null => exact ⟨rfl, (List.cons.inj h).2⟩
    | boolean b => exact absurd (Token.name.inj (List.cons.inj h).1) (null_ne_truthName b)
    | number | string | array | object => simp [tokens] at h
  | boolean b => by
    intro value' rest rest' h
    cases value' with
    | boolean b' =>
      obtain ⟨hname, hrest⟩ := List.cons.inj h
      obtain rfl := truthName_inj b b' (Token.name.inj hname)
      exact ⟨rfl, hrest⟩
    | null => exact absurd (Token.name.inj (List.cons.inj h).1).symm (null_ne_truthName b)
    | number | string | array | object => simp [tokens] at h
  | number n => by
    intro value' rest rest' h
    cases value' with
    | number n' => simpa [tokens] using h
    | null | boolean | string | array | object => simp [tokens] at h
  | string text => by
    intro value' rest rest' h
    cases value' with
    | string text' => simpa [tokens] using h
    | null | boolean | number | array | object => simp [tokens] at h
  | array items => by
    intro value' rest rest' h
    cases value' with
    | array items' =>
      simp only [tokens, itemTokens_eq_row, List.cons_append, List.append_assoc,
        List.cons.injEq, true_and] at h
      obtain ⟨rfl, hrest⟩ := row_append_inj (by decide) (determined_items items)
        (fun item => item.tokens_append_ne (Or.inl rfl)) h
      exact ⟨rfl, hrest⟩
    | null | boolean | number | string | object => simp [tokens] at h
  | object members => by
    intro value' rest rest' h
    cases value' with
    | object members' =>
      simp only [tokens, memberTokens_eq_row, List.cons_append, List.append_assoc,
        List.cons.injEq, true_and] at h
      obtain ⟨rfl, hrest⟩ := row_append_inj (by decide) (determined_members members)
        (fun member more rest => by simp [memberBlock]) h
      exact ⟨rfl, hrest⟩
    | null | boolean | number | string | array => simp [tokens] at h

theorem determined_items : ∀ items : List Value, ∀ item ∈ items, item.Determined
  | [] => by simp
  | item :: rest => List.forall_mem_cons.2 ⟨determined item, determined_items rest⟩

theorem determined_members : ∀ members : List (Text × Value), ∀ member ∈ members,
    ∀ member' rest rest', memberBlock member ++ rest = memberBlock member' ++ rest' →
      member = member' ∧ rest = rest'
  | [] => by simp
  | (_, value) :: rest =>
    List.forall_mem_cons.2 ⟨(determined value).memberBlock, determined_members rest⟩

end

end Value

/-- **A JSON text says one thing.** -/
theorem Denotes.unique {text : Text} {value value' : Value} (h : Denotes text value)
    (h' : Denotes text value') : value = value' := by
  have htokens := Lexed.unique h h'
  exact (value.determined value' [] [] (congrArg (· ++ []) htokens)).1

end VclReview.Json
