/-
  VclReview/Proofs/Writing.lean
  =============================
  **What is written is read back.**  A statement of the language that carries values is
  written as a line in one way, but for the white space between the words of a block head.
  Whatever the values are, as long as they hold none of the characters that end them, and
  however the line is indented, the shape of the statement reads them back from it
  (`Statement.extract_line`).  So does the annotation of the line, unless a shape that is
  tried earlier takes it (`annotate_written_line`).
-/
import VclReview.Directive.Catalogue
import VclReview.Proofs.Fields
import VclReview.Proofs.Language
import VclReview.Proofs.Recognition

namespace VclReview

namespace Text

/-! ### Values between fixed words -/

theorem contains_append (before mark after : Text) :
    contains mark (before ++ mark ++ after) = true :=
  contains_iff.2 ⟨before, after, rfl⟩

theorem filter_ne_of_not_mem {c : Char} {text : Text} (h : c ∉ text) :
    text.filter (· != c) = text := by
  rw [List.filter_eq_self]
  intro d hd
  rw [bne_iff_ne]
  rintro rfl
  exact h hd

theorem dropSemicolons_append {text : Text} (h : ';' ∉ text) :
    dropSemicolons (text ++ [';']) = text := by
  rw [dropSemicolons, List.filter_append, filter_ne_of_not_mem h]
  simp

/-- What stands between the first assignment sign and the semicolon at the end. -/
theorem assignedValue_append {before target value : Text} (hbefore : '=' ∉ before)
    (htarget : GapFree target) (hne : target ≠ []) (hhead : target.head? ≠ some '=')
    (hvalue : ';' ∉ value) (hsign : contains " = " value = false) :
    assignedValue (before ++ target ++ " = " ++ value ++ [';']) = value := by
  have hmark : (" = " : Text) = [' ', '=', ' '] := rfl
  have hfirst : cut? " = " (before ++ (target ++ (" = " ++ (value ++ [';'])))) =
      some (before ++ target, value ++ [';']) := by
    have hnext : (target ++ (" = " ++ (value ++ [';']))).head? ≠ some '=' := by
      rwa [List.head?_append_of_ne_nil _ hne]
    have hspace : ' ' ∉ target := fun hmem => by cases htarget ' ' hmem
    rw [cut?_append_of_second_not_mem hmark hbefore hnext, cut?_append_of_not_mem hmark hspace,
      cut?_append]
    simp
  have hrest : cut? " = " (value ++ [';']) = none := by
    apply cut?_eq_none_iff.2
    intro front back heq
    rcases List.eq_nil_or_concat back with rfl | ⟨back, c, rfl⟩
    · rw [hmark, List.append_nil] at heq
      have hlast : ';' = ' ' := by simpa using congrArg List.getLast? heq
      cases hlast
    · have hinside : value = front ++ " = " ++ back := by
        rw [List.concat_eq_append, ← List.append_assoc] at heq
        exact (List.append_inj' heq rfl).1
      rw [hinside, contains_append] at hsign
      cases hsign
  simp only [assignedValue, List.append_assoc]
  rw [splitOn_of_cut?_eq_some (by simp) hfirst, splitOn_of_cut?_eq_none hrest]
  exact dropSemicolons_append hvalue

/-- What stands between the first call and the comma or the parenthesis that ends it. -/
theorem synthCode_append {before code : Text} (hbefore : 's' ∉ before)
    (hcode : ∀ c ∈ code, c ≠ ',' ∧ c ≠ ')') (htrim : trim code = code) {c : Char}
    (hc : c = ',' ∨ c = ')') (after : Text) :
    synthCode (before ++ "synth(" ++ code ++ c :: after) = code := by
  have hmark : ("synth(" : Text) = 's' :: "ynth(".toList := rfl
  have hcut : cut? "synth(" (before ++ ("synth(" ++ (code ++ c :: after))) =
      some (before, code ++ c :: after) := by
    rw [cut?_append_of_not_mem hmark hbefore, cut?_append]
    simp
  have hstop : (code ++ c :: after).takeWhile (fun d => d != ',' && d != ')') = code := by
    have hinside : ∀ d ∈ code, (d != ',' && d != ')') = true := by
      intro d hd
      simpa using hcode d hd
    have hend : ∀ d, (c :: after).head? = some d → (d != ',' && d != ')') = false := by
      rintro d hd
      cases hd
      rcases hc with rfl | rfl <;> rfl
    exact takeWhile_append_of_head? hinside hend
  simp only [synthCode, List.append_assoc, hcut, hstop, htrim]

end Text

/-! ### Statements -/

/-- A statement that carries values, and for the head of a block the white space around its
    name. -/
inductive Statement where
  | backend (before name after : Text)
  | acl (before name after : Text)
  | subroutine (before name after : Text)
  | host (name : Text)
  | inclusion (file : Text)
  | quotedPort (number : Text)
  | plainPort (number : Text)
  | synth (code : Text)
  | synthWith (code reason : Text)
  | requestHeader (header value : Text)
  | ttl (value : Text)
  | grace (value : Text)

namespace Statement

open Text

def blockHead (word before name after : Text) : Text :=
  word ++ before ++ name ++ after ++ ['{']

def quotation (value : Text) : Text := ['"'] ++ value ++ ['"']

def assignment (target value : Text) : Text := "set " ++ target ++ " = " ++ value ++ [';']

/-- The statement as it is written, without indentation. -/
def line : Statement → Text
  | backend before name after => blockHead "backend" before name after
  | acl before name after => blockHead "acl" before name after
  | subroutine before name after => blockHead "sub" before name after
  | host name => ".host = " ++ quotation name ++ [';']
  | inclusion file => "include " ++ quotation file ++ [';']
  | quotedPort number => ".port = " ++ quotation number ++ [';']
  | plainPort number => ".port = " ++ number ++ [';']
  | synth code => "return (synth(" ++ code ++ "));"
  | synthWith code reason => "return (synth(" ++ (code ++ ", " ++ reason) ++ "));"
  | requestHeader header value => assignment ("req.http." ++ header) value
  | ttl value => assignment "beresp.ttl" value
  | grace value => assignment "beresp.grace" value

def shape : Statement → Shape
  | backend _ _ _ => Shape.backend
  | acl _ _ _ => Shape.acl
  | subroutine _ _ _ => Shape.subroutine
  | host _ => Shape.host
  | inclusion _ => Shape.inclusion
  | quotedPort _ | plainPort _ => Shape.port
  | synth _ | synthWith _ _ => Shape.synth
  | requestHeader _ _ => Shape.requestHeader
  | ttl _ => Shape.ttl
  | grace _ => Shape.grace

def values : Statement → Values
  | backend _ name _ | acl _ name _ | subroutine _ name _ => [("name", name)]
  | host name => [("host", name)]
  | inclusion file => [("filename", file)]
  | quotedPort number | plainPort number => [("port", number)]
  | synth code | synthWith code _ => [("code", code)]
  | requestHeader header value => [("header", header), ("value", value)]
  | ttl value => [("ttl", value)]
  | grace value => [("grace", value)]

/-- The name of a block is a word, and white space keeps it apart. -/
def ProperHead (before name after : Text) : Prop :=
  (before ≠ [] ∧ Gap before) ∧ (name ≠ [] ∧ GapFree name) ∧ after ≠ [] ∧ Gap after

def ProperPort (number : Text) : Prop := GapFree number ∧ ';' ∉ number ∧ '"' ∉ number

def ProperCode (code : Text) : Prop := (∀ c ∈ code, c ≠ ',' ∧ c ≠ ')') ∧ trim code = code

/-- A value that can be assigned: neither the end of a statement nor another assignment
    sign is part of it. -/
def Assignable (value : Text) : Prop := ';' ∉ value ∧ contains " = " value = false

/-- The values hold nothing that would end them where they are written. -/
def Admissible : Statement → Prop
  | backend before name after | acl before name after | subroutine before name after =>
    ProperHead before name after
  | host value | inclusion value => '"' ∉ value
  | quotedPort number | plainPort number => ProperPort number
  | synth code | synthWith code _ => ProperCode code
  | requestHeader header value => GapFree header ∧ Assignable value
  | ttl value | grace value => Assignable value

variable {indent : Text}

/-! ### Writing and reading one statement -/

theorem column_blockHead (hindent : Gap indent) (word : Text) {before name after : Text}
    (hword : word ≠ [] ∧ GapFree word) (h : ProperHead before name after) :
    column (indent ++ blockHead word before name after) 2 = name := by
  obtain ⟨⟨hbeforene, hbefore⟩, ⟨hnamene, hname⟩, hafterne, hafter⟩ := h
  have hcolumns : columns (indent ++ blockHead word before name after) =
      word :: name :: columns ['{'] := by
    rw [columns_gap_append hindent, blockHead, List.append_assoc _ name,
      List.append_assoc _ _ ['{'],
      columns_word_append hword.1 hword.2 hbeforene hbefore,
      columns_word_append hnamene hname hafterne hafter]
  rw [column, hcolumns]
  rfl

theorem column_port (hindent : Gap indent) {written : Text} (hwritten : GapFree written) :
    column (indent ++ (".port = " ++ written ++ [';'])) 3 = written ++ [';'] := by
  have hline : ".port = " ++ written ++ [';'] =
      ".port" ++ [' '] ++ ("=" ++ [' '] ++ (written ++ [';'])) := by
    simp only [List.append_assoc]
    rfl
  have hblank : Gap [' '] := by decide
  have hport : GapFree ".port" := by decide
  have hequals : GapFree "=" := by decide
  have hlast : GapFree (written ++ [';']) := hwritten.append (by decide)
  have hcolumns : columns (indent ++ (".port = " ++ written ++ [';'])) =
      [(".port" : Text), "=", written ++ [';']] := by
    rw [hline, columns_gap_append hindent,
      columns_word_append (by decide) hport (by decide) hblank,
      columns_word_append (by decide) hequals (by decide) hblank,
      columns_of_gapFree (by simp) hlast]
  rw [column, hcolumns]
  rfl

theorem gapFree_quotation {value : Text} (h : GapFree value) : GapFree (quotation value) := by
  have hquote : GapFree ['"'] := by decide
  exact (hquote.append h).append hquote

theorem dropQuotes_quotation {value : Text} (h : '"' ∉ value) :
    dropQuotes (quotation value) = value := by
  rw [dropQuotes, quotation, List.filter_append, List.filter_append, filter_ne_of_not_mem h]
  simp

theorem quotedValue_quotation (hindent : Gap indent) (opening : Text) {value : Text}
    (hopening : '"' ∉ opening) (hvalue : '"' ∉ value) :
    quotedValue (indent ++ (opening ++ quotation value ++ [';'])) = value := by
  have hbefore : '"' ∉ indent ++ opening := by
    intro hmem
    rcases List.mem_append.1 hmem with hmem | hmem
    · cases hindent '"' hmem
    · exact hopening hmem
  have hread := quotedValue_append hbefore hvalue [';']
  simp only [List.append_assoc] at hread
  simp only [quotation, List.append_assoc]
  exact hread

theorem synthCode_call (hindent : Gap indent) {code : Text} (hcode : ProperCode code) {c : Char}
    (hc : c = ',' ∨ c = ')') (after : Text) :
    synthCode (indent ++ ("return (synth(" ++ code ++ c :: after)) = code := by
  have hbefore : 's' ∉ indent ++ "return (" := by
    intro hmem
    rcases List.mem_append.1 hmem with hmem | hmem
    · cases hindent 's' hmem
    · revert hmem
      decide
  have hread := synthCode_append hbefore hcode.1 hcode.2 hc after
  simp only [List.append_assoc] at hread ⊢
  exact hread

theorem assignedValue_assignment (hindent : Gap indent) (target : Text) {value : Text}
    (htarget : GapFree target) (hne : target ≠ []) (hhead : target.head? ≠ some '=')
    (hvalue : Assignable value) : assignedValue (indent ++ assignment target value) = value := by
  have hbefore : '=' ∉ indent ++ "set " := by
    intro hmem
    rcases List.mem_append.1 hmem with hmem | hmem
    · cases hindent '=' hmem
    · revert hmem
      decide
  have hread := assignedValue_append hbefore htarget hne hhead hvalue.1 hvalue.2
  simp only [List.append_assoc] at hread
  change assignedValue (indent ++ ("set " ++ target ++ " = " ++ value ++ [';'])) = value
  simp only [List.append_assoc]
  exact hread

theorem leadingColumn_assignment (hindent : Gap indent) {lead header : Text} (hlead : lead ≠ [])
    (hother : dropLead? lead "set" = none) (hheader : GapFree (lead ++ header)) (value : Text) :
    leadingColumn (indent ++ assignment (lead ++ header) value) lead = header := by
  have hblank : Gap [' '] := by decide
  have hset : GapFree "set" := by decide
  have hne : lead ++ header ≠ [] := List.append_ne_nil_of_left_ne_nil hlead header
  have hline : assignment (lead ++ header) value =
      "set" ++ [' '] ++ (lead ++ header ++ [' '] ++ ("= " ++ value ++ [';'])) := by
    change "set " ++ (lead ++ header) ++ " = " ++ value ++ [';'] = _
    simp only [List.append_assoc]
    rfl
  have hcolumns : columns (indent ++ assignment (lead ++ header) value) =
      ("set" : Text) :: (lead ++ header) :: columns ("= " ++ value ++ [';']) := by
    rw [columns_gap_append hindent, hline, columns_word_append (by decide) hset (by decide) hblank,
      columns_word_append hne hheader (by decide) hblank]
  rw [leadingColumn, hcolumns, List.findSome?_cons, hother, List.findSome?_cons, dropLead?_append]
  rfl

/-! ### The shape of a statement and its line -/

theorem takes_opening {shape : Shape} {mark : Text} (opening : Text)
    (htest : shape.test = some fun text => contains mark text)
    (hmark : contains mark opening = true) (indent middle ending : Text) :
    shape.Takes (indent ++ (opening ++ middle ++ ending)) := by
  obtain ⟨front, back, rfl⟩ := contains_iff.1 hmark
  have hline : contains mark (indent ++ (front ++ mark ++ back ++ middle ++ ending)) = true :=
    contains_iff.2 ⟨indent ++ front, back ++ middle ++ ending, by simp only [List.append_assoc]⟩
  exact ⟨_, htest, hline⟩

theorem takes_between {shape : Shape} {mark ending : Text}
    (htest : shape.test = some fun text => containsBefore text mark ending)
    (indent middle : Text) : shape.Takes (indent ++ (mark ++ middle ++ ending)) := by
  have hline : containsBefore (indent ++ (mark ++ middle ++ ending)) mark ending = true :=
    containsBefore_iff.2 ⟨indent, middle, by simp only [List.append_assoc]⟩
  exact ⟨_, htest, hline⟩

theorem takes_blockHead {shape : Shape} {word : Text}
    (htest : shape.test = some fun text => containsBefore text word ['{'])
    (indent before name after : Text) :
    shape.Takes (indent ++ blockHead word before name after) := by
  have htakes := takes_between htest indent (before ++ name ++ after)
  simp only [← List.append_assoc] at htakes
  simpa only [blockHead, ← List.append_assoc] using htakes

theorem inclusion_line (file : Text) :
    (inclusion file).line = "include" ++ ([' '] ++ quotation file) ++ [';'] := by
  change "include " ++ quotation file ++ [';'] = _
  rfl

theorem requestHeader_line (header value : Text) : (requestHeader header value).line =
    "set " ++ "req.http." ++ (header ++ " = " ++ value) ++ [';'] := by
  change "set " ++ ("req.http." ++ header) ++ " = " ++ value ++ [';'] = _
  simp only [List.append_assoc]

/-- The line passes the test of the shape. -/
theorem takes_line (indent : Text) (statement : Statement) :
    statement.shape.Takes (indent ++ statement.line) := by
  cases statement with
  | backend before name after => exact takes_blockHead rfl indent before name after
  | acl before name after => exact takes_blockHead rfl indent before name after
  | subroutine before name after => exact takes_blockHead rfl indent before name after
  | host name => exact takes_opening _ rfl (by decide) indent (quotation name) [';']
  | inclusion file =>
    rw [inclusion_line]
    exact takes_between rfl indent ([' '] ++ quotation file)
  | quotedPort number => exact takes_opening _ rfl (by decide) indent (quotation number) [';']
  | plainPort number => exact takes_opening _ rfl (by decide) indent number [';']
  | synth code => exact takes_opening _ rfl (by decide) indent code "));"
  | synthWith code reason =>
    exact takes_opening _ rfl (by decide) indent (code ++ ", " ++ reason) "));"
  | requestHeader header value =>
    rw [requestHeader_line]
    exact takes_opening _ rfl (by decide) indent (header ++ " = " ++ value) [';']
  | ttl value =>
    exact takes_opening ("set " ++ "beresp.ttl" ++ " = ") rfl (by decide) indent value [';']
  | grace value =>
    exact takes_opening ("set " ++ "beresp.grace" ++ " = ") rfl (by decide) indent value [';']

/-- **The shape reads from the line what the statement was written with.** -/
theorem extract_line (hindent : Gap indent) {statement : Statement} (h : statement.Admissible) :
    statement.shape.extract (indent ++ statement.line) = statement.values := by
  cases statement with
  | backend before name after =>
    have hname := column_blockHead hindent "backend" (by decide) h
    exact congrArg (fun name => [(("name" : Text), name)]) hname
  | acl before name after =>
    have hname := column_blockHead hindent "acl" (by decide) h
    exact congrArg (fun name => [(("name" : Text), name)]) hname
  | subroutine before name after =>
    have hname := column_blockHead hindent "sub" (by decide) h
    exact congrArg (fun name => [(("name" : Text), name)]) hname
  | host name =>
    have hname := quotedValue_quotation hindent ".host = " (by decide) h
    exact congrArg (fun name => [(("host" : Text), name)]) hname
  | inclusion file =>
    have hfile := quotedValue_quotation hindent "include " (by decide) h
    exact congrArg (fun file => [(("filename" : Text), file)]) hfile
  | quotedPort number =>
    obtain ⟨hgap, hsemicolon, hquote⟩ := h
    have hinside : ';' ∉ quotation number := by simpa [quotation] using hsemicolon
    have hnumber : dropQuotes (dropSemicolons (quotation number ++ [';'])) = number := by
      rw [dropSemicolons_append hinside, dropQuotes_quotation hquote]
    rw [← column_port hindent (gapFree_quotation hgap)] at hnumber
    exact congrArg (fun number => [(("port" : Text), number)]) hnumber
  | plainPort number =>
    obtain ⟨hgap, hsemicolon, hquote⟩ := h
    have hnumber : dropQuotes (dropSemicolons (number ++ [';'])) = number := by
      rw [dropSemicolons_append hsemicolon, dropQuotes, filter_ne_of_not_mem hquote]
    rw [← column_port hindent hgap] at hnumber
    exact congrArg (fun number => [(("port" : Text), number)]) hnumber
  | synth code =>
    have hcode := synthCode_call hindent h (Or.inr rfl) ");"
    exact congrArg (fun code => [(("code" : Text), code)]) hcode
  | synthWith code reason =>
    have hline : (synthWith code reason).line =
        "return (synth(" ++ code ++ ',' :: (" " ++ reason ++ "));") := by
      change "return (synth(" ++ (code ++ ", " ++ reason) ++ "));" = _
      simp only [List.append_assoc]
      rfl
    have hcode := synthCode_call hindent h (Or.inl rfl) (" " ++ reason ++ "));")
    rw [← hline] at hcode
    exact congrArg (fun code => [(("code" : Text), code)]) hcode
  | requestHeader header value =>
    have hlead : GapFree "req.http." := by decide
    have htarget : GapFree ("req.http." ++ header) := hlead.append h.1
    have hstart : (("req.http." : Text) ++ header).head? = some 'r' := rfl
    have hne : ("req.http." : Text) ++ header ≠ [] :=
      List.append_ne_nil_of_left_ne_nil (by decide) _
    have hheader := leadingColumn_assignment hindent (by decide) (by decide) htarget value
    have hvalue := assignedValue_assignment hindent _ htarget hne (by rw [hstart]; decide) h.2
    exact congrArg₂ (fun header value => [(("header" : Text), header), ("value", value)])
      hheader hvalue
  | ttl value =>
    have hvalue := assignedValue_assignment hindent "beresp.ttl" (by decide)
      (by decide) (by decide) h
    exact congrArg (fun value => [(("ttl" : Text), value)]) hvalue
  | grace value =>
    have hvalue := assignedValue_assignment hindent "beresp.grace" (by decide)
      (by decide) (by decide) h
    exact congrArg (fun value => [(("grace" : Text), value)]) hvalue

theorem shape_mem_builtin (statement : Statement) : statement.shape ∈ Shape.builtin := by
  cases statement <;> simp [shape, Shape.builtin]

end Statement

/-- **A line that an admissible statement is written on, indented in any way, is annotated
    with the directive of the statement and with its values, if no shape of lower rank takes
    the line.** -/
theorem annotate_written_line {statement : Statement} (h : statement.Admissible) {indent : Text}
    (hindent : Text.Gap indent)
    (hearlier : ∀ earlier ∈ Shape.builtin, earlier.Precedes statement.shape →
      ¬ earlier.Takes (indent ++ statement.line)) (lineNumber : Int) (location : Text) :
    ∃ shapes a, Catalogue.builtin.discover = .ok shapes ∧
      annotate shapes (indent ++ statement.line) lineNumber location = .ok a ∧
      a.directive = statement.shape.name ∧ a.values = statement.values := by
  have hmem := statement.shape_mem_builtin
  have hfirst := firstMatch_eq_some_of_takes hmem (statement.takes_line indent) hearlier
  have hdescribed := Shape.describe_eq_ok (Shape.supplies_builtin statement.shape hmem)
    (indent ++ statement.line)
  have hvalues := Statement.extract_line hindent h
  rw [hvalues] at hdescribed
  refine ⟨Shape.builtin, ⟨lineNumber, indent ++ statement.line, statement.shape.name,
    statement.shape.said (indent ++ statement.line), statement.values, location⟩,
    discover_builtin, ?_, rfl, rfl⟩
  simp only [annotate, hfirst, hvalues, hdescribed]

theorem annotate_written_line_indented_by_tab :
    ∃ shapes a, Catalogue.builtin.discover = .ok shapes ∧
      annotate shapes "\tset req.http.Host = \"a=b\";" 3 "main.vcl" = .ok a ∧
      a.directive = "req_header" ∧
      a.values = [(("header" : Text), ("Host" : Text)), ("value", "\"a=b\"")] := by
  have hadmissible : (Statement.requestHeader "Host" "\"a=b\"").Admissible := by
    refine ⟨?_, ?_, ?_⟩ <;> decide
  have htab : Text.Gap ['\t'] := by decide
  have hranks : ∀ s ∈ Shape.builtin, s.accepts "\tset req.http.Host = \"a=b\";" = true →
      s.rank = some 90 := by
    decide
  apply annotate_written_line hadmissible htab
  rintro s hs ⟨low, high, hlow, hhigh, hlt⟩ htakes
  have hrank := hranks s hs (Shape.accepts_iff.2 htakes)
  cases hlow.symm.trans hrank
  cases hhigh
  omega

end VclReview
