import TextTemplate.Proofs.Template.Reading
import TextTemplate.Proofs.Source.Spelling
/-!
# The grammar of tags

What may stand between the delimiters of a variable or tag is told by a grammar over the texts of
its words:

    expr    := operand ('|' filter)*
    filter  := ('default' | 'add') ':' literal | 'length'
    operand := literal | NAME ('.' field)*
    field   := NAME | DIGITS
    literal := quoted | '-'? DIGITS

and a line for each tag. Blanks between words do not matter.

Main statement: a source that is read consists of such variables and tags (`fits_of_parse`), but
for one slip. A field may also be zero with a minus sign, which the reader takes for a number that
is not negative; such a source is outside the grammar and is read (`fits_documented_fails`).
-/
namespace TextTemplate.Source

open TextTemplate

/-- The text of a literal. -/
inductive LiteralText : List Char → Prop
  | quoted {cs : List Char} {quote : Char} (opens : isQuote quote = true) (free : quote ∉ cs) :
    LiteralText (quote :: (cs ++ [quote]))
  | digits {cs : List Char} (run : IsDigits cs) : LiteralText cs
  | negative {cs : List Char} (run : IsDigits cs) : LiteralText ('-' :: cs)

/-- The text of a field by the grammar: a name or digits. -/
def DocumentedField (cs : List Char) : Prop := IsName cs ∨ IsDigits cs

/-- The text of a field that is read: one of the grammar, or zeros after a minus sign. -/
def AcceptedField (cs : List Char) : Prop :=
  DocumentedField cs ∨ ∃ zeros, cs = '-' :: zeros ∧ zeros ≠ [] ∧ ∀ c ∈ zeros, c = '0'

/-- The texts of a filter. -/
inductive FilterTexts : List (List Char) → Prop
  | argument {name : String} {cs : List Char} (known : name ∈ ["default", "add"])
    (literal : LiteralText cs) : FilterTexts [['|'], name.toList, [':'], cs]
  | length : FilterTexts [['|'], "length".toList]

section Grammar

variable (field : List Char → Prop)

/-- The texts of the fields after the first name of a path. -/
inductive FieldsTexts : List (List Char) → Prop
  | nil : FieldsTexts []
  | cons {cs : List Char} {texts : List (List Char)} (first : field cs)
    (later : FieldsTexts texts) : FieldsTexts (['.'] :: cs :: texts)

/-- The texts of an operand. -/
inductive OperandTexts : List (List Char) → Prop
  | literal {cs : List Char} (literal : LiteralText cs) : OperandTexts [cs]
  | path {cs : List Char} {texts : List (List Char)} (named : IsName cs)
    (later : FieldsTexts field texts) : OperandTexts (cs :: texts)

/-- The texts of an expression. -/
def ExprTexts (texts : List (List Char)) : Prop :=
  ∃ (operand : List (List Char)) (filters : List (List (List Char))),
    OperandTexts field operand ∧ (∀ f ∈ filters, FilterTexts f) ∧
    texts = operand ++ filters.flatten

/-- The texts of a word that may be left out. -/
def optionalText (given : Bool) (word : String) : List (List Char) :=
  if given then [word.toList] else []

/-- The texts of the arguments of a tag of the given name. -/
inductive TagTexts : String → List (List Char) → Prop
  | forEach {var : List Char} {list : List (List Char)} (named : IsName var)
    (inner : ExprTexts field list) (reversed : Bool) :
    TagTexts "for" (var :: "in".toList :: (list ++ optionalText reversed "reversed"))
  | condition {test : List (List Char)} (negated : Bool) (inner : ExprTexts field test) :
    TagTexts "if" (optionalText negated "not" ++ test)
  | block {name : List Char} (named : IsName name) : TagTexts "block" [name]
  | endblock {name : List Char} (named : IsName name) : TagTexts "endblock" [name]
  | inherits {parent : List (List Char)} (inner : ExprTexts field parent) :
    TagTexts "extends" parent
  | includes {template : List (List Char)} (inner : ExprTexts field template) :
    TagTexts "include" template
  | creates {file template : List (List Char)} (first : ExprTexts field file)
    (second : ExprTexts field template) : TagTexts "create" (file ++ "from".toList :: template)
  | plain {name : String} (inner : name ∈ innerTags) : TagTexts name []

/-- Words of a grammar are laid out in a text. -/
def Fits (grammar : List (List Char) → Prop) (cs : List Char) : Prop :=
  ∃ texts, Laid texts cs ∧ grammar texts

/-- A token is of the grammar: the content of a variable, the arguments of a tag. -/
def Token.Fits (token : Token) : Prop :=
  match token.kind with
  | .text => True
  | .variable => Source.Fits (ExprTexts field) token.content
  | .tag => Source.Fits (TagTexts field (Builder.splitTag token.content).1)
      (Builder.splitTag token.content).2

end Grammar

section Words

variable {words : List Lexeme} {texts : List (List Char)}

/-- Words one after the other are written with texts one after the other. -/
theorem texts_of_append {front back : List Lexeme}
    (spelled : List.Forall₂ Lexeme.Spelled (front ++ back) texts) :
    ∃ first second, texts = first ++ second ∧ List.Forall₂ Lexeme.Spelled front first ∧
      List.Forall₂ Lexeme.Spelled back second := by
  induction front generalizing texts with
  | nil => exact ⟨[], texts, rfl, .nil, spelled⟩
  | cons word front ih =>
    cases spelled with
    | cons here later =>
      obtain ⟨first, second, rfl, inFront, inBack⟩ := ih later
      exact ⟨_ :: first, second, rfl, .cons here inFront, inBack⟩

/-- A name is spelled by its characters. -/
theorem eq_of_spelled_name {name : String} {cs : List Char}
    (spelled : Lexeme.Spelled (.name name) cs) : cs = name.toList ∧ IsName cs := by
  cases spelled with
  | name named => exact ⟨String.toList_ofList.symm, named⟩

/-- The word of a literal is spelled as a literal. -/
theorem literalText_of_spelled {l : Literal} {cs : List Char}
    (spelled : (literalWord l).Spelled cs) : LiteralText cs := by
  cases l with
  | text s =>
    cases spelled with
    | quoted opens free => exact .quoted opens free
  | whole n =>
    cases spelled with
    | digits run => exact .digits run
    | negative run => exact .negative run

/-- Digits whose number is zero are zeros. -/
theorem zeros_of_ofDigitChars {cs : List Char} (digits : ∀ c ∈ cs, c.isDigit = true) {start : Nat}
    (zero : Nat.ofDigitChars 10 cs start = 0) : start = 0 ∧ ∀ c ∈ cs, c = '0' := by
  induction cs generalizing start with
  | nil => exact ⟨zero, nofun⟩
  | cons c cs ih =>
    have range := toNat_of_isDigit (digits c List.mem_cons_self)
    rw [Nat.ofDigitChars_cons] at zero
    obtain ⟨here, later⟩ := ih (fun d member => digits d (List.mem_cons_of_mem _ member)) zero
    change 10 * start + (c.toNat - 48) = 0 at here
    have code : c.toNat = '0'.toNat := by
      change c.toNat = 48
      omega
    have same : c = '0' := Char.toNat_inj.mp code
    refine ⟨by omega, ?_⟩
    rintro d (_ | ⟨_, member⟩)
    · exact same
    · exact later d member

/-- The word of a field is spelled as an accepted field. -/
theorem acceptedField_of_spelled {name : String} {word : Lexeme} {cs : List Char}
    (field : FieldWord name word) (spelled : word.Spelled cs) : AcceptedField cs := by
  cases field with
  | name s => exact .inl (.inl (eq_of_spelled_name spelled).2)
  | position natural =>
    cases spelled with
    | digits run => exact .inl (.inr run)
    | negative run value =>
      rename_i zeros
      have zero : Nat.ofDigitChars 10 zeros 0 = 0 := by omega
      exact .inr ⟨zeros, rfl, run.nonempty, (zeros_of_ofDigitChars run.digits zero).2⟩

/-- The words of fields are spelled as fields. -/
theorem fieldsTexts_of_spelled {fields : List String} (written : FieldsWords fields words)
    (spelled : List.Forall₂ Lexeme.Spelled words texts) : FieldsTexts AcceptedField texts := by
  induction written generalizing texts with
  | nil =>
    cases spelled
    exact .nil
  | cons first later ih =>
    obtain _ | ⟨joint, rest⟩ := spelled
    obtain _ | ⟨field, rest⟩ := rest
    cases joint
    exact .cons (acceptedField_of_spelled first field) (ih rest)

/-- The words of an operand are spelled as an operand. -/
theorem operandTexts_of_spelled {operand : Operand} (written : OperandWords operand words)
    (spelled : List.Forall₂ Lexeme.Spelled words texts) : OperandTexts AcceptedField texts := by
  cases written with
  | literal l =>
    obtain _ | ⟨here, rest⟩ := spelled
    cases rest
    exact .literal (literalText_of_spelled here)
  | path later =>
    obtain _ | ⟨here, rest⟩ := spelled
    exact .path (eq_of_spelled_name here).2 (fieldsTexts_of_spelled later rest)

/-- The words of a filter are spelled as a filter. -/
theorem filterTexts_of_spelled {f : Filter}
    (spelled : List.Forall₂ Lexeme.Spelled (filterWords f) texts) : FilterTexts texts := by
  have argument : ∀ {name : String} {l : Literal}, name ∈ ["default", "add"] →
      List.Forall₂ Lexeme.Spelled [.bar, .name name, .colon, literalWord l] texts →
      FilterTexts texts := by
    intro name l known spelled
    obtain _ | ⟨joint, rest⟩ := spelled
    obtain _ | ⟨named, rest⟩ := rest
    obtain _ | ⟨divider, rest⟩ := rest
    obtain _ | ⟨here, rest⟩ := rest
    cases rest
    cases joint
    cases divider
    rw [(eq_of_spelled_name named).1]
    exact .argument known (literalText_of_spelled here)
  cases f with
  | default fallback => exact argument (by simp) spelled
  | add term => exact argument (by simp) spelled
  | length =>
    obtain _ | ⟨joint, rest⟩ := spelled
    obtain _ | ⟨named, rest⟩ := rest
    cases rest
    cases joint
    rw [(eq_of_spelled_name named).1]
    exact .length

/-- The words of filters are spelled as filters one after the other. -/
theorem filtersTexts_of_spelled (filters : List Filter)
    (spelled : List.Forall₂ Lexeme.Spelled (filters.flatMap filterWords) texts) :
    ∃ parts : List (List (List Char)), texts = parts.flatten ∧
      ∀ part ∈ parts, FilterTexts part := by
  induction filters generalizing texts with
  | nil =>
    cases spelled
    exact ⟨[], rfl, nofun⟩
  | cons f later ih =>
    obtain ⟨first, second, rfl, here, rest⟩ := texts_of_append spelled
    obtain ⟨parts, rfl, inner⟩ := ih rest
    refine ⟨first :: parts, rfl, ?_⟩
    rintro part (_ | ⟨_, member⟩)
    · exact filterTexts_of_spelled here
    · exact inner part member

/-- The words of an expression are spelled as an expression. -/
theorem exprTexts_of_spelled {e : Expr} (written : ExprWords e words)
    (spelled : List.Forall₂ Lexeme.Spelled words texts) : ExprTexts AcceptedField texts := by
  obtain ⟨front, operand, rfl⟩ := written
  obtain ⟨first, second, rfl, here, rest⟩ := texts_of_append spelled
  obtain ⟨parts, rfl, filters⟩ := filtersTexts_of_spelled e.filters rest
  exact ⟨first, parts, operandTexts_of_spelled operand here, filters, rfl⟩

/-- A word that may be left out is spelled by its characters or left out. -/
theorem optionalText_of_spelled {given : Bool} {word : String}
    (spelled : List.Forall₂ Lexeme.Spelled (optionalWord given word) texts) :
    texts = optionalText given word := by
  cases given with
  | false =>
    cases spelled
    rfl
  | true =>
    obtain _ | ⟨here, rest⟩ := spelled
    cases rest
    rw [(eq_of_spelled_name here).1]
    rfl

/-- The arguments of a tag that opens a construct are of the grammar of that tag. -/
theorem tagTexts_of_opening {opening : Opening} (written : OpeningWords opening words)
    (spelled : List.Forall₂ Lexeme.Spelled words texts) :
    TagTexts AcceptedField opening.tag texts := by
  cases written with
  | forEach var reversed inner =>
    obtain _ | ⟨named, rest⟩ := spelled
    obtain _ | ⟨keyword, rest⟩ := rest
    obtain ⟨first, second, rfl, here, rest⟩ := texts_of_append rest
    rw [(eq_of_spelled_name keyword).1, optionalText_of_spelled rest]
    exact .forEach (eq_of_spelled_name named).2 (exprTexts_of_spelled inner here) reversed
  | condition negated inner =>
    obtain ⟨first, second, rfl, here, rest⟩ := texts_of_append spelled
    rw [optionalText_of_spelled here]
    exact .condition negated (exprTexts_of_spelled inner rest)
  | block name =>
    obtain _ | ⟨named, rest⟩ := spelled
    cases rest
    exact .block (eq_of_spelled_name named).2

end Words

section Tokens

variable {b built : Builder}

/-- Where words are read from a text, texts of a grammar fit in it if they are the words'. -/
theorem fits_of_lexemes {grammar : List (List Char) → Prop} {cs : List Char}
    {words : List Lexeme} (read : lexemes cs = .ok words)
    (inner : ∀ texts, List.Forall₂ Lexeme.Spelled words texts → grammar texts) :
    Fits grammar cs := by
  obtain ⟨texts, spelled, laid⟩ := lexemes_eq_ok_iff.mp read
  exact ⟨texts, laid, inner texts spelled⟩

/-- A tag without arguments that divides or closes a construct is of the grammar. -/
theorem fits_plain {name : String} {args : List Char} (inner : name ∈ innerTags)
    (none : args.isEmpty = true) : Fits (TagTexts AcceptedField name) args := by
  rw [List.isEmpty_iff.mp none]
  exact ⟨[], .nil nofun, .plain inner⟩

/-- A variable that is taken is of the grammar of expressions. -/
theorem fits_of_takes_variable {line : Nat} {content : List Char}
    (takes : b.Takes line (.variable (.of content)) built) :
    Fits (ExprTexts AcceptedField) content := by
  cases takes with
  | «variable» filled laid written =>
    exact fits_of_lexemes laid fun texts => exprTexts_of_spelled written

/-- A tag that is taken is of the grammar of its name. -/
theorem fits_of_takes_tag {line : Nat} {name : String} {args : List Char}
    (takes : b.Takes line (.tag name (.of args)) built) :
    Fits (TagTexts AcceptedField name) args := by
  cases takes with
  | inherits laid written fresh outermost =>
    exact fits_of_lexemes laid fun texts spelled => .inherits (exprTexts_of_spelled written spelled)
  | includes laid written =>
    exact fits_of_lexemes laid fun texts spelled => .includes (exprTexts_of_spelled written spelled)
  | creates laid first second =>
    refine fits_of_lexemes laid fun texts spelled => ?_
    obtain ⟨before, after, rfl, here, later⟩ := texts_of_append spelled
    obtain _ | ⟨keyword, rest⟩ := later
    rw [(eq_of_spelled_name keyword).1]
    exact .creates (exprTexts_of_spelled first here) (exprTexts_of_spelled second rest)
  | opened laid written room =>
    exact fits_of_lexemes laid fun texts => tagTexts_of_opening written
  | divided innermost whole divides bare => exact fits_plain (Opening.divider_mem divides).1 bare
  | closed innermost unnamed bare => exact fits_plain (Opening.closer_mem _) bare
  | closedBlock innermost named ends new =>
    rcases ends with bare | laid
    · exact fits_plain (by decide) bare
    · refine fits_of_lexemes laid fun texts spelled => ?_
      obtain _ | ⟨named, rest⟩ := spelled
      cases rest
      exact .endblock (eq_of_spelled_name named).2

/-- A token that is added to a builder is of the grammar. -/
theorem fits_of_add {token : Token} (added : b.add token = .ok built) :
    token.Fits AcceptedField := by
  obtain ⟨kind, content, line⟩ := token
  have takes := Builder.takes_of_add added
  cases kind with
  | text => trivial
  | «variable» => exact fits_of_takes_variable takes
  | tag => exact fits_of_takes_tag takes

/-- Tokens that are added to a builder are of the grammar. -/
theorem fits_of_addAll {tokens : List Token} (succeeded : b.addAll tokens = .ok built) :
    ∀ token ∈ tokens, token.Fits AcceptedField := by
  induction tokens generalizing b with
  | nil => exact nofun
  | cons token tokens ih =>
    obtain ⟨next, first, rest⟩ := Builder.ok_of_bind succeeded
    rintro other (_ | ⟨_, member⟩)
    · exact fits_of_add first
    · exact ih rest other member

/-- What stands in the variables and tags of a source that is read is of the grammar in which a
field may also be zero with a minus sign. -/
theorem fits_of_parse (name : String) (source : List Char) (t : Template)
    (read : parse name source = .ok t) :
    ∃ tokens, tokenize source = .ok tokens ∧ ∀ token ∈ tokens, token.Fits AcceptedField := by
  obtain ⟨tokens, cut, rest⟩ := Builder.ok_of_bind read
  obtain ⟨built, added, _⟩ := Builder.ok_of_bind rest
  exact ⟨tokens, cut, fits_of_addAll added⟩

/-- So it is with a loop over an item of a list, with a filter in its body. -/
theorem fits_of_parse_loop : ∃ tokens, tokenize (tag "for x in xs.0 reversed" ++
      "\x7b\x7b x|add:'-' \x7d\x7d" ++ tag "endfor").toList = .ok tokens ∧
    ∀ token ∈ tokens, token.Fits AcceptedField :=
  fits_of_parse "loop" _
    ⟨"loop", [.forEach "x" ⟨.path "xs" ["0"], []⟩ true
      [.variable ⟨.path "x" [], [.add (.text "-")]⟩] []], ∅⟩
    (by with_unfolding_all rfl)

end Tokens

/-- Where no blank is, the texts are one after the other all there is. -/
theorem Laid.flatten_eq {texts : List (List Char)} {cs : List Char} (laid : Laid texts cs)
    (dense : ∀ c ∈ cs, Text.isBlank c = false) : texts.flatten = cs := by
  have empty : ∀ {gap : List Char}, (∀ c ∈ gap, Text.isBlank c = true) →
      (∀ c ∈ gap, Text.isBlank c = false) → gap = [] := by
    intro gap blank dense
    cases gap with
    | nil => rfl
    | cons c gap =>
      have here := blank c List.mem_cons_self
      rw [dense c List.mem_cons_self] at here
      cases here
  induction laid with
  | nil blank => rw [empty blank dense, List.flatten_nil]
  | cons blank apart later ih =>
    have first := empty blank fun c member => dense c (List.mem_append_left _ member)
    have rest := ih fun c member => dense c
      (List.mem_append_right _ (List.mem_append_right _ member))
    rw [first, List.flatten_cons, rest, List.nil_append]

/-- A field of the grammar begins with no minus sign. -/
theorem not_documentedField_minus (cs : List Char) : ¬ DocumentedField ('-' :: cs) := by
  rintro (named | run)
  · cases named with
    | intro start => exact absurd start (by decide +kernel)
  · exact absurd (run.digits '-' List.mem_cons_self) (by decide)

/-- A documented field has a character at least. -/
theorem DocumentedField.nonempty {cs : List Char} (field : DocumentedField cs) : cs ≠ [] := by
  rcases field with named | run
  · cases named
    exact nofun
  · exact run.nonempty

/-- Fields of the grammar and filters after them are not written as a minus sign after a dot. -/
theorem not_fieldsTexts_minus {texts : List (List Char)} {filters : List (List (List Char))}
    (written : FieldsTexts DocumentedField texts) (inner : ∀ f ∈ filters, FilterTexts f)
    (cs : List Char) : texts.flatten ++ filters.flatten.flatten ≠ '.' :: '-' :: cs := by
  intro whole
  cases written with
  | nil =>
    cases filters with
    | nil => cases whole
    | cons f later => rcases inner f List.mem_cons_self with _ | _ <;> cases whole
  | @cons field _ first later =>
    cases field with
    | nil => exact first.nonempty rfl
    | cons c field =>
      have second : c = '-' := (List.cons.inj (List.cons.inj whole).2).1
      rw [second] at first
      exact not_documentedField_minus field first

/-- A path of the grammar does not go on with a minus sign. -/
theorem not_fits_minus : ¬ Fits (ExprTexts DocumentedField) ['a', '.', '-', '0'] := by
  rintro ⟨texts, laid, operand, filters, written, inner, rfl⟩
  have whole := laid.flatten_eq (eq_false_of_any (by decide +kernel))
  rw [List.flatten_append] at whole
  cases written with
  | literal literal =>
    cases literal with
    | quoted opens =>
      rw [(List.cons.inj whole).1] at opens
      exact absurd opens (by decide)
    | digits run =>
      rename_i digits
      cases digits with
      | nil => exact run.nonempty rfl
      | cons c cs =>
        have digit := run.digits c List.mem_cons_self
        rw [(List.cons.inj whole).1] at digit
        exact absurd digit (by decide)
    | negative => exact absurd (List.cons.inj whole).1 (by decide)
  | path named later =>
    obtain ⟨start, parts⟩ := named
    rename_i c rest
    have tail := (List.cons.inj whole).2
    cases rest with
    | nil => exact not_fieldsTexts_minus later inner ['0'] tail
    | cons d rest =>
      have part := parts d List.mem_cons_self
      rw [(List.cons.inj tail).1] at part
      exact absurd part (by decide +kernel)

/-- A source in which a field is zero with a minus sign is read, and it is outside the grammar. -/
theorem fits_documented_fails :
    (∃ t, parse "t" "\x7b\x7b a.-0 \x7d\x7d".toList = .ok t) ∧
      ∃ tokens, tokenize "\x7b\x7b a.-0 \x7d\x7d".toList = .ok tokens ∧
        ∃ token ∈ tokens, ¬ token.Fits DocumentedField := by
  refine ⟨⟨⟨"t", [.variable ⟨.path "a" ["0"], []⟩], ∅⟩, by with_unfolding_all rfl⟩,
    [⟨.variable, ['a', '.', '-', '0'], 1⟩], by with_unfolding_all rfl, _, List.mem_cons_self, ?_⟩
  exact not_fits_minus

end TextTemplate.Source
