import TextTemplate.Template.Builder
/-!
# The words of expressions and of the arguments of tags

An expression is a certain sequence of words (`ExprWords`), and so are the arguments of a tag that
takes some. The readers of a template accept these sequences and no others: each is characterised
here by the words that it reads.

An expression is read from the front of more words. What it reads are words of the expression
(`words_of_readExpr`); and words of an expression are read if none follows that would go on with
it (`readExpr_words`).
-/
namespace TextTemplate.Source

open TextTemplate

namespace Builder

variable {α β ε : Type}

/-- If a sequence succeeds so do both parts. -/
theorem ok_of_bind {x : Except ε α} {f : α → Except ε β} {result : β}
    (succeeded : x >>= f = .ok result) : ∃ v, x = .ok v ∧ f v = .ok result := by
  cases x with
  | error cause => cases succeeded
  | ok v => exact ⟨v, rfl, succeeded⟩

/-- What succeeds with a line for its faults succeeds. -/
theorem ok_of_atLine {line : Nat} {x : Except Fault α} {v : α}
    (succeeded : atLine line x = .ok v) : x = .ok v := by
  cases x with
  | error fault => cases succeeded
  | ok w =>
    cases succeeded
    rfl

end Builder

/-- The word that a literal is. -/
def literalWord : Literal → Lexeme
  | .text s => .quoted s
  | .whole n => .whole n

/-- The word that a field of a path is: a name, or a position in a list. -/
inductive FieldWord : String → Lexeme → Prop
  | name (s : String) : FieldWord s (.name s)
  | position {n : Int64} (natural : 0 ≤ n.toInt) : FieldWord (Text.writeWhole n) (.whole n)

/-- The words of the fields after the first name of a path. -/
inductive FieldsWords : List String → List Lexeme → Prop
  | nil : FieldsWords [] []
  | cons {field : String} {word : Lexeme} {fields : List String} {words : List Lexeme}
    (first : FieldWord field word) (later : FieldsWords fields words) :
    FieldsWords (field :: fields) (.dot :: word :: words)

/-- The words of an operand. -/
inductive OperandWords : Operand → List Lexeme → Prop
  | literal (l : Literal) : OperandWords (.literal l) [literalWord l]
  | path {name : String} {fields : List String} {words : List Lexeme}
    (later : FieldsWords fields words) : OperandWords (.path name fields) (.name name :: words)

/-- The words of a filter. -/
def filterWords : Filter → List Lexeme
  | .default fallback => [.bar, .name "default", .colon, literalWord fallback]
  | .length => [.bar, .name "length"]
  | .add term => [.bar, .name "add", .colon, literalWord term]

/-- The words of an expression. -/
def ExprWords (e : Expr) (words : List Lexeme) : Prop :=
  ∃ front, OperandWords e.operand front ∧ words = front ++ e.filters.flatMap filterWords

/-- The words of a word that may be left out. -/
def optionalWord (given : Bool) (word : String) : List Lexeme :=
  if given then [.name word] else []

/-- The words of the arguments of a tag that opens a construct. -/
inductive OpeningWords : Opening → List Lexeme → Prop
  | forEach {list : Expr} {words : List Lexeme} (var : String) (reversed : Bool)
    (inner : ExprWords list words) :
    OpeningWords (.forEach var list reversed)
      (.name var :: .name "in" :: (words ++ optionalWord reversed "reversed"))
  | condition {test : Expr} {words : List Lexeme} (negated : Bool) (inner : ExprWords test words) :
    OpeningWords (.condition test negated) (optionalWord negated "not" ++ words)
  | block (name : String) : OpeningWords (.block name) [.name name]

section Operands

variable {e : Expr} {words rest : List Lexeme}

/-- A word with which an operand begins neither goes on with a path nor with filters. -/
theorem not_joining {word : Lexeme} (begins : beginsOperand word = true) :
    word ≠ .dot ∧ word ≠ .bar ∧ word ≠ .colon := by
  cases word <;> simp_all [beginsOperand]

/-- The words of fields are read if no dot follows. -/
theorem readFields_words {fields : List String} (written : FieldsWords fields words)
    (ends : ∀ word ∈ rest.head?, word ≠ .dot) :
    readFields (words ++ rest) = .ok (fields, rest) := by
  induction written with
  | nil =>
    rw [List.nil_append]
    unfold readFields
    split <;> first | rfl | exact absurd rfl (ends .dot rfl)
  | cons first later ih =>
    cases first with
    | name s =>
      rw [List.cons_append, List.cons_append, readFields, ih]
      rfl
    | position natural =>
      rw [List.cons_append, List.cons_append, readFields, if_pos natural, ih]
      rfl

/-- What is read as fields are words of fields. -/
theorem words_of_readFields {fields : List String}
    (read : readFields words = .ok (fields, rest)) :
    ∃ front, words = front ++ rest ∧ FieldsWords fields front := by
  fun_induction readFields words generalizing fields with
  | case1 s rest' ih =>
    obtain ⟨⟨later, left⟩, inner, result⟩ := Builder.ok_of_bind read
    cases result
    obtain ⟨front, rfl, written⟩ := ih inner
    exact ⟨.dot :: .name s :: front, rfl, .cons (.name s) written⟩
  | case2 n rest' natural ih =>
    obtain ⟨⟨later, left⟩, inner, result⟩ := Builder.ok_of_bind read
    cases result
    obtain ⟨front, rfl, written⟩ := ih inner
    exact ⟨.dot :: .whole n :: front, rfl, .cons (.position natural) written⟩
  | case3 => cases read
  | case4 => cases read
  | case5 =>
    cases read
    exact ⟨[], rfl, .nil⟩

/-- The words of an operand are read if no dot follows. -/
theorem readOperand_words {operand : Operand} (written : OperandWords operand words)
    (ends : ∀ word ∈ rest.head?, word ≠ .dot) :
    readOperand (words ++ rest) = .ok (operand, rest) := by
  cases written with
  | literal l => cases l <;> rfl
  | path later =>
    rw [List.cons_append, readOperand, readFields_words later ends]
    rfl

/-- What is read as an operand are words of an operand. -/
theorem words_of_readOperand {operand : Operand}
    (read : readOperand words = .ok (operand, rest)) :
    ∃ front, words = front ++ rest ∧ OperandWords operand front := by
  unfold readOperand at read
  split at read
  · rename_i s _
    cases read
    exact ⟨[.quoted s], rfl, .literal (.text s)⟩
  · rename_i n _
    cases read
    exact ⟨[.whole n], rfl, .literal (.whole n)⟩
  · rename_i s _
    obtain ⟨⟨fields, left⟩, inner, result⟩ := Builder.ok_of_bind read
    cases result
    obtain ⟨front, rfl, written⟩ := words_of_readFields inner
    exact ⟨.name s :: front, rfl, .path written⟩
  · cases read

end Operands

section Filters

variable {words rest : List Lexeme}

/-- What the filter of a name with an argument is. -/
theorem filter_some {name : String} {l : Literal} {f : Filter}
    (found : filter name (some l) = .ok f) :
    filterWords f = [.bar, .name name, .colon, literalWord l] := by
  unfold filter at found
  split at found <;> cases found <;> simp_all [filterWords]

/-- What the filter of a name without an argument is. -/
theorem filter_none {name : String} {f : Filter} (found : filter name none = .ok f) :
    filterWords f = [.bar, .name name] := by
  unfold filter at found
  split at found <;> cases found <;> simp_all [filterWords]

/-- A filter without an argument is read if no argument is written for it. -/
theorem readFilters_plain {name : String} {first : Filter} (known : filter name none = .ok first)
    (ends : ∀ word ∈ words.head?, word ≠ .colon) :
    readFilters (.bar :: .name name :: words) =
      (readFilters words >>= fun (later, rest) => .ok (first :: later, rest)) := by
  conv => lhs; unfold readFilters
  split
  · rename_i shape
    cases shape
    exact absurd rfl (ends .colon rfl)
  · rename_i shape
    cases shape
    exact absurd rfl (ends .colon rfl)
  · rename_i shape
    cases shape
    exact absurd rfl (ends .colon rfl)
  · rename_i shape
    cases shape
    rw [known]
    rfl
  · rename_i none shape
    cases shape
    exact absurd rfl (none name words)
  · rename_i none
    exact absurd rfl (none _)

/-- The words of filters begin with a bar. -/
theorem head?_filters {filters : List Filter} {word : Lexeme}
    (first : word ∈ (filters.flatMap filterWords ++ rest).head?) :
    word = .bar ∨ word ∈ rest.head? := by
  cases filters with
  | nil => exact .inr first
  | cons f later =>
    left
    cases f <;> exact (Option.some.inj first).symm

/-- The words of filters are read if nothing follows that would go on with them. -/
theorem readFilters_words (filters : List Filter)
    (ends : ∀ word ∈ rest.head?, word ≠ .bar ∧ word ≠ .colon) :
    readFilters (filters.flatMap filterWords ++ rest) = .ok (filters, rest) := by
  induction filters with
  | nil =>
    rw [List.flatMap_nil, List.nil_append]
    unfold readFilters
    split <;> first | rfl | exact absurd rfl (ends .bar rfl).1
  | cons f later ih =>
    rw [List.flatMap_cons, List.append_assoc]
    cases f with
    | default l =>
      cases l <;>
      · simp only [filterWords, literalWord, List.cons_append, List.nil_append]
        rw [readFilters, ih]
        rfl
    | add l =>
      cases l <;>
      · simp only [filterWords, literalWord, List.cons_append, List.nil_append]
        rw [readFilters, ih]
        rfl
    | length =>
      have past : ∀ word ∈ (later.flatMap filterWords ++ rest).head?, word ≠ .colon := by
        intro word first
        rcases head?_filters first with rfl | after
        · exact nofun
        · exact (ends word after).2
      simp only [filterWords, List.cons_append, List.nil_append]
      rw [readFilters_plain rfl past, ih]
      rfl

/-- What is read as filters are words of filters. -/
theorem words_of_readFilters {filters : List Filter}
    (read : readFilters words = .ok (filters, rest)) :
    words = filters.flatMap filterWords ++ rest := by
  fun_induction readFilters words generalizing filters with
  | case1 s text after ih =>
    obtain ⟨first, known, read⟩ := Builder.ok_of_bind read
    obtain ⟨⟨later, left⟩, inner, result⟩ := Builder.ok_of_bind read
    cases result
    rw [List.flatMap_cons, filter_some known, ih inner]
    rfl
  | case2 s n after ih =>
    obtain ⟨first, known, read⟩ := Builder.ok_of_bind read
    obtain ⟨⟨later, left⟩, inner, result⟩ := Builder.ok_of_bind read
    cases result
    rw [List.flatMap_cons, filter_some known, ih inner]
    rfl
  | case3 => cases read
  | case4 s after _ _ _ ih =>
    obtain ⟨first, known, read⟩ := Builder.ok_of_bind read
    obtain ⟨⟨later, left⟩, inner, result⟩ := Builder.ok_of_bind read
    cases result
    rw [List.flatMap_cons, filter_none known, ih inner]
    rfl
  | case5 => cases read
  | case6 =>
    cases read
    rfl

end Filters

section Expressions

variable {e : Expr} {words rest : List Lexeme}

/-- Words of an expression are read if no word follows that would go on with it. -/
theorem readExpr_words (written : ExprWords e words)
    (ends : ∀ word ∈ rest.head?, beginsOperand word = true) :
    readExpr (words ++ rest) = .ok (e, rest) := by
  obtain ⟨front, operand, rfl⟩ := written
  have apart : ∀ word ∈ (e.filters.flatMap filterWords ++ rest).head?, word ≠ .dot := by
    intro word first
    rcases head?_filters first with rfl | after
    · exact nofun
    · exact (not_joining (ends word after)).1
  have past : ∀ word ∈ rest.head?, word ≠ .bar ∧ word ≠ .colon :=
    fun word first => (not_joining (ends word first)).2
  rw [List.append_assoc, readExpr, readOperand_words operand apart]
  change (readFilters _ >>= _) = _
  rw [readFilters_words e.filters past]
  rfl

/-- What is read as an expression are words of it. -/
theorem words_of_readExpr (read : readExpr words = .ok (e, rest)) :
    ∃ front, words = front ++ rest ∧ ExprWords e front := by
  obtain ⟨⟨operand, after⟩, first, read⟩ := Builder.ok_of_bind read
  obtain ⟨⟨filters, left⟩, second, result⟩ := Builder.ok_of_bind read
  cases result
  obtain ⟨front, rfl, written⟩ := words_of_readOperand first
  have later := words_of_readFilters second
  refine ⟨front ++ filters.flatMap filterWords, ?_, front, written, rfl⟩
  rw [List.append_assoc, ← later]

/-- The end is read only where no word is left. -/
theorem readEnd_eq_ok_iff {place : String} : readEnd place words = .ok () ↔ words = [] := by
  cases words with
  | nil => exact iff_of_true rfl rfl
  | cons word words => exact iff_of_false nofun nofun

/-- An expression that is all there is is read from its words and from no others. -/
theorem readOnly_eq_ok_iff {place : String} : readOnly place words = .ok e ↔ ExprWords e words := by
  constructor
  · intro read
    obtain ⟨⟨found, rest⟩, first, read⟩ := Builder.ok_of_bind read
    obtain ⟨⟨⟩, ends, result⟩ := Builder.ok_of_bind read
    cases result
    obtain ⟨front, rfl, written⟩ := words_of_readExpr first
    rw [readEnd_eq_ok_iff.mp ends, List.append_nil]
    exact written
  · intro written
    have read : readExpr (words ++ []) = .ok (e, []) := readExpr_words written nofun
    rw [List.append_nil] at read
    rw [readOnly, read]
    rfl

/-- An expression begins with a word with which an operand may begin. -/
theorem ExprWords.begins (written : ExprWords e words) :
    ∃ first later, words = first :: later ∧ beginsOperand first = true := by
  obtain ⟨operand, filters⟩ := e
  obtain ⟨front, written, rfl⟩ := written
  cases written with
  | literal l => cases l <;> exact ⟨_, _, rfl, rfl⟩
  | path later => exact ⟨_, _, rfl, rfl⟩

/-- After the name with which a path begins comes no word with which an operand may begin. -/
theorem ExprWords.second {name : String} {word : Lexeme}
    (written : ExprWords e (.name name :: word :: words)) : beginsOperand word = false := by
  obtain ⟨operand, filters⟩ := e
  obtain ⟨front, written, shape⟩ := written
  cases written with
  | literal l => cases l <;> cases shape
  | path later =>
    cases later with
    | cons first later =>
      cases shape
      rfl
    | nil =>
      rw [List.singleton_append, List.cons.injEq] at shape
      have first : word ∈ (filters.flatMap filterWords ++ []).head? := by
        rw [List.append_nil, ← shape.2]
        rfl
      rcases head?_filters first with rfl | none
      · rfl
      · cases none

end Expressions

section Arguments

variable {words : List Lexeme}

/-- After a success the rest is done. -/
theorem ok_bind {ε α β : Type} (v : α) (f : α → Except ε β) : (Except.ok v >>= f) = f v := rfl

/-- A name is read only from its word. -/
theorem readName_eq_ok_iff {what : Expectation} {name : String} {rest : List Lexeme} :
    readName what words = .ok (name, rest) ↔ words = .name name :: rest := by
  unfold readName
  split
  · simp
  · rename_i none
    refine iff_of_false nofun ?_
    rintro rfl
    exact none name rest rfl

/-- A keyword is read only from its word. -/
theorem readKeyword_eq_ok_iff {word : String} {rest : List Lexeme} :
    readKeyword word words = .ok rest ↔ words = .name word :: rest := by
  unfold readKeyword
  split
  · rename_i s after
    by_cases same : s = word <;> simp [same]
  · rename_i none
    refine iff_of_false nofun ?_
    rintro rfl
    exact none word rest rfl

/-- A word that may be left out is skipped if it is there. -/
theorem of_skipKeyword {word : String} {given : Bool} {rest : List Lexeme}
    (skipped : skipKeyword word words = (given, rest)) :
    words = optionalWord given word ++ rest := by
  unfold skipKeyword at skipped
  split at skipped
  · split at skipped
    · rename_i same
      cases skipped
      rw [same]
      rfl
    · cases skipped
      rfl
  · cases skipped
    rfl

/-- The loop of a `for` tag is read from its words and from no others. -/
theorem readForEach_eq_ok_iff {opening : Opening} :
    Builder.readForEach words = .ok opening ↔
      OpeningWords opening words ∧ ∃ var list reversed, opening = .forEach var list reversed := by
  constructor
  · intro read
    obtain ⟨⟨var, rest⟩, first, read⟩ := Builder.ok_of_bind read
    obtain ⟨inner, second, read⟩ := Builder.ok_of_bind read
    obtain ⟨⟨list, after⟩, third, read⟩ := Builder.ok_of_bind read
    rcases skipped : skipKeyword "reversed" after with ⟨reversed, left⟩
    simp only [skipped] at read
    obtain ⟨⟨⟩, ends, result⟩ := Builder.ok_of_bind read
    cases result
    obtain ⟨front, split, written⟩ := words_of_readExpr third
    rw [of_skipKeyword skipped, readEnd_eq_ok_iff.mp ends, List.append_nil] at split
    rw [readName_eq_ok_iff.mp first, readKeyword_eq_ok_iff.mp second, split]
    exact ⟨.forEach var reversed written, var, list, reversed, rfl⟩
  · rintro ⟨written, var, list, reversed, rfl⟩
    cases written with
    | @forEach _ words _ _ inner =>
      have past : ∀ word ∈ (optionalWord reversed "reversed").head?,
          beginsOperand word = true := by
        cases reversed <;> simp [optionalWord, beginsOperand]
      have read := readExpr_words inner past
      simp only [Builder.readForEach, readName, readKeyword, if_true, ok_bind, read]
      cases reversed <;> rfl

/-- Words of an expression are not taken for a negated one. -/
theorem skipNot_words {e : Expr} (written : ExprWords e words) :
    skipNot words = (false, words) := by
  unfold skipNot
  split
  · rw [if_neg (by rw [written.second]; exact nofun)]
  · rfl

/-- The condition of an `if` tag is read from its words and from no others. -/
theorem readCondition_eq_ok_iff {opening : Opening} :
    Builder.readCondition words = .ok opening ↔
      OpeningWords opening words ∧ ∃ test negated, opening = .condition test negated := by
  constructor
  · intro read
    unfold Builder.readCondition at read
    rcases skipped : skipNot words with ⟨negated, rest⟩
    rw [skipped] at read
    obtain ⟨test, first, result⟩ := Builder.ok_of_bind read
    cases result
    have written := readOnly_eq_ok_iff.mp first
    refine ⟨?_, test, negated, rfl⟩
    unfold skipNot at skipped
    split at skipped
    · split at skipped
      · cases skipped
        exact .condition true written
      · cases skipped
        exact .condition false written
    · cases skipped
      exact .condition false written
  · rintro ⟨written, test, negated, rfl⟩
    cases written with
    | condition _ inner =>
      have read : readOnly "if" _ = .ok test := readOnly_eq_ok_iff.mpr inner
      unfold Builder.readCondition
      cases negated with
      | false =>
        rw [optionalWord, if_neg nofun, List.nil_append, skipNot_words inner]
        change (readOnly "if" _ >>= _) = _
        rw [read]
        rfl
      | true =>
        obtain ⟨first, later, rfl, begins⟩ := inner.begins
        have skipped : skipNot (.name "not" :: first :: later) = (true, first :: later) := by
          rw [skipNot, if_pos begins]
        rw [optionalWord, if_pos rfl, List.singleton_append, skipped]
        change (readOnly "if" _ >>= _) = _
        rw [read]
        rfl

/-- The name in a tag is read from that word and from nothing else. -/
theorem readBlockName_eq_ok_iff {tag name : String} :
    Builder.readBlockName tag words = .ok name ↔ words = [.name name] := by
  constructor
  · intro read
    obtain ⟨⟨found, rest⟩, first, read⟩ := Builder.ok_of_bind read
    obtain ⟨⟨⟩, ends, result⟩ := Builder.ok_of_bind read
    cases result
    rw [readName_eq_ok_iff.mp first, readEnd_eq_ok_iff.mp ends]
  · rintro rfl
    rfl

/-- The arguments of a `create` tag are read from their words and from no others. -/
theorem readCreates_eq_ok_iff {line : Nat} {node : Node} :
    Builder.readCreates line words = .ok node ↔
      ∃ file template front back, node = .creates file template line ∧
        words = front ++ .name "from" :: back ∧ ExprWords file front ∧ ExprWords template back := by
  constructor
  · intro read
    obtain ⟨⟨file, rest⟩, first, read⟩ := Builder.ok_of_bind read
    obtain ⟨back, second, read⟩ := Builder.ok_of_bind read
    obtain ⟨template, third, result⟩ := Builder.ok_of_bind read
    cases result
    obtain ⟨front, rfl, written⟩ := words_of_readExpr first
    rw [readKeyword_eq_ok_iff.mp second]
    exact ⟨file, template, front, back, rfl, rfl, written, readOnly_eq_ok_iff.mp third⟩
  · rintro ⟨file, template, front, back, rfl, rfl, first, second⟩
    have past : ∀ word ∈ (Lexeme.name "from" :: back).head?, beginsOperand word = true := by
      rintro word ⟨⟩
      rfl
    have named := readExpr_words first past
    have read : readOnly "create" back = .ok template := readOnly_eq_ok_iff.mpr second
    simp only [Builder.readCreates, named, readKeyword, if_true, ok_bind, read]
    rfl

end Arguments

end TextTemplate.Source
