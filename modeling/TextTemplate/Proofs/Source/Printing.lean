import TextTemplate.Proofs.Source.Written
/-!
# Every tree that can be written is written somehow

Words that can be written are laid out with a blank before each; from there the writing of a tree
follows its shape. Main statement: a tree whose nodes can be written has pieces with which it is
written (`exists_written`).
-/
namespace TextTemplate.Source

open TextTemplate

section Words

variable {words : List Lexeme}

/-- A word that is written in some way. -/
def Lexeme.Writable (word : Lexeme) : Prop := ∃ cs, word.Spelled cs

/-- The digits of a number are digits. -/
theorem isDigits_toDigits (n : Nat) : IsDigits (Nat.toDigits 10 n) where
  nonempty := Nat.toDigits_ne_nil
  digits _ member := Nat.isDigit_of_mem_toDigits (by decide) (by decide) member

/-- Every whole number is written with the digits of its size, and a sign if it is negative. -/
theorem writable_whole (n : Int64) : (Lexeme.whole n).Writable := by
  by_cases natural : 0 ≤ n.toInt
  · have value : n.toInt = Nat.ofDigitChars 10 (Nat.toDigits 10 n.toInt.toNat) 0 := by
      rw [Nat.ofDigitChars_ten_toDigits]
      omega
    exact ⟨_, .digits (isDigits_toDigits _) value⟩
  · have value : n.toInt = -(Nat.ofDigitChars 10 (Nat.toDigits 10 n.toInt.natAbs) 0 : Int) := by
      rw [Nat.ofDigitChars_ten_toDigits]
      omega
    exact ⟨_, .negative (isDigits_toDigits _) value⟩

/-- A name of the syntax can be written. -/
theorem writable_name {name : String} (named : IsName name.toList) :
    (Lexeme.name name).Writable := by
  have spelled := Lexeme.Spelled.name named
  rw [String.ofList_toList] at spelled
  exact ⟨_, spelled⟩

/-- A literal is written between quotes of a kind that is not in it. -/
theorem writable_literal {l : Literal} (writable : l.Writable) : (literalWord l).Writable := by
  cases l with
  | whole n => exact writable_whole n
  | text s =>
    have between : ∀ {quote : Char}, isQuote quote = true → quote ∉ s.toList →
        (Lexeme.quoted s).Writable := by
      intro quote opens free
      have spelled := Lexeme.Spelled.quoted opens free
      rw [String.ofList_toList] at spelled
      exact ⟨_, spelled⟩
    rcases writable with single | double
    · exact between rfl single
    · exact between rfl double

/-- Fields that can be written have words that can be. -/
theorem exists_fieldsWords {fields : List String}
    (writable : ∀ field ∈ fields, FieldWritable field) :
    ∃ words, FieldsWords fields words ∧ ∀ word ∈ words, word.Writable := by
  induction fields with
  | nil => exact ⟨[], .nil, nofun⟩
  | cons field fields ih =>
    obtain ⟨words, written, inner⟩ :=
      ih fun other member => writable other (List.mem_cons_of_mem _ member)
    have first : ∃ word, FieldWord field word ∧ word.Writable := by
      rcases writable field List.mem_cons_self with named | ⟨n, natural, rfl⟩
      · exact ⟨_, .name field, writable_name named⟩
      · exact ⟨_, .position natural, writable_whole n⟩
    obtain ⟨word, here, fits⟩ := first
    refine ⟨.dot :: word :: words, .cons here written, ?_⟩
    intro other member
    rcases List.mem_cons.mp member with rfl | member
    · exact ⟨_, .dot⟩
    · rcases List.mem_cons.mp member with rfl | member
      · exact fits
      · exact inner other member

/-- An operand that can be written has words that can be. -/
theorem exists_operandWords {operand : Operand} (writable : operand.Writable) :
    ∃ words, OperandWords operand words ∧ ∀ word ∈ words, word.Writable := by
  cases operand with
  | literal l =>
    refine ⟨_, .literal l, ?_⟩
    intro word member
    rw [List.mem_singleton.mp member]
    exact writable_literal writable
  | path name fields =>
    obtain ⟨words, written, inner⟩ := exists_fieldsWords writable.2
    refine ⟨_, .path written, ?_⟩
    intro word member
    rcases List.mem_cons.mp member with rfl | member
    · exact writable_name writable.1
    · exact inner word member

/-- The words of a filter can be written if its literal can be. -/
theorem writable_filterWords {f : Filter} (writable : f.Writable) :
    ∀ word ∈ filterWords f, word.Writable := by
  have argument : ∀ {name : String} {l : Literal}, IsName name.toList → l.Writable →
      ∀ word ∈ [.bar, .name name, .colon, literalWord l], word.Writable := by
    intro name l named writable word member
    simp only [List.mem_cons, List.not_mem_nil, or_false] at member
    rcases member with rfl | rfl | rfl | rfl
    · exact ⟨_, .bar⟩
    · exact writable_name named
    · exact ⟨_, .colon⟩
    · exact writable_literal writable
  cases f with
  | default fallback => exact argument (by decide +kernel) writable
  | add term => exact argument (by decide +kernel) writable
  | length =>
    have named : IsName "length".toList := by decide +kernel
    intro word member
    simp only [filterWords, List.mem_cons, List.not_mem_nil, or_false] at member
    rcases member with rfl | rfl
    · exact ⟨_, .bar⟩
    · exact writable_name named

/-- An expression that can be written has words that can be. -/
theorem exists_exprWords {e : Expr} (writable : e.Writable) :
    ∃ words, ExprWords e words ∧ ∀ word ∈ words, word.Writable := by
  obtain ⟨front, operand, inner⟩ := exists_operandWords writable.operand
  refine ⟨_, ⟨front, operand, rfl⟩, ?_⟩
  intro word member
  rcases List.mem_append.mp member with here | later
  · exact inner word here
  · obtain ⟨f, found, within⟩ := List.mem_flatMap.mp later
    exact writable_filterWords (writable.filters f found) word within

/-- Words that can be written are laid out with a blank before each. -/
theorem exists_spells (writable : ∀ word ∈ words, word.Writable) :
    ∃ cs, Spells words cs ∧ ∀ c ∈ cs.head?, Text.isBlank c = true := by
  induction words with
  | nil => exact ⟨[], .nil, nofun⟩
  | cons word words ih =>
    obtain ⟨rest, spells, blank⟩ := ih fun other member => writable other (.tail _ member)
    obtain ⟨text, spelled⟩ := writable word List.mem_cons_self
    have apart : ∀ c ∈ rest.head?, continues text c = false :=
      fun c first => continues_of_isBlank (blank c first) text
    refine ⟨' ' :: (text ++ rest), .blank (by decide +kernel) (spells.cons spelled apart), ?_⟩
    intro c first
    cases first
    decide +kernel

/-- A tag can be written if its words can be. -/
theorem exists_tagContent (name : String) (writable : ∀ word ∈ words, word.Writable) :
    ∃ content, TagContent name words content := by
  obtain ⟨args, spells, apart⟩ := exists_spells writable
  have none : ∀ c ∈ ([] : List Char), Text.isBlank c = true := nofun
  exact ⟨_, .intro none apart spells⟩

/-- A word that may be left out can be written if it is a name. -/
theorem writable_optionalWord {given : Bool} {word : String} (named : IsName word.toList) :
    ∀ other ∈ optionalWord given word, other.Writable := by
  intro other member
  cases given with
  | false => cases member
  | true =>
    rw [List.mem_singleton.mp member]
    exact writable_name named

end Words

section Trees

open Node

/-- The tag that opens a loop. -/
theorem exists_forEach {var : String} {list : Expr} (named : IsName var.toList)
    (writable : list.Writable) (reversed : Bool) :
    ∃ words content, ExprWords list words ∧ TagContent "for"
      (.name var :: .name "in" :: (words ++ optionalWord reversed "reversed")) content := by
  obtain ⟨words, inner, fits⟩ := exists_exprWords writable
  have keyword : IsName "in".toList := by decide +kernel
  have keyword' : IsName "reversed".toList := by decide +kernel
  have all : ∀ word ∈ Lexeme.name var :: .name "in" ::
      (words ++ optionalWord reversed "reversed"), word.Writable := by
    intro word member
    simp only [List.mem_cons, List.mem_append] at member
    rcases member with rfl | rfl | here | last
    · exact writable_name named
    · exact writable_name keyword
    · exact fits word here
    · exact writable_optionalWord keyword' word last
  obtain ⟨content, tagged⟩ := exists_tagContent "for" all
  exact ⟨words, content, inner, tagged⟩

/-- The tag that opens a condition. -/
theorem exists_condition {test : Expr} (writable : test.Writable) (negated : Bool) :
    ∃ words content, ExprWords test words ∧
      TagContent "if" (optionalWord negated "not" ++ words) content := by
  obtain ⟨words, inner, fits⟩ := exists_exprWords writable
  have keyword : IsName "not".toList := by decide +kernel
  have all : ∀ word ∈ optionalWord negated "not" ++ words, word.Writable := by
    intro word member
    rcases List.mem_append.mp member with first | here
    · exact writable_optionalWord keyword word first
    · exact fits word here
  obtain ⟨content, tagged⟩ := exists_tagContent "if" all
  exact ⟨words, content, inner, tagged⟩

/-- A tag with one expression. -/
theorem exists_tagged (name : String) {e : Expr} (writable : e.Writable) :
    ∃ words content, ExprWords e words ∧ TagContent name words content := by
  obtain ⟨words, inner, fits⟩ := exists_exprWords writable
  obtain ⟨content, tagged⟩ := exists_tagContent name fits
  exact ⟨words, content, inner, tagged⟩

/-- The tag that makes a file. -/
theorem exists_creates {file template : Expr} (writable : file.Writable)
    (writable' : template.Writable) :
    ∃ front back content, ExprWords file front ∧ ExprWords template back ∧
      TagContent "create" (front ++ .name "from" :: back) content := by
  obtain ⟨front, first, fits⟩ := exists_exprWords writable
  obtain ⟨back, second, fits'⟩ := exists_exprWords writable'
  have keyword : IsName "from".toList := by decide +kernel
  have all : ∀ word ∈ front ++ .name "from" :: back, word.Writable := by
    intro word member
    rcases List.mem_append.mp member with here | later
    · exact fits word here
    · rcases List.mem_cons.mp later with rfl | last
      · exact writable_name keyword
      · exact fits' word last
  obtain ⟨content, tagged⟩ := exists_tagContent "create" all
  exact ⟨front, back, content, first, second, tagged⟩

/-- A tag without arguments. -/
theorem exists_plainTag (name : String) : ∃ content, TagContent name [] content :=
  exists_tagContent name nofun

/-- Nodes that can be written are written somehow. -/
theorem exists_written (nodes : List Node) (writable : ∀ node ∈ allIn nodes, node.Writable) :
    ∃ pieces, Written nodes pieces := by
  match nodes with
  | [] => exact ⟨[], .nil⟩
  | node :: rest =>
    have here := writable node (mem_allIn_of_mem List.mem_cons_self)
    have parts : ∀ body ∈ node.bodies, ∀ inner ∈ allIn body, inner.Writable :=
      fun body held inner inside =>
        writable inner (allIn_subset_of_mem List.mem_cons_self held inside)
    obtain ⟨pieces, later⟩ := exists_written rest fun inner inside =>
      writable inner (by simp [inside])
    match node with
    | .text s => exact ⟨_, .text later⟩
    | .variable e =>
      obtain ⟨words, written, fits⟩ := exists_exprWords here
      obtain ⟨content, spells, _⟩ := exists_spells fits
      exact ⟨_, .variable written spells later⟩
    | .forEach var list reversed body otherwise =>
      obtain ⟨first, part⟩ := exists_written body (parts body (by simp [bodies]))
      obtain ⟨second, other⟩ := exists_written otherwise (parts otherwise (by simp [bodies]))
      obtain ⟨words, content, written, opened⟩ := exists_forEach here.1 here.2 reversed
      obtain ⟨divides, divided⟩ := exists_plainTag "empty"
      obtain ⟨closes, closed⟩ := exists_plainTag "endfor"
      exact ⟨_, .forEmpty written opened part divided other closed later⟩
    | .condition test negated yes no =>
      obtain ⟨first, part⟩ := exists_written yes (parts yes (by simp [bodies]))
      obtain ⟨second, other⟩ := exists_written no (parts no (by simp [bodies]))
      obtain ⟨words, content, written, opened⟩ := exists_condition here negated
      obtain ⟨divides, divided⟩ := exists_plainTag "else"
      obtain ⟨closes, closed⟩ := exists_plainTag "endif"
      exact ⟨_, .conditionElse written opened part divided other closed later⟩
    | .block name body =>
      obtain ⟨first, part⟩ := exists_written body (parts body (by simp [bodies]))
      have named : ∀ word ∈ [Lexeme.name name], word.Writable := by
        intro word member
        rw [List.mem_singleton.mp member]
        exact writable_name here
      obtain ⟨opens, opened⟩ := exists_tagContent "block" named
      obtain ⟨closes, closed⟩ : ∃ closes, TagContent "endblock" (optionalWord true name) closes :=
        exists_tagContent "endblock" (writable_optionalWord here)
      exact ⟨_, .block opened part closed later⟩
    | .inherits parent =>
      obtain ⟨words, content, written, tagged⟩ := exists_tagged "extends" here
      exact ⟨_, .inherits written tagged later⟩
    | .includes template =>
      obtain ⟨words, content, written, tagged⟩ := exists_tagged "include" here
      exact ⟨_, .includes written tagged later⟩
    | .creates file template line =>
      obtain ⟨front, back, content, first, second, tagged⟩ := exists_creates here.1 here.2
      exact ⟨_, .creates first second tagged later⟩
termination_by sizeOf nodes

end Trees

end TextTemplate.Source
