import TextTemplate.Proofs.Source.Cutting
import TextTemplate.Proofs.Template.Reading
import Mathlib.Data.List.Chain
/-!
# Written trees

A tree is written in the syntax of templates: text as it stands, expressions and tags between their
delimiters, words laid out as one likes, and of two parts of a construct the second after a tag of
its own. `Written` lists the ways, one constructor for each construct of the syntax.

Not every tree can be written so that it can be told from others. `WellFormed` says which can: names
are names, a literal has at most one kind of quote in it, text neither stands beside text nor holds
or makes an opening delimiter, blocks have names of their own, and only the first tag inherits.
Every such tree is written in some way (`exists_written`), and its pieces can be told apart
(`Written.apart`).
-/
namespace TextTemplate

open Source

/-- A literal that can stand between quotes. -/
def Literal.Writable : Literal → Prop
  | .text s => '\'' ∉ s.toList ∨ '"' ∉ s.toList
  | .whole _ => True

/-- A field that can stand after a dot: a name, or a number that is not negative in its shortest
form. -/
def FieldWritable (field : String) : Prop :=
  IsName field.toList ∨ ∃ n : Int64, 0 ≤ n.toInt ∧ field = Text.writeWhole n

/-- An operand with names and literals that can be written. -/
def Operand.Writable : Operand → Prop
  | .literal l => l.Writable
  | .path name fields => IsName name.toList ∧ ∀ field ∈ fields, FieldWritable field

/-- A filter with an argument that can be written. -/
def Filter.Writable : Filter → Prop
  | .default fallback => fallback.Writable
  | .length => True
  | .add term => term.Writable

/-- An expression that can be written. -/
structure Expr.Writable (e : Expr) : Prop where
  /-- Its operand can be written. -/
  operand : e.operand.Writable
  /-- So can its filters. -/
  filters : ∀ f ∈ e.filters, f.Writable

namespace Node

/-- A node that can be written, whatever is inside it. -/
def Writable : Node → Prop
  | .text s => s ≠ "" ∧ Unopened s.toList
  | .variable e => e.Writable
  | .forEach var list _ _ _ => IsName var.toList ∧ list.Writable
  | .condition test _ _ _ => test.Writable
  | .block name _ => IsName name.toList
  | .inherits parent => parent.Writable
  | .includes template => template.Writable
  | .creates file template _ => file.Writable ∧ template.Writable

mutual

/-- How deep the constructs of a node are nested. -/
def nesting : Node → Nat
  | .forEach _ _ _ body otherwise => max (nestingIn body) (nestingIn otherwise) + 1
  | .condition _ _ yes no => max (nestingIn yes) (nestingIn no) + 1
  | .block _ body => nestingIn body + 1
  | _ => 0

/-- How deep the constructs of a forest are nested. -/
def nestingIn : List Node → Nat
  | [] => 0
  | first :: rest => max first.nesting (nestingIn rest)

end

/-- The names of the blocks of a forest. -/
def blockNames (forest : List Node) : List String := (blocksIn forest).map Prod.fst

/-- Of two nodes in a row one is no text. -/
def TextsApart (forest : List Node) : Prop :=
  forest.IsChain fun first second => ¬ (first.isText = true ∧ second.isText = true)

/-- No text at any depth ends in a brace, so none makes an opening delimiter with what follows. -/
def Shut (forest : List Node) : Prop :=
  ∀ s, .text s ∈ allIn forest → s.toList.getLast? ≠ some '{'

/-- A part of a forest is shut if the forest is. -/
theorem Shut.of_subset {inner forest : List Node} (shut : Shut forest)
    (inside : allIn inner ⊆ allIn forest) : Shut inner :=
  fun s member => shut s (inside member)

/-- No text ends in a brace, unless it is the last thing of all. -/
def ShutBefore (forest : List Node) : Prop :=
  Shut forest ∨ ∃ before s, forest = before ++ [.text s] ∧ Shut before

/-- What makes a tree one that can be written and read back. -/
structure WellFormed (forest : List Node) : Prop where
  /-- Every node can be written. -/
  writable : ∀ node ∈ allIn forest, node.Writable
  /-- No text stands beside text. -/
  apart : TextsApart forest ∧ ∀ node ∈ allIn forest, ∀ body ∈ node.bodies, TextsApart body
  /-- Text ends in a brace at the end of the source alone. -/
  shut : ShutBefore forest
  /-- No two blocks have one name. -/
  names : (blockNames forest).Nodup
  /-- Only the first tag inherits. -/
  opening : InheritsFirst forest
  /-- Constructs are nested no deeper than is read. -/
  nesting : nestingIn forest ≤ maxNesting

end Node

namespace Source

/-- What stands between the delimiters of a tag: its name, and after a blank its arguments. -/
inductive TagContent (name : String) (words : List Lexeme) : List Char → Prop
  | intro {gap args : List Char} (blank : ∀ c ∈ gap, Text.isBlank c = true)
    (apart : ∀ c ∈ args.head?, Text.isBlank c = true) (spells : Spells words args) :
    TagContent name words (gap ++ (name.toList ++ args))

/-- The pieces with which a list of nodes is written. -/
inductive Written : List Node → List Piece → Prop
  | nil : Written [] []
  | text {s : String} {rest : List Node} {pieces : List Piece} (later : Written rest pieces) :
    Written (.text s :: rest) (⟨.text, s.toList⟩ :: pieces)
  | variable {e : Expr} {words : List Lexeme} {content : List Char} {rest : List Node}
    {pieces : List Piece} (inner : ExprWords e words) (spells : Spells words content)
    (later : Written rest pieces) :
    Written (.variable e :: rest) (⟨.variable, content⟩ :: pieces)
  | forEach {var : String} {list : Expr} {reversed : Bool} {words : List Lexeme}
    {body rest : List Node} {opens closes : List Char} {first pieces : List Piece}
    (inner : ExprWords list words)
    (opened : TagContent "for"
      (.name var :: .name "in" :: (words ++ optionalWord reversed "reversed")) opens)
    (part : Written body first) (closed : TagContent "endfor" [] closes)
    (later : Written rest pieces) :
    Written (.forEach var list reversed body [] :: rest)
      (⟨.tag, opens⟩ :: (first ++ ⟨.tag, closes⟩ :: pieces))
  | forEmpty {var : String} {list : Expr} {reversed : Bool} {words : List Lexeme}
    {body otherwise rest : List Node} {opens divides closes : List Char}
    {first second pieces : List Piece} (inner : ExprWords list words)
    (opened : TagContent "for"
      (.name var :: .name "in" :: (words ++ optionalWord reversed "reversed")) opens)
    (part : Written body first) (divided : TagContent "empty" [] divides)
    (other : Written otherwise second) (closed : TagContent "endfor" [] closes)
    (later : Written rest pieces) :
    Written (.forEach var list reversed body otherwise :: rest)
      (⟨.tag, opens⟩ :: (first ++ ⟨.tag, divides⟩ :: (second ++ ⟨.tag, closes⟩ :: pieces)))
  | condition {test : Expr} {negated : Bool} {words : List Lexeme} {yes rest : List Node}
    {opens closes : List Char} {first pieces : List Piece} (inner : ExprWords test words)
    (opened : TagContent "if" (optionalWord negated "not" ++ words) opens)
    (part : Written yes first) (closed : TagContent "endif" [] closes)
    (later : Written rest pieces) :
    Written (.condition test negated yes [] :: rest)
      (⟨.tag, opens⟩ :: (first ++ ⟨.tag, closes⟩ :: pieces))
  | conditionElse {test : Expr} {negated : Bool} {words : List Lexeme} {yes no rest : List Node}
    {opens divides closes : List Char} {first second pieces : List Piece}
    (inner : ExprWords test words)
    (opened : TagContent "if" (optionalWord negated "not" ++ words) opens)
    (part : Written yes first) (divided : TagContent "else" [] divides)
    (other : Written no second) (closed : TagContent "endif" [] closes)
    (later : Written rest pieces) :
    Written (.condition test negated yes no :: rest)
      (⟨.tag, opens⟩ :: (first ++ ⟨.tag, divides⟩ :: (second ++ ⟨.tag, closes⟩ :: pieces)))
  | block {name : String} {named : Bool} {body rest : List Node} {opens closes : List Char}
    {first pieces : List Piece} (opened : TagContent "block" [.name name] opens)
    (part : Written body first) (closed : TagContent "endblock" (optionalWord named name) closes)
    (later : Written rest pieces) :
    Written (.block name body :: rest) (⟨.tag, opens⟩ :: (first ++ ⟨.tag, closes⟩ :: pieces))
  | inherits {parent : Expr} {words : List Lexeme} {content : List Char} {rest : List Node}
    {pieces : List Piece} (inner : ExprWords parent words)
    (tagged : TagContent "extends" words content) (later : Written rest pieces) :
    Written (.inherits parent :: rest) (⟨.tag, content⟩ :: pieces)
  | includes {template : Expr} {words : List Lexeme} {content : List Char} {rest : List Node}
    {pieces : List Piece} (inner : ExprWords template words)
    (tagged : TagContent "include" words content) (later : Written rest pieces) :
    Written (.includes template :: rest) (⟨.tag, content⟩ :: pieces)
  | creates {file template : Expr} {line : Nat} {front back : List Lexeme} {content : List Char}
    {rest : List Node} {pieces : List Piece} (first : ExprWords file front)
    (second : ExprWords template back)
    (tagged : TagContent "create" (front ++ .name "from" :: back) content)
    (later : Written rest pieces) :
    Written (.creates file template line :: rest) (⟨.tag, content⟩ :: pieces)

/-- A source in which a list of nodes is written. -/
def Writes (nodes : List Node) (source : List Char) : Prop :=
  ∃ pieces, Written nodes pieces ∧ source = pieces.flatMap Piece.source

/-- The names of tags. -/
def tagNames : List String :=
  ["for", "empty", "endfor", "if", "else", "endif", "block", "endblock", "extends", "include",
    "create"]

/-- The name of a tag is not empty, and no character of it is blank or may close a mark. -/
theorem plain_of_mem_tagNames {name : String} (known : name ∈ tagNames) :
    name.toList ≠ [] ∧ ∀ c ∈ name.toList, Text.isBlank c = false ∧ counts c = false := by
  have all : ∀ name ∈ tagNames, name.toList ≠ [] ∧
      (name.toList.any fun c => Text.isBlank c || counts c) = false := by
    decide +kernel
  obtain ⟨nonempty, plain⟩ := all name known
  exact ⟨nonempty, fun c member => Bool.or_eq_false_iff.mp (eq_false_of_any plain c member)⟩

section Apart

open Node

variable {nodes : List Node} {node : Node} {pieces rest : List Piece}

/-- What text in a forest must satisfy for its pieces to be told apart. -/
structure Told (forest : List Node) : Prop where
  /-- Text is neither empty nor has an opening delimiter in it. -/
  texts : ∀ s, .text s ∈ allIn forest → s ≠ "" ∧ Unopened s.toList
  /-- No text stands beside text at the top. -/
  row : TextsApart forest
  /-- No text stands beside text in a construct. -/
  deep : ∀ node ∈ allIn forest, ∀ body ∈ node.bodies, TextsApart body

/-- Text ends in a brace at the end of a forest alone, if no piece follows, and nowhere else. -/
def Ends (forest : List Node) (rest : List Piece) : Prop :=
  Shut forest ∨ rest = [] ∧ ShutBefore forest

/-- Trees after the first are told apart if all are. -/
theorem Told.tail (told : Told (node :: nodes)) : Told nodes where
  texts s inside := told.texts s (by simp [inside])
  row := told.row.tail
  deep inner inside := told.deep inner (by simp [inside])

/-- The trees in a body are told apart if all are. -/
theorem Told.body (told : Told (node :: nodes)) {body : List Node} (held : body ∈ node.bodies) :
    Told body := by
  have inside : allIn body ⊆ allIn (node :: nodes) :=
    allIn_subset_of_mem List.mem_cons_self held
  exact {
    texts := fun s member => told.texts s (inside member)
    row := told.deep node (mem_allIn_of_mem List.mem_cons_self) body held
    deep := fun inner member => told.deep inner (inside member) }

/-- The end of a forest is the end of what follows on its first tree. -/
theorem Ends.tail (ends : Ends (node :: nodes) rest) : Ends nodes rest := by
  have later : allIn nodes ⊆ allIn (node :: nodes) := by simp
  rcases ends with shut | ⟨none, shut | ⟨before, s, split, shut⟩⟩
  · exact .inl (shut.of_subset later)
  · exact .inl (shut.of_subset later)
  · cases before with
    | nil =>
      have none : nodes = [] := (List.cons.inj split).2
      rw [none]
      exact .inl fun s member => by simp at member
    | cons first before =>
      obtain ⟨rfl, rfl⟩ := List.cons.inj split
      exact .inr ⟨none, .inr ⟨before, s, rfl, shut.of_subset (by simp)⟩⟩

/-- No text in a construct ends in a brace. -/
theorem Ends.body (ends : Ends (node :: nodes) rest) {body : List Node}
    (held : body ∈ node.bodies) (more : List Piece) : Ends body more := by
  have inside : allIn body ⊆ allIn (node :: nodes) :=
    allIn_subset_of_mem List.mem_cons_self held
  rcases ends with shut | ⟨none, shut | ⟨before, s, split, shut⟩⟩
  · exact .inl (shut.of_subset inside)
  · exact .inl (shut.of_subset inside)
  · cases before with
    | nil =>
      rw [(List.cons.inj split).1] at held
      cases held
    | cons first before =>
      rw [(List.cons.inj split).1] at held
      exact .inl (shut.of_subset (allIn_subset_of_mem List.mem_cons_self held))

/-- Text does not end in a brace, unless nothing follows. -/
theorem Ends.text {s : String} (ends : Ends (.text s :: nodes) rest) :
    s.toList.getLast? ≠ some '{' ∨ nodes = [] ∧ rest = [] := by
  have here : Node.text s ∈ allIn (.text s :: nodes) := mem_allIn_of_mem List.mem_cons_self
  rcases ends with shut | ⟨none, shut | ⟨before, last, split, shut⟩⟩
  · exact .inl (shut s here)
  · exact .inl (shut s here)
  · cases before with
    | nil => exact .inr ⟨(List.cons.inj split).2, none⟩
    | cons first before =>
      have first : Node.text s ∈ allIn (first :: before) :=
        mem_allIn_of_mem (by rw [(List.cons.inj split).1]; exact List.mem_cons_self)
      exact .inl (shut s first)

/-- The first piece of a written forest is text if its first node is. -/
theorem Written.head (written : Written nodes pieces)
    (marked : ∀ node ∈ nodes.head?, node.isText = false) :
    ∀ piece ∈ pieces.head?, piece.kind ≠ .text := by
  intro piece first
  cases written <;> cases first
  case text => cases marked _ rfl
  all_goals exact fun same => nomatch same

/-- No tag closes its mark too early. -/
theorem TagContent.clear {name : String} {words : List Lexeme} {content : List Char}
    {d : Delimiter} (tagged : TagContent name words content) (known : name ∈ tagNames) :
    Clear d content := by
  obtain ⟨blank, _, spells⟩ := tagged
  have plain : Clear d name.toList :=
    .of_plain fun c member => ((plain_of_mem_tagNames known).2 c member).2
  exact (Clear.of_blank blank).append (plain.append spells.clear)

/-- A tag can be told from what follows on it. -/
theorem Apart.tag {name : String} {words : List Lexeme} {content : List Char}
    (tagged : TagContent name words content) (known : name ∈ tagNames) (later : Apart rest) :
    Apart (⟨.tag, content⟩ :: rest) :=
  .mark rfl (tagged.clear known) later

/-- Text is told apart from what follows if a mark follows, or nothing does. -/
theorem Apart.of_text {s : String} (nonempty : s ≠ "") (unopened : Unopened s.toList)
    (ends : rest ≠ [] → s.toList.getLast? ≠ some '{')
    (marked : ∀ piece ∈ rest.head?, piece.kind ≠ .text) (later : Apart rest) :
    Apart (⟨.text, s.toList⟩ :: rest) := by
  have filled : s.toList ≠ [] := fun none => nonempty (String.toList_eq_nil_iff.mp none)
  cases rest with
  | nil => exact .last filled unopened
  | cons next rest => exact .text filled unopened (ends nofun) (marked next rfl) later

/-- A tag with the part of a construct after it is told apart from the next tag. -/
theorem Apart.part {name : String} {words : List Lexeme} {content next : List Char}
    {first : List Piece} (tagged : TagContent name words content) (known : name ∈ tagNames)
    (part : ∀ more, Apart more → (∀ piece ∈ more.head?, piece.kind ≠ .text) → Apart (first ++ more))
    (later : Apart (⟨.tag, next⟩ :: rest)) :
    Apart (⟨.tag, content⟩ :: (first ++ ⟨.tag, next⟩ :: rest)) := by
  have marked : ∀ piece ∈ ((⟨.tag, next⟩ : Piece) :: rest).head?, piece.kind ≠ .text := by
    intro piece first
    cases first
    exact fun same => nomatch same
  exact .tag tagged known (part _ later marked)

/-- The pieces of a written forest can be told apart from each other and from what follows. -/
theorem Written.apart_append (written : Written nodes pieces) (told : Told nodes)
    (ends : Ends nodes rest) (after : Apart rest)
    (marked : ∀ piece ∈ rest.head?, piece.kind ≠ .text) : Apart (pieces ++ rest) := by
  induction written generalizing rest with
  | nil => exact after
  | @text s nodes pieces later ih =>
    have both := told.texts s (mem_allIn_of_mem List.mem_cons_self)
    have shut : pieces ++ rest ≠ [] → s.toList.getLast? ≠ some '{' := by
      intro more
      rcases ends.text with shut | ⟨rfl, rfl⟩
      · exact shut
      · cases later
        exact absurd rfl more
    have next : ∀ piece ∈ (pieces ++ rest).head?, piece.kind ≠ .text := by
      cases pieces with
      | nil => exact marked
      | cons piece pieces =>
        refine later.head fun node first => ?_
        have row := told.row.rel_head? first
        rw [Bool.eq_false_iff]
        exact fun text => row ⟨rfl, text⟩
    exact .of_text both.1 both.2 shut next (ih told.tail ends.tail after marked)
  | «variable» inner spells later ih =>
    exact .mark rfl spells.clear (ih told.tail ends.tail after marked)
  | inherits inner tagged later ih =>
    exact .tag tagged (by decide) (ih told.tail ends.tail after marked)
  | includes inner tagged later ih =>
    exact .tag tagged (by decide) (ih told.tail ends.tail after marked)
  | creates first second tagged later ih =>
    exact .tag tagged (by decide) (ih told.tail ends.tail after marked)
  | forEach inner opened part closed later body following =>
    rw [List.cons_append, List.append_assoc, List.cons_append]
    refine .part opened (by decide) (fun more => ?_) (.tag closed (by decide) ?_)
    · exact body (told.body (by simp [bodies])) (ends.body (by simp [bodies]) more)
    · exact following told.tail ends.tail after marked
  | forEmpty inner opened part divided other closed later body otherwise following =>
    rw [List.cons_append, List.append_assoc, List.cons_append, List.append_assoc, List.cons_append]
    refine .part opened (by decide) (fun more => ?_)
      (.part divided (by decide) (fun more => ?_) (.tag closed (by decide) ?_))
    · exact body (told.body (by simp [bodies])) (ends.body (by simp [bodies]) more)
    · exact otherwise (told.body (by simp [bodies])) (ends.body (by simp [bodies]) more)
    · exact following told.tail ends.tail after marked
  | condition inner opened part closed later body following =>
    rw [List.cons_append, List.append_assoc, List.cons_append]
    refine .part opened (by decide) (fun more => ?_) (.tag closed (by decide) ?_)
    · exact body (told.body (by simp [bodies])) (ends.body (by simp [bodies]) more)
    · exact following told.tail ends.tail after marked
  | conditionElse inner opened part divided other closed later body otherwise following =>
    rw [List.cons_append, List.append_assoc, List.cons_append, List.append_assoc, List.cons_append]
    refine .part opened (by decide) (fun more => ?_)
      (.part divided (by decide) (fun more => ?_) (.tag closed (by decide) ?_))
    · exact body (told.body (by simp [bodies])) (ends.body (by simp [bodies]) more)
    · exact otherwise (told.body (by simp [bodies])) (ends.body (by simp [bodies]) more)
    · exact following told.tail ends.tail after marked
  | block opened part closed later body following =>
    rw [List.cons_append, List.append_assoc, List.cons_append]
    refine .part opened (by decide) (fun more => ?_) (.tag closed (by decide) ?_)
    · exact body (told.body (by simp [bodies])) (ends.body (by simp [bodies]) more)
    · exact following told.tail ends.tail after marked

/-- The pieces of a well-formed tree can be told apart. -/
theorem Written.apart (written : Written nodes pieces) (formed : WellFormed nodes) :
    Apart pieces := by
  have told : Told nodes := {
    texts := fun s inside => formed.writable (.text s) inside
    row := formed.apart.1
    deep := formed.apart.2 }
  have all := written.apart_append told (.inr ⟨rfl, formed.shut⟩) .nil nofun
  rwa [List.append_nil] at all

end Apart

end Source

end TextTemplate
