import TextTemplate.Proofs.Source.Building
import TextTemplate.Proofs.Source.Printing
/-!
# Reading undoes writing

Main statement: a well-formed tree is written in some way, and however it is written, reading what
was written succeeds and gives the tree back, with the blocks in it, but for the lines that nodes
carry (`parse_writes`).
-/
namespace TextTemplate.Source

open TextTemplate Node

/-- A well-formed tree finds room in the builder of which no token was read. -/
theorem Room.of_wellFormed {nodes : List Node} (formed : WellFormed nodes) :
    Room Builder.start nodes where
  nesting := by
    rw [Builder.start, List.length_nil, Nat.zero_add]
    exact formed.nesting
  fresh _ _ := rfl
  names := formed.names
  opening := formed.opening
  late started := by
    rcases started with started | inside
    · cases started
    · exact absurd rfl inside

/-- A written source is cut into tokens that say what its pieces say. -/
theorem Writes.tokenize {nodes : List Node} {source : List Char} (writes : Writes nodes source)
    (formed : WellFormed nodes) :
    ∃ pieces tokens, Written nodes pieces ∧ Source.tokenize source = .ok tokens ∧
      tokens.map Token.saying = pieces.map Piece.saying := by
  obtain ⟨pieces, written, rfl⟩ := writes
  obtain ⟨tokens, cut, same⟩ := tokensFrom_source (written.apart formed) 1
  exact ⟨pieces, tokens, written, cut, same⟩

/-- A well-formed tree can be written, and is read back from whatever it is written as. -/
theorem parse_writes (name : String) (nodes : List Node) (formed : WellFormed nodes) :
    (∃ source, Writes nodes source) ∧
      ∀ source, Writes nodes source → ∃ t, parse name source = .ok t ∧ t.name = name ∧
        unlinedIn t.nodes = unlinedIn nodes ∧
        ∀ block body, t.blocks.get? block = some body ↔ (block, body) ∈ blocksIn t.nodes := by
  constructor
  · obtain ⟨pieces, written⟩ := exists_written nodes formed.writable
    exact ⟨_, pieces, written, rfl⟩
  · intro source writes
    obtain ⟨pieces, tokens, written, cut, same⟩ := writes.tokenize formed
    obtain ⟨built, added, grown⟩ :=
      written.raises Builder.start tokens (.of_wellFormed formed) same
    obtain ⟨forest, whole, alike⟩ := grown.forest
    have read : parse name source = .ok ⟨name, built.nodes.toList, built.blocks⟩ := by
      rw [parse, cut, ok_bind, added, ok_bind, Builder.finish, grown.frames]
      rfl
    refine ⟨_, read, rfl, ?_, (regular_of_parse read).2.get?_blocks⟩
    rw [whole]
    exact alike

/-- A tree with names that are words of the syntax, literals with delimiters in them, and text that
ends in a brace. -/
def riddle : List Node :=
  [.text "\x7d ", .variable ⟨.path "not" ["in", "0"], [.default (.text "\x7d\x7d '"), .length]⟩,
    .forEach "for" ⟨.path "reversed" [], []⟩ true [.text "%\x7d"] [],
    .condition ⟨.literal (.text "\x7b\x7b"), [.add (.whole (-7))]⟩ true
      [.creates ⟨.path "from" [], []⟩ ⟨.path "from" [], []⟩ 1] [.block "empty" []],
    .text "\x7b"]

/-- The nodes of that tree at every depth. -/
theorem allIn_riddle : allIn riddle =
    [.text "\x7d ", .variable ⟨.path "not" ["in", "0"], [.default (.text "\x7d\x7d '"), .length]⟩,
      .forEach "for" ⟨.path "reversed" [], []⟩ true [.text "%\x7d"] [], .text "%\x7d",
      .condition ⟨.literal (.text "\x7b\x7b"), [.add (.whole (-7))]⟩ true
        [.creates ⟨.path "from" [], []⟩ ⟨.path "from" [], []⟩ 1] [.block "empty" []],
      .creates ⟨.path "from" [], []⟩ ⟨.path "from" [], []⟩ 1, .block "empty" [], .text "\x7b"] := by
  simp [riddle, all]

/-- A text is free of opening delimiters if none of the three is in it. -/
theorem unopened_iff {text : List Char} : Unopened text ↔
    ¬ ['{', '{'] <:+: text ∧ ¬ ['{', '%'] <:+: text ∧ ¬ ['{', '#'] <:+: text :=
  ⟨fun unopened => ⟨unopened .variable, unopened .tag, unopened .comment⟩,
    fun ⟨brace, percent, hash⟩ d => by cases d <;> assumption⟩

/-- The tree is well-formed. -/
theorem wellFormed_riddle : WellFormed riddle where
  writable := by
    have name : ∀ s ∈ ["not", "in", "for", "reversed", "from", "empty"], IsName s.toList := by
      decide +kernel
    have path : ∀ s ∈ ["not", "in", "for", "reversed", "from", "empty"],
        Expr.Writable ⟨.path s [], []⟩ := fun s known => ⟨⟨name s known, nofun⟩, nofun⟩
    have zero : FieldWritable "0" := .inr ⟨0, by decide, by decide⟩
    have fields : ∀ field ∈ ["in", "0"], FieldWritable field := by
      intro field member
      simp only [List.mem_cons, List.not_mem_nil, or_false] at member
      rcases member with rfl | rfl
      · exact .inl (name "in" (by decide))
      · exact zero
    have filters : ∀ f ∈ [Filter.default (.text "\x7d\x7d '"), .length], f.Writable := by
      intro f member
      simp only [List.mem_cons, List.not_mem_nil, or_false] at member
      rcases member with rfl | rfl
      · exact .inr (by decide)
      · trivial
    intro node inside
    simp only [allIn_riddle, List.mem_cons, List.not_mem_nil, or_false] at inside
    rcases inside with rfl | rfl | rfl | rfl | rfl | rfl | rfl | rfl
    · exact ⟨by decide, unopened_iff.mpr (by decide)⟩
    · exact ⟨⟨name "not" (by decide), fields⟩, filters⟩
    · exact ⟨name "for" (by decide), path "reversed" (by decide)⟩
    · exact ⟨by decide, unopened_iff.mpr (by decide)⟩
    · refine ⟨.inl (by decide), fun f member => ?_⟩
      rw [List.mem_singleton.mp member]
      trivial
    · exact ⟨path "from" (by decide), path "from" (by decide)⟩
    · exact name "empty" (by decide)
    · exact ⟨by decide, unopened_iff.mpr (by decide)⟩
  apart := by
    refine ⟨by simp [riddle, TextsApart, isText], ?_⟩
    intro node inside body held
    simp only [allIn_riddle, List.mem_cons, List.not_mem_nil, or_false] at inside
    rcases inside with rfl | rfl | rfl | rfl | rfl | rfl | rfl | rfl <;>
      simp only [bodies, List.mem_cons, List.not_mem_nil, or_false] at held
    · rcases held with rfl | rfl <;> simp [TextsApart]
    · rcases held with rfl | rfl <;> simp [TextsApart]
    · rw [held]
      simp [TextsApart]
  shut := by
    refine .inr ⟨riddle.take 4, "\x7b", rfl, ?_⟩
    intro s inside
    simp [riddle, all] at inside
    rcases inside with rfl | rfl <;> decide
  names := by simp [blockNames, riddle, blocksIn_cons, block?, bodies]
  opening := by
    refine .inl fun node inside => ?_
    simp only [allIn_riddle, List.mem_cons, List.not_mem_nil, or_false] at inside
    rcases inside with rfl | rfl | rfl | rfl | rfl | rfl | rfl | rfl <;> rfl
  nesting := by decide

/-- So it is with that tree. -/
theorem parse_writes_riddle : ∃ source, Writes riddle source ∧
    ∃ t, parse "riddle" source = .ok t ∧ unlinedIn t.nodes = unlinedIn riddle := by
  obtain ⟨⟨source, writes⟩, back⟩ := parse_writes "riddle" riddle wellFormed_riddle
  obtain ⟨t, read, -, same, -⟩ := back source writes
  exact ⟨source, writes, t, read, same⟩

end TextTemplate.Source
