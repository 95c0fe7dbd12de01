import TextTemplate.Proofs.Source.Scanning
/-!
# Reading a source by bytes

A source is read here as `parse` reads it, with the same builder, only that every part of it is a
slice: the tokens are cut off by `locate`, the name and the arguments of a tag by `splitTagAt`, and
the words by `locateWords`. So a slice that is not in the text, or that begins or ends inside a
character, ends all of it without a result; where there is a slice at all,
`Text.isSome_slice?_iff` says. Words are cut off wherever some may stand, also where the builder
does not ask for them.

Main statement: that never happens. Whatever the source is, there is a result, and it is the tree or
the fault that `parse` gives (`no_slice_fails`).
-/
namespace TextTemplate.Source

open TextTemplate

/-- What a slice says. -/
def Slice.wording? (part : Slice) : Option Wording :=
  (locateWords part).run.map fun words =>
    ⟨part.text.isEmpty, List.map LocatedWord.word <$> words⟩

/-- What is read of a token that knows where it stands. -/
def LocatedToken.reading? (token : LocatedToken) : Option Reading :=
  match token.kind with
  | .text => some (.text (String.ofList token.content.text))
  | .variable => token.content.wording?.map .variable
  | .tag => do
    let (name, args) ← splitTagAt token.content
    return .tag (String.ofList name.text) (← args.wording?)

/-- No slice of a word fails. -/
theorem Slice.wording?_eq (part : Slice) : part.wording? = some (.of part.text) := by
  have words := congrArg ExceptT.run (words_locateWords part)
  rw [ExceptT.run_map] at words
  obtain ⟨found, run, same⟩ := Option.map_eq_some_iff.mp words
  rw [Slice.wording?, run, Option.map_some]
  exact congrArg (fun words => some (Wording.mk part.text.isEmpty words)) same

/-- No slice of a token fails, and what is read of it does not depend on where it stands. -/
theorem LocatedToken.reading?_eq (token : LocatedToken) :
    token.reading? = some token.token.reading := by
  obtain ⟨kind, body, line⟩ := token
  cases kind with
  | text => rfl
  | «variable» =>
    rw [LocatedToken.reading?, Slice.wording?_eq]
    rfl
  | tag =>
    rw [LocatedToken.reading?, splitTagAt_eq]
    dsimp only [bind, Option.bind]
    rw [Slice.wording?_eq]
    rfl

namespace Sliced

/-- One token more. -/
def add (b : Builder) (token : LocatedToken) : ExceptT SyntaxError Option Builder := do
  unsliced (b.addReading token.line (← sliced token.reading?))

/-- The template of a name and a source, or what is wrong with the source. -/
def parse (name : String) (source : List Char) : ExceptT SyntaxError Option Template := do
  let built ← (← locate source).foldlM add Builder.start
  unsliced (built.finish name)

/-- A token is added as it is without its place. -/
theorem add_eq (b : Builder) (token : LocatedToken) :
    add b token = unsliced (b.add token.token) := by
  rw [add, token.reading?_eq, sliced_some_bind]
  rfl

/-- Tokens are added as they are without their places. -/
theorem addAll_eq (b : Builder) (tokens : List LocatedToken) :
    tokens.foldlM add b = unsliced (b.addAll (tokens.map LocatedToken.token)) := by
  induction tokens generalizing b with
  | nil => rfl
  | cons token tokens ih =>
    rw [List.foldlM_cons, add_eq]
    simp only [ih, unsliced_bind]
    rfl

/-- Whatever the source is, no slice fails: reading it by bytes gives the tree or the fault that
reading it gives. -/
theorem no_slice_fails (name : String) (source : List Char) :
    (parse name source).run = some (Source.parse name source) := by
  have cut : (locate source >>= fun tokens => tokens.foldlM add Builder.start) =
      unsliced (tokenize source >>= Builder.start.addAll) := by
    simp only [addAll_eq]
    calc
      _ = List.map LocatedToken.token <$> locate source >>= fun tokens =>
          unsliced (Builder.start.addAll tokens) := (bind_map_left _ _ _).symm
      _ = _ := by rw [tokens_locate, unsliced_bind]
  have whole : parse name source = unsliced (Source.parse name source) := by
    unfold parse Source.parse
    rw [← bind_assoc, cut, unsliced_bind, bind_assoc]
  rw [whole]
  rfl

end Sliced

end TextTemplate.Source
