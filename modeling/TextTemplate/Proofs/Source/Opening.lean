import TextTemplate.Proofs.Source.Seam
/-!
# Where the marks of a source open

A source is cut from its start: the text in front of a mark and the mark make tokens, and the rest
is cut after them. `Reaches` follows the cutting from mark to mark, and `Opens` names the places at
which it comes to an opening delimiter. What is cut off tells the lines, and its tokens are the
first of the source (`Reaches.tokenize`). Main statements: a source that cannot be cut has an
opening delimiter to which the cutting comes and which is not closed (`Reaches.exists_unclosed`),
and every variable and tag of a source that is cut is made by the mark of such a place
(`Reaches.exists_made`).
-/
namespace TextTemplate.Source

/-- How far a source is cut: the part of it that is behind, the tokens that this made, and what is
left to be cut. -/
inductive Reaches (source : List Char) : List Char → List Token → List Char → Prop
  /-- At first all of the source is left. -/
  | start : Reaches source [] [] source
  /-- The text in front of a mark and the mark are cut off. -/
  | mark {front left text body after rest : List Char} {tokens : List Token} {d : Delimiter}
    (reached : Reaches source front tokens left)
    (opened : splitOpener left = (text, some (d, rest)))
    (closed : splitMark d rest = some (body, after)) :
    Reaches source (front ++ text ++ '{' :: d.mark :: (body ++ [d.closing, '}']))
      (tokens ++ (textToken? text (1 + lineEnds front)).toList ++
        (d.token? body (1 + lineEnds (front ++ text))).toList) after

/-- The cutting of a source comes to an opening delimiter: the part of the source in front of it
made the tokens, and the rest follows on it. -/
inductive Opens (source : List Char) : List Char → List Token → Delimiter → List Char → Prop
  /-- It stands after the text at which the cutting goes on. -/
  | after {front left text rest : List Char} {tokens : List Token} {d : Delimiter}
    (reached : Reaches source front tokens left)
    (opened : splitOpener left = (text, some (d, rest))) :
    Opens source (front ++ text) (tokens ++ (textToken? text (1 + lineEnds front)).toList) d rest

section Cutting

variable {source front left rest : List Char} {before tokens : List Token} {d : Delimiter}

/-- The line ends of a part that ends in a mark are those in front of the mark and those in it. -/
theorem lineEnds_mark (front body : List Char) (d : Delimiter) :
    lineEnds (front ++ '{' :: d.mark :: (body ++ [d.closing, '}'])) =
      lineEnds front + lineEnds body := by
  cases d <;> simp [lineEnds, Delimiter.mark, Delimiter.closing]

/-- What is behind and what is left are the source. -/
theorem Reaches.eq_append (reached : Reaches source front before left) :
    source = front ++ left := by
  induction reached with
  | start => rfl
  | mark _ opened closed ih =>
    rw [ih, eq_of_splitOpener opened, eq_of_splitMark closed]
    simp

/-- An opening delimiter to which the cutting comes stands in the source. -/
theorem Opens.eq_append (opens : Opens source front before d rest) :
    source = front ++ '{' :: d.mark :: rest := by
  obtain ⟨reached, opened⟩ := opens
  rw [reached.eq_append, eq_of_splitOpener opened, List.append_assoc]

/-- The text in front of a mark begins on the line that is told by what is behind. -/
theorem lineEnds_text (front text : List Char) :
    1 + lineEnds front + lineEnds text = 1 + lineEnds (front ++ text) := by
  rw [lineEnds, lineEnds, lineEnds, List.count_append, Nat.add_assoc]

/-- The tokens of a source are those of what is behind and those of what is left. -/
theorem Reaches.tokenize (reached : Reaches source front before left) :
    tokenize source = (before ++ ·) <$> tokensFrom (1 + lineEnds front) left := by
  induction reached with
  | start =>
    have none_ : 1 + lineEnds ([] : List Char) = 1 := rfl
    rw [Source.tokenize, none_]
    cases tokensFrom 1 source <;> rfl
  | @mark front left text body after rest tokens d _ opened closed ih =>
    rw [ih, tokensFrom_eq, opened]
    simp only [closed]
    rw [lineEnds_text, lineEnds_mark, ← Nat.add_assoc]
    cases tokensFrom (1 + lineEnds (front ++ text) + lineEnds body) after with
    | error e => rfl
    | ok later => simp [Functor.map, Except.map]

/-- If what is left cannot be cut, the cutting comes to an opening delimiter that is not closed, and
the error tells its line. -/
theorem Reaches.exists_unclosed {line : Nat} {e : SyntaxError}
    (reached : Reaches source front before left) (place : line = 1 + lineEnds front)
    (failed : tokensFrom line left = .error e) :
    ∃ front tokens d rest, Opens source front tokens d rest ∧ splitMark d rest = none ∧
      e = ⟨1 + lineEnds front, .unclosedMark d⟩ := by
  fun_induction tokensFrom line left generalizing front before with
  | case1 => cases failed
  | case2 line left text d rest opened =>
    rename_i unended
    cases failed
    refine ⟨_, _, d, rest, .after reached opened, unended, ?_⟩
    rw [← lineEnds_text, ← place]
  | case3 line left text d rest opened markLine body after closed =>
    rename_i ih
    cases later : tokensFrom (markLine + lineEnds body) after with
    | ok tokens =>
      rw [later] at failed
      cases failed
    | error cause =>
      rw [later] at failed
      cases failed
      refine ih (reached.mark opened closed) ?_ later
      rw [lineEnds_mark, ← Nat.add_assoc, ← lineEnds_text, ← place]

/-- A variable or tag among tokens of which the first are texts comes after these. -/
theorem split_of_texts {texts later inside back : List Token} {token : Token}
    (plain : ∀ t ∈ texts, t.kind = .text) (marked : token.kind ≠ .text)
    (split : texts ++ later = inside ++ token :: back) :
    ∃ between, inside = texts ++ between ∧ later = between ++ token :: back := by
  rcases List.append_eq_append_iff.mp split with ⟨between, rfl, same⟩ | ⟨between, rfl, same⟩
  · exact ⟨between, rfl, same⟩
  · cases between with
    | nil => exact ⟨[], by simp, same.symm⟩
    | cons first between =>
      obtain ⟨rfl, -⟩ := List.cons.inj same
      exact absurd (plain token (by simp)) marked

/-- The token of the text in front of a mark is a text. -/
theorem kind_textToken {text : List Char} {line : Nat} :
    ∀ t ∈ (textToken? text line).toList, t.kind = .text := by
  unfold textToken?
  split <;> simp

/-- A variable or tag of what is left is made by a mark to whose opening delimiter the cutting comes
after the tokens in front of it. -/
theorem Reaches.exists_made {line : Nat} {inside later : List Token} {token : Token}
    (reached : Reaches source front before left) (place : line = 1 + lineEnds front)
    (cut : tokensFrom line left = .ok tokens) (split : tokens = inside ++ token :: later)
    (marked : token.kind ≠ .text) :
    ∃ front d rest body after, Opens source front (before ++ inside) d rest ∧
      splitMark d rest = some (body, after) ∧
      d.token? body (1 + lineEnds front) = some token := by
  fun_induction tokensFrom line left generalizing front before tokens inside with
  | case1 line left text opened =>
    cases cut
    have text_ := kind_textToken token (by rw [split]; simp)
    exact absurd text_ marked
  | case2 => cases cut
  | case3 line left text d rest opened markLine body after closed =>
    rename_i ih
    obtain ⟨others, onward, same⟩ := Builder.ok_of_bind cut
    have begins : markLine = 1 + lineEnds (front ++ text) := by rw [← lineEnds_text, ← place]
    have goes : markLine + lineEnds body =
        1 + lineEnds (front ++ text ++ '{' :: d.mark :: (body ++ [d.closing, '}'])) := by
      rw [lineEnds_mark, begins, Nat.add_assoc]
    have whole : (textToken? text line).toList ++ ((d.token? body markLine).toList ++ others) =
        inside ++ token :: later := by
      rw [← split, ← List.append_assoc]
      exact Except.ok.inj same
    obtain ⟨between, rfl, here⟩ := split_of_texts kind_textToken marked whole
    have next := reached.mark opened closed
    rw [← begins, ← place] at next
    -- the token is that of the mark, or one of those of what follows on the mark
    cases made : d.token? body markLine with
    | none =>
      rw [made] at here next
      have further := ih next goes onward here
      rwa [Option.toList_none, List.append_nil, List.append_assoc] at further
    | some first =>
      rw [made] at here next
      cases between with
      | nil =>
        obtain ⟨rfl, -⟩ := List.cons.inj here
        have opens := Opens.after reached opened
        rw [← place] at opens
        rw [begins] at made
        exact ⟨_, d, rest, body, after, (List.append_nil _).symm ▸ opens, closed, made⟩
      | cons other between =>
        obtain ⟨rfl, behind⟩ := List.cons.inj here
        have further := ih next goes onward behind
        rw [Option.toList_some, List.append_assoc, List.append_assoc] at further
        exact further

end Cutting

end TextTemplate.Source
