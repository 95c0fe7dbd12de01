import TextTemplate.Proofs.Template.Shape
import Mathlib.Data.List.Forall2
/-!
# Constructs that are open

Which constructs are open after some tokens is told by the names of their tags alone: a tag opens a
construct, divides or closes the innermost one, or stands for itself (`TagRole`). `scan` follows the
tokens in this way and remembers where each construct was opened. Main statement: a builder that has
added tokens without a fault has the constructs open that the scan tells, and it knows the lines and
the arguments of their opening tags (`tracks_addAll`).
-/
namespace TextTemplate.Source

open TextTemplate

/-- What a tag does to the constructs that are open. -/
inductive TagRole
  | opens
  | divides
  | closes
  | stands
deriving DecidableEq

/-- The role of a tag by its name. -/
def TagRole.ofName (name : String) : TagRole :=
  if name ∈ ["for", "if", "block"] then .opens
  else if name ∈ ["empty", "else"] then .divides
  else if name ∈ ["endfor", "endif", "endblock"] then .closes
  else .stands

namespace Token

/-- The name of a tag. -/
def tag? (token : Token) : Option String :=
  match token.kind with
  | .tag => some (Builder.splitTag token.content).1
  | _ => none

/-- The role of a token; texts and variables stand for themselves. -/
def role (token : Token) : TagRole := token.tag?.elim .stands TagRole.ofName

/-- A token is the opening tag of a block of the given name. -/
def OpensBlock (token : Token) (name : String) : Prop :=
  token.tag? = some "block" ∧ lexemes token.inner = .ok [.name name]

variable {token : Token} {name : String}

/-- The role of a tag is that of its name. -/
theorem role_of_tag (tagged : token.tag? = some name) : token.role = .ofName name := by
  rw [role, tagged, Option.elim_some]

/-- The arguments of a tag are all that stands in it but its name. -/
theorem add_of_tag? (b : Builder) (tagged : token.tag? = some name) :
    b.add token = b.tag token.line name token.inner := by
  cases kind : token.kind with
  | text | «variable» =>
    rw [tag?, kind] at tagged
    cases tagged
  | tag =>
    rw [tag?, kind] at tagged
    cases tagged
    rw [b.add_of_tag kind, inner, kind]

/-- A tag is no text. -/
theorem kind_ne_text_of_tag (tagged : token.tag? = some name) : token.kind ≠ .text := by
  intro text
  rw [tag?, text] at tagged
  cases tagged

end Token

/-- A construct that was opened. -/
structure Construct where
  /-- The tokens before its opening tag. -/
  before : List Token
  /-- Its opening tag. -/
  opener : Token
  /-- Whether it was divided. -/
  divided : Bool

/-- What the tags among some tokens have opened and closed. -/
structure Scan where
  /-- The tokens. -/
  read : List Token
  /-- The constructs that are open, innermost first. -/
  pending : List Construct
  /-- The constructs that were closed, the last one first. -/
  closed : List Construct

namespace Scan

/-- One token more. -/
def next (s : Scan) (token : Token) : Scan :=
  match token.role, s.pending with
  | .opens, pending => ⟨s.read ++ [token], ⟨s.read, token, false⟩ :: pending, s.closed⟩
  | .divides, c :: outer => ⟨s.read ++ [token], { c with divided := true } :: outer, s.closed⟩
  | .closes, c :: outer => ⟨s.read ++ [token], outer, c :: s.closed⟩
  | _, pending => ⟨s.read ++ [token], pending, s.closed⟩

end Scan

/-- The constructs that tokens open and close. -/
def scan (tokens : List Token) : Scan := tokens.foldl Scan.next ⟨[], [], []⟩

/-- The last token comes last. -/
theorem scan_concat (tokens : List Token) (token : Token) :
    scan (tokens ++ [token]) = (scan tokens).next token := by
  simp [scan]

namespace Scan

variable {s : Scan} {token : Token}

/-- A scan remembers each token. -/
@[simp] theorem read_next : (s.next token).read = s.read ++ [token] := by
  unfold next
  split <;> rfl

/-- A tag that opens a construct leaves it open. -/
theorem next_of_opens (opens : token.role = .opens) :
    s.next token = ⟨s.read ++ [token], ⟨s.read, token, false⟩ :: s.pending, s.closed⟩ := by
  rw [next, opens]

/-- A tag that divides the innermost construct leaves it divided. -/
theorem next_of_divides {c : Construct} {outer : List Construct} (divides : token.role = .divides)
    (innermost : s.pending = c :: outer) :
    s.next token = ⟨s.read ++ [token], { c with divided := true } :: outer, s.closed⟩ := by
  rw [next, divides, innermost]

/-- A tag that closes the innermost construct leaves it closed. -/
theorem next_of_closes {c : Construct} {outer : List Construct} (closes : token.role = .closes)
    (innermost : s.pending = c :: outer) :
    s.next token = ⟨s.read ++ [token], outer, c :: s.closed⟩ := by
  rw [next, closes, innermost]

/-- What stands for itself changes no construct. -/
theorem next_of_stands (stands : token.role = .stands) :
    s.next token = ⟨s.read ++ [token], s.pending, s.closed⟩ := by
  rw [next, stands]

end Scan

/-- A scan remembers all tokens in order. -/
theorem read_scan (tokens : List Token) : (scan tokens).read = tokens := by
  induction tokens using List.reverseRecOn with
  | nil => rfl
  | append_singleton tokens token ih => rw [scan_concat, Scan.read_next, ih]

/-- An open construct was opened where the scan says. -/
theorem split_of_pending {tokens : List Token} {c : Construct}
    (member : c ∈ (scan tokens).pending) :
    ∃ inside, tokens = c.before ++ c.opener :: inside := by
  induction tokens using List.reverseRecOn generalizing c with
  | nil => cases member
  | append_singleton tokens token ih =>
    have later : ∀ {c : Construct}, c ∈ (scan tokens).pending →
        ∃ inside, tokens ++ [token] = c.before ++ c.opener :: inside := by
      intro c member
      obtain ⟨inside, split⟩ := ih member
      exact ⟨inside ++ [token], by rw [split]; simp⟩
    rw [scan_concat, Scan.next] at member
    split at member
    · rcases List.mem_cons.mp member with rfl | member
      · exact ⟨[], by rw [read_scan]⟩
      · exact later member
    · rename_i first outer _ innermost
      rcases List.mem_cons.mp member with rfl | member
      · have same : first ∈ (scan tokens).pending := by rw [innermost]; exact List.mem_cons_self
        obtain ⟨inside, split⟩ := later same
        exact ⟨inside, split⟩
      · exact later (by rw [innermost]; exact List.mem_cons_of_mem _ member)
    · rename_i innermost
      exact later (by rw [innermost]; exact List.mem_cons_of_mem _ member)
    · exact later member

/-! ### What a builder knows of them -/

/-- A builder keeps of an open construct the line of its opening tag, what that says, and whether
the construct was divided. -/
structure Construct.Tracks (c : Construct) (frame : Frame) : Prop where
  /-- The line is that of the opening tag. -/
  line : frame.line = c.opener.line
  /-- The opening tag has the name of the construct. -/
  tag : c.opener.tag? = some frame.opening.tag
  /-- Its arguments are the words of the construct. -/
  words : ∃ words, lexemes c.opener.inner = .ok words ∧ OpeningWords frame.opening words
  /-- The construct is divided if the scan says so. -/
  divided : c.divided = frame.divided.isSome

/-- A builder that added the tokens of a scan has the constructs open that the scan tells. -/
structure Scan.Tracks (s : Scan) (b : Builder) : Prop where
  /-- The open constructs are those that the scan tells. -/
  pending : List.Forall₂ Construct.Tracks s.pending b.frames
  /-- There is a variable or tag in front of what a builder has started or opened. -/
  started : b.started = true ∨ b.frames ≠ [] → ∃ token ∈ s.read, token.kind ≠ .text
  /-- A block that is in the table was closed. -/
  closed : ∀ name, b.blocks.contains name = true → ∃ c ∈ s.closed, c.opener.OpensBlock name

/-- A construct that is known as a block was opened by the tag of a block. -/
theorem Construct.Tracks.opensBlock {c : Construct} {frame : Frame} {name : String}
    (tracks : c.Tracks frame) (block : frame.opening = .block name) :
    c.opener.OpensBlock name := by
  obtain ⟨words, laid, written⟩ := tracks.words
  have tagged := tracks.tag
  rw [block] at written tagged
  cases written
  exact ⟨tagged, laid⟩

/-- The tag that closes a construct has the role of closing. -/
theorem Opening.role_closer (opening : Opening) : TagRole.ofName opening.closer = .closes := by
  cases opening <;> rfl

/-- The tag that divides a construct has the role of dividing. -/
theorem Opening.role_divider {opening : Opening} {name : String}
    (divides : opening.divider? = some name) : TagRole.ofName name = .divides := by
  cases opening <;> cases divides <;> rfl

/-- The tag that opens a construct has the role of opening. -/
theorem Opening.role_tag (opening : Opening) : TagRole.ofName opening.tag = .opens := by
  cases opening <;> rfl

namespace Scan

variable {s : Scan} {b built : Builder} {token : Token} {name : String}

/-- A token that stands for itself opens and closes nothing. -/
theorem Tracks.stands (tracks : s.Tracks b) (stands : token.role = .stands)
    (frames : built.frames = b.frames) (blocks : built.blocks = b.blocks)
    (kept : built.started = b.started ∨ token.kind ≠ .text) : (s.next token).Tracks built := by
  rw [next_of_stands stands]
  refine ⟨frames ▸ tracks.pending, fun started => ?_, blocks ▸ tracks.closed⟩
  rcases kept with same | marked
  · rw [same, frames] at started
    obtain ⟨other, member, marked⟩ := tracks.started started
    exact ⟨other, List.mem_append_left _ member, marked⟩
  · exact ⟨token, List.mem_append_right _ List.mem_cons_self, marked⟩

/-- The innermost open construct of a builder is that of the scan. -/
theorem Tracks.innermost (tracks : s.Tracks b) {frame : Frame} {outer : List Frame}
    (frames : b.frames = frame :: outer) :
    ∃ c rest, s.pending = c :: rest ∧ c.Tracks frame ∧
      List.Forall₂ Construct.Tracks rest outer := by
  have pending := tracks.pending
  rw [frames] at pending
  obtain ⟨c, rest, first, later, same⟩ := List.forall₂_cons_right_iff.mp pending
  exact ⟨c, rest, same, first, later⟩

/-- A tag that closes the innermost construct closes it in the scan. -/
theorem Tracks.closeFrame (tracks : s.Tracks b) {frame : Frame} {outer : List Frame}
    (frames : b.frames = frame :: outer) (tagged : token.tag? = some frame.opening.closer)
    {blocks : Table String (List Node)}
    (new : ∀ name, blocks.contains name = true → b.blocks.contains name = true ∨
      frame.opening = .block name) :
    (s.next token).Tracks { b.closeFrame frame outer with blocks } := by
  obtain ⟨c, rest, pending, first, later⟩ := tracks.innermost frames
  rw [next_of_closes ((token.role_of_tag tagged).trans frame.opening.role_closer) pending]
  refine ⟨later, fun _ => ?_, fun name known => ?_⟩
  · exact ⟨token, List.mem_append_right _ List.mem_cons_self, token.kind_ne_text_of_tag tagged⟩
  · rcases new name known with before | named
    · obtain ⟨other, member, opens⟩ := tracks.closed name before
      exact ⟨other, List.mem_cons_of_mem _ member, opens⟩
    · exact ⟨c, List.mem_cons_self, first.opensBlock named⟩

/-- A builder that takes a tag has the constructs open that the scan tells. -/
theorem Tracks.of_tag (tracks : s.Tracks b) (tagged : token.tag? = some name)
    (takes : b.Takes token.line (.tag name (.of token.inner)) built) :
    (s.next token).Tracks built := by
  have marked := token.kind_ne_text_of_tag tagged
  have role := token.role_of_tag tagged
  have started : ∃ other ∈ s.read ++ [token], other.kind ≠ .text :=
    ⟨token, List.mem_append_right _ List.mem_cons_self, marked⟩
  cases takes with
  | inherits => exact tracks.stands role rfl rfl (.inr marked)
  | includes => exact tracks.stands role rfl rfl (.inr marked)
  | creates => exact tracks.stands role rfl rfl (.inr marked)
  | @opened _ opening words laid written room =>
    rw [next_of_opens (role.trans opening.role_tag)]
    have first : Construct.Tracks ⟨s.read, token, false⟩ ⟨opening, token.line, b.nodes, none⟩ :=
      ⟨rfl, tagged, ⟨words, laid, written⟩, rfl⟩
    exact ⟨.cons first tracks.pending, fun _ => started, tracks.closed⟩
  | divided innermost whole divides bare =>
    obtain ⟨c, rest, pending, first, later⟩ := tracks.innermost innermost
    rw [next_of_divides (role.trans (Opening.role_divider divides)) pending]
    exact ⟨.cons ⟨first.line, first.tag, first.words, rfl⟩ later, fun _ => started, tracks.closed⟩
  | closed innermost unnamed bare =>
    exact tracks.closeFrame innermost tagged fun _ => .inl
  | @closedBlock _ frame outer block innermost named ends new =>
    refine tracks.closeFrame innermost (by rw [tagged, named]; rfl) fun other known => ?_
    by_cases same : block = other
    · exact .inr (same ▸ named)
    · exact .inl (by simpa [Table.contains, same] using known)

/-- One token more that a builder adds without a fault. -/
theorem Tracks.add (tracks : s.Tracks b) (added : b.add token = .ok built) :
    (s.next token).Tracks built := by
  obtain ⟨kind, content, line⟩ := token
  have takes := Builder.takes_of_add added
  cases kind with
  | text =>
    cases takes
    exact tracks.stands rfl rfl rfl (.inl rfl)
  | «variable» =>
    cases takes
    exact tracks.stands rfl rfl rfl (.inr nofun)
  | tag => exact tracks.of_tag rfl takes

end Scan

/-- At the start nothing is open. -/
theorem tracks_start : (scan []).Tracks Builder.start where
  pending := .nil
  started := by simp [Builder.start]
  closed name known := by cases known

/-- A builder that added tokens without a fault has the constructs open that their scan tells. -/
theorem tracks_addAll {tokens : List Token} {b : Builder}
    (succeeded : Builder.start.addAll tokens = .ok b) : (scan tokens).Tracks b := by
  induction tokens using List.reverseRecOn generalizing b with
  | nil =>
    cases succeeded
    exact tracks_start
  | append_singleton tokens token ih =>
    rw [Builder.addAll_append] at succeeded
    obtain ⟨before, added, last⟩ := Builder.ok_of_bind succeeded
    rw [Builder.addAll, List.foldlM_cons] at last
    obtain ⟨after, one, done⟩ := Builder.ok_of_bind last
    cases done
    rw [scan_concat]
    exact (ih added).add one

end TextTemplate.Source
