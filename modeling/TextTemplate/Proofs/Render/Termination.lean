import TextTemplate.Proofs.Render.Completion
import TextTemplate.Proofs.Render.Overriding
import TextTemplate.Proofs.Render.Safety
/-!
# Every render ends

Three recursions interleave in a render. Templates nest, and each one more is one more of those
being rendered, of which there may be only so many. Nodes hold nodes, and a block leads either to
its own body or to a template that stands earlier in the chain. A loop visits the items of its list,
which keeps them while no callable changes a list.
-/
namespace TextTemplate

namespace Render

variable {setting : Setting} {m n : Machine}

/-- The render ends when it starts from the machine. -/
abbrev Ends {α : Type} (x : Render α) (m : Machine) : Prop := Safe (fun _ => True) False x m

/-- What is asked of a machine from which a render is to end: that its templates were read from
sources, and that no more than so many can be rendered inside those that are. -/
structure Ready (setting : Setting) (room : Nat) (m : Machine) : Prop where
  /-- The known templates were read from sources. -/
  library : m.library.Parsed
  /-- The overriding templates have the form of those that were. -/
  chain : ∀ t ∈ m.chain, t.Regular
  /-- So many templates more may be rendered inside the others, and no more. -/
  room : setting.config.maxDepth ≤ m.active.length + room

variable {room : Nat}

/-- A machine that stays is still ready. -/
theorem Ready.stays (ready : Ready setting room m) (stays : m.Stays n) : Ready setting room n where
  library := stays.parsed ready.library
  chain := stays.chain ▸ ready.chain
  room := stays.active ▸ ready.room

/-- A template that is loaded was read from a source. -/
theorem regular_of_resolve {t : Template} {expr : Expr} (ready : Ready setting room m)
    (resolved : resolve setting expr m = .done t n) : t.Regular ∧ m.Stays n := by
  obtain ⟨parsed, stays⟩ := parsed_of_resolve ready.library resolved
  exact ⟨parsed.regular, stays⟩

/-- To resolve a template ends. -/
theorem ends_resolve (expr : Expr) (m : Machine) : Ends (resolve setting expr) m := by
  refine Safe.bind (safe_of_done rfl) fun v k _ => ?_
  unfold Safe
  rw [holds_load]
  cases k.library.load setting.config k.files v.text <;> trivial

section Loop

variable {owner : Template} {var : String} {reversed : Bool} {body : List Node} {list : ListRef}

/-- A bound on the iterations from a cursor on. -/
def remaining (reversed : Bool) (cursor : Cursor) (count : Nat) : Nat :=
  match cursor.position with
  | none => 0
  | some p => if reversed then p + 1 else count - p

/-- With each item that is visited fewer are left. -/
theorem remaining_advance {cursor : Cursor} {heap : Heap} {item : Value}
    (here : cursor.current heap list = some item) :
    remaining reversed (advance reversed cursor) (heap.count list) <
      remaining reversed cursor (heap.count list) := by
  obtain ⟨position⟩ := cursor
  cases position with
  | none => simp [Cursor.current] at here
  | some p =>
    have inside : p < heap.count list := by
      obtain ⟨inside, -⟩ := Array.getElem?_eq_some_iff.mp here
      exact inside
    cases reversed with
    | true =>
      by_cases first : p = 0 <;> simp [remaining, advance, Cursor.prev, first]
      omega
    | false =>
      show heap.count list - (p + 1) < heap.count list - p
      omega

/-- A loop over a list that keeps its items ends if its body does. -/
theorem ends_iterate (calm : setting.host.Calm) {chain : List Template} {m : Machine}
    (inside : ∀ k, Ready setting room k → k.chain = chain →
      Ends (complete setting (.nodes owner body)) k)
    (cursor : Cursor) (index : Nat) (ready : Ready setting room m) (same : m.chain = chain)
    (holds : m.host.heap.items list ≠ #[]) :
    Ends (complete setting (.iterate owner var reversed body list cursor index)) m := by
  unfold Ends Safe
  rw [complete_iterate]
  cases here : cursor.current m.host.heap list with
  | none => trivial
  | some item =>
    have start : Ready setting room (bound setting var item list index m) :=
      ⟨ready.library, ready.chain, ready.room⟩
    refine Safe.bind (inside _ start same) fun _ n done => ?_
    have returns := (steady_complete_nodes owner body).returns done
    have kept := returns.items calm list holds
    have fewer : remaining reversed (advance reversed cursor) (m.host.heap.count list) <
        remaining reversed cursor (m.host.heap.count list) := remaining_advance here
    have count : n.host.heap.count list = m.host.heap.count list := congrArg Array.size kept
    exact ends_iterate calm inside _ _ (start.stays returns.toStays) (returns.chain.trans same)
      (kept ▸ holds)
termination_by remaining reversed cursor (m.host.heap.count list)
decreasing_by rw [count]; exact fewer

end Loop

/-- The nodes of every template that is being rendered end, if the templates that they name do. -/
theorem ends_nodes (calm : setting.host.Calm)
    (templates : ∀ t k, t.Regular → Ready setting room k → Ends (complete setting (.template t)) k)
    {before : List Template} {owner : Template} (read : owner.Regular)
    (placed : Placed m.chain before owner) {ns : List Node}
    (inside : Node.allIn ns ⊆ Node.allIn owner.nodes) (ready : Ready setting room m) :
    Ends (complete setting (.nodes owner ns)) m := by
  refine placed_induction (motive := fun owner ns => ∀ k, Ready setting room k →
    k.chain = m.chain → Ends (complete setting (.nodes owner ns)) k) m.chain ready.chain ?_
    before owner ns placed read inside m ready rfl
  intro before owner ns placed read inside held chosen k ready same
  rw [complete_eq, step]
  have stays : ∀ k l : Machine, Ready setting room k ∧ k.chain = m.chain → k.Stays l →
      Ready setting room l ∧ l.chain = m.chain :=
    fun k l kept stays => ⟨kept.1.stays stays, stays.chain.trans kept.2⟩
  refine safe_nodes steady_complete stays ⟨ready, same⟩ fun node member k kept => ?_
  refine safe_node steady_complete stays trivial kept (fun unnamed body holds k kept => ?_)
    (fun var expr reversed body otherwise shape list cursor k kept items => ?_)
    (fun name body shape => ?_) (fun expr _ => ends_resolve expr _)
    (fun expr t l shape resolved => ?_) (fun expr t l sink named goesOn resolved => ?_)
  · exact held node member unnamed body holds k kept.1 kept.2
  · subst shape
    exact ends_iterate calm (held _ member rfl body (by simp [Node.bodies])) cursor 0 kept.1 kept.2
      items
  · subst shape
    have there := chosen name body member k kept.1 kept.2
    rwa [← kept.2] at there
  · obtain ⟨regular, stays⟩ := regular_of_resolve kept.1 resolved
    have there := kept.1.stays stays
    refine templates t _ regular ⟨there.library, fun d within => ?_, there.room⟩
    rcases List.mem_append.mp within with earlier | last
    · exact there.chain d earlier
    · rw [List.mem_singleton.mp last]
      exact read
  · have asks := kept.1.stays (stays_asking node setting.host k)
    obtain ⟨regular, stays⟩ := regular_of_resolve asks resolved
    have there := asks.stays stays
    exact templates t _ regular
      ⟨there.library, fun _ within => absurd within List.not_mem_nil, there.room⟩

/-- A template ends: those inside it have less room. -/
theorem ends_template (calm : setting.host.Calm) (t : Template) (regular : t.Regular)
    (ready : Ready setting room m) : Ends (complete setting (.template t)) m := by
  induction room generalizing t m with
  | zero =>
    rw [complete_eq]
    exact safe_template (fun _ => trivial) (fun _ _ => trivial) fun _ vacant =>
      absurd ready.room (Nat.not_le.mpr vacant)
  | succ room ih =>
    rw [complete_eq]
    refine safe_template (fun _ => trivial) (fun _ _ => trivial) fun _ _ => ?_
    have less := ready.room
    refine ends_nodes calm (fun t k => ih t) regular (.inl rfl) (fun _ => id)
      ⟨ready.library, ready.chain, ?_⟩
    simp
    omega

/-- A render that ends does not want for fuel. -/
theorem Ends.ne_outOfFuel {x : Render Unit} (ends : Ends x m) : x m ≠ .outOfFuel := by
  intro starved
  unfold Ends Safe at ends
  rw [starved] at ends
  exact ends

end Render

/-- With callables that change no list, every render of a template that was read from a source ends,
given enough fuel, and any more fuel gives the same ending. -/
theorem Template.render_ends {setting : Setting} (calm : setting.host.Calm) (t : Template)
    (parsed : t.Parsed) (m : Machine) (library : m.library.Parsed) :
    ∃ n ending, ending ≠ .outOfFuel ∧ ∀ fuel, n ≤ fuel → t.render setting fuel m = ending := by
  have ready : Render.Ready setting setting.config.maxDepth
      { m with active := [], chain := [], outcomes := #[] } :=
    ⟨library, by simp, by simp⟩
  obtain ⟨n, reached⟩ := Render.run_of_complete setting (.template t)
    { m with active := [], chain := [], outcomes := #[] }
  exact ⟨n, _, (Render.ends_template calm t parsed.regular ready).ne_outOfFuel, reached⟩

/-- A template that includes itself for every item of a list. -/
def Template.tree : Template where
  name := "tree"
  nodes := [.forEach "x" ⟨.path "xs" [], []⟩ false [.includes ⟨.literal (.text "tree"), []⟩] []]
  blocks := ∅

/-- The template is read from its source. -/
theorem Template.parse_tree : Source.parse "tree" (Source.tag "for x in xs" ++
    Source.tag "include 'tree'" ++ Source.tag "endfor").toList = .ok tree := by
  with_unfolding_all rfl

/-- A template that includes itself for each of two items ends. -/
theorem Template.render_tree_ends :
    ∃ n ending, ending ≠ .outOfFuel ∧ ∀ fuel, n ≤ fuel →
      Template.tree.render ⟨.silent, default⟩ fuel
        (.start (Table.insert ∅ "tree" tree) (Context.set ∅ "xs" (.ofList ⟨0⟩))
          ⟨#[#[.ofText "a", .ofText "b"]], #[]⟩) = ending :=
  Template.render_ends (fun _ _ _ _ _ => rfl) Template.tree ⟨_, Template.parse_tree⟩ _
    (Library.parsed_empty.insert Template.parse_tree)

end TextTemplate
