import TextTemplate.Proofs.Template.Tree
/-!
# Which body stands in the place of a block

A block is looked up in the chain of overriding templates, so the nodes being rendered may belong to
any template of the chain or to the one after all of them. A block of theirs leads to a template
that stands earlier in the chain, or else to its own body: names of blocks are unique in a template.
This is why no block leads back to itself.
-/
namespace TextTemplate.Render

variable {chain before : List Template} {owner : Template} {name : String} {body : List Node}

/-- The templates before the owner of nodes: a part of the chain that ends at the owner, or all of
the chain if the owner is the template after it. -/
def Placed (chain before : List Template) (owner : Template) : Prop :=
  chain = before ∨ ∃ after, chain = before ++ owner :: after

/-- The templates in front of an overriding one are in the chain. -/
theorem Placed.mem_of_mem (placed : Placed chain before owner) {t : Template}
    (earlier : t ∈ before) : t ∈ chain := by
  rcases placed with rfl | ⟨after, rfl⟩
  · exact earlier
  · exact List.mem_append_left _ earlier

/-- The templates before one that stands in the chain or after all of it. -/
theorem placed_of_append {after : List Template} {current : Template}
    (whole : chain ++ [current] = before ++ owner :: after) : Placed chain before owner := by
  rcases List.eq_nil_or_concat after with rfl | ⟨rest, last, rfl⟩
  · exact .inl (List.append_inj_left' whole rfl)
  · have shape : chain ++ [current] = (before ++ owner :: rest) ++ [last] := by
      rw [whole]
      simp
    exact .inr ⟨rest, List.append_inj_left' shape rfl⟩

/-- Where the owner has the block itself, only the templates before it matter. -/
theorem blockBody_eq_of_placed (placed : Placed chain before owner)
    (bound : owner.blocks.get? name = some body) :
    blockBody chain owner name body = blockBody before owner name body := by
  rcases placed with rfl | ⟨after, rfl⟩
  · rfl
  · unfold blockBody
    rw [List.findSome?_append, List.findSome?_cons, bound]
    cases before.findSome? fun t => (t.blocks.get? name).map (t, ·) <;> rfl

/-- A block leads to the first template before its own that has the block, or else to its own body.
-/
theorem blockBody_cases (placed : Placed chain before owner)
    (bound : owner.blocks.get? name = some body) :
    (blockBody chain owner name body = (owner, body) ∧
        ∀ t ∈ before, t.blocks.get? name = none) ∨
      ∃ front t back chosen, before = front ++ t :: back ∧ Placed chain front t ∧
        t.blocks.get? name = some chosen ∧ blockBody chain owner name body = (t, chosen) ∧
        ∀ earlier ∈ front, earlier.blocks.get? name = none := by
  rw [blockBody_eq_of_placed placed bound, blockBody]
  cases found : before.findSome? fun t => (t.blocks.get? name).map (t, ·) with
  | none =>
    refine .inl ⟨rfl, fun t earlier => ?_⟩
    exact Option.map_eq_none_iff.mp (List.findSome?_eq_none_iff.mp found t earlier)
  | some result =>
    obtain ⟨front, t, back, split, has, lack⟩ := List.findSome?_eq_some_iff.mp found
    obtain ⟨chosen, known, rfl⟩ := Option.map_eq_some_iff.mp has
    refine .inr ⟨front, t, back, chosen, split, ?_, known, rfl, fun earlier member => ?_⟩
    · rcases placed with rfl | ⟨after, rfl⟩
      · exact .inr ⟨back, split⟩
      · exact .inr ⟨back ++ owner :: after, by rw [split]; simp⟩
    · exact Option.map_eq_none_iff.mp (lack earlier member)

/-- For nodes of one of a line of templates, the last of which does not override, what stands in the
place of a block is what the first of them has that has the block. -/
theorem blockBody_of_mem {last : Template} (member : owner ∈ chain ++ [last])
    (bound : owner.blocks.get? name = some body) :
    ∃ source chosen, blockBody chain owner name body = (source, chosen) ∧
      source ∈ chain ++ [last] ∧ source.blocks.get? name = some chosen ∧
      (chain ++ [last]).findSome? (·.blocks.get? name) = some chosen := by
  have first : ∀ ts : List Template, ts.findSome? (·.blocks.get? name) =
      (ts.findSome? fun t => (t.blocks.get? name).map (t, ·)).map (·.2) := by
    intro ts
    induction ts with
    | nil => rfl
    | cons t ts ih =>
      rw [List.findSome?_cons, List.findSome?_cons]
      cases t.blocks.get? name with
      | none => exact ih
      | some chosen => rfl
  unfold blockBody
  rw [first]
  cases found : chain.findSome? fun t => (t.blocks.get? name).map (t, ·) with
  | some result =>
    obtain ⟨t, earlier, has⟩ := List.exists_of_findSome?_eq_some found
    obtain ⟨chosen, known, rfl⟩ := Option.map_eq_some_iff.mp has
    refine ⟨t, chosen, rfl, List.mem_append_left _ earlier, known, ?_⟩
    rw [List.findSome?_append, found]
    rfl
  | none =>
    have own : owner = last := by
      rcases List.mem_append.mp member with earlier | own
      · have lacks := List.findSome?_eq_none_iff.mp found owner earlier
        rw [bound] at lacks
        cases lacks
      · exact List.mem_singleton.mp own
    subst own
    refine ⟨owner, body, rfl, member, bound, ?_⟩
    rw [List.findSome?_append, found, List.findSome?_cons, bound]
    rfl

/-- A block of the owner's tree has its body in the table. -/
theorem get?_of_mem (regular : owner.Regular) (inside : .block name body ∈ Node.allIn owner.nodes) :
    owner.blocks.get? name = some body :=
  (regular.get?_blocks name body).mpr (Node.mem_blocksIn.mpr inside)

/-- What holds of nodes if it holds of the lists that they hold and of what stands in the place of
their blocks, holds of all nodes of the templates of a chain. -/
theorem placed_induction {motive : Template → List Node → Prop} (chain : List Template)
    (regular : ∀ t ∈ chain, t.Regular)
    (step : ∀ before owner ns, Placed chain before owner → owner.Regular →
      Node.allIn ns ⊆ Node.allIn owner.nodes →
      (∀ node ∈ ns, node.block? = none → ∀ held ∈ node.bodies, motive owner held) →
      (∀ name body, .block name body ∈ ns →
        motive (blockBody chain owner name body).1 (blockBody chain owner name body).2) →
      motive owner ns)
    (before : List Template) (owner : Template) (ns : List Node)
    (placed : Placed chain before owner) (read : owner.Regular)
    (inside : Node.allIn ns ⊆ Node.allIn owner.nodes) : motive owner ns := by
  refine step before owner ns placed read inside (fun node member _ held holds => ?_)
    (fun name body member => ?_)
  · have within := List.Subset.trans (Node.allIn_subset_of_mem member holds) inside
    have smaller := Node.sizeOf_lt_of_mem member holds
    exact placed_induction chain regular step before owner held placed read within
  · have bound := get?_of_mem read (inside (Node.mem_allIn_of_mem member))
    rcases blockBody_cases placed bound with
      ⟨own, -⟩ | ⟨front, t, back, chosen, split, there, known, other, -⟩
    · rw [own]
      have held : body ∈ (Node.block name body).bodies := List.mem_cons_self
      have smaller := Node.sizeOf_lt_of_mem member held
      exact placed_induction chain regular step before owner body placed read
        (List.Subset.trans (Node.allIn_subset_of_mem member held) inside)
    · rw [other]
      have shorter : front.length < before.length := by simp [split]
      have known' := regular t (placed.mem_of_mem (by simp [split]))
      exact placed_induction chain regular step front t chosen there known'
        (known'.allIn_body_subset known)
termination_by (before.length, sizeOf ns)

end TextTemplate.Render
