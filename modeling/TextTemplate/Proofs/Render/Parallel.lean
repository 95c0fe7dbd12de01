import TextTemplate.Proofs.Render.Agreement
/-!
# Nodes that do the same

Two lists of nodes do the same if their nodes do so one by one; where a node holds lists of nodes,
it does the same if those lists do. The nodes may belong to different templates and have different
templates overriding, as long as blocks are told apart from the rest.
-/
namespace TextTemplate.Render

variable {α β : Type} {c : Comparison}

/-- Two renders do the same, and the first leaves everything as it finds it which no render changes.
-/
structure Parallel (host : Host) (c : Comparison) (x y : Render α) : Prop where
  /-- The first render is steady. -/
  steady : Steady host x
  /-- Both do the same. -/
  relates : Relates c x y

/-- Sequences do the same if their parts do. -/
theorem Parallel.bind {host : Host} {x y : Render α} {f g : α → Render β}
    (first : Parallel host c x y) (second : ∀ v, Parallel host c (f v) (g v)) :
    Parallel host c (x >>= f) (y >>= g) where
  steady := first.steady.bind fun v => (second v).steady
  relates := first.relates.bind (fun v => (second v).relates) fun v => (second v).steady.leads

/-- What is read from paired machines is the same, if it tells nothing of what differs. -/
theorem parallel_reads (host : Host) (f : Machine → α)
    (same : ∀ m n, Paired c m n → f m = f n) : Parallel host c (reads f) (reads f) :=
  ⟨steady_reads f, relates_reads f same⟩

/-- Writing the same text is the same. -/
theorem parallel_emit (host : Host) (text : String) : Parallel host c (emit text) (emit text) :=
  ⟨steady_emit text, relates_emit text⟩

section Lists

variable {setting : Setting} {owner other : Template}

/-- No nodes do the same as no nodes. -/
theorem parallel_nil : Parallel setting.host c (complete setting (.nodes owner []))
    (complete setting (.nodes other [])) := by
  rw [complete_nodes_nil, complete_nodes_nil]
  exact ⟨fun m => .refl setting.host m, fun m n paired => .done () ⟨paired, .refl c m n⟩⟩

/-- Lists of nodes do the same if their first nodes do, which do not inherit, and the others do. -/
theorem parallel_cons {first first' : Node} {rest rest' : List Node}
    (goesOn : isLast first = false) (goesOn' : isLast first' = false)
    (here : Parallel setting.host c (node setting (complete setting) owner first)
      (node setting (complete setting) other first'))
    (later : Parallel setting.host c (complete setting (.nodes owner rest))
      (complete setting (.nodes other rest'))) :
    Parallel setting.host c (complete setting (.nodes owner (first :: rest)))
      (complete setting (.nodes other (first' :: rest'))) := by
  simp only [complete_nodes_cons, goesOn, goesOn', Bool.false_eq_true, if_false]
  exact here.bind fun _ => later

/-- Texts are rendered in the same way wherever they stand. -/
theorem parallel_texts {texts : List Node} (plain : ∀ node ∈ texts, node.isText = true) :
    Parallel setting.host c (complete setting (.nodes owner texts))
      (complete setting (.nodes other texts)) := by
  induction texts with
  | nil => exact parallel_nil
  | cons first rest ih =>
    have later := ih fun node member => plain node (List.mem_cons_of_mem _ member)
    obtain ⟨s, rfl⟩ : ∃ s, first = .text s := by
      have text := plain first List.mem_cons_self
      cases first <;> simp [Node.isText] at text ⊢
    exact parallel_cons rfl rfl (parallel_emit setting.host s) later

end Lists

section Nodes

variable {setting : Setting} (one : c.heaps = Eq) {owner other : Template}

include one

/-- An expression has one value in paired machines, if they share the heap. -/
theorem parallel_evaluate (expr : Expr) :
    Parallel setting.host c (evaluate setting expr) (evaluate setting expr) :=
  ⟨steady_evaluate expr, relates_evaluate setting one expr⟩

/-- What is read from a shared heap is the same. -/
theorem parallel_heap (f : Heap → α) :
    Parallel setting.host c (reads fun m => f m.host.heap) (reads fun m => f m.host.heap) :=
  ⟨steady_reads _, relates_heap one f⟩

/-- A node that is no block and holds no nodes does the same for every owner, unless it inherits. -/
theorem parallel_leaf (owners : c.outcomes → owner = other) {leaf : Node} (flat : leaf.bodies = [])
    (goesOn : isLast leaf = false) :
    Parallel setting.host c (node setting (complete setting) owner leaf)
      (node setting (complete setting) other leaf) := by
  have templates := agreement_complete setting c
  cases leaf with
  | text s => exact parallel_emit setting.host s
  | «variable» expr =>
    refine (parallel_evaluate one expr).bind fun v => ?_
    exact (parallel_reads setting.host _ fun m n paired => by rw [paired.context]).bind
      (parallel_emit setting.host)
  | forEach var list reversed body otherwise => cases flat
  | condition test negated yes no => cases flat
  | block name body => cases flat
  | inherits parent => cases goesOn
  | includes template =>
    simp only [node, resolve, bind_assoc]
    refine (parallel_evaluate one template).bind fun v => ⟨?_, relates_include one templates v.text⟩
    exact (steady_load v.text).bind fun t => (steady_complete_template t).detached
  | creates file template line =>
    simp only [node, resolve, bind_assoc]
    refine (parallel_evaluate one file).bind fun named => ?_
    refine (parallel_evaluate one template).bind fun v => ?_
    simp only [← bind_assoc]
    refine Parallel.bind ⟨?_, relates_capture one templates v.text⟩ fun content =>
      ⟨steady_create owner line named.text content, relates_create owners line named.text content⟩
    exact (steady_load v.text).bind fun t => (steady_complete_template t).detached.captured

/-- Rounds of a loop do the same if the bodies do. -/
theorem relates_rounds {x y : Render Unit} (inside : Parallel setting.host c x y) (var : String)
    (reversed : Bool) (list : ListRef) (fuel : Nat) (cursor : Cursor) (index : Nat) :
    Relates c (rounds setting x var reversed list fuel cursor index)
      (rounds setting y var reversed list fuel cursor index) := by
  induction fuel generalizing cursor index with
  | zero => exact fun m n _ => .starved
  | succ fuel ih =>
    intro m n paired
    have heap : m.host.heap = n.host.heap := paired.heap_eq one
    rw [rounds_apply, rounds_apply, heap]
    cases cursor.current n.host.heap list with
    | none => exact .done () ⟨paired, .refl c m n⟩
    | some item =>
      have start : Paired c (bound setting var item list index m)
          (bound setting var item list index n) :=
        { paired with context := by simp only [bound, paired.context, heap] }
      have later := inside.relates.bind (fun _ => ih (advance reversed cursor) (index + 1))
        (fun _ => leads_rounds inside.steady var reversed list fuel _ _) _ _ start
      exact later.mono fun _ _ ⟨after, together⟩ => ⟨after, { together with }⟩

/-- Loops do the same if their bodies do. -/
theorem relates_iterate {body body' : List Node}
    (inside : Parallel setting.host c (complete setting (.nodes owner body))
      (complete setting (.nodes other body'))) (var : String) (reversed : Bool) (list : ListRef)
    (cursor : Cursor) (index : Nat) :
    Relates c (complete setting (.iterate owner var reversed body list cursor index))
      (complete setting (.iterate other var reversed body' list cursor index)) := by
  refine .limit fun m n => ?_
  obtain ⟨first, here⟩ := rounds_of_complete setting owner var reversed body list cursor index m
  obtain ⟨second, there⟩ := rounds_of_complete setting other var reversed body' list cursor index n
  exact ⟨_, _, relates_rounds one inside var reversed list (max first second) cursor index,
    here _ (Nat.le_max_left first second), there _ (Nat.le_max_right first second)⟩

/-- Loops do the same if their bodies do and what they render for no items does. -/
theorem parallel_forEach {body body' otherwise otherwise' : List Node}
    (inside : Parallel setting.host c (complete setting (.nodes owner body))
      (complete setting (.nodes other body')))
    (empty : Parallel setting.host c (complete setting (.nodes owner otherwise))
      (complete setting (.nodes other otherwise'))) (var : String) (expr : Expr) (reversed : Bool) :
    Parallel setting.host c
      (node setting (complete setting) owner (.forEach var expr reversed body otherwise))
      (node setting (complete setting) other (.forEach var expr reversed body' otherwise')) := by
  refine (parallel_evaluate one expr).bind fun v => ?_
  cases v.list? with
  | none => exact empty
  | some list =>
    refine (parallel_heap one fun heap => heap.count list).bind fun count => ?_
    split
    · have leads : Within (Machine.Leads setting.host) _ :=
        steady_complete (.iterate owner var reversed body list (begin reversed count) 0)
      exact ⟨steady_inScope leads,
        (relates_iterate one inside var reversed list _ 0).inScope leads⟩
    · exact empty

/-- Conditions do the same if their branches do. -/
theorem parallel_condition {yes yes' no no' : List Node}
    (first : Parallel setting.host c (complete setting (.nodes owner yes))
      (complete setting (.nodes other yes')))
    (second : Parallel setting.host c (complete setting (.nodes owner no))
      (complete setting (.nodes other no'))) (test : Expr) (negated : Bool) :
    Parallel setting.host c
      (node setting (complete setting) owner (.condition test negated yes no))
      (node setting (complete setting) other (.condition test negated yes' no')) := by
  refine (parallel_evaluate one test).bind fun v => ?_
  refine (parallel_heap one v.truth).bind fun holds => ?_
  split
  · exact first
  · exact second

end Nodes

end TextTemplate.Render
