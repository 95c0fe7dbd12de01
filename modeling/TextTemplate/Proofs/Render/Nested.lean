import TextTemplate.Proofs.Render.Agreement
/-!
# A nested render is a render of its own

`include` and `create` render a template inside another. They share with the render around them the
context, the library, the files and the host, but not the templates whose blocks override; so they
do what a render of the template alone does from the same state, unless one of the two guards stops
them that look at the templates being rendered around.
-/
namespace TextTemplate

namespace Machine

/-- The machine after a template was rendered on its own, as the render around it goes on. -/
def resume (before after : Machine) : Machine :=
  { before with
    host := after.host
    library := after.library
    files := after.files
    outcomes := before.outcomes ++ after.outcomes }

/-- The machine after a template was rendered on its own, as a render goes on that writes what the
template wrote. -/
def included (before after : Machine) : Machine :=
  { before.resume after with sink := before.sink.writeAll after.sink.written.texts.toList }

end Machine

/-- A nested render follows a render of its own: if it is done so is the other, and it goes on from
there; if the other is done it goes on from there as well, unless a guard stops it. -/
structure Ending.Follows (nested fresh : Ending Unit) (finish : Machine → Ending Unit) : Prop where
  /-- If the nested render is done, then the other is done and it goes on from there. -/
  forth : ∀ after, nested = .done () after → ∃ n, fresh = .done () n ∧ finish n = .done () after
  /-- If the other is done, then it goes on from there or a guard stopped it. -/
  back : ∀ n, fresh = .done () n →
    nested = finish n ∨ ∃ error after, nested = .failed error after ∧ error.IsGuard

namespace Render

variable {setting : Setting} {fuel : Nat} {t : Template}

/-- The comparison of a nested render with one of its own: nothing is hidden, and the outcomes of
created files are compared. -/
def nesting : Comparison := ⟨[], Eq, Eq, True⟩

/-- A machine in which less is going on, from which a template is rendered on its own. -/
theorem paired_alone {k : Machine} (accepts : ∀ before text, k.sink.accepts before text = true) :
    Paired nesting { k with chain := [] }
      { k with sink := .unlimited k.sink.level, active := [], chain := [], outcomes := #[] } where
  heap := rfl
  chain := rfl
  files := rfl
  context := rfl
  sink := ⟨rfl, fun texts text => accepts _ _⟩
  library := by simp [nesting]
  hidden _ inside := nomatch inside
  keyed _ _ _ inside := nomatch inside
  depth := Nat.zero_le _
  active _ inside := nomatch inside
  entered _ inside := nomatch inside

/-- Where a nested render is done, told by where the other is done. -/
theorem eq_included {k m' n' : Machine} {host : Host}
    (returns : Machine.Returns host { k with chain := [] } m') (paired : Paired nesting m' n')
    (together : Together nesting { k with chain := [] }
      { k with sink := .unlimited k.sink.level, active := [], chain := [], outcomes := #[] }
        m' n') :
    { m' with chain := k.chain } = k.included n' := by
  obtain ⟨texts, left, right⟩ := together.texts
  obtain ⟨acts, journal, journal'⟩ := together.journal
  obtain ⟨made, outcomes, outcomes'⟩ := together.outcomes trivial
  have written : n'.sink.written.texts.toList = texts := by
    rw [right]
    exact Output.toList_texts_append texts
  have library : m'.library = n'.library := by
    have entries := paired.library
    simp only [nesting, List.not_mem_nil, not_false_eq_true, decide_true,
      List.filter_true] at entries
    exact congrArg Table.mk entries
  have host : m'.host = n'.host := by
    have heap : m'.host.heap = n'.host.heap := paired.heap
    have acted : m'.host.journal = n'.host.journal := by rw [journal, journal']
    cases left : m'.host
    cases right : n'.host
    simp_all
  have made : m'.outcomes = k.outcomes ++ n'.outcomes := by
    rw [outcomes, outcomes']
    simp
  unfold Machine.included Machine.resume
  rw [written, ← host, ← library, ← paired.files, ← made, ← left, ← returns.context,
    ← returns.active]

/-- A template rendered with no blocks overriding does what it does on its own. -/
theorem detached_follows {k : Machine}
    (accepts : ∀ before text, k.sink.accepts before text = true) :
    (detached (run setting fuel (.template t)) k).Follows
      (t.render setting fuel { k with sink := .unlimited k.sink.level })
      fun n => .done () (k.included n) := by
  have visible : t.name ∉ nesting.hidden := nofun
  have inside := relates_run_template setting fuel visible _ _ (paired_alone accepts)
  have returns : ∀ m', run setting fuel (.template t) { k with chain := [] } = .done () m' →
      Machine.Returns setting.host { k with chain := [] } m' :=
    fun m' done => (steady_template fuel t).returns done
  constructor
  · intro after done
    rw [detached_apply] at done
    obtain ⟨m', left, rfl⟩ := done_around.mp done
    rcases inside.forth () m' left with ⟨name, hidden, -⟩ | ⟨n', right, paired, together⟩
    · cases hidden
    · exact ⟨n', right, by rw [eq_included (returns m' left) paired together]⟩
  · intro n' right
    rcases inside.back () n' right with ⟨m', left, paired, together⟩ | ⟨error, m', left, guard⟩
    · refine .inl ?_
      rw [← eq_included (returns m' left) paired together, detached_apply]
      exact done_around.mpr ⟨m', left, rfl⟩
    · refine .inr ⟨error, { m' with chain := k.chain }, ?_, guard⟩
      rw [detached_apply, around, left]

/-- A template whose text is captured does what it does on its own, and what follows is given the
text that it writes there. -/
theorem captured_follows (k : Machine) (next : String → Render Unit) :
    ((captured (detached (run setting fuel (.template t))) >>= next) k).Follows
      (t.render setting fuel { k with sink := .unlimited (k.sink.level + 1) })
      fun n => next n.sink.text (k.resume n) := by
  have alone : (detached (run setting fuel (.template t))
      { k with sink := .unlimited (k.sink.level + 1) }).Follows _ _ :=
    detached_follows fun _ _ => rfl
  have captured_of_done : ∀ n, detached (run setting fuel (.template t))
        { k with sink := .unlimited (k.sink.level + 1) } =
          .done () (Machine.included { k with sink := .unlimited (k.sink.level + 1) } n) →
      captured (detached (run setting fuel (.template t))) k = .done n.sink.text (k.resume n) := by
    intro n done
    have text : (Machine.included { k with sink := .unlimited (k.sink.level + 1) } n).sink.text =
        n.sink.text := congrArg String.join (Output.toList_texts_append _)
    rw [captured_apply, ← text]
    exact done_around.mpr ⟨_, done_bind.mpr ⟨(), _, done, rfl⟩, rfl⟩
  constructor
  · intro after done
    obtain ⟨content, l, captured, later⟩ := done_bind.mp done
    obtain ⟨l', written, -⟩ := done_around.mp (captured_apply _ k ▸ captured)
    obtain ⟨_, l'', nested, _⟩ := done_bind.mp written
    obtain ⟨n, fresh, same⟩ := alone.forth l'' nested
    refine ⟨n, fresh, ?_⟩
    rw [captured_of_done n (nested.trans same.symm)] at captured
    cases captured
    exact later
  · intro n fresh
    rcases alone.back n fresh with nested | ⟨error, after, nested, guard⟩
    · exact .inl (bind_of_done (captured_of_done n nested))
    · refine .inr ⟨error, { after with sink := k.sink }, failed_bind ?_, guard⟩
      rw [captured_apply, around, failed_bind nested]

/-- Loading a template leaves the sink. -/
theorem sink_of_resolve {expr : Expr} {m loaded : Machine}
    (resolved : resolve setting expr m = .done t loaded) : loaded.sink = m.sink := by
  obtain ⟨v, evaluated, done, later⟩ := done_bind.mp resolved
  cases done
  obtain ⟨library, -, rfl⟩ := done_load later
  rfl

/-- Where `include` or `create` is reached, its operands are evaluated and its template is loaded,
the nested render does what a render of the template alone does from that state with a sink of its
own: it goes on with the host, the library and the files that the other leaves, and with its
outcomes after those noted before. An `include` writes what the other wrote; a `create` makes a file
of it. -/
theorem nested_follows_render (setting : Setting) (fuel : Nat) (owner : Template) (m : Machine) :
    (∀ template t loaded, (∀ before text, m.sink.accepts before text = true) →
      resolve setting template m = .done t loaded →
      (node setting (run setting fuel) owner (.includes template) m).Follows
        (t.render setting fuel { loaded with sink := .unlimited m.sink.level })
        fun n => .done () (loaded.included n)) ∧
    (∀ file template line named evaluated t loaded,
      evaluate setting file m = .done named evaluated →
      resolve setting template evaluated = .done t loaded →
      (node setting (run setting fuel) owner (.creates file template line) m).Follows
        (t.render setting fuel { loaded with sink := .unlimited (m.sink.level + 1) })
        fun n => create owner line named.text n.sink.text (loaded.resume n)) := by
  constructor
  · intro template t loaded accepts resolved
    have sink := sink_of_resolve resolved
    have same : node setting (run setting fuel) owner (.includes template) m =
        detached (run setting fuel (.template t)) loaded := by
      rw [node_includes, bind_of_done resolved]
    rw [same, ← sink]
    exact detached_follows (sink ▸ accepts)
  · intro file template line named evaluated t loaded started resolved
    have sink : loaded.sink.level = m.sink.level := by
      have before := sink_of_resolve resolved
      cases started
      rw [before]
    have same : node setting (run setting fuel) owner (.creates file template line) m =
        (captured (detached (run setting fuel (.template t))) >>= create owner line named.text)
          loaded := by
      rw [node_creates, bind_of_done started, bind_of_done resolved]
    rw [same, ← sink]
    exact captured_follows loaded (create owner line named.text)

/-- A template with a block. -/
def part : Template where
  name := "part"
  nodes := [.block "b" [.text "own"]]
  blocks := Table.insert ∅ "b" [.text "own"]

/-- A template that overrides that block. -/
def page : Template where
  name := "page"
  nodes := [.block "b" [.includes ⟨.literal (.text "part"), []⟩]]
  blocks := Table.insert ∅ "b" [.includes ⟨.literal (.text "part"), []⟩]

/-- A machine in which the second of them is being rendered and its blocks override. -/
def overriding : Machine :=
  { Machine.start (Table.insert ∅ "part" part) ∅ ∅ with active := ["page"], chain := [page] }

/-- The part is found in the library. -/
theorem resolve_part :
    resolve ⟨.silent, default⟩ ⟨.literal (.text "part"), []⟩ overriding =
      .done part overriding := by
  have name : Library.normalise "part" = "part" := by decide
  have known : overriding.library.get? (Library.normalise "part") = some part := by
    rw [name]
    rfl
  exact resolve_of_known known

/-- Where its block is overridden, the template is included and created from as it is on its own. -/
theorem overridden_part_follows_render :
    (node ⟨.silent, default⟩ (run ⟨.silent, default⟩ 9) page
        (.includes ⟨.literal (.text "part"), []⟩) overriding).Follows
      (part.render ⟨.silent, default⟩ 9
        { overriding with sink := .unlimited overriding.sink.level })
      (fun n => .done () (overriding.included n)) ∧
    (node ⟨.silent, default⟩ (run ⟨.silent, default⟩ 9) page
        (.creates ⟨.literal (.text "out"), []⟩ ⟨.literal (.text "part"), []⟩ 1) overriding).Follows
      (part.render ⟨.silent, default⟩ 9
        { overriding with sink := .unlimited (overriding.sink.level + 1) })
      (fun n => create page 1 (Literal.text "out").value.text n.sink.text (overriding.resume n)) :=
  have both := nested_follows_render ⟨.silent, default⟩ 9 page overriding
  ⟨both.1 _ part overriding (fun _ _ => rfl) resolve_part,
    both.2 _ _ 1 (Literal.text "out").value overriding part overriding rfl resolve_part⟩

/-- The block of an included template is its own, whatever overrides around it. -/
example : (match node ⟨.silent, default⟩ (run ⟨.silent, default⟩ 9) page
    (.includes ⟨.literal (.text "part"), []⟩) overriding with
    | .done _ m => m.sink.text
    | _ => "") = "own" := by decide +kernel

end Render

end TextTemplate
