import TextTemplate.Proofs.Render.InStep
/-!
# A whole and its two parts

The render of a whole is compared with the renders of two parts in turn, between which a text may be
divided that the whole writes at once. `Machine.Rejoins` says of two machines that the same was done
on the way to them, and `Ending.Rejoins` of two endings that they are the same, but that a sink
which refuses the divided text may have taken the first part of it. `Machine.Meets` says that the
whole and its parts stand where renders go on in step. Main statements: the whole rejoins its two
parts from where they meet, whether no text is divided between them (`rejoins_undivided`) or one is
(`rejoins_divided`).
-/
namespace TextTemplate

/-- Whether a sink takes a text is told by all the text that it would then hold, and what it may
hold it may also hold a beginning of. -/
def Sink.Fluid (sink : Sink) : Prop :=
  ∃ allows : String → Bool,
    (∀ before text, sink.accepts before text = allows (before.text ++ text)) ∧
    ∀ front back, allows (front ++ back) = true → allows front = true

/-- An unlimited sink takes everything. -/
theorem Sink.fluid_unlimited (level : Nat) : (Sink.unlimited level).Fluid :=
  ⟨fun _ => true, fun _ _ => rfl, fun _ _ => id⟩

/-- A limited sink looks at the number of bytes alone. -/
theorem Sink.fluid_limited (limit : Nat) : (Sink.limited limit).Fluid := by
  refine ⟨fun text => text.utf8ByteSize ≤ limit, fun before text => ?_, fun front back fits => ?_⟩
  · dsimp only
    rw [String.utf8ByteSize_append, Output.utf8ByteSize_text]
    rfl
  · rw [decide_eq_true_eq, String.utf8ByteSize_append] at fits
    exact decide_eq_true (Nat.le_of_add_right_le fits)

/-- An outcome without the line that it may name. -/
def SaveOutcome.unlined : SaveOutcome → SaveOutcome
  | .failed path (.emptyName owner _) => .failed path (.emptyName owner 0)
  | outcome => outcome

/-- The same acts, but that a text of the sink may have been written in its two parts. -/
inductive Rejoined (level : Nat) (front back : String) : List Act → List Act → Prop
  | same (acts : List Act) : Rejoined level front back acts acts
  | divided (before after : List Act) :
    Rejoined level front back (before ++ .wrote level (front ++ back) :: after)
      (before ++ .wrote level front :: .wrote level back :: after)

namespace Machine

/-- A machine that knows a template by its name. -/
def knowing (m : Machine) (t : Template) : Machine :=
  { m with library := m.library.insert t.name t }

/-- A machine whose sink took one text more. -/
def wrote (m : Machine) (text : String) : Machine :=
  { m with
    sink := { m.sink with written := m.sink.written.push text }
    host := m.host.record (.wrote m.sink.level text) }

/-- What was done on the way from `m` to `n` was done on the way to `k`, and nothing else: the
machines differ in how one text was divided, in the lines of outcomes and in the template that is
known by the name. -/
structure Rejoins (name front back : String) (m n k : Machine) : Prop where
  /-- The sinks hold the same text. -/
  text : k.sink.text = n.sink.text
  /-- The same acts were done, but for the one text. -/
  acts : ∃ acts acts', n.host.journal.toList = m.host.journal.toList ++ acts ∧
    k.host.journal.toList = m.host.journal.toList ++ acts' ∧
    Rejoined m.sink.level front back acts acts'
  /-- The outcomes are the same, but for lines. -/
  outcomes : k.outcomes.toList.map SaveOutcome.unlined = n.outcomes.toList.map SaveOutcome.unlined
  /-- The lists and records are the same. -/
  heap : k.host.heap = n.host.heap
  /-- The files are the same. -/
  files : k.files = n.files
  /-- The contexts are the same. -/
  context : k.context = n.context
  /-- The libraries are the same, but for that name. -/
  library : ∀ other, other ≠ name → k.library.get? other = n.library.get? other

end Machine

/-- How the render of a whole from `m` ends, and how its two parts end in turn. They end in the same
way; only where the text that is divided between them is refused, its first part may have been
taken. -/
inductive Ending.Rejoins (name front back : String) (m : Machine) :
    Ending Unit → Ending Unit → Prop
  | done {n k : Machine} (same : m.Rejoins name front back n k) :
    Rejoins name front back m (.done () n) (.done () k)
  | failed {error : RenderError} {n k : Machine} (same : m.Rejoins name front back n k) :
    Rejoins name front back m (.failed error n) (.failed error k)
  | refused {n k : Machine} (divided : front ≠ "" ∧ back ≠ "")
    (refuses : n.sink.accepts n.sink.written (front ++ back) = false)
    (same : m.Rejoins name front back n k) :
    Rejoins name front back m (.failed .refused n) (.failed .refused (k.wrote front))
  | outOfFuel : Rejoins name front back m .outOfFuel .outOfFuel

/-- An ending with outcomes before its own. -/
def Ending.after (outcomes : Array SaveOutcome) : Ending Unit → Ending Unit
  | .done v m => .done v { m with outcomes := outcomes ++ m.outcomes }
  | .failed error m => .failed error { m with outcomes := outcomes ++ m.outcomes }
  | .outOfFuel => .outOfFuel

/-- Two templates in turn, each known by its name while it is rendered; the second goes on where the
first is done. -/
def Template.renderInTurn (setting : Setting) (fuel : Nat) (t u : Template) (m : Machine) :
    Ending Unit :=
  match t.render setting fuel (m.knowing t) with
  | .done () n => (u.render setting fuel (n.knowing u)).after n.outcomes
  | .failed error n => .failed error n
  | .outOfFuel => .outOfFuel

/-- The leeway of renders of templates of one name, by which each is known. -/
def Leeway.besides (name : String) : Leeway where
  names _ := True
  lines _ _ := True
  own := [name]
  library := ∅
  same_line _ := trivial

/-- Where every name means the same each node is trusted. -/
theorem Leeway.trusts_besides (name : String) (setting : Setting) :
    (besides name).Trusts setting fun _ _ => True :=
  fun _ _ _ _ _ _ _ _ _ => ⟨fun _ _ _ _ _ _ _ => trivial, fun _ _ _ _ _ _ _ _ _ _ => trivial⟩

/-- Acts that are the same but for one text are so with the same acts after them. -/
theorem Rejoined.append {level : Nat} {front back : String} {acts acts' : List Act}
    (rejoined : Rejoined level front back acts acts') (more : List Act) :
    Rejoined level front back (acts ++ more) (acts' ++ more) := by
  cases rejoined with
  | same => exact .same _
  | divided before after =>
    rw [List.append_assoc, List.append_assoc]
    exact .divided before (after ++ more)

/-- Outcomes that differ in lines are the same without them. -/
theorem SaveOutcome.Akin.unlined {c : Leeway} {outcome outcome' : SaveOutcome}
    (akin : outcome.Akin c outcome') : outcome'.unlined = outcome.unlined := by
  cases akin with
  | same => rfl
  | nameless => rfl

/-- The machine in which the nodes of a template are rendered that is known by its name. -/
def Machine.begun (m : Machine) (t : Template) : Machine :=
  { m.knowing t with active := [t.name], chain := [], outcomes := #[] }

/-- Two machines stand where a whole and its two parts stand that are rendered from `m`: renders go
on in step from there. The outcomes of the first part are kept aside. -/
structure Machine.Meets (name front back : String) (m : Machine) (before : Array SaveOutcome)
    (n k : Machine) : Prop where
  /-- Renders do the same from both. -/
  kin : Kin (.besides name) n k
  /-- The same was done on the way to them. -/
  same : m.Rejoins name front back n { k with outcomes := before ++ k.outcomes }
  /-- The template, and it alone, is being rendered. -/
  active : n.active = [name]
  /-- No template overrides. -/
  chain : n.chain = []
  /-- No capture was begun since. -/
  level : n.sink.level = m.sink.level
  /-- The sink takes texts by the rule it had. -/
  accepts : k.sink.accepts = m.sink.accepts

/-- A template known by its own name does not matter to the templates of other names. -/
theorem Machine.filter_begun {name : String} {t : Template} (m : Machine) (named : t.name = name) :
    (m.begun t).library.entries.filter (fun entry => entry.1 ∉ (Leeway.besides name).own) =
      m.library.entries.filter fun entry => entry.1 ∉ (Leeway.besides name).own :=
  Table.filter_put (fun other => other ∉ [name]) (by simp [named]) t m.library.entries

/-- The template is known by its name. -/
theorem Machine.get?_begun {name : String} {t : Template} (m : Machine) (named : t.name = name) :
    (m.begun t).library.get? name = some t := by
  show (m.library.insert t.name t).get? name = some t
  rw [Table.get?_insert, if_pos named]

namespace Machine.Meets

variable {name front back : String} {m n k n' k' : Machine} {before : Array SaveOutcome}
  {host : Host} {t u : Template}

/-- Where the whole and its first part begin. -/
theorem begins (m : Machine) (named : t.name = name) (named' : u.name = name) :
    m.Meets name front back #[] (m.begun t) (m.begun u) := by
  refine ⟨?_, ⟨rfl, ⟨[], [], ?_, ?_, .same _⟩, rfl, rfl, rfl, rfl, fun other differs => ?_⟩,
    congrArg (fun name => [name]) named, rfl, rfl, rfl⟩
  · exact
      { heap := rfl
        files := rfl
        context := .refl _ m.context
        sink := .refl m.sink
        active := congrArg (fun name => [name]) (named.trans named'.symm)
        chain := rfl
        reads := fun _ member => absurd member List.not_mem_nil
        library := (m.filter_begun named).trans (m.filter_begun named').symm
        own := fun own inside => by
          rw [List.mem_singleton.mp inside]
          exact ⟨List.mem_singleton.mpr named.symm, t, u, m.get?_begun named, m.get?_begun named',
            named, named'⟩
        knows := fun _ _ known => by cases known }
  · exact (List.append_nil _).symm
  · exact (List.append_nil _).symm
  · show (m.library.insert u.name u).get? other = (m.library.insert t.name t).get? other
    rw [Table.get?_insert, Table.get?_insert, named, named', if_neg differs.symm,
      if_neg differs.symm]

/-- The second part begins where the first is done. -/
theorem begun (meets : m.Meets name front back #[] n k) (named : u.name = name) :
    m.Meets name front back k.outcomes n (k.begun u) := by
  refine ⟨?_, { meets.same with outcomes := ?_, library := fun other differs => ?_ },
    meets.active, meets.chain, meets.level, meets.accepts⟩
  · exact { meets.kin with
      active := meets.active.trans (congrArg (fun name => [name]) named.symm)
      chain := meets.chain
      library := meets.kin.library.trans (k.filter_begun named).symm
      own := fun own inside => by
        obtain ⟨active, t, -, known, -, called, -⟩ := meets.kin.own own inside
        rw [List.mem_singleton.mp inside] at active known called ⊢
        exact ⟨active, t, u, known, k.get?_begun named, called, named⟩ }
  · rw [← meets.same.outcomes]
    show (k.outcomes ++ #[]).toList.map _ = (#[] ++ k.outcomes).toList.map _
    rw [Array.append_empty, Array.empty_append]
  · have same : k.library.get? other = n.library.get? other := meets.same.library other differs
    show (k.library.insert u.name u).get? other = n.library.get? other
    rw [Table.get?_insert, named, if_neg differs.symm, same]

/-- What is done alike goes on from where two machines meet. -/
theorem onward (meets : m.Meets name front back before n k) (kin : Kin (.besides name) n' k')
    (beside : Beside (.besides name) n k n' k') (returns : n.Returns host n')
    (returns' : k.Returns host k') : m.Meets name front back before n' k' := by
  obtain ⟨texts, written, written'⟩ := beside.texts
  refine ⟨kin, ⟨?_, ?_, ?_, kin.heap.symm, kin.files.symm, ?_, fun other differs => ?_⟩,
    returns.active.trans meets.active, returns.chain.trans meets.chain, ?_, ?_⟩
  · have before : k.sink.text = n.sink.text := meets.same.text
    show k'.sink.text = n'.sink.text
    have later : n'.sink.text = n.sink.text ++ String.join texts := by
      rw [written]
      exact Output.text_append n.sink.written texts
    have later' : k'.sink.text = k.sink.text ++ String.join texts := by
      rw [written']
      exact Output.text_append k.sink.written texts
    rw [later, later', before]
  · obtain ⟨acts, acts', told, told', rejoined⟩ := meets.same.acts
    obtain ⟨more, added, added'⟩ := beside.journal
    refine ⟨acts ++ more.toList, acts' ++ more.toList, ?_, ?_, rejoined.append more.toList⟩
    · rw [added, Array.toList_append, told, List.append_assoc]
    · have told' : k.host.journal.toList = m.host.journal.toList ++ acts' := told'
      show k'.host.journal.toList = _
      rw [added', Array.toList_append, told', List.append_assoc]
  · obtain ⟨more, more', grown, grown', akin⟩ := beside.outcomes
    have same : more'.map SaveOutcome.unlined = more.map SaveOutcome.unlined := by
      clear grown grown'
      induction akin with
      | nil => rfl
      | cons first others ih => rw [List.map_cons, List.map_cons, first.unlined, ih]
    have before := meets.same.outcomes
    simp only [Array.toList_append, List.map_append] at before ⊢
    rw [grown, grown', List.map_append, List.map_append, ← List.append_assoc, before, same]
  · have before : k.context = n.context := meets.same.context
    show k'.context = n'.context
    rw [returns.context, returns'.context, before]
  · exact (kin.get? fun own => differs (List.mem_singleton.mp own)).symm
  · rw [written]
    exact meets.level
  · rw [written']
    exact meets.accepts

/-- Renders in step go on from where two machines meet to where two machines meet. -/
theorem steps {x y : Render Unit} (meets : m.Meets name front back before n k)
    (step : Render.InStep (.besides name) True Eq x y n k) (steady : Render.Steady host x)
    (steady' : Render.Steady host y) :
    (x n).Holds
      (fun _ n' => ∃ k', y k = .done () k' ∧ m.Meets name front back before n' k' ∧
        Beside (.besides name) n k n' k')
      (fun error n' => ∃ k', y k = .failed error k' ∧ m.Meets name front back before n' k')
      (y k = .outOfFuel) := by
  unfold Render.InStep at step
  have returns := steady n
  have returns' := steady' k
  cases ended : x n with
  | outOfFuel =>
    rw [ended] at step
    exact step trivial
  | failed error n' =>
    rw [ended] at step returns
    obtain ⟨k', there, kin, beside⟩ := step
    rw [there] at returns'
    exact ⟨k', there, meets.onward kin beside returns returns'⟩
  | done v n' =>
    rw [ended] at step returns
    obtain ⟨w, k', there, -, kin, beside⟩ := step
    rw [there] at returns'
    exact ⟨k', there, meets.onward kin beside returns returns', beside⟩

/-- What ends the whole ends the second part. -/
theorem ends {x y : Render Unit} (meets : m.Meets name front back before n k)
    (step : Render.InStep (.besides name) True Eq x y n k) (steady : Render.Steady host x)
    (steady' : Render.Steady host y) :
    Ending.Rejoins name front back m (x n) ((y k).after before) := by
  have steps := meets.steps step steady steady'
  cases ended : x n with
  | outOfFuel =>
    rw [ended] at steps
    rw [show y k = .outOfFuel from steps]
    exact .outOfFuel
  | failed error n' =>
    rw [ended] at steps
    obtain ⟨k', there, meets'⟩ := steps
    rw [there]
    exact .failed meets'.same
  | done v n' =>
    rw [ended] at steps
    obtain ⟨k', there, meets', -⟩ := steps
    rw [there]
    exact .done meets'.same

/-- What begins the whole begins the first part, and ends both if it fails. -/
theorem leads {x y f g : Render Unit} (meets : m.Meets name front back #[] n k)
    (step : Render.InStep (.besides name) True Eq x y n k) (steady : Render.Steady host x)
    (steady' : Render.Steady host y)
    (rest : ∀ n' k', m.Meets name front back #[] n' k' → Beside (.besides name) n k n' k' →
      Ending.Rejoins name front back m (f n') (g k')) :
    Ending.Rejoins name front back m ((x >>= fun _ => f) n) ((y >>= fun _ => g) k) := by
  have steps := meets.steps step steady steady'
  rw [Render.bind_apply, Render.bind_apply]
  cases ended : x n with
  | outOfFuel =>
    rw [ended] at steps
    rw [show y k = .outOfFuel from steps]
    exact .outOfFuel
  | failed error n' =>
    rw [ended] at steps
    obtain ⟨k', there, meets'⟩ := steps
    rw [there]
    exact .failed (by simpa using meets'.same)
  | done v n' =>
    rw [ended] at steps
    obtain ⟨k', there, meets', beside⟩ := steps
    rw [there]
    exact rest n' k' meets' beside

/-- A text that the whole writes at once and the two parts write in turn. -/
theorem wrote (meets : m.Meets name front back #[] n k)
    (journal : Alongside m.host.journal m.host.journal n.host.journal k.host.journal)
    (fluid : m.sink.Fluid) (named : u.name = name) :
    m.Meets name front back k.outcomes (n.wrote (front ++ back))
      (((k.wrote front).begun u).wrote back) := by
  have begun : m.Meets name front back k.outcomes n (k.begun u) := meets.begun named
  refine ⟨{ begun.kin with sink := ⟨begun.kin.sink.level, fun texts text => ?_⟩ },
    { begun.same with text := ?_, acts := ?_ }, begun.active, begun.chain, begun.level,
    begun.accepts⟩
  · obtain ⟨allows, judges, -⟩ := fluid
    have whole : n.sink.accepts (n.sink.written.append ((front ++ back) :: texts)) text =
        k.sink.accepts (k.sink.written.append ((front ++ back) :: texts)) text :=
      meets.kin.sink.accepts _ text
    show n.sink.accepts (n.sink.written.append ((front ++ back) :: texts)) text =
      k.sink.accepts (k.sink.written.append (front :: back :: texts)) text
    rw [whole, meets.accepts, judges, judges, Output.text_append, Output.text_append,
      String.join_cons, String.join_cons, String.join_cons]
    simp only [String.append_assoc]
  · have before : k.sink.written.text = n.sink.written.text := meets.same.text
    show (k.sink.written.append [front, back]).text = (n.sink.written.append [front ++ back]).text
    rw [Output.text_append, Output.text_append, before]
    simp
  · obtain ⟨added, told, told'⟩ := journal
    have level : k.sink.level = m.sink.level := meets.kin.sink.level.symm.trans meets.level
    refine ⟨added.toList ++ [.wrote m.sink.level (front ++ back)],
      added.toList ++ [.wrote m.sink.level front, .wrote m.sink.level back], ?_, ?_,
      .divided added.toList []⟩
    · show (n.host.journal.push (.wrote n.sink.level (front ++ back))).toList = _
      rw [told, meets.level, Array.toList_push, Array.toList_append, List.append_assoc]
    · show ((k.host.journal.push (.wrote k.sink.level front)).push
        (.wrote k.sink.level back)).toList = _
      rw [told', level, Array.toList_push, Array.toList_push, Array.toList_append]
      simp

end Machine.Meets

namespace Render

/-- A second render that begins, with a template of its own, where a first one is done. -/
def inTurn (x : Render Unit) (u : Template) (y : Render Unit) : Render Unit := fun m =>
  match x m with
  | .done () n => (y (n.begun u)).after n.outcomes
  | .failed error n => .failed error n
  | .outOfFuel => .outOfFuel

/-- A sequence in turn with another render is its first part and then the rest in turn. -/
theorem inTurn_bind (x z : Render Unit) (u : Template) (y : Render Unit) :
    inTurn (x >>= fun _ => z) u y = x >>= fun _ => inTurn z u y := by
  funext m
  rw [bind_apply]
  unfold inTurn
  rw [bind_apply]
  cases x m <;> rfl

/-- A text is written if the sink takes it. -/
theorem emit_apply (text : String) (m : Machine) :
    emit text m = if m.sink.accepts m.sink.written text then .done () (m.wrote text)
      else .failed .refused m := rfl

variable {name front back : String} {m n k : Machine} {host : Host} {u : Template}
  {x y : Render Unit}

/-- The whole and its two parts after what begins both, if no text is divided. -/
theorem rejoins_undivided (meets : m.Meets name front back #[] n k) (named : u.name = name)
    (step : ∀ n' k', Kin (.besides name) n' k' → InStep (.besides name) True Eq x y n' k')
    (steady : Steady host x) (steady' : Steady host y) :
    Ending.Rejoins name front back m (x n) (inTurn (Pure.pure ()) u y k) := by
  have begun : m.Meets name front back k.outcomes n (k.begun u) := meets.begun named
  exact begun.ends (step _ _ begun.kin) steady steady'

/-- The whole and its two parts after what begins both, if a text is divided. -/
theorem rejoins_divided (meets : m.Meets name front back #[] n k)
    (journal : Alongside m.host.journal m.host.journal n.host.journal k.host.journal)
    (fluid : m.sink.Fluid) (divided : front ≠ "" ∧ back ≠ "") (named : u.name = name)
    (step : ∀ n' k', Kin (.besides name) n' k' → InStep (.besides name) True Eq x y n' k')
    (steady : Steady host x) (steady' : Steady host y) :
    Ending.Rejoins name front back m ((emit (front ++ back) >>= fun _ => x) n)
      (inTurn (emit front) u (emit back >>= fun _ => y) k) := by
  have told := meets.wrote (u := u) journal fluid named
  have begun : m.Meets name front back k.outcomes n (k.begun u) := meets.begun named
  obtain ⟨allows, judges, shorter⟩ := fluid
  have judges' (before : Output) (text : String) :
      k.sink.accepts before text = allows (before.text ++ text) := by
    rw [meets.accepts, judges]
  have whole : n.sink.accepts n.sink.written (front ++ back) =
      allows (k.sink.written.text ++ front ++ back) := by
    rw [String.append_assoc, ← judges']
    exact meets.kin.sink.accepts [] (front ++ back)
  have first : k.sink.accepts k.sink.written front = allows (k.sink.written.text ++ front) :=
    judges' _ _
  have second : ((k.wrote front).begun u).sink.accepts ((k.wrote front).begun u).sink.written back =
      allows (k.sink.written.text ++ front ++ back) := by
    have text : (k.sink.written.push front).text = k.sink.written.text ++ front := by
      rw [show k.sink.written.push front = k.sink.written.append [front] from rfl,
        Output.text_append, String.join_cons, String.join_nil, String.append_empty]
    rw [← text]
    exact judges' (k.sink.written.push front) back
  unfold inTurn
  rw [bind_apply, emit_apply, emit_apply, whole, first]
  cases taken : allows (k.sink.written.text ++ front ++ back) with
  | true =>
    rw [shorter _ _ taken]
    show Ending.Rejoins name front back m (x (n.wrote (front ++ back)))
      (((emit back >>= fun _ => y) ((k.wrote front).begun u)).after k.outcomes)
    rw [bind_apply, emit_apply, second, taken]
    exact told.ends (step _ _ told.kin) steady steady'
  | false =>
    cases allows (k.sink.written.text ++ front) with
    | true =>
      show Ending.Rejoins name front back m (.failed .refused n)
        (((emit back >>= fun _ => y) ((k.wrote front).begun u)).after k.outcomes)
      rw [bind_apply, emit_apply, second, taken]
      exact .refused divided (whole.trans taken) begun.same
    | false =>
      have same := meets.same
      rw [Array.empty_append] at same
      exact .failed same

end Render

end TextTemplate
