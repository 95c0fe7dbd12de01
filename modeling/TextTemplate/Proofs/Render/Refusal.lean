import TextTemplate.Proofs.Render.Journal
/-!
# Sinks that refuse a text

A render whose sink may refuse a text is compared with the same render whose sink takes every text.
The two do the same up to the first text that is refused, and there the first of them stops: no part
of a render goes on after a refusal, and what is captured is never refused. Main statement: with a
sink that takes a limited number of bytes a render does the same as without a limit, or it writes
exactly the texts before the first one that is too long, fails for being refused, and does nothing
of what the other render does after that text (`Template.render_limited`).
-/
namespace TextTemplate

/-- The machine whose sink takes texts by another rule. -/
def Machine.accepting (m : Machine) (accepts : Output → String → Bool) : Machine :=
  { m with sink := { m.sink with accepts } }

/-- The ending in the machine whose sink takes texts by another rule. -/
def Ending.accepting {α : Type} (accepts : Output → String → Bool) : Ending α → Ending α
  | .done v m => .done v (m.accepting accepts)
  | .failed error m => .failed error (m.accepting accepts)
  | .outOfFuel => .outOfFuel

/-- The sink takes every text. -/
def Sink.Open (sink : Sink) : Prop := ∀ before text, sink.accepts before text = true

/-- The texts are taken one after the other. -/
def Takes (accepts : Output → String → Bool) (before : Output) : List String → Prop
  | [] => True
  | text :: later => accepts before text = true ∧ Takes accepts (before.push text) later

/-- Texts are taken if those in front are, and the others after them. -/
theorem takes_append {accepts : Output → String → Bool} {before : Output}
    {front back : List String} :
    Takes accepts before (front ++ back) ↔
      Takes accepts before front ∧ Takes accepts (before.append front) back := by
  induction front generalizing before with
  | nil => simp [Takes, Output.append]
  | cons text front ih =>
    have later : Takes accepts (before.push text) (front ++ back) ↔ _ := ih
    simp only [List.cons_append, Takes, later, and_assoc]
    rfl

namespace Sink

/-- A sink tells which texts it took. -/
theorem writeAll_inj {sink : Sink} {texts others : List String}
    (same : sink.writeAll texts = sink.writeAll others) : texts = others := by
  have written : (sink.written.append texts).texts = (sink.written.append others).texts :=
    congrArg (fun sink => sink.written.texts) same
  rw [Output.texts_append, Output.texts_append] at written
  have lists := congrArg Array.toList written
  simpa using lists

end Sink

namespace Machine

variable {host : Host} {accepts : Output → String → Bool} {m n k l : Machine}

/-- Every text between the machines is taken by the rule. -/
def Passes (accepts : Output → String → Bool) (m n : Machine) : Prop :=
  ∃ texts, n.sink = m.sink.writeAll texts ∧ Takes accepts m.sink.written texts

/-- Texts that are taken on two ways are taken on both together. -/
theorem Passes.trans (first : m.Passes accepts n) (second : n.Passes accepts k) :
    m.Passes accepts k := by
  obtain ⟨texts, sink, taken⟩ := first
  obtain ⟨more, further, later⟩ := second
  refine ⟨texts ++ more, by rw [further, sink, Sink.writeAll_writeAll],
    takes_append.mpr ⟨taken, ?_⟩⟩
  rw [sink] at later
  exact later

/-- A render from the first machine to the second writes a text that the rule refuses, and the third
machine is the one that it had reached by then. -/
structure Stops (accepts : Output → String → Bool) (m n stopped : Machine) (acts : List Act)
    (text : String) (later : List Act) : Prop where
  /-- It had done the acts. -/
  before : stopped.host.journal.toList = m.host.journal.toList ++ acts
  /-- After them the other render wrote the text and went on. -/
  beyond : n.host.journal.toList =
    m.host.journal.toList ++ (acts ++ .wrote m.sink.level text :: later)
  /-- The texts before it are taken. -/
  taken : Takes accepts m.sink.written (textsAt m.sink.level acts)
  /-- The text is refused after them. -/
  refused : accepts (m.sink.written.append (textsAt m.sink.level acts)) text = false
  /-- What became of files by then is what the other render tells first. -/
  outcomes : stopped.outcomes.toList <+: n.outcomes.toList

/-- What follows is done after the text that was refused. -/
theorem Stops.goesOn {acts : List Act} {text : String} {later : List Act}
    (stops : m.Stops accepts n k acts text later) (next : n.Recounted host l) :
    ∃ later, m.Stops accepts l k acts text later := by
  obtain ⟨more, recounts⟩ := next
  refine ⟨later ++ more, stops.before, ?_, stops.taken, stops.refused,
    stops.outcomes.trans recounts.scene.outcomes⟩
  rw [recounts.journal, stops.beyond]
  simp

/-- What comes first is done before the text that is refused. -/
theorem Stops.after {acts : List Act} {text : String} {later : List Act}
    (stops : n.Stops accepts l k acts text later) (first : m.Recounted host n)
    (passes : m.Passes accepts n) : ∃ acts, m.Stops accepts l k acts text later := by
  obtain ⟨early, recounts⟩ := first
  obtain ⟨texts, sink, taken⟩ := passes
  obtain rfl : texts = textsAt m.sink.level early :=
    Sink.writeAll_inj (sink.symm.trans recounts.sink)
  have level : n.sink.level = m.sink.level := by rw [sink]; rfl
  have written : n.sink.written = m.sink.written.append (textsAt m.sink.level early) := by
    rw [sink]; rfl
  refine ⟨early ++ acts, ?_, ?_, ?_, ?_, stops.outcomes⟩
  · rw [stops.before, recounts.journal, List.append_assoc]
  · rw [stops.beyond, recounts.journal, level]
    simp
  · have next := stops.taken
    rw [level, written] at next
    rw [textsAt_append]
    exact takes_append.mpr ⟨taken, next⟩
  · have next := stops.refused
    rw [level, written, Output.append_append] at next
    rwa [textsAt_append]

end Machine

/-- A render ends like another one from a machine that takes every text, or its sink refused a
text. -/
def Ending.Curbs {α : Type} (accepts : Output → String → Bool) (m n : Machine)
    (ending curbed : Ending α) : Prop :=
  (m.Passes accepts n ∧ curbed = ending.accepting accepts) ∨
    ∃ stopped acts text later, curbed = .failed .refused stopped ∧
      m.Stops accepts n stopped acts text later

namespace Render

variable {α β : Type} {host : Host} {setting : Setting} {accepts : Output → String → Bool}

/-- A render does the same with a rule for its sink until a text is refused, and there it stops. -/
structure Curbed (host : Host) (accepts : Output → String → Bool) (x : Render α) : Prop where
  /-- The journal tells how the render comes wherever it ends. -/
  journaled : Journaled host x
  /-- With the rule it ends like it does from a sink that takes every text, or stops. -/
  curbs : ∀ m, m.sink.Open → (x m).Holds
    (fun _ n => Ending.Curbs accepts m n (x m) (x (m.accepting accepts)))
    (fun _ n => Ending.Curbs accepts m n (x m) (x (m.accepting accepts))) True

/-- A render that does the same with every rule, since it writes nothing. -/
theorem curbed_quiet {x : Render α} (journaled : Journaled host x)
    (same : ∀ m, x (m.accepting accepts) = (x m).accepting accepts)
    (quiet : Within (fun m n => n.sink = m.sink) x) : Curbed host accepts x := by
  refine ⟨journaled, fun m _ => ?_⟩
  have passes : ∀ n, n.sink = m.sink →
      Ending.Curbs accepts m n (x m) (x (m.accepting accepts)) := fun n sink =>
    .inl ⟨⟨[], sink, trivial⟩, same m⟩
  exact (quiet m).mono (fun _ n => passes n) (fun _ n => passes n) id

/-- A sequence does so if its parts do. -/
theorem Curbed.bind {x : Render α} {f : α → Render β} (first : Curbed host accepts x)
    (second : ∀ v, Curbed host accepts (f v)) : Curbed host accepts (x >>= f) := by
  refine ⟨first.journaled.bind fun v => (second v).journaled, fun m takesAll => ?_⟩
  have here := first.curbs m takesAll
  have told := first.journaled m
  cases ended : x m with
  | outOfFuel =>
    rw [bind_apply, ended]
    trivial
  | failed error n =>
    rw [ended] at here
    rw [failed_bind ended]
    rcases here with ⟨passes, same⟩ | ⟨stopped, acts, text, later, refused, stops⟩
    · exact .inl ⟨passes, failed_bind same⟩
    · exact .inr ⟨stopped, acts, text, later, failed_bind refused, stops⟩
  | done v n =>
    rw [ended] at here told
    rw [bind_of_done ended]
    rcases here with ⟨passes, same⟩ | ⟨stopped, acts, text, later, refused, stops⟩
    · -- the second render goes on from the machine that both have reached
      have stillAll : n.sink.Open := by
        obtain ⟨texts, sink, -⟩ := passes
        rw [sink]
        exact takesAll
      have next : ∀ l, Ending.Curbs accepts n l (f v n) (f v (n.accepting accepts)) →
          Ending.Curbs accepts m l (f v n) ((x >>= f) (m.accepting accepts)) := by
        intro l curbs
        rw [bind_of_done same]
        rcases curbs with ⟨further, alike⟩ | ⟨stopped, acts, text, later, refused, stops⟩
        · exact .inl ⟨passes.trans further, alike⟩
        · obtain ⟨early, whole⟩ := stops.after told passes
          exact .inr ⟨stopped, early, text, later, refused, whole⟩
      exact ((second v).curbs n stillAll).mono (fun _ l => next l) (fun _ l => next l) id
    · -- the first render was stopped, and the second one does not begin
      have next : ∀ l, n.Recounted host l →
          Ending.Curbs accepts m l (f v n) ((x >>= f) (m.accepting accepts)) := by
        intro l goesOn
        obtain ⟨more, whole⟩ := stops.goesOn goesOn
        exact .inr ⟨stopped, acts, text, more, failed_bind refused, whole⟩
      exact ((second v).journaled n).mono (fun _ l => next l) (fun _ l => next l) id

/-- What is read without a look at the rule is the same with every rule. -/
theorem curbed_reads {f : Machine → α} (same : ∀ m, f (m.accepting accepts) = f m) :
    Curbed host accepts (reads f) :=
  curbed_quiet (journaled_reads f) (fun m => congrArg (Ending.done · _) (same m)) fun _ => rfl

/-- A text is written with every rule, or it is the one that is refused. -/
theorem curbed_emit (text : String) : Curbed host accepts (emit text) := by
  refine ⟨journaled_emit text, fun m takesAll => ?_⟩
  have takes : m.sink.accepts m.sink.written text = true := takesAll _ _
  unfold emit
  rw [if_pos takes]
  by_cases taken : accepts m.sink.written text = true
  · exact .inl ⟨⟨[text], rfl, taken, trivial⟩, if_pos taken⟩
  · refine .inr ⟨m.accepting accepts, [], text, [], if_neg taken, ?_⟩
    have refused : accepts m.sink.written text = false := by simpa using taken
    exact ⟨by simp [Machine.accepting], by simp, trivial, refused, List.prefix_refl _⟩

/-- A template is loaded alike with every rule. -/
theorem curbed_load (name : String) : Curbed host accepts (load setting name) := by
  refine curbed_quiet (journaled_load name) (fun m => ?_) fun m => ?_
  · unfold load
    have files : (m.accepting accepts).library.load setting.config (m.accepting accepts).files
      name = m.library.load setting.config m.files name := rfl
    rw [files]
    cases m.library.load setting.config m.files name <;> rfl
  · rw [holds_load]
    cases m.library.load setting.config m.files name <;> rfl

/-- A file is created alike with every rule. -/
theorem curbed_create (owner : Template) (line : Nat) (file content : String) :
    Curbed host accepts (create owner line file content) := by
  refine curbed_quiet (journaled_create owner line file content) (fun m => ?_) fun m => ?_
  · rw [create_eq, create_eq]
    rfl
  · rw [create_eq]
    rfl

/-- A state is entered and left that concerns neither the sink nor what the journal tells. -/
theorem Curbed.around {x : Render α} (inside : Curbed host accepts x)
    {enter leave : Machine → Machine} (enters : Machine.Untold enter)
    (leaves : Machine.Untold leave)
    (entersAlike : ∀ m, enter (m.accepting accepts) = (enter m).accepting accepts)
    (leavesAlike : ∀ m, leave (m.accepting accepts) = (leave m).accepting accepts) :
    Curbed host accepts (around enter leave x) := by
  refine ⟨inside.journaled.around enters leaves, fun m takesAll => ?_⟩
  have takesAll' : (enter m).sink.Open := by rw [enters.sink]; exact takesAll
  have left : ∀ n, (enter m).Passes accepts n → m.Passes accepts (leave n) := by
    rintro n ⟨texts, sink, taken⟩
    rw [enters.sink] at sink taken
    exact ⟨texts, (leaves.sink n).trans sink, taken⟩
  have leftAt : ∀ n stopped acts text later, (enter m).Stops accepts n stopped acts text later →
      m.Stops accepts (leave n) (leave stopped) acts text later := by
    intro n stopped acts text later stops
    have taken := stops.taken
    have refused := stops.refused
    have beyond := stops.beyond
    have before := stops.before
    rw [enters.sink] at taken refused beyond
    rw [enters.host] at beyond before
    refine ⟨?_, ?_, taken, refused, ?_⟩
    · rw [leaves.host, before]
    · rw [leaves.host, beyond]
    · rw [leaves.outcomes, leaves.outcomes]
      exact stops.outcomes
  have outside : ∀ n, Ending.Curbs accepts (enter m) n (x (enter m))
      (x ((enter m).accepting accepts)) → Ending.Curbs accepts m (leave n)
        (Render.around enter leave x m) (Render.around enter leave x (m.accepting accepts)) := by
    rintro n (⟨passes, same⟩ | ⟨stopped, acts, text, later, refused, stops⟩)
    · refine .inl ⟨left n passes, ?_⟩
      unfold Render.around
      rw [entersAlike, same]
      cases x (enter m) with
      | done v n => exact congrArg (Ending.done v) (leavesAlike n)
      | failed error n => exact congrArg (Ending.failed error) (leavesAlike n)
      | outOfFuel => rfl
    · refine .inr ⟨leave stopped, acts, text, later, ?_, leftAt n stopped acts text later stops⟩
      unfold Render.around
      rw [entersAlike, refused]
  rw [holds_around]
  exact (inside.curbs (enter m) takesAll').mono (fun _ n => outside n) (fun _ n => outside n) id

/-- So does a render without the overriding templates. -/
theorem Curbed.detached {x : Render Unit} (inside : Curbed host accepts x) :
    Curbed host accepts (detached x) :=
  (curbed_reads fun _ => rfl).bind fun chain => inside.around (untold_chain fun _ => [])
    (untold_chain fun _ => chain) (fun _ => rfl) fun _ => rfl

/-- So does one with one more overriding template. -/
theorem Curbed.overridden {x : Render Unit} (inside : Curbed host accepts x) (t : Template) :
    Curbed host accepts (overridden t x) :=
  inside.around (untold_chain (· ++ [t])) (untold_chain List.dropLast) (fun _ => rfl) fun _ => rfl

/-- What is captured is the same with every rule, since it goes to a sink of its own. -/
theorem Curbed.captured {x : Render Unit} (inside : Curbed host accepts x) :
    Curbed host accepts (captured x) := by
  refine ⟨inside.journaled.captured, fun m _ => ?_⟩
  rw [captured_apply, captured_apply]
  unfold Render.around
  dsimp only [Machine.accepting]
  cases (x >>= fun _ => reads (·.sink.text)) { m with sink := .unlimited (m.sink.level + 1) } with
  | outOfFuel => trivial
  | done v n => exact .inl ⟨⟨[], rfl, trivial⟩, rfl⟩
  | failed error n => exact .inl ⟨⟨[], rfl, trivial⟩, rfl⟩

/-- A template does so if its body does. -/
theorem Curbed.template {x : Render Unit} (inside : Curbed host accepts x) (t : Template) :
    Curbed host accepts (template setting (fun _ => x) t) := by
  have entering : Curbed host accepts (entering t x) :=
    inside.around (untold_active (· ++ [t.name])) (untold_active List.dropLast) (fun _ => rfl)
      fun _ => rfl
  refine (curbed_reads fun _ => rfl).bind fun active => ?_
  split
  · exact curbed_quiet (fun m => .refl host m) (fun _ => rfl) fun _ => rfl
  · split
    · exact curbed_quiet (fun m => .refl host m) (fun _ => rfl) fun _ => rfl
    · exact entering

/-- So does a render in a scope of its own. -/
theorem Curbed.inScope {x : Render Unit} (inside : Curbed host accepts x)
    (leads : Within (Machine.Leads host) x) : Curbed host accepts (inScope x) := by
  refine ⟨journaled_inScope leads inside.journaled, fun m takesAll => ?_⟩
  rw [inScope_eq_around leads, inScope_eq_around leads]
  exact (inside.around (untold_context fun m => m.context.push) (untold_context fun _ => m.context)
    (fun _ => rfl) fun _ => rfl).curbs m takesAll

/-- The trait of doing the same with a rule for the sink until a text is refused. -/
def curbing (host : Host) (accepts : Output → String → Bool) : Trait Unit where
  whole x := Curbed host accepts (x ())
  inner x := Curbed host accepts (x ())
  entered _ x := Curbed host accepts (x ())

/-- Every operation of a render does the same with a rule until a text is refused. -/
theorem operable_curbing (setting : Setting) (accepts : Output → String → Bool) :
    (curbing setting.host accepts).Operable fun _ => setting where
  pure v := curbed_quiet (fun m => .refl setting.host m) (fun _ => rfl) fun _ => rfl
  bind := Curbed.bind
  emit := curbed_emit
  evaluate expr := curbed_quiet (journaled_evaluate expr) (fun _ => rfl) fun _ => rfl
  shown v := (curbed_reads fun _ => rfl).bind curbed_emit
  heap f := curbed_reads fun _ => rfl
  blockBody owner name body := curbed_reads fun _ => rfl
  inherits owner name x inside := (curbed_load name).bind fun t => (inside t).overridden owner
  includes name x inside := (curbed_load name).bind fun t => (inside t).detached
  captures name x inside := (curbed_load name).bind fun t => (inside t).detached.captured
  create := curbed_create
  template t x inside := Curbed.template inside t
  inner := id
  innerBind := Curbed.bind
  bindName name v :=
    curbed_quiet (journaled_modify (untold_context fun m => m.context.set name v)) (fun _ => rfl)
      fun _ => rfl
  bindLoop list index := by
    unfold curbing bindLoop
    split
    · exact (curbed_reads fun _ => rfl).bind fun count =>
        curbed_quiet (journaled_modify (untold_context fun m =>
          m.context.set "forloop" (.ofLoop ⟨index, count⟩))) (fun _ => rfl) fun _ => rfl
    · exact curbed_quiet (fun m => .refl setting.host m) (fun _ => rfl) fun _ => rfl

/-- Every run does the same with a rule until a text is refused. -/
theorem curbed_run (accepts : Output → String → Bool) (fuel : Nat) (task : Task) :
    Curbed setting.host accepts (run setting fuel task) := by
  have starved : ∀ task, (curbing setting.host accepts).Meets task fun _ => starve := by
    intro task
    cases task <;> exact ⟨fun _ => trivial, fun _ _ => trivial⟩
  have curbed := (operable_curbing setting accepts).run (fun _ => rfl)
    (fun leads inside => Curbed.inScope inside (leads ())) starved fuel task
  cases task <;> exact curbed

end Render

/-- Whatever rule the sink has, a render does what it does with a sink that takes every text until a
text is refused, and there it stops. -/
theorem Template.curbs_render {setting : Setting} {fuel : Nat} {t : Template} {m : Machine}
    (takesAll : m.sink.Open) (accepts : Output → String → Bool) :
    (t.render setting fuel m).Holds
      (fun _ n => Ending.Curbs accepts { m with outcomes := #[] } n (t.render setting fuel m)
        (t.render setting fuel (m.accepting accepts)))
      (fun _ n => Ending.Curbs accepts { m with outcomes := #[] } n (t.render setting fuel m)
        (t.render setting fuel (m.accepting accepts))) True := by
  have curbed : Render.Curbed setting.host accepts (Render.run setting fuel (.template t)) :=
    Render.curbed_run accepts fuel (.template t)
  have here := curbed.curbs { m with active := [], chain := [], outcomes := #[] } takesAll
  have same : ∀ n, Ending.Curbs accepts { m with active := [], chain := [], outcomes := #[] } n
      (t.render setting fuel m) (t.render setting fuel (m.accepting accepts)) →
      Ending.Curbs accepts { m with outcomes := #[] } n (t.render setting fuel m)
        (t.render setting fuel (m.accepting accepts)) := by
    rintro n (⟨passes, same⟩ | ⟨stopped, acts, text, later, refused, stops⟩)
    · exact .inl ⟨passes, same⟩
    · exact .inr ⟨stopped, acts, text, later, refused,
        ⟨stops.before, stops.beyond, stops.taken, stops.refused, stops.outcomes⟩⟩
  exact here.mono (fun _ n => same n) (fun _ n => same n) id

/-- The number of bytes of the first texts together. -/
def sizeOfFirst (texts : List String) (count : Nat) : Nat :=
  (String.join (texts.take count)).utf8ByteSize

/-- A limited sink that is not over its limit takes texts if with none of them it gets there. -/
theorem takes_limited {limit : Nat} {before : Output} {texts : List String}
    (within : before.size ≤ limit) :
    Takes (Sink.limited limit).accepts before texts ↔
      ∀ count, before.size + sizeOfFirst texts count ≤ limit := by
  induction texts generalizing before with
  | nil =>
    have empty : ∀ count, sizeOfFirst [] count = 0 := fun count => by simp [sizeOfFirst]
    simp [Takes, empty, within]
  | cons text texts ih =>
    have none : sizeOfFirst (text :: texts) 0 = 0 := by simp [sizeOfFirst]
    have some : ∀ count, sizeOfFirst (text :: texts) (count + 1) =
        text.utf8ByteSize + sizeOfFirst texts count := fun count => by
      simp [sizeOfFirst, String.utf8ByteSize_append]
    have after (fits : before.size + text.utf8ByteSize ≤ limit) :
        Takes (Sink.limited limit).accepts (before.push text) texts ↔
          ∀ count, before.size + text.utf8ByteSize + sizeOfFirst texts count ≤ limit := ih fits
    constructor
    · rintro ⟨taken, later⟩ count
      have fits : before.size + text.utf8ByteSize ≤ limit := of_decide_eq_true taken
      have rest := (after fits).mp later
      cases count with
      | zero => omega
      | succ count =>
        have here := rest count
        rw [some]
        omega
    · intro all
      have fits : before.size + text.utf8ByteSize ≤ limit := by
        have here := all 1
        rw [some] at here
        omega
      refine ⟨decide_eq_true fits, (after fits).mpr fun count => ?_⟩
      have here := all (count + 1)
      rw [some] at here
      omega

/-- Where a limited sink refuses a text, that text is the first with which the limit is passed. -/
theorem Machine.Stops.passesLimit {limit : Nat} {m n stopped : Machine} {acts : List Act}
    {text : String} {later : List Act}
    (stops : m.Stops (Sink.limited limit).accepts n stopped acts text later)
    (fresh : m.sink = .unlimited 0) :
    (∀ count ≤ (textsAt 0 acts).length,
      sizeOfFirst (textsAt 0 acts ++ text :: textsAt 0 later) count ≤ limit) ∧
    limit <
      sizeOfFirst (textsAt 0 acts ++ text :: textsAt 0 later) ((textsAt 0 acts).length + 1) := by
  have taken : Takes (Sink.limited limit).accepts ∅ (textsAt 0 acts) := by
    have here := stops.taken
    rwa [fresh] at here
  have refused : (Sink.limited limit).accepts (Output.append ∅ (textsAt 0 acts)) text = false := by
    have here := stops.refused
    rwa [fresh] at here
  have fits := (takes_limited (Nat.zero_le limit)).mp taken
  have exceeds : ¬ (Output.append ∅ (textsAt 0 acts)).size + text.utf8ByteSize ≤ limit :=
    of_decide_eq_false refused
  have whole : (Output.append ∅ (textsAt 0 acts)).size =
      (String.join (textsAt 0 acts)).utf8ByteSize := by
    rw [Output.size_append]
    exact Nat.zero_add _
  constructor
  · intro count short
    have here := fits count
    have front : (textsAt 0 acts ++ text :: textsAt 0 later).take count =
        (textsAt 0 acts).take count := List.take_append_of_le_length short
    rw [sizeOfFirst, front]
    exact Nat.le_of_add_left_le here
  · have front : (textsAt 0 acts ++ text :: textsAt 0 later).take ((textsAt 0 acts).length + 1) =
        textsAt 0 acts ++ [text] := List.take_length_add_append 1
    rw [sizeOfFirst, front, String.join_append, String.utf8ByteSize_append]
    simp only [String.join_cons, String.join_nil, String.append_empty]
    omega

/-- A render to a fresh sink writes the texts that its journal notes. -/
theorem Machine.Recounts.texts_eq {host : Host} {acts : List Act} {m n : Machine}
    (recounts : m.Recounts host acts n) (fresh : m.sink.written = ∅) (level : m.sink.level = 0) :
    n.sink.written.texts.toList = textsAt 0 acts := by
  have written : n.sink.written = Output.append ∅ (textsAt 0 acts) := by
    rw [recounts.sink, level, ← fresh]
    rfl
  rw [written]
  exact Output.toList_texts_append _

/-- A render whose sink takes up to a number of bytes, compared with the render from the same
machine whose sink takes every text. If at no time the texts of the latter are longer than the
limit, both do the same and end in the same way. Otherwise the limited render writes the texts
before the first with which they are, and fails for being refused; it did what the other one did
before that text, and nothing of what that one does later. -/
theorem Template.render_limited {setting : Setting} {fuel : Nat} {t : Template} {m n : Machine}
    (ended : t.render setting fuel { m with sink := .unlimited 0 } = .done () n ∨
      ∃ error, t.render setting fuel { m with sink := .unlimited 0 } = .failed error n)
    (limit : Nat) :
    ((∀ count, sizeOfFirst n.sink.written.texts.toList count ≤ limit) →
      t.render setting fuel { m with sink := .limited limit } =
        (t.render setting fuel { m with sink := .unlimited 0 }).accepting
          (Sink.limited limit).accepts) ∧
    ∀ count, (∀ fewer ≤ count, sizeOfFirst n.sink.written.texts.toList fewer ≤ limit) →
      limit < sizeOfFirst n.sink.written.texts.toList (count + 1) →
      ∃ stopped acts text later,
        t.render setting fuel { m with sink := .limited limit } = .failed .refused stopped ∧
        stopped.sink.text = String.join (n.sink.written.texts.toList.take count) ∧
        n.sink.written.texts.toList[count]? = some text ∧
        Machine.Recounts setting.host acts { m with sink := .limited limit, outcomes := #[] }
          stopped ∧
        n.host.journal.toList = m.host.journal.toList ++ acts ++ .wrote 0 text :: later ∧
        stopped.outcomes.toList <+: n.outcomes.toList := by
  have free : Sink.Open (.unlimited 0) := fun _ _ => rfl
  have ends : ∀ P : Machine → Prop, (t.render setting fuel { m with sink := .unlimited 0 }).Holds
      (fun _ => P) (fun _ => P) True → P n := by
    intro P holds
    rcases ended with done | ⟨error, failed⟩
    · rwa [done] at holds
    · rwa [failed] at holds
  have curbs := ends _ (@Template.curbs_render setting fuel t { m with sink := .unlimited 0 } free
    (Sink.limited limit).accepts)
  obtain ⟨all, told⟩ := ends _ (Template.recounted_render { m with sink := .unlimited 0 })
  have texts : n.sink.written.texts.toList = textsAt 0 all := told.texts_eq rfl rfl
  rw [texts]
  rcases curbs with ⟨⟨written, sink, taken⟩, same⟩ | ⟨stopped, acts, text, later, refused, stops⟩
  · -- every text is taken, so the limit is never passed
    obtain rfl : written = textsAt 0 all := Sink.writeAll_inj (sink.symm.trans told.sink)
    have fits : ∀ count, sizeOfFirst (textsAt 0 all) count ≤ limit := by
      have within := (takes_limited (Nat.zero_le limit)).mp taken
      intro count
      have here := within count
      omega
    exact ⟨fun _ => same, fun count _ exceeds => absurd (fits (count + 1)) (Nat.not_le.mpr exceeds)⟩
  · have journal : all = acts ++ .wrote 0 text :: later :=
      List.append_cancel_left (told.journal.symm.trans stops.beyond)
    have order : textsAt 0 all = textsAt 0 acts ++ text :: textsAt 0 later := by
      rw [journal, textsAt_append]
      rfl
    obtain ⟨fits, exceeds⟩ := stops.passesLimit rfl
    rw [order]
    refine ⟨fun within => absurd (within _) (Nat.not_le.mpr exceeds), fun count least longer => ?_⟩
    -- the limit is passed at one text alone
    have same : count = (textsAt 0 acts).length := by
      by_contra other
      rcases Nat.lt_or_gt_of_ne other with less | more
      · exact absurd (fits (count + 1) less) (Nat.not_le.mpr longer)
      · exact absurd (least _ more) (Nat.not_le.mpr exceeds)
    obtain ⟨acts', told'⟩ : Machine.Recounted setting.host
        { m with sink := .limited limit, outcomes := #[] } stopped := by
      have limited := @Template.recounted_render setting fuel t { m with sink := .limited limit }
      have there : t.render setting fuel { m with sink := .limited limit } =
        .failed .refused stopped := refused
      rwa [there] at limited
    obtain rfl : acts' = acts :=
      List.append_cancel_left (told'.journal.symm.trans stops.before)
    have front : stopped.sink.written.texts.toList = textsAt 0 acts' := told'.texts_eq rfl rfl
    refine ⟨stopped, acts', text, later, refused, ?_, ?_, told', ?_, stops.outcomes⟩
    · show String.join stopped.sink.written.texts.toList = _
      rw [front, same, List.take_left]
    · rw [same]
      simp only [List.getElem?_append_right (Nat.le_refl _), Nat.sub_self, List.getElem?_cons_zero]
    · rw [stops.beyond, List.append_assoc]
      rfl

/-- A host whose callables answer with a mark. -/
def Host.marking : Host := ⟨fun _ _ heap => ("!", heap)⟩

/-- A template that, for every item of a list, writes it and creates and includes another one. -/
def Template.ledger : Template where
  name := "ledger"
  nodes := [.text "ab", .forEach "x" ⟨.path "xs" [], []⟩ false
    [.variable ⟨.path "x" [], []⟩,
      .creates ⟨.literal (.text "page"), []⟩ ⟨.literal (.text "part"), []⟩ 1,
      .includes ⟨.literal (.text "part"), []⟩] []]
  blocks := ∅

/-- A machine with a list of two callables that knows a template of three letters. -/
def Machine.ledgers : Machine :=
  .start (Table.insert ∅ "part" ⟨"part", [.text "cde"], ∅⟩) (Context.set ∅ "xs" (.ofList ⟨0⟩))
    ⟨#[#[.ofCallable ⟨0⟩, .ofCallable ⟨0⟩]], #[]⟩

/-- So it is where an included template is refused after a file was created, inside a loop. -/
theorem Template.render_limited_ledger :
    ∃ n stopped acts later,
      Template.ledger.render ⟨.marking, default⟩ 20 { Machine.ledgers with sink := .unlimited 0 } =
        .done () n ∧
      n.sink.text = "ab!cde!cde" ∧
      Template.ledger.render ⟨.marking, default⟩ 20 { Machine.ledgers with sink := .limited 5 } =
        .failed .refused stopped ∧
      stopped.sink.text = "ab!" ∧
      stopped.host.journal.toList = acts ∧
      n.host.journal.toList = acts ++ .wrote 0 "cde" :: later := by
  obtain ⟨_, n, done, texts⟩ : ∃ v n, Template.ledger.render ⟨.marking, default⟩ 20
      { Machine.ledgers with sink := .unlimited 0 } = .done v n ∧
      n.sink.written.texts.toList = ["ab", "!", "cde", "!", "cde"] :=
    Ending.Holds.exists_done (by decide +kernel)
  have compared := (Template.render_limited (.inl done) 5).2 2
  rw [texts] at compared
  obtain ⟨stopped, acts, text, later, refused, written, here, told, journal, -⟩ :=
    compared (by decide) (by decide)
  obtain rfl : "cde" = text := Option.some.inj here
  refine ⟨n, stopped, acts, later, done, ?_, refused, written, ?_, ?_⟩
  · show String.join n.sink.written.texts.toList = _
    rw [texts]
    decide
  · exact told.journal
  · exact journal

end TextTemplate
