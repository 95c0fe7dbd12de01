import TextTemplate.Proofs.Render.Honesty
import TextTemplate.Proofs.Render.Safety
import TextTemplate.Proofs.Inheritance.Cycles
import Mathlib.Data.List.Perm.Subperm
/-!
# With which errors a render fails

Data never make a render fail, and scopes are always closed in order. What remains are the errors of
loading a template, those of the two guards, and a text that a node wrote and the sink refused.
Where every node is served by the templates that are known from the start, loading does not fail.
The names of the templates being rendered are then names of known templates, each once, so there are
never more of them than known templates, and a limit as high as that is never reached. Main
statement: `Template.render_errors`.
-/
namespace TextTemplate

namespace Render

variable {α β : Type} {setting : Setting} {m n : Machine}

/-! ### Screened runs that fail with allowed errors alone -/

/-- What makes every run safe whose nodes are admitted: the machines in which tasks are begun are of
a kind that is kept, templates are fit to be rendered in them, and what an admitted node asks for is
a fit template or an allowed error. -/
structure Precaution (setting : Setting) (allowed : RenderError → Prop)
    (admits : Node → Machine → Prop) (kept : Machine → Prop) (fit : Template → Prop) : Prop where
  /-- A sink may refuse a text. -/
  refused : allowed .refused
  /-- What is kept is kept as long as the machine stays as it is. -/
  stays : ∀ m n, kept m → m.Stays n → kept n
  /-- What is kept does not depend on the overriding templates or on the sink. -/
  moved : ∀ m chain sink, kept m → kept { m with chain, sink }
  /-- A template may be refused inside itself. -/
  cycle : ∀ (t : Template) m, kept m → t.name ∈ m.active → allowed (.cycle (m.active ++ [t.name]))
  /-- A template that fits may be refused where it would be too deep. -/
  deep : ∀ t m, fit t → kept m → t.name ∉ m.active → setting.config.maxDepth ≤ m.active.length →
    allowed (.tooDeep setting.config.maxDepth t.name)
  /-- What is kept is kept inside a template that fits. -/
  entered : ∀ t m, fit t → kept m → t.name ∉ m.active →
    kept { m with active := m.active ++ [t.name] }
  /-- An admitted node resolves a template that fits, or fails in an allowed way. -/
  asks : ∀ node m expr, kept m → admits node m → node.operand? = some expr →
    (resolve setting expr (node.asking setting.host m)).Holds (fun t _ => fit t)
      (fun error _ => allowed error) True

/-- The template of a task that renders one is fit. -/
def FitTask (fit : Template → Prop) : Task → Prop
  | .template t => fit t
  | _ => True

section Precaution

variable {allowed : RenderError → Prop} {admits : Node → Machine → Prop} {kept : Machine → Prop}
  {fit : Template → Prop} (careful : Precaution setting allowed admits kept fit)

include careful

/-- A node that is admitted is safe if the tasks inside it are. -/
theorem safe_admitted {run : Task → Render Unit}
    (steady : ∀ task, (steadiness setting.host).Meets task fun _ => run task)
    (inside : ∀ task k, kept k → FitTask fit task → Safe allowed True (run task) k)
    (owner : Template) {node : Node} (start : kept m) (admitted : admits node m) :
    Safe allowed True (Render.node setting run owner node) m := by
  have asked : ∀ expr, node.operand? = some expr → ∀ t k,
      resolve setting expr (node.asking setting.host m) = .done t k → fit t ∧ kept k := by
    intro expr operand t k resolved
    have asks := careful.asks node m expr start admitted operand
    rw [resolved] at asks
    have there := careful.stays _ _ start (stays_asking node setting.host m)
    have back : Steady setting.host (resolve setting expr) :=
      Steady.bind (steady_evaluate expr) fun v => steady_load v.text
    exact ⟨asks, careful.stays _ _ there (back.returns resolved).toStays⟩
  have loads : ∀ expr, node.operand? = some expr →
      Safe allowed True (resolve setting expr) (node.asking setting.host m) := fun expr operand =>
    (careful.asks node m expr start admitted operand).mono (fun _ _ _ => trivial) (fun _ _ => id) id
  refine safe_node steady careful.stays careful.refused start
    (fun _ body _ k there => inside (.nodes owner body) k there trivial)
    (fun var expr reversed body otherwise _ list cursor k there _ => inside _ k there trivial)
    (fun name body _ => inside _ m start trivial) loads
    (fun expr t k shape resolved => ?_) (fun expr t k sink operand _ resolved => ?_)
  · subst shape
    obtain ⟨fits, there⟩ := asked expr rfl t k resolved
    exact inside (.template t) _ (careful.moved k _ k.sink there) fits
  · obtain ⟨fits, there⟩ := asked expr operand t k resolved
    exact inside (.template t) _ (careful.moved k [] sink there) fits

variable [∀ node, DecidablePred (admits node)]

/-- Nodes of which only the admitted ones are rendered are safe if the renders they ask for are. -/
theorem safe_screenedNodes {run : Task → Render Unit}
    (steady : ∀ task, (steadiness setting.host).Meets task fun _ => run task)
    (inside : ∀ task k, kept k → FitTask fit task → Safe allowed True (run task) k)
    (owner : Template) (ns : List Node) (start : kept m) :
    Safe allowed True (screenedNodes setting admits run owner ns) m := by
  induction ns generalizing m with
  | nil => exact safe_of_done rfl
  | cons first rest ih =>
    have here : Safe allowed True (guarded (admits first) (node setting run owner first)) m := by
      unfold Safe guarded
      split
      · rename_i admitted
        exact safe_admitted careful steady inside owner start admitted
      · trivial
    have back : Steady setting.host (node setting run owner first) :=
      (compatible_steadiness setting).node steady owner first
    refine here.bind fun _ n done => ?_
    have returns := Steady.returns ((sparing_guarded _ _).within back) done
    split
    · exact safe_of_done rfl
    · exact ih (careful.stays m n start returns.toStays)

/-- A run whose nodes are screened fails with allowed errors alone. -/
theorem safe_screenedRun (fuel : Nat) (task : Task) (m : Machine) (start : kept m)
    (fits : FitTask fit task) : Safe allowed True (screenedRun setting admits fuel task) m := by
  induction fuel generalizing task m with
  | zero => trivial
  | succ fuel ih =>
    have steady : ∀ task, (steadiness setting.host).Meets task fun _ =>
        screenedRun setting admits fuel task := steady_screenedRun fuel
    cases task with
    | template t =>
      refine safe_template (careful.cycle t m start) (careful.deep t m fits start) fun fresh _ => ?_
      exact ih (.nodes t t.nodes) _ (careful.entered t m fits start fresh) trivial
    | nodes owner ns => exact safe_screenedNodes careful steady ih owner ns start
    | iterate owner var reversed body list cursor index =>
      exact safe_iterate steady careful.stays start
        (fun k there => ih (.nodes owner body) k there trivial)
        (fun k there => ih (.iterate owner var reversed body list _ _) k there trivial)

end Precaution

/-- No render fails since scopes were not closed in order, whatever its nodes ask for. -/
theorem precaution_scope (setting : Setting) :
    Precaution setting (fun error => ∀ fault, error ≠ .scope fault) (fun _ _ => True)
      (fun _ => True) (fun _ => True) where
  refused := nofun
  stays _ _ _ _ := trivial
  moved _ _ _ _ := trivial
  cycle _ _ _ _ := nofun
  deep _ _ _ _ _ _ := nofun
  entered _ _ _ _ _ := trivial
  asks node m expr _ _ _ := by
    refine Safe.bind (safe_of_done rfl) fun v k _ => ?_
    unfold Safe
    rw [holds_load, Library.load_eq]
    cases k.library.get? (Library.normalise v.text) with
    | some t => trivial
    | none =>
      dsimp only
      cases fetched : Library.fetch setting.config k.files (Library.normalise v.text) with
      | ok t => trivial
      | error error =>
        rcases Library.fetch_error fetched with ⟨_, rfl⟩ | ⟨_, rfl⟩ | ⟨_, rfl⟩ <;> exact nofun

/-- The errors of a render whose nodes are served by a library: those of the guards, of which the
limit can only be met if it is lower than the number of templates, and a refused text. -/
def Served (setting : Setting) (library : Library) (error : RenderError) : Prop :=
  (∃ names, error = .cycle names) ∨ error = .refused ∨
    setting.config.maxDepth < library.size ∧ ∃ name, error = .tooDeep setting.config.maxDepth name

/-- The templates being rendered are known to the library, each is rendered once, and what the
library knows is known still. -/
structure Stacked (library : Library) (m : Machine) : Prop where
  /-- Everything in the library is known to the machine. -/
  within : library.Within m.library
  /-- No template is being rendered twice. -/
  once : m.active.Nodup
  /-- Only templates of the library are being rendered. -/
  known : m.active ⊆ library.keys

/-- A name that is found is one of the keys. -/
theorem mem_keys_of_get? {library : Library} {key : String} {t : Template}
    (known : library.get? key = some t) : key ∈ library.keys :=
  List.mem_map.mpr ⟨(key, t), Table.mem_of_get?_eq_some known, rfl⟩

/-- One more template can be rendered inside as long as not all are. -/
theorem Stacked.entered {library : Library} (stacked : Stacked library m) {t : Template}
    (known : t.name ∈ library.keys) (fresh : t.name ∉ m.active) :
    Stacked library { m with active := m.active ++ [t.name] } where
  within := stacked.within
  once := List.nodup_append.mpr ⟨stacked.once, by simp, by
    rintro name inside other last rfl
    exact fresh (List.mem_singleton.mp last ▸ inside)⟩
  known := List.append_subset.mpr ⟨stacked.known, by simpa using known⟩

/-- As many templates are rendered inside one another as the library knows, at most. -/
theorem Stacked.length_le {library : Library} (stacked : Stacked library m) :
    m.active.length ≤ library.size := by
  have counted : m.active.length ≤ library.keys.length :=
    (List.subperm_of_subset stacked.once stacked.known).length_le
  simpa [Table.keys, Table.size] using counted

/-- Nodes that are served by a library of parsed templates keep to it. -/
theorem precaution_served {library : Library} (parsed : library.Parsed) (setting : Setting) :
    Precaution setting (Served setting library) (Node.Served library setting.host)
      (Stacked library) (fun t => t.name ∈ library.keys) where
  refused := .inr (.inl rfl)
  stays m n stacked stays :=
    ⟨stacked.within.trans stays.library, stays.active ▸ stacked.once, stays.active ▸ stacked.known⟩
  moved _ _ _ stacked := ⟨stacked.within, stacked.once, stacked.known⟩
  cycle _ _ _ _ := .inl ⟨_, rfl⟩
  deep t m known stacked fresh full := by
    have more := (stacked.entered known fresh).length_le
    rw [List.length_append, List.length_singleton] at more
    exact .inr (.inr ⟨by omega, t.name, rfl⟩)
  entered _ _ known stacked fresh := stacked.entered known fresh
  asks node m expr stacked served operand := by
    obtain ⟨name, t, -, known, resolved⟩ := resolve_of_served stacked.within operand served
    rw [resolved]
    show t.name ∈ library.keys
    rw [(parsed _ t known).1]
    exact mem_keys_of_get? known

end Render

/-- Of a render that fails: scopes were closed in order. If a text was refused, then it is the one
that the first node writes of a point to which the render came, and the sink, which is still that of
the point, refuses it after what was written. And if the template is one of those that are known and
every node is served by them, then a template is reached again while it is being rendered, or a text
was refused, or the limit on the depth is lower than the number of known templates and is
exceeded. -/
theorem Template.render_errors {setting : Setting} {fuel : Nat} {t : Template} {m n : Machine}
    {error : RenderError} (failed : t.render setting fuel m = .failed error n) :
    (∀ fault, error ≠ .scope fault) ∧
      (error = .refused → ∃ point node text, t.Comes setting m point ∧
        point.nodes.head? = some node ∧ node.written? setting.host point.machine = some text ∧
        n.sink = point.machine.sink ∧ m.sink.accepts n.sink.written text = false) ∧
      (m.library.Parsed → m.library.contains t.name = true →
        t.Always (Node.Served m.library setting.host) setting fuel m →
        (∃ names, error = .cycle names) ∨ error = .refused ∨
          setting.config.maxDepth < m.library.size ∧
            ∃ name, error = .tooDeep setting.config.maxDepth name) := by
  have ran : Render.run setting fuel (.template t)
      { m with active := [], chain := [], outcomes := #[] } = .failed error n := failed
  refine ⟨?_, ?_, fun parsed known served => ?_⟩
  · have safe := Render.safe_screenedRun (Render.precaution_scope setting) fuel (.template t)
      { m with active := [], chain := [], outcomes := #[] } trivial trivial
    unfold Render.Safe at safe
    rw [Render.screenedRun_true, ran] at safe
    exact safe
  · rintro rfl
    obtain ⟨point, node, text, comes, first, written, same, rule, refuses⟩ :=
      Template.refused_at_point failed
    rw [rule] at refuses
    exact ⟨point, node, text, comes, first, written, same, refuses⟩
  · obtain ⟨d, found⟩ := Option.isSome_iff_exists.mp known
    have stacked : Render.Stacked m.library { m with active := [], chain := [], outcomes := #[] } :=
      ⟨.refl m.library, List.nodup_nil, nofun⟩
    have careful := Render.precaution_served parsed setting
    have safe := Render.safe_screenedRun careful fuel (.template t) _ stacked
      (Render.mem_keys_of_get? found)
    unfold Render.Safe at safe
    rw [served.screenedRun_eq, failed] at safe
    exact safe

/-- A template that includes the templates of a list. -/
def Template.menu : Template where
  name := "menu"
  nodes := [.forEach "x" ⟨.path "xs" [], []⟩ false [.includes ⟨.path "x" [], []⟩] []]
  blocks := ∅

/-- The menu is read from its source. -/
theorem Template.parse_menu : Source.parse "menu" (Source.tag "for x in xs" ++
    Source.tag "include x" ++ Source.tag "endfor").toList = .ok menu := by
  with_unfolding_all rfl

/-- A machine that knows it and a label, with a list that names both. -/
def Machine.menus : Machine :=
  .start ((Table.insert ∅ "label" .label).insert "menu" .menu) (Context.set ∅ "xs" (.ofList ⟨0⟩))
    ⟨#[#[.ofText "label", .ofText "./menu"]], #[]⟩

/-- Two templates may be rendered inside one another and two are known, so the render can only fail
since a template is reached again. -/
theorem Template.render_errors_menu :
    ∃ names n, Template.menu.render ⟨.silent, { Config.default with maxDepth := 2 }⟩ 20 .menus =
      .failed (.cycle names) n ∧ n.sink.text = "x" := by
  have parsed : Machine.menus.library.Parsed :=
    (Library.parsed_empty.insert Template.parse_label).insert Template.parse_menu
  have served : Template.menu.Always (Node.Served Machine.menus.library .silent)
      ⟨.silent, { Config.default with maxDepth := 2 }⟩ 20 .menus :=
    Template.always_of_screenedRun (fun _ _ => id) (by decide +kernel)
  have ended : (match Template.menu.render ⟨.silent, { Config.default with maxDepth := 2 }⟩ 20
      .menus with
      | .failed _ n => some n.sink.text
      | _ => none) = some "x" := by
    decide +kernel
  split at ended
  · rename_i error n failed
    obtain ⟨-, refusal, limits⟩ := Template.render_errors failed
    rcases limits parsed rfl served with ⟨names, rfl⟩ | rfl | ⟨deeper, -⟩
    · exact ⟨names, n, failed, Option.some.inj ended⟩
    · obtain ⟨_, _, text, -, -, -, -, refuses⟩ := refusal rfl
      cases refuses
    · exact absurd deeper (by decide)
  · cases ended

end TextTemplate
