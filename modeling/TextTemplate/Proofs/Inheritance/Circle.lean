import TextTemplate.Proofs.Inheritance.Cycles
import TextTemplate.Proofs.Render.Plain
/-!
# Templates that inherit in a circle

Where each template begins with texts and then inherits from the next one, a render enters one after
the other. It writes the texts that they begin with and reaches nothing else of them: what stands
behind the inheriting node is passed over, and the parent is rendered first. So it goes until a
template is met that is not rendered at all, because it is being rendered already or because too
many are. Main statement: a line of templates that comes back to itself is reported as a cycle, or,
if it is longer than templates may nest, as too deep (`render_of_circle`).
-/
namespace TextTemplate

/-- The texts in front of the first other node. -/
def Node.textsOf : List Node → List String
  | .text s :: rest => s :: textsOf rest
  | _ => []

namespace Template

/-- The texts that a template begins with. -/
def heading (t : Template) : List String := Node.textsOf t.nodes

/-- After the texts that it begins with, a template inherits from another one, which it names by a
literal. -/
def Inherits (library : Library) (t parent : Template) : Prop :=
  ∃ expr after name, t.nodes = t.heading.map .text ++ .inherits expr :: after ∧
    expr.templateName? = some name ∧ library.get? name = some parent

end Template

/-- The machine in which the parent of a template is rendered. -/
def Machine.under (m : Machine) (t : Template) : Machine :=
  { m with active := m.active ++ [t.name], chain := m.chain ++ [t] }

namespace Render

variable {setting : Setting} {m : Machine}

/-- Why a template is not rendered while the templates of the given names are, if it is not. -/
def refusal (setting : Setting) (t : Template) (active : List String) : Option RenderError :=
  if t.name ∈ active then some (.cycle (active ++ [t.name]))
  else if setting.config.maxDepth ≤ active.length then
    some (.tooDeep setting.config.maxDepth t.name)
  else none

/-- A template that is refused fails at once. -/
theorem failed_of_refusal {t : Template} {error : RenderError}
    (refused : refusal setting t m.active = some error) (fuel : Nat) :
    run setting (fuel + 1) (.template t) m = .failed error m := by
  refine (template_apply setting _ t m).trans ?_
  unfold refusal at refused
  split at refused
  · rename_i again
    rw [if_pos again]
    cases refused
    rfl
  · rename_i other
    rw [if_neg other]
    split at refused
    · rename_i full
      rw [if_pos full]
      cases refused
      rfl
    · cases refused

/-- What fails inside fails outside, after leaving. -/
theorem failed_around (enter leave : Machine → Machine) {body : Render Unit} {error : RenderError}
    {k : Machine} (failed : body (enter m) = .failed error k) :
    around enter leave body m = .failed error (leave k) := by
  rw [around, failed]

/-- Of templates of different names, the first that is too deep is not rendered inside the
others. -/
theorem refusal_of_deep {ts : List Template} (distinct : (ts.map (·.name)).Nodup)
    (deep : setting.config.maxDepth < ts.length) :
    refusal setting ts[setting.config.maxDepth] ((ts.take setting.config.maxDepth).map (·.name)) =
      some (.tooDeep setting.config.maxDepth ts[setting.config.maxDepth].name) := by
  have names := distinct.sublist ((List.take_sublist (setting.config.maxDepth + 1) ts).map _)
  rw [← List.take_append_getElem deep, List.map_append, List.nodup_append] at names
  have other : ts[setting.config.maxDepth].name ∉
      (ts.take setting.config.maxDepth).map (·.name) := fun again =>
    names.2.2 _ again _ (List.mem_singleton.mpr rfl) rfl
  have full : (ts.take setting.config.maxDepth).length = setting.config.maxDepth :=
    List.length_take_of_le (Nat.le_of_lt deep)
  rw [refusal, if_neg other, List.length_map, full, if_pos (Nat.le_refl _)]

/-- A template whose parent is not rendered writes the texts that it begins with. -/
theorem failed_of_parent {t parent : Template} (inherits : t.Inherits m.library parent)
    (other : t.name ∉ m.active) (room : m.active.length < setting.config.maxDepth)
    (free : m.sink.Open) {fuel : Nat} {error : RenderError} {texts : List String}
    (failed : run setting fuel (.template parent) ((m.under t).wroteAll t.heading) =
      .failed error ((m.under t).wroteAll texts)) :
    run setting (fuel + 2) (.template t) m = .failed error (m.wroteAll texts) := by
  obtain ⟨expr, after, name, shape, named, known⟩ := inherits
  let entered : Machine := { m with active := m.active ++ [t.name] }
  have opened : entered.sink.Open := free
  -- the name is a literal, so finding the parent invokes nothing
  have resolved : resolve setting expr (entered.wroteAll t.heading) =
      .done parent (entered.wroteAll t.heading) := resolve_of_templateName named known
  have above : overridden t (run setting fuel (.template parent)) (entered.wroteAll t.heading) =
      .failed error (entered.wroteAll texts) := by
    refine (failed_around (fun k => { k with chain := k.chain ++ [t] })
      (fun k => { k with chain := k.chain.dropLast }) failed).trans ?_
    simp [Machine.wroteAll, Machine.under, entered]
  have rendered : run setting (fuel + 1) (.nodes t t.nodes) entered =
      .failed error (entered.wroteAll texts) := by
    show nodes setting (run setting fuel) t t.nodes entered = _
    rw [shape]
    refine (nodes_texts opened t.heading _).trans (failed_bind ?_)
    exact (bind_of_done resolved).trans above
  refine (template_apply setting _ t m).trans ((if_neg other).trans ?_)
  refine (if_neg (Nat.not_le.mpr room)).trans ((failed_around _ _ rendered).trans ?_)
  -- the failed render has left the template again, so only its texts are left of it
  simp [Machine.wroteAll, entered]

/-- Templates each of which inherits from the next one are entered one after the other, up to one
that is not rendered. -/
theorem failed_along {line others : List Template} {first stop : Template} {error : RenderError}
    {fuel : Nat} (whole : line ++ [stop] = first :: others)
    (inherits : List.IsChain (Template.Inherits m.library) (first :: others))
    (distinct : (m.active ++ line.map (·.name)).Nodup)
    (room : m.active.length + line.length ≤ setting.config.maxDepth) (free : m.sink.Open)
    (refused : refusal setting stop (m.active ++ line.map (·.name)) = some error) :
    run setting (fuel + 1 + 2 * line.length) (.template first) m =
      .failed error (m.wroteAll (line.flatMap (·.heading))) := by
  -- the induction is on the templates that are entered, from machines in which ever more are active
  induction line generalizing m first others with
  | nil =>
    cases whole
    rw [List.map_nil, List.append_nil] at refused
    rw [List.flatMap_nil, Machine.wroteAll_nil]
    exact failed_of_refusal refused fuel
  | cons t line ih =>
    rw [List.cons_append] at whole
    obtain ⟨rfl, rfl⟩ := List.cons.inj whole
    have some_ : line ++ [stop] ≠ [] := List.append_ne_nil_of_right_ne_nil _ (List.cons_ne_nil _ _)
    obtain ⟨parent, ancestors, behind⟩ := List.exists_cons_of_ne_nil some_
    rw [behind, List.isChain_cons_cons] at inherits
    have other : t.name ∉ m.active := fun member =>
      (List.nodup_append.mp distinct).2.2 t.name member t.name (by simp) rfl
    rw [List.length_cons] at room
    rw [List.map_cons, List.append_cons] at distinct refused
    have left : (m.under t).active.length + line.length ≤ setting.config.maxDepth := by
      simp only [Machine.under, List.length_append, List.length_singleton]
      omega
    have next := ih (m := (m.under t).wroteAll t.heading) behind inherits.2 distinct left free
      refused
    rw [Machine.wroteAll_wroteAll] at next
    exact failed_of_parent inherits.1 other (by omega) free next

end Render

namespace Template

variable {setting : Setting} {m : Machine}

/-- So it is where no template is being rendered before. -/
theorem render_of_line {line others : List Template} {first stop : Template} {error : RenderError}
    (whole : line ++ [stop] = first :: others)
    (inherits : List.IsChain (Inherits m.library) (first :: others))
    (distinct : (line.map (·.name)).Nodup) (room : line.length ≤ setting.config.maxDepth)
    (free : m.sink.Open) (refused : Render.refusal setting stop (line.map (·.name)) = some error)
    {fuel : Nat} (enough : 2 * line.length < fuel) :
    first.render setting fuel m = .failed error (m.fresh.wroteAll (line.flatMap (·.heading))) := by
  obtain ⟨spare, fueled⟩ := Nat.exists_eq_add_of_lt enough
  have fueled' : fuel = spare + 1 + 2 * line.length := by omega
  have fits : m.fresh.active.length + line.length ≤ setting.config.maxDepth := by
    rw [Machine.fresh, List.length_nil, Nat.zero_add]
    exact room
  rw [fueled']
  exact Render.failed_along (m := m.fresh) whole inherits distinct fits free refused

/-- Templates of different names, each of which inherits from the next one and the last of which
from one of them, are reported as a cycle, unless they are more than may nest: then the first that
is too deep is reported. Either way the render has written the texts that the templates entered
begin with, and changed nothing else. -/
theorem render_of_circle {t again : Template} {others : List Template}
    (inherits : List.IsChain (Inherits m.library) (t :: others ++ [again]))
    (distinct : ((t :: others).map (·.name)).Nodup) (back : again ∈ t :: others)
    (free : m.sink.Open) {fuel : Nat} (enough : 2 * (t :: others).length < fuel) :
    ((t :: others).length ≤ setting.config.maxDepth →
      t.render setting fuel m = .failed (.cycle ((t :: others ++ [again]).map (·.name)))
        (m.fresh.wroteAll ((t :: others).flatMap (·.heading)))) ∧
    ∀ deep : setting.config.maxDepth < (t :: others).length,
      t.render setting fuel m =
        .failed (.tooDeep setting.config.maxDepth ((t :: others)[setting.config.maxDepth].name))
          (m.fresh.wroteAll
            (((t :: others).take setting.config.maxDepth).flatMap (·.heading))) := by
  refine ⟨fun shallow => ?_, fun deep => ?_⟩
  · have met : Render.refusal setting again ((t :: others).map (·.name)) =
        some (.cycle ((t :: others ++ [again]).map (·.name))) := by
      rw [Render.refusal, if_pos (List.mem_map_of_mem back), List.map_append]
      rfl
    exact render_of_line rfl inherits distinct shallow free met enough
  · have next : (t :: others).take setting.config.maxDepth ++
        [(t :: others)[setting.config.maxDepth]] = t :: others.take setting.config.maxDepth :=
      (List.take_append_getElem deep).trans List.take_succ_cons
    have chain : List.IsChain (Inherits m.library) (t :: others.take setting.config.maxDepth) := by
      rw [← List.take_succ_cons]
      exact inherits.left_of_append.take _
    have entered : (((t :: others).take setting.config.maxDepth).map (·.name)).Nodup :=
      distinct.sublist ((List.take_sublist _ _).map _)
    have full : ((t :: others).take setting.config.maxDepth).length = setting.config.maxDepth :=
      List.length_take_of_le (Nat.le_of_lt deep)
    exact render_of_line next chain entered (Nat.le_of_eq full) free
      (Render.refusal_of_deep distinct deep) (by omega)

/-- A template that begins with its name, inherits from another one and goes on with its name. -/
def follower (name parent : String) : Template where
  name := name
  nodes := [.text name, .inherits ⟨.literal (.text parent), []⟩, .text name]
  blocks := ∅

end Template

/-- A template that leads into a circle of two others. -/
def Library.circle : Library :=
  ((Table.insert ∅ "a" (.follower "a" "b")).insert "b" (.follower "b" "c")).insert "c"
    (.follower "c" "b")

/-- The three templates are reported as a cycle if three may nest, and otherwise as too deep. -/
theorem Template.render_of_circle_abc :
    (follower "a" "b").render ⟨.silent, default⟩ 7 (.start Library.circle ∅ ∅) =
      .failed (.cycle ["a", "b", "c", "b"])
        ((Machine.start Library.circle ∅ ∅).wroteAll ["a", "b", "c"]) ∧
    (follower "a" "b").render ⟨.silent, { Config.default with maxDepth := 2 }⟩ 7
        (.start Library.circle ∅ ∅) =
      .failed (.tooDeep 2 "c") ((Machine.start Library.circle ∅ ∅).wroteAll ["a", "b"]) := by
  have inherits : ∀ name parent target, Library.normalise parent = parent →
      Library.circle.get? parent = some target →
      (follower name parent).Inherits Library.circle target := fun name parent _ same known =>
    ⟨_, [.text name], parent, rfl, congrArg some same, known⟩
  have toB : ∀ name, (follower name "b").Inherits Library.circle (follower "b" "c") := fun name =>
    inherits name "b" _ (by decide +kernel) rfl
  have toC := inherits "b" "c" (follower "c" "b") (by decide +kernel) rfl
  have chain : List.IsChain (Inherits Library.circle)
      [follower "a" "b", follower "b" "c", follower "c" "b", follower "b" "c"] :=
    .cons_cons (toB "a") (.cons_cons toC (.cons_cons (toB "c") (.singleton _)))
  have reported (setting : Setting) := @render_of_circle setting (.start Library.circle ∅ ∅)
    (follower "a" "b") (follower "b" "c") [follower "b" "c", follower "c" "b"] chain (by decide)
    (by simp) (fun _ _ => rfl) 7 (by decide)
  exact ⟨(reported ⟨.silent, default⟩).1 (by decide),
    (reported ⟨.silent, { Config.default with maxDepth := 2 }⟩).2 (by decide)⟩

end TextTemplate
