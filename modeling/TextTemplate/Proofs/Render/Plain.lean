import TextTemplate.Proofs.Render.Refusal
import TextTemplate.Proofs.Render.Concatenation
/-!
# Texts that are written as they are

The texts of a template are written one after the other, and a sink that takes every text is left
with all of them. Main statements: nodes that begin with texts are rendered by writing the texts and
then rendering the others (`nodes_texts`), and a template of nothing but texts writes them and does
nothing else (`render_of_texts`).
-/
namespace TextTemplate

namespace Machine

/-- The machine in which a render begins. -/
def fresh (m : Machine) : Machine := { m with active := [], chain := [], outcomes := #[] }

/-- A machine whose sink took some texts more. -/
def wroteAll (m : Machine) (texts : List String) : Machine :=
  { m with
    sink := m.sink.writeAll texts
    host := { m.host with journal := m.host.journal ++ (texts.map (.wrote m.sink.level)).toArray } }

/-- No texts change nothing. -/
theorem wroteAll_nil (m : Machine) : m.wroteAll [] = m := by
  simp [wroteAll, Sink.writeAll, Output.append]

/-- The first text is written first. -/
theorem wroteAll_cons (m : Machine) (text : String) (texts : List String) :
    m.wroteAll (text :: texts) = (m.wrote text).wroteAll texts := by
  simp [wroteAll, wrote, Sink.writeAll, Output.append, HostState.record]

/-- Texts that are written in two parts are written as one list. -/
theorem wroteAll_wroteAll (m : Machine) (front back : List String) :
    (m.wroteAll front).wroteAll back = m.wroteAll (front ++ back) := by
  simp [wroteAll, Sink.writeAll, Output.append_append]

/-- A sink that took texts holds the text that it held, and theirs after it. -/
theorem text_wroteAll (m : Machine) (texts : List String) :
    (m.wroteAll texts).sink.text = m.sink.text ++ String.join texts :=
  Output.text_append m.sink.written texts

end Machine

namespace Render

variable {setting : Setting} {run : Task → Render Unit} {owner : Template} {m : Machine}

/-- A sink that takes every text takes this one. -/
theorem emit_of_open (free : m.sink.Open) (text : String) :
    emit text m = .done () (m.wrote text) := by
  rw [emit_apply, if_pos (free m.sink.written text)]

/-- Texts in front are written, and the other nodes are rendered after them. -/
theorem nodes_texts (free : m.sink.Open) (texts : List String) (rest : List Node) :
    nodes setting run owner (texts.map .text ++ rest) m =
      nodes setting run owner rest (m.wroteAll texts) := by
  induction texts generalizing m with
  | nil => rw [Machine.wroteAll_nil, List.map_nil, List.nil_append]
  | cons text texts ih =>
    have later : (m.wrote text).sink.Open := free
    rw [Machine.wroteAll_cons]
    exact (bind_of_done (emit_of_open free text)).trans (ih later)

end Render

/-- A template of nothing but texts writes them, and its render changes nothing else, if templates
may nest at all. -/
theorem Template.render_of_texts {t : Template} {texts : List String}
    (plain : t.nodes = texts.map .text) (setting : Setting) {m : Machine} (free : m.sink.Open)
    (fuel : Nat) :
    t.render setting (fuel + 2) m =
      if setting.config.maxDepth = 0 then .failed (.tooDeep 0 t.name) m.fresh
      else .done () (m.fresh.wroteAll texts) := by
  let entered : Machine := { m.fresh with active := [t.name] }
  have opened : entered.sink.Open := free
  have written : Render.run setting (fuel + 1) (.nodes t t.nodes) entered =
      .done () (entered.wroteAll texts) := by
    rw [plain, ← List.append_nil (texts.map Node.text)]
    exact Render.nodes_texts opened texts []
  refine (Render.template_apply setting _ t m.fresh).trans ((if_neg List.not_mem_nil).trans ?_)
  by_cases full : setting.config.maxDepth = 0
  · refine (if_pos (Nat.le_of_eq full)).trans ?_
    rw [if_pos full, full]
  · refine (if_neg (mt Nat.le_zero.mp full)).trans ((Render.entering_apply t _ m.fresh).trans ?_)
    rw [if_neg full]
    exact congrArg Ending.closed written

end TextTemplate
