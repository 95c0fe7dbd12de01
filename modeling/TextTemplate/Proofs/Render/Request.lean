import TextTemplate.Proofs.Render.Frame
/-!
# What nodes ask for

A node that extends, includes or creates from another template asks for it by a name: the text of
its operand, in the machine in which the node is begun or, where a file is created, in the one after
the file was named. A node is served by a library if the name that it asks for is known there. It
then gets the template of the library, whatever the files are (`resolve_of_served`).
-/
namespace TextTemplate

/-- The machine in which a node asks for a template. -/
def Node.asking (node : Node) (host : Host) (m : Machine) : Machine :=
  match node with
  | .creates file _ _ => { m with host := (file.eval host m.context m.host).2 }
  | _ => m

/-- The name that a node asks for when it is begun in the machine, if it asks for a template. -/
def Node.request? (node : Node) (host : Host) (m : Machine) : Option String :=
  node.operand?.map fun expr =>
    (expr.eval host (node.asking host m).context (node.asking host m).host).1.text

/-- A node asks by the text of its operand. -/
theorem Node.request?_of_operand {node : Node} {expr : Expr} (operand : node.operand? = some expr)
    (host : Host) (m : Machine) : node.request? host m =
      some (expr.eval host (node.asking host m).context (node.asking host m).host).1.text := by
  rw [Node.request?, operand, Option.map_some]

/-- To name a file does not change the library. -/
@[simp] theorem Node.library_asking (node : Node) (host : Host) (m : Machine) :
    (node.asking host m).library = m.library := by
  cases node <;> rfl

/-- If the node asks for a template, it does so by a name that is known to the library. -/
def Node.Served (library : Library) (host : Host) (node : Node) (m : Machine) : Prop :=
  ∀ name ∈ node.request? host m, library.isLoaded name = true

instance (library : Library) (host : Host) (node : Node) :
    DecidablePred (node.Served library host) := fun m =>
  inferInstanceAs (Decidable (∀ name ∈ node.request? host m, library.isLoaded name = true))

/-- Templates that are known to the one library are known to the other. -/
def Library.Within (library other : Library) : Prop :=
  ∀ key t, library.get? key = some t → other.get? key = some t

namespace Library

variable {library other third : Library}

/-- A library knows what it knows. -/
theorem Within.refl (library : Library) : library.Within library := fun _ _ => id

/-- What is known to a library is known wherever its templates are. -/
theorem Within.trans (first : library.Within other) (second : other.Within third) :
    library.Within third :=
  fun key t known => second key t (first key t known)

/-- A name that is known has a template. -/
theorem exists_of_isLoaded {name : String} (loaded : library.isLoaded name = true) :
    ∃ t, library.get? (normalise name) = some t :=
  Option.isSome_iff_exists.mp loaded

end Library

namespace Render

variable {setting : Setting} {m : Machine}

/-- Asking for a template changes the host's state alone. -/
theorem stays_asking (node : Node) (host : Host) (m : Machine) : m.Stays (node.asking host m) := by
  cases node <;> exact ⟨rfl, rfl, fun _ _ => id, id⟩

/-- A node that is served gets the template that the library knows by the name. -/
theorem resolve_of_served {library : Library} {node : Node} {expr : Expr}
    (within : library.Within m.library) (operand : node.operand? = some expr)
    (served : node.Served library setting.host m) :
    ∃ name t, node.request? setting.host m = some name ∧
      library.get? (Library.normalise name) = some t ∧
      resolve setting expr (node.asking setting.host m) =
        .done t { node.asking setting.host m with
          host := (expr.eval setting.host (node.asking setting.host m).context
            (node.asking setting.host m).host).2 } := by
  have asks := Node.request?_of_operand operand setting.host m
  obtain ⟨t, known⟩ := Library.exists_of_isLoaded (served _ asks)
  have there := (stays_asking node setting.host m).library _ _ (within _ _ known)
  exact ⟨_, t, asks, known, resolve_of_known there⟩

end Render

end TextTemplate
