import TextTemplate.Engine.Library
import TextTemplate.Render.Sink
import TextTemplate.Value.Host

/-!
# The state of a render

A render goes from machine to machine: what is shared with the host, the library and the files,
the context, the sink that takes the text, the names of the templates being rendered, and the
templates whose blocks override those of the one being rendered. It ends with a value, with an error
or for want of fuel; in the first two cases the machine tells how far it came.
-/
namespace TextTemplate

/-- The state of a render. -/
structure Machine where
  /-- The heap and the journal. -/
  host : HostState
  /-- The templates known so far. -/
  library : Library
  /-- The files. -/
  files : FileTree
  /-- The bindings and the settings of output. -/
  context : Context
  /-- What takes the text. -/
  sink : Sink
  /-- The names of the templates being rendered, outermost first. -/
  active : List String
  /-- The templates whose blocks override, most derived first. -/
  chain : List Template
  /-- What became of the files created so far. -/
  outcomes : Array SaveOutcome

/-- How a render ends. -/
inductive Ending (α : Type)
  | done (value : α) (machine : Machine)
  | failed (error : RenderError) (machine : Machine)
  | outOfFuel

/-- A render that, unless it fails, makes a value. -/
def Render (α : Type) : Type := Machine → Ending α

namespace Render

variable {α β : Type}

/-- Make a value and do nothing. -/
def pure (v : α) : Render α := fun m => .done v m

/-- One render after another. -/
def bind (x : Render α) (f : α → Render β) : Render β := fun m =>
  match x m with
  | .done v m => f v m
  | .failed error m => .failed error m
  | .outOfFuel => .outOfFuel

instance : Monad Render where
  pure := Render.pure
  bind := Render.bind

/-- What a function finds in the machine. Nothing else of the machine is kept aside, so that what
follows can change its arrays in place. -/
def reads (f : Machine → α) : Render α := fun m => .done (f m) m

/-- Change the machine. -/
def modify (f : Machine → Machine) : Render Unit := fun m => .done () (f m)

/-- End with an error. -/
def fail (error : RenderError) : Render α := fun m => .failed error m

/-- Want of fuel. -/
def starve : Render α := fun _ => .outOfFuel

/-- Enter a state, do something there, and leave the state whether that failed or not. -/
def around (enter leave : Machine → Machine) (body : Render α) : Render α := fun m =>
  match body (enter m) with
  | .done v m => .done v (leave m)
  | .failed error m => .failed error (leave m)
  | .outOfFuel => .outOfFuel

/-- A value that is there changes no machine. -/
@[simp] theorem pure_apply (v : α) (m : Machine) : (Pure.pure v : Render α) m = .done v m := rfl

/-- What comes second runs on the machine that the first leaves, and not after a failure. -/
theorem bind_apply (x : Render α) (f : α → Render β) (m : Machine) :
    (x >>= f) m = match x m with
      | .done v m => f v m
      | .failed error m => .failed error m
      | .outOfFuel => .outOfFuel := rfl

/-- To map the identity over a render changes nothing. -/
theorem map_id (x : Render α) : id <$> x = x := by
  funext m
  show bind x (fun v => pure (id v)) m = x m
  unfold bind
  cases x m <;> rfl

/-- Three renders in a row may be grouped either way. -/
theorem bind_bind {γ : Type} (x : Render α) (f : α → Render β) (g : β → Render γ) :
    x >>= f >>= g = x >>= fun v => f v >>= g := by
  funext m
  show bind (bind x f) g m = bind x (fun v => bind (f v) g) m
  unfold bind
  cases x m <;> rfl

instance : LawfulMonad Render :=
  LawfulMonad.mk' Render map_id (fun _ _ => rfl) (fun x f g => bind_bind x f g)

end Render

end TextTemplate
