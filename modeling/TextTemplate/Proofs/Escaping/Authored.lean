import TextTemplate.Proofs.Render.Ending
import Mathlib.Data.List.Basic
import Mathlib.Data.List.Induction
/-!
# Expressions that are written out

An expression that begins with a literal and goes on with `default` and `add` shows nothing but what
stands in the template, whatever the context. Its value is raw, so its text is written as it stands,
unless an `add` on the way finds a whole number on both sides: a sum is not raw, and nothing that
comes after it is. Main statement: `Expr.raw_iff_of_authored`.
-/
namespace TextTemplate

namespace Literal

/-- What a literal has become after filters that look at no list. -/
def through (l : Literal) (filters : List Filter) : Value :=
  filters.foldl (fun v f => f.apply ∅ v) l.value

/-- One of the filters is an `add` that finds a whole number on both sides. -/
def AddsUp (l : Literal) (filters : List Filter) : Prop :=
  ∃ before term after, filters = before ++ .add term :: after ∧
    (l.through before).asWhole?.isSome = true ∧ term.value.asWhole?.isSome = true

/-- The last filter is applied to what the others make. -/
theorem through_concat (l : Literal) (filters : List Filter) (f : Filter) :
    l.through (filters ++ [f]) = f.apply ∅ (l.through filters) := by
  simp [through]

/-- With one filter more, it is that filter that adds up, or one before it. -/
theorem addsUp_concat {l : Literal} {filters : List Filter} {f : Filter} :
    l.AddsUp (filters ++ [f]) ↔ l.AddsUp filters ∨ ∃ term, f = .add term ∧
      (l.through filters).asWhole?.isSome = true ∧ term.value.asWhole?.isSome = true := by
  constructor
  · rintro ⟨before, term, after, split, sums⟩
    rcases List.eq_nil_or_concat after with rfl | ⟨rest, last, rfl⟩
    · obtain ⟨rfl, same⟩ := List.append_inj' split rfl
      exact .inr ⟨term, List.singleton_inj.mp same, sums⟩
    · have inside : filters ++ [f] = (before ++ .add term :: rest) ++ [last] := by simp [split]
      exact .inl ⟨before, term, rest, (List.append_inj' inside rfl).1, sums⟩
  · rintro (⟨before, term, after, rfl, sums⟩ | ⟨term, rfl, sums⟩)
    · exact ⟨before, term, after ++ [f], by simp, sums⟩
    · exact ⟨filters, term, [], rfl, sums⟩

end Literal

/-- Filters other than `length` do not look at the heap. -/
theorem Filter.apply_heap {f : Filter} (other : f ≠ .length) (heap heap' : Heap) (v : Value) :
    f.apply heap v = f.apply heap' v := by
  cases f with
  | length => exact absurd rfl other
  | default | add => rfl

/-- A value with a text is not blank. -/
theorem Value.isBlank_of_text_ne {v : Value} (shows : v.text ≠ "") : v.isBlank = false := by
  obtain ⟨payload, raw⟩ := v
  cases payload with
  | absent => exact absurd rfl shows
  | text s => simpa [isBlank, text] using shows
  | _ => rfl

/-- A whole number is written in one character at least. -/
theorem Text.writeWhole_ne_empty (n : Int64) : Text.writeWhole n ≠ "" := by
  intro empty
  have digits : ∀ k : Nat, k.repr.toList ≠ [] := fun k => by
    rw [Nat.toList_repr]
    exact Nat.toDigits_ne_nil
  have none_ : (toString n.toInt).toList = [] := congrArg String.toList empty
  cases shape : n.toInt with
  | ofNat k =>
    rw [shape] at none_
    exact digits k none_
  | negSucc k =>
    rw [shape] at none_
    change ("-" ++ (k + 1).repr).toList = [] at none_
    simp at none_

namespace Literal

variable {l : Literal} {filters : List Filter}

/-- How a literal stands after filters: raw as long as nothing was added up, and from the first sum
on not raw and never blank, so that no `default` takes its place. -/
inductive Standing (l : Literal) (filters : List Filter) : Prop
  | authored (raw : (l.through filters).raw = true) (plain : ¬ l.AddsUp filters)
  | summed (bare : (l.through filters).raw = false) (shows : (l.through filters).text ≠ "")
    (sums : l.AddsUp filters)

/-- `default` puts a raw literal in the place of a raw text alone. -/
theorem Standing.default (standing : l.Standing filters) (fallback : Literal) :
    l.Standing (filters ++ [.default fallback]) := by
  have later : l.AddsUp (filters ++ [.default fallback]) ↔ l.AddsUp filters := by
    simp [addsUp_concat]
  cases standing with
  | authored raw plain =>
    refine .authored ?_ (later.not.mpr plain)
    rw [through_concat, Filter.apply]
    split
    · exact raw_value fallback
    · exact raw
  | summed bare shows sums =>
    have kept : l.through (filters ++ [.default fallback]) = l.through filters := by
      rw [through_concat, Filter.apply, Value.isBlank_of_text_ne shows]
      rfl
    rw [← kept] at bare shows
    exact .summed bare shows (later.mpr sums)

/-- `add` sums two whole numbers, and all else it appends to the text that was there. -/
theorem Standing.add (standing : l.Standing filters) (term : Literal) :
    l.Standing (filters ++ [.add term]) := by
  have value := through_concat l filters (.add term)
  rw [Filter.apply] at value
  split at value
  · rename_i a b left right
    refine .summed (by rw [value]; rfl) ?_ ?_
    · rw [value]
      exact Text.writeWhole_ne_empty _
    · exact addsUp_concat.mpr (.inr ⟨term, rfl, by simp [left], by simp [right]⟩)
  · rename_i apart
    have later : l.AddsUp (filters ++ [.add term]) ↔ l.AddsUp filters := by
      rw [addsUp_concat, or_iff_left]
      rintro ⟨_, ⟨⟩, left, right⟩
      obtain ⟨a, left⟩ := Option.isSome_iff_exists.mp left
      obtain ⟨b, right⟩ := Option.isSome_iff_exists.mp right
      exact apart a b left right
    cases standing with
    | authored raw plain => exact .authored (by rw [value]; exact raw) (later.not.mpr plain)
    | summed bare shows sums =>
      refine .summed (by rw [value]; exact bare) ?_ (later.mpr sums)
      rw [value]
      simp [shows]

/-- What a literal stands for after filters without `length` is known by its flag and its text. -/
theorem standing (l : Literal) (authored : ∀ f ∈ filters, f ≠ .length) : l.Standing filters := by
  induction filters using List.reverseRecOn with
  | nil =>
    refine .authored (raw_value l) ?_
    rintro ⟨before, term, after, split, -⟩
    simp at split
  | append_singleton filters f ih =>
    have before := ih fun g member => authored g (List.mem_append_left _ member)
    cases f with
    | default fallback => exact before.default fallback
    | add term => exact before.add term
    | length => exact absurd rfl (authored .length (by simp))

end Literal

namespace Expr

variable {l : Literal} {filters : List Filter}

/-- What an expression of literals alone comes to is the same in every context. -/
theorem eval_of_authored (authored : ∀ f ∈ filters, f ≠ .length) (host : Host) (context : Context)
    (state : HostState) :
    (⟨.literal l, filters⟩ : Expr).eval host context state = (l.through filters, state) := by
  have same : ∀ v : Value, filters.foldl (fun v f => f.apply state.heap v) v =
      filters.foldl (fun v f => f.apply ∅ v) v := fun v =>
    List.foldl_ext _ _ v fun v f member => Filter.apply_heap (authored f member) _ _ v
  simp [eval, Operand.eval, Literal.through, same]

/-- An expression of a literal with `default` and `add` has one value in every context. It is raw,
and so its text is written whatever the escaper, unless an `add` finds two whole numbers; if one
does, the value is not raw and an escaper is applied to its text. -/
theorem raw_iff_of_authored (l : Literal) (filters : List Filter)
    (authored : ∀ f ∈ filters, f ≠ .length) :
    ∃ v : Value,
      (∀ host context state,
        (⟨.literal l, filters⟩ : Expr).eval host context state = (v, state)) ∧
      (v.raw = true ↔ ¬ l.AddsUp filters) ∧
      ∀ (setting : Setting) (run : Task → Render Unit) (owner : Template) (m : Machine),
        (¬ l.AddsUp filters →
          Render.node setting run owner (.variable ⟨.literal l, filters⟩) m =
            Render.emit v.text m) ∧
        ∀ escape, l.AddsUp filters → m.context.escaper = some escape →
          Render.node setting run owner (.variable ⟨.literal l, filters⟩) m =
            Render.emit (escape v.text) m := by
  have raw : (l.through filters).raw = true ↔ ¬ l.AddsUp filters := by
    cases l.standing authored with
    | authored raw plain => exact iff_of_true raw plain
    | summed bare shows sums => simp [bare, sums]
  refine ⟨l.through filters, eval_of_authored authored, raw, fun setting run owner m => ?_⟩
  have node : Render.node setting run owner (.variable ⟨.literal l, filters⟩) m =
      Render.emit (Render.shown m.context (l.through filters)) m := by
    rw [Render.node, Render.bind_apply, Render.evaluate, eval_of_authored authored]
    rfl
  rw [node]
  constructor
  · intro plain
    have shown : Render.shown m.context (l.through filters) = (l.through filters).text := by
      unfold Render.shown
      rw [raw.mpr plain]
      cases m.context.escaper <;> rfl
    rw [shown]
  · intro escape sums escaper
    have bare : (l.through filters).raw = false := by simpa [sums] using raw
    have shown : Render.shown m.context (l.through filters) =
        escape (l.through filters).text := by
      simp [Render.shown, escaper, bare]
    rw [shown]

end Expr

/-- A machine whose escaper puts brackets around what it is given. -/
def Machine.bracketing : Machine :=
  .start ∅ { Context.empty with escaper := some fun text => "[" ++ text ++ "]" } ∅

/-- Markup with a digit and a number appended is written as it stands. -/
theorem Expr.raw_iff_of_authored_markup : ∃ v : Value, v.text = "<b>71" ∧ v.raw = true ∧
    Render.node ⟨.silent, default⟩ (fun _ => Render.starve) default
        (.variable ⟨.literal (.text "<b>"),
          [.add (.text "7"), .default (.text "-"), .add (.whole 1)]⟩) .bracketing =
      Render.emit "<b>71" .bracketing := by
  obtain ⟨v, evaluates, raw, written⟩ := Expr.raw_iff_of_authored (.text "<b>")
    [.add (.text "7"), .default (.text "-"), .add (.whole 1)] (by decide)
  have value : (Value.ofText "<b>71").withRaw true = v :=
    congrArg Prod.fst (evaluates .silent ∅ .empty)
  subst value
  exact ⟨(Value.ofText "<b>71").withRaw true, rfl, rfl, (written _ _ _ _).1 (raw.mp rfl)⟩

/-- A template that shows the sum of two numbers. -/
def Template.sum : Template :=
  ⟨"sum", [.variable ⟨.literal (.whole 1), [.add (.whole 2)]⟩], ∅⟩

/-- The sum of two numbers of a template is not raw, and the escaper is applied to it. -/
theorem Expr.authored_sum_escaped :
    (∀ f ∈ [Filter.add (.whole 2)], f ≠ .length) ∧
    ((⟨.literal (.whole 1), [.add (.whole 2)]⟩ : Expr).eval .silent ∅ .empty).1.raw = false ∧
    ∃ n, Template.sum.render ⟨.silent, default⟩ 2 .bracketing = .done () n ∧
      n.sink.text = "[3]" := by
  refine ⟨by decide, rfl, ?_⟩
  obtain ⟨_, n, done, text⟩ : ∃ v n,
      Template.sum.render ⟨.silent, default⟩ 2 .bracketing = .done v n ∧ n.sink.text = "[3]" :=
    Ending.Holds.exists_done (by decide +kernel)
  exact ⟨n, done, text⟩

end TextTemplate
