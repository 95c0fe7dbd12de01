import TextTemplate.Context
import Mathlib.Data.List.Basic
/-!
# Scopes and what was done with them

A context can be told from what was done with it. Its height is the number of scopes that were
opened and not closed, and a binding stands as long as the height has not been below the one at
which it was made. Main statement: closing fails exactly at height zero, a name means what it was
bound to last in the innermost scope in which a binding of it stands, a section that closes what it
opened leaves all scopes as they were, and the settings do not depend on scopes
(`Context.recounted_after`).
-/
namespace TextTemplate.Context

/-- What may be done with a context. -/
inductive Op
  | push
  | pop
  | set (name : String) (v : Value)
  | outputDir (dir : Path)
  | escaper (escaper : Option Escaper)

/-- What was done with a context, the latest first. -/
abbrev History := List Op

/-- A context after an operation. Where no scope can be closed it stays as it is. -/
def act (context : Context) : Op → Context
  | .push => context.push
  | .pop =>
    match context.pop with
    | .ok rest => rest
    | .error _ => context
  | .set name v => context.set name v
  | .outputDir dir => { context with outputDir := some dir }
  | .escaper escaper => { context with escaper }

/-- The context with which all this was done, from a new one on. -/
def after : History → Context
  | [] => ∅
  | op :: before => (after before).act op

/-- How often a scope was opened. -/
def pushes : History → Nat
  | [] => 0
  | .push :: before => pushes before + 1
  | _ :: before => pushes before

/-- How often a scope was closed; attempts that failed do not count. -/
def pops : History → Nat
  | [] => 0
  | .pop :: before =>
    match (after before).pop with
    | .ok _ => pops before + 1
    | .error _ => pops before
  | _ :: before => pops before

/-- The number of scopes that are open above the base scope. -/
def height (history : History) : Nat := pushes history - pops history

/-- The scope that was the innermost one at an earlier time is still open. -/
def StillOpen (earlier now : History) : Prop :=
  ∀ between, earlier <:+ between → between <:+ now → height earlier ≤ height between

/-- The name was bound to the value after what was done before, in a scope that is still open. -/
structure Standing (now : History) (name : String) (v : Value) (before : History) : Prop where
  /-- The binding was made when this had been done before. -/
  made : .set name v :: before <:+ now
  /-- The scope in which it was made is open still. -/
  stillOpen : StillOpen before now

/-- No later binding of the name was made in the scope of this one. -/
structure Latest (now : History) (name : String) (v : Value) (before : History) : Prop extends
    Standing now name v before where
  /-- No binding of the name that was made later stands in its scope. -/
  latest : ∀ w other, Standing now name w other → height other = height before →
    other.length ≤ before.length

/-- The binding is the latest one in the innermost open scope that has one of the name. -/
structure Deciding (now : History) (name : String) (v : Value) (before : History) : Prop extends
    Latest now name v before where
  /-- No binding of the name stands in a scope further in. -/
  innermost : ∀ w other, Standing now name w other → height other ≤ height before

/-- Whatever scopes are opened here are closed here, in turn, and no others. -/
inductive Balanced : History → Prop
  | nil : Balanced []
  | other {op : Op} {body : History} (open_ : op ≠ .push) (close : op ≠ .pop)
    (rest : Balanced body) : Balanced (op :: body)
  | nest {inner body : History} (inside : Balanced inner) (rest : Balanced body) :
    Balanced (.pop :: (inner ++ .push :: body))

/-- What a context is like, told from what was done with it. -/
structure Recounted (history : History) (context : Context) : Prop where
  /-- No scope can be closed exactly if as many were closed as were opened. -/
  pop_fails_iff : context.pop = .error .baseScope ↔ pops history = pushes history
  /-- Then an attempt changes nothing. -/
  pop_fails : context.pop = .error .baseScope → after (.pop :: history) = context
  /-- There is a scope. -/
  depth_pos : 0 < context.depth
  /-- What is bound is found. -/
  set : ∀ name v, (after (.set name v :: history)).get? name = some v
  /-- A name means what it was bound to last in the innermost open scope that binds it. -/
  get?_eq_some_iff : ∀ name v,
    context.get? name = some v ↔ ∃ before, Deciding history name v before
  /-- A name means nothing exactly if no binding of it stands. -/
  get?_eq_none_iff : ∀ name,
    context.get? name = none ↔ ∀ v before, ¬ Standing history name v before
  /-- Looking a name up gives the value of the deciding binding. -/
  get_eq : ∀ name v before, Deciding history name v before → context.get name = v
  /-- It gives the absent value if no binding stands. -/
  get_eq_absent : ∀ name, (∀ v before, ¬ Standing history name v before) →
    context.get name = .absent
  /-- Opening a scope, balanced work within it and closing it leave all scopes as they were. -/
  scopes_eq : ∀ body, Balanced body →
    (after (.pop :: (body ++ .push :: history))).scopes = context.scopes
  /-- So all names mean what they meant. -/
  get?_eq : ∀ body, Balanced body → ∀ name,
    (after (.pop :: (body ++ .push :: history))).get? name = context.get? name
  /-- The output directory is the one that was given last. -/
  outputDir : context.outputDir = history.findSome? fun
    | .outputDir dir => some dir
    | _ => none
  /-- The escaper is the one that was given last. -/
  escaper : context.escaper = (history.findSome? fun
    | .escaper escaper => some escaper
    | _ => none).join

/-! ### Heights -/

section Heights

variable {context rest : Context}

/-- Closing fails if only the base scope is left, and uncovers the next scope otherwise. -/
theorem pop_cases (context : Context) :
    context.outer = [] ∧ context.pop = .error .baseScope ∨
      ∃ rest, context.pop = .ok rest ∧ context.outer = rest.scopes ∧
        rest.outputDir = context.outputDir ∧ rest.escaper = context.escaper := by
  obtain ⟨top, outer, dir, escaper⟩ := context
  cases outer with
  | nil => exact .inl ⟨rfl, rfl⟩
  | cons next outer => exact .inr ⟨_, rfl, rfl, rfl, rfl⟩

/-- Where no scope can be closed, closing one changes nothing. -/
theorem act_of_refused (refused : context.pop = .error .baseScope) :
    context.act .pop = context := by
  simp only [act, refused]

/-- Where a scope can be closed, closing it leaves the rest. -/
theorem act_of_closed (closed : context.pop = .ok rest) : context.act .pop = rest := by
  simp only [act, closed]

/-- Every scope but the base scope was opened and not closed. -/
theorem length_outer_add_pops (history : History) :
    (after history).outer.length + pops history = pushes history := by
  induction history with
  | nil => rfl
  | cons op before ih =>
    cases op with
    | push =>
      show (after before).outer.length + 1 + pops before = pushes before + 1
      omega
    | pop =>
      show ((after before).act .pop).outer.length + pops (.pop :: before) = pushes before
      rcases (after before).pop_cases with ⟨-, refused⟩ | ⟨rest, closed, outer, -⟩
      · simp only [act_of_refused refused, pops, refused]
        exact ih
      · rw [outer, scopes, List.length_cons] at ih
        simp only [act_of_closed closed, pops, closed]
        omega
    | set | outputDir | escaper => exact ih

/-- There are as many scopes above the base scope as the history tells. -/
theorem length_outer (history : History) : (after history).outer.length = height history := by
  have total := length_outer_add_pops history
  rw [height]
  omega

/-- Opening a scope adds one to the height. -/
theorem height_push (before : History) : height (.push :: before) = height before + 1 := by
  rw [← length_outer, ← length_outer]
  rfl

/-- A scope that is not closed does not lower the height. -/
theorem height_of_refused {before : History} (refused : (after before).pop = .error .baseScope) :
    height (.pop :: before) = height before := by
  rw [← length_outer, ← length_outer]
  exact congrArg (·.outer.length) (act_of_refused refused)

/-- After a scope was closed the height is the number of scopes above the base scope. -/
theorem height_of_closed {before : History} (closed : (after before).pop = .ok rest) :
    height (.pop :: before) = rest.outer.length := by
  rw [← length_outer]
  exact congrArg (·.outer.length) (act_of_closed closed)

end Heights

/-! ### The scope at a height -/

section Binding

variable {context : Context} {name : String} {v : Value} {n : Nat}

/-- What a name is bound to in the scope at a height; that of the base scope is zero. -/
def bindingAt (context : Context) (n : Nat) (name : String) : Option Value :=
  context.scopes.reverse[n]?.bind (·.get? name)

/-- Nothing is found at a position past the end. -/
theorem bind_getElem?_eq_none {α β : Type} {xs : List α} {n : Nat} (outside : xs.length ≤ n)
    (f : α → Option β) : xs[n]?.bind f = none := by
  rw [List.getElem?_eq_none outside, Option.bind_none]

/-- At the position of a new last item something is found in it. -/
theorem bind_getElem?_concat {α β : Type} (xs : List α) (x : α) (n : Nat) (f : α → Option β) :
    (xs ++ [x])[n]?.bind f = if n = xs.length then f x else xs[n]?.bind f := by
  rcases Nat.lt_trichotomy n xs.length with inside | rfl | outside
  · rw [List.getElem?_append_left inside, if_neg (Nat.ne_of_lt inside)]
  · rw [List.getElem?_concat_length, if_pos rfl, Option.bind_some]
  · have length : (xs ++ [x]).length ≤ n := by
      rw [List.length_append]
      exact outside
    rw [bind_getElem?_eq_none length, bind_getElem?_eq_none (Nat.le_of_lt outside),
      if_neg (Nat.ne_of_gt outside)]

/-- The innermost scope is the highest one. -/
theorem bindingAt_eq (context : Context) (n : Nat) (name : String) :
    context.bindingAt n name =
      if n = context.outer.length then context.top.get? name
      else context.outer.reverse[n]?.bind (·.get? name) := by
  rw [bindingAt, scopes, List.reverse_cons, bind_getElem?_concat, List.length_reverse]

/-- There is no binding above the innermost scope. -/
theorem bindingAt_eq_none (above : context.outer.length < n) :
    context.bindingAt n name = none := by
  refine bind_getElem?_eq_none ?_ _
  rw [List.length_reverse]
  exact above

/-- A new scope has no binding, and the others keep theirs. -/
theorem bindingAt_push (context : Context) (n : Nat) (name : String) :
    context.push.bindingAt n name = context.bindingAt n name := by
  rw [bindingAt_eq]
  split
  · rename_i top
    refine (bindingAt_eq_none ?_).symm
    rw [top]
    exact Nat.lt_succ_self _
  · rfl

/-- Closing a scope takes its bindings away and no other. -/
theorem bindingAt_of_closed {rest : Context} (outer : context.outer = rest.scopes) (n : Nat)
    (name : String) :
    rest.bindingAt n name = if n ≤ rest.outer.length then context.bindingAt n name else none := by
  have length : context.outer.length = rest.outer.length + 1 := congrArg List.length outer
  split
  · rename_i low
    rw [bindingAt_eq context, if_neg (by omega), outer]
    rfl
  · rename_i high
    exact bindingAt_eq_none (Nat.lt_of_not_le high)

/-- Binding a name changes its binding in the innermost scope only. -/
theorem bindingAt_set (context : Context) (n : Nat) (name other : String) (v : Value) :
    (context.set other v).bindingAt n name =
      if n = context.outer.length ∧ other = name then some v else context.bindingAt n name := by
  have scope := bindingAt_eq (context.set other v) n name
  simp only [set, Table.get?_insert] at scope
  rw [set, scope, bindingAt_eq context]
  by_cases top : n = context.outer.length <;> simp [top]

/-- The first hit in a list is the one at the highest position of the reversed list. -/
theorem findSome?_eq_some_iff_reverse {α β : Type} (f : α → Option β) (xs : List α) (y : β) :
    xs.findSome? f = some y ↔ ∃ n : Nat, xs.reverse[n]?.bind f = some y ∧
      ∀ m : Nat, n < m → xs.reverse[m]?.bind f = none := by
  induction xs with
  | nil => simp
  | cons x rest ih =>
    have beyond : ∀ n, rest.length ≤ n → rest.reverse[n]?.bind f = none := fun n outside =>
      bind_getElem?_eq_none (by rwa [List.length_reverse]) f
    simp only [List.reverse_cons, bind_getElem?_concat, List.length_reverse, List.findSome?_cons]
    cases here : f x with
    | none =>
      have low : ∀ n, (if n = rest.length then none else rest.reverse[n]?.bind f) =
          rest.reverse[n]?.bind f := by
        intro n
        split
        · rename_i top
          exact (beyond n (Nat.le_of_eq top.symm)).symm
        · rfl
      simp only [low]
      exact ih
    | some z =>
      constructor
      · intro found
        refine ⟨rest.length, (if_pos rfl).trans found, fun m above => ?_⟩
        rw [if_neg (Nat.ne_of_gt above), beyond m (Nat.le_of_lt above)]
      · rintro ⟨n, found, none_⟩
        rcases Nat.lt_trichotomy n rest.length with below | rfl | above
        · have top := none_ rest.length below
          rw [if_pos rfl] at top
          cases top
        · rwa [if_pos rfl] at found
        · rw [if_neg (Nat.ne_of_gt above), beyond n (Nat.le_of_lt above)] at found
          cases found

/-- A name means what it is bound to in the innermost scope that has a binding of it. -/
theorem get?_eq_some_iff_bindingAt : context.get? name = some v ↔
    ∃ n, context.bindingAt n name = some v ∧ ∀ m, n < m → context.bindingAt m name = none :=
  findSome?_eq_some_iff_reverse _ _ _

/-- A name means nothing if no scope has a binding of it. -/
theorem get?_eq_none_iff_bindingAt :
    context.get? name = none ↔ ∀ n, context.bindingAt n name = none := by
  simp only [get?, List.findSome?_eq_none_iff, bindingAt]
  constructor
  · intro none_ n
    cases scope : context.scopes.reverse[n]? with
    | none => rfl
    | some scope' =>
      exact none_ scope' (List.mem_reverse.mp (List.mem_of_getElem? scope))
  · intro none_ scope member
    obtain ⟨n, here⟩ := List.getElem?_of_mem (List.mem_reverse.mpr member)
    have binding := none_ n
    rwa [here, Option.bind_some] at binding

end Binding

/-! ### Bindings that stand -/

section Standing

variable {history before now : History} {op : Op} {name : String} {v w : Value} {n : Nat}

/-- After one more thing was done, the bindings stand that stood before and are not above the height
now, and one that was just made. -/
theorem standing_cons : Standing (op :: history) name v before ↔
    op = .set name v ∧ before = history ∨
      Standing history name v before ∧ height before ≤ height (op :: history) := by
  constructor
  · rintro ⟨made, stillOpen⟩
    rcases List.suffix_cons_iff.mp made with same | earlier
    · exact .inl ⟨(List.cons.inj same).1.symm, (List.cons.inj same).2⟩
    · have below : before <:+ history := (List.suffix_cons _ _).trans earlier
      refine .inr ⟨⟨earlier, fun between begun ended => ?_⟩, ?_⟩
      · exact stillOpen between begun (ended.trans (List.suffix_cons _ _))
      · exact stillOpen _ (below.trans (List.suffix_cons _ _)) (List.suffix_refl _)
  · rintro (⟨rfl, rfl⟩ | ⟨⟨made, stillOpen⟩, low⟩)
    · refine ⟨List.suffix_refl _, fun between begun ended => ?_⟩
      rcases List.suffix_cons_iff.mp ended with rfl | earlier
      · exact Nat.le_refl _
      · exact Nat.le_of_eq (congrArg height (begun.eq_of_length_le earlier.length_le))
    · refine ⟨made.trans (List.suffix_cons _ _), fun between begun ended => ?_⟩
      rcases List.suffix_cons_iff.mp ended with rfl | earlier
      · exact low
      · exact stillOpen between begun earlier

/-- Before anything was done no binding stands. -/
theorem not_standing_nil : ¬ Standing [] name v before := fun standing =>
  List.cons_ne_nil _ _ (List.suffix_nil.mp standing.made)

/-- A binding that stands was made at no greater height than the present one. -/
theorem Standing.height_le (standing : Standing now name v before) : height before ≤ height now :=
  standing.stillOpen now ((List.suffix_cons _ _).trans standing.made) (List.suffix_refl _)

/-- A binding that stands was made before now. -/
theorem Standing.length_lt (standing : Standing now name v before) : before.length < now.length :=
  standing.made.length_le

/-- A binding just made is the latest one of its scope. -/
theorem latest_set_iff : Latest (.set name w :: history) name v before ∧
    height before = height history ↔ v = w ∧ before = history := by
  have made : Standing (.set name w :: history) name w history :=
    standing_cons.mpr (.inl ⟨rfl, rfl⟩)
  constructor
  · rintro ⟨⟨standing, latest⟩, same⟩
    rcases standing_cons.mp standing with ⟨op, rfl⟩ | ⟨earlier, -⟩
    · cases op
      exact ⟨rfl, rfl⟩
    · exact absurd earlier.length_lt (Nat.not_lt.mpr (latest w history made same.symm))
  · rintro ⟨rfl, rfl⟩
    refine ⟨⟨made, fun w other standing _ => ?_⟩, rfl⟩
    rcases standing_cons.mp standing with ⟨-, rfl⟩ | ⟨earlier, -⟩
    · exact Nat.le_refl _
    · exact Nat.le_of_lt earlier.length_lt

/-- What is done otherwise leaves the latest bindings that are not above the height now. -/
theorem latest_cons_iff (others : ∀ w, op = .set name w → height before ≠ height history) :
    Latest (op :: history) name v before ↔
      Latest history name v before ∧ height before ≤ height (op :: history) := by
  constructor
  · rintro ⟨standing, latest⟩
    rcases standing_cons.mp standing with ⟨same, rfl⟩ | ⟨earlier, low⟩
    · exact absurd rfl (others v same)
    · refine ⟨⟨earlier, fun w other standing' same => ?_⟩, low⟩
      exact latest w other (standing_cons.mpr (.inr ⟨standing', same ▸ low⟩)) same
  · rintro ⟨⟨standing, latest⟩, low⟩
    refine ⟨standing_cons.mpr (.inr ⟨standing, low⟩), fun w other standing' same => ?_⟩
    rcases standing_cons.mp standing' with ⟨set, rfl⟩ | ⟨earlier, -⟩
    · exact absurd same.symm (others w set)
    · exact latest w other earlier same

/-- The latest bindings at a height are kept as long as the height is not below. -/
theorem exists_latest_cons_iff (others : ∀ w, op = .set name w → n ≠ height history) :
    (∃ before, Latest (op :: history) name v before ∧ height before = n) ↔
      (∃ before, Latest history name v before ∧ height before = n) ∧
        n ≤ height (op :: history) := by
  constructor
  · rintro ⟨before, latest, rfl⟩
    obtain ⟨earlier, low⟩ := (latest_cons_iff others).mp latest
    exact ⟨⟨before, earlier, rfl⟩, low⟩
  · rintro ⟨⟨before, earlier, rfl⟩, low⟩
    exact ⟨before, (latest_cons_iff others).mpr ⟨earlier, low⟩, rfl⟩

/-- Where no binding stands at a height, none does after what binds nothing there. -/
theorem forall_standing_cons_iff (others : ∀ w, op = .set name w → n ≠ height history)
    (low : n ≤ height (op :: history)) :
    (∀ v before, Standing (op :: history) name v before → height before ≠ n) ↔
      ∀ v before, Standing history name v before → height before ≠ n := by
  constructor
  · intro none_ v before standing same
    exact none_ v before (standing_cons.mpr (.inr ⟨standing, same ▸ low⟩)) same
  · intro none_ v before standing same
    rcases standing_cons.mp standing with ⟨set, rfl⟩ | ⟨earlier, -⟩
    · exact others v set same.symm
    · exact none_ v before earlier same

/-! ### What the scopes hold -/

/-- A name that was just bound has a binding in the innermost scope. -/
theorem bindingAt_after_set (history : History) (name : String) (v : Value) :
    (after (.set name v :: history)).bindingAt (height history) name = some v := by
  show ((after history).set name v).bindingAt (height history) name = some v
  rw [bindingAt_set, length_outer, if_pos ⟨rfl, rfl⟩]

/-- What is done otherwise leaves the scopes that are not above the height now. -/
theorem bindingAt_after_cons (others : ∀ w, op = .set name w → n ≠ height history) :
    (after (op :: history)).bindingAt n name =
      if n ≤ height (op :: history) then (after history).bindingAt n name else none := by
  have high : (after history).bindingAt n name =
      if n ≤ height history then (after history).bindingAt n name else none := by
    split
    · rfl
    · rename_i above
      exact bindingAt_eq_none (by rw [length_outer]; omega)
  cases op with
  | push =>
    show (after history).push.bindingAt n name = _
    rw [bindingAt_push, high, height_push]
    split <;> split <;> first | rfl | omega
  | pop =>
    show ((after history).act .pop).bindingAt n name = _
    rcases (after history).pop_cases with ⟨-, refused⟩ | ⟨rest, closed, outer, -⟩
    · rw [act_of_refused refused, height_of_refused refused]
      exact high
    · rw [act_of_closed closed, height_of_closed closed]
      exact bindingAt_of_closed outer n name
  | set other w =>
    show ((after history).set other w).bindingAt n name = _
    have different : ¬ (n = (after history).outer.length ∧ other = name) := by
      rintro ⟨top, rfl⟩
      exact others w rfl (top.trans (length_outer history))
    rw [bindingAt_set, if_neg different]
    exact high
  | outputDir | escaper => exact high

/-- An operation binds the name at the height, or it binds nothing there. -/
theorem sets_or_others (history : History) (op : Op) (name : String) (n : Nat) :
    (∃ w, op = .set name w ∧ n = height history) ∨ ∀ w, op = .set name w → n ≠ height history := by
  by_cases sets : ∃ w, op = .set name w ∧ n = height history
  · exact .inl sets
  · exact .inr fun w set same => sets ⟨w, set, same⟩

/-- A scope has no binding of a name exactly if none that stands was made at its height. -/
theorem bindingAt_after_eq_none_iff : (after history).bindingAt n name = none ↔
    ∀ v before, Standing history name v before → height before ≠ n := by
  induction history with
  | nil =>
    refine iff_of_true ?_ fun v before standing => absurd standing not_standing_nil
    show bindingAt ∅ n name = none
    rw [bindingAt_eq]
    split <;> rfl
  | cons op history ih =>
    rcases sets_or_others history op name n with ⟨w, rfl, rfl⟩ | others
    · rw [bindingAt_after_set]
      refine iff_of_false (Option.some_ne_none w) fun none_ => ?_
      exact none_ w history (standing_cons.mpr (.inl ⟨rfl, rfl⟩)) rfl
    · rw [bindingAt_after_cons others]
      split
      · rename_i low
        rw [forall_standing_cons_iff others low, ih]
      · rename_i high
        refine iff_of_true rfl fun v before standing same => ?_
        exact high (same ▸ standing.height_le)

/-- A scope has the binding of a name that was made last at its height and stands. -/
theorem bindingAt_after_eq_some_iff : (after history).bindingAt n name = some v ↔
    ∃ before, Latest history name v before ∧ height before = n := by
  induction history with
  | nil =>
    refine iff_of_false ?_ fun ⟨before, latest, _⟩ => not_standing_nil latest.toStanding
    rw [bindingAt_after_eq_none_iff.mpr fun v before standing => absurd standing not_standing_nil]
    exact (Option.some_ne_none v).symm
  | cons op history ih =>
    rcases sets_or_others history op name n with ⟨w, rfl, rfl⟩ | others
    · rw [bindingAt_after_set]
      simp only [latest_set_iff, Option.some.injEq]
      exact ⟨fun same => ⟨history, same.symm, rfl⟩, fun ⟨_, same, _⟩ => same.symm⟩
    · rw [bindingAt_after_cons others, exists_latest_cons_iff others, ← ih]
      split
      · rename_i low
        exact (and_iff_left low).symm
      · rename_i high
        exact iff_of_false (Option.some_ne_none v).symm fun both => high both.2

/-- A name means what the binding that decides makes it mean. -/
theorem get?_after_eq_some_iff : (after history).get? name = some v ↔
    ∃ before, Deciding history name v before := by
  rw [get?_eq_some_iff_bindingAt]
  constructor
  · rintro ⟨n, found, above⟩
    obtain ⟨before, latest, rfl⟩ := bindingAt_after_eq_some_iff.mp found
    refine ⟨before, latest, fun w other standing => ?_⟩
    by_contra higher
    exact bindingAt_after_eq_none_iff.mp (above _ (Nat.lt_of_not_le higher)) w other standing rfl
  · rintro ⟨before, latest, innermost⟩
    refine ⟨height before, bindingAt_after_eq_some_iff.mpr ⟨before, latest, rfl⟩, ?_⟩
    intro m above
    refine bindingAt_after_eq_none_iff.mpr fun w other standing same => ?_
    exact Nat.not_lt.mpr (innermost w other standing) (same ▸ above)

/-- A name means nothing exactly if no binding of it stands. -/
theorem get?_after_eq_none_iff : (after history).get? name = none ↔
    ∀ v before, ¬ Standing history name v before := by
  simp only [get?_eq_none_iff_bindingAt, bindingAt_after_eq_none_iff]
  exact ⟨fun none_ v before standing => none_ _ v before standing rfl,
    fun none_ _ v before standing => absurd standing (none_ v before)⟩

end Standing

/-! ### Sections -/

section Balanced

variable {body : History}

/-- Closing a scope uncovers those that were around it when it was opened. -/
theorem scopes_after_section {history inner : History}
    (same : (after (inner ++ .push :: history)).outer = (after (.push :: history)).outer) :
    (after (.pop :: (inner ++ .push :: history))).scopes = (after history).scopes := by
  show ((after (inner ++ .push :: history)).act .pop).scopes = (after (.push :: history)).outer
  rcases (after (inner ++ .push :: history)).pop_cases with
    ⟨base, -⟩ | ⟨rest, closed, uncovered, -⟩
  · rw [base] at same
    cases same
  · rw [act_of_closed closed, ← same, uncovered]

/-- Balanced work changes nothing but the innermost scope. -/
theorem Balanced.outer_eq (balanced : Balanced body) (history : History) :
    (after (body ++ history)).outer = (after history).outer := by
  induction balanced generalizing history with
  | nil => rfl
  | @other op body open_ close rest ih =>
    cases op with
    | push => exact absurd rfl open_
    | pop => exact absurd rfl close
    | set | outputDir | escaper => exact ih history
  | @nest inner body inside rest ihInner ihBody =>
    have scopes := scopes_after_section (ihInner (.push :: (body ++ history)))
    rw [List.cons_append, List.append_assoc, List.cons_append]
    exact (List.cons.inj scopes).2.trans (ihBody history)

end Balanced

/-! ### All that a history tells -/

/-- Only setting the output directory changes it. -/
theorem outputDir_act (context : Context) (op : Op) :
    (context.act op).outputDir = match op with
      | .outputDir dir => some dir
      | _ => context.outputDir := by
  cases op with
  | pop =>
    rcases context.pop_cases with ⟨-, refused⟩ | ⟨rest, closed, -, dir, -⟩
    · rw [act_of_refused refused]
    · rw [act_of_closed closed, dir]
  | push | set | outputDir | escaper => rfl

/-- Only setting the escaper changes it. -/
theorem escaper_act (context : Context) (op : Op) :
    (context.act op).escaper = match op with
      | .escaper escaper => escaper
      | _ => context.escaper := by
  cases op with
  | pop =>
    rcases context.pop_cases with ⟨-, refused⟩ | ⟨rest, closed, -, -, escaper⟩
    · rw [act_of_refused refused]
    · rw [act_of_closed closed, escaper]
  | push | set | outputDir | escaper => rfl

/-- Every history tells its context. -/
theorem recounted_after (history : History) : Recounted history (after history) where
  pop_fails_iff := by
    have total := length_outer_add_pops history
    rcases (after history).pop_cases with ⟨base, refused⟩ | ⟨rest, closed, outer, -⟩
    · rw [base, List.length_nil, Nat.zero_add] at total
      exact iff_of_true refused total
    · rw [outer, scopes, List.length_cons] at total
      refine iff_of_false (fun refused => ?_) fun same => ?_
      · rw [closed] at refused
        cases refused
      · omega
  pop_fails := act_of_refused
  depth_pos := Nat.succ_pos _
  set name v := by
    show ((after history).set name v).get? name = some v
    rw [get?_set, if_pos rfl]
  get?_eq_some_iff name v := get?_after_eq_some_iff
  get?_eq_none_iff name := get?_after_eq_none_iff
  get_eq name v before deciding := by
    rw [get, get?_after_eq_some_iff.mpr ⟨before, deciding⟩, Option.getD_some]
  get_eq_absent name none_ := by
    rw [get, get?_after_eq_none_iff.mpr none_, Option.getD_none]
  scopes_eq body balanced := scopes_after_section (balanced.outer_eq _)
  get?_eq body balanced name := by
    rw [get?, scopes_after_section (balanced.outer_eq _)]
    rfl
  outputDir := by
    induction history with
    | nil => rfl
    | cons op before ih =>
      show ((after before).act op).outputDir = _
      rw [outputDir_act, List.findSome?_cons, ih]
      cases op <;> rfl
  escaper := by
    induction history with
    | nil => rfl
    | cons op before ih =>
      show ((after before).act op).escaper = _
      rw [escaper_act, List.findSome?_cons, ih]
      cases op <;> rfl

/-- A name that was bound anew in a scope means what it meant before once the scope is closed, and
an attempt to close the base scope loses nothing. -/
example : (after [.pop, .pop, .set "x" (.ofBool true), .push, .set "x" (.ofBool false)]).get "x" =
    .ofBool false := by decide

end TextTemplate.Context
