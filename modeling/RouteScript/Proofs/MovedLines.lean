import Mathlib.Data.List.Forall2
import RouteScript.Proofs.ReadingSteps

/-!
# The same lines in another place

Two runs over lines that say the same agree, wherever the lines stand. The lines may have other
numbers, related by `R`, and another wording, related by `T`, as long as their contents are equal;
lines that say nothing may be strewn in between. `Line.Aligned` describes such pairs of line lists,
`Agree` the outcomes of the two runs. One line is handled by `readLine_agree` and a run by
`run_agree`; `Agree.complete` says what this means for the scripts.
-/

namespace RouteScript

section Moved

variable (R : Int → Int → Prop) (T : Text → Text → Prop)

/-- The second expression is the first one, found at another place. -/
structure Expression.Moved (e e' : Expression) : Prop where
  condition : e'.condition = e.condition
  value : e'.value = e.value
  statement : e'.statement = e.statement
  raw : T e.raw e'.raw
  line : R e.line e'.line

structure Assignment.Moved (a a' : Assignment) : Prop where
  name : a'.name = a.name
  line : R a.line a'.line
  expressions : List.Forall₂ (Expression.Moved R T) a.expressions a'.expressions

/-- The second diagnostic reports the same at another place. -/
structure Diagnostic.Moved (d d' : Diagnostic) : Prop where
  file : d'.file = d.file
  message : d'.message = d.message
  hint : d'.hint = d.hint
  kind : d'.kind = d.kind
  text : T d.text d'.text
  line : R d.line d'.line

/-- Lines behind the first `n` ones and lines behind the first `n'` ones say the same in the same
order; the second list may have lines in between that say nothing. -/
inductive Line.Aligned (o : ParseOptions) : Nat → List Text → Nat → List Text → Prop where
  | nil {n n' : Nat} : Aligned o n [] n' []
  | extra {n n' : Nat} {raw' : Text} {ls ls' : List Text} : content o.allowTab raw' = .nothing →
      Aligned o n ls (n' + 1) ls' → Aligned o n ls n' (raw' :: ls')
  | same {n n' : Nat} {raw raw' : Text} {ls ls' : List Text} :
      content o.allowTab raw' = content o.allowTab raw → R (n + 1 : Nat) (n' + 1 : Nat) →
      T raw raw' → Aligned o (n + 1) ls (n' + 1) ls' → Aligned o n (raw :: ls) n' (raw' :: ls')

/-- Both runs succeed with the same assignments, or both fail with the same report. -/
inductive Script.Agree : Except Diagnostic (List Assignment) →
    Except Diagnostic (List Assignment) → Prop where
  | ok {done done' : List Assignment} : List.Forall₂ (Assignment.Moved R T) done done' →
      Agree (.ok done) (.ok done')
  | error {d d' : Diagnostic} : d.Moved R T d' → Agree (.error d) (.error d')

end Moved

variable {R : Int → Int → Prop} {T : Text → Text → Prop}

theorem Line.Aligned.extras {o : ParseOptions} {n n' : Nat} {ls ls' ms : List Text}
    (hms : ∀ m ∈ ms, content o.allowTab m = .nothing)
    (h : Aligned R T o n ls (n' + ms.length) ls') : Aligned R T o n ls n' (ms ++ ls') := by
  induction ms generalizing n' with
  | nil => exact h
  | cons m ms ih =>
    obtain ⟨hm, hms⟩ := List.forall_mem_cons.1 hms
    refine .extra hm (ih hms ?_)
    rwa [Nat.add_assoc, Nat.add_comm 1]

theorem Assignment.Moved.add {a a' : Assignment} {e e' : Expression} (ha : a.Moved R T a')
    (he : e.Moved R T e') : (a.add e).Moved R T (a'.add e') := by
  refine ⟨ha.name, ha.line, ?_⟩
  exact List.rel_append ha.expressions (.cons he .nil)

namespace Script

variable {o : ParseOptions} {ops : OperatorTable}

theorem readExpression_moved (o : ParseOptions) (ops : OperatorTable) {n n' : Nat}
    {raw raw' : Text} (hn : R n n') (hraw : T raw raw') (statement : Text) :
    (∃ e e', readExpression o ops n raw statement = .ok e ∧
      readExpression o ops n' raw' statement = .ok e' ∧ e.Moved R T e') ∨
    (∃ d d', readExpression o ops n raw statement = .error d ∧
      readExpression o ops n' raw' statement = .error d' ∧ d.Moved R T d') := by
  rw [readExpression_eq, readExpression_eq]
  cases Expression.readParts ops statement with
  | ok parts => exact .inl ⟨_, _, rfl, rfl, rfl, rfl, rfl, hraw, hn⟩
  | error f => exact .inr ⟨_, _, rfl, rfl, rfl, rfl, rfl, rfl, hraw, hn⟩

/-- A line with the same content does the same to the same assignments. -/
theorem readLine_agree (hT : ∀ x, T x x) {n n' : Nat} {raw raw' : Text}
    {done done' : List Assignment}
    (hc : Line.content o.allowTab raw' = Line.content o.allowTab raw) (hn : R n n')
    (hraw : T raw raw') (hd : List.Forall₂ (Assignment.Moved R T) done done') :
    Agree R T (readLine o ops done n raw) (readLine o ops done' n' raw') := by
  rw [readLine_eq, readLine_eq, hc]
  cases Line.content o.allowTab raw with
  | nothing => exact .ok hd
  | nameless statement => exact .error ⟨rfl, rfl, rfl, rfl, hT statement, hn⟩
  | head name inline =>
    cases inline with
    | none => exact .ok (.cons ⟨rfl, hn, .nil⟩ hd)
    | some statement =>
      rcases readExpression_moved o ops hn hraw statement with
        ⟨e, e', he, he', hm⟩ | ⟨d, d', he, he', hm⟩
      · simp only [he, he']
        exact .ok (.cons ⟨rfl, hn, .cons hm .nil⟩ hd)
      · simp only [he, he']
        exact .error hm
  | indented statement =>
    cases hd with
    | nil => exact .error ⟨rfl, rfl, rfl, rfl, hraw, hn⟩
    | cons ha hb =>
      rcases readExpression_moved o ops hn hraw statement with
        ⟨e, e', he, he', hm⟩ | ⟨d, d', he, he', hm⟩
      · simp only [he, he']
        exact .ok (.cons (ha.add hm) hb)
      · simp only [he, he']
        exact .error hm

/-- Aligned lines are read alike. -/
theorem run_agree (hT : ∀ x, T x x) {n n' : Nat} {ls ls' : List Text}
    (h : Line.Aligned R T o n ls n' ls') {done done' : List Assignment}
    (hd : List.Forall₂ (Assignment.Moved R T) done done') :
    Agree R T (run o ops n done ls) (run o ops n' done' ls') := by
  induction h generalizing done done' with
  | nil => exact .ok hd
  | extra hc _ ih =>
    rw [run_cons, readLine_eq, hc]
    exact ih hd
  | @same n n' raw raw' ls ls' hc hn hraw _ ih =>
    have hstep : Agree R T (readLine o ops done (n + 1) raw)
        (readLine o ops done' (n' + 1) raw') := readLine_agree hT hc hn hraw hd
    rw [run_cons, run_cons]
    generalize readLine o ops done (n + 1) raw = x at hstep ⊢
    generalize readLine o ops done' (n' + 1) raw' = x' at hstep ⊢
    cases hstep with
    | ok hd => exact ih hd
    | error hm => exact .error hm

/-- Agreeing runs give the same script, the same empty document or the same report. -/
theorem Agree.complete {x x' : Except Diagnostic (List Assignment)} (h : Agree R T x x') :
    (∃ s s', x.bind (complete o) = .ok s ∧ x'.bind (complete o) = .ok s' ∧
      List.Forall₂ (Assignment.Moved R T) s s') ∨
    (x.bind (complete o) = .error (.ofFault .noAssignments o.file [] 0) ∧
      x'.bind (complete o) = .error (.ofFault .noAssignments o.file [] 0)) ∨
    (∃ d d', x = .error d ∧ x' = .error d' ∧ d.Moved R T d') := by
  cases h with
  | error hm => exact .inr (.inr ⟨_, _, rfl, rfl, hm⟩)
  | ok hd =>
    cases hd with
    | nil => exact .inr (.inl ⟨rfl, rfl⟩)
    | cons ha hb => exact .inl ⟨_, _, rfl, rfl, List.forall₂_reverse_iff.2 (.cons ha hb)⟩

end Script
end RouteScript
