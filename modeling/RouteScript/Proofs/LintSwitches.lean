import RouteScript.Proofs.RepeatedNames

/-!
# Checks left out

Three checks of linting can be left out. A check that is left out is not merely silent: the one for
unreachable expressions then also stops keeping track of the bare value it has met. Still, leaving
checks out does nothing but remove their issues from the list given with all checks on
(`Lint.issues_eq_shown`). The induction over the expressions of an assignment lets the two runs
differ in what they have met as long as nothing of it is shown.
-/

namespace RouteScript

open Text

/-- The finding belongs to a check that is left out. -/
def LintOptions.hides (o : LintOptions) (f : Finding) : Bool :=
  (o.skipFallback && f.code == utf8 "missing_fallback") ||
  (o.skipDuplicates && f.code == utf8 "duplicate_assignment") ||
  (o.skipUnreachable && f.code == utf8 "unreachable_expression")

theorem LintOptions.hides_eq (o : LintOptions) (f : Finding) : o.hides f =
    match f with
    | .duplicate _ => o.skipDuplicates
    | .unreachable _ => o.skipUnreachable
    | .noFallback => o.skipFallback
    | .selfReference | .noExpressions => false := by
  rw [Bool.eq_iff_iff]
  simp only [hides, Bool.or_eq_true, Bool.and_eq_true, beq_iff_eq, Finding.code_eq_noFallback_iff,
    ← Finding.severity_eq_error_iff, Finding.code_eq_unreachable_iff]
  cases f <;> simp [Finding.severity, Finding.isUnreachable]

namespace Lint

variable (o : LintOptions)

/-- The issues without those of the checks that are left out. -/
def shown (is : List Issue) : List Issue := is.filter fun i => !o.hides i.finding

theorem shown_append (is js : List Issue) : shown o (is ++ js) = shown o is ++ shown o js :=
  List.filter_append is js

theorem shown_singleton (i : Issue) : shown o [i] = if o.hides i.finding then [] else [i] := by
  cases h : o.hides i.finding <;> simp [shown, h]

/-- An issue found under a condition is shown under it too, unless its check is left out. -/
theorem shown_ite (p : Bool) (i : Issue) :
    shown o (if p then [i] else []) = if !o.hides i.finding && p then [i] else [] := by
  cases p with
  | false => simp [shown]
  | true => cases h : o.hides i.finding <;> simp [shown_singleton, h]

variable (a : Assignment)

/-- Whether unreachable expressions were met makes no difference when nothing is shown about them. -/
theorem expressionIssues_eq_shown {met met' : Bool} (h : o.skipUnreachable = false → met = met')
    (es : List Expression) :
    expressionIssues o a met es = shown o (expressionIssues {} a met' es) := by
  induction es generalizing met met' with
  | nil => rfl
  | cons e es ih =>
    cases es with
    | nil =>
      rw [expressionIssues_singleton, expressionIssues_singleton, shown_ite, LintOptions.hides_eq]
      rfl
    | cons next es =>
      have hlater : expressionIssues o a (met || !o.skipUnreachable && !met && !e.isConditional)
          (next :: es) = shown o (expressionIssues {} a (met' || !met' && !e.isConditional)
            (next :: es)) := by
        apply ih
        intro hu
        rw [h hu, hu]
        rfl
      rw [expressionIssues_cons, expressionIssues_cons, shown_append, shown_append, shown_ite,
        shown_ite, LintOptions.hides_eq, LintOptions.hides_eq, hlater]
      cases hu : o.skipUnreachable with
      | true => rfl
      | false =>
        rw [h hu]
        rfl

theorem fallbackIssues_eq_shown : fallbackIssues o a = shown o (fallbackIssues {} a) := by
  unfold fallbackIssues
  cases a.expressions.getLast? with
  | none => rfl
  | some last =>
    dsimp only
    rw [shown_ite, LintOptions.hides_eq]
    simp [Bool.and_assoc]

theorem assignmentIssues_eq_shown : assignmentIssues o a = shown o (assignmentIssues {} a) := by
  unfold assignmentIssues
  split
  · rw [shown_singleton, LintOptions.hides_eq]
    rfl
  · rw [shown_append, ← fallbackIssues_eq_shown,
      expressionIssues_eq_shown o a fun _ => (rfl : false = false)]

theorem repeatedIssues_eq_shown (seen : List (Text × Int)) :
    repeatedIssues o seen a = shown o (repeatedIssues {} seen a) := by
  unfold repeatedIssues
  cases firstLine? seen a.name with
  | none => rfl
  | some first =>
    have h := shown_singleton o ⟨.duplicate first, a.name, a.line⟩
    rw [LintOptions.hides_eq] at h
    exact h.symm

/-- Leaving checks out removes their issues and nothing else. -/
theorem issues_eq_shown (d : Draft) : issues o d = (issues {} d).filter fun i => !o.hides i.finding := by
  show issues o d = shown o (issues {} d)
  induction d using List.reverseRecOn with
  | nil => rfl
  | append_singleton d entry ih =>
    cases entry with
    | none => rw [issues_concat_none, issues_concat_none, ih]
    | some a =>
      rw [issues_concat_some, issues_concat_some, shown_append, shown_append, ← ih,
        ← repeatedIssues_eq_shown, ← assignmentIssues_eq_shown]

end Lint
end RouteScript
