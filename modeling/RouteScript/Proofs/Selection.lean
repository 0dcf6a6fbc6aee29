import Mathlib.Data.List.Basic
import RouteScript.Lint

/-!
# Findings and selection

The value of an assignment is given by its first candidate that is bare or whose condition holds.
Linting does not evaluate conditions, but two of its findings are statements about all their truth
values at once: a missing fallback means that some truth values select nothing, and unreachable
expressions are those that no truth values select (`issues_fit_selection`). The candidate selected
when no condition holds decides both. It is the first bare one, and under any other truth values the
choice falls on it or on a candidate in front of it (`selected?_of_never`).
-/

namespace RouteScript

open Text

/-- A candidate is taken if its condition holds; a bare one always is. -/
def Expression.applies (holds : Condition → Bool) (e : Expression) : Bool := e.condition.all holds

namespace Assignment

/-- The position of the candidate that gives the value when the conditions that hold are given. -/
def selected? (a : Assignment) (holds : Condition → Bool) : Option Nat :=
  a.expressions.findIdx? (Expression.applies holds)

def never (_ : Condition) : Bool := false

theorem applies_never (e : Expression) : e.applies never = !e.isConditional := by
  cases h : e.condition <;> simp [Expression.applies, Expression.isConditional, never, h]

theorem applies_of_never {e : Expression} (holds : Condition → Bool) (h : e.applies never = true) :
    e.applies holds = true := by
  cases hc : e.condition with
  | none => simp [Expression.applies, hc]
  | some c => simp [Expression.applies, never, hc] at h

variable {a : Assignment}

/-- More conditions that hold can only move the choice to the front. -/
theorem selected?_of_never {n : Nat} (h : a.selected? never = some n) (holds : Condition → Bool) :
    ∃ m ≤ n, a.selected? holds = some m := by
  apply List.findIdx?_eq_some_le_of_findIdx?_eq_some _ h
  intro e _ he
  exact applies_of_never holds he

theorem selected?_never_eq_none_iff :
    a.selected? never = none ↔ ∀ e ∈ a.expressions, e.isConditional = true := by
  simp [selected?, applies_never]

/-- Nothing may be selected exactly when every candidate is guarded. -/
theorem exists_selected?_eq_none_iff :
    (∃ holds, a.selected? holds = none) ↔ ∀ e ∈ a.expressions, e.isConditional = true := by
  rw [← selected?_never_eq_none_iff]
  constructor
  · rintro ⟨holds, h⟩
    cases hn : a.selected? never with
    | none => rfl
    | some n =>
      obtain ⟨m, -, hm⟩ := selected?_of_never hn holds
      simp [hm] at h
  · intro h
    exact ⟨never, h⟩

theorem selected?_never_of_bare {front rest : List Expression} {e : Expression}
    (h : a.expressions = front ++ e :: rest) (hf : ∀ f ∈ front, f.isConditional = true)
    (he : e.isConditional = false) : a.selected? never = some front.length := by
  have hfront : front.findIdx? (Expression.applies never) = none := by
    apply List.findIdx?_eq_none_iff.2
    intro f hm
    simp [applies_never, hf f hm]
  simp [selected?, h, List.findIdx?_append, hfront, List.findIdx?_cons, applies_never, he]

end Assignment

namespace Finding

def isUnreachable : Finding → Bool
  | .unreachable _ => true
  | _ => false

theorem code_eq_unreachable_iff (f : Finding) :
    f.code = utf8 "unreachable_expression" ↔ f.isUnreachable = true := by
  cases f <;> simp only [code, isUnreachable] <;> decide

theorem code_eq_noFallback_iff (f : Finding) :
    f.code = utf8 "missing_fallback" ↔ f = .noFallback := by
  cases f <;> simp only [code, reduceCtorEq] <;> decide

end Finding

namespace Lint

variable {o : LintOptions} {a : Assignment}

theorem expressionIssues_cons (reported : Bool) (e next : Expression) (es : List Expression) :
    expressionIssues o a reported (e :: next :: es) =
      (if refersTo (trim a.name) e then [⟨.selfReference, a.name, e.line⟩] else []) ++
      (if !o.skipUnreachable && !reported && !e.isConditional then
        [⟨.unreachable (next :: es).length, a.name, next.line⟩] else []) ++
      expressionIssues o a (reported || !o.skipUnreachable && !reported && !e.isConditional)
        (next :: es) := rfl

theorem expressionIssues_singleton (reported : Bool) (e : Expression) :
    expressionIssues o a reported [e] =
      if refersTo (trim a.name) e then [⟨.selfReference, a.name, e.line⟩] else [] := rfl

theorem of_mem_expressionIssues {reported : Bool} {es : List Expression} {i : Issue}
    (h : i ∈ expressionIssues o a reported es) :
    i.name = a.name ∧ (i.finding = .selfReference ∨ i.finding.isUnreachable = true) := by
  induction es generalizing reported with
  | nil => simp [expressionIssues] at h
  | cons e es ih =>
    cases es with
    | nil =>
      simp only [expressionIssues_singleton, List.mem_ite_nil_right, List.mem_singleton] at h
      simp [h.2]
    | cons next es =>
      simp only [expressionIssues_cons, List.mem_append, List.mem_ite_nil_right,
        List.mem_singleton] at h
      rcases h with (⟨-, rfl⟩ | ⟨-, rfl⟩) | h
      · simp
      · simp [Finding.isUnreachable]
      · exact ih h

/-- Once expressions are reported as unreachable, only references to the variable itself are. -/
theorem expressionIssues_of_reported (es : List Expression) :
    expressionIssues o a true es =
      (es.filter (refersTo (trim a.name))).map fun e => ⟨.selfReference, a.name, e.line⟩ := by
  induction es with
  | nil => rfl
  | cons e es ih =>
    cases es with
    | nil => by_cases h : refersTo (trim a.name) e <;> simp [expressionIssues_singleton, h]
    | cons next es =>
      by_cases h : refersTo (trim a.name) e <;> simp [expressionIssues_cons, ih, h]

def unreachableIssues (is : List Issue) : List Issue := is.filter (·.finding.isUnreachable)

theorem unreachableIssues_append (is js : List Issue) :
    unreachableIssues (is ++ js) = unreachableIssues is ++ unreachableIssues js :=
  List.filter_append is js

theorem unreachableIssues_cons (hu : o.skipUnreachable = false) (e next : Expression)
    (es : List Expression) :
    unreachableIssues (expressionIssues o a false (e :: next :: es)) =
      if e.isConditional then unreachableIssues (expressionIssues o a false (next :: es))
      else [⟨.unreachable (next :: es).length, a.name, next.line⟩] := by
  have hself : unreachableIssues
      (if refersTo (trim a.name) e then [⟨.selfReference, a.name, e.line⟩] else []) = [] := by
    split <;> rfl
  rw [expressionIssues_cons, unreachableIssues_append, unreachableIssues_append, hself, hu]
  cases e.isConditional with
  | true => rfl
  | false =>
    have hlater : unreachableIssues (expressionIssues o a true (next :: es)) = [] := by
      rw [expressionIssues_of_reported]
      apply List.filter_eq_nil_iff.2
      intro i hi
      obtain ⟨f, -, rfl⟩ := List.mem_map.1 hi
      simp [Finding.isUnreachable]
    exact congrArg (List.cons _) hlater

/-- Either no candidate but the last is bare and nothing is reported, or the first bare one hides
those behind it and this is reported once. -/
theorem unreachable_cases (hu : o.skipUnreachable = false) (es : List Expression) :
    ((∀ front e rest, es = front ++ e :: rest → e.isConditional = false → rest = []) ∧
      unreachableIssues (expressionIssues o a false es) = []) ∨
    ∃ front e next rest, es = front ++ e :: next :: rest ∧
      (∀ f ∈ front, f.isConditional = true) ∧ e.isConditional = false ∧
      unreachableIssues (expressionIssues o a false es) =
        [⟨.unreachable (next :: rest).length, a.name, next.line⟩] := by
  induction es with
  | nil => exact .inl ⟨by simp, rfl⟩
  | cons e es ih =>
    cases es with
    | nil =>
      refine .inl ⟨?_, ?_⟩
      · intro front f rest h _
        cases front <;> simp_all
      · rw [expressionIssues_singleton]
        split <;> rfl
    | cons next es =>
      rw [unreachableIssues_cons hu]
      cases he : e.isConditional with
      | false => exact .inr ⟨[], e, next, es, rfl, by simp, he, rfl⟩
      | true =>
        rcases ih with ⟨hlast, hnone⟩ | ⟨front, f, n, rest, hes, hf, hbare, hone⟩
        · refine .inl ⟨?_, hnone⟩
          intro front f rest h hf
          cases front with
          | nil => simp_all
          | cons g front => exact hlast front f rest (List.cons.inj h).2 hf
        · refine .inr ⟨e :: front, f, n, rest, by simp [hes], ?_, hbare, hone⟩
          exact List.forall_mem_cons.2 ⟨he, hf⟩

theorem of_mem_fallbackIssues {i : Issue} (h : i ∈ fallbackIssues o a) :
    i.name = a.name ∧ i.finding = .noFallback := by
  unfold fallbackIssues at h
  split at h
  · simp only [List.mem_ite_nil_right, List.mem_singleton] at h
    simp [h.2]
  · simp at h

theorem fallbackIssues_ne_nil_iff (hf : o.skipFallback = false) :
    fallbackIssues o a ≠ [] ↔
      a.expressions ≠ [] ∧ ∀ e ∈ a.expressions, e.isConditional = true := by
  cases hl : a.expressions.getLast? with
  | none => simp [fallbackIssues, List.getLast?_eq_none_iff.1 hl]
  | some last =>
    have hmem : last ∈ a.expressions := List.mem_of_getLast? hl
    have hne : a.expressions ≠ [] := List.ne_nil_of_mem hmem
    simp only [fallbackIssues, hl, hf, ne_eq, hne, not_false_eq_true, true_and, ite_eq_right_iff,
      reduceCtorEq, imp_false, not_not, Bool.not_false, Bool.true_and, Bool.and_eq_true,
      List.all_eq_true, and_iff_right_iff_imp]
    intro hall
    exact hall last hmem

theorem unreachableIssues_assignmentIssues : unreachableIssues (assignmentIssues o a) =
    unreachableIssues (expressionIssues o a false a.expressions) := by
  have hfall : unreachableIssues (fallbackIssues o a) = [] := by
    apply List.filter_eq_nil_iff.2
    intro i hi
    simp [(of_mem_fallbackIssues hi).2, Finding.isUnreachable]
  by_cases he : a.expressions = []
  · rw [assignmentIssues, if_pos he, he]
    rfl
  · rw [assignmentIssues, if_neg he, unreachableIssues_append, hfall, List.append_nil]

theorem name_of_mem_assignmentIssues {i : Issue} (h : i ∈ assignmentIssues o a) :
    i.name = a.name := by
  unfold assignmentIssues at h
  split at h
  · simp [List.mem_singleton.1 h]
  · rcases List.mem_append.1 h with h | h
    · exact (of_mem_expressionIssues h).1
    · exact (of_mem_fallbackIssues h).1

theorem exists_noFallback_iff (hf : o.skipFallback = false) :
    (∃ i ∈ assignmentIssues o a, i.finding = .noFallback) ↔
      a.expressions ≠ [] ∧ ∀ e ∈ a.expressions, e.isConditional = true := by
  rw [← fallbackIssues_ne_nil_iff hf]
  by_cases he : a.expressions = []
  · simp [assignmentIssues, fallbackIssues, he]
  · rw [assignmentIssues, if_neg he]
    constructor
    · rintro ⟨i, hi, hn⟩
      rcases List.mem_append.1 hi with hi | hi
      · have hs := (of_mem_expressionIssues hi).2
        simp [hn, Finding.isUnreachable] at hs
      · exact List.ne_nil_of_mem hi
    · intro hne
      obtain ⟨i, hi⟩ := List.exists_mem_of_ne_nil _ hne
      exact ⟨i, List.mem_append_right _ hi, (of_mem_fallbackIssues hi).2⟩

def declarations (d : Draft) : List (Text × Int) :=
  d.filterMap fun entry => entry.map fun a => (a.name, a.line)

/-- A draft is linted entry by entry; an entry looks at the declarations in front of it only. -/
theorem issuesFrom_append (seen : List (Text × Int)) (d after : Draft) :
    issuesFrom o seen (d ++ after) =
      issuesFrom o seen d ++ issuesFrom o (seen ++ declarations d) after := by
  induction d generalizing seen with
  | nil => simp [declarations, issuesFrom]
  | cons entry d ih =>
    cases entry with
    | none => simpa [declarations, issuesFrom] using ih seen
    | some b =>
      have h := ih (seen ++ [(b.name, b.line)])
      simp only [List.cons_append, issuesFrom, h]
      simp [declarations]

def repeatedIssues (o : LintOptions) (seen : List (Text × Int)) (a : Assignment) : List Issue :=
  match firstLine? seen a.name with
  | some first => if o.skipDuplicates then [] else [⟨.duplicate first, a.name, a.line⟩]
  | none => []

theorem issuesFrom_singleton (seen : List (Text × Int)) (a : Assignment) :
    issuesFrom o seen [some a] = repeatedIssues o seen a ++ assignmentIssues o a := by
  simp only [issuesFrom, List.append_nil]
  rfl

theorem of_mem_repeatedIssues {seen : List (Text × Int)} {i : Issue}
    (h : i ∈ repeatedIssues o seen a) : ∃ n, i = ⟨.duplicate n, a.name, a.line⟩ := by
  unfold repeatedIssues at h
  split at h
  · simp only [List.mem_ite_nil_left, List.mem_singleton] at h
    exact ⟨_, h.2⟩
  · simp at h

/-- Some issue has the given code. -/
def Reported (is : List Issue) (code : String) : Prop := ∃ i ∈ is, i.finding.code = utf8 code

/-- The issues `own` of an assignment say which of its candidates can be selected. -/
structure FitsSelection (a : Assignment) (own : List Issue) : Prop where
  named : ∀ i ∈ own, i.name = a.name
  fallback : Reported own "missing_fallback" ↔
    a.expressions ≠ [] ∧ ∃ holds, a.selected? holds = none
  once : (own.filter fun i => i.finding.code = utf8 "unreachable_expression").length ≤ 1
  unreachable : Reported own "unreachable_expression" ↔
    ∃ front e rest, a.expressions = front ++ e :: rest ∧ e.condition = none ∧ rest ≠ []
  /-- The candidates in `rest` are the reported ones, and `e` in front of them hides them. -/
  hidden : ∀ i ∈ own, i.finding.code = utf8 "unreachable_expression" →
    ∃ front e rest, a.expressions = front ++ e :: rest ∧
      i.finding.message = decimal rest.length
        ++ utf8 " expression(s) after unconditional value are unreachable" ∧
      rest.head?.map (·.line) = some i.line ∧
      (∀ holds, ∃ n ≤ front.length, a.selected? holds = some n) ∧
      a.selected? Assignment.never = some front.length
  apart : ¬ (Reported own "missing_fallback" ∧ Reported own "unreachable_expression")

theorem filter_unreachable (is : List Issue) :
    is.filter (fun i => i.finding.code = utf8 "unreachable_expression") = unreachableIssues is := by
  apply List.filter_congr
  intro i _
  simp [Finding.code_eq_unreachable_iff]

theorem mem_unreachableIssues_iff {is : List Issue} {i : Issue} : i ∈ unreachableIssues is ↔
    i ∈ is ∧ i.finding.code = utf8 "unreachable_expression" := by
  simp [unreachableIssues, Finding.code_eq_unreachable_iff]

theorem reported_unreachable_iff {is : List Issue} :
    Reported is "unreachable_expression" ↔ unreachableIssues is ≠ [] := by
  simp [Reported, unreachableIssues, Finding.code_eq_unreachable_iff]

theorem unreachableIssues_own (seen : List (Text × Int)) (a : Assignment) :
    unreachableIssues (issuesFrom o seen [some a]) =
      unreachableIssues (expressionIssues o a false a.expressions) := by
  have hrep : unreachableIssues (repeatedIssues o seen a) = [] := by
    apply List.filter_eq_nil_iff.2
    intro i hi
    obtain ⟨n, rfl⟩ := of_mem_repeatedIssues hi
    simp [Finding.isUnreachable]
  rw [issuesFrom_singleton, unreachableIssues_append, hrep, unreachableIssues_assignmentIssues]
  rfl

theorem name_of_mem_own {seen : List (Text × Int)} {i : Issue}
    (h : i ∈ issuesFrom o seen [some a]) : i.name = a.name := by
  rw [issuesFrom_singleton] at h
  rcases List.mem_append.1 h with h | h
  · obtain ⟨n, rfl⟩ := of_mem_repeatedIssues h
    rfl
  · exact name_of_mem_assignmentIssues h

theorem reported_noFallback_iff (hf : o.skipFallback = false) (seen : List (Text × Int)) :
    Reported (issuesFrom o seen [some a]) "missing_fallback" ↔
      a.expressions ≠ [] ∧ ∃ holds, a.selected? holds = none := by
  rw [Assignment.exists_selected?_eq_none_iff, ← exists_noFallback_iff hf, issuesFrom_singleton]
  simp only [Reported, Finding.code_eq_noFallback_iff, List.mem_append]
  constructor
  · rintro ⟨i, hi | hi, hn⟩
    · obtain ⟨n, rfl⟩ := of_mem_repeatedIssues hi
      simp at hn
    · exact ⟨i, hi, hn⟩
  · rintro ⟨i, hi, hn⟩
    exact ⟨i, .inr hi, hn⟩

theorem fitsSelection_own (hf : o.skipFallback = false) (hu : o.skipUnreachable = false)
    (seen : List (Text × Int)) (a : Assignment) :
    FitsSelection a (issuesFrom o seen [some a]) := by
  have hname : ∀ i ∈ issuesFrom o seen [some a], i.name = a.name := fun _ => name_of_mem_own
  have hown := unreachableIssues_own (o := o) seen a
  have hfall := reported_noFallback_iff (a := a) hf seen
  rcases unreachable_cases (a := a) hu a.expressions with
    ⟨hlast, hnone⟩ | ⟨front, e, next, rest, hes, hfront, hbare, hone⟩
  · rw [hnone] at hown
    have hquiet : ¬ Reported (issuesFrom o seen [some a]) "unreachable_expression" := by
      simp [reported_unreachable_iff, hown]
    refine ⟨hname, hfall, ?_, iff_of_false hquiet ?_, ?_, fun h => hquiet h.2⟩
    · simp [filter_unreachable, hown]
    · rintro ⟨front, e, rest, hes, he, hrest⟩
      exact hrest (hlast front e rest hes (by simp [Expression.isConditional, he]))
    · intro i hi hc
      exact absurd ⟨i, hi, hc⟩ hquiet
  · rw [hone] at hown
    have hnever := Assignment.selected?_never_of_bare hes hfront hbare
    have hbare' : e.condition = none := by simpa [Expression.isConditional] using hbare
    have hloud : Reported (issuesFrom o seen [some a]) "unreachable_expression" := by
      simp [reported_unreachable_iff, hown]
    refine ⟨hname, hfall, ?_, iff_of_true hloud ⟨front, e, next :: rest, hes, hbare', by simp⟩, ?_, ?_⟩
    · simp [filter_unreachable, hown]
    · intro i hi hc
      have hmem := mem_unreachableIssues_iff.2 ⟨hi, hc⟩
      rw [hown, List.mem_singleton] at hmem
      subst hmem
      exact ⟨front, e, next :: rest, hes, rfl, rfl, Assignment.selected?_of_never hnever, hnever⟩
    · rintro ⟨hmissing, -⟩
      obtain ⟨-, holds, hn⟩ := hfall.1 hmissing
      obtain ⟨m, -, hm⟩ := Assignment.selected?_of_never hnever holds
      simp [hm] at hn

/-- The issues of an assignment in a draft are those it adds to the issues of the entries in front of
it, whatever follows. With both checks on they agree with what can be selected. -/
theorem issues_fit_selection (o : LintOptions) (hf : o.skipFallback = false)
    (hu : o.skipUnreachable = false) (before after : Draft) (a : Assignment) :
    ∃ own later, issues o (before ++ [some a]) = issues o before ++ own ∧
      issues o (before ++ some a :: after) = issues o before ++ own ++ later ∧
      FitsSelection a own := by
  have hown : issues o (before ++ [some a]) =
      issues o before ++ issuesFrom o (declarations before) [some a] :=
    issuesFrom_append [] before [some a]
  have hall : issues o (before ++ some a :: after) = issues o (before ++ [some a]) ++
      issuesFrom o (declarations (before ++ [some a])) after := by
    rw [List.append_cons]
    exact issuesFrom_append [] (before ++ [some a]) after
  exact ⟨_, _, hown, hown ▸ hall, fitsSelection_own hf hu _ a⟩

/-- Behind a vacant entry and a first declaration of the name: a guarded candidate, then a bare one
that hides two more, one of them equal to it. -/
theorem issues_fit_selection_hidden :
    let c : Condition := ⟨utf8 "a", utf8 "==", utf8 "v"⟩
    let v : Assignment := ⟨utf8 "v", 4, [⟨some c, utf8 "1", [], [], 4⟩, ⟨none, utf8 "2", [], [], 5⟩,
      ⟨some c, utf8 "3", [], [], 7⟩, ⟨none, utf8 "2", [], [], 5⟩]⟩
    let before : Draft := [none, some ⟨utf8 "v", 1, [⟨some c, utf8 "1", [], [], 2⟩]⟩]
    ∃ own later, issues {} (before ++ [some v]) = issues {} before ++ own ∧
      issues {} (before ++ [some v, none]) = issues {} before ++ own ++ later ∧
      own = [⟨.duplicate 1, utf8 "v", 4⟩, ⟨.selfReference, utf8 "v", 4⟩,
        ⟨.unreachable 2, utf8 "v", 7⟩, ⟨.selfReference, utf8 "v", 7⟩] ∧
      FitsSelection v own := by
  intro c v before
  obtain ⟨own, later, hown, hall, hfit⟩ := issues_fit_selection {} rfl rfl before [none] v
  refine ⟨own, later, hown, hall, ?_, hfit⟩
  have he : issues {} (before ++ [some v]) = issues {} before ++
      [⟨.duplicate 1, utf8 "v", 4⟩, ⟨.selfReference, utf8 "v", 4⟩, ⟨.unreachable 2, utf8 "v", 7⟩,
        ⟨.selfReference, utf8 "v", 7⟩] := by decide
  exact List.append_cancel_left (hown.symm.trans he)

end Lint
end RouteScript
