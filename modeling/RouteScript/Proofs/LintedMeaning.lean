import RouteScript.Proofs.RoundTripLaws
import RouteScript.Proofs.Selection

/-!
# Lint results and meaning

What linting finds depends on the meaning of a script: on names, conditions and values in their order,
not on line numbers and source lines. Line numbers are only passed on, into the issues and into the
message about a name that was declared before. So scripts of one meaning have alike issues
(`issues_alike`), and formatting a parsed script leaves its issues alike (`issues_format_parsed`).
-/

namespace RouteScript

open Text

/-- Two issues differ at most in line numbers: their own, and the one that the message about a
repeated declaration cites. -/
structure Issue.Alike (i j : Issue) : Prop where
  level : i.finding.severity = j.finding.severity
  code : i.finding.code = j.finding.code
  name : i.name = j.name
  message : i.finding.message = j.finding.message ∨
    i.finding.code = utf8 "duplicate_assignment" ∧ ∃ m n : Int,
      i.finding.message = utf8 "already declared at line " ++ decimal m ∧
      j.finding.message = utf8 "already declared at line " ++ decimal n

namespace Issue

theorem alike_of_finding (f : Finding) (name : Text) (m n : Int) :
    Alike ⟨f, name, m⟩ ⟨f, name, n⟩ :=
  ⟨rfl, rfl, rfl, .inl rfl⟩

theorem alike_duplicate (k l : Int) (name : Text) (m n : Int) :
    Alike ⟨.duplicate k, name, m⟩ ⟨.duplicate l, name, n⟩ :=
  ⟨rfl, rfl, rfl, .inr ⟨rfl, k, l, rfl, rfl⟩⟩

theorem Alike.ite {i j : Issue} (h : i.Alike j) (p : Prop) [Decidable p] :
    List.Forall₂ Alike (if p then [i] else []) (if p then [j] else []) := by
  split
  · exact .cons h .nil
  · exact .nil

end Issue

theorem forall₂_of_map_eq {α β : Type} {f : α → β} {xs ys : List α} (h : xs.map f = ys.map f) :
    List.Forall₂ (fun x y => f x = f y) xs ys := by
  have he : List.Forall₂ Eq (xs.map f) (ys.map f) := by
    rw [h]
    exact List.forall₂_refl _
  simpa using he

namespace Lint

open Issue

variable {o : LintOptions} {a b : Assignment}

theorem refersTo_congr {e f : Expression} (h : e.condition = f.condition) (name : Text) :
    refersTo name e = refersTo name f := by
  rw [refersTo, refersTo, h]

theorem expressionIssues_alike (hn : a.name = b.name) {es fs : List Expression}
    (h : List.Forall₂ (fun e f => e.meaning = f.meaning) es fs) (reported : Bool) :
    List.Forall₂ Alike (expressionIssues o a reported es) (expressionIssues o b reported fs) := by
  induction h generalizing reported with
  | nil => exact .nil
  | @cons e f es fs he hes ih =>
    have hc : e.condition = f.condition := congrArg Prod.fst he
    have hg : e.isConditional = f.isConditional := by simp [Expression.isConditional, hc]
    cases hes with
    | nil =>
      rw [expressionIssues_singleton, expressionIssues_singleton, hn, refersTo_congr hc]
      apply Alike.ite
      apply alike_of_finding
    | @cons next next' es fs hnext hes =>
      have hl : (next :: es).length = (next' :: fs).length := by simp [hes.length_eq]
      rw [expressionIssues_cons, expressionIssues_cons, hn, refersTo_congr hc, hg, hl]
      apply List.rel_append
      · apply List.rel_append
        · apply Alike.ite
          apply alike_of_finding
        · apply Alike.ite
          apply alike_of_finding
      · apply ih

theorem fallbackIssues_alike (h : a.meaning = b.meaning) :
    List.Forall₂ Alike (fallbackIssues o a) (fallbackIssues o b) := by
  obtain ⟨hn, he⟩ := Prod.mk.inj h
  have hall : ∀ es : List Expression, es.all Expression.isConditional =
      (es.map Expression.meaning).all fun m => m.1.isSome := by
    intro es
    rw [List.all_map]
    rfl
  have hlast := congrArg List.getLast? he
  rw [List.getLast?_map, List.getLast?_map] at hlast
  rw [fallbackIssues, fallbackIssues, hall, hall, he]
  cases ha : a.expressions.getLast? with
  | none =>
    cases hb : b.expressions.getLast? with
    | none => exact .nil
    | some f => simp [ha, hb] at hlast
  | some e =>
    cases hb : b.expressions.getLast? with
    | none => simp [ha, hb] at hlast
    | some f =>
      rw [ha, hb, Option.map_some, Option.map_some, Option.some.injEq] at hlast
      have hc : e.condition = f.condition := congrArg Prod.fst hlast
      simp only [Expression.isConditional, hc, hn]
      apply Alike.ite
      apply alike_of_finding

theorem assignmentIssues_alike (h : a.meaning = b.meaning) :
    List.Forall₂ Alike (assignmentIssues o a) (assignmentIssues o b) := by
  obtain ⟨hn, he⟩ := Prod.mk.inj h
  have hnil : a.expressions = [] ↔ b.expressions = [] := by
    rw [← List.map_eq_nil_iff (f := Expression.meaning), he, List.map_eq_nil_iff]
  by_cases ha : a.expressions = []
  · rw [assignmentIssues, assignmentIssues, if_pos ha, if_pos (hnil.1 ha), hn]
    exact .cons (alike_of_finding _ _ _ _) .nil
  · rw [assignmentIssues, assignmentIssues, if_neg ha, if_neg (mt hnil.2 ha)]
    apply List.rel_append
    · apply expressionIssues_alike hn
      exact forall₂_of_map_eq he
    · exact fallbackIssues_alike h

theorem isSome_firstLine?_iff {seen : List (Text × Int)} {name : Text} :
    (firstLine? seen name).isSome = true ↔ name ∈ seen.map Prod.fst := by
  simp [firstLine?]

theorem repeatedIssues_alike (hn : a.name = b.name) {seen seen' : List (Text × Int)}
    (hs : seen.map Prod.fst = seen'.map Prod.fst) :
    List.Forall₂ Alike (repeatedIssues o seen a) (repeatedIssues o seen' b) := by
  have hsome : (firstLine? seen b.name).isSome = true ↔ (firstLine? seen' b.name).isSome = true := by
    rw [isSome_firstLine?_iff, isSome_firstLine?_iff, hs]
  rw [repeatedIssues, repeatedIssues, hn]
  cases ha : firstLine? seen b.name with
  | none =>
    cases hb : firstLine? seen' b.name with
    | none => exact .nil
    | some n => simp [ha, hb] at hsome
  | some m =>
    cases hb : firstLine? seen' b.name with
    | none => simp [ha, hb] at hsome
    | some n =>
      cases o.skipDuplicates with
      | true => exact .nil
      | false => exact .cons (alike_duplicate _ _ _ _ _) .nil

theorem issuesFrom_alike {s s' : Script} {seen seen' : List (Text × Int)}
    (h : List.Forall₂ (fun a b => a.meaning = b.meaning) s s')
    (hs : seen.map Prod.fst = seen'.map Prod.fst) :
    List.Forall₂ Alike (issuesFrom o seen s.draft) (issuesFrom o seen' s'.draft) := by
  induction h generalizing seen seen' with
  | nil => exact .nil
  | @cons a b s s' hab _ ih =>
    have hn : a.name = b.name := congrArg Prod.fst hab
    apply List.rel_append
    · apply List.rel_append
      · exact repeatedIssues_alike hn hs
      · exact assignmentIssues_alike hab
    · apply ih
      simp [hs, hn]

/-- Scripts of the same meaning have alike issues. -/
theorem issues_alike (o : LintOptions) {s s' : Script} (h : s.meaning = s'.meaning) :
    List.Forall₂ Alike (issues o s.draft) (issues o s'.draft) := by
  apply issuesFrom_alike _ rfl
  exact forall₂_of_map_eq h

end Lint

namespace Script

/-- Formatting a parsed text whose first name is not marked with the byte order mark, and reading it
again, leaves all issues in their places; they differ in line numbers only. -/
theorem issues_format_parsed (po : ParseOptions) (fo : FormatOptions) (o : LintOptions) {t : Text}
    {s : Script} (h : parse po t = .ok s) (hm : ∀ a ∈ s.head?, Line.isMarked a.name = false) :
    ∃ out s', format fo s = .ok out ∧ parse po out = .ok s' ∧
      (Lint.issues o s'.draft).length = (Lint.issues o s.draft).length ∧
      List.Forall₂ Issue.Alike (Lint.issues o s'.draft) (Lint.issues o s.draft) := by
  have hout := format_of_parse fo h
  obtain ⟨s', hs', hmeaning, -⟩ := parse_written (parse_ok h).1 (readable_of_parse h) hm hout
  have halike := Lint.issues_alike o hmeaning
  exact ⟨_, s', hout, hs', halike.length_eq, halike⟩

/-- Comments, wide spacing and a name with a blank behind it; the repeated declaration cites another
line after formatting. -/
theorem issues_format_parsed_moved : ∃ s out s',
    parse {} (utf8 "# top\n\nv : a  >  v ? 1\n  2 # x\n 3\nw:\nv : x == 1 ? 2\n") = .ok s ∧
    format { blankLines := true } s = .ok out ∧ parse {} out = .ok s' ∧
    Lint.issues {} s.draft = [⟨.selfReference, utf8 "v ", 3⟩, ⟨.unreachable 1, utf8 "v ", 5⟩,
      ⟨.noExpressions, utf8 "w", 6⟩, ⟨.duplicate 3, utf8 "v ", 7⟩, ⟨.noFallback, utf8 "v ", 7⟩] ∧
    List.Forall₂ Issue.Alike (Lint.issues {} s'.draft) (Lint.issues {} s.draft) := by
  have h : parse {} (utf8 "# top\n\nv : a  >  v ? 1\n  2 # x\n 3\nw:\nv : x == 1 ? 2\n") = .ok
      [⟨utf8 "v ", 3, [⟨some ⟨utf8 "a", utf8 ">", utf8 "v"⟩, utf8 "1", utf8 "a  >  v ? 1",
          utf8 "v : a  >  v ? 1", 3⟩, ⟨none, utf8 "2", utf8 "2", utf8 "  2 # x", 4⟩,
          ⟨none, utf8 "3", utf8 "3", utf8 " 3", 5⟩]⟩, ⟨utf8 "w", 6, []⟩,
        ⟨utf8 "v ", 7, [⟨some ⟨utf8 "x", utf8 "==", utf8 "1"⟩, utf8 "2", utf8 "x == 1 ? 2",
          utf8 "v : x == 1 ? 2", 7⟩]⟩] := by decide +kernel
  obtain ⟨out, s', hout, hs', -, halike⟩ :=
    issues_format_parsed {} { blankLines := true } {} h (by decide +kernel)
  exact ⟨_, out, s', h, hout, hs', by decide +kernel, halike⟩

end Script
end RouteScript
