import Mathlib.Data.Finset.Card
import Mathlib.Data.Finset.Lattice.Lemmas
import RouteScript.Proofs.FormattedFiles
import RouteScript.Proofs.Selection

/-!
# Repeated names

An assignment whose name an earlier one has is an error, and nothing else is. Linting threads the
declarations it has seen through the entries; here the errors are given by positions instead
(`Script.repeats`), and both are followed entry by entry from the front (`duplicateIssues_issues`). So
the number of errors and the outcome of the lint command can be read off the names alone
(`Lint.repeats_reported`).
-/

namespace RouteScript

open Text

/-- The assignments of a draft, without its vacant entries. -/
def Draft.assignments (d : Draft) : Script := d.filterMap id

namespace Script

/-- The assignments whose name was declared before, in order, each behind the first assignment with
its name. -/
def repeats (s : Script) : List (Assignment × Assignment) :=
  s.zipIdx.filterMap fun p =>
    ((s.take p.2).find? fun first => first.name == p.1.name).map fun first => (first, p.1)

/-- The number of different names. -/
def nameCount (s : Script) : Nat := (s.map Assignment.name).toFinset.card

variable {s : Script} {a : Assignment}

theorem find?_name_eq_none_iff {name : Text} :
    (s.find? fun b => b.name == name) = none ↔ name ∉ s.map Assignment.name := by
  simp

/-- A further assignment is a repeat if its name is not new, and changes no other repeat. -/
theorem repeats_concat (s : Script) (a : Assignment) : repeats (s ++ [a]) =
    repeats s ++ ((s.find? fun b => b.name == a.name).map fun b => (b, a)).toList := by
  have hold : ∀ p ∈ s.zipIdx, (s ++ [a]).take p.2 = s.take p.2 := by
    intro p hp
    exact List.take_append_of_le_length (List.snd_lt_of_mem_zipIdx hp).le
  rw [repeats, List.zipIdx_append, List.filterMap_append, repeats]
  congr 1
  · apply List.filterMap_congr
    intro p hp
    rw [hold p hp]
  · have hnew : (s ++ [a]).take s.length = s := List.take_left
    simp only [List.zipIdx_singleton, Nat.zero_add, List.filterMap_cons, List.filterMap_nil, hnew]
    cases s.find? fun b => b.name == a.name <;> rfl

theorem nameCount_concat (s : Script) (a : Assignment) : nameCount (s ++ [a]) =
    nameCount s + if a.name ∈ s.map Assignment.name then 0 else 1 := by
  have hinsert : ((s ++ [a]).map Assignment.name).toFinset =
      insert a.name (s.map Assignment.name).toFinset := by
    ext name
    simp
  rw [nameCount, hinsert, nameCount]
  by_cases h : a.name ∈ s.map Assignment.name
  · rw [Finset.insert_eq_of_mem (List.mem_toFinset.2 h), if_pos h, Nat.add_zero]
  · rw [Finset.card_insert_of_notMem (mt List.mem_toFinset.1 h), if_neg h]

theorem length_repeats (s : Script) : s.repeats.length + s.nameCount = s.length := by
  induction s using List.reverseRecOn with
  | nil => rfl
  | append_singleton s a ih =>
    rw [repeats_concat, nameCount_concat, List.length_append, List.length_append,
      List.length_singleton]
    cases hf : s.find? fun b => b.name == a.name with
    | none =>
      rw [if_neg (find?_name_eq_none_iff.1 hf), Option.map_none, Option.toList_none, List.length_nil]
      omega
    | some b =>
      have hmem : a.name ∈ s.map Assignment.name := by
        by_contra hno
        rw [find?_name_eq_none_iff.2 hno] at hf
        cases hf
      rw [if_pos hmem, Option.map_some, Option.toList_some, List.length_singleton]
      omega

theorem repeats_eq_nil_iff : s.repeats = [] ↔ (s.map Assignment.name).Nodup := by
  have hlen := length_repeats s
  have hcard : s.nameCount = (s.map Assignment.name).dedup.length := List.card_toFinset _
  rw [← List.length_eq_zero_iff, ← List.dedup_eq_self]
  constructor
  · intro h
    refine (List.dedup_sublist _).eq_of_length ?_
    rw [List.length_map]
    omega
  · intro h
    rw [h, List.length_map] at hcard
    omega

end Script

theorem Finding.severity_eq_error_iff (f : Finding) :
    f.severity = .error ↔ f.code = utf8 "duplicate_assignment" := by
  cases f <;> simp only [severity, code] <;> decide

namespace Lint

variable {o : LintOptions} {a : Assignment}

def duplicateIssues (is : List Issue) : List Issue :=
  is.filter fun i => i.finding.code = utf8 "duplicate_assignment"

/-- What is reported about a name declared first by `first` and again by `again`. -/
def repeatIssue (first again : Assignment) : Issue := ⟨.duplicate first.line, again.name, again.line⟩

theorem duplicateIssues_append (is js : List Issue) :
    duplicateIssues (is ++ js) = duplicateIssues is ++ duplicateIssues js :=
  List.filter_append is js

theorem mem_duplicateIssues_iff {is : List Issue} {i : Issue} :
    i ∈ duplicateIssues is ↔ i ∈ is ∧ i.finding.severity = .error := by
  simp [duplicateIssues, Finding.severity_eq_error_iff]

theorem severity_of_mem_assignmentIssues {i : Issue} (h : i ∈ assignmentIssues o a) :
    i.finding.severity = .warning := by
  unfold assignmentIssues at h
  split at h
  · rw [List.mem_singleton.1 h]
    rfl
  · rcases List.mem_append.1 h with h | h
    · rcases (of_mem_expressionIssues h).2 with hf | hf
      · rw [hf]
        rfl
      · cases hi : i.finding <;> simp_all [Finding.isUnreachable, Finding.severity]
    · rw [(of_mem_fallbackIssues h).2]
      rfl

theorem duplicateIssues_assignmentIssues : duplicateIssues (assignmentIssues o a) = [] := by
  refine List.eq_nil_iff_forall_not_mem.2 fun i hi => ?_
  obtain ⟨hm, he⟩ := mem_duplicateIssues_iff.1 hi
  rw [severity_of_mem_assignmentIssues hm] at he
  cases he

theorem firstLine?_declarations (d : Draft) (name : Text) : firstLine? (declarations d) name =
    (d.assignments.find? fun b => b.name == name).map Assignment.line := by
  have hmap : declarations d = d.assignments.map fun b => (b.name, b.line) := by
    rw [declarations, Draft.assignments, List.map_filterMap]
    rfl
  rw [firstLine?, hmap, List.find?_map, Option.map_map]
  rfl

theorem duplicateIssues_repeatedIssues (ho : o.skipDuplicates = false) (d : Draft) :
    duplicateIssues (repeatedIssues o (declarations d) a) =
      ((d.assignments.find? fun b => b.name == a.name).map fun b => repeatIssue b a).toList := by
  rw [repeatedIssues, firstLine?_declarations, ho]
  cases d.assignments.find? fun b => b.name == a.name with
  | none => rfl
  | some b => rfl

theorem repeatedIssues_of_skip (ho : o.skipDuplicates = true) (seen : List (Text × Int)) :
    repeatedIssues o seen a = [] := by
  unfold repeatedIssues
  split
  · simp [ho]
  · rfl

theorem issues_concat_none (d : Draft) : issues o (d ++ [none]) = issues o d := by
  rw [issues, issuesFrom_append]
  exact List.append_nil _

theorem issues_concat_some (d : Draft) (a : Assignment) : issues o (d ++ [some a]) =
    issues o d ++ (repeatedIssues o (declarations d) a ++ assignmentIssues o a) := by
  rw [issues, issuesFrom_append, issuesFrom_singleton]
  rfl

/-- With the check on, the issues about repeats are those of the repeats, in order. -/
theorem duplicateIssues_issues (ho : o.skipDuplicates = false) (d : Draft) :
    duplicateIssues (issues o d) = d.assignments.repeats.map fun p => repeatIssue p.1 p.2 := by
  induction d using List.reverseRecOn with
  | nil => rfl
  | append_singleton d entry ih =>
    cases entry with
    | none =>
      have hd : Draft.assignments (d ++ [none]) = Draft.assignments d := by simp [Draft.assignments]
      rw [issues_concat_none, hd, ih]
    | some a =>
      have hd : Draft.assignments (d ++ [some a]) = Draft.assignments d ++ [a] := by
        simp [Draft.assignments]
      rw [issues_concat_some, duplicateIssues_append, duplicateIssues_append,
        duplicateIssues_assignmentIssues, duplicateIssues_repeatedIssues ho, ih, hd,
        Script.repeats_concat, List.map_append, List.append_nil]
      cases (Draft.assignments d).find? fun b => b.name == a.name <;> rfl

/-- With the check off, there is no error. -/
theorem duplicateIssues_of_skip (ho : o.skipDuplicates = true) (d : Draft) :
    duplicateIssues (issues o d) = [] := by
  induction d using List.reverseRecOn with
  | nil => rfl
  | append_singleton d entry ih =>
    cases entry with
    | none => rw [issues_concat_none, ih]
    | some a =>
      rw [issues_concat_some, repeatedIssues_of_skip ho, List.nil_append, duplicateIssues_append,
        duplicateIssues_assignmentIssues, ih, List.append_nil]

/-- Linting a script fails exactly when the check is on and a name occurs twice. -/
theorem hasError_issues_iff (o : LintOptions) (d : Draft) : hasError (issues o d) = true ↔
    o.skipDuplicates = false ∧ ¬ (d.assignments.map Assignment.name).Nodup := by
  have herror : hasError (issues o d) = true ↔ duplicateIssues (issues o d) ≠ [] := by
    rw [hasError, List.any_eq_true, ne_eq, List.eq_nil_iff_forall_not_mem, not_forall]
    simp [mem_duplicateIssues_iff]
  rw [herror]
  cases ho : o.skipDuplicates with
  | true => simp [duplicateIssues_of_skip ho]
  | false => simp [duplicateIssues_issues ho, Script.repeats_eq_nil_iff]

/-- The issues of a draft report its repeats: each one once, with its own line and the line of the
first declaration, and nothing else as an error. -/
structure ReportsRepeats (d : Draft) (is : List Issue) : Prop where
  reported : (duplicateIssues is).map (fun i => (i.finding.message, i.name, i.line)) =
    d.assignments.repeats.map fun p =>
      (utf8 "already declared at line " ++ decimal p.1.line, p.2.name, p.2.line)
  count : (duplicateIssues is).length + d.assignments.nameCount = d.assignments.length
  errors : ∀ i ∈ is, i.finding.severity = .error ↔ i.finding.code = utf8 "duplicate_assignment"

theorem reportsRepeats_issues (ho : o.skipDuplicates = false) (d : Draft) :
    ReportsRepeats d (issues o d) where
  reported := by
    rw [duplicateIssues_issues ho, List.map_map]
    rfl
  count := by
    rw [duplicateIssues_issues ho, List.length_map]
    exact Script.length_repeats _
  errors := fun i _ => i.finding.severity_eq_error_iff

end Lint

theorem Work.runLint_error {w : Work} {arguments : List Text} {content file : Text} {script : Script}
    (hs : w.source arguments = .ok (content, file))
    (hp : Script.parse (w.config.parseOptions file) content = .ok script) :
    (w.runLint arguments).error =
      if Lint.hasError (Lint.issues w.config.lint script.draft) then some (.lintFailed file)
      else none := by
  rw [runLint]
  rcases withScript_cases w arguments _ with ⟨hno, -⟩ | ⟨content', file', script', hs', hp', he, -⟩
  · exact absurd hp (hno _ _ _ hs)
  · rw [hs] at hs'
    cases hs'
    rw [hp] at hp'
    cases hp'
    exact he

namespace Invocation

variable {i : Invocation} {conf : Config} {file : Text} {script : Script}

/-- The command line lints `script`, read from the source `file` under the settings `conf` of the
configuration file with those of the flags added. -/
def Lints (i : Invocation) (conf : Config) (file : Text) (script : Script) : Prop :=
  ∃ v arguments content, i.plan = .ok (.run .lint v arguments) ∧
    Config.load i.tree v.config = .ok conf ∧
    (i.workWith v conf).source arguments = .ok (content, file) ∧
    Script.parse {
      file := file
      operators := conf.operators
      extraOperators := conf.extraOperators ++ v.operators
      allowTab := v.tabIndent.getD conf.tabIndent } content = .ok script

theorem run_error_of_lints (h : i.Lints conf file script) : i.run.error =
    if Lint.hasError (Lint.issues conf.lint script.draft) then some (.lintFailed file) else none := by
  obtain ⟨v, arguments, content, hp, hload, hsource, hparse⟩ := h
  rcases run_of_plan hp with ⟨e, hload', -⟩ | ⟨conf', before, hload', hr⟩
  · rw [hload] at hload'
    cases hload'
  · rw [hload] at hload'
    cases hload'
    rw [hr, Outcome.logged_error]
    exact Work.runLint_error hsource hparse

end Invocation

theorem Script.assignments_draft (s : Script) : s.draft.assignments = s := by
  simp [draft, Draft.assignments]

/-- With the check on, the issues of a draft report its repeats, and these are the only errors. The
lint command fails on a script it reads exactly when the check is on and two assignments have one
name. -/
theorem Lint.repeats_reported :
    (∀ (o : LintOptions) (d : Draft), o.skipDuplicates = false → ReportsRepeats d (issues o d)) ∧
    ∀ (i : Invocation) (conf : Config) (file : Text) (script : Script), i.Lints conf file script →
      i.run.error = if conf.lint.skipDuplicates = false ∧ ¬ (script.map Assignment.name).Nodup
        then some (.lintFailed file) else none := by
  refine ⟨fun o d ho => reportsRepeats_issues ho d, ?_⟩
  intro i conf file script h
  rw [Invocation.run_error_of_lints h]
  simp only [hasError_issues_iff, Script.assignments_draft]

/-- A name declared three times, beside one with a blank behind it; and a name that a script declares
twice, linted with and without the check. -/
theorem Lint.repeats_reported_thrice :
    let v (line : Int) : Assignment := ⟨utf8 "v", line, []⟩
    let d : Draft := [some (v 3), none, some ⟨utf8 "v ", 4, []⟩, some (v 6), none, some (v 9)]
    let i (arguments : List Text) : Invocation := {
      arguments := utf8 "lint" :: arguments
      defaultConfig := []
      debugWanted := false
      input := ⟨utf8 "v: 1\nw: 2\nv: 3\n", none⟩
      outputFailure := none
      tree := ⟨[([utf8 "c.toml"], utf8 "[lint]\ndisable_duplicate_check = true\n")], [], []⟩ }
    ReportsRepeats d (issues {} d) ∧ d.assignments.repeats = [(v 3, v 6), (v 3, v 9)] ∧
      (i []).run.error = some (.lintFailed Work.inputName) ∧
      (i [utf8 "-c", utf8 "c.toml"]).run.error = none := by
  intro v d i
  let script : Script := [⟨utf8 "v", 1, [⟨none, utf8 "1", utf8 "1", utf8 "v: 1", 1⟩]⟩,
    ⟨utf8 "w", 2, [⟨none, utf8 "2", utf8 "2", utf8 "w: 2", 2⟩]⟩,
    ⟨utf8 "v", 3, [⟨none, utf8 "3", utf8 "3", utf8 "v: 3", 3⟩]⟩]
  have hon : (i []).Lints {} Work.inputName script :=
    ⟨{ config := [] }, [], (i []).input.bytes, by decide +kernel, rfl, rfl, by decide +kernel⟩
  have hoff : (i [utf8 "-c", utf8 "c.toml"]).Lints { lint := { skipDuplicates := true } }
      Work.inputName script :=
    ⟨{ config := utf8 "c.toml" }, [], (i []).input.bytes, by decide +kernel, by decide +kernel, rfl,
      by decide +kernel⟩
  have hrepeated : ¬ (script.map Assignment.name).Nodup := by decide +kernel
  refine ⟨repeats_reported.1 {} d rfl, by decide +kernel, ?_, ?_⟩
  · rw [repeats_reported.2 _ _ _ _ hon, if_pos ⟨rfl, hrepeated⟩]
  · rw [repeats_reported.2 _ _ _ _ hoff, if_neg (by simp)]

end RouteScript
