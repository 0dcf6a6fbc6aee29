import RouteScript.Parse
import RouteScript.Proofs.ConditionReading
import RouteScript.Proofs.PhysicalLines

/-!
# Reading step by step

What one line does to the assignments read so far depends on the line through its `Content` alone:
nothing, the head of an assignment, a head without a name, or the continuation of an assignment.
`readLine_eq` states the step in these terms; `readLine_ok_cases` lists what a successful step can do
and `readLine_error_cases` what a failing one can report. `run` reads a list of lines; it composes
over concatenation (`run_append`) and keeps what every step keeps (`run_keeps`).
-/

namespace RouteScript

open Text

namespace Line

/-- What a line says, apart from the faults in its expression. -/
inductive Content where
  | nothing
  /-- The head of an assignment, with the statement behind the colon if there is one. -/
  | head (name : Text) (statement : Option Text)
  /-- An assignment line whose statement has no name in front of a colon. -/
  | nameless (statement : Text)
  | indented (statement : Text)
  deriving DecidableEq, Repr

def inlineStatement (after : Text) : Option Text :=
  if trim after = [] then none else some (trim after)

def assignmentContent (statement : Text) : Content :=
  match cut? colon statement with
  | none | some ([], _) => .nameless statement
  | some (name, after) => .head name (inlineStatement after)

def content (allowTab : Bool) (raw : Text) : Content :=
  match classify allowTab raw with
  | (.blank, _) => .nothing
  | (.expression, statement) => .indented statement
  | (.assignment, statement) => assignmentContent statement

/-- The statement has a name: something in front of its first colon. -/
def Named (statement : Text) : Prop :=
  ∃ name after, statement = name ++ colon :: after ∧ colon ∉ name ∧ name ≠ []

theorem assignmentContent_append {name : Text} (hc : colon ∉ name) (hne : name ≠ []) (after : Text) :
    assignmentContent (name ++ colon :: after) = .head name (inlineStatement after) := by
  rw [assignmentContent, cut?_append hc]
  cases name with
  | nil => exact absurd rfl hne
  | cons b name => rfl

theorem assignmentContent_of_not_named {statement : Text} (h : ¬ Named statement) :
    assignmentContent statement = .nameless statement := by
  rw [assignmentContent]
  rcases hcut : cut? colon statement with _ | ⟨_ | ⟨b, name⟩, after⟩
  · rfl
  · rfl
  · obtain ⟨he, hc⟩ := cut?_some_spec hcut
    exact absurd ⟨_, _, he, hc, by simp⟩ h

theorem classify_fst_eq_blank {allowTab : Bool} {raw : Text}
    (h : (classify allowTab raw).1 = .blank) : trim (withoutComment raw) = [] := by
  unfold classify at h
  dsimp only at h
  split at h
  · assumption
  · split at h <;> cases h

theorem content_eq_nothing_iff {allowTab : Bool} {raw : Text} :
    content allowTab raw = .nothing ↔ (classify allowTab raw).1 = .blank := by
  unfold content
  rcases classify allowTab raw with ⟨_ | _ | _, statement⟩
  · simp
  · by_cases h : Named statement
    · obtain ⟨name, after, rfl, hc, hne⟩ := h
      simp [assignmentContent_append hc hne]
    · simp [assignmentContent_of_not_named h]
  · simp

theorem content_eq_indented_iff {allowTab : Bool} {raw statement : Text} :
    content allowTab raw = .indented statement ↔
      classify allowTab raw = (.expression, statement) := by
  unfold content
  rcases classify allowTab raw with ⟨_ | _ | _, st⟩
  · simp
  · by_cases h : Named st
    · obtain ⟨name, after, rfl, hc, hne⟩ := h
      simp [assignmentContent_append hc hne]
    · simp [assignmentContent_of_not_named h]
  · simp

theorem content_eq_nameless_iff {allowTab : Bool} {raw statement : Text} :
    content allowTab raw = .nameless statement ↔
      classify allowTab raw = (.assignment, statement) ∧ ¬ Named statement := by
  unfold content
  rcases classify allowTab raw with ⟨_ | _ | _, st⟩
  · simp
  · by_cases h : Named st
    · constructor
      · obtain ⟨name, after, rfl, hc, hne⟩ := h
        simp [assignmentContent_append hc hne]
      · rintro ⟨he, hn⟩
        cases he
        exact absurd h hn
    · simp only [assignmentContent_of_not_named h, Content.nameless.injEq, Prod.mk.injEq, true_and]
      constructor
      · rintro rfl
        exact ⟨rfl, h⟩
      · exact fun h => h.1
  · simp

/-- The head of an assignment is what stands in front of the first colon. -/
theorem content_eq_head_iff {allowTab : Bool} {raw name : Text} {inline : Option Text} :
    content allowTab raw = .head name inline ↔ ∃ after, inline = inlineStatement after ∧
      classify allowTab raw = (.assignment, name ++ colon :: after) ∧ colon ∉ name ∧ name ≠ [] := by
  constructor
  · intro h
    rw [content] at h
    rcases hcl : classify allowTab raw with ⟨_ | _ | _, st⟩ <;> rw [hcl] at h
    · simp at h
    · by_cases hn : Named st
      · obtain ⟨front, after, rfl, hc, hne⟩ := hn
        simp only [assignmentContent_append hc hne, Content.head.injEq] at h
        obtain ⟨rfl, rfl⟩ := h
        exact ⟨after, rfl, rfl, hc, hne⟩
      · simp [assignmentContent_of_not_named hn] at h
    · simp at h
  · rintro ⟨after, rfl, hcl, hc, hne⟩
    rw [content, hcl]
    exact assignmentContent_append hc hne after

end Line

namespace Script

variable (o : ParseOptions) (ops : OperatorTable)

/-- The assignments after a line, in terms of what the line says. -/
theorem readLine_eq (done : List Assignment) (n : Nat) (raw : Text) :
    readLine o ops done n raw = match Line.content o.allowTab raw with
      | .nothing => .ok done
      | .nameless statement => .error (.ofFault .missingColon o.file statement n)
      | .head name none => .ok (⟨name, n, []⟩ :: done)
      | .head name (some statement) =>
        (readExpression o ops n raw statement).map fun e => ⟨name, n, [e]⟩ :: done
      | .indented statement => match done with
        | [] => .error (.ofFault .expressionFirst o.file raw n)
        | a :: before => (readExpression o ops n raw statement).map fun e => a.add e :: before := by
  unfold readLine Line.content
  rcases Line.classify o.allowTab raw with ⟨_ | _ | _, statement⟩
  · rfl
  · simp only [Line.assignmentContent]
    rcases cut? colon statement with _ | ⟨_ | ⟨b, name⟩, after⟩
    · rfl
    · rfl
    · by_cases h : trim after = []
      · simp [h, Line.inlineStatement]
      · simp only [h, Line.inlineStatement, ↓reduceIte]
        cases readExpression o ops n raw (trim after) <;> rfl
  · cases done with
    | nil => rfl
    | cons a before => cases readExpression o ops n raw statement <;> rfl

theorem readExpression_eq (n : Nat) (raw statement : Text) :
    readExpression o ops n raw statement = match Expression.readParts ops statement with
      | .ok (c, v) => .ok ⟨c, v, statement, raw, n⟩
      | .error f => .error (.ofFault f o.file raw n) := by
  rw [readExpression, Expression.read]
  cases Expression.readParts ops statement <;> rfl

variable {o ops}

theorem readExpression_ok {n : Nat} {raw statement : Text} {e : Expression}
    (h : readExpression o ops n raw statement = .ok e) :
    ∃ c v, Expression.readParts ops statement = .ok (c, v) ∧ e = ⟨c, v, statement, raw, n⟩ := by
  rw [readExpression_eq] at h
  cases hp : Expression.readParts ops statement with
  | error f => simp [hp] at h
  | ok parts =>
    rw [hp] at h
    exact ⟨parts.1, parts.2, rfl, (Except.ok.inj h).symm⟩

/-- Everything a successful step can do. -/
theorem readLine_ok_cases {done done' : List Assignment} {n : Nat} {raw : Text}
    (h : readLine o ops done n raw = .ok done') :
    (Line.content o.allowTab raw = .nothing ∧ done' = done) ∨
    (∃ name, Line.content o.allowTab raw = .head name none ∧ done' = ⟨name, n, []⟩ :: done) ∨
    (∃ name statement e, Line.content o.allowTab raw = .head name (some statement) ∧
      readExpression o ops n raw statement = .ok e ∧ done' = ⟨name, n, [e]⟩ :: done) ∨
    (∃ statement a before e, Line.content o.allowTab raw = .indented statement ∧
      done = a :: before ∧ readExpression o ops n raw statement = .ok e ∧
      done' = a.add e :: before) := by
  rw [readLine_eq] at h
  cases hc : Line.content o.allowTab raw with
  | nothing =>
    rw [hc] at h
    cases h
    exact .inl ⟨rfl, rfl⟩
  | nameless statement => simp [hc] at h
  | head name statement =>
    cases statement with
    | none =>
      rw [hc] at h
      cases h
      exact .inr (.inl ⟨name, rfl, rfl⟩)
    | some statement =>
      simp only [hc] at h
      cases he : readExpression o ops n raw statement with
      | error d => simp [he, Except.map] at h
      | ok e =>
        rw [he] at h
        cases h
        exact .inr (.inr (.inl ⟨name, statement, e, rfl, he, rfl⟩))
  | indented statement =>
    cases done with
    | nil => simp [hc] at h
    | cons a before =>
      simp only [hc] at h
      cases he : readExpression o ops n raw statement with
      | error d => simp [he, Except.map] at h
      | ok e =>
        rw [he] at h
        cases h
        exact .inr (.inr (.inr ⟨statement, a, before, e, rfl, rfl, he, rfl⟩))

theorem readExpression_error {n : Nat} {raw statement : Text} {d : Diagnostic}
    (h : readExpression o ops n raw statement = .error d) :
    ∃ f, Expression.readParts ops statement = .error f ∧ d = .ofFault f o.file raw n := by
  rw [readExpression_eq] at h
  cases hp : Expression.readParts ops statement with
  | error f =>
    rw [hp] at h
    exact ⟨f, rfl, (Except.error.inj h).symm⟩
  | ok parts => simp [hp] at h

/-- Everything a failing step can report. -/
theorem readLine_error_cases {done : List Assignment} {n : Nat} {raw : Text} {d : Diagnostic}
    (h : readLine o ops done n raw = .error d) :
    (∃ statement, Line.content o.allowTab raw = .nameless statement ∧
      d = .ofFault .missingColon o.file statement n) ∨
    (∃ name statement f, Line.content o.allowTab raw = .head name (some statement) ∧
      Expression.readParts ops statement = .error f ∧ d = .ofFault f o.file raw n) ∨
    (∃ statement, Line.content o.allowTab raw = .indented statement ∧ done = [] ∧
      d = .ofFault .expressionFirst o.file raw n) ∨
    (∃ statement f, Line.content o.allowTab raw = .indented statement ∧ done ≠ [] ∧
      Expression.readParts ops statement = .error f ∧ d = .ofFault f o.file raw n) := by
  rw [readLine_eq] at h
  cases hc : Line.content o.allowTab raw with
  | nothing => simp [hc] at h
  | nameless statement =>
    rw [hc] at h
    exact .inl ⟨statement, rfl, (Except.error.inj h).symm⟩
  | head name statement =>
    cases statement with
    | none => simp [hc] at h
    | some statement =>
      simp only [hc] at h
      cases he : readExpression o ops n raw statement with
      | ok e => simp [he, Except.map] at h
      | error d' =>
        rw [he] at h
        cases h
        obtain ⟨f, hf, hd⟩ := readExpression_error he
        exact .inr (.inl ⟨name, statement, f, rfl, hf, hd⟩)
  | indented statement =>
    cases done with
    | nil =>
      rw [hc] at h
      exact .inr (.inr (.inl ⟨statement, rfl, rfl, (Except.error.inj h).symm⟩))
    | cons a before =>
      simp only [hc] at h
      cases he : readExpression o ops n raw statement with
      | ok e => simp [he, Except.map] at h
      | error d' =>
        rw [he] at h
        cases h
        obtain ⟨f, hf, hd⟩ := readExpression_error he
        exact .inr (.inr (.inr ⟨statement, f, rfl, by simp, hf, hd⟩))

/-- The assignments, newest first, after the lines that follow the first `n` ones. -/
def run (o : ParseOptions) (ops : OperatorTable) (n : Nat) (done : List Assignment)
    (lines : List Text) : Except Diagnostic (List Assignment) :=
  (readLines o ops n done lines).2

@[simp] theorem run_nil (n : Nat) (done : List Assignment) : run o ops n done [] = .ok done := rfl

theorem run_cons (n : Nat) (done : List Assignment) (raw : Text) (rest : List Text) :
    run o ops n done (raw :: rest) =
      (readLine o ops done (n + 1) raw).bind fun done => run o ops (n + 1) done rest := by
  simp only [run, readLines]
  cases readLine o ops done (n + 1) raw <;> rfl

theorem run_cons_ok {n : Nat} {done done' : List Assignment} {raw : Text} {rest : List Text}
    (h : run o ops n done (raw :: rest) = .ok done') :
    ∃ d, readLine o ops done (n + 1) raw = .ok d ∧ run o ops (n + 1) d rest = .ok done' := by
  rw [run_cons] at h
  cases hr : readLine o ops done (n + 1) raw with
  | error e => simp [hr, Except.bind] at h
  | ok d =>
    rw [hr] at h
    exact ⟨d, rfl, h⟩

theorem run_append (n : Nat) (done : List Assignment) (xs ys : List Text) :
    run o ops n done (xs ++ ys) =
      (run o ops n done xs).bind fun done => run o ops (n + xs.length) done ys := by
  induction xs generalizing n done with
  | nil => rfl
  | cons x xs ih =>
    rw [List.cons_append, run_cons, run_cons]
    cases readLine o ops done (n + 1) x with
    | error d => rfl
    | ok done' =>
      simp only [Except.bind, List.length_cons] at ih ⊢
      rw [ih, show n + 1 + xs.length = n + (xs.length + 1) by omega]

/-- Reading a text is running over its physical lines from nothing. -/
theorem parse_eq_run (t : Text) :
    parse o t = (run o o.table 0 [] (Line.physical t)).bind (complete o) := by
  simp only [parse, traceText, run, Line.physical]
  cases ((readLines o o.table 0 [] (Line.dropMark (Line.all t))).2.bind (complete o)) <;> rfl

/-- What every step keeps, a run keeps. -/
theorem run_keeps {P : List Assignment → Prop} {lines : List Text}
    (step : ∀ raw ∈ lines, ∀ n done done', P done → readLine o ops done n raw = .ok done' → P done')
    {n : Nat} {done done' : List Assignment} (h0 : P done)
    (h : run o ops n done lines = .ok done') : P done' := by
  induction lines generalizing n done with
  | nil =>
    cases h
    exact h0
  | cons raw rest ih =>
    obtain ⟨d, hr, hrest⟩ := run_cons_ok h
    have hd : P d := step raw List.mem_cons_self _ _ _ h0 hr
    exact ih (fun r hm => step r (List.mem_cons_of_mem _ hm)) hd hrest

end Script
end RouteScript
