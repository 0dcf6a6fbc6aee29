import RouteScript.Proofs.ReadingSteps

/-!
# The grammar of scripts

A text is a script when its first visible line is an assignment line and no line is ill-formed by
itself. `Verdict` says what becomes of a list of lines in these terms: every list has at most one
verdict (`Verdict.unique`), and reading gives it (`verdict_parse`). Lines behind the reported one
are never looked at (`run_error_local`).
-/

namespace RouteScript

open Text

/-- The element `a` is the first one with the property, and stands at place `m`, counted from one. -/
def FirstAt {α : Type} (p : α → Prop) (l : List α) (m : Int) (a : α) : Prop :=
  ∃ before after, l = before ++ a :: after ∧ m = before.length + 1 ∧ p a ∧ ∀ b ∈ before, ¬ p b

section FirstAt

variable {α : Type} {p : α → Prop}

theorem FirstAt.prop {l : List α} {m : Int} {a : α} (h : FirstAt p l m a) : a ∈ l ∧ p a := by
  obtain ⟨before, after, rfl, -, ha, -⟩ := h
  exact ⟨by simp, ha⟩

theorem firstAt_head {a : α} (ha : p a) (l : List α) : FirstAt p (a :: l) 1 a :=
  ⟨[], l, rfl, by simp, ha, by simp⟩

theorem FirstAt.append {l : List α} {m : Int} {a : α} (h : FirstAt p l m a) (front : List α)
    (hf : ∀ b ∈ front, ¬ p b) : FirstAt p (front ++ l) (front.length + m) a := by
  obtain ⟨before, after, rfl, rfl, ha, hb⟩ := h
  refine ⟨front ++ before, after, by simp, ?_, ha, List.forall_mem_append.2 ⟨hf, hb⟩⟩
  rw [List.length_append]
  omega

theorem exists_firstAt {l : List α} (h : ∃ a ∈ l, p a) : ∃ m a, FirstAt p l m a := by
  induction l with
  | nil => simp at h
  | cons b l ih =>
    by_cases hb : p b
    · exact ⟨1, b, firstAt_head hb l⟩
    · obtain ⟨a, ha, hp⟩ := h
      have hl : a ∈ l := by
        rcases List.mem_cons.1 ha with rfl | hl
        · exact absurd hp hb
        · exact hl
      obtain ⟨m, c, hc⟩ := ih ⟨a, hl, hp⟩
      exact ⟨_, c, hc.append [b] (by simpa using hb)⟩

theorem FirstAt.unique {l : List α} {m n : Int} {a b : α} (ha : FirstAt p l m a)
    (hb : FirstAt p l n b) : m = n ∧ a = b := by
  obtain ⟨u, x, rfl, rfl, hpa, hu⟩ := ha
  obtain ⟨v, y, he, rfl, hpb, hv⟩ := hb
  rcases List.append_eq_append_iff.1 he with ⟨w, rfl, hw⟩ | ⟨w, rfl, hw⟩
  · cases w with
    | nil => simp_all
    | cons c w =>
      have hc : a = c := (List.cons.inj hw).1
      exact absurd (hc ▸ hpa) (hv c (by simp))
  · cases w with
    | nil => simp_all
    | cons c w =>
      have hc : b = c := (List.cons.inj hw).1
      exact absurd (hc ▸ hpb) (hu c (by simp))

end FirstAt

namespace Expression

/-- No expression can be read from the statement, wherever it stands. -/
def Rejected (ops : OperatorTable) (raw statement : Text) : Prop :=
  ∃ f, ∀ n, read ops raw statement n = .error f

theorem rejected_iff {ops : OperatorTable} {raw statement : Text} :
    Rejected ops raw statement ↔ ∃ f, readParts ops statement = .error f := by
  unfold Rejected read
  cases readParts ops statement with
  | error f => simp [bind, Except.bind]
  | ok parts => simp [bind, Except.bind, pure, Except.pure]

end Expression

theorem Condition.kind_of_read_error {ops : OperatorTable} {s : Text} {f : Fault}
    (h : Condition.read ops s = .error f) : f.kind = .malformed := by
  unfold Condition.read at h
  split at h
  · cases h
    rfl
  split at h
  · split at h
    · cases h
    · split at h
      · cases h
      · cases h
        rfl
  · split at h
    · cases h
    · cases h
      rfl

theorem Expression.kind_of_readParts_error {ops : OperatorTable} {statement : Text} {f : Fault}
    (h : Expression.readParts ops statement = .error f) : f.kind = .malformed := by
  unfold Expression.readParts at h
  split at h
  · cases h
  next before after _ =>
  cases hc : Condition.read ops (trim before) with
  | error g =>
    simp only [hc, bind, Except.bind] at h
    cases h
    exact Condition.kind_of_read_error hc
  | ok c =>
    simp only [hc, bind, Except.bind] at h
    split at h
    · cases h
      rfl
    · cases h

namespace Line

def kind (o : ParseOptions) (raw : Text) : LineKind := (classify o.allowTab raw).1

def Visible (o : ParseOptions) (raw : Text) : Prop := kind o raw ≠ .blank

/-- The line is ill-formed by itself, wherever it stands behind an assignment line; the text is what
is shown of it. -/
inductive IllFormed (o : ParseOptions) (raw : Text) : Text → Prop where
  /-- An assignment line that has no colon, or nothing in front of its first one. -/
  | nameless {statement : Text} : classify o.allowTab raw = (.assignment, statement) →
      ¬ Named statement → IllFormed o raw statement
  /-- An assignment line whose statement behind the first colon is rejected. -/
  | inline {name after : Text} : classify o.allowTab raw = (.assignment, name ++ colon :: after) →
      colon ∉ name → name ≠ [] → trim after ≠ [] →
      Expression.Rejected o.table raw (trim after) → IllFormed o raw raw
  /-- An indented line whose statement is rejected. -/
  | indented {statement : Text} : classify o.allowTab raw = (.expression, statement) →
      Expression.Rejected o.table raw statement → IllFormed o raw raw

/-- The line is ill-formed, whatever is shown of it. -/
def Faulty (o : ParseOptions) (raw : Text) : Prop := ∃ text, IllFormed o raw text

variable {o : ParseOptions} {raw : Text}

theorem IllFormed.unique {x y : Text} (hx : IllFormed o raw x) (hy : IllFormed o raw y) : x = y := by
  cases hx with
  | nameless hcl hn =>
    cases hy with
    | nameless hcl' _ => exact congrArg Prod.snd (hcl.symm.trans hcl')
    | inline hcl' hc hne _ _ =>
      have he := congrArg Prod.snd (hcl.symm.trans hcl')
      exact absurd ⟨_, _, he, hc, hne⟩ hn
    | indented hcl' _ => cases hcl.symm.trans hcl'
  | inline hcl hc hne _ _ =>
    cases hy with
    | nameless hcl' hn =>
      have he := congrArg Prod.snd (hcl'.symm.trans hcl)
      exact absurd ⟨_, _, he, hc, hne⟩ hn
    | inline => rfl
    | indented => rfl
  | indented hcl _ =>
    cases hy with
    | nameless hcl' _ => cases hcl.symm.trans hcl'
    | inline => rfl
    | indented => rfl

theorem Faulty.visible (h : Faulty o raw) : Visible o raw := by
  obtain ⟨text, h⟩ := h
  unfold Visible kind
  cases h with
  | nameless hcl _ => simp [hcl]
  | inline hcl _ _ _ _ => simp [hcl]
  | indented hcl _ => simp [hcl]

end Line

namespace Script

variable {o : ParseOptions}

theorem readExpression_rejected {raw statement : Text}
    (h : Expression.Rejected o.table raw statement) (n : Nat) :
    ∃ d, readExpression o o.table n raw statement = .error d := by
  obtain ⟨f, hf⟩ := h
  exact ⟨.ofFault f o.file raw n, by rw [readExpression, hf]⟩

theorem not_faulty_of_readLine {done done' : List Assignment} {n : Nat} {raw : Text}
    (h : readLine o o.table done n raw = .ok done') : ¬ Line.Faulty o raw := by
  rintro ⟨text, hi⟩
  cases hi with
  | nameless hcl hn => simp [readLine_eq, Line.content_eq_nameless_iff.2 ⟨hcl, hn⟩] at h
  | @inline name after hcl hc hne hafter hrej =>
    obtain ⟨d, hd⟩ := readExpression_rejected hrej n
    have hcon : Line.content o.allowTab raw = .head name (some (trim after)) := by
      refine Line.content_eq_head_iff.2 ⟨after, ?_, hcl, hc, hne⟩
      rw [Line.inlineStatement, if_neg hafter]
    simp [readLine_eq, hcon, hd, Except.map] at h
  | indented hcl hrej =>
    obtain ⟨d, hd⟩ := readExpression_rejected hrej n
    have hcon := Line.content_eq_indented_iff.2 hcl
    cases done with
    | nil => simp [readLine_eq, hcon] at h
    | cons a before => simp [readLine_eq, hcon, hd, Except.map] at h

/-- A line that follows an assignment, or is an assignment line, is read unless it is ill-formed. -/
theorem readLine_outcome {done : List Assignment} {raw : Text}
    (h : done ≠ [] ∨ Line.kind o raw = .assignment) (n : Nat) :
    (∃ done', readLine o o.table done n raw = .ok done' ∧ done' ≠ [] ∧ ¬ Line.Faulty o raw) ∨
    ∃ f text, Line.IllFormed o raw text ∧ f.kind = .malformed ∧
      readLine o o.table done n raw = .error (.ofFault f o.file text n) := by
  cases hr : readLine o o.table done n raw with
  | ok done' =>
    refine .inl ⟨done', rfl, ?_, not_faulty_of_readLine hr⟩
    rcases readLine_ok_cases hr with ⟨hc, rfl⟩ | ⟨name, -, rfl⟩ | ⟨name, st, e, -, -, rfl⟩ |
      ⟨st, a, before, e, -, -, -, rfl⟩
    · have hk : Line.kind o raw = .blank := Line.content_eq_nothing_iff.1 hc
      rcases h with hd | ha
      · exact hd
      · cases hk.symm.trans ha
    · simp
    · simp
    · simp
  | error d =>
    right
    rcases readLine_error_cases hr with ⟨st, hc, rfl⟩ | ⟨name, st, f, hc, hf, rfl⟩ |
      ⟨st, hc, hd, -⟩ | ⟨st, f, hc, -, hf, rfl⟩
    · obtain ⟨hcl, hn⟩ := Line.content_eq_nameless_iff.1 hc
      exact ⟨_, _, .nameless hcl hn, rfl, rfl⟩
    · obtain ⟨after, hin, hcl, hcolon, hne⟩ := Line.content_eq_head_iff.1 hc
      unfold Line.inlineStatement at hin
      split at hin
      · cases hin
      next hafter =>
      cases hin
      have hrej : Expression.Rejected o.table raw _ := Expression.rejected_iff.2 ⟨f, hf⟩
      exact ⟨f, raw, .inline hcl hcolon hne hafter hrej, Expression.kind_of_readParts_error hf, rfl⟩
    · -- An indented line can only be reached here below an assignment.
      have hk : Line.kind o raw = .expression :=
        congrArg Prod.fst (Line.content_eq_indented_iff.1 hc)
      rcases h with hne | ha
      · exact absurd hd hne
      · cases hk.symm.trans ha
    · have hcl := Line.content_eq_indented_iff.1 hc
      have hrej : Expression.Rejected o.table raw _ := Expression.rejected_iff.2 ⟨f, hf⟩
      exact ⟨f, raw, .indented hcl hrej, Expression.kind_of_readParts_error hf, rfl⟩

theorem run_blank {lines : List Text} (h : ∀ raw ∈ lines, Line.kind o raw = .blank) (n : Nat)
    (done : List Assignment) : run o o.table n done lines = .ok done := by
  induction lines generalizing n with
  | nil => rfl
  | cons raw rest ih =>
    obtain ⟨hraw, hrest⟩ := List.forall_mem_cons.1 h
    have hc : Line.content o.allowTab raw = .nothing := Line.content_eq_nothing_iff.2 hraw
    rw [run_cons, readLine_eq, hc]
    exact ih hrest (n + 1)

/-- Once an assignment is open, lines are read up to the first ill-formed one. -/
theorem run_outcome {lines : List Text} {done : List Assignment}
    (h : done ≠ [] ∨ ∃ raw ∈ lines.head?, Line.kind o raw = .assignment) (n : Nat) :
    (∃ done', run o o.table n done lines = .ok done' ∧ done' ≠ [] ∧
      ∀ raw ∈ lines, ¬ Line.Faulty o raw) ∨
    ∃ m raw f text, FirstAt (Line.Faulty o) lines m raw ∧ Line.IllFormed o raw text ∧
      f.kind = .malformed ∧
      run o o.table n done lines = .error (.ofFault f o.file text (n + m)) := by
  induction lines generalizing n done with
  | nil =>
    have hd : done ≠ [] := by simpa using h
    exact .inl ⟨done, rfl, hd, by simp⟩
  | cons raw rest ih =>
    have hraw : done ≠ [] ∨ Line.kind o raw = .assignment := by simpa using h
    rw [run_cons]
    rcases readLine_outcome hraw (n + 1) with ⟨done', hr, hd, hw⟩ | ⟨f, text, hi, hf, hr⟩
    · rw [hr]
      rcases ih (.inl hd) (n + 1) with ⟨done'', hrun, hd', hrest⟩ | ⟨m, l, f, text, hm, hi, hf, hrun⟩
      · exact .inl ⟨done'', hrun, hd', List.forall_mem_cons.2 ⟨hw, hrest⟩⟩
      · refine .inr ⟨1 + m, l, f, text, ?_, hi, hf, ?_⟩
        · exact hm.append [raw] (by simpa using hw)
        · have hn : ((n + 1 : Nat) : Int) + m = n + (1 + m) := by omega
          rw [← hn]
          exact hrun
    · rw [hr]
      exact .inr ⟨1, raw, f, text, firstAt_head ⟨text, hi⟩ rest, hi, hf, rfl⟩

/-- The first visible line is of the given kind. -/
def Opens (o : ParseOptions) (lines : List Text) (k : LineKind) : Prop :=
  ∃ m raw, FirstAt (Line.Visible o) lines m raw ∧ Line.kind o raw = k

/-- The verdict on the lines of a text: kind, line and text of the report, if there is one. -/
inductive Verdict (o : ParseOptions) (lines : List Text) : Option (FaultKind × Int × Text) → Prop where
  | empty : (∀ raw ∈ lines, Line.kind o raw = .blank) → Verdict o lines (some (.empty, 0, []))
  /-- The first visible line is indented. -/
  | misplaced {m : Int} {raw : Text} : FirstAt (Line.Visible o) lines m raw →
      Line.kind o raw = .expression → Verdict o lines (some (.misplaced, m, raw))
  /-- The first visible line is an assignment line, and some line is ill-formed. -/
  | malformed {m : Int} {raw text : Text} : Opens o lines .assignment →
      FirstAt (Line.Faulty o) lines m raw → Line.IllFormed o raw text →
      Verdict o lines (some (.malformed, m, text))
  /-- The first visible line is an assignment line, and no line is ill-formed. -/
  | accepted : Opens o lines .assignment → (∀ raw ∈ lines, ¬ Line.Faulty o raw) →
      Verdict o lines none

theorem Opens.unique {lines : List Text} {j k : LineKind} (hj : Opens o lines j)
    (hk : Opens o lines k) : j = k := by
  obtain ⟨m, raw, hm, rfl⟩ := hj
  obtain ⟨n, l, hn, rfl⟩ := hk
  rw [(hm.unique hn).2]

theorem Opens.not_blank {lines : List Text} {k : LineKind} (h : Opens o lines k) :
    ¬ ∀ raw ∈ lines, Line.kind o raw = .blank := by
  obtain ⟨m, raw, hm, -⟩ := h
  obtain ⟨hraw, hv⟩ := hm.prop
  exact fun hb => hv (hb raw hraw)

/-- There is at most one verdict on a list of lines. -/
theorem Verdict.unique {lines : List Text} {v w : Option (FaultKind × Int × Text)}
    (hv : Verdict o lines v) (hw : Verdict o lines w) : v = w := by
  cases hv with
  | empty hb =>
    cases hw with
    | empty _ => rfl
    | misplaced hf hk => exact absurd hb (Opens.not_blank ⟨_, _, hf, hk⟩)
    | malformed ho _ _ => exact absurd hb ho.not_blank
    | accepted ho _ => exact absurd hb ho.not_blank
  | misplaced hf hk =>
    have ho' : Opens o lines .expression := ⟨_, _, hf, hk⟩
    cases hw with
    | empty hb => exact absurd hb ho'.not_blank
    | misplaced hf' _ =>
      obtain ⟨rfl, rfl⟩ := hf.unique hf'
      rfl
    | malformed ho _ _ => cases ho.unique ho'
    | accepted ho _ => cases ho.unique ho'
  | malformed ho hm hi =>
    cases hw with
    | empty hb => exact absurd hb ho.not_blank
    | misplaced hf hk => cases ho.unique ⟨_, _, hf, hk⟩
    | malformed _ hm' hi' =>
      obtain ⟨rfl, rfl⟩ := hm.unique hm'
      rw [hi.unique hi']
    | accepted _ hn => exact absurd hm.prop.2 (hn _ hm.prop.1)
  | accepted ho hn =>
    cases hw with
    | empty hb => exact absurd hb ho.not_blank
    | misplaced hf hk => cases ho.unique ⟨_, _, hf, hk⟩
    | malformed _ hm _ => exact absurd hm.prop.2 (hn _ hm.prop.1)
    | accepted _ _ => rfl

def report : Except Diagnostic Script → Option (FaultKind × Int × Text)
  | .ok _ => none
  | .error d => some (d.kind, d.line, d.text)

theorem verdict_parse (t : Text) : Verdict o (Line.physical t) (report (parse o t)) := by
  rw [parse_eq_run]
  by_cases hb : ∀ raw ∈ Line.physical t, Line.kind o raw = .blank
  · rw [run_blank hb]
    exact .empty hb
  · push Not at hb
    obtain ⟨k, first, hf⟩ : ∃ k first, FirstAt (Line.Visible o) (Line.physical t) k first :=
      exists_firstAt hb
    have ⟨before, after, hl, hk, hv, hnot⟩ := hf
    have hbefore : ∀ raw ∈ before, Line.kind o raw = .blank := fun raw hraw =>
      not_not.1 (hnot raw hraw)
    have hrun : run o o.table 0 [] (Line.physical t) =
        run o o.table before.length [] (first :: after) := by
      rw [hl, run_append, run_blank hbefore, Nat.zero_add]
      rfl
    rw [hrun]
    cases hkind : Line.kind o first with
    | blank => exact absurd hkind hv
    | expression =>
      have hc : Line.content o.allowTab first = .indented (Line.classify o.allowTab first).2 :=
        Line.content_eq_indented_iff.2 (Prod.ext hkind rfl)
      rw [run_cons, readLine_eq, hc]
      subst hk
      exact .misplaced hf hkind
    | assignment =>
      have hclean : ∀ raw ∈ before, ¬ Line.Faulty o raw := fun raw hraw hfaulty =>
        hfaulty.visible (hbefore raw hraw)
      have hopen : ([] : List Assignment) ≠ [] ∨
          ∃ raw ∈ (first :: after).head?, Line.kind o raw = .assignment := .inr ⟨first, rfl, hkind⟩
      rcases run_outcome hopen before.length with
        ⟨done, hr, hd, hw⟩ | ⟨m, raw, f, text, hm, hi, hkf, hr⟩
      · have hall : ∀ raw ∈ Line.physical t, ¬ Line.Faulty o raw := by
          rw [hl]
          exact List.forall_mem_append.2 ⟨hclean, hw⟩
        rw [hr]
        simp only [Except.bind, complete, if_neg hd]
        exact .accepted ⟨_, _, hf, hkind⟩ hall
      · have hfirst : FirstAt (Line.Faulty o) (Line.physical t) (before.length + m) raw := by
          rw [hl]
          exact hm.append before hclean
        rw [hr]
        simp only [Except.bind, report, Diagnostic.ofFault, hkf]
        exact .malformed ⟨_, _, hf, hkind⟩ hfirst hi

theorem report_eq_iff_verdict {t : Text} {v : Option (FaultKind × Int × Text)} :
    report (parse o t) = v ↔ Verdict o (Line.physical t) v := by
  constructor
  · rintro rfl
    exact verdict_parse t
  · exact (verdict_parse t).unique

theorem readLine_error_place {ops : OperatorTable} {done : List Assignment} {n : Nat} {raw : Text}
    {d : Diagnostic} (h : readLine o ops done n raw = .error d) : d.line = n ∧ d.file = o.file := by
  rcases readLine_error_cases h with ⟨_, _, rfl⟩ | ⟨_, _, _, _, _, rfl⟩ | ⟨_, _, _, rfl⟩ |
    ⟨_, _, _, _, _, rfl⟩ <;> exact ⟨rfl, rfl⟩

/-- A run that fails does so at the reported line, whatever lines follow it. -/
theorem run_error_local {ops : OperatorTable} {n : Nat} {done : List Assignment} {lines : List Text}
    {d : Diagnostic} (h : run o ops n done lines = .error d) :
    d.file = o.file ∧ ∃ before raw after, lines = before ++ raw :: after ∧
      d.line = n + before.length + 1 ∧ ∀ rest, run o ops n done (before ++ raw :: rest) = .error d := by
  induction lines generalizing n done with
  | nil => cases h
  | cons raw lines ih =>
    rw [run_cons] at h
    cases hr : readLine o ops done (n + 1) raw with
    | error d' =>
      rw [hr] at h
      cases h
      obtain ⟨hline, hfile⟩ := readLine_error_place hr
      refine ⟨hfile, [], raw, lines, rfl, ?_, fun rest => ?_⟩
      · rw [hline, List.length_nil]
        omega
      · rw [List.nil_append, run_cons, hr]
        rfl
    | ok done' =>
      rw [hr] at h
      obtain ⟨hfile, before, l, after, rfl, hline, hrest⟩ := ih h
      refine ⟨hfile, raw :: before, l, after, rfl, ?_, fun rest => ?_⟩
      · rw [hline, List.length_cons]
        omega
      · rw [List.cons_append, run_cons, hr]
        exact hrest rest

theorem exists_line_of_run_error {ops : OperatorTable} {ls : List Text} {d : Diagnostic}
    (h : run o ops 0 [] (Line.dropMark ls) = .error d) :
    ∃ (n : Nat) (l : Text), d.line = n + 1 ∧ ls[n]? = some l := by
  obtain ⟨-, before, raw, after, hlines, hline, -⟩ := run_error_local h
  have hlength := congrArg List.length hlines
  rw [Line.length_dropMark, List.length_append, List.length_cons] at hlength
  have hlt : before.length < ls.length := by omega
  exact ⟨before.length, _, by simpa using hline, List.getElem?_eq_getElem hlt⟩

theorem readLine_error_kind {ops : OperatorTable} {done : List Assignment} {n : Nat} {raw : Text}
    {d : Diagnostic} (h : readLine o ops done n raw = .error d) : d.kind ≠ .empty := by
  have hexpr : ∀ {statement : Text} {f : Fault}, Expression.readParts ops statement = .error f →
      f.kind ≠ .empty := by
    intro statement f hf
    simp [Expression.kind_of_readParts_error hf]
  rcases readLine_error_cases h with ⟨_, _, rfl⟩ | ⟨_, _, f, _, hf, rfl⟩ | ⟨_, _, _, rfl⟩ |
    ⟨_, f, _, _, hf, rfl⟩
  · simp [Diagnostic.ofFault, Fault.kind]
  · exact hexpr hf
  · simp [Diagnostic.ofFault, Fault.kind]
  · exact hexpr hf

/-- Only the end of a text can show that it is empty. -/
theorem run_error_kind {ops : OperatorTable} {n : Nat} {done : List Assignment} {lines : List Text}
    {d : Diagnostic} (h : run o ops n done lines = .error d) : d.kind ≠ .empty := by
  induction lines generalizing n done with
  | nil => cases h
  | cons raw lines ih =>
    rw [run_cons] at h
    cases hr : readLine o ops done (n + 1) raw with
    | error d' =>
      rw [hr] at h
      cases h
      exact readLine_error_kind hr
    | ok done' =>
      rw [hr] at h
      exact ih h

theorem complete_error {done : List Assignment} {d : Diagnostic} (h : complete o done = .error d) :
    d = .ofFault .noAssignments o.file [] 0 := by
  unfold complete at h
  split at h
  · cases h
    rfl
  · cases h

/-- A text is refused at the end, or because of the lines up to the reported one. -/
theorem parse_error_cases {t : Text} {d : Diagnostic} (h : parse o t = .error d) :
    d = .ofFault .noAssignments o.file [] 0 ∨ run o o.table 0 [] (Line.physical t) = .error d := by
  rw [parse_eq_run] at h
  cases hr : run o o.table 0 [] (Line.physical t) with
  | error d' =>
    rw [hr] at h
    cases h
    exact .inr rfl
  | ok done =>
    rw [hr] at h
    exact .inl (complete_error h)

theorem parse_error_file {t : Text} {d : Diagnostic} (h : parse o t = .error d) :
    d.file = o.file := by
  rcases parse_error_cases h with rfl | hr
  · rfl
  · exact (run_error_local hr).1

/-- Texts that agree up to the reported line are refused alike. -/
theorem parse_error_local {t u : Text} {d : Diagnostic} (h : parse o t = .error d)
    (hk : d.kind ≠ .empty)
    (hu : (Line.physical u).take d.line.toNat = (Line.physical t).take d.line.toNat) :
    parse o u = .error d := by
  rcases parse_error_cases h with rfl | hr
  · exact absurd rfl hk
  · obtain ⟨-, before, raw, after, hl, hline, hlocal⟩ := run_error_local hr
    have hn : d.line.toNat = before.length + 1 := by omega
    have htake : (Line.physical u).take (before.length + 1) = before ++ [raw] := by
      rw [← hn, hu, hn, hl, List.take_length_add_append]
      rfl
    have hsplit : before ++ raw :: (Line.physical u).drop (before.length + 1) = Line.physical u := by
      rw [List.append_cons, ← htake]
      exact List.take_append_drop _ _
    rw [parse_eq_run, ← hsplit, hlocal]
    rfl

/-- A text is a script exactly when its first visible line is an assignment line and none is
ill-formed. Otherwise the report is about the first line that is wrong, if any line is visible, and
depends on nothing behind it. -/
theorem parse_outcome (o : ParseOptions) (t : Text) :
    (∀ line text, report (parse o t) = some (.empty, line, text) ↔
      (∀ raw ∈ Line.physical t, Line.kind o raw = .blank) ∧ line = 0 ∧ text = []) ∧
    (∀ line raw, report (parse o t) = some (.misplaced, line, raw) ↔
      FirstAt (Line.Visible o) (Line.physical t) line raw ∧ Line.kind o raw = .expression) ∧
    (∀ line text, report (parse o t) = some (.malformed, line, text) ↔
      Opens o (Line.physical t) .assignment ∧
      ∃ raw, FirstAt (Line.Faulty o) (Line.physical t) line raw ∧ Line.IllFormed o raw text) ∧
    ((∃ s, parse o t = .ok s) ↔
      Opens o (Line.physical t) .assignment ∧ ∀ raw ∈ Line.physical t, ¬ Line.Faulty o raw) ∧
    ∀ d, parse o t = .error d → d.file = o.file ∧ (d.kind ≠ .empty → ∀ u,
      (Line.physical u).take d.line.toNat = (Line.physical t).take d.line.toNat →
      parse o u = .error d) := by
  refine ⟨fun line text => ?_, fun line raw => ?_, fun line text => ?_, ?_, fun d hd => ?_⟩
  · rw [report_eq_iff_verdict]
    constructor
    · intro hv
      cases hv with
      | empty hb => exact ⟨hb, rfl, rfl⟩
    · rintro ⟨hb, rfl, rfl⟩
      exact .empty hb
  · rw [report_eq_iff_verdict]
    constructor
    · intro hv
      cases hv with
      | misplaced hf hk => exact ⟨hf, hk⟩
    · rintro ⟨hf, hk⟩
      exact .misplaced hf hk
  · rw [report_eq_iff_verdict]
    constructor
    · intro hv
      cases hv with
      | malformed ho hm hi => exact ⟨ho, _, hm, hi⟩
    · rintro ⟨ho, raw, hm, hi⟩
      exact .malformed ho hm hi
  · have hok : (∃ s, parse o t = .ok s) ↔ report (parse o t) = none := by
      cases parse o t <;> simp [report]
    rw [hok, report_eq_iff_verdict]
    constructor
    · intro hv
      cases hv with
      | accepted ho hn => exact ⟨ho, hn⟩
    · rintro ⟨ho, hn⟩
      exact .accepted ho hn
  · exact ⟨parse_error_file hd, fun hk u hu => parse_error_local hd hk hu⟩

/-- A colon behind the first column does not help a line that begins with a colon, although all that
follows the first colon is an expression. -/
theorem nameless_line_refused :
    Line.physical (utf8 ":a:b") = [utf8 ":a:b"] ∧
    Line.classify false (utf8 ":a:b") = (.assignment, utf8 ":a:b") ∧
    (utf8 ":a:b")[2]? = some colon ∧
    Expression.read (ParseOptions.table {}) (utf8 ":a:b") (utf8 "a:b") 1 =
      .ok ⟨none, utf8 "a:b", utf8 "a:b", utf8 ":a:b", 1⟩ ∧
    parse {} (utf8 ":a:b") = .error (.ofFault .missingColon [] (utf8 ":a:b") 1) := by
  decide +kernel

end Script
end RouteScript
