import RouteScript.Proofs.FieldCuts
import RouteScript.Proofs.ParsedScripts

/-!
# The choice of operators

What a text is read as depends on the operator table as a set. Tables with the same tokens read alike;
only the hint in a diagnostic may name another token (`parse_eq_of_same_tokens`). Further words never
change what is read, they only make more texts scripts (`parse_with_words`): a word is used in three
fields alone, and three fields that can be cut at a symbolic token have no word in the middle.

Both follow from what happens to one statement, since a relation between outcomes that respects
sequences of steps passes from statements to lines, runs and texts (`parse_related`).
-/

namespace RouteScript

open Text

namespace OperatorTable

/-- The second table has the tokens of the first one and perhaps further words. -/
structure AddsWords (ops ops' : OperatorTable) : Prop where
  kept : ∀ t ∈ ops.tokens, t ∈ ops'.tokens
  added : ∀ t ∈ ops'.tokens, t ∈ ops.tokens ∨ isSymbolic t = false

variable {ops ops' : OperatorTable}

theorem AddsWords.of_same_tokens (h : ∀ t, t ∈ ops.tokens ↔ t ∈ ops'.tokens) : ops.AddsWords ops' :=
  ⟨fun t => (h t).1, fun t ht => .inl ((h t).2 ht)⟩

theorem AddsWords.symbolic_iff (h : ops.AddsWords ops') (t : Text) :
    t ∈ ops.symbolic ↔ t ∈ ops'.symbolic := by
  rw [mem_symbolic_iff, mem_symbolic_iff]
  constructor
  · rintro ⟨ht, hs⟩
    exact ⟨h.kept t ht, hs⟩
  · rintro ⟨ht, hs⟩
    rcases h.added t ht with hold | hword
    · exact ⟨hold, hs⟩
    · rw [hs] at hword
      cases hword

theorem AddsWords.split?_eq (h : ops.AddsWords ops') (s : Text) : ops.split? s = ops'.split? s :=
  split?_congr h.symbolic_iff s

end OperatorTable

open OperatorTable

variable {ops ops' : OperatorTable}

/-- Further words leave the conditions that are read as they are. -/
theorem Condition.read_ok_of_addsWords (h : ops.AddsWords ops') {s : Text} {c : Condition}
    (hc : Condition.read ops s = .ok c) : Condition.read ops' s = .ok c := by
  unfold Condition.read at hc ⊢
  rw [← h.split?_eq]
  by_cases hs : s = []
  · simp [hs] at hc
  rw [if_neg hs] at hc ⊢
  split at hc
  · next f m l hf =>
    by_cases hm : ops.has m = true
    · have hm' : ops'.has m = true := has_iff_mem.2 (h.kept m (has_iff_mem.1 hm))
      simpa [hm, hm'] using hc
    · rw [if_neg hm] at hc
      cases hsplit : ops.split? s with
      | none => simp [hsplit] at hc
      | some parts =>
        -- The middle field is no word, so it cannot be a new token either.
        have hsymbolic : isSymbolic m = true := isSymbolic_of_split? hf hsplit
        have hm' : ¬ ops'.has m = true := by
          intro hm'
          rcases h.added m (has_iff_mem.1 hm') with hold | hword
          · exact hm (has_iff_mem.2 hold)
          · rw [hsymbolic] at hword
            cases hword
        rw [hsplit] at hc
        simpa [hm'] using hc
  · exact hc

theorem Expression.readParts_ok_of_addsWords (h : ops.AddsWords ops') {statement : Text}
    {parts : Option Condition × Text} (hp : readParts ops statement = .ok parts) :
    readParts ops' statement = .ok parts := by
  unfold readParts at hp ⊢
  split at hp
  · exact hp
  · next before after _ =>
    cases hc : Condition.read ops (trim before) with
    | error f => simp [hc, bind, Except.bind] at hp
    | ok c =>
      rw [hc] at hp
      rw [Condition.read_ok_of_addsWords h hc]
      exact hp

/-- Outcomes that agree up to what a map forgets of their errors. -/
theorem cases_of_mapError_eq {ε δ α : Type} {f : ε → δ} {x y : Except ε α}
    (h : x.mapError f = y.mapError f) :
    (∃ a, x = .ok a ∧ y = .ok a) ∨ ∃ d d', x = .error d ∧ y = .error d' ∧ f d = f d' := by
  cases x with
  | ok a =>
    cases y with
    | ok b =>
      cases h
      exact .inl ⟨a, rfl, rfl⟩
    | error d' => cases h
  | error d =>
    cases y with
    | ok b => cases h
    | error d' => exact .inr ⟨d, d', rfl, rfl, Except.error.inj h⟩

def Fault.withoutHint : Fault → Fault
  | .unknownOperator t _ => .unknownOperator t none
  | f => f

def Diagnostic.withoutHint (d : Diagnostic) : Diagnostic := { d with hint := [] }

theorem Diagnostic.withoutHint_ofFault (f : Fault) (file text : Text) (line : Int) :
    (ofFault f file text line).withoutHint = ofFault f.withoutHint file text line := by
  cases f <;> rfl

theorem Diagnostic.eq_of_withoutHint_eq {d d' : Diagnostic} (h : d.withoutHint = d'.withoutHint) :
    d' = { d with hint := d'.hint } := by
  cases d
  cases d'
  simp_all [withoutHint]

theorem Condition.read_without_hints (h : ∀ t, t ∈ ops.tokens ↔ t ∈ ops'.tokens) (s : Text) :
    (Condition.read ops s).mapError Fault.withoutHint =
      (Condition.read ops' s).mapError Fault.withoutHint := by
  have hhas : ∀ t, ops.has t = ops'.has t := by
    intro t
    rw [Bool.eq_iff_iff, has_iff_mem, has_iff_mem, h]
  unfold Condition.read
  rw [(AddsWords.of_same_tokens h).split?_eq]
  by_cases hs : s = []
  · simp [hs]
  rw [if_neg hs, if_neg hs]
  split
  · next f m l hf =>
    rw [hhas]
    by_cases hm : ops'.has m = true
    · simp [hm]
    · rw [if_neg hm, if_neg hm]
      cases ops'.split? s <;> rfl
  · rfl

theorem Expression.readParts_without_hints (h : ∀ t, t ∈ ops.tokens ↔ t ∈ ops'.tokens)
    (statement : Text) : (readParts ops statement).mapError Fault.withoutHint =
      (readParts ops' statement).mapError Fault.withoutHint := by
  unfold readParts
  split
  · rfl
  · next before after _ =>
    rcases cases_of_mapError_eq (Condition.read_without_hints h (trim before)) with
      ⟨c, hx, hy⟩ | ⟨f, f', hx, hy, hf⟩
    · rw [hx, hy]
    · rw [hx, hy]
      exact congrArg Except.error hf

namespace Script

/-- A relation between outcomes that respects sequences of steps. -/
structure Compatible (Q : (α : Type) → Except Diagnostic α → Except Diagnostic α → Prop) : Prop where
  refl : ∀ (α : Type) (x : Except Diagnostic α), Q α x x
  bind : ∀ (α β : Type) (x y : Except Diagnostic α) (f g : α → Except Diagnostic β),
    Q α x y → (∀ a, Q β (f a) (g a)) → Q β (x.bind f) (y.bind g)

section Related

variable {Q : (α : Type) → Except Diagnostic α → Except Diagnostic α → Prop} (hQ : Compatible Q)
include hQ

theorem Compatible.map {α β : Type} {x y : Except Diagnostic α} (f : α → β) (h : Q α x y) :
    Q β (x.map f) (y.map f) := by
  have hmap : ∀ z : Except Diagnostic α, z.map f = z.bind fun a => .ok (f a) := by
    intro z
    cases z <;> rfl
  rw [hmap, hmap]
  exact hQ.bind _ _ _ _ _ _ h fun a => hQ.refl _ _

variable {o o' : ParseOptions} (hfile : o'.file = o.file) (htab : o'.allowTab = o.allowTab)
  (h : ∀ n raw statement, Q Expression (readExpression o ops n raw statement)
    (readExpression o' ops' n raw statement))
include hfile htab h

theorem readLine_related (done : List Assignment) (n : Nat) (raw : Text) :
    Q _ (readLine o ops done n raw) (readLine o' ops' done n raw) := by
  rw [readLine_eq, readLine_eq, htab, hfile]
  cases Line.content o.allowTab raw with
  | nothing => exact hQ.refl _ _
  | nameless statement => exact hQ.refl _ _
  | head name inline =>
    cases inline with
    | none => exact hQ.refl _ _
    | some statement => exact hQ.map _ (h n raw statement)
  | indented statement =>
    cases done with
    | nil => exact hQ.refl _ _
    | cons a before => exact hQ.map _ (h n raw statement)

theorem run_related (n : Nat) (done : List Assignment) (ls : List Text) :
    Q _ (run o ops n done ls) (run o' ops' n done ls) := by
  induction ls generalizing n done with
  | nil => exact hQ.refl _ _
  | cons raw ls ih =>
    have hline := readLine_related hQ hfile htab h done (n + 1) raw
    rw [run_cons, run_cons]
    exact hQ.bind _ _ _ _ _ _ hline fun done' => ih (n + 1) done'

end Related

theorem parse_related {Q : (α : Type) → Except Diagnostic α → Except Diagnostic α → Prop}
    (hQ : Compatible Q) {o o' : ParseOptions} (hfile : o'.file = o.file)
    (htab : o'.allowTab = o.allowTab)
    (h : ∀ n raw statement, Q Expression (readExpression o o.table n raw statement)
      (readExpression o' o'.table n raw statement)) (t : Text) :
    Q Script (parse o t) (parse o' t) := by
  have hrun := run_related hQ hfile htab h 0 [] (Line.physical t)
  have hcomplete : complete o = complete o' := by
    funext done
    rw [complete, complete, hfile]
  rw [parse_eq_run, parse_eq_run, hcomplete]
  exact hQ.bind _ _ _ _ _ _ hrun fun done => hQ.refl _ _

theorem compatible_success : Compatible fun _ x y => ∀ a, x = .ok a → y = .ok a where
  refl := fun _ _ _ h => h
  bind := by
    intro α β x y f g hxy hfg b hb
    cases x with
    | error d => cases hb
    | ok a =>
      rw [hxy a rfl]
      exact hfg a b hb

theorem compatible_withoutHint :
    Compatible fun _ x y => x.mapError Diagnostic.withoutHint = y.mapError Diagnostic.withoutHint where
  refl := fun _ _ => rfl
  bind := by
    intro α β x y f g hxy hfg
    rcases cases_of_mapError_eq hxy with ⟨a, rfl, rfl⟩ | ⟨d, d', rfl, rfl, hd⟩
    · exact hfg a
    · exact congrArg Except.error hd

variable {o o' : ParseOptions}

theorem readExpression_without_hints (hfile : o'.file = o.file)
    (h : ∀ t, t ∈ ops.tokens ↔ t ∈ ops'.tokens) (n : Nat) (raw statement : Text) :
    (readExpression o ops n raw statement).mapError Diagnostic.withoutHint =
      (readExpression o' ops' n raw statement).mapError Diagnostic.withoutHint := by
  rw [readExpression_eq, readExpression_eq, hfile]
  rcases cases_of_mapError_eq (Expression.readParts_without_hints h statement) with
    ⟨parts, hx, hy⟩ | ⟨f, f', hx, hy, hf⟩
  · rw [hx, hy]
  · rw [hx, hy]
    simp only [Except.mapError, Diagnostic.withoutHint_ofFault, hf]

/-- Tables with the same tokens, in whatever order and however often they were given, read a text
alike. Both readings succeed with one script, or both report the same with perhaps another hint. -/
theorem parse_eq_of_same_tokens (o o' : ParseOptions) (hfile : o'.file = o.file)
    (htab : o'.allowTab = o.allowTab) (h : ∀ t, t ∈ o.table.tokens ↔ t ∈ o'.table.tokens) (t : Text) :
    (∃ s, parse o t = .ok s ∧ parse o' t = .ok s) ∨
    ∃ d hint, parse o t = .error d ∧ parse o' t = .error { d with hint } := by
  have hparse := parse_related compatible_withoutHint hfile htab
    (fun n raw statement => readExpression_without_hints hfile h n raw statement) t
  rcases cases_of_mapError_eq hparse with ⟨s, hx, hy⟩ | ⟨d, d', hx, hy, hd⟩
  · exact .inl ⟨s, hx, hy⟩
  · exact .inr ⟨d, d'.hint, hx, hy.trans (congrArg _ (Diagnostic.eq_of_withoutHint_eq hd))⟩

/-- Three tokens in two orders, one of them given twice: a compact condition is cut alike, and a
mistyped operator has another hint. -/
theorem parse_eq_of_same_tokens_permuted :
    (∃ s, parse { operators := [utf8 "le", utf8 "<=", utf8 "el"] } (utf8 "v: a<=b ? 1") = .ok s ∧
      parse { operators := [utf8 "el", utf8 "le"], extraOperators := [utf8 "<=", utf8 "el"] }
        (utf8 "v: a<=b ? 1") = .ok s) ∧
    ∃ d hint,
      parse { operators := [utf8 "le", utf8 "<=", utf8 "el"] } (utf8 "v: a l b ? 1") = .error d ∧
      parse { operators := [utf8 "el", utf8 "le"], extraOperators := [utf8 "<=", utf8 "el"] }
        (utf8 "v: a l b ? 1") = .error { d with hint } ∧ hint ≠ d.hint := by
  have hparse := parse_eq_of_same_tokens { operators := [utf8 "le", utf8 "<=", utf8 "el"] }
    { operators := [utf8 "el", utf8 "le"], extraOperators := [utf8 "<=", utf8 "el"] } rfl rfl ?_
  · constructor
    · rcases hparse (utf8 "v: a<=b ? 1") with hs | ⟨d, hint, hd, -⟩
      · exact hs
      · have hok : (parse { operators := [utf8 "le", utf8 "<=", utf8 "el"] }
            (utf8 "v: a<=b ? 1")).isOk = true := by decide +kernel
        rw [hd] at hok
        cases hok
    · have hx : parse { operators := [utf8 "le", utf8 "<=", utf8 "el"] } (utf8 "v: a l b ? 1") =
          .error (.ofFault (.unknownOperator (utf8 "l") (some (utf8 "le"))) []
            (utf8 "v: a l b ? 1") 1) := by decide +kernel
      have hy : parse { operators := [utf8 "el", utf8 "le"], extraOperators := [utf8 "<=", utf8 "el"] }
          (utf8 "v: a l b ? 1") = .error (.ofFault (.unknownOperator (utf8 "l") (some (utf8 "el")))
            [] (utf8 "v: a l b ? 1") 1) := by decide +kernel
      rcases hparse (utf8 "v: a l b ? 1") with ⟨s, hs, -⟩ | ⟨d, hint, hd, hd'⟩
      · cases hx.symm.trans hs
      · refine ⟨d, hint, hd, hd', ?_⟩
        have hhint := congrArg (fun x => x.mapError Diagnostic.hint) (hy.symm.trans hd')
        cases hx.symm.trans hd
        simp only [Except.mapError, Except.error.injEq] at hhint
        rw [← hhint]
        decide +kernel
  · have hx : (ParseOptions.table { operators := [utf8 "le", utf8 "<=", utf8 "el"] }).tokens =
        [utf8 "le", utf8 "<=", utf8 "el"] := by decide +kernel
    have hy : (ParseOptions.table
        { operators := [utf8 "el", utf8 "le"], extraOperators := [utf8 "<=", utf8 "el"] }).tokens =
        [utf8 "el", utf8 "le", utf8 "<="] := by decide +kernel
    intro t
    rw [hx, hy]
    simp only [List.mem_cons, List.not_mem_nil, or_false]
    tauto

/-- Words added to the table leave every script as it is. -/
theorem parse_ok_of_addsWords (o o' : ParseOptions) (hfile : o'.file = o.file)
    (htab : o'.allowTab = o.allowTab) (h : o.table.AddsWords o'.table) {t : Text} {s : Script}
    (hs : parse o t = .ok s) : parse o' t = .ok s := by
  refine parse_related compatible_success hfile htab (fun n raw statement e he => ?_) t s hs
  obtain ⟨c, v, hparts, rfl⟩ := readExpression_ok he
  rw [readExpression_eq, Expression.readParts_ok_of_addsWords h hparts]

theorem mem_table_iff {t : Text} : t ∈ o.table.tokens ↔ isOperatorToken t = true ∧
    (t ∈ o.extraOperators ∨ if (OperatorTable.ofList o.operators).tokens = [] then
      t ∈ OperatorTable.defaultTokens else t ∈ o.operators) := by
  simp only [ParseOptions.table, OperatorTable.ofList, mem_distinct, List.mem_filter,
    List.mem_append]
  by_cases hbase : distinct (o.operators.filter isOperatorToken) = []
  · simp only [hbase, ↓reduceIte]
    tauto
  · simp only [hbase, ↓reduceIte]
    tauto

theorem addsWords_of_extraOperators (o : ParseOptions) {words : List Text}
    (hw : ∀ w ∈ words, isSymbolic w = false) :
    o.table.AddsWords { o with extraOperators := o.extraOperators ++ words }.table where
  kept := fun t => by
    rw [mem_table_iff, mem_table_iff]
    rintro ⟨hu, hextra | hbase⟩
    · exact ⟨hu, .inl (List.mem_append_left _ hextra)⟩
    · exact ⟨hu, .inr hbase⟩
  added := fun t => by
    rw [mem_table_iff, mem_table_iff]
    rintro ⟨hu, hextra | hbase⟩
    · rcases List.mem_append.1 hextra with hold | hnew
      · exact .inl ⟨hu, .inl hold⟩
      · exact .inr (hw t hnew)
    · exact .inl ⟨hu, .inr hbase⟩

/-- Further operators that are words, with a letter, a digit or an underscore in each, leave every
script as it is. -/
theorem parse_with_words (o : ParseOptions) (words : List Text)
    (hw : ∀ w ∈ words, isSymbolic w = false) {t : Text} {s : Script} (hs : parse o t = .ok s) :
    parse { o with extraOperators := o.extraOperators ++ words } t = .ok s :=
  parse_ok_of_addsWords o { o with extraOperators := o.extraOperators ++ words } rfl rfl
    (addsWords_of_extraOperators o hw) hs

/-- A word that is also an operand, and one with a symbolic token inside. -/
theorem parse_with_words_as_operands : ∃ s,
    parse { operators := [utf8 ">="] } (utf8 "v:\n  in>=b ? 1\n  x >=y ? 2\n") = .ok s ∧
    parse { operators := [utf8 ">="], extraOperators := [utf8 "in", utf8 "x>=y"] }
      (utf8 "v:\n  in>=b ? 1\n  x >=y ? 2\n") = .ok s := by
  have hs : parse { operators := [utf8 ">="] } (utf8 "v:\n  in>=b ? 1\n  x >=y ? 2\n") =
      .ok [⟨utf8 "v", 1,
        [⟨some ⟨utf8 "in", utf8 ">=", utf8 "b"⟩, utf8 "1", utf8 "in>=b ? 1", utf8 "  in>=b ? 1", 2⟩,
          ⟨some ⟨utf8 "x", utf8 ">=", utf8 "y"⟩, utf8 "2", utf8 "x >=y ? 2", utf8 "  x >=y ? 2",
            3⟩]⟩] := by decide +kernel
  exact ⟨_, hs, parse_with_words { operators := [utf8 ">="] } [utf8 "in", utf8 "x>=y"]
    (by decide +kernel) hs⟩

end Script
end RouteScript
