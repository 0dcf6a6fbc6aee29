import RouteScript.Proofs.Grammar
import RouteScript.Proofs.MovedLines
import RouteScript.Proofs.ParsedScripts

/-!
# Texts put together

A text behind another one is read as it would be by itself, with its lines counted on
(`parse_append`). Two facts about runs give this. The assignments read before are left alone except
by an indented line right behind them, and such a line is what reading the second text by itself
reports as misplaced (`run_frame`). And the numbers of the lines matter only as numbers
(`run_shift`).
-/

namespace RouteScript

open Text

def Expression.shift (k : Nat) (e : Expression) : Expression := { e with line := e.line + k }

/-- The assignment `k` lines further down. -/
def Assignment.shift (k : Nat) (a : Assignment) : Assignment :=
  { a with line := a.line + k, expressions := a.expressions.map (Expression.shift k) }

def Diagnostic.shift (k : Nat) (d : Diagnostic) : Diagnostic := { d with line := d.line + k }

section Shift

variable {k : Nat}

theorem eq_map_of_forall₂ {α β : Type} {f : α → β} {xs : List α} {ys : List β}
    (h : List.Forall₂ (fun x y => y = f x) xs ys) : ys = xs.map f := by
  induction h with
  | nil => rfl
  | cons hxy _ ih => rw [hxy, ih, List.map_cons]

theorem Expression.Moved.eq_shift {e e' : Expression}
    (h : e.Moved (fun m n => n = m + k) Eq e') : e' = e.shift k := by
  obtain ⟨hc, hv, hs, hr, hl⟩ := h
  cases e'
  simp_all [Expression.shift]

theorem Assignment.Moved.eq_shift {a a' : Assignment}
    (h : a.Moved (fun m n => n = m + k) Eq a') : a' = a.shift k := by
  obtain ⟨hn, hl, he⟩ := h
  have hes : a'.expressions = a.expressions.map (Expression.shift k) :=
    eq_map_of_forall₂ (he.imp fun _ _ h => h.eq_shift)
  cases a'
  simp_all [Assignment.shift]

theorem Diagnostic.Moved.eq_shift {d d' : Diagnostic}
    (h : d.Moved (fun m n => n = m + k) Eq d') : d' = d.shift k := by
  obtain ⟨hf, hm, hh, hk, ht, hl⟩ := h
  cases d'
  simp_all [Diagnostic.shift]

end Shift

namespace Script

variable {o : ParseOptions} {ops : OperatorTable}

theorem aligned_shift (k n : Nat) (ls : List Text) :
    Line.Aligned (fun m n => n = m + k) Eq o n ls (n + k) ls := by
  induction ls generalizing n with
  | nil => exact .nil
  | cons raw ls ih =>
    have hrest := ih (n + 1)
    rw [show n + 1 + k = n + k + 1 by omega] at hrest
    exact .same rfl (by omega) rfl hrest

/-- A run that starts `k` lines further down differs from the run at the top in all line numbers. -/
theorem run_shift (o : ParseOptions) (ops : OperatorTable) (k : Nat) (ls : List Text) :
    run o ops k [] ls = ((run o ops 0 [] ls).map (List.map (Assignment.shift k))).mapError
      (Diagnostic.shift k) := by
  have h : Agree (fun m n => n = m + k) Eq (run o ops 0 [] ls) (run o ops (0 + k) [] ls) :=
    run_agree (fun _ => rfl) (aligned_shift k 0 ls) .nil
  rw [Nat.zero_add] at h
  generalize run o ops 0 [] ls = x at h ⊢
  generalize run o ops k [] ls = y at h ⊢
  cases h with
  | ok hd =>
    rw [eq_map_of_forall₂ (hd.imp fun _ _ h => h.eq_shift)]
    rfl
  | error hm =>
    rw [hm.eq_shift]
    rfl

theorem readLine_frame {done : List Assignment} {n : Nat} {raw : Text}
    (h : ∀ d, readLine o ops done n raw = .error d → d.kind ≠ .misplaced)
    (base : List Assignment) :
    readLine o ops (done ++ base) n raw = (readLine o ops done n raw).map (· ++ base) := by
  rw [readLine_eq, readLine_eq]
  rw [readLine_eq] at h
  generalize Line.content o.allowTab raw = c at h ⊢
  cases c with
  | nothing => rfl
  | nameless statement => rfl
  | head name inline =>
    cases inline with
    | none => rfl
    | some statement => dsimp only; cases readExpression o ops n raw statement <;> rfl
  | indented statement =>
    cases done with
    | nil => exact absurd rfl (h (.ofFault .expressionFirst o.file raw n) rfl)
    | cons a before => dsimp only; cases readExpression o ops n raw statement <;> rfl

/-- Unless a line is misplaced, a run does not look at assignments below those it starts with. -/
theorem run_frame {ls : List Text} {n : Nat} {done : List Assignment}
    (h : ∀ d, run o ops n done ls = .error d → d.kind ≠ .misplaced) (base : List Assignment) :
    run o ops n (done ++ base) ls = (run o ops n done ls).map (· ++ base) := by
  induction ls generalizing n done with
  | nil => rfl
  | cons raw ls ih =>
    rw [run_cons] at h
    have hstep : ∀ d, readLine o ops done (n + 1) raw = .error d → d.kind ≠ .misplaced := by
      intro d hd
      exact h d (by rw [hd]; rfl)
    rw [run_cons, run_cons, readLine_frame hstep]
    cases hr : readLine o ops done (n + 1) raw with
    | error d => rfl
    | ok done' =>
      rw [hr] at h
      exact ih h

/-- Lines behind others, none of them misplaced, are read as if they stood by themselves. -/
theorem run_behind {ls : List Text} (h : ∀ d, run o ops 0 [] ls = .error d → d.kind ≠ .misplaced)
    (k : Nat) (base : List Assignment) : run o ops k base ls =
      ((run o ops 0 [] ls).map (fun done => done.map (Assignment.shift k) ++ base)).mapError
        (Diagnostic.shift k) := by
  have hshift := run_shift o ops k ls
  have hframe : ∀ d, run o ops k [] ls = .error d → d.kind ≠ .misplaced := by
    rw [hshift]
    intro d hd
    cases hr : run o ops 0 [] ls with
    | ok done =>
      rw [hr] at hd
      cases hd
    | error d' =>
      rw [hr] at hd
      cases hd
      exact h d' hr
  have hbase := run_frame hframe base
  rw [List.nil_append] at hbase
  rw [hbase, hshift]
  cases run o ops 0 [] ls <;> rfl

/-- A text behind a script that ends with a line feed adds its own assignments, adds nothing if it
is empty, and fails as it does by itself if it is malformed; its lines are counted on. -/
theorem parse_append (o : ParseOptions) {t u : Text} {s : Script} (h : parse o t = .ok s)
    (hend : t.getLast? = some lf) (hu : Line.isMarked u = false) :
    (∀ s', parse o u = .ok s' → parse o (t ++ u) =
      .ok (s ++ s'.map (Assignment.shift (Line.physical t).length))) ∧
    (∀ d, parse o u = .error d → d.kind = .empty → parse o (t ++ u) = parse o t) ∧
    (∀ d, parse o u = .error d → d.kind = .malformed → parse o (t ++ u) =
      .error (d.shift (Line.physical t).length)) := by
  have hrun : run o o.table 0 [] (Line.physical (t ++ u)) =
      run o o.table (Line.physical t).length s.reverse (Line.physical u) := by
    rw [Line.physical_append hend hu, run_append, (parse_ok h).2, Nat.zero_add]
    rfl
  have hne : s ≠ [] := (parse_ok h).1
  rw [parse_eq_run (t ++ u), parse_eq_run u, hrun, h]
  cases hr : run o o.table 0 [] (Line.physical u) with
  | ok done =>
    have hdone : (run o o.table (Line.physical t).length s.reverse (Line.physical u)).bind
        (complete o) = .ok (s ++ done.reverse.map (Assignment.shift (Line.physical t).length)) := by
      rw [run_behind (by simp [hr]), hr]
      simp [Except.map, Except.mapError, Except.bind, complete, hne]
    rw [hdone]
    refine ⟨fun s' hs' => ?_, fun d hd hk => ?_, fun d hd hk => ?_⟩
    · rw [(complete_ok hs').1]
    · cases done with
      | nil => simp
      | cons a before => cases hd
    · rw [complete_error hd] at hk
      cases hk
  | error d =>
    refine ⟨fun s' hs' => ?_, fun d' hd' hk => ?_, fun d' hd' hk => ?_⟩
    · cases hs'
    · cases hd'
      exact absurd hk (run_error_kind hr)
    · cases hd'
      have hplace : ∀ e, run o o.table 0 [] (Line.physical u) = .error e → e.kind ≠ .misplaced := by
        intro e he
        rw [hr] at he
        cases he
        simp [hk]
      rw [run_behind hplace, hr]
      rfl

/-- A marked script with a comment at its end, continued by a script, by a comment and by a script
with a fault. -/
theorem parse_append_continued :
    parse {} (utf8 "\uFEFFa: 1\r\n#\nb: x == y ? 2\n  3\n") = .ok
      ([⟨utf8 "a", 1, [⟨none, utf8 "1", utf8 "1", utf8 "a: 1", 1⟩]⟩] ++
        [Assignment.shift 2 ⟨utf8 "b", 1, [⟨some ⟨utf8 "x", utf8 "==", utf8 "y"⟩, utf8 "2",
          utf8 "x == y ? 2", utf8 "b: x == y ? 2", 1⟩,
          ⟨none, utf8 "3", utf8 "3", utf8 "  3", 2⟩]⟩]) ∧
    parse {} (utf8 "\uFEFFa: 1\r\n#\n  # note") = parse {} (utf8 "\uFEFFa: 1\r\n#\n") ∧
    parse {} (utf8 "\uFEFFa: 1\r\n#\nb: 2\n\nc") =
      .error (.shift 2 (.ofFault .missingColon [] (utf8 "c") 3)) := by
  have ht : parse {} (utf8 "\uFEFFa: 1\r\n#\n") =
      .ok [⟨utf8 "a", 1, [⟨none, utf8 "1", utf8 "1", utf8 "a: 1", 1⟩]⟩] := by decide +kernel
  have hb : parse {} (utf8 "b: x == y ? 2\n  3\n") = .ok [⟨utf8 "b", 1,
      [⟨some ⟨utf8 "x", utf8 "==", utf8 "y"⟩, utf8 "2", utf8 "x == y ? 2", utf8 "b: x == y ? 2", 1⟩,
        ⟨none, utf8 "3", utf8 "3", utf8 "  3", 2⟩]⟩] := by decide +kernel
  have happend := fun u => parse_append {} (u := u) ht (by decide +kernel)
  refine ⟨?_, ?_, ?_⟩
  · exact (happend (utf8 "b: x == y ? 2\n  3\n") (by decide +kernel)).1 _ hb
  · exact (happend (utf8 "  # note") (by decide +kernel)).2.1
      (.ofFault .noAssignments [] [] 0) (by decide +kernel) rfl
  · exact (happend (utf8 "b: 2\n\nc") (by decide +kernel)).2.2
      (.ofFault .missingColon [] (utf8 "c") 3) (by decide +kernel) rfl

end Script
end RouteScript
