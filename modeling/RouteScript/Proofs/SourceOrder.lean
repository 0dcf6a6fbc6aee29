import Mathlib.Data.List.Basic
import RouteScript.Proofs.Grammar
import RouteScript.Proofs.ParsedScripts

/-!
# Scripts in source order

A script read entry by entry, the head of each assignment in front of its expressions, is the list of
what the source lines contribute one after the other (`entries_parse`): no line is lost, read twice,
moved or put under another assignment. What a line contributes is said by `Line.entries` from its
bytes, without regard to the lines around it. The entries of numbered lines stand in order
(`ordered_entriesOf`), so the line numbers in a script increase the way they should.
-/

namespace RouteScript

open Text

/-- A part of a script that has a place of its own in the source. -/
inductive Script.Entry where
  | head (line : Int) (name : Text)
  | expression (line : Int) (raw statement : Text)
  deriving DecidableEq, Repr

def Expression.entry (e : Expression) : Script.Entry := .expression e.line e.raw e.statement

def Assignment.entries (a : Assignment) : List Script.Entry :=
  .head a.line a.name :: a.expressions.map Expression.entry

def Script.entries (s : Script) : List Script.Entry := s.flatMap Assignment.entries

namespace Line

/-- What line `n` contributes to a script. The name of an assignment ends at the first colon of the
statement, and what is left behind the colon by trimming is an expression if it is not empty. -/
def entries (o : ParseOptions) (n : Nat) (raw : Text) : List Script.Entry :=
  let statement := trim (withoutComment raw)
  match kind o raw with
  | .blank => []
  | .expression => [.expression n raw statement]
  | .assignment =>
    let inline := trim ((statement.dropWhile (· ≠ colon)).drop 1)
    .head n (statement.takeWhile (· ≠ colon)) ::
      if inline = [] then [] else [.expression n raw inline]

def entriesOf (o : ParseOptions) (n : Nat) (lines : List Text) : List Script.Entry :=
  (lines.zipIdx n).flatMap fun p => entries o p.2 p.1

theorem entriesOf_cons (o : ParseOptions) (n : Nat) (raw : Text) (lines : List Text) :
    entriesOf o n (raw :: lines) = entries o n raw ++ entriesOf o (n + 1) lines := by
  rw [entriesOf, List.zipIdx_cons, List.flatMap_cons]
  rfl

variable {o : ParseOptions} {raw : Text}

theorem entries_of_nothing (h : content o.allowTab raw = .nothing) (n : Nat) :
    entries o n raw = [] := by
  have hk : kind o raw = .blank := content_eq_nothing_iff.1 h
  rw [entries, hk]

theorem entries_of_indented {statement : Text}
    (h : content o.allowTab raw = .indented statement) (n : Nat) :
    entries o n raw = [.expression n raw statement] := by
  have hcl := content_eq_indented_iff.1 h
  have hk : kind o raw = .expression := congrArg Prod.fst hcl
  have hs := (isStatement_of_classify (by simp) hcl).2
  rw [entries, hk, ← hs]

theorem entries_of_head {name : Text} {inline : Option Text}
    (h : content o.allowTab raw = .head name inline) (n : Nat) :
    entries o n raw = .head n name :: inline.toList.map (.expression n raw) := by
  obtain ⟨after, rfl, hcl, hcolon, -⟩ := content_eq_head_iff.1 h
  have hk : kind o raw = .assignment := congrArg Prod.fst hcl
  have hs := (isStatement_of_classify (by simp) hcl).2
  have hname : ∀ b ∈ name, decide (b ≠ colon) = true := by
    intro b hb
    have hne : b ≠ colon := fun he => hcolon (he ▸ hb)
    exact decide_eq_true hne
  have hfront : (name ++ colon :: after).takeWhile (· ≠ colon) = name := by
    rw [List.takeWhile_append_of_pos hname]
    simp
  have hback : (name ++ colon :: after).dropWhile (· ≠ colon) = colon :: after := by
    rw [List.dropWhile_append_of_pos hname]
    simp
  simp only [entries, hk, ← hs, hfront, hback, List.drop_succ_cons, List.drop_zero,
    inlineStatement]
  split
  · rfl
  · rfl

end Line

namespace Script

variable {o : ParseOptions} {ops : OperatorTable}

/-- A line adds its own entries behind those read before. -/
theorem entries_readLine {done done' : List Assignment} {n : Nat} {raw : Text}
    (h : readLine o ops done n raw = .ok done') :
    entries done'.reverse = entries done.reverse ++ Line.entries o n raw := by
  have hentry : ∀ {statement : Text} {e : Expression},
      readExpression o ops n raw statement = .ok e → e.entry = .expression n raw statement := by
    intro statement e he
    obtain ⟨c, v, -, rfl⟩ := readExpression_ok he
    rfl
  rcases readLine_ok_cases h with ⟨hc, rfl⟩ | ⟨name, hc, rfl⟩ | ⟨name, statement, e, hc, he, rfl⟩ |
    ⟨statement, a, before, e, hc, rfl, he, rfl⟩
  · rw [Line.entries_of_nothing hc, List.append_nil]
  · rw [Line.entries_of_head hc]
    simp [entries, Assignment.entries]
  · rw [Line.entries_of_head hc]
    simp [entries, Assignment.entries, hentry he]
  · -- The assignment that is extended is the last one in reading order.
    rw [Line.entries_of_indented hc]
    simp [entries, Assignment.entries, Assignment.add, hentry he]

theorem entries_run {lines : List Text} {done done' : List Assignment} {n : Nat}
    (h : run o ops n done lines = .ok done') :
    entries done'.reverse = entries done.reverse ++ Line.entriesOf o (n + 1) lines := by
  induction lines generalizing n done with
  | nil =>
    cases h
    simp [Line.entriesOf]
  | cons raw rest ih =>
    obtain ⟨d, hr, hrest⟩ := run_cons_ok h
    rw [ih hrest, entries_readLine hr, Line.entriesOf_cons, List.append_assoc]

end Script

namespace Script.Entry

def line : Entry → Int
  | head n _ => n
  | expression n _ _ => n

def isHead : Entry → Bool
  | head _ _ => true
  | expression _ _ _ => false

/-- The first entry stands in front of the second: on an earlier line, or at the head of its line. -/
def Before (x y : Entry) : Prop :=
  x.line < y.line ∨ x.line = y.line ∧ x.isHead = true ∧ y.isHead = false

end Script.Entry

namespace Line

variable {o : ParseOptions}

theorem line_of_mem_entries {n : Nat} {raw : Text} {x : Script.Entry} (h : x ∈ entries o n raw) :
    x.line = n := by
  unfold entries at h
  dsimp only at h
  split at h
  · cases h
  · rw [List.mem_singleton.1 h]
    rfl
  · rcases List.mem_cons.1 h with rfl | h
    · rfl
    · split at h
      · cases h
      · rw [List.mem_singleton.1 h]
        rfl

theorem ordered_entries (n : Nat) (raw : Text) :
    (entries o n raw).Pairwise Script.Entry.Before := by
  unfold entries
  dsimp only
  split
  · exact List.Pairwise.nil
  · exact List.pairwise_singleton _ _
  · split
    · exact List.pairwise_singleton _ _
    · exact List.pairwise_pair.2 (.inr ⟨rfl, rfl, rfl⟩)

theorem ordered_entriesOf (n : Nat) (lines : List Text) :
    (entriesOf o n lines).Pairwise Script.Entry.Before := by
  have hnumbers : (lines.zipIdx n).Pairwise (fun p q => p.2 < q.2) := by
    rw [← List.pairwise_map, List.zipIdx_map_snd]
    exact List.pairwise_lt_range'
  refine List.pairwise_flatMap.2 ⟨fun p _ => ordered_entries p.2 p.1, ?_⟩
  refine hnumbers.imp fun {p q} hlt x hx y hy => .inl ?_
  rw [line_of_mem_entries hx, line_of_mem_entries hy]
  exact_mod_cast hlt

end Line

namespace Script

/-- Entries in order mean line numbers in order: each assignment with its expressions stands in front
of the next one, and its expressions stand one below the other, none of them above its head. -/
theorem ordered_of_entries {s : Script} (h : (entries s).Pairwise Entry.Before) :
    s.Pairwise (fun a b => a.line < b.line ∧ ∀ e ∈ a.expressions, e.line < b.line) ∧
    ∀ a ∈ s, (∀ e ∈ a.expressions, a.line ≤ e.line) ∧
      a.expressions.Pairwise (fun e f => e.line < f.line) := by
  obtain ⟨hinside, hacross⟩ := List.pairwise_flatMap.1 h
  constructor
  · refine hacross.imp fun {a b} hab => ?_
    have hhead : Entry.head b.line b.name ∈ b.entries := List.mem_cons_self
    constructor
    · simpa [Entry.Before, Entry.line, Entry.isHead] using hab _ List.mem_cons_self _ hhead
    · intro e he
      have hmem : e.entry ∈ a.entries := List.mem_cons_of_mem _ (List.mem_map_of_mem he)
      simpa [Entry.Before, Entry.line, Entry.isHead, Expression.entry] using hab _ hmem _ hhead
  · intro a ha
    obtain ⟨hfirst, hrest⟩ := List.pairwise_cons.1 (hinside a ha)
    constructor
    · intro e he
      have hbefore := hfirst e.entry (List.mem_map_of_mem he)
      simp only [Entry.Before, Entry.line, Entry.isHead, Expression.entry] at hbefore
      omega
    · refine (List.pairwise_map.1 hrest).imp fun {e f} hef => ?_
      simpa [Entry.Before, Entry.line, Entry.isHead, Expression.entry] using hef

/-- A parsed script has exactly the entries of its source lines, in their order. So assignments
follow each other down the source, each expression stands on or below the line of its assignment and
above the next one, and no two expressions of an assignment share a line. -/
theorem entries_parse (o : ParseOptions) {t : Text} {s : Script} (h : parse o t = .ok s) :
    entries s = Line.entriesOf o 1 (Line.physical t) ∧
    s.Pairwise (fun a b => a.line < b.line ∧ ∀ e ∈ a.expressions, e.line < b.line) ∧
    ∀ a ∈ s, (∀ e ∈ a.expressions, a.line ≤ e.line) ∧
      a.expressions.Pairwise (fun e f => e.line < f.line) := by
  have hentries : entries s = Line.entriesOf o 1 (Line.physical t) := by
    have hrun := entries_run (parse_ok h).2
    rw [List.reverse_reverse] at hrun
    simpa [entries] using hrun
  refine ⟨hentries, ordered_of_entries ?_⟩
  rw [hentries]
  exact Line.ordered_entriesOf 1 _

/-- A marked first line, comments, all three terminators, an empty assignment and a second colon. -/
theorem entries_parse_mixed : ∃ s,
    parse {} (utf8 "\uFEFF# top\r\nv :\n\n  a == b ? 1:2 # x\r  3\rw: x: y\n  \nz:") = .ok s ∧
    entries s = [.head 2 (utf8 "v "),
      .expression 4 (utf8 "  a == b ? 1:2 # x") (utf8 "a == b ? 1:2"),
      .expression 5 (utf8 "  3") (utf8 "3"), .head 6 (utf8 "w"),
      .expression 6 (utf8 "w: x: y") (utf8 "x: y"), .head 8 (utf8 "z")] ∧
    s.Pairwise (fun a b => a.line < b.line ∧ ∀ e ∈ a.expressions, e.line < b.line) := by
  have h : parse {} (utf8 "\uFEFF# top\r\nv :\n\n  a == b ? 1:2 # x\r  3\rw: x: y\n  \nz:") = .ok
      [⟨utf8 "v ", 2, [⟨some ⟨utf8 "a", utf8 "==", utf8 "b"⟩, utf8 "1:2", utf8 "a == b ? 1:2",
          utf8 "  a == b ? 1:2 # x", 4⟩, ⟨none, utf8 "3", utf8 "3", utf8 "  3", 5⟩]⟩,
        ⟨utf8 "w", 6, [⟨none, utf8 "x: y", utf8 "x: y", utf8 "w: x: y", 6⟩]⟩,
        ⟨utf8 "z", 8, []⟩] := by decide +kernel
  obtain ⟨hentries, horder, -⟩ := entries_parse {} h
  exact ⟨_, h, hentries.trans (by decide +kernel), horder⟩

end Script
end RouteScript
