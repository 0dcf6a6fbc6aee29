import Mathlib.Data.List.Forall2
import RouteScript.Format
import RouteScript.Proofs.PhysicalLines

/-!
# Written scripts

Writing a script succeeds exactly when every assignment is `Writable`, and the text written is then
the lines of the assignments in order, each with a line feed behind it (`format_eq_ok_iff`). The
lines depend on the layout of each assignment: its name, the conditions and values, and whether the
first expression shares the line of its assignment. Line numbers do not matter beyond that
(`writtenLines_congr`).
-/

namespace RouteScript

open Text

def IsToken (t : Text) : Prop := isSingle t = true ∧ question ∉ t ∧ hashSign ∉ t

structure Expression.Writable (e : Expression) : Prop where
  value_ne_nil : e.value ≠ []
  trimmed : trim e.value = e.value
  clean : hashSign ∉ e.value ∧ cr ∉ e.value ∧ lf ∉ e.value
  bare : e.condition = none → question ∉ e.value
  tokens : ∀ c, e.condition = some c → ∀ t ∈ [c.left, c.operator, c.right], IsToken t

/-- What the writer asks of a name. -/
structure IsName (name : Text) : Prop where
  visible : trim name ≠ []
  unindented : name.head?.any FormatOptions.isIndentByte = false
  clean : colon ∉ name ∧ hashSign ∉ name ∧ cr ∉ name ∧ lf ∉ name

/-- What the writer asks of an assignment. -/
structure Assignment.Writable (a : Assignment) : Prop where
  name : IsName a.name
  expressions : ∀ e ∈ a.expressions, e.Writable

theorem holdsAny_eq_false_iff {t bytes : Text} :
    t.holdsAny bytes = false ↔ ∀ b ∈ bytes, b ∉ t := by
  simp only [holdsAny, List.any_eq_false, List.contains_iff_mem]
  exact ⟨fun h b hb ht => h b ht hb, fun h b ht hb => h b hb ht⟩

theorem isInvalidToken_eq_false_iff {t : Text} : isInvalidToken t = false ↔ IsToken t := by
  simp [isInvalidToken, IsToken, holdsAny_eq_false_iff]

theorem nameFault?_eq_none_iff {name : Text} : nameFault? name = none ↔ IsName name := by
  have hc : name.holdsAny [colon, hashSign, cr, lf] = false ↔
      colon ∉ name ∧ hashSign ∉ name ∧ cr ∉ name ∧ lf ∉ name := by
    simp [holdsAny_eq_false_iff]
  unfold nameFault?
  constructor
  · intro h
    split at h
    · simp at h
    next hv =>
    split at h
    · simp at h
    next hi =>
    split at h
    · simp at h
    next hb => exact ⟨hv, by simpa using hi, hc.1 (by simpa using hb)⟩
  · rintro ⟨hv, hi, hb⟩
    rw [if_neg hv, hi, hc.2 hb]
    rfl

theorem expressionFault?_eq_none_iff {name : Text} {e : Expression} :
    expressionFault? name e = none ↔ e.Writable := by
  have hc : e.value.holdsAny [hashSign, cr, lf] = false ↔
      hashSign ∉ e.value ∧ cr ∉ e.value ∧ lf ∉ e.value := by
    simp [holdsAny_eq_false_iff]
  have ht : ∀ c : Condition, ([c.left, c.operator, c.right].find? isInvalidToken).map
      (FormatFault.invalidToken name) = none ↔ ∀ t ∈ [c.left, c.operator, c.right], IsToken t := by
    intro c
    simp only [Option.map_eq_none_iff, List.find?_eq_none, Bool.not_eq_true,
      isInvalidToken_eq_false_iff]
  unfold expressionFault?
  constructor
  · intro h
    split at h
    · simp at h
    next hp =>
    obtain ⟨hne, htrim⟩ := not_or.1 hp
    have htrim : trim e.value = e.value := Classical.not_not.1 htrim
    rw [htrim] at hne
    split at h
    · simp at h
    next hb =>
    have hb := hc.1 (by simpa using hb)
    split at h
    · next hn =>
      refine ⟨hne, htrim, hb, fun _ hq => ?_, fun c hcond => by simp [hn] at hcond⟩
      rw [if_pos hq] at h
      simp at h
    · next c hs =>
      refine ⟨hne, htrim, hb, fun hn => by simp [hs] at hn, fun c' hc' => ?_⟩
      rw [hs] at hc'
      cases hc'
      exact (ht c).1 h
  · rintro ⟨hne, htrim, hb, hbare, htokens⟩
    rw [if_neg (by rw [htrim]; exact not_or.2 ⟨hne, fun h => h rfl⟩), hc.2 hb]
    cases hcond : e.condition with
    | none => simp [hbare hcond]
    | some c => simpa using (ht c).2 (htokens c hcond)

namespace Pieces

/-- The pieces were written to their end and give the text. -/
def Writes (p : Pieces) (t : Text) : Prop := p.fault = none ∧ p.text = t

theorem writes_one_iff {u t : Text} : (one u).Writes t ↔ t = u := by
  simp [Writes, one, text, eq_comm]

theorem writes_nothing_iff {t : Text} : nothing.Writes t ↔ t = [] := by
  simp [Writes, nothing, text, eq_comm]

theorem writes_checked_iff {f : Option FormatFault} {p : Pieces} {t : Text} :
    (checked f p).Writes t ↔ f = none ∧ p.Writes t := by
  cases f <;> simp [checked, Writes]

theorem writes_andThen_iff {p q : Pieces} {t : Text} :
    (p.andThen q).Writes t ↔ ∃ u v, p.Writes u ∧ q.Writes v ∧ t = u ++ v := by
  simp only [Writes, andThen]
  cases hp : p.fault with
  | some f => simp [hp]
  | none => simp [text, eq_comm]

/-- Parts that are written under a condition each are written together under all of them. -/
theorem writes_all_map_iff {α : Type} {f : α → Pieces} {ok : α → Prop} {g : α → Text}
    (h : ∀ x t, (f x).Writes t ↔ ok x ∧ t = g x) (xs : List α) (t : Text) :
    (all (xs.map f)).Writes t ↔ (∀ x ∈ xs, ok x) ∧ t = xs.flatMap g := by
  induction xs generalizing t with
  | nil => simp [all, writes_nothing_iff]
  | cons x xs ih =>
    simp only [List.map_cons, all, writes_andThen_iff, h, ih, List.forall_mem_cons,
      List.flatMap_cons]
    constructor
    · rintro ⟨u, v, ⟨hx, rfl⟩, ⟨hxs, rfl⟩, rfl⟩
      exact ⟨⟨hx, hxs⟩, rfl⟩
    · rintro ⟨⟨hx, hxs⟩, rfl⟩
      exact ⟨_, _, ⟨hx, rfl⟩, ⟨hxs, rfl⟩, rfl⟩

end Pieces

namespace Assignment

/-- The expression on the line of the assignment, if there is one, and the expressions below it. -/
def placed (a : Assignment) : Option Expression × List Expression :=
  match a.expressions with
  | [] => (none, [])
  | e :: es => if e.line = a.line then (some e, es) else (none, e :: es)

def behindColon : Option Expression → Text
  | none => []
  | some e => space :: e.render

def headLine (a : Assignment) : Text := a.name ++ colon :: behindColon a.placed.1

def writtenLines (o : FormatOptions) (a : Assignment) : List Text :=
  a.headLine :: a.placed.2.map fun e => o.usedIndent ++ e.render

theorem expressions_eq_placed (a : Assignment) :
    a.expressions = a.placed.1.toList ++ a.placed.2 := by
  unfold placed
  split
  · next h => simp [h]
  · next e es h => split <;> simp [h]

theorem forall_expressions_iff {P : Expression → Prop} (a : Assignment) :
    (∀ e ∈ a.expressions, P e) ↔ (∀ e ∈ a.placed.1, P e) ∧ ∀ e ∈ a.placed.2, P e := by
  rw [a.expressions_eq_placed, List.forall_mem_append]
  simp only [Option.mem_toList, Option.mem_def]

end Assignment

namespace FormatOptions

def gapLines (o : FormatOptions) : List Text := if o.blankLines then [[]] else []

end FormatOptions

namespace Script

def writtenLines (o : FormatOptions) : Script → List Text
  | [] => []
  | a :: rest => a.writtenLines o ++ rest.flatMap fun b => o.gapLines ++ b.writtenLines o

end Script

namespace Draft

open Pieces

variable (o : FormatOptions)

theorem writes_indentedPieces_iff (name : Text) (e : Expression) (t : Text) :
    (indentedPieces o name e).Writes t ↔
      e.Writable ∧ t = o.usedIndent ++ e.render ++ [lf] := by
  rw [indentedPieces, writes_checked_iff, writes_one_iff, expressionFault?_eq_none_iff]

def inlinePieces (name : Text) : Option Expression → Pieces
  | none => nothing
  | some e => checked (expressionFault? name e) (one ([space] ++ e.render))

theorem writes_inlinePieces_iff (name : Text) (x : Option Expression) (t : Text) :
    (inlinePieces name x).Writes t ↔
      (∀ e ∈ x, e.Writable) ∧ t = Assignment.behindColon x := by
  cases x with
  | none => simp [inlinePieces, Assignment.behindColon, writes_nothing_iff]
  | some e =>
    simp [inlinePieces, Assignment.behindColon, writes_checked_iff, writes_one_iff,
      expressionFault?_eq_none_iff]

theorem assignmentPieces_eq (a : Assignment) :
    assignmentPieces o a = checked (nameFault? a.name)
      ((one (a.name ++ [colon])).andThen <| (inlinePieces a.name a.placed.1).andThen <|
        (one [lf]).andThen <| all (a.placed.2.map (indentedPieces o a.name))) := by
  unfold assignmentPieces Assignment.placed
  cases a.expressions with
  | nil => rfl
  | cons e es => by_cases h : e.line = a.line <;> simp [h, inlinePieces]

theorem writable_iff_placed (a : Assignment) : a.Writable ↔
    IsName a.name ∧ (∀ e ∈ a.placed.1, e.Writable) ∧ ∀ e ∈ a.placed.2, e.Writable := by
  constructor
  · intro h
    exact ⟨h.name, a.forall_expressions_iff.1 h.expressions⟩
  · rintro ⟨hn, he⟩
    exact ⟨hn, a.forall_expressions_iff.2 he⟩

theorem writes_assignmentPieces_iff (a : Assignment) (t : Text) :
    (assignmentPieces o a).Writes t ↔ a.Writable ∧ t = Line.ended (a.writtenLines o) := by
  have hl : Line.ended (a.writtenLines o) = (a.name ++ [colon]) ++ (Assignment.behindColon a.placed.1
      ++ ([lf] ++ a.placed.2.flatMap fun e => o.usedIndent ++ e.render ++ [lf])) := by
    simp [Line.ended, Assignment.writtenLines, Assignment.headLine, List.flatMap_map]
  rw [assignmentPieces_eq, writes_checked_iff, nameFault?_eq_none_iff, writable_iff_placed, hl]
  simp only [writes_andThen_iff, writes_one_iff, writes_inlinePieces_iff,
    writes_all_map_iff (writes_indentedPieces_iff o a.name)]
  constructor
  · rintro ⟨hn, _, _, rfl, ⟨_, _, ⟨hi, rfl⟩, ⟨_, _, rfl, ⟨he, rfl⟩, rfl⟩, rfl⟩, rfl⟩
    exact ⟨⟨hn, hi, he⟩, rfl⟩
  · rintro ⟨⟨hn, hi, he⟩, rfl⟩
    exact ⟨hn, _, _, rfl, ⟨_, _, ⟨hi, rfl⟩, ⟨_, _, rfl, ⟨he, rfl⟩, rfl⟩, rfl⟩, rfl⟩

/-- Entries behind the first are written with a gap in front of each. -/
theorem writes_piecesFrom_succ_iff (i : Nat) (s : Script) (t : Text) :
    (piecesFrom o (i + 1) s.draft).Writes t ↔ (∀ a ∈ s, a.Writable) ∧
      t = Line.ended (s.flatMap fun a => o.gapLines ++ a.writtenLines o) := by
  induction s generalizing i t with
  | nil => simp [Script.draft, piecesFrom, writes_nothing_iff, Line.ended]
  | cons a s ih =>
    have hg : ∀ u, (if i + 1 ≠ 0 && o.blankLines then one [lf] else nothing).Writes u ↔
        u = Line.ended o.gapLines := by
      intro u
      cases hb : o.blankLines <;>
        simp [FormatOptions.gapLines, hb, writes_one_iff, writes_nothing_iff, Line.ended]
    have hp : piecesFrom o (i + 1) (Script.draft (a :: s)) =
        (if i + 1 ≠ 0 && o.blankLines then one [lf] else nothing).andThen
          ((assignmentPieces o a).andThen (piecesFrom o (i + 1 + 1) (Script.draft s))) := rfl
    rw [hp]
    simp only [writes_andThen_iff, hg, writes_assignmentPieces_iff, ih, List.forall_mem_cons,
      List.flatMap_cons, Line.ended_append]
    constructor
    · rintro ⟨_, _, rfl, ⟨_, _, ⟨ha, rfl⟩, ⟨hs, rfl⟩, rfl⟩, rfl⟩
      exact ⟨⟨ha, hs⟩, by simp⟩
    · rintro ⟨⟨ha, hs⟩, rfl⟩
      exact ⟨_, _, rfl, ⟨_, _, ⟨ha, rfl⟩, ⟨hs, rfl⟩, rfl⟩, by simp⟩

variable {o} {d : Draft}

theorem format_eq_ok_iff {t : Text} : d.format o = .ok t ↔ (d.pieces o).Writes t := by
  unfold format Pieces.Writes
  cases h : (d.pieces o).fault <;> simp [h]

theorem format_eq_error_iff {f : FormatFault} :
    d.format o = .error f ↔ (d.pieces o).fault = some f := by
  unfold format
  cases h : (d.pieces o).fault <;> simp [h]

end Draft

namespace Script

variable {o : FormatOptions}

/-- Writing succeeds exactly on scripts whose assignments can all be written, and gives their
lines. -/
theorem format_eq_ok_iff {s : Script} {t : Text} : s.format o = .ok t ↔
    (∀ a ∈ s, a.Writable) ∧ t = Line.ended (s.writtenLines o) := by
  rw [format, Draft.format_eq_ok_iff, Draft.pieces]
  cases s with
  | nil => simp [draft, Draft.piecesFrom, Pieces.writes_nothing_iff, writtenLines, Line.ended]
  | cons a s =>
    have hp : Draft.piecesFrom o 0 (draft (a :: s)) = Pieces.nothing.andThen
        ((Draft.assignmentPieces o a).andThen (Draft.piecesFrom o (0 + 1) (draft s))) := rfl
    rw [hp]
    simp only [Pieces.writes_andThen_iff, Pieces.writes_nothing_iff,
      Draft.writes_assignmentPieces_iff, Draft.writes_piecesFrom_succ_iff, List.forall_mem_cons,
      writtenLines, Line.ended_append]
    constructor
    · rintro ⟨_, _, rfl, ⟨_, _, ⟨ha, rfl⟩, ⟨hs, rfl⟩, rfl⟩, rfl⟩
      exact ⟨⟨ha, hs⟩, rfl⟩
    · rintro ⟨⟨ha, hs⟩, rfl⟩
      exact ⟨_, _, rfl, ⟨_, _, ⟨ha, rfl⟩, ⟨hs, rfl⟩, rfl⟩, rfl⟩

end Script

namespace Expression

/-- What an expression says: its condition and its value. -/
def meaning (e : Expression) : Option Condition × Text := (e.condition, e.value)

theorem render_congr {e f : Expression} (h : e.meaning = f.meaning) : e.render = f.render := by
  obtain ⟨hc, hv⟩ := Prod.mk.inj h
  rw [render, render, hc, hv]

theorem Writable.congr {e f : Expression} (he : e.Writable) (h : f.meaning = e.meaning) :
    f.Writable := by
  obtain ⟨hc, hv⟩ := Prod.mk.inj h
  refine ⟨?_, ?_, ?_, ?_, ?_⟩
  · exact hv ▸ he.value_ne_nil
  · exact hv ▸ he.trimmed
  · exact hv ▸ he.clean
  · rw [hc, hv]
    exact he.bare
  · rw [hc]
    exact he.tokens

end Expression

namespace Assignment

/-- What an assignment says: its name and the meaning of its expressions in order. -/
def meaning (a : Assignment) : Text × List (Option Condition × Text) :=
  (a.name, a.expressions.map Expression.meaning)

/-- What the written form of an assignment depends on. -/
structure SameLayout (a b : Assignment) : Prop where
  name : a.name = b.name
  inline : a.placed.1.map Expression.meaning = b.placed.1.map Expression.meaning
  below : a.placed.2.map Expression.meaning = b.placed.2.map Expression.meaning

theorem SameLayout.meaning_eq {a b : Assignment} (h : a.SameLayout b) : a.meaning = b.meaning := by
  have hi := congrArg Option.toList h.inline
  simp only [Option.toList_map] at hi
  rw [meaning, meaning, h.name, expressions_eq_placed, expressions_eq_placed b, List.map_append,
    List.map_append, hi, h.below]

theorem map_render_congr {es fs : List Expression}
    (h : es.map Expression.meaning = fs.map Expression.meaning) (g : Text → Text) :
    (es.map fun e => g e.render) = fs.map fun e => g e.render := by
  induction es generalizing fs with
  | nil =>
    cases fs with
    | nil => rfl
    | cons f fs => simp at h
  | cons e es ih =>
    cases fs with
    | nil => simp at h
    | cons f fs =>
      obtain ⟨he, hes⟩ := List.cons.inj h
      rw [List.map_cons, List.map_cons, Expression.render_congr he, ih hes]

theorem SameLayout.writtenLines_eq {a b : Assignment} (h : a.SameLayout b) (o : FormatOptions) :
    a.writtenLines o = b.writtenLines o := by
  have hb : behindColon a.placed.1 = behindColon b.placed.1 := by
    have hi := h.inline
    revert hi
    rcases a.placed.1 with _ | e <;> rcases b.placed.1 with _ | f <;> intro hi
    · rfl
    · cases hi
    · cases hi
    · rw [behindColon, behindColon, Expression.render_congr (Option.some.inj hi)]
  rw [writtenLines, writtenLines, headLine, headLine, h.name, hb,
    map_render_congr h.below (o.usedIndent ++ ·)]

theorem Writable.congr {a b : Assignment} (ha : a.Writable) (h : b.meaning = a.meaning) :
    b.Writable := by
  obtain ⟨hn, he⟩ := Prod.mk.inj h
  refine ⟨hn ▸ ha.name, fun f hf => ?_⟩
  have hm : f.meaning ∈ a.expressions.map Expression.meaning := he ▸ List.mem_map_of_mem hf
  obtain ⟨e, hmem, heq⟩ := List.mem_map.1 hm
  exact (ha.expressions e hmem).congr heq.symm

end Assignment

namespace Script

/-- What a script says: the meaning of its assignments in order. -/
def meaning (s : Script) : List (Text × List (Option Condition × Text)) := s.map Assignment.meaning

theorem meaning_eq_of_sameLayout {s s' : Script} (h : List.Forall₂ Assignment.SameLayout s s') :
    meaning s = meaning s' := by
  induction h with
  | nil => rfl
  | cons ha _ ih => exact congrArg₂ List.cons ha.meaning_eq ih

theorem writtenLines_congr {s s' : Script} (h : List.Forall₂ Assignment.SameLayout s s')
    (o : FormatOptions) : writtenLines o s = writtenLines o s' := by
  cases h with
  | nil => rfl
  | cons ha hs =>
    rw [writtenLines, writtenLines, ha.writtenLines_eq]
    congr 1
    induction hs with
    | nil => rfl
    | cons hb _ ih => rw [List.flatMap_cons, List.flatMap_cons, hb.writtenLines_eq, ih]

/-- Scripts of the same layout are written alike. -/
theorem format_congr {s s' : Script} (h : List.Forall₂ Assignment.SameLayout s' s)
    {o : FormatOptions} {t : Text} (hs : format o s = .ok t) : format o s' = .ok t := by
  obtain ⟨hw, rfl⟩ := format_eq_ok_iff.1 hs
  refine format_eq_ok_iff.2 ⟨?_, by rw [writtenLines_congr h]⟩
  intro a ha
  have hm : a.meaning ∈ s.map Assignment.meaning := by
    have := meaning_eq_of_sameLayout h
    rw [← meaning, ← this]
    exact List.mem_map_of_mem ha
  obtain ⟨b, hb, he⟩ := List.mem_map.1 hm
  exact (hw b hb).congr he.symm

end Script
end RouteScript
