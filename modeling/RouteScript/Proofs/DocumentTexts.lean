import RouteScript.Document
import RouteScript.Proofs.JsonTexts

/-!
# Documents and their JSON texts

The JSON text of a document loses nothing, provided that the texts in the document are UTF-8: a stray
byte would be shown as the replacement character. Objects are compared field by field, from the
condition of an expression up to the document (`json_inj`), and it always shows whether an empty field
is left out.
-/

namespace RouteScript

open Text

/-- The texts are UTF-8. -/
abbrev Text.AllValid (ts : List Text) : Prop := ∀ t ∈ ts, isValid t = true

def Condition.texts (c : Condition) : List Text := [c.left, c.operator, c.right]

def Expression.texts (e : Expression) : List Text :=
  e.condition.elim [] Condition.texts ++ [e.value, e.statement, e.raw]

def Assignment.texts (a : Assignment) : List Text := a.name :: a.expressions.flatMap Expression.texts

namespace Document

def texts (d : Document) : List Text := d.file :: d.assignments.flatMap Assignment.texts

/-- In front of one last field it shows whether a field is left out. -/
theorem optional_inj {p q : Prop} [Decidable p] [Decidable q] {k v w : Text} {f g : Text × Text}
    (h : (if p then [] else [(k, v)]) ++ [f] = (if q then [] else [(k, w)]) ++ [g]) :
    (p ↔ q) ∧ (¬ p → v = w) ∧ f = g := by
  by_cases hp : p
  · by_cases hq : q
    · simpa [hp, hq] using h
    · simp [hp, hq] at h
  · by_cases hq : q
    · simp [hp, hq] at h
    · simpa [hp, hq] using h

theorem optionalText_inj {k t u : Text} {f g : Text × Text} (ht : isValid t = true)
    (hu : isValid u = true) (h : (if t = [] then [] else [(k, Json.string t)]) ++ [f] =
      (if u = [] then [] else [(k, Json.string u)]) ++ [g]) : t = u ∧ f = g := by
  obtain ⟨hempty, hvalue, hfg⟩ := optional_inj h
  refine ⟨?_, hfg⟩
  by_cases hn : t = []
  · rw [hn, hempty.1 hn]
  · exact Json.string_inj ht hu (hvalue hn)

section Items

variable {α : Type} {texts : α → List Text} {item : α → Text} {depth : Nat}

theorem written_items (hitem : ∀ x, AllValid (texts x) → Json.Written depth (item x))
    {xs : List α} (hxs : AllValid (xs.flatMap texts)) : ∀ v ∈ xs.map item, Json.Written depth v := by
  intro v hv
  obtain ⟨x, hx, rfl⟩ := List.mem_map.1 hv
  apply hitem
  intro t ht
  exact hxs t (List.mem_flatMap_of_mem hx ht)

/-- Lists of items have the same text only if they are the same, when that holds of the items. -/
theorem items_inj (hitem : ∀ x, AllValid (texts x) → Json.Written (depth + 1) (item x))
    (hinj : ∀ x y, AllValid (texts x) → AllValid (texts y) → item x = item y → x = y)
    {xs ys : List α} (hxs : AllValid (xs.flatMap texts)) (hys : AllValid (ys.flatMap texts))
    (h : Json.array depth (xs.map item) = Json.array depth (ys.map item)) : xs = ys := by
  have hmap := Json.array_inj (written_items hitem hxs) (written_items hitem hys) h
  refine eq_of_map_eq (fun x hx y hy hxy => ?_) hmap
  exact hinj x y (fun t ht => hxs t (List.mem_flatMap_of_mem hx ht))
    (fun t ht => hys t (List.mem_flatMap_of_mem hy ht)) hxy

end Items

theorem fields_condition (depth : Nat) {c : Condition} (hc : AllValid c.texts) :
    Json.Fields depth (conditionFields c) := by
  simp only [Condition.texts, List.forall_mem_cons] at hc
  obtain ⟨hleft, hop, hright, -⟩ := hc
  exact .cons (by decide) (.string hleft) <| .cons (by decide) (.string hop) <|
    .cons (by decide) (.string hright) .nil

theorem conditionJson_inj {depth : Nat} {c c' : Condition} (hc : AllValid c.texts)
    (hc' : AllValid c'.texts) (h : conditionJson depth c = conditionJson depth c') : c = c' := by
  have hfields := (fields_condition depth hc).object_inj (fields_condition depth hc') h
  obtain ⟨l, o, r⟩ := c
  obtain ⟨l', o', r'⟩ := c'
  simp only [Condition.texts, List.forall_mem_cons] at hc hc'
  simp only [conditionFields, List.cons.injEq, Prod.mk.injEq, true_and, and_true] at hfields
  obtain ⟨hl, ho, hr⟩ := hfields
  rw [Condition.mk.injEq]
  exact ⟨Json.string_inj hc.1 hc'.1 hl, Json.string_inj hc.2.1 hc'.2.1 ho,
    Json.string_inj hc.2.2.1 hc'.2.2.1 hr⟩

theorem fields_expression (depth : Nat) {e : Expression} (he : AllValid e.texts) :
    Json.Fields depth (expressionFields depth e) := by
  obtain ⟨condition, value, statement, raw, line⟩ := e
  simp only [Expression.texts, List.forall_mem_append, List.forall_mem_cons] at he
  obtain ⟨hcondition, hvalue, hstatement, hraw, -⟩ := he
  refine .append (.append (.append ?_ ?_) ?_) ?_
  · cases condition with
    | none => exact .nil
    | some c => exact .cons (by decide) (fields_condition _ hcondition).written .nil
  · exact .cons (by decide) (.string hvalue) (.cons (by decide) (.string hstatement) .nil)
  · split
    · exact .nil
    · exact .cons (by decide) (.string hraw) .nil
  · exact .cons (by decide) (.number line) .nil

theorem written_expression {depth : Nat} (e : Expression) (he : AllValid e.texts) :
    Json.Written depth (expressionJson depth e) :=
  (fields_expression depth he).written

theorem expressionJson_inj {depth : Nat} (e e' : Expression) (he : AllValid e.texts)
    (he' : AllValid e'.texts) (h : expressionJson depth e = expressionJson depth e') : e = e' := by
  have hfields := (fields_expression depth he).object_inj (fields_expression depth he') h
  obtain ⟨condition, value, statement, raw, line⟩ := e
  obtain ⟨condition', value', statement', raw', line'⟩ := e'
  simp only [Expression.texts, List.forall_mem_append, List.forall_mem_cons] at he he'
  obtain ⟨hc, hv, hs, hr, -⟩ := he
  obtain ⟨hc', hv', hs', hr', -⟩ := he'
  -- The first key shows whether there is a condition; the number of fields alone does not, because
  -- the source line may be left out as well.
  have hsplit : condition = condition' ∧
      expressionFields depth ⟨none, value, statement, raw, line⟩ =
        expressionFields depth ⟨none, value', statement', raw', line'⟩ := by
    cases condition with
    | none =>
      cases condition' with
      | none => exact ⟨rfl, hfields⟩
      | some c' =>
        obtain ⟨hfirst, -⟩ := List.cons.inj hfields
        exact absurd (Prod.mk.inj hfirst).1 (by decide)
    | some c =>
      cases condition' with
      | none =>
        obtain ⟨hfirst, -⟩ := List.cons.inj hfields
        exact absurd (Prod.mk.inj hfirst).1 (by decide)
      | some c' =>
        obtain ⟨hfirst, hrest⟩ := List.cons.inj hfields
        exact ⟨congrArg some (conditionJson_inj hc hc' (Prod.mk.inj hfirst).2), hrest⟩
  obtain ⟨hcondition, hbare⟩ := hsplit
  obtain ⟨hvalue, hbare⟩ := List.cons.inj hbare
  obtain ⟨hstatement, hbare⟩ := List.cons.inj hbare
  obtain ⟨hraw, hline⟩ := optionalText_inj hr hr' hbare
  rw [Expression.mk.injEq]
  exact ⟨hcondition, Json.string_inj hv hv' (Prod.mk.inj hvalue).2,
    Json.string_inj hs hs' (Prod.mk.inj hstatement).2, hraw, decimal_inj (Prod.mk.inj hline).2⟩

theorem fields_assignment (depth : Nat) {a : Assignment} (ha : AllValid a.texts) :
    Json.Fields depth (assignmentFields depth a) := by
  obtain ⟨hname, hexpressions⟩ := List.forall_mem_cons.1 ha
  refine .append (.append (.cons (by decide) (.string hname) .nil) ?_) ?_
  · split
    · exact .nil
    · exact .cons (by decide) (.array (written_items written_expression hexpressions)) .nil
  · exact .cons (by decide) (.number a.line) .nil

theorem written_assignment {depth : Nat} (a : Assignment) (ha : AllValid a.texts) :
    Json.Written depth (assignmentJson depth a) :=
  (fields_assignment depth ha).written

theorem assignmentJson_inj {depth : Nat} (a a' : Assignment) (ha : AllValid a.texts)
    (ha' : AllValid a'.texts) (h : assignmentJson depth a = assignmentJson depth a') : a = a' := by
  have hfields := (fields_assignment depth ha).object_inj (fields_assignment depth ha') h
  obtain ⟨name, line, es⟩ := a
  obtain ⟨name', line', es'⟩ := a'
  obtain ⟨hn, hes⟩ := List.forall_mem_cons.1 ha
  obtain ⟨hn', hes'⟩ := List.forall_mem_cons.1 ha'
  obtain ⟨hname, hfields⟩ := List.cons.inj hfields
  obtain ⟨hempty, hvalue, hline⟩ := optional_inj hfields
  have hexpressions : es = es' := by
    by_cases he : es = []
    · exact he.trans (hempty.1 he).symm
    · exact items_inj written_expression expressionJson_inj hes hes' (hvalue he)
  rw [Assignment.mk.injEq]
  exact ⟨Json.string_inj hn hn' (Prod.mk.inj hname).2, decimal_inj (Prod.mk.inj hline).2,
    hexpressions⟩

theorem fields_document {d : Document} (hd : AllValid d.texts) :
    Json.Fields 0 d.documentFields := by
  obtain ⟨hfile, hassignments⟩ := List.forall_mem_cons.1 hd
  refine .append ?_ (.cons (by decide) (.array (written_items written_assignment hassignments)) .nil)
  split
  · exact .nil
  · exact .cons (by decide) (.string hfile) .nil

/-- Documents whose texts are UTF-8 have the same JSON text only if they are the same. -/
theorem json_inj {d d' : Document} (hd : AllValid d.texts) (hd' : AllValid d'.texts) :
    d.json = d'.json ↔ d = d' := by
  refine ⟨fun h => ?_, fun h => by rw [h]⟩
  have hfields := (fields_document hd).object_inj (fields_document hd') (List.append_cancel_right h)
  obtain ⟨file, as⟩ := d
  obtain ⟨file', as'⟩ := d'
  obtain ⟨hf, has⟩ := List.forall_mem_cons.1 hd
  obtain ⟨hf', has'⟩ := List.forall_mem_cons.1 hd'
  obtain ⟨hfile, hassignments⟩ := optionalText_inj hf hf' hfields
  rw [Document.mk.injEq]
  exact ⟨hfile, items_inj written_assignment assignmentJson_inj has has'
    (Prod.mk.inj hassignments).2⟩

/-- A value that looks like the escape of another one has a text of its own. -/
theorem json_inj_escaped :
    (⟨utf8 "a.gs", [⟨utf8 "x", 1, [⟨none, utf8 "<", utf8 "<", [], 2⟩]⟩]⟩ : Document).json ≠
      (⟨utf8 "a.gs", [⟨utf8 "x", 1, [⟨none, utf8 "\\u003c", utf8 "\\u003c", [], 2⟩]⟩]⟩ :
        Document).json := by
  intro h
  have hsame := (json_inj (by decide +kernel) (by decide +kernel)).1 h
  exact absurd hsame (by decide)

end Document
end RouteScript
