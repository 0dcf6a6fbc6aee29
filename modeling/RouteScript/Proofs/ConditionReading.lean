import RouteScript.Expression
import RouteScript.Proofs.Trimming
import RouteScript.Proofs.WrittenScripts

/-!
# Reading conditions and expressions

A condition that was read has a known operator between two single tokens of the text
(`Condition.read_ok_spec`), whichever way it was written. An expression read from a trimmed statement
can be written (`Expression.readParts_ok_spec`). Whatever the statement was, the canonical text of the
expression is read back (`Expression.legible_of_readParts`, `Expression.readParts_render`).
-/

namespace RouteScript

open Text

theorem Text.cut?_append {b : UInt8} {l : Text} (h : b ∉ l) (r : Text) :
    cut? b (l ++ b :: r) = some (l, r) := by
  induction l with
  | nil => simp [cut?]
  | cons c l ih =>
    obtain ⟨hc, hl⟩ := not_or.1 (mt List.mem_cons.2 h)
    simp [cut?, Ne.symm hc, ih hl]

namespace OperatorTable

theorem has_iff_mem {ops : OperatorTable} {t : Text} : ops.has t = true ↔ t ∈ ops.tokens := by
  simp [has]

theorem isToken_of_has {ops : OperatorTable} {t : Text} (h : ops.has t = true) : IsToken t := by
  have hu := ops.usable t (has_iff_mem.1 h)
  simp only [isOperatorToken, Bool.and_eq_true, Bool.not_eq_true', holdsAny_eq_false_iff] at hu
  obtain ⟨⟨hne, hb⟩, hr⟩ := hu
  refine ⟨?_, hr question (by simp), hr hashSign (by simp)⟩
  simp [isSingle, hne, hb]

theorem has_of_mem_symbolic {ops : OperatorTable} {t : Text} (h : t ∈ ops.symbolic) :
    ops.has t = true := by
  rw [symbolic, List.mem_mergeSort] at h
  exact has_iff_mem.2 (List.mem_of_mem_filter h)

theorem cutAt?_token {s token : Text} {c : Cut} (h : cutAt? s token = some c) :
    c.token = token := by
  unfold cutAt? at h
  split at h
  · cases h
    rfl
  · cases h

theorem betterCut_token {s token : Text} {best : Option Cut} {c : Cut}
    (h : betterCut s best token = some c) : c.token = token ∨ best = some c := by
  unfold betterCut at h
  split at h
  · exact .inr h
  · next d hd =>
    cases h
    exact .inl (cutAt?_token hd)
  · next d b hd =>
    split at h
    · cases h
      exact .inl (cutAt?_token hd)
    · exact .inr h

theorem bestCut?_token {tokens : List Text} {s : Text} {c : Cut}
    (h : bestCut? tokens s = some c) : c.token ∈ tokens := by
  have key : ∀ (ts : List Text) (best : Option Cut), ts.foldl (betterCut s) best = some c →
      c.token ∈ ts ∨ best = some c := by
    intro ts
    induction ts with
    | nil => exact fun best h => .inr h
    | cons t ts ih =>
      intro best h
      rcases ih _ h with hm | hb
      · exact .inl (List.mem_cons_of_mem t hm)
      · rcases betterCut_token hb with ht | hb
        · exact .inl (ht ▸ List.mem_cons_self)
        · exact .inr hb
  rcases key tokens none h with hm | hn
  · exact hm
  · cases hn

theorem split?_some_spec {ops : OperatorTable} {s l op r : Text}
    (h : ops.split? s = some (l, op, r)) :
    ops.has op = true ∧ isSingle l = true ∧ isSingle r = true ∧ l ⊆ s ∧ r ⊆ s := by
  unfold split? at h
  split at h
  · cases h
  next c hc =>
  dsimp only at h
  split at h
  · next hs =>
    simp only [Bool.and_eq_true] at hs
    simp only [Option.some.injEq, Prod.mk.injEq] at h
    obtain ⟨rfl, rfl, rfl⟩ := h
    refine ⟨has_of_mem_symbolic (bestCut?_token hc), hs.1.1, hs.1.2, ?_, ?_⟩
    · exact List.Subset.trans (trim_isInfix _).subset (List.take_subset _ s)
    · exact List.Subset.trans (trim_isInfix _).subset (List.drop_subset _ s)
  · cases h

end OperatorTable

theorem Condition.forall_token_iff {c : Condition} :
    (∀ t ∈ [c.left, c.operator, c.right], IsToken t) ↔
      IsToken c.left ∧ IsToken c.operator ∧ IsToken c.right := by
  simp

theorem IsToken.ne_nil {t : Text} (h : IsToken t) : t ≠ [] := (isSingle_iff.1 h.1).1

theorem Condition.read_ok_cases {ops : OperatorTable} {s : Text} {c : Condition}
    (h : Condition.read ops s = .ok c) :
    fields s = [c.left, c.operator, c.right] ∧ c.operator ∈ ops.tokens ∨
      ops.split? s = some (c.left, c.operator, c.right) := by
  unfold Condition.read at h
  split at h
  · cases h
  split at h
  · next hf =>
    split at h
    · next hop =>
      cases h
      exact .inl ⟨hf, OperatorTable.has_iff_mem.1 hop⟩
    · split at h
      · next hs =>
        cases h
        exact .inr hs
      · cases h
  · split at h
    · next hs =>
      cases h
      exact .inr hs
    · cases h

theorem Condition.read_of_fields {ops : OperatorTable} {s : Text} {c : Condition}
    (hf : fields s = [c.left, c.operator, c.right]) (hop : c.operator ∈ ops.tokens) :
    Condition.read ops s = .ok c := by
  have hne : s ≠ [] := by
    rintro rfl
    cases hf
  rw [Condition.read, if_neg hne, hf]
  simp [OperatorTable.has_iff_mem.2 hop]

theorem Condition.read_ok_spec {ops : OperatorTable} {s : Text} {c : Condition}
    (h : Condition.read ops s = .ok c) : ops.has c.operator = true ∧
      isSingle c.left = true ∧ isSingle c.right = true ∧ c.left ⊆ s ∧ c.right ⊆ s := by
  rcases Condition.read_ok_cases h with ⟨hf, hop⟩ | hs
  · obtain ⟨hl, hls⟩ := isSingle_of_mem_fields (t := s) (f := c.left) (by simp [hf])
    obtain ⟨hr, hrs⟩ := isSingle_of_mem_fields (t := s) (f := c.right) (by simp [hf])
    exact ⟨OperatorTable.has_iff_mem.2 hop, hl, hr, hls.subset, hrs.subset⟩
  · exact OperatorTable.split?_some_spec hs

namespace Expression

/-- A statement without a question mark is a bare value; around the first one stand a condition and a
value. -/
theorem readParts_ok_cases {ops : OperatorTable} {statement v : Text} {c : Option Condition}
    (h : readParts ops statement = .ok (c, v)) :
    question ∉ statement ∧ c = none ∧ v = statement ∨
    ∃ before after d, statement = before ++ question :: after ∧ question ∉ before ∧
      Condition.read ops (trim before) = .ok d ∧ c = some d ∧ v = trim after ∧ trim after ≠ [] := by
  unfold readParts at h
  split at h
  · next hq =>
    cases h
    exact .inl ⟨cut?_eq_none_iff.1 hq, rfl, rfl⟩
  next before after hcut =>
  obtain ⟨hs, hq⟩ := cut?_some_spec hcut
  cases hc : Condition.read ops (trim before) with
  | error f => simp [hc, bind, Except.bind] at h
  | ok d =>
    simp only [hc, bind, Except.bind] at h
    split at h
    · cases h
    next hv =>
    cases h
    exact .inr ⟨before, after, d, hs, hq, hc, rfl, rfl, hv⟩

/-- An expression read from a trimmed statement without a comment sign can be written, up to the line
terminators that a statement may hold, and its operator is known. -/
theorem readParts_ok_spec {ops : OperatorTable} {statement v : Text} {c : Option Condition}
    (hne : statement ≠ []) (ht : trim statement = statement) (hh : hashSign ∉ statement)
    (h : readParts ops statement = .ok (c, v)) :
    v ≠ [] ∧ trim v = v ∧ v ⊆ statement ∧ (c = none → question ∉ v) ∧
      ∀ d, c = some d → ops.has d.operator = true ∧
        ∀ t ∈ [d.left, d.operator, d.right], IsToken t := by
  rcases readParts_ok_cases h with
    ⟨hq, rfl, rfl⟩ | ⟨before, after, d, rfl, hq, hc, rfl, rfl, hv⟩
  · exact ⟨hne, ht, List.Subset.refl _, fun _ => hq, by simp⟩
  · obtain ⟨hop, hl, hr, hls, hrs⟩ := Condition.read_ok_spec hc
    have hb : trim before ⊆ before := (trim_isInfix before).subset
    have htok : ∀ t, isSingle t = true → t ⊆ trim before → IsToken t := fun t hs hsub =>
      ⟨hs, fun hm => hq (hb (hsub hm)), fun hm => hh (List.mem_append_left _ (hb (hsub hm)))⟩
    refine ⟨hv, trim_trim after, trim_subset_append_cons before question after, by simp, ?_⟩
    rintro _ ⟨⟩
    refine ⟨hop, ?_⟩
    exact Condition.forall_token_iff.2
      ⟨htok _ hl hls, OperatorTable.isToken_of_has hop, htok _ hr hrs⟩

/-- The condition and the value can be read from their canonical text. A bare value may be blank,
padded or empty; behind a condition it may hold anything that trimming leaves. -/
inductive Legible (ops : OperatorTable) : Option Condition → Text → Prop where
  | bare {v : Text} : question ∉ v → Legible ops none v
  | guarded {c : Condition} {v : Text} : ops.has c.operator = true →
      isSingle c.left = true → isSingle c.right = true → question ∉ c.left → question ∉ c.right →
      v ≠ [] → trim v = v → Legible ops (some c) v

theorem legible_of_readParts {ops : OperatorTable} {statement v : Text} {c : Option Condition}
    (h : readParts ops statement = .ok (c, v)) : Legible ops c v := by
  rcases readParts_ok_cases h with
    ⟨hq, rfl, rfl⟩ | ⟨before, after, d, rfl, hq, hc, rfl, rfl, hv⟩
  · exact .bare hq
  · obtain ⟨hop, hl, hr, hls, hrs⟩ := Condition.read_ok_spec hc
    have hb : trim before ⊆ before := (trim_isInfix before).subset
    exact .guarded hop hl hr (fun hm => hq (hb (hls hm))) (fun hm => hq (hb (hrs hm))) hv
      (trim_trim after)

end Expression

theorem Condition.render_eq (c : Condition) :
    c.render = c.left ++ space :: (c.operator ++ space :: c.right) := by
  simp [Condition.render]

section Condition

variable {c : Condition} (hl : isSingle c.left = true) (hr : isSingle c.right = true)
include hl hr

theorem Condition.trim_render : trim c.render = c.render := by
  rw [trim_eq_self_iff, Condition.render_eq,
    startsBlank_append_ascii (by decide) (isSingle_iff.1 hl).1,
    endsBlank_append_ascii (by decide) _ (by simp),
    endsBlank_append_ascii (by decide) _ (isSingle_iff.1 hr).1]
  exact ⟨startsBlank_of_isSingle hl, endsBlank_of_isSingle hr⟩

theorem Condition.read_render {ops : OperatorTable} (hop : ops.has c.operator = true) :
    Condition.read ops c.render = .ok c := by
  have ho := (OperatorTable.isToken_of_has hop).1
  apply Condition.read_of_fields _ (OperatorTable.has_iff_mem.1 hop)
  rw [Condition.render_eq, fields_append_space hl, fields_append_space ho, fields_of_isSingle hr]

end Condition

namespace Expression

variable {e : Expression}

theorem render_of_none (h : e.condition = none) : e.render = e.value := by
  simp [render, h]

theorem render_of_some {c : Condition} (h : e.condition = some c) :
    e.render = (c.render ++ [space]) ++ question :: space :: e.value := by
  have hm : utf8 " ? " = [space, question, space] := by decide
  simp [render, h, hm]

theorem Writable.trim_render (he : e.Writable) : trim e.render = e.render := by
  cases hc : e.condition with
  | none => rw [render_of_none hc, he.trimmed]
  | some c =>
    obtain ⟨hl, -, hr⟩ := Condition.forall_token_iff.1 (he.tokens c hc)
    have hv := (trim_eq_self_iff.1 he.trimmed).2
    have hstart := (trim_eq_self_iff.1 (Condition.trim_render hl.1 hr.1)).1
    rw [render_of_some hc, trim_eq_self_iff]
    constructor
    · rw [List.append_assoc, List.singleton_append, startsBlank_append_ascii (by decide)]
      · exact hstart
      · simp [Condition.render_eq]
    · rw [endsBlank_append_ascii (by decide) _ (by simp), ← List.nil_append (space :: e.value),
        endsBlank_append_ascii (by decide) _ he.value_ne_nil]
      exact hv

theorem Writable.legible {ops : OperatorTable} (he : e.Writable)
    (hop : ∀ c, e.condition = some c → ops.has c.operator = true) :
    Legible ops e.condition e.value := by
  cases hc : e.condition with
  | none => exact .bare (he.bare hc)
  | some c =>
    obtain ⟨hl, -, hr⟩ := Condition.forall_token_iff.1 (he.tokens c hc)
    exact .guarded (hop c hc) hl.1 hr.1 hl.2.1 hr.2.1 he.value_ne_nil he.trimmed

/-- The canonical text of an expression is read back as its condition and value. -/
theorem readParts_render {ops : OperatorTable} (he : Legible ops e.condition e.value) :
    readParts ops e.render = .ok (e.condition, e.value) := by
  generalize hc : e.condition = condition at he ⊢
  cases he with
  | bare hq => rw [render_of_none hc, readParts, cut?_eq_none_iff.2 hq]
  | @guarded c _ hop hl hr hql hqr hne htrim =>
    have hqo := (OperatorTable.isToken_of_has hop).2.1
    have hq : question ∉ c.render ++ [space] := by
      have hs : question ≠ space := by decide
      simp [Condition.render_eq, hql, hqo, hqr, hs]
    have hbefore : trim (c.render ++ [space]) = c.render := by
      rw [trim_append_blank (by decide) (by decide), Condition.trim_render hl hr]
    have hafter : trim (space :: e.value) = e.value := by
      rw [trim_cons_blank (by decide) (by decide), htrim]
    rw [render_of_some hc, readParts, cut?_append hq]
    simp only [hbefore, Condition.read_render hl hr hop, hafter, bind, Except.bind, if_neg hne]

end Expression
end RouteScript
