import RouteScript.Proofs.OperatorChoice

/-!
# What operator tables hold

A table holds the usable tokens of a list, in the order in which they first stand there (`DeclaredBy`),
and sorts the symbolic ones by length without changing the order of equally long ones
(`LongestFirst`). Each of the two relations determines the list, so neither the removal of repetitions
nor the sorting is looked at again: that a table is made again of its own tokens follows from
`DeclaredBy.unique`. The table of a reading is made of a base and of the further tokens that the base
lacks (`table_tokens`).
-/

namespace RouteScript

open Text

def IsOperator (t : Text) : Prop :=
  t ≠ [] ∧ (∀ s ∈ symbols t, s.isBlank = false) ∧ question ∉ t ∧ hashSign ∉ t ∧ colon ∉ t

theorem isOperatorToken_iff {t : Text} : isOperatorToken t = true ↔ IsOperator t := by
  simp [isOperatorToken, IsOperator, hasBlank, holdsAny_eq_false_iff, and_assoc]

theorem distinct_filter (p : Text → Bool) (ts : List Text) :
    distinct (ts.filter p) = (distinct ts).filter p := by
  induction ts with
  | nil => rfl
  | cons t ts ih =>
    by_cases ht : p t = true
    · rw [List.filter_cons_of_pos ht, distinct, distinct, List.filter_cons_of_pos ht, ih,
        List.filter_comm]
    · have hne : ∀ u, (p u && decide (u ≠ t)) = p u := by
        intro u
        by_cases hu : u = t
        · simp [hu, ht]
        · simp [hu]
      rw [List.filter_cons_of_neg ht, distinct, List.filter_cons_of_neg ht, ih, List.filter_filter]
      simp only [hne]

theorem distinct_append (ts us : List Text) :
    distinct (ts ++ us) = distinct ts ++ (distinct us).filter (· ∉ ts) := by
  induction ts with
  | nil => simp [distinct]
  | cons t ts ih =>
    rw [List.cons_append, distinct, distinct, ih, List.filter_append, List.filter_filter,
      List.cons_append]
    simp only [List.mem_cons, not_or, Bool.decide_and]

/-- The order of the first occurrences is kept. -/
theorem pairwise_distinct (ts : List Text) :
    (distinct ts).Pairwise fun a b => ts.idxOf a < ts.idxOf b := by
  induction ts with
  | nil => exact .nil
  | cons t ts ih =>
    -- The tokens behind the first one differ from it, so they first stand in the tail.
    have hlater : ∀ u ∈ (distinct ts).filter (· ≠ t), (t :: ts).idxOf u = ts.idxOf u + 1 := by
      intro u hu
      have hne : u ≠ t := by simpa using (List.mem_filter.1 hu).2
      exact List.idxOf_cons_ne ts (Ne.symm hne)
    rw [distinct, List.pairwise_cons]
    constructor
    · intro u hu
      rw [List.idxOf_cons_self, hlater u hu]
      exact Nat.succ_pos _
    · refine (ih.filter _).imp_of_mem fun ha hb h => ?_
      rw [hlater _ ha, hlater _ hb]
      exact Nat.succ_lt_succ h

namespace OperatorTable

/-- The tokens are the usable ones of a list, each once, in the order in which they first stand
there. -/
structure DeclaredBy (ts tokens : List Text) : Prop where
  mem_iff : ∀ t, t ∈ tokens ↔ t ∈ ts ∧ IsOperator t
  ordered : tokens.Pairwise fun a b => ts.idxOf a < ts.idxOf b

variable {ts us vs : List Text}

theorem DeclaredBy.nodup (h : DeclaredBy ts us) : us.Nodup :=
  h.ordered.imp fun hlt he => Nat.ne_of_lt hlt (congrArg (ts.idxOf ·) he)

theorem DeclaredBy.unique (hu : DeclaredBy ts us) (hv : DeclaredBy ts vs) : us = vs := by
  have hmem : ∀ t, t ∈ us ↔ t ∈ vs := fun t => (hu.mem_iff t).trans (hv.mem_iff t).symm
  exact List.Perm.eq_of_pairwise (fun _ _ _ _ hab hba => absurd hab (Nat.lt_asymm hba))
    hu.ordered hv.ordered ((List.perm_ext_iff_of_nodup hu.nodup hv.nodup).2 hmem)

theorem tokens_ofList (ts : List Text) :
    (ofList ts).tokens = (distinct ts).filter isOperatorToken :=
  distinct_filter isOperatorToken ts

theorem declaredBy_ofList (ts : List Text) : DeclaredBy ts (ofList ts).tokens where
  mem_iff := fun t => by
    rw [tokens_ofList, List.mem_filter, mem_distinct, isOperatorToken_iff]
  ordered := by
    rw [tokens_ofList]
    exact (pairwise_distinct ts).filter _

variable (ops : OperatorTable)

theorem declaredBy_tokens : DeclaredBy ops.tokens ops.tokens where
  mem_iff := fun t => ⟨fun h => ⟨h, isOperatorToken_iff.1 (ops.usable t h)⟩, And.left⟩
  ordered := by
    rw [List.pairwise_iff_getElem]
    intro i j hi hj hij
    rwa [ops.nodup.idxOf_getElem, ops.nodup.idxOf_getElem]

theorem ofList_tokens : ofList ops.tokens = ops := by
  have h : (ofList ops.tokens).tokens = ops.tokens :=
    (declaredBy_ofList ops.tokens).unique ops.declaredBy_tokens
  generalize ofList ops.tokens = ops' at h
  cases ops
  cases ops'
  cases h
  rfl

/-- The symbolic ones among the tokens, longer ones first, equally long ones in the order of the
tokens. -/
structure LongestFirst (tokens sorted : List Text) : Prop where
  perm : sorted.Perm (tokens.filter isSymbolic)
  ordered : sorted.Pairwise fun a b =>
    b.length < a.length ∨ b.length = a.length ∧ tokens.idxOf a < tokens.idxOf b

theorem LongestFirst.unique (hu : LongestFirst ts us) (hv : LongestFirst ts vs) : us = vs := by
  refine List.Perm.eq_of_pairwise (fun a b _ _ hab hba => ?_) hu.ordered hv.ordered
    (hu.perm.trans hv.perm.symm)
  omega

private theorem longer_trans (a b c : Text) (hab : decide (b.length ≤ a.length) = true)
    (hbc : decide (c.length ≤ b.length) = true) : decide (c.length ≤ a.length) = true :=
  decide_eq_true ((of_decide_eq_true hbc).trans (of_decide_eq_true hab))

private theorem longer_total (a b : Text) :
    (decide (b.length ≤ a.length) || decide (a.length ≤ b.length)) = true := by
  simpa using Nat.le_total b.length a.length

theorem pairwise_symbolic : ops.symbolic.Pairwise fun a b => b.length ≤ a.length :=
  (List.pairwise_mergeSort longer_trans longer_total _).imp of_decide_eq_true

theorem filter_symbolic_length (n : Nat) : ops.symbolic.filter (·.length = n) =
    (ops.tokens.filter isSymbolic).filter (·.length = n) := by
  have hperm : ops.symbolic.Perm (ops.tokens.filter isSymbolic) := List.mergeSort_perm _ _
  -- As they are, the tokens of one length are sorted already, and sorting is stable.
  have hsorted : ((ops.tokens.filter isSymbolic).filter (·.length = n)).Pairwise
      fun a b => decide (b.length ≤ a.length) = true := by
    refine List.pairwise_of_forall_mem_list fun a ha b hb => ?_
    have hla : a.length = n := by simpa using (List.mem_filter.1 ha).2
    have hlb : b.length = n := by simpa using (List.mem_filter.1 hb).2
    exact decide_eq_true (hlb.trans hla.symm).le
  have hkept := (List.sublist_mergeSort longer_trans longer_total hsorted
    List.filter_sublist).filter (·.length = n)
  rw [List.filter_filter] at hkept
  simp only [Bool.and_self] at hkept
  exact (hkept.eq_of_length (hperm.filter _).length_eq.symm).symm

theorem longestFirst_symbolic : LongestFirst ops.tokens ops.symbolic where
  perm := List.mergeSort_perm _ _
  ordered := by
    rw [List.pairwise_iff_forall_sublist]
    intro a b hab
    have hle := List.pairwise_iff_forall_sublist.1 ops.pairwise_symbolic hab
    rcases Nat.lt_or_eq_of_le hle with hlt | heq
    · exact .inl hlt
    · -- Among the tokens of their length both stand as they do in the table.
      have hboth : [a, b].filter (·.length = a.length) = [a, b] := by simp [heq]
      have htied := hab.filter (·.length = a.length)
      rw [hboth, filter_symbolic_length] at htied
      have hdeclared := htied.trans (List.filter_sublist.trans List.filter_sublist)
      have hplace := List.pairwise_iff_forall_sublist.1 ops.declaredBy_tokens.ordered hdeclared
      exact .inr ⟨heq, hplace⟩

/-- Of a second list, a table has the usable tokens that the first list lacks. -/
theorem tokens_ofList_append (ts us : List Text) : (ofList (ts ++ us)).tokens =
    (ofList ts).tokens ++ (ofList us).tokens.filter (· ∉ (ofList ts).tokens) := by
  rw [tokens_ofList, distinct_append, List.filter_append, ← tokens_ofList, List.filter_comm,
    ← tokens_ofList]
  congr 1
  refine List.filter_congr fun t ht => ?_
  have husable := ((declaredBy_ofList us).mem_iff t).1 ht
  rw [decide_eq_decide, (declaredBy_ofList ts).mem_iff t]
  exact not_congr ⟨fun h => ⟨h, husable.2⟩, And.left⟩

theorem tokens_ofList_eq_nil_iff {ts : List Text} :
    (ofList ts).tokens = [] ↔ ∀ t ∈ ts, ¬ IsOperator t := by
  rw [List.eq_nil_iff_forall_not_mem]
  simp only [(declaredBy_ofList ts).mem_iff, not_and]

theorem tokens_default : (ofList defaultTokens).tokens = defaultTokens := by decide +kernel

/-- The base of the tokens of a reading: those asked for, or the default ones if none is usable. -/
def baseTokens (o : ParseOptions) : List Text :=
  if (ofList o.operators).tokens = [] then defaultTokens else (ofList o.operators).tokens

theorem table_tokens (o : ParseOptions) : o.table.tokens =
    baseTokens o ++ (ofList o.extraOperators).tokens.filter (· ∉ baseTokens o) := by
  have hbase : baseTokens o = (ofList (if (ofList o.operators).tokens = [] then defaultTokens
      else o.operators)).tokens := by
    unfold baseTokens
    split
    · exact tokens_default.symm
    · rfl
  rw [hbase]
  exact tokens_ofList_append _ _

theorem baseTokens_ne_nil (o : ParseOptions) : baseTokens o ≠ [] := by
  unfold baseTokens
  split
  · decide
  · assumption

/-- A table made of a list has exactly its usable tokens, each where it first stands, knows no others,
sorts the symbolic ones by length alone, and is made again of its own tokens. The table of a reading is
never empty: it has the operators asked for, or the default ones if none of those is usable, and behind
them all further usable ones. -/
theorem table_invariant (ts : List Text) (o : ParseOptions) :
    let ops := ofList ts
    (∀ l, DeclaredBy ts l ↔ l = ops.tokens) ∧
    (∀ t, ops.has t = true ↔ t ∈ ops.tokens) ∧
    (∀ l, LongestFirst ops.tokens l ↔ l = ops.symbolic) ∧
    ofList ops.tokens = ops ∧
    o.table.tokens ≠ [] ∧
    (∀ t ∈ o.extraOperators, IsOperator t → t ∈ o.table.tokens) ∧
    ∃ base, o.table.tokens = base ++ (ofList o.extraOperators).tokens.filter (· ∉ base) ∧
      ((∃ t ∈ o.operators, IsOperator t) → base = (ofList o.operators).tokens) ∧
      ((∀ t ∈ o.operators, ¬ IsOperator t) →
        base = ["==", "!=", ">=", "<=", ">", "<"].map utf8) := by
  intro ops
  refine ⟨fun l => ?_, fun t => has_iff_mem, fun l => ?_, ofList_tokens ops, ?_, ?_, ?_⟩
  · constructor
    · exact fun h => h.unique (declaredBy_ofList ts)
    · rintro rfl
      exact declaredBy_ofList ts
  · constructor
    · exact fun h => h.unique (longestFirst_symbolic ops)
    · rintro rfl
      exact longestFirst_symbolic ops
  · rw [table_tokens]
    exact List.append_ne_nil_of_left_ne_nil (baseTokens_ne_nil o) _
  · intro t ht hu
    exact Script.mem_table_iff.2 ⟨isOperatorToken_iff.2 hu, .inl ht⟩
  · refine ⟨baseTokens o, table_tokens o, ?_, ?_⟩
    · rintro ⟨t, ht, hu⟩
      exact if_neg fun hnil => tokens_ofList_eq_nil_iff.1 hnil t ht hu
    · intro hnone
      exact if_pos (tokens_ofList_eq_nil_iff.2 hnone)

/-- Nothing asked for is usable; of the further operators one is a default one and one comes twice. -/
example : (ParseOptions.table
      { operators := [[], utf8 "a b"], extraOperators := [utf8 "in", utf8 "<", utf8 "in"] }).tokens =
    ["==", "!=", ">=", "<=", ">", "<", "in"].map utf8 := by
  decide +kernel

end OperatorTable
end RouteScript
