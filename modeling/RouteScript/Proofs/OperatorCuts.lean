import RouteScript.Proofs.ConditionReading

/-!
# Where conditions are cut

A condition without white space is cut at a symbolic operator behind its front: at the earliest
one, and at the longest of those that stand there. `Cut.BestOf` says this without an order among
the tokens: there is at most one best cut (`Cut.BestOf.unique`), since two tokens of one length at
one offset are the same bytes, and a scan of the tokens finds it (`bestOf_bestCut?`). So a cut
depends on which tokens there are and not on the order or the number of times they are given in
(`split?_congr`).
-/

namespace RouteScript

open Text

theorem Text.find?_some_spec {pat t : Text} {i : Nat} (h : find? pat t = some i) :
    pat <+: t.drop i ∧ ∀ j < i, ¬ pat <+: t.drop j := by
  induction t generalizing i with
  | nil =>
    simp only [find?] at h
    split at h
    · next hp =>
      cases h
      exact ⟨by simp [hp], by simp⟩
    · cases h
  | cons c t ih =>
    simp only [find?] at h
    split at h
    · next hp =>
      cases h
      exact ⟨List.isPrefixOf_iff_prefix.1 hp, by simp⟩
    · next hp =>
      obtain ⟨k, hk, rfl⟩ := Option.map_eq_some_iff.1 h
      obtain ⟨hstands, hfirst⟩ := ih hk
      refine ⟨hstands, fun j hj => ?_⟩
      cases j with
      | zero => exact fun hc => hp (List.isPrefixOf_iff_prefix.2 hc)
      | succ j => exact hfirst j (by omega)

theorem Text.find?_eq_none_iff {pat t : Text} : find? pat t = none ↔ ∀ j, ¬ pat <+: t.drop j := by
  induction t with
  | nil => simp [find?]
  | cons c t ih =>
    have hstep : (∀ j, ¬ pat <+: (c :: t).drop j) ↔ ¬ pat <+: c :: t ∧ ∀ j, ¬ pat <+: t.drop j := by
      constructor
      · intro h
        exact ⟨h 0, fun j => h (j + 1)⟩
      · rintro ⟨hfront, hrest⟩ j
        cases j with
        | zero => exact hfront
        | succ j => exact hrest j
    rw [hstep, ← ih, ← List.isPrefixOf_iff_prefix, find?]
    split
    · next hp => simp [hp]
    · next hp => simp [hp]

/-- A pattern is found exactly where it stands for the first time. -/
theorem Text.find?_eq_some_iff {pat t : Text} {i : Nat} :
    find? pat t = some i ↔ pat <+: t.drop i ∧ ∀ j < i, ¬ pat <+: t.drop j := by
  constructor
  · exact find?_some_spec
  · rintro ⟨hi, hfirst⟩
    cases hk : find? pat t with
    | none => exact absurd hi (find?_eq_none_iff.1 hk i)
    | some k =>
      obtain ⟨hstands, hbefore⟩ := find?_some_spec hk
      rcases Nat.lt_trichotomy k i with hlt | rfl | hgt
      · exact absurd hstands (hfirst k hlt)
      · rfl
      · exact absurd hi (hbefore i hgt)

namespace OperatorTable

theorem mem_symbolic_iff {ops : OperatorTable} {t : Text} :
    t ∈ ops.symbolic ↔ t ∈ ops.tokens ∧ isSymbolic t = true := by
  rw [symbolic, List.mem_mergeSort, List.mem_filter]

namespace Cut

variable {a b c : Cut}

theorem better_iff : a.better b = true ↔ a.offset < b.offset ∨
    a.offset = b.offset ∧ b.token.length < a.token.length := by
  simp [better]

theorem better_trans (hab : a.better b = true) (hbc : b.better c = true) : a.better c = true := by
  rw [better_iff] at hab hbc ⊢
  omega

theorem better_irrefl (a : Cut) : a.better a = false := by
  rw [Bool.eq_false_iff, ne_eq, better_iff]
  omega

end Cut

theorem cutAt?_eq_some_iff {s token : Text} {c : Cut} : cutAt? s token = some c ↔
    c.token = token ∧ 0 < c.offset ∧ token <+: s.drop c.offset ∧
      ∀ j < c.offset, ¬ token <+: s.drop j := by
  constructor
  · intro h
    unfold cutAt? at h
    split at h
    · next i hi =>
      cases h
      exact ⟨rfl, Nat.succ_pos i, find?_some_spec hi⟩
    · cases h
  · rintro ⟨rfl, hpos, hstands⟩
    obtain ⟨i, token⟩ := c
    cases i with
    | zero => exact absurd hpos (Nat.lt_irrefl 0)
    | succ i => rw [cutAt?, find?_eq_some_iff.2 hstands]

/-- No token can be cut at, or no cut at a token is better than the given one. -/
inductive Cut.BestOf (s : Text) (tokens : List Text) : Option Cut → Prop where
  | none : (∀ t ∈ tokens, cutAt? s t = Option.none) → BestOf s tokens Option.none
  | some {c : Cut} : c.token ∈ tokens → cutAt? s c.token = Option.some c →
      (∀ t ∈ tokens, ∀ d, cutAt? s t = Option.some d → d.better c = false) →
      BestOf s tokens (Option.some c)

/-- Two cuts of a text of which neither is better are the same. -/
theorem eq_of_not_better {s : Text} {c d : Cut} (hc : cutAt? s c.token = some c)
    (hd : cutAt? s d.token = some d) (hcd : c.better d = false) (hdc : d.better c = false) :
    c = d := by
  have hplace : c.offset = d.offset ∧ c.token.length = d.token.length := by
    rw [Bool.eq_false_iff, ne_eq, Cut.better_iff] at hcd hdc
    omega
  obtain ⟨-, -, hcp, -⟩ := cutAt?_eq_some_iff.1 hc
  obtain ⟨-, -, hdp, -⟩ := cutAt?_eq_some_iff.1 hd
  rw [hplace.1] at hcp
  have hshort := List.prefix_of_prefix_length_le hcp hdp hplace.2.le
  have htoken : c.token = d.token := hshort.eq_of_length hplace.2
  cases c
  cases d
  simp_all

theorem Cut.BestOf.unique {s : Text} {tokens tokens' : List Text} {x y : Option Cut}
    (h : ∀ t, t ∈ tokens ↔ t ∈ tokens') (hx : BestOf s tokens x) (hy : BestOf s tokens' y) :
    x = y := by
  cases hx with
  | none hx =>
    cases hy with
    | none _ => rfl
    | some hm hd _ =>
      have hnone := hx _ ((h _).2 hm)
      cases hnone.symm.trans hd
  | some hm hc hbest =>
    cases hy with
    | none hy =>
      have hnone := hy _ ((h _).1 hm)
      cases hnone.symm.trans hc
    | some hm' hd hbest' =>
      have hcd := hbest' _ ((h _).1 hm) _ hc
      have hdc := hbest _ ((h _).2 hm') _ hd
      rw [eq_of_not_better hc hd hcd hdc]

theorem forall_not_better_concat {s t : Text} {seen : List Text} {c d : Cut}
    (hseen : ∀ u ∈ seen, ∀ e, cutAt? s u = some e → e.better c = false)
    (ht : cutAt? s t = some d) (hd : d.better c = false) :
    ∀ u ∈ seen ++ [t], ∀ e, cutAt? s u = some e → e.better c = false := by
  refine List.forall_mem_append.2 ⟨hseen, List.forall_mem_singleton.2 fun e he => ?_⟩
  cases ht.symm.trans he
  exact hd

theorem bestOf_betterCut {s : Text} {seen : List Text} {best : Option Cut}
    (h : Cut.BestOf s seen best) (t : Text) :
    Cut.BestOf s (seen ++ [t]) (betterCut s best t) := by
  unfold betterCut
  cases ht : cutAt? s t with
  | none =>
    cases h with
    | none hn =>
      exact .none (List.forall_mem_append.2 ⟨hn, List.forall_mem_singleton.2 ht⟩)
    | some hm hc hbest =>
      refine .some (List.mem_append_left _ hm) hc (List.forall_mem_append.2 ⟨hbest, ?_⟩)
      simp [ht]
  | some d =>
    have hd : d.token = t := cutAt?_token ht
    have hdt : cutAt? s d.token = some d := by rw [hd, ht]
    have hmem : d.token ∈ seen ++ [t] := by simp [hd]
    cases h with
    | none hn =>
      refine .some hmem hdt (forall_not_better_concat (fun u hu e he => ?_) ht (Cut.better_irrefl d))
      cases (hn u hu).symm.trans he
    | @some c hm hc hbest =>
      dsimp only
      split
      · next hbetter =>
        refine .some hmem hdt
          (forall_not_better_concat (fun u hu e he => ?_) ht (Cut.better_irrefl d))
        refine Bool.eq_false_iff.2 fun hed => ?_
        have hec := Cut.better_trans hed hbetter
        rw [hbest u hu e he] at hec
        cases hec
      · next hbetter =>
        exact .some (List.mem_append_left _ hm) hc
          (forall_not_better_concat hbest ht (Bool.eq_false_iff.2 hbetter))

/-- A scan of the tokens finds the best cut. -/
theorem bestOf_bestCut? (tokens : List Text) (s : Text) :
    Cut.BestOf s tokens (bestCut? tokens s) := by
  have run : ∀ (rest seen : List Text) (best : Option Cut), Cut.BestOf s seen best →
      Cut.BestOf s (seen ++ rest) (rest.foldl (betterCut s) best) := by
    intro rest
    induction rest with
    | nil =>
      intro seen best h
      simpa using h
    | cons t rest ih =>
      intro seen best h
      have hrest := ih (seen ++ [t]) (betterCut s best t) (bestOf_betterCut h t)
      rwa [List.append_assoc] at hrest
  exact run tokens [] none (.none (by simp))

theorem bestCut?_congr {tokens tokens' : List Text} (h : ∀ t, t ∈ tokens ↔ t ∈ tokens') (s : Text) :
    bestCut? tokens s = bestCut? tokens' s :=
  (bestOf_bestCut? tokens s).unique h (bestOf_bestCut? tokens' s)

/-- Tables with the same symbolic tokens cut alike. -/
theorem split?_congr {ops ops' : OperatorTable} (h : ∀ t, t ∈ ops.symbolic ↔ t ∈ ops'.symbolic)
    (s : Text) : ops.split? s = ops'.split? s := by
  have hany : ∀ p : Text → Bool, ops.symbolic.any p = ops'.symbolic.any p := by
    intro p
    rw [Bool.eq_iff_iff, List.any_eq_true, List.any_eq_true]
    simp only [h]
  rw [split?, split?, bestCut?_congr h]
  simp only [hany]

end OperatorTable
end RouteScript
