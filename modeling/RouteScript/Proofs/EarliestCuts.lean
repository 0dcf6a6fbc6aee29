import RouteScript.Proofs.OperatorCuts

/-!
# The tokens around a cut

A compact condition is cut at a symbolic token. Which one is said here by where tokens stand in the
text (`bestCut?_eq_some_iff`): tokens that the text begins with are passed over, of all others none
stands in front of the cut, and none that is longer stands in its place. So a cut is the earliest and
longest one if the text begins with no token, and only then (`split?_earliest_iff`): a token at the
front is not seen as a missing operand when another token begins inside it
(`split?_inside_first_token`).
-/

namespace RouteScript

open Text

namespace Text

variable {pat t : Text}

theorem isInfix_of_stands {i : Nat} (h : pat <+: t.drop i) : pat <:+: t :=
  h.isInfix.trans (List.drop_suffix i t).isInfix

theorem holds_eq_true_iff : t.holds pat = true ↔ pat <:+: t := by
  constructor
  · intro h
    obtain ⟨i, hi⟩ := Option.isSome_iff_exists.1 h
    exact isInfix_of_stands (find?_some_spec hi).1
  · rintro ⟨a, b, rfl⟩
    rw [holds, Option.isSome_iff_ne_none, ne_eq, find?_eq_none_iff, not_forall]
    refine ⟨a.length, not_not.2 ?_⟩
    rw [List.append_assoc, List.drop_left]
    exact List.prefix_append pat b

end Text

namespace OperatorTable

/-- The cut is at a token that stands in the text, not at the front. Of the tokens that the text does
not begin with, none stands in front of the cut and none that is longer stands in its place. -/
structure Cut.Foremost (tokens : List Text) (s : Text) (c : Cut) : Prop where
  member : c.token ∈ tokens
  inside : 0 < c.offset
  stands : c.token <+: s.drop c.offset
  behind : ¬ c.token <+: s
  earliest : ∀ t ∈ tokens, ¬ t <+: s → ∀ j < c.offset, ¬ t <+: s.drop j
  longest : ∀ t ∈ tokens, ¬ t <+: s → t <+: s.drop c.offset → t.length ≤ c.token.length

variable {tokens : List Text} {s : Text} {c : Cut}

/-- A token that the text does not begin with can be cut at where it first stands. -/
theorem exists_cutAt?_le {t : Text} {j : Nat} (hfront : ¬ t <+: s) (hj : t <+: s.drop j) :
    ∃ d, cutAt? s t = some d ∧ d.token = t ∧ d.offset ≤ j := by
  cases hf : find? t s with
  | none => exact absurd hj (find?_eq_none_iff.1 hf j)
  | some k =>
    obtain ⟨hstands, hbefore⟩ := find?_some_spec hf
    have hk : 0 < k := by
      rcases Nat.eq_zero_or_pos k with rfl | hk
      · exact absurd hstands hfront
      · exact hk
    refine ⟨⟨k, t⟩, cutAt?_eq_some_iff.2 ⟨rfl, hk, hstands, hbefore⟩, rfl, ?_⟩
    by_contra hlt
    exact hbefore j (Nat.lt_of_not_le hlt) hj

theorem bestOf_some_iff : Cut.BestOf s tokens (some c) ↔ c.Foremost tokens s := by
  constructor
  · rintro (_ | ⟨hmem, hcut, hbest⟩)
    obtain ⟨-, hpos, hstands, hfirst⟩ := cutAt?_eq_some_iff.1 hcut
    refine ⟨hmem, hpos, hstands, hfirst 0 hpos, ?_, ?_⟩
    · intro t ht hfront j hj hstandsj
      obtain ⟨d, hd, -, hle⟩ := exists_cutAt?_le hfront hstandsj
      have hbetter : d.better c = true := Cut.better_iff.2 (.inl (by omega))
      rw [hbest t ht d hd] at hbetter
      cases hbetter
    · intro t ht hfront hplace
      obtain ⟨d, hd, rfl, hle⟩ := exists_cutAt?_le hfront hplace
      have hbetter := Bool.eq_false_iff.1 (hbest _ ht d hd)
      rw [ne_eq, Cut.better_iff] at hbetter
      omega
  · intro h
    have hcut : cutAt? s c.token = some c :=
      cutAt?_eq_some_iff.2 ⟨rfl, h.inside, h.stands, h.earliest _ h.member h.behind⟩
    refine .some h.member hcut fun t ht d hd => Bool.eq_false_iff.2 fun hbetter => ?_
    obtain ⟨rfl, hpos, hstands, hfirst⟩ := cutAt?_eq_some_iff.1 hd
    have hfront : ¬ d.token <+: s := hfirst 0 hpos
    rcases Cut.better_iff.1 hbetter with hlt | ⟨heq, hlen⟩
    · exact h.earliest _ ht hfront _ hlt hstands
    · have hle := h.longest _ ht hfront (heq ▸ hstands)
      omega

/-- The scan of the tokens stops at the foremost cut and at no other. -/
theorem bestCut?_eq_some_iff : bestCut? tokens s = some c ↔ c.Foremost tokens s := by
  constructor
  · intro h
    rw [← bestOf_some_iff, ← h]
    exact bestOf_bestCut? tokens s
  · intro h
    exact (bestOf_bestCut? tokens s).unique (fun _ => Iff.rfl) (bestOf_some_iff.2 h)

theorem Cut.Foremost.exists_around (h : c.Foremost tokens s) :
    ∃ a b, s = a ++ (c.token ++ b) ∧ a.length = c.offset := by
  obtain ⟨b, hb⟩ := h.stands
  refine ⟨s.take c.offset, b, by rw [hb, List.take_append_drop], ?_⟩
  rw [List.length_take, Nat.min_eq_left]
  by_contra hlt
  rw [List.drop_eq_nil_of_le (by omega), List.append_eq_nil_iff] at hb
  exact h.behind (hb.1 ▸ List.nil_prefix)

/-- What a condition is cut into: the cut is the foremost one, and each part trims to an operand that
hides no token. -/
structure Parts (ops : OperatorTable) (a op b l r : Text) : Prop where
  cut : Cut.Foremost ops.symbolic (a ++ (op ++ b)) ⟨a.length, op⟩
  left : trim a = l
  right : trim b = r
  left_single : isSingle l = true
  right_single : isSingle r = true
  left_free : ∀ t ∈ ops.symbolic, ¬ t <:+: l
  right_free : ∀ t ∈ ops.symbolic, ¬ t <:+: r

variable {ops : OperatorTable} {a b l op r : Text}

theorem hides_no_token_iff : (!ops.symbolic.any fun t => l.holds t || r.holds t) = true ↔
    (∀ t ∈ ops.symbolic, ¬ t <:+: l) ∧ ∀ t ∈ ops.symbolic, ¬ t <:+: r := by
  simp only [Bool.not_eq_true', List.any_eq_false, Bool.or_eq_true, not_or, holds_eq_true_iff]
  constructor
  · intro h
    exact ⟨fun t ht => (h t ht).1, fun t ht => (h t ht).2⟩
  · intro h t ht
    exact ⟨h.1 t ht, h.2 t ht⟩

theorem split?_eq_some_iff :
    ops.split? s = some (l, op, r) ↔ ∃ a b, s = a ++ (op ++ b) ∧ ops.Parts a op b l r := by
  have hdrop : ∀ a op b : Text, (a ++ (op ++ b)).drop (a.length + op.length) = b := by
    intro a op b
    rw [← List.drop_drop, List.drop_left, List.drop_left]
  constructor
  · intro h
    unfold split? at h
    split at h
    · cases h
    next c hc =>
    have hcut := bestCut?_eq_some_iff.1 hc
    obtain ⟨a, b, rfl, ha⟩ := hcut.exists_around
    obtain ⟨offset, token⟩ := c
    subst ha
    simp only [List.take_left, hdrop] at h
    split at h
    · next hparts =>
      rw [Bool.and_eq_true, Bool.and_eq_true, hides_no_token_iff] at hparts
      obtain ⟨⟨hl, hr⟩, hlfree, hrfree⟩ := hparts
      cases h
      exact ⟨a, b, rfl, hcut, rfl, rfl, hl, hr, hlfree, hrfree⟩
    · cases h
  · rintro ⟨a, b, rfl, h⟩
    have hparts := hides_no_token_iff.2 ⟨h.left_free, h.right_free⟩
    rw [split?, bestCut?_eq_some_iff.2 h.cut]
    simp only [List.take_left, hdrop, h.left, h.right]
    rw [if_pos]
    rw [hparts, h.left_single, h.right_single]
    rfl

theorem symbolic_of_pairwise {ts : List Text} (h : ops.tokens.filter isSymbolic = ts)
    (hts : ts.Pairwise fun t u => u.length ≤ t.length) : ops.symbolic = ts := by
  rw [symbolic, h]
  exact List.mergeSort_of_pairwise (hts.imp fun hle => decide_eq_true hle)

theorem symbolic_default : default.symbolic = defaultTokens :=
  symbolic_of_pairwise (by decide +kernel) (by decide +kernel)

/-- The operands of a cut hold no token. No token stands in front of the cut and no longer one in its
place if the text begins with no token, and only then. -/
theorem split?_earliest_iff (h : ops.split? s = some (l, op, r)) :
    ∃ a b, s = a ++ (op ++ b) ∧ bestCut? ops.symbolic s = some ⟨a.length, op⟩ ∧
      trim a = l ∧ trim b = r ∧ (∀ t ∈ ops.symbolic, l.holds t = false ∧ r.holds t = false) ∧
      ((∀ t ∈ ops.symbolic, (∀ j < a.length, ¬ t <+: s.drop j) ∧
          (t <+: s.drop a.length → t.length ≤ op.length)) ↔
        ∀ t ∈ ops.symbolic, ¬ t <+: s) := by
  obtain ⟨a, b, rfl, hparts⟩ := split?_eq_some_iff.1 h
  have hcut := hparts.cut
  refine ⟨a, b, rfl, bestCut?_eq_some_iff.2 hcut, hparts.left, hparts.right, ?_, ?_, ?_⟩
  · intro t ht
    rw [Bool.eq_false_iff, Bool.eq_false_iff, ne_eq, ne_eq, holds_eq_true_iff, holds_eq_true_iff]
    exact ⟨hparts.left_free t ht, hparts.right_free t ht⟩
  · intro hnone t ht
    exact (hnone t ht).1 0 hcut.inside
  · intro hfront t ht
    exact ⟨hcut.earliest t ht (hfront t ht), hcut.longest t ht (hfront t ht)⟩

/-- The tokens begin inside each other, and the longest one of those that stand first is cut at. -/
theorem split?_earliest_iff_overlapping :
    let ops := ofList [utf8 ">=~", utf8 ">=", utf8 "=~", utf8 "="]
    let s := utf8 "a >=~b"
    ops.split? s = some (utf8 "a", utf8 ">=~", utf8 "b") ∧
    (∀ t ∈ ops.symbolic, ¬ t <+: s) ∧
    ∀ t ∈ ops.symbolic, (∀ j < 2, ¬ t <+: s.drop j) ∧ (t <+: s.drop 2 → t.length ≤ 3) := by
  intro ops s
  have hsymbolic : ops.symbolic = [utf8 ">=~", utf8 ">=", utf8 "=~", utf8 "="] :=
    symbolic_of_pairwise (by decide +kernel) (by decide +kernel)
  have h : ops.split? s = some (utf8 "a", utf8 ">=~", utf8 "b") := by
    rw [split?, hsymbolic]
    decide +kernel
  have hplace : bestCut? ops.symbolic s = some ⟨2, utf8 ">=~"⟩ := by
    rw [hsymbolic]
    decide +kernel
  have hfront : ∀ t ∈ ops.symbolic, ¬ t <+: s := by
    rw [hsymbolic]
    decide +kernel
  obtain ⟨a, b, -, hbest, -, -, -, hiff⟩ := split?_earliest_iff h
  have ha : a.length = 2 := by simpa using hbest.symm.trans hplace
  rw [ha] at hiff
  exact ⟨h, hfront, hiff.2 hfront⟩

/-- A text that begins with a token is cut all the same: `!=` stands in front of the cut at `==`. -/
theorem split?_inside_first_token :
    default.split? (utf8 "!==b") = some (utf8 "!", utf8 "==", utf8 "b") ∧
    bestCut? default.symbolic (utf8 "!==b") = some ⟨1, utf8 "=="⟩ ∧
    utf8 "!=" ∈ default.symbolic ∧ utf8 "!=" <+: utf8 "!==b" := by
  rw [split?, symbolic_default]
  decide +kernel

end OperatorTable
end RouteScript
