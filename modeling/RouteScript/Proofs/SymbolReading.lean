import RouteScript.Text.Symbol

/-!
# Reading joined and divided texts

How the symbols of a text relate to those of its parts. A character is read back from its encoding
whatever follows it (`symbols_encoding_append`). Two texts are read one after the other when the
second starts with no continuation byte (`symbols_append`); every ASCII byte is such a start. In the
other direction a run of symbols of a text is read from its own bytes alone
(`symbols_ofSymbols_of_isInfix`), stray bytes included, so a text may be cut at its symbols without
changing how the pieces are read.
-/

namespace RouteScript

def Symbol.ascii (b : UInt8) : Symbol := .scalar (Char.ofNat b.toNat)

namespace Text

theorem toNat_ofNat_of_lt {n : Nat} (h : n < 256) : (UInt8.ofNat n).toNat = n := by
  simp [Nat.mod_eq_of_lt h]

theorem isContinuation_eq (b : UInt8) :
    isContinuation b = decide (0x80 ≤ b.toNat ∧ b.toNat < 0xC0) := by
  simp [isContinuation, UInt8.le_iff_toNat_le, UInt8.lt_iff_toNat_lt]

theorem isContinuation_ofNat {n : Nat} (h : 0x80 ≤ n ∧ n < 0xC0) :
    isContinuation (UInt8.ofNat n) = true := by
  rw [isContinuation_eq, toNat_ofNat_of_lt (by omega)]
  simpa using h

theorem scalarFrom?_toNat {least : Nat} {c : Char} (h : least ≤ c.toNat) :
    scalarFrom? least c.toNat = some c := by
  have hv : c.toNat.isValidChar := c.valid
  simp [scalarFrom?, h, hv]

theorem leading?_one {a : UInt8} (ha : a.toNat < 0x80) (t : Text) :
    leading? a t = some (Char.ofNat a.toNat) := by
  have h : a < 0x80 := UInt8.lt_iff_toNat_lt.2 ha
  simp [leading?, h]

theorem leading?_two {a b : UInt8} (ha : 0xC0 ≤ a.toNat ∧ a.toNat < 0xE0)
    (hb : isContinuation b = true) (t : Text) : leading? a (b :: t) =
      scalarFrom? 0x80 ((a.toNat - 0xC0) * 64 + (b.toNat - 0x80)) := by
  have h1 : ¬ a.toNat < 128 := by omega
  have h2 : ¬ a.toNat < 192 := by omega
  simp [leading?, UInt8.lt_iff_toNat_lt, h1, h2, ha.2, hb]

theorem leading?_three {a b c : UInt8} (ha : 0xE0 ≤ a.toNat ∧ a.toNat < 0xF0)
    (hb : isContinuation b = true) (hc : isContinuation c = true) (t : Text) :
    leading? a (b :: c :: t) = scalarFrom? 0x800
      ((a.toNat - 0xE0) * 4096 + (b.toNat - 0x80) * 64 + (c.toNat - 0x80)) := by
  have h1 : ¬ a.toNat < 128 := by omega
  have h2 : ¬ a.toNat < 192 := by omega
  have h3 : ¬ a.toNat < 224 := by omega
  simp [leading?, UInt8.lt_iff_toNat_lt, h1, h2, h3, ha.2, hb, hc]

theorem leading?_four {a b c d : UInt8} (ha : 0xF0 ≤ a.toNat ∧ a.toNat < 0xF8)
    (hb : isContinuation b = true) (hc : isContinuation c = true) (hd : isContinuation d = true)
    (t : Text) : leading? a (b :: c :: d :: t) = scalarFrom? 0x10000
      ((a.toNat - 0xF0) * 262144 + (b.toNat - 0x80) * 4096 + (c.toNat - 0x80) * 64
        + (d.toNat - 0x80)) := by
  have h1 : ¬ a.toNat < 128 := by omega
  have h2 : ¬ a.toNat < 192 := by omega
  have h3 : ¬ a.toNat < 224 := by omega
  have h4 : ¬ a.toNat < 240 := by omega
  simp [leading?, UInt8.lt_iff_toNat_lt, h1, h2, h3, h4, ha.2, hb, hc, hd]

/-- The encoding of a scalar value is a leading byte and continuation bytes, and it is read back
whatever follows it. -/
theorem encoding_spec (c : Char) : ∃ a r, String.utf8EncodeChar c = a :: r ∧
    (∀ b ∈ r, isContinuation b = true) ∧ ∀ u, leading? a (r ++ u) = some c := by
  have hv : c.toNat < 0x110000 := by
    rcases c.valid with h | h
    · exact Nat.lt_trans h (by decide)
    · exact h.2
  rw [utf8EncodeChar_eq_of_toNat]
  split
  · next h1 =>
    have ha := toNat_ofNat_of_lt (n := c.toNat) (by omega)
    refine ⟨_, _, rfl, by simp, fun u => ?_⟩
    rw [List.nil_append, leading?_one (by omega), ha, Char.ofNat_toNat]
  next h1 =>
  have hl := isContinuation_ofNat (n := c.toNat % 64 + 128) (by omega)
  have hn := toNat_ofNat_of_lt (n := c.toNat % 64 + 128) (by omega)
  split
  · next h2 =>
    have ha := toNat_ofNat_of_lt (n := c.toNat / 64 % 32 + 192) (by omega)
    refine ⟨_, _, rfl, List.forall_mem_singleton.2 hl, fun u => ?_⟩
    rw [List.cons_append, leading?_two (by omega) hl, ha, hn,
      show (c.toNat / 64 % 32 + 192 - 192) * 64 + (c.toNat % 64 + 128 - 128) = c.toNat by omega]
    exact scalarFrom?_toNat (by omega)
  next h2 =>
  have hl' := isContinuation_ofNat (n := c.toNat / 64 % 64 + 128) (by omega)
  have hn' := toNat_ofNat_of_lt (n := c.toNat / 64 % 64 + 128) (by omega)
  split
  · next h3 =>
    have ha := toNat_ofNat_of_lt (n := c.toNat / 4096 % 16 + 224) (by omega)
    refine ⟨_, _, rfl, List.forall_mem_cons.2 ⟨hl', List.forall_mem_singleton.2 hl⟩, fun u => ?_⟩
    rw [List.cons_append, List.cons_append, leading?_three (by omega) hl' hl, ha, hn, hn',
      show (c.toNat / 4096 % 16 + 224 - 224) * 4096 + (c.toNat / 64 % 64 + 128 - 128) * 64
        + (c.toNat % 64 + 128 - 128) = c.toNat by omega]
    exact scalarFrom?_toNat (by omega)
  · next h3 =>
    have hl'' := isContinuation_ofNat (n := c.toNat / 4096 % 64 + 128) (by omega)
    have hn'' := toNat_ofNat_of_lt (n := c.toNat / 4096 % 64 + 128) (by omega)
    have ha := toNat_ofNat_of_lt (n := c.toNat / 262144 % 8 + 240) (by omega)
    refine ⟨_, _, rfl, List.forall_mem_cons.2 ⟨hl'', List.forall_mem_cons.2
      ⟨hl', List.forall_mem_singleton.2 hl⟩⟩, fun u => ?_⟩
    rw [List.cons_append, List.cons_append, List.cons_append,
      leading?_four (by omega) hl'' hl' hl, ha, hn, hn', hn'',
      show (c.toNat / 262144 % 8 + 240 - 240) * 262144 + (c.toNat / 4096 % 64 + 128 - 128) * 4096
        + (c.toNat / 64 % 64 + 128 - 128) * 64 + (c.toNat % 64 + 128 - 128) = c.toNat by omega]
    exact scalarFrom?_toNat (by omega)

theorem leading?_eq_some_iff {a : UInt8} {t : Text} {c : Char} :
    leading? a t = some c ↔ ∃ u, a :: t = String.utf8EncodeChar c ++ u := by
  constructor
  · intro h
    exact ⟨_, (bytes_append_of_leading? h).symm⟩
  · rintro ⟨u, hu⟩
    obtain ⟨b, r, he, -, hr⟩ := encoding_spec c
    rw [he, List.cons_append, List.cons.injEq] at hu
    rw [hu.1, hu.2]
    exact hr u

/-- The text starts with no continuation byte, so that nothing in front of it can swallow its first
byte. -/
def startsFresh (u : Text) : Bool := !u.head?.any isContinuation

theorem leading?_continuation {a : UInt8} (ha : isContinuation a = true) (t : Text) :
    leading? a t = none := by
  obtain ⟨hlow, hhigh⟩ := isContinuation_bounds ha
  have h1 : ¬ a.toNat < 128 := by omega
  simp [leading?, UInt8.lt_iff_toNat_lt, h1, hhigh]

theorem startsFresh_encoding (c : Char) (u : Text) :
    startsFresh (String.utf8EncodeChar c ++ u) = true := by
  obtain ⟨a, r, he, -, hr⟩ := encoding_spec c
  have ha : isContinuation a = false := by
    cases hc : isContinuation a with
    | false => rfl
    | true =>
      have hn := leading?_continuation hc (r ++ u)
      rw [hr u] at hn
      cases hn
  simp [startsFresh, he, ha]

theorem leading?_append {a : UInt8} (t : Text) {u : Text} (hu : startsFresh u = true) :
    leading? a (t ++ u) = leading? a t := by
  apply Option.ext
  intro c
  rw [leading?_eq_some_iff, leading?_eq_some_iff]
  obtain ⟨b, r, he, hr, -⟩ := encoding_spec c
  simp only [he, List.cons_append, List.cons.injEq, exists_and_left, and_congr_right_iff]
  intro _
  constructor
  · rintro ⟨v, hv⟩
    rcases List.append_eq_append_iff.1 hv with ⟨w, hw, hu'⟩ | ⟨w, hw, -⟩
    · -- A byte of `u` inside the encoding would be a continuation byte.
      cases w with
      | nil => exact ⟨[], by simpa using hw.symm⟩
      | cons x w =>
        have hx := hr x (by simp [hw])
        simp [startsFresh, hu', hx] at hu
    · exact ⟨w, hw⟩
  · rintro ⟨v, rfl⟩
    exact ⟨v ++ u, by simp⟩

theorem leading?_append_of_some {a : UInt8} {t : Text} {c : Char} (h : leading? a t = some c)
    (u : Text) : leading? a (t ++ u) = some c := by
  obtain ⟨v, hv⟩ := leading?_eq_some_iff.1 h
  exact leading?_eq_some_iff.2 ⟨v ++ u, by rw [← List.cons_append, hv, List.append_assoc]⟩

@[simp] theorem symbols_nil : symbols [] = [] := rfl

theorem symbols_cons_of_none {b : UInt8} {t : Text} (h : leading? b t = none) :
    symbols (b :: t) = .stray b :: symbols t := by
  simp [symbols, symbolsFrom, h]

theorem symbols_encoding_append (c : Char) (u : Text) :
    symbols (String.utf8EncodeChar c ++ u) = .scalar c :: symbols u := by
  obtain ⟨a, r, he, -, hr⟩ := encoding_spec c
  have hrest : symbolsFrom (c.utf8Size - 1) (r ++ u) = symbols u := by
    rw [symbolsFrom_eq_drop, utf8Size_of_encoding he, List.drop_left]
    rfl
  rw [he, List.cons_append, symbols, symbolsFrom, hr u]
  exact congrArg _ hrest

theorem encoding_ascii {b : UInt8} (hb : b < 0x80) :
    String.utf8EncodeChar (Char.ofNat b.toNat) = [b] :=
  encoding_one (UInt8.lt_iff_toNat_lt.1 hb)

theorem bytes_ascii {b : UInt8} (hb : b < 0x80) : (Symbol.ascii b).bytes = [b] :=
  encoding_ascii hb

theorem symbols_cons_ascii {b : UInt8} (hb : b < 0x80) (t : Text) :
    symbols (b :: t) = .ascii b :: symbols t := by
  rw [Symbol.ascii, ← symbols_encoding_append, encoding_ascii hb, List.singleton_append]

theorem symbols_append (t : Text) {u : Text} (hu : startsFresh u = true) :
    symbols (t ++ u) = symbols t ++ symbols u := by
  induction h : t.length using Nat.strongRecOn generalizing t with
  | ind n ih =>
    cases t with
    | nil => simp
    | cons b t =>
      cases hb : leading? b t with
      | none =>
        rw [List.cons_append, symbols_cons_of_none ((leading?_append t hu).trans hb),
          symbols_cons_of_none hb, ih t.length (by simp at h; omega) t rfl, List.cons_append]
      | some c =>
        obtain ⟨v, hv⟩ := leading?_eq_some_iff.1 hb
        have hlt : v.length < n := by
          have hl := congrArg List.length hv
          have := c.utf8Size_pos
          simp only [List.length_append, String.length_utf8EncodeChar] at hl
          omega
        rw [hv, List.append_assoc, symbols_encoding_append, symbols_encoding_append,
          ih v.length hlt v rfl, List.cons_append]

theorem startsFresh_ascii {b : UInt8} (hb : b < 0x80) (t : Text) : startsFresh (b :: t) = true := by
  have h : b.toNat < 0x80 := UInt8.lt_iff_toNat_lt.1 hb
  simp [startsFresh, isContinuation_eq, show ¬ 0x80 ≤ b.toNat by omega]

/-- An ASCII byte is a symbol of its own wherever it stands. -/
theorem symbols_append_ascii (t : Text) {b : UInt8} (hb : b < 0x80) (u : Text) :
    symbols (t ++ b :: u) = symbols t ++ .ascii b :: symbols u := by
  rw [symbols_append t (startsFresh_ascii hb u), symbols_cons_ascii hb]

theorem ascii_mem_symbols {b : UInt8} (hb : b < 0x80) {t : Text} (h : b ∈ t) :
    .ascii b ∈ symbols t := by
  obtain ⟨u, v, rfl⟩ := List.append_of_mem h
  rw [symbols_append_ascii u hb]
  exact List.mem_append_right _ List.mem_cons_self

@[simp] theorem ofSymbols_nil : ofSymbols [] = [] := rfl

theorem ofSymbols_append (p q : List Symbol) : ofSymbols (p ++ q) = ofSymbols p ++ ofSymbols q :=
  List.flatMap_append

theorem ofSymbols_cons (s : Symbol) (p : List Symbol) :
    ofSymbols (s :: p) = s.bytes ++ ofSymbols p :=
  List.flatMap_cons

theorem isValid_iff {t : Text} : isValid t = true ↔ ∀ s ∈ symbols t, s.isStray = false := by
  simp [isValid]

theorem symbols_ofSymbols_append {ss : List Symbol} (h : ∀ s ∈ ss, s.isStray = false) (u : Text) :
    symbols (ofSymbols ss ++ u) = ss ++ symbols u := by
  induction ss with
  | nil => rfl
  | cons s ss ih =>
    obtain ⟨hs, hss⟩ := List.forall_mem_cons.1 h
    cases s with
    | stray b => cases hs
    | scalar c =>
      rw [ofSymbols_cons, List.append_assoc, Symbol.bytes, symbols_encoding_append, ih hss]
      rfl

/-- UTF-8 is read as such whatever stands behind it. -/
theorem symbols_valid_append {t : Text} (ht : isValid t = true) (u : Text) :
    symbols (t ++ u) = symbols t ++ symbols u := by
  have h := symbols_ofSymbols_append (isValid_iff.1 ht) u
  rwa [ofSymbols_symbols] at h

theorem symbols_eq_cons {t : Text} {s : Symbol} {ss : List Symbol} (h : symbols t = s :: ss) :
    symbols (ofSymbols ss) = ss ∧
      ∀ p, p <+: ss → symbols (s.bytes ++ ofSymbols p) = s :: symbols (ofSymbols p) := by
  cases t with
  | nil => simp at h
  | cons b t =>
    cases hb : leading? b t with
    | none =>
      rw [symbols_cons_of_none hb, List.cons.injEq] at h
      obtain ⟨rfl, rfl⟩ := h
      refine ⟨by rw [ofSymbols_symbols], ?_⟩
      rintro p ⟨q, hq⟩
      have ht : t = ofSymbols p ++ ofSymbols q := by
        rw [← ofSymbols_append, hq, ofSymbols_symbols]
      -- More bytes behind `b` could only help to find a character at `b`.
      have hp : leading? b (ofSymbols p) = none := by
        cases hp : leading? b (ofSymbols p) with
        | none => rfl
        | some c =>
          rw [ht, leading?_append_of_some hp] at hb
          contradiction
      exact symbols_cons_of_none hp
    | some c =>
      obtain ⟨v, hv⟩ := leading?_eq_some_iff.1 hb
      rw [hv, symbols_encoding_append, List.cons.injEq] at h
      obtain ⟨rfl, rfl⟩ := h
      exact ⟨by rw [ofSymbols_symbols], fun p _ => symbols_encoding_append c _⟩

theorem symbols_ofSymbols_of_isPrefix {t : Text} {p : List Symbol} (h : p <+: symbols t) :
    symbols (ofSymbols p) = p := by
  induction p generalizing t with
  | nil => rfl
  | cons s p ih =>
    obtain ⟨q, hq⟩ := h
    rw [List.cons_append] at hq
    obtain ⟨hs, hp⟩ := symbols_eq_cons hq.symm
    have hpre : p <+: symbols (ofSymbols (p ++ q)) := by
      rw [hs]
      exact List.prefix_append p q
    rw [ofSymbols_cons, hp p (List.prefix_append p q), ih hpre]

theorem symbols_ofSymbols_of_isSuffix {t : Text} {q : List Symbol} (h : q <:+ symbols t) :
    symbols (ofSymbols q) = q := by
  obtain ⟨p, hp⟩ := h
  induction p generalizing t with
  | nil => rw [← List.nil_append q, hp, ofSymbols_symbols]
  | cons s p ih => exact ih ((symbols_eq_cons hp.symm).1.symm)

/-- A run of symbols of a text is read from its own bytes. -/
theorem symbols_ofSymbols_of_isInfix {t : Text} {p : List Symbol} (h : p <:+: symbols t) :
    symbols (ofSymbols p) = p := by
  obtain ⟨a, b, hab⟩ := h
  have hpre : a ++ p <+: symbols t := ⟨b, hab⟩
  have hsuf : p <:+ symbols (ofSymbols (a ++ p)) := by
    rw [symbols_ofSymbols_of_isPrefix hpre]
    exact List.suffix_append a p
  exact symbols_ofSymbols_of_isSuffix hsuf

end Text
end RouteScript
