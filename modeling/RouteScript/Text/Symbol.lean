import RouteScript.Text.Basic

/-!
# Symbols of a text

Bytes are read as UTF-8. A symbol is either a scalar value in its shortest encoding or a stray byte
that starts no such encoding. Reading a text as symbols loses nothing: writing the symbols back gives
the text (`ofSymbols_symbols`).
-/

namespace RouteScript

inductive Symbol where
  /-- A scalar value in its UTF-8 encoding. -/
  | scalar (c : Char)
  /-- A byte at which no encoding starts. -/
  | stray (b : UInt8)
  deriving DecidableEq, Repr

namespace Symbol

def bytes : Symbol → Text
  | .scalar c => String.utf8EncodeChar c
  | .stray b => [b]

/-- The code point of a symbol; a stray byte counts as the replacement character. -/
def code : Symbol → Nat
  | .scalar c => c.toNat
  | .stray _ => 0xFFFD

def char : Symbol → Char
  | .scalar c => c
  | .stray _ => Char.ofNat 0xFFFD

def isStray : Symbol → Bool
  | .scalar _ => false
  | .stray _ => true

end Symbol

namespace Text

/-- Continuation bytes carry six bits. -/
def isContinuation (b : UInt8) : Bool := 0x80 ≤ b && b < 0xC0

/-- The scalar value `v`, when it needs an encoding of the length whose least value is `least`. -/
def scalarFrom? (least v : Nat) : Option Char :=
  if least ≤ v ∧ v.isValidChar then some (Char.ofNat v) else none

/-- The scalar value whose encoding stands at the front of `a :: t`. -/
def leading? (a : UInt8) (t : Text) : Option Char :=
  if a < 0x80 then some (Char.ofNat a.toNat)
  else if a < 0xC0 then none
  else if a < 0xE0 then
    match t with
    | b :: _ =>
      if isContinuation b then
        scalarFrom? 0x80 ((a.toNat - 0xC0) * 64 + (b.toNat - 0x80))
      else none
    | _ => none
  else if a < 0xF0 then
    match t with
    | b :: c :: _ =>
      if isContinuation b && isContinuation c then
        scalarFrom? 0x800 ((a.toNat - 0xE0) * 4096 + (b.toNat - 0x80) * 64 + (c.toNat - 0x80))
      else none
    | _ => none
  else if a < 0xF8 then
    match t with
    | b :: c :: d :: _ =>
      if isContinuation b && isContinuation c && isContinuation d then
        scalarFrom? 0x10000 ((a.toNat - 0xF0) * 262144 + (b.toNat - 0x80) * 4096
          + (c.toNat - 0x80) * 64 + (d.toNat - 0x80))
      else none
    | _ => none
  else none

/-- The symbols of a text whose first `skip` bytes belong to a symbol read before. -/
def symbolsFrom : (skip : Nat) → Text → List Symbol
  | _, [] => []
  | k + 1, _ :: t => symbolsFrom k t
  | 0, b :: t =>
    match leading? b t with
    | some c => .scalar c :: symbolsFrom (c.utf8Size - 1) t
    | none => .stray b :: symbolsFrom 0 t

def symbols (t : Text) : List Symbol := symbolsFrom 0 t

def ofSymbols (ss : List Symbol) : Text := ss.flatMap Symbol.bytes

/-- The text is UTF-8 throughout. -/
def isValid (t : Text) : Bool := !(symbols t).any Symbol.isStray

theorem scalarFrom?_some_spec {least v : Nat} {c : Char} (h : scalarFrom? least v = some c) :
    c.toNat = v ∧ least ≤ v := by
  unfold scalarFrom? at h
  split at h
  · next hv =>
    simp only [Option.some.injEq] at h
    subst h
    refine ⟨?_, hv.1⟩
    rw [Char.ofNat, dif_pos hv.2]; rfl
  · simp at h

theorem isContinuation_bounds {b : UInt8} (h : isContinuation b = true) :
    0x80 ≤ b.toNat ∧ b.toNat < 0xC0 := by
  simpa [isContinuation, UInt8.le_iff_toNat_le, UInt8.lt_iff_toNat_lt] using h

theorem utf8EncodeChar_eq_of_toNat (c : Char) : String.utf8EncodeChar c =
    if c.toNat ≤ 0x7F then [UInt8.ofNat c.toNat]
    else if c.toNat ≤ 0x7FF then
      [UInt8.ofNat (c.toNat / 64 % 32 + 192), UInt8.ofNat (c.toNat % 64 + 128)]
    else if c.toNat ≤ 0xFFFF then
      [UInt8.ofNat (c.toNat / 4096 % 16 + 224), UInt8.ofNat (c.toNat / 64 % 64 + 128),
        UInt8.ofNat (c.toNat % 64 + 128)]
    else [UInt8.ofNat (c.toNat / 262144 % 8 + 240), UInt8.ofNat (c.toNat / 4096 % 64 + 128),
      UInt8.ofNat (c.toNat / 64 % 64 + 128), UInt8.ofNat (c.toNat % 64 + 128)] := rfl

theorem byte_eq {n : Nat} {b : UInt8} (h : n = b.toNat) : UInt8.ofNat n = b := by
  subst h; simp

theorem encoding_one {a : UInt8} (ha : a.toNat < 0x80) :
    String.utf8EncodeChar (Char.ofNat a.toNat) = [a] := by
  have hv : a.toNat.isValidChar := Or.inl (by omega)
  have hc : (Char.ofNat a.toNat).toNat = a.toNat := by
    rw [Char.ofNat, dif_pos hv]; rfl
  rw [utf8EncodeChar_eq_of_toNat, hc, if_pos (by omega), byte_eq rfl]

theorem encoding_two {a b : UInt8} {c : Char} (ha : 0xC0 ≤ a.toNat ∧ a.toNat < 0xE0)
    (hb : isContinuation b = true)
    (h : scalarFrom? 0x80 ((a.toNat - 0xC0) * 64 + (b.toNat - 0x80)) = some c) :
    String.utf8EncodeChar c = [a, b] := by
  have hb := isContinuation_bounds hb
  obtain ⟨hc, hl⟩ := scalarFrom?_some_spec h
  rw [utf8EncodeChar_eq_of_toNat, if_neg (by omega), if_pos (by omega), byte_eq (b := a) (by omega),
    byte_eq (b := b) (by omega)]

theorem encoding_three {a b d : UInt8} {c : Char} (ha : 0xE0 ≤ a.toNat ∧ a.toNat < 0xF0)
    (hb : isContinuation b = true) (hd : isContinuation d = true)
    (h : scalarFrom? 0x800
      ((a.toNat - 0xE0) * 4096 + (b.toNat - 0x80) * 64 + (d.toNat - 0x80)) = some c) :
    String.utf8EncodeChar c = [a, b, d] := by
  have hb := isContinuation_bounds hb
  have hd := isContinuation_bounds hd
  obtain ⟨hc, hl⟩ := scalarFrom?_some_spec h
  rw [utf8EncodeChar_eq_of_toNat, if_neg (by omega), if_neg (by omega), if_pos (by omega),
    byte_eq (b := a) (by omega), byte_eq (b := b) (by omega), byte_eq (b := d) (by omega)]

theorem encoding_four {a b d e : UInt8} {c : Char} (ha : 0xF0 ≤ a.toNat ∧ a.toNat < 0xF8)
    (hb : isContinuation b = true) (hd : isContinuation d = true) (he : isContinuation e = true)
    (h : scalarFrom? 0x10000 ((a.toNat - 0xF0) * 262144 + (b.toNat - 0x80) * 4096
      + (d.toNat - 0x80) * 64 + (e.toNat - 0x80)) = some c) :
    String.utf8EncodeChar c = [a, b, d, e] := by
  have hb := isContinuation_bounds hb
  have hd := isContinuation_bounds hd
  have he := isContinuation_bounds he
  obtain ⟨hc, hl⟩ := scalarFrom?_some_spec h
  rw [utf8EncodeChar_eq_of_toNat, if_neg (by omega), if_neg (by omega), if_neg (by omega),
    byte_eq (b := a) (by omega), byte_eq (b := b) (by omega), byte_eq (b := d) (by omega),
    byte_eq (b := e) (by omega)]

theorem utf8Size_of_encoding {a : UInt8} {r : Text} {c : Char}
    (h : String.utf8EncodeChar c = a :: r) : c.utf8Size - 1 = r.length := by
  rw [← String.length_utf8EncodeChar, h]
  rfl

/-- A scalar value at the front is spelled by the bytes at the front. -/
theorem encoding_of_leading? {a : UInt8} {t : Text} {c : Char} (h : leading? a t = some c) :
    ∃ r u, t = r ++ u ∧ String.utf8EncodeChar c = a :: r := by
  unfold leading? at h
  simp only [UInt8.lt_iff_toNat_lt] at h
  split at h
  · next ha =>
    cases h
    exact ⟨[], t, rfl, encoding_one ha⟩
  split at h
  · cases h
  next hlow =>
  split at h
  · next hhigh =>
    split at h
    · next b u =>
      split at h
      · next hb => exact ⟨[b], u, rfl, encoding_two ⟨Nat.not_lt.1 hlow, hhigh⟩ hb h⟩
      · cases h
    · cases h
  next hlow =>
  split at h
  · next hhigh =>
    split at h
    · next b d u =>
      split at h
      · next hb =>
        rw [Bool.and_eq_true] at hb
        exact ⟨[b, d], u, rfl, encoding_three ⟨Nat.not_lt.1 hlow, hhigh⟩ hb.1 hb.2 h⟩
      · cases h
    · cases h
  next hlow =>
  split at h
  · next hhigh =>
    split at h
    · next b d e u =>
      split at h
      · next hb =>
        rw [Bool.and_eq_true, Bool.and_eq_true] at hb
        exact ⟨[b, d, e], u, rfl, encoding_four ⟨Nat.not_lt.1 hlow, hhigh⟩ hb.1.1 hb.1.2 hb.2 h⟩
      · cases h
    · cases h
  · cases h

/-- The encoding of the scalar value at the front is the front of the text. -/
theorem bytes_append_of_leading? {a : UInt8} {t : Text} {c : Char} (h : leading? a t = some c) :
    String.utf8EncodeChar c ++ t.drop (c.utf8Size - 1) = a :: t := by
  obtain ⟨r, u, rfl, he⟩ := encoding_of_leading? h
  rw [he, utf8Size_of_encoding he, List.drop_left, List.cons_append]

theorem symbolsFrom_eq_drop (k : Nat) (t : Text) : symbolsFrom k t = symbolsFrom 0 (t.drop k) := by
  induction k generalizing t with
  | zero => simp
  | succ k ih =>
    cases t with
    | nil => simp [symbolsFrom]
    | cons b t => simpa [symbolsFrom] using ih t

/-- Writing the symbols of a text gives the text. -/
theorem ofSymbols_symbols (t : Text) : ofSymbols (symbols t) = t := by
  induction h : t.length using Nat.strongRecOn generalizing t with
  | ind n ih =>
    cases t with
    | nil => rfl
    | cons b t =>
      simp only [symbols, symbolsFrom]
      split
      · next c hc =>
        have hd := ih (t.drop (c.utf8Size - 1)).length (by simp at h ⊢; omega) _ rfl
        simp only [ofSymbols, symbols, List.flatMap_cons, Symbol.bytes] at hd ⊢
        rw [symbolsFrom_eq_drop, hd]
        exact bytes_append_of_leading? hc
      · have hd := ih t.length (by simp at h ⊢; omega) _ rfl
        simp only [ofSymbols, symbols, List.flatMap_cons, Symbol.bytes] at hd ⊢
        rw [hd]; rfl

end Text
end RouteScript
