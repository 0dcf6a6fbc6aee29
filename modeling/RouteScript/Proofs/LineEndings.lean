import RouteScript.Proofs.Grammar

/-!
# Line endings

Reading depends on the lines of a text and not on how they are ended. `WrittenAs` lists the ways to
write lines down: any mixture of the three terminators, the last one left out or not, a byte order
mark in front or not. All of them are read alike (`parse_eq_of_writtenAs`), which is more than equal
success: names, line numbers, source lines and diagnostics are the same. What they are read as is the
outcome of a run over the lines themselves (`parse_of_writtenAs`).
-/

namespace RouteScript

open Text

namespace Line

/-- The text is a way to write the lines down. A mark may be put in front unless the first line
begins with one itself. -/
inductive WrittenAs (ls : List Text) : Text → Prop where
  | plain {t : Text} : Consists ls t → WrittenAs ls t
  | marked {t : Text} : Consists ls t → (∀ l ∈ ls.head?, isMarked l = false) →
      WrittenAs ls (byteOrderMark ++ t)

/-- The lines are found in every way of writing them. No lines at all with a mark in front count as
one empty line. -/
theorem physical_of_writtenAs {ls : List Text} {t : Text} (h : WrittenAs ls t) :
    physical t = dropMark ls ∨ ls = [] ∧ physical t = [[]] := by
  cases h with
  | plain h =>
    left
    rw [physical, all_eq_iff_consists.2 h]
  | @marked t h hm =>
    have hmark : Unbroken byteOrderMark := ⟨by decide, by decide⟩
    have hall := all_append_unbroken hmark (by decide) t
    rw [all_eq_iff_consists.2 h] at hall
    cases ls with
    | nil =>
      right
      rw [physical, hall]
      exact ⟨rfl, dropMark_marked [] []⟩
    | cons l ls =>
      left
      rw [physical, hall, dropMark_eq_self hm]
      exact dropMark_marked l ls

end Line

namespace Script

variable {o : ParseOptions}

theorem parse_of_writtenAs {ls : List Text} {t : Text} (h : Line.WrittenAs ls t) :
    parse o t = (run o o.table 0 [] (Line.dropMark ls)).bind (complete o) := by
  rw [parse_eq_run]
  rcases Line.physical_of_writtenAs h with hl | ⟨rfl, hl⟩
  · rw [hl]
  · have hblank : ∀ raw ∈ [[]], Line.kind o raw = .blank := by
      intro raw hraw
      rw [List.mem_singleton.1 hraw]
      rfl
    rw [hl, run_blank hblank]
    rfl

/-- Terminators and a byte order mark in front make no difference to what is read or reported. -/
theorem parse_eq_of_writtenAs (o : ParseOptions) {ls : List Text} {t u : Text}
    (ht : Line.WrittenAs ls t) (hu : Line.WrittenAs ls u) : parse o t = parse o u := by
  rw [parse_of_writtenAs ht, parse_of_writtenAs hu]

/-- The same six lines twice, with every kind of terminator in other places, a run of empty lines, a
mark on a later line, and once with a mark in front and an unterminated end. -/
theorem parse_eq_of_writtenAs_mixed :
    parse {} (utf8 "a: 1\r\r\r\n  x == y ? 2\r\n\uFEFFb:\n 3\r") =
      parse {} (utf8 "\uFEFFa: 1\n\n\r  x == y ? 2\r\uFEFFb:\r\n 3") ∧
    (parse {} (utf8 "a: 1\r\r\r\n  x == y ? 2\r\n\uFEFFb:\n 3\r")).map (·.map (·.line)) =
      .ok [1, 5] := by
  have ht : Line.WrittenAs [utf8 "a: 1", [], [], utf8 "  x == y ? 2", utf8 "\uFEFFb:", utf8 " 3"]
      (utf8 "a: 1\r\r\r\n  x == y ? 2\r\n\uFEFFb:\n 3\r") :=
    .plain (Line.all_eq_iff_consists.1 (by decide +kernel))
  have hu : Line.WrittenAs [utf8 "a: 1", [], [], utf8 "  x == y ? 2", utf8 "\uFEFFb:", utf8 " 3"]
      (Line.byteOrderMark ++ utf8 "a: 1\n\n\r  x == y ? 2\r\uFEFFb:\r\n 3") :=
    .marked (Line.all_eq_iff_consists.1 (by decide +kernel)) (by decide +kernel)
  exact ⟨parse_eq_of_writtenAs {} ht hu, by decide +kernel⟩

end Script
end RouteScript
