import RouteScript.Proofs.SpacedConditions

/-!
# Canonical texts of expressions

The canonical text of an expression has the condition as three fields, however it was written. Reading
it takes the way of the three fields, even when the statement it came from had to be cut at a symbolic
operator, and gives the same condition and value (`Expression.read_canonical`). Nothing is asked of the
statement: it may be padded, hold comment signs, line terminators and stray bytes, and its value may
hold further question marks.
-/

namespace RouteScript

open Text

namespace Expression

variable {ops : OperatorTable} {raw statement : Text} {line : Int} {e : Expression}

theorem read_ok_iff : read ops raw statement line = .ok e ↔
    ∃ c v, readParts ops statement = .ok (c, v) ∧ e = ⟨c, v, statement, raw, line⟩ := by
  unfold read
  cases readParts ops statement with
  | error f => simp [bind, Except.bind]
  | ok p =>
    obtain ⟨c, v⟩ := p
    simp [bind, Except.bind, pure, Except.pure, eq_comm]

/-- The canonical text of an expression that was read is a statement for the same expression. -/
theorem read_render (h : read ops raw statement line = .ok e) :
    read ops raw e.render line = .ok { e with statement := e.render } := by
  obtain ⟨c, v, hp, rfl⟩ := read_ok_iff.1 h
  apply read_ok_iff.2
  refine ⟨c, v, ?_, rfl⟩
  apply readParts_render (e := ⟨c, v, statement, raw, line⟩)
  exact legible_of_readParts hp

/-- The canonical text of an expression is a fixed point of reading and writing. -/
theorem read_canonical (ops : OperatorTable) (raw statement : Text) (line : Int) {e : Expression}
    (h : read ops raw statement line = .ok e) :
    ∃ again, read ops raw e.render line = .ok again ∧ again.condition = e.condition ∧
      again.value = e.value ∧ again.render = e.render := by
  refine ⟨{ e with statement := e.render }, read_render h, rfl, rfl, ?_⟩
  apply render_congr
  rfl

/-- A padded statement over several lines whose compact condition holds a stray byte and a comment
sign and whose value holds a question mark. -/
theorem read_canonical_compact :
    let statement : Text := utf8 "\t a" ++ 0xFF :: utf8 ">=#b\r ?\n x ? y\u2003"
    let c : Condition := ⟨utf8 "a" ++ [0xFF], utf8 ">=", utf8 "#b"⟩
    let e : Expression := ⟨some c, utf8 "x ? y", statement, [], 7⟩
    read .default [] statement 7 = .ok e ∧
    e.render = utf8 "a" ++ 0xFF :: utf8 " >= #b ? x ? y" ∧
    ∃ again, read .default [] (utf8 "a" ++ 0xFF :: utf8 " >= #b ? x ? y") 7 = .ok again ∧
      again.condition = some c ∧ again.value = utf8 "x ? y" ∧ again.render = e.render := by
  intro statement c e
  have hread : Condition.read .default (utf8 "a" ++ 0xFF :: utf8 ">=#b") = .ok c := by
    apply Condition.read_of_split? (by decide +kernel)
    rw [OperatorTable.split?, OperatorTable.symbolic_default]
    decide +kernel
  have hcut : cut? question statement =
      some (utf8 "\t a" ++ 0xFF :: utf8 ">=#b\r ", utf8 "\n x ? y\u2003") := by decide +kernel
  have hbefore : trim (utf8 "\t a" ++ 0xFF :: utf8 ">=#b\r ") = utf8 "a" ++ 0xFF :: utf8 ">=#b" := by
    decide +kernel
  have hafter : trim (utf8 "\n x ? y\u2003") = utf8 "x ? y" := by decide +kernel
  have hne : utf8 "x ? y" ≠ [] := by decide
  have he : read .default [] statement 7 = .ok e := by
    apply read_ok_iff.2
    refine ⟨some c, utf8 "x ? y", ?_, rfl⟩
    simp only [readParts, hcut, hbefore, hread, hafter, bind, Except.bind, if_neg hne]
  have hrender : e.render = utf8 "a" ++ 0xFF :: utf8 " >= #b ? x ? y" := by decide +kernel
  refine ⟨he, hrender, ?_⟩
  rw [← hrender]
  exact read_canonical .default [] statement 7 he

end Expression
end RouteScript
