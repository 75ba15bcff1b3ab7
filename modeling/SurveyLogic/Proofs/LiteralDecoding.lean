import SurveyLogic.Proofs.Selections

set_option autoImplicit false

namespace SurveyLogic.Literal

open Text

theorem quote_decoded (v : Text) : value (quote v) = v := by
  obtain ⟨mark, marks, written⟩ := quote_marked v
  rw [written, marked_value marks]

theorem quote_solid (v : Text) : Solid (quote v) := by
  obtain ⟨mark, marks, written⟩ := quote_marked v
  rw [written]
  exact marked_solid marks v

theorem render_decoded (v : Text) : value (render v) = v := by
  by_cases quotable : Quotable v
  · exact operand_value (rendered_operand (render_rendered quotable))
  · rw [render_unquotable quotable, quote_decoded]

theorem render_solid (v : Text) : Solid (render v) := by
  by_cases quotable : Quotable v
  · exact operand_solid (rendered_operand (render_rendered quotable))
  · rw [render_unquotable quotable]
    exact quote_solid v

theorem render_operand_iff (v : Text) : Operand (render v) v ↔ Quotable v :=
  ⟨operand_quotable, fun quotable => rendered_operand (render_rendered quotable)⟩

theorem quote_quoted_iff (v : Text) : Quoted (quote v) v ↔ Quotable v := ⟨quoted_quotable, quote_quoted⟩

theorem render_is_operand (v : Text) : isOperand (render v) = true ↔ Quotable v := by
  rw [← render_operand_iff]
  constructor
  · intro accepted
    obtain ⟨other, operand⟩ := (is_operand_iff _).mp ⟨accepted, (render_solid v).noLead⟩
    have same := operand_value operand
    rw [render_decoded] at same
    rwa [← same] at operand
  · intro operand
    exact ((is_operand_iff _).mpr ⟨v, operand⟩).1

theorem quote_is_read (v : Text) : Grammar.quoted? (quote v) = some (quote v, []) ↔ Quotable v := by
  rw [← quote_quoted_iff]
  constructor
  · intro found
    obtain ⟨other, literal, -⟩ := quoted_found found
    have same := quoted_value literal
    rw [quote_decoded] at same
    rwa [← same] at literal
  · intro literal
    simpa using quoted_read literal []

structure Matched (v : Text) : Prop where
  operand : isOperand (render v) = true ↔ Quotable v
  operandForm : Operand (render v) v ↔ Quotable v
  choice : Grammar.quoted? (quote v) = some (quote v, []) ↔ Quotable v
  choiceForm : Quoted (quote v) v ↔ Quotable v

theorem written_literals_decode (v : Text) : value (render v) = v ∧ value (quote v) = v ∧ Matched v :=
  ⟨render_decoded v, quote_decoded v,
    ⟨render_is_operand v, render_operand_iff v, quote_is_read v, quote_quoted_iff v⟩⟩

example : render "date('2020-01-01')".toList = "\"date('2020-01-01')\"".toList ∧
    value "\"date('2020-01-01')\"".toList = "date('2020-01-01')".toList := by decide

end SurveyLogic.Literal
