import SurveyLogic.Proofs.ClauseReading
import SurveyLogic.Proofs.Occurrences

set_option autoImplicit false

namespace SurveyLogic

open Text Literal

theorem names_ink {style : ReferenceStyle} {raw name : Text} (names : style.Names raw name) : Ink raw := by
  cases names with
  | braced _ word =>
      have opening : Ink ['$', '{'] := by decide
      have closing : Ink ['}'] := by decide
      rw [ReferenceStyle.braced, ink_append, ink_append]
      exact ⟨⟨opening, fun c mem => word_is_ink (word.2 c mem)⟩, closing⟩
  | dot _ _ _ => decide

theorem names_quote_free {style : ReferenceStyle} {raw name : Text} (names : style.Names raw name) :
    QuoteFree raw := by
  cases names with
  | braced _ word =>
      have opening : QuoteFree ['$', '{'] := by decide
      have closing : QuoteFree ['}'] := by decide
      rw [ReferenceStyle.braced, quote_free_append, quote_free_append]
      exact ⟨⟨opening, fun c mem => word_is_no_quote (word.2 c mem)⟩, closing⟩
  | dot _ _ _ => decide

theorem missing_one_literal {t : Text} (missing : Missing t) : OneLiteral t := by
  rcases missing with rfl | rfl | null
  · exact quoted_one_literal (.mk '\'' [] rfl (by simp))
  · exact quoted_one_literal (.mk '"' [] rfl (by simp))
  · refine .without t fun c mem => ?_
    rw [Bool.eq_false_iff]
    intro quote
    have upperMem : c.toUpper ∈ "NULL".toList := by
      rw [← null]
      exact List.mem_map_of_mem mem
    rcases quote_mark_iff.mp quote with rfl | rfl <;> exact absurd upperMem (by decide)

theorem equality_quote_free {sign : Text} {op : Operator} (equality : Equality sign op) :
    QuoteFree sign := by
  cases equality <;> decide

theorem token_quote_free {op : Operator} (compares : op.kind = .comparison) : QuoteFree op.token := by
  cases op <;> first | decide | cases compares

theorem call_one_literal {style : ReferenceStyle} {call name value : Text}
    (form : CallForm style call name value) : OneLiteral call := by
  obtain ⟨lead, raw, _, gap, pad, choice, _, tail, blankLead, names, blankGap, blankPad, literal,
    blankTail⟩ := form
  have opening : QuoteFree "selected(".toList := by decide
  have comma : QuoteFree [','] := by decide
  have closing : QuoteFree (tail ++ [')']) :=
    (quote_free_append tail [')']).mpr ⟨all_blank_quote_free blankTail, by decide⟩
  apply one_literal_after opening
  apply one_literal_after (all_blank_quote_free blankLead)
  apply one_literal_after (names_quote_free names)
  apply one_literal_after (all_blank_quote_free blankGap)
  apply one_literal_after comma
  apply one_literal_after (all_blank_quote_free blankPad)
  exact one_literal_before (quoted_one_literal literal) closing

theorem form_one_literal {style : ReferenceStyle} {t : Text} {c : Criterion}
    (form : ClauseForm style t c) : OneLiteral t := by
  cases form with
  | existence form =>
      obtain ⟨raw, _, gap, sign, pad, nothing, _, names, blankGap, equality, blankPad, missing⟩ := form
      apply one_literal_after (names_quote_free names)
      apply one_literal_after (all_blank_quote_free blankGap)
      apply one_literal_after (equality_quote_free equality)
      exact one_literal_after (all_blank_quote_free blankPad) (missing_one_literal missing)
  | comparison form _ =>
      obtain ⟨raw, _, gap, pad, operand, _, op, names, blankGap, compares, blankPad, literal⟩ := form
      apply one_literal_after (names_quote_free names)
      apply one_literal_after (all_blank_quote_free blankGap)
      apply one_literal_after (token_quote_free compares)
      exact one_literal_after (all_blank_quote_free blankPad) (operand_one_literal literal)
  | selection form =>
      cases form with
      | selected _ _ _ form => exact call_one_literal form
      | notSelected lead _ tail _ _ blankLead form blankTail =>
          have opening : QuoteFree "not(".toList := by decide
          have closing : QuoteFree (tail ++ [')']) :=
            (quote_free_append tail [')']).mpr ⟨all_blank_quote_free blankTail, by decide⟩
          apply one_literal_after opening
          apply one_literal_after (all_blank_quote_free blankLead)
          exact one_literal_before (call_one_literal form) closing

theorem form_neutral {style : ReferenceStyle} {t : Text} {c : Criterion} (form : ClauseForm style t c) :
    openAfter none t = none := one_literal_neutral (form_one_literal form)

theorem form_head {style : ReferenceStyle} {t : Text} {c : Criterion} (form : ClauseForm style t c) :
    ∃ first ∈ t.head?, (first = '$' ∨ first = '.') ∨ first = 's' ∨ first = 'n' := by
  cases form with
  | existence form =>
      obtain ⟨first, head, start⟩ := existence_head form
      exact ⟨first, head, .inl start⟩
  | comparison form _ =>
      obtain ⟨first, head, start⟩ := comparison_head form
      exact ⟨first, head, .inl start⟩
  | selection form =>
      obtain ⟨first, head, start⟩ := selection_head form
      exact ⟨first, head, .inr start⟩

theorem form_no_keyword {style : ReferenceStyle} {t : Text} {c : Criterion}
    (form : ClauseForm style t c) (rest : Text) : ¬ StartsInKeyword (t ++ rest) := by
  obtain ⟨first, head, start⟩ := form_head form
  have behind : first ∈ (t ++ rest).head? := by
    rw [Option.mem_def, List.head?_append, Option.mem_def.mp head]
    rfl
  apply no_keyword_head behind
  rcases start with (rfl | rfl) | (rfl | rfl) <;> decide

theorem form_no_lead {style : ReferenceStyle} {t : Text} {c : Criterion} (form : ClauseForm style t c) :
    NoLead t := by
  intro d mem
  obtain ⟨first, head, start⟩ := form_head form
  rw [Option.mem_unique mem head]
  rcases start with (rfl | rfl) | (rfl | rfl) <;> decide

theorem operand_missing {t value : Text} (operand : Operand t value) (empty : value = []) :
    Missing t := by
  cases operand with
  | date _ _ _ _ _ shape =>
      rw [empty] at shape
      have size := day_length shape
      cases size
  | quoted _ _ literal =>
      rw [empty] at literal
      generalize inner : ([] : Text) = value at literal
      obtain ⟨quote, _, mark, -⟩ := literal
      subst inner
      rcases quote_mark_iff.mp mark with rfl | rfl
      · exact .inl rfl
      · exact .inr (.inl rfl)
  | number _ shape => exact absurd empty (number_solid shape).inked
  | words _ shape => exact absurd empty (words_solid shape).inked

theorem missing_no_equals {t : Text} (missing : Missing t) : '=' ∉ t.head? := by
  intro head
  have mem := List.mem_of_mem_head? head
  rcases missing with rfl | rfl | null
  · exact absurd mem (by decide)
  · exact absurd mem (by decide)
  · have upperMem : '='.toUpper ∈ "NULL".toList := by
      rw [← null]
      exact List.mem_map_of_mem mem
    exact absurd upperMem (by decide)

theorem equality_token {sign : Text} {op : Operator} (equality : Equality sign op) :
    ∃ compared : Operator, compared.kind = .comparison ∧ sign = compared.token ∧
      (compared = .equals ∨ compared = .notEquals) := by
  cases equality with
  | same => exact ⟨.equals, rfl, rfl, .inl rfl⟩
  | different => exact ⟨.notEquals, rfl, rfl, .inr rfl⟩

theorem comparison_is_check {style : ReferenceStyle} {raw name gap pad operand value : Text}
    {op : Operator} {other : Criterion} (names : style.Names raw name) (blankGap : gap.allBlank)
    (compares : op.kind = .comparison) (blankPad : pad.allBlank) (literal : Operand operand value)
    (check : ExistenceForm style (raw ++ (gap ++ (op.token ++ (pad ++ operand)))) other) :
    Missing operand ∧ (op = .equals ∨ op = .notEquals) := by
  generalize textEq : raw ++ (gap ++ (op.token ++ (pad ++ operand))) = t at check
  obtain ⟨raw', _, gap', sign, pad', nothing, _, names', blankGap', equality, blankPad', missing⟩ := check
  obtain ⟨compared, comparedKind, rfl, equal⟩ := equality_token equality
  have sameRest : gap ++ (op.token ++ (pad ++ operand)) =
      gap' ++ (compared.token ++ (pad' ++ nothing)) := (names_unique names names' textEq).2
  have sameSign : op.token ++ (pad ++ operand) = compared.token ++ (pad' ++ nothing) := by
    have trimmed := congrArg trimStart sameRest
    rwa [trim_start_core _ _ blankGap (token_no_lead compares _),
      trim_start_core _ _ blankGap' (token_no_lead comparedKind _)] at trimmed
  have symbols := symbol_read compares (padded_no_equals blankPad (operand_no_equals literal))
  rw [sameSign, symbol_read comparedKind (padded_no_equals blankPad' (missing_no_equals missing)),
    Option.some.injEq, Prod.mk.injEq] at symbols
  have sameOperator : compared = op := by
    have table := comparison_token comparedKind
    rw [symbols.1, comparison_token compares] at table
    cases table
    rfl
  have sameOperand : nothing = operand := by
    have trimmed := congrArg trimStart symbols.2
    rwa [trim_start_core _ _ blankPad' (missing_no_lead missing),
      trim_start_core _ _ blankPad (operand_solid literal).noLead] at trimmed
  rw [← sameOperand, ← sameOperator]
  exact ⟨missing, equal⟩

end SurveyLogic
