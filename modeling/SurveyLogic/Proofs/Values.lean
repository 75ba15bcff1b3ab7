import SurveyLogic.Proofs.Operands

set_option autoImplicit false

namespace SurveyLogic.Literal

open Text

theorem after_other_head {l c : Char} (lead t : Text) (different : l ≠ c) :
    after? (l :: lead) (c :: t) = none := by
  rw [after?, if_neg different]

theorem unquote_marked {quote : Char} (mark : isQuoteMark quote = true) (inner : Text) :
    unquote (quote :: inner ++ [quote]) = inner := by
  have own : unquoteWith quote (quote :: inner ++ [quote]) = some inner := by
    rw [unquoteWith, show quote :: inner ++ [quote] = [quote] ++ (inner ++ [quote]) from rfl,
      after_append, Option.bind_some, before_append]
  rcases quote_mark_iff.mp mark with rfl | rfl
  · rw [unquote, own]
    rfl
  · have other : unquoteWith '\'' ('"' :: inner ++ ['"']) = none := by
      rw [unquoteWith, List.cons_append, after_other_head _ _ (by decide)]
      rfl
    rw [unquote, other, own]
    rfl

theorem unquote_quoted {t inner : Text} (quoted : Quoted t inner) : unquote t = inner := by
  obtain ⟨quote, _, mark, -⟩ := quoted
  exact unquote_marked mark inner

theorem unquote_plain {t : Text} (plain : QuoteFree t) : unquote t = t := by
  have missing : ∀ quote, isQuoteMark quote = true → unquoteWith quote t = none := by
    intro quote mark
    rw [unquoteWith, Option.bind_eq_none_iff]
    intro rest found
    have bare := plain quote (by simp [after_eq_some.mp found])
    rw [mark] at bare
    cases bare
  rw [unquote, missing '\'' rfl, missing '"' rfl]
  rfl

theorem marked_value {quote : Char} (mark : isQuoteMark quote = true) (inner : Text) :
    value (quote :: inner ++ [quote]) = inner := by
  have noDate : after? dateOpen (quote :: inner ++ [quote]) = none := by
    rw [List.cons_append, dateOpen]
    apply after_other_head
    rcases quote_mark_iff.mp mark with rfl | rfl <;> decide
  rw [value, trim_solid (marked_solid mark inner)]
  simp only [noDate, Option.bind_none]
  exact unquote_marked mark inner

theorem quoted_value {t inner : Text} (quoted : Quoted t inner) : value t = inner := by
  obtain ⟨quote, _, mark, -⟩ := quoted
  exact marked_value mark inner

theorem plain_value {t : Text} (solid : Solid t) (plain : QuoteFree t) (noCall : '(' ∉ t) :
    value t = t := by
  have noDate : after? dateOpen t = none := by
    rw [Option.eq_none_iff_forall_ne_some]
    intro rest found
    exact noCall (by simp [after_eq_some.mp found, dateOpen])
  rw [value, trim_solid solid]
  simp only [noDate, Option.bind_none]
  exact unquote_plain plain

theorem number_plain {t : Text} (number : Number t) : QuoteFree t ∧ '(' ∉ t := by
  constructor
  · intro c mem
    rcases number_characters number c mem with digit | rfl | rfl
    · exact digit_is_no_quote digit
    · decide
    · decide
  · exact number_absent number (by decide)

theorem words_plain {t : Text} (words : Words t) : QuoteFree t ∧ '(' ∉ t := by
  constructor
  · intro c mem
    rcases words.inside c mem with word | blank
    · exact word_is_no_quote word
    · exact blank_is_no_quote blank
  · exact words_absent words (by decide)

theorem day_quoted {day : Text} (shape : Day day) : Quoted ('\'' :: day ++ ['\'']) day :=
  .mk '\'' day rfl (day_absent shape (by decide))

theorem operand_value {t inner : Text} (operand : Operand t inner) : value t = inner := by
  cases operand with
  | date lead _ tail blankLead blankTail shape =>
      have literal := day_quoted shape
      rw [value, trim_solid (date_call_solid _), List.append_assoc dateOpen, after_append]
      simp only [Option.bind_some, before_append]
      rw [trim_core _ _ _ blankLead blankTail (quoted_solid literal), unquote_quoted literal]
  | quoted _ _ literal => exact quoted_value literal
  | number _ shape => exact plain_value (number_solid shape) (number_plain shape).1 (number_plain shape).2
  | words _ shape => exact plain_value (words_solid shape) (words_plain shape).1 (words_plain shape).2

theorem date_open_plain : QuoteFree dateOpen := by decide

theorem quoted_neutral {t inner : Text} (quoted : Quoted t inner) : openAfter none t = none := by
  obtain ⟨quote, _, mark, absent⟩ := quoted
  exact open_after_literal mark absent

inductive OneLiteral : Text → Prop
  | without (t : Text) (free : QuoteFree t) : OneLiteral t
  | around (front literal inner back : Text) (freeFront : QuoteFree front) (quoted : Quoted literal inner)
      (freeBack : QuoteFree back) : OneLiteral (front ++ (literal ++ back))

theorem one_literal_after {front t : Text} (free : QuoteFree front) (one : OneLiteral t) :
    OneLiteral (front ++ t) := by
  cases one with
  | without _ plain => exact .without _ ((quote_free_append front t).mpr ⟨free, plain⟩)
  | around before literal inner back freeBefore quoted freeBack =>
      rw [← List.append_assoc]
      exact .around _ literal inner back ((quote_free_append front before).mpr ⟨free, freeBefore⟩) quoted
        freeBack

theorem one_literal_before {t back : Text} (one : OneLiteral t) (free : QuoteFree back) :
    OneLiteral (t ++ back) := by
  cases one with
  | without _ plain => exact .without _ ((quote_free_append t back).mpr ⟨plain, free⟩)
  | around front literal inner behind freeFront quoted freeBehind =>
      rw [List.append_assoc, List.append_assoc]
      exact .around front literal inner _ freeFront quoted
        ((quote_free_append behind back).mpr ⟨freeBehind, free⟩)

theorem one_literal_neutral {t : Text} (one : OneLiteral t) : openAfter none t = none := by
  cases one with
  | without _ free => exact open_after_quote_free free
  | around front literal inner back freeFront quoted freeBack =>
      rw [open_after_append, open_after_append, open_after_quote_free freeFront, quoted_neutral quoted,
        open_after_quote_free freeBack]

theorem quoted_one_literal {t inner : Text} (quoted : Quoted t inner) : OneLiteral t := by
  have alone := OneLiteral.around [] t inner [] quote_free_nil quoted quote_free_nil
  rwa [List.append_nil] at alone

theorem operand_one_literal {t inner : Text} (operand : Operand t inner) : OneLiteral t := by
  cases operand with
  | date lead _ tail blankLead blankTail shape =>
      have closing : QuoteFree [')'] := by decide
      apply one_literal_before _ closing
      apply one_literal_after date_open_plain
      apply one_literal_before _ (all_blank_quote_free blankTail)
      exact one_literal_after (all_blank_quote_free blankLead) (quoted_one_literal (day_quoted shape))
  | quoted _ _ literal => exact quoted_one_literal literal
  | number _ shape => exact .without _ (number_plain shape).1
  | words _ shape => exact .without _ (words_plain shape).1

def Quotable (value : Text) : Prop := ¬ ('\'' ∈ value ∧ '"' ∈ value)

instance (value : Text) : Decidable (Quotable value) :=
  inferInstanceAs (Decidable (¬ ('\'' ∈ value ∧ '"' ∈ value)))

theorem quote_free_quotable {value : Text} (plain : QuoteFree value) : Quotable value := by
  intro both
  obtain ⟨single, -⟩ := both
  exact absurd (plain _ single) (by decide)

theorem quoted_quotable {t inner : Text} (quoted : Quoted t inner) : Quotable inner := by
  obtain ⟨quote, _, mark, absent⟩ := quoted
  intro both
  obtain ⟨single, double⟩ := both
  rcases quote_mark_iff.mp mark with rfl | rfl
  · exact absent single
  · exact absent double

theorem operand_quotable {t inner : Text} (operand : Operand t inner) : Quotable inner := by
  cases operand with
  | date lead _ tail _ _ shape => exact quoted_quotable (day_quoted shape)
  | quoted _ _ literal => exact quoted_quotable literal
  | number _ shape => exact quote_free_quotable (number_plain shape).1
  | words _ shape => exact quote_free_quotable (words_plain shape).1

theorem quote_marked (value : Text) :
    ∃ mark, isQuoteMark mark = true ∧ quote value = mark :: value ++ [mark] := by
  rw [quote]
  by_cases single : '\'' ∈ value
  · rw [if_pos single]
    exact ⟨'"', rfl, rfl⟩
  · rw [if_neg single]
    exact ⟨'\'', rfl, rfl⟩

theorem quote_quoted {value : Text} (quotable : Quotable value) : Quoted (quote value) value := by
  rw [quote]
  by_cases single : '\'' ∈ value
  · rw [if_pos single]
    exact .mk '"' value rfl fun double => quotable ⟨single, double⟩
  · rw [if_neg single]
    exact .mk '\'' value rfl single

theorem quote_unquotable {value : Text} (unquotable : ¬ Quotable value) :
    quote value = ['"'] ++ value ++ ['"'] := by
  obtain ⟨single, -⟩ := Decidable.not_not.mp unquotable
  rw [quote, if_pos single]

theorem is_date_ascii {t : Text} (date : isDate isAsciiDigit t = true) : isDate isDigit t = true := by
  unfold isDate at date ⊢
  split at date
  · rw [List.all_eq_true] at date ⊢
    exact fun c mem => ascii_digit_is_digit (date c mem)
  · cases date

theorem nonempty_all_ascii {t : Text} (digits : nonemptyAll isAsciiDigit t = true) :
    nonemptyAll isDigit t = true := by
  rw [nonempty_all_iff] at digits ⊢
  exact ⟨digits.1, fun c mem => ascii_digit_is_digit (digits.2 c mem)⟩

theorem is_number_ascii {t : Text} (number : isNumber isAsciiDigit t = true) :
    isNumber isDigit t = true := by
  simp only [isNumber, Bool.and_eq_true] at number ⊢
  refine ⟨nonempty_all_ascii number.1, ?_⟩
  have fraction := number.2
  split at fraction
  · rfl
  · exact nonempty_all_ascii fraction

theorem render_unquotable {value : Text} (unquotable : ¬ Quotable value) : render value = quote value := by
  obtain ⟨single, -⟩ := Decidable.not_not.mp unquotable
  have noDate : ¬ isDate isAsciiDigit value = true := by
    intro date
    exact day_absent ((is_date_iff value).mp (is_date_ascii date)) (by decide) single
  have noNumber : ¬ isNumber isAsciiDigit value = true := by
    intro number
    have free := (number_plain ((is_number_iff value).mp (is_number_ascii number))).1
    exact unquotable (quote_free_quotable free)
  rw [render, if_neg noDate, if_neg noNumber]

inductive Rendered (value : Text) : Text → Prop
  | date (shape : Day value) : Rendered value (dateOpen ++ ('\'' :: value ++ ['\'']) ++ [')'])
  | number (shape : Number value) : Rendered value value
  | quoted (t : Text) (literal : Quoted t value) : Rendered value t

theorem render_rendered {value : Text} (quotable : Quotable value) : Rendered value (render value) := by
  rw [render]
  by_cases date : isDate isAsciiDigit value
  · rw [if_pos date]
    have call := Rendered.date ((is_date_iff value).mp (is_date_ascii date))
    simpa using call
  · rw [if_neg date]
    by_cases number : isNumber isAsciiDigit value
    · rw [if_pos number]
      exact .number ((is_number_iff value).mp (is_number_ascii number))
    · rw [if_neg number]
      exact .quoted _ (quote_quoted quotable)

theorem rendered_operand {value t : Text} (rendered : Rendered value t) : Operand t value := by
  cases rendered with
  | date shape =>
      have call := Operand.date [] value [] rfl rfl shape
      simpa using call
  | number shape => exact .number value shape
  | quoted _ literal => exact .quoted _ value literal

end SurveyLogic.Literal
