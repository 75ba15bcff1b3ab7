import SurveyLogic.Writer
import SurveyLogic.Proofs.ClauseTexts

set_option autoImplicit false

namespace SurveyLogic

open Text Literal

def ReferenceStyle.Spellable (style : ReferenceStyle) (name : Text) : Prop :=
  WordName name ∨ (name ≠ [] ∧ style = .contextual name)

instance (style : ReferenceStyle) (name : Text) : Decidable (style.Spellable name) :=
  inferInstanceAs (Decidable (WordName name ∨ (name ≠ [] ∧ style = .contextual name)))

-- What is read again from a written criterion. An equality with an empty value is written as, and
-- so becomes, a check for existence.
def Criterion.canonical (c : Criterion) : Criterion :=
  match c.operator, c.valueOrEmpty with
  | .equals, [] => .existence c.name .null
  | .notEquals, [] => .existence c.name .notNull
  | op, value => if op.takesValue then .withValue c.name op value else .existence c.name op

theorem canonical_existence {c : Criterion} (check : c.kind = .existence) :
    c.canonical = .existence c.name c.operator := by
  obtain ⟨name, op, value⟩ := c
  cases op with
  | notNull => rfl
  | null => rfl
  | _ => cases check

theorem canonical_valued {c : Criterion} (valued : c.kind ≠ .existence)
    (noCheck : ¬ (c.valueOrEmpty = [] ∧ (c.operator = .equals ∨ c.operator = .notEquals))) :
    c.canonical = .withValue c.name c.operator c.valueOrEmpty := by
  obtain ⟨name, op, value⟩ := c
  rw [Criterion.canonical]
  split
  · rename_i same empty
    exact absurd ⟨empty, .inl same⟩ noCheck
  · rename_i same empty
    exact absurd ⟨empty, .inr same⟩ noCheck
  · rw [if_pos]
    cases op <;> first | rfl | exact absurd rfl valued

theorem render_names {style : ReferenceStyle} {name : Text} (spellable : style.Spellable name) :
    style.Names (style.render name) name := by
  cases style with
  | bare =>
      rcases spellable with word | ⟨-, bound⟩
      · exact .braced name word
      · cases bound
  | contextual current =>
      rw [ReferenceStyle.render]
      by_cases same : name = current
      · have inked : name ≠ [] := by
          rcases spellable with word | ⟨inked, -⟩
          · exact word.1
          · exact inked
        rw [if_pos same, same]
        exact .dot current rfl (same ▸ inked)
      · rw [if_neg same]
        rcases spellable with word | ⟨-, bound⟩
        · exact .braced name word
        · cases bound
          exact absurd rfl same

theorem rendered_head {value t : Text} (rendered : Rendered value t) (rest : Text) :
    ∃ c ∈ (t ++ rest).head?, c = 'd' ∨ c = '-' ∨ isQuoteMark c = true ∨ isDigit c = true := by
  cases rendered with
  | date _ => exact ⟨'d', rfl, .inl rfl⟩
  | number shape =>
      obtain ⟨sign, whole, fraction, rfl, signed, digits, -⟩ := shape
      rcases signed with rfl | rfl
      · obtain ⟨c, tail, parts, digit⟩ := digits_head digits (fraction ++ rest)
        rw [List.nil_append, List.append_assoc, parts]
        exact ⟨c, rfl, .inr (.inr (.inr digit))⟩
      · exact ⟨'-', rfl, .inr (.inl rfl)⟩
  | quoted _ literal =>
      obtain ⟨mark, _, isMark, -⟩ := literal
      exact ⟨mark, rfl, .inr (.inr (.inl isMark))⟩

theorem rendered_no_keyword {value t : Text} (rendered : Rendered value t) (rest : Text) :
    ¬ StartsInKeyword (t ++ rest) := by
  obtain ⟨c, head, start⟩ := rendered_head rendered rest
  apply no_keyword_head head
  rcases start with rfl | rfl | mark | digit
  · decide
  · decide
  · exact (quote_keyword_free mark).first
  · exact (digit_keyword_free digit).first

theorem rendered_missing {value t : Text} (rendered : Rendered value t) (missing : Missing t) :
    value = [] := by
  have same := operand_value (rendered_operand rendered)
  rcases missing with empty | empty | null
  · rw [empty] at same
    rw [← same]
    decide
  · rw [empty] at same
    rw [← same]
    decide
  · exfalso
    obtain ⟨c, head, start⟩ := rendered_head rendered []
    rw [List.append_nil] at head
    have folded : c.toUpper = 'N' := by
      have heads := congrArg List.head? null
      rw [upper, List.head?_map, Option.mem_def.mp head] at heads
      simpa using heads
    rcases start with rfl | rfl | mark | digit
    · exact absurd folded (by decide)
    · exact absurd folded (by decide)
    · rcases quote_mark_iff.mp mark with rfl | rfl <;> exact absurd folded (by decide)
    · rw [digit_upper digit] at folded
      rw [folded] at digit
      exact absurd digit (by decide)

theorem written_existence {style : ReferenceStyle} {c : Criterion} (spellable : style.Spellable c.name)
    (check : c.kind = .existence) : ExistenceForm style ((Writer.mk style).criterion c) c.canonical := by
  have names := render_names spellable
  rw [canonical_existence check]
  obtain ⟨name, op, value⟩ := c
  cases op with
  | notNull =>
      have form := ExistenceForm.mk _ name [' '] ['!', '='] [' '] "''".toList .notNull names rfl .different
        rfl (.inl rfl)
      simpa [Writer.criterion, Criterion.kind, Operator.kind] using form
  | null =>
      have form := ExistenceForm.mk _ name [' '] ['='] [' '] "''".toList .null names rfl .same rfl
        (.inl rfl)
      simpa [Writer.criterion, Criterion.kind, Operator.kind] using form
  | _ => cases check

theorem written_comparison {style : ReferenceStyle} {c : Criterion} (spellable : style.Spellable c.name)
    (compares : c.kind = .comparison) (quotable : Quotable c.valueOrEmpty) :
    ClauseForm style ((Writer.mk style).criterion c) c.canonical := by
  have names := render_names spellable
  have rendered := render_rendered quotable
  have literal := rendered_operand rendered
  have text : (Writer.mk style).criterion c = style.render c.name ++ ([' '] ++ (c.operator.token ++
      ([' '] ++ render c.valueOrEmpty))) := by
    simp [Writer.criterion, compares]
  rw [text]
  by_cases equality : c.valueOrEmpty = [] ∧ (c.operator = .equals ∨ c.operator = .notEquals)
  · obtain ⟨empty, operator⟩ := equality
    have missing := operand_missing literal empty
    rcases operator with equals | notEquals
    · have canonical : c.canonical = .existence c.name .null := by
        simp [Criterion.canonical, equals, empty]
      rw [canonical, equals]
      exact .existence (.mk _ c.name [' '] ['='] [' '] _ .null names rfl .same rfl missing)
    · have canonical : c.canonical = .existence c.name .notNull := by
        simp [Criterion.canonical, notEquals, empty]
      rw [canonical, notEquals]
      exact .existence (.mk _ c.name [' '] ['!', '='] [' '] _ .notNull names rfl .different rfl missing)
  · have valued : c.kind ≠ .existence := by simp [compares]
    rw [canonical_valued valued equality]
    refine .comparison (.mk _ c.name [' '] [' '] _ _ c.operator names rfl compares rfl literal) ?_
    intro other check
    obtain ⟨missing, operator⟩ := comparison_is_check names rfl compares rfl literal check
    exact equality ⟨rendered_missing rendered missing, operator⟩

theorem written_selection {style : ReferenceStyle} {c : Criterion} (spellable : style.Spellable c.name)
    (selects : c.kind = .multiSelect) (quotable : Quotable c.valueOrEmpty) :
    SelectionForm style ((Writer.mk style).criterion c) c.canonical := by
  have names := render_names spellable
  have call := CallForm.mk [] _ c.name [] [' '] _ c.valueOrEmpty [] rfl names rfl rfl
    (quote_quoted quotable) rfl
  have valued : c.kind ≠ .existence := by simp [selects]
  rw [canonical_valued valued]
  · obtain ⟨name, op, value⟩ := c
    cases op with
    | selected =>
        have form := SelectionForm.selected _ name _ call
        simpa [Writer.criterion, Criterion.kind, Operator.kind] using form
    | notSelected =>
        have form := SelectionForm.notSelected [] _ [] name _ rfl call rfl
        simpa [Writer.criterion, Criterion.kind, Operator.kind] using form
    | _ => cases selects
  · intro check
    rcases check.2 with equals | notEquals
    · simp [Criterion.kind, equals, Operator.kind] at selects
    · simp [Criterion.kind, notEquals, Operator.kind] at selects

theorem written_form {style : ReferenceStyle} {c : Criterion} (spellable : style.Spellable c.name)
    (quotable : c.kind ≠ .existence → Quotable c.valueOrEmpty) :
    ClauseForm style ((Writer.mk style).criterion c) c.canonical := by
  cases kind : c.kind with
  | existence => exact .existence (written_existence spellable kind)
  | comparison => exact written_comparison spellable kind (quotable (by simp [kind]))
  | multiSelect => exact .selection (written_selection spellable kind (quotable (by simp [kind])))

theorem calm_quoted {t inner rest : Text} (quoted : Quoted t inner) (calm : Calm rest) :
    Calm (t ++ rest) := by
  obtain ⟨quote, _, mark, absent⟩ := quoted
  exact calm_literal mark absent calm

theorem calm_rendered {value t rest : Text} (rendered : Rendered value t) (calm : Calm rest) :
    Calm (t ++ rest) := by
  cases rendered with
  | date shape =>
      have closing : Calm ([')'] ++ rest) := calm_ink (by decide) (by decide) calm
      have whole := calm_ink (u := dateOpen) (by decide) date_open_plain
        (calm_quoted (day_quoted shape) closing)
      simpa using whole
  | number shape =>
      have ink : Ink value := by
        intro c mem
        rcases number_characters shape c mem with digit | rfl | rfl
        · exact digit_is_ink digit
        · decide
        · decide
      exact calm_ink ink (number_plain shape).1 calm
  | quoted _ literal => exact calm_quoted literal calm

def Closes (t : Text) : Prop :=
  ∃ c ∈ t.getLast?, c = ')' ∨ isQuoteMark c = true ∨ isDigit c = true

theorem closes_append {t : Text} (closes : Closes t) (front : Text) : Closes (front ++ t) := by
  obtain ⟨c, last, kind⟩ := closes
  refine ⟨c, ?_, kind⟩
  rw [Option.mem_def] at last ⊢
  rw [List.getLast?_append, last, Option.some_or]

theorem closes_sealed {t : Text} (closes : Closes t) : Sealed t := by
  obtain ⟨c, last, kind⟩ := closes
  constructor
  · intro d dLast
    rw [Option.mem_unique dLast last]
    rcases kind with rfl | mark | digit
    · decide
    · exact quote_is_ink mark
    · exact digit_is_ink digit
  · apply no_keyword_last last
    rcases kind with rfl | mark | digit
    · decide
    · exact (quote_keyword_free mark).last
    · exact (digit_keyword_free digit).last

theorem quoted_closes {t inner : Text} (quoted : Quoted t inner) : Closes t := by
  obtain ⟨quote, inner, mark, -⟩ := quoted
  exact ⟨quote, List.getLast?_concat, .inr (.inl mark)⟩

theorem digits_closes {t : Text} (digits : Digits t) : Closes t := by
  have last := List.getLast_mem digits.1
  exact ⟨t.getLast digits.1, List.getLast?_eq_some_getLast digits.1, .inr (.inr (digits.2 _ last))⟩

theorem number_closes {t : Text} (number : Number t) : Closes t := by
  obtain ⟨sign, whole, fraction, rfl, -, digits, point⟩ := number
  rcases point with rfl | ⟨behind, behindDigits, rfl⟩
  · rw [List.append_nil]
    exact closes_append (digits_closes digits) sign
  · rw [List.append_cons]
    exact closes_append (digits_closes behindDigits) _

theorem rendered_closes {value t : Text} (rendered : Rendered value t) : Closes t := by
  cases rendered with
  | date _ => exact closes_append ⟨')', rfl, .inl rfl⟩ _
  | number shape => exact number_closes shape
  | quoted _ literal => exact quoted_closes literal

-- The literal of a criterion as it is written. A check for existence is written like an equality with
-- an empty value.
def Criterion.literal (c : Criterion) : Text :=
  match c.kind with
  | .existence => quote []
  | .comparison => render c.valueOrEmpty
  | .multiSelect => quote c.valueOrEmpty

theorem literal_rendered {c : Criterion} (quotable : c.kind ≠ .existence → Quotable c.valueOrEmpty) :
    ∃ value, Rendered value c.literal := by
  rw [Criterion.literal]
  cases kind : c.kind with
  | existence => exact ⟨[], .quoted _ (quote_quoted (quote_free_quotable quote_free_nil))⟩
  | comparison => exact ⟨_, render_rendered (quotable (by simp [kind]))⟩
  | multiSelect => exact ⟨_, .quoted _ (quote_quoted (quotable (by simp [kind])))⟩

theorem literal_unquotable {c : Criterion} (valued : c.kind ≠ .existence)
    (unquotable : ¬ Quotable c.valueOrEmpty) : c.literal = quote c.valueOrEmpty := by
  rw [Criterion.literal]
  cases kind : c.kind with
  | existence => exact absurd kind valued
  | comparison => exact render_unquotable unquotable
  | multiSelect => rfl

theorem literal_closes (c : Criterion) : Closes c.literal := by
  by_cases quotable : c.kind ≠ .existence → Quotable c.valueOrEmpty
  · obtain ⟨value, rendered⟩ := literal_rendered quotable
    exact rendered_closes rendered
  · obtain ⟨valued, unquotable⟩ := Classical.not_imp.mp quotable
    rw [literal_unquotable valued unquotable, quote_unquotable unquotable]
    exact ⟨'"', List.getLast?_concat, .inr (.inl rfl)⟩

theorem token_no_keyword (op : Operator) (rest : Text) : ¬ StartsInKeyword (op.token ++ rest) := by
  cases op <;> exact no_keyword_head rfl (by decide)

theorem token_ink (op : Operator) : Ink op.token := by
  cases op <;> decide

-- What is written around a literal: no join and no quote, and no end at which one could start.
structure Around (front behind : Text) : Prop where
  inked : front ≠ []
  noLead : NoLead front
  free : QuoteFree front
  calm : ∀ t, ¬ StartsInKeyword t → Calm t → Calm (front ++ t)
  inkBehind : Ink behind
  freeBehind : QuoteFree behind
  closes : behind = [] ∨ Closes behind

section

variable {style : ReferenceStyle} {raw name : Text}

theorem comparison_around (names : style.Names raw name) (op : Operator) (compares : op.kind = .comparison) :
    Around (raw ++ ([' '] ++ (op.token ++ [' ']))) [] := by
  have solid := names_solid names
  have blank : QuoteFree [' '] := by decide
  refine ⟨by simp [solid.inked], ?_, ?_, ?_, by decide, by decide, .inl rfl⟩
  · rw [no_lead_append _ _ solid.inked]
    exact solid.noLead
  · simp only [quote_free_append]
    exact ⟨names_quote_free names, blank, token_quote_free compares, blank⟩
  · intro t noKeyword calm
    simp only [List.append_assoc]
    apply calm_ink (names_ink names) (names_quote_free names)
    apply calm_blank rfl (token_no_keyword op _)
    apply calm_ink (token_ink op) (token_quote_free compares)
    exact calm_blank rfl noKeyword calm

theorem call_around (names : style.Names raw name) {opening closing : Text} (ink : Ink (opening ++ closing))
    (free : QuoteFree (opening ++ closing)) (closes : Closes closing) :
    Around (opening ++ (raw ++ ", ".toList)) closing := by
  rw [ink_append] at ink
  rw [quote_free_append] at free
  have inked := (names_solid names).inked
  have call := ink_solid ((ink_append opening raw).mpr ⟨ink.1, names_ink names⟩) (by simp [inked])
  refine ⟨by simp [inked], ?_, ?_, ?_, ink.2, free.2, .inr closes⟩
  · rw [← List.append_assoc, no_lead_append _ _ call.inked]
    exact call.noLead
  · simp only [quote_free_append]
    exact ⟨free.1, names_quote_free names, by decide⟩
  · intro t noKeyword calm
    simp only [List.append_assoc]
    apply calm_ink ink.1 free.1
    apply calm_ink (names_ink names) (names_quote_free names)
    apply calm_ink (u := [',']) (by decide) (by decide)
    exact calm_blank rfl noKeyword calm

end

theorem written_around {style : ReferenceStyle} {c : Criterion} (spellable : style.Spellable c.name) :
    ∃ front behind, Around front behind ∧ (Writer.mk style).criterion c = front ++ (c.literal ++ behind) := by
  have names := render_names spellable
  cases kind : c.kind with
  | existence =>
      have written : quote [] = "''".toList := by decide
      have equals : Operator.equals.token = ['='] := by decide
      have differs : Operator.notEquals.token = ['!', '='] := by decide
      obtain ⟨name, op, value⟩ := c
      cases op with
      | null =>
          refine ⟨_, [], comparison_around names .equals rfl, ?_⟩
          simp [Writer.criterion, Criterion.literal, Criterion.kind, Operator.kind, written, equals]
      | notNull =>
          refine ⟨_, [], comparison_around names .notEquals rfl, ?_⟩
          simp [Writer.criterion, Criterion.literal, Criterion.kind, Operator.kind, written, differs]
      | _ => cases kind
  | comparison =>
      refine ⟨_, [], comparison_around names c.operator kind, ?_⟩
      simp [Writer.criterion, Criterion.literal, kind]
  | multiSelect =>
      have closing : Closes [')'] := ⟨')', rfl, .inl rfl⟩
      obtain ⟨name, op, value⟩ := c
      cases op with
      | selected =>
          refine ⟨"selected(".toList ++ _, _, call_around names (by decide) (by decide) closing, ?_⟩
          simp [Writer.criterion, Criterion.literal, Criterion.kind, Operator.kind]
      | notSelected =>
          refine ⟨"not(selected(".toList ++ _, _, call_around names (by decide) (by decide)
            (closes_append closing [')']), ?_⟩
          simp [Writer.criterion, Criterion.literal, Criterion.kind, Operator.kind]
      | _ => cases kind

theorem written_calm {style : ReferenceStyle} {c : Criterion} (spellable : style.Spellable c.name)
    (quotable : c.kind ≠ .existence → Quotable c.valueOrEmpty) :
    Calm ((Writer.mk style).criterion c) := by
  obtain ⟨front, behind, around, text⟩ := written_around spellable
  obtain ⟨value, rendered⟩ := literal_rendered quotable
  have calm := calm_ink around.inkBehind around.freeBehind calm_nil
  rw [List.append_nil] at calm
  rw [text]
  exact around.calm _ (rendered_no_keyword rendered behind) (calm_rendered rendered calm)

theorem written_closes {style : ReferenceStyle} {c : Criterion} (spellable : style.Spellable c.name) :
    Closes ((Writer.mk style).criterion c) := by
  obtain ⟨front, behind, around, text⟩ := written_around spellable
  rw [text]
  apply closes_append
  rcases around.closes with rfl | closes
  · rw [List.append_nil]
    exact literal_closes c
  · exact closes_append closes c.literal

theorem written_no_lead {style : ReferenceStyle} {c : Criterion} (spellable : style.Spellable c.name)
    (more : Text) : NoLead ((Writer.mk style).criterion c ++ more) := by
  obtain ⟨front, behind, around, text⟩ := written_around spellable
  rw [text, List.append_assoc, no_lead_append _ _ around.inked]
  exact around.noLead

end SurveyLogic
