import SurveyLogic.Proofs.ClauseForms

set_option autoImplicit false

namespace SurveyLogic

open Text Literal

theorem missing_ink {t : Text} (missing : Missing t) : Ink t := by
  rcases missing with rfl | rfl | null
  · decide
  · decide
  · intro c mem
    rw [Bool.eq_false_iff]
    intro blank
    have upperMem : c.toUpper ∈ "NULL".toList := by
      rw [← null]
      exact List.mem_map_of_mem mem
    rw [blank_upper blank] at upperMem
    have letters : Ink "NULL".toList := by decide
    rw [letters c upperMem] at blank
    cases blank

theorem missing_no_lead {t : Text} (missing : Missing t) : NoLead t :=
  fun c mem => missing_ink missing c (List.mem_of_mem_head? mem)

theorem is_nothing_iff (t : Text) : Grammar.isNothing t = true ↔ Missing t := by
  simp [Grammar.isNothing, Missing, or_assoc]

theorem equality_follows (t operand : Text) :
    Grammar.afterEquality? t = some operand ↔
      ∃ (sign : Text) (op : Operator), Equality sign op ∧ t = sign ++ operand := by
  constructor
  · intro found
    unfold Grammar.afterEquality? at found
    split at found
    · exact ⟨['='], .null, .same, by simpa using found⟩
    · exact ⟨['!', '='], .notNull, .different, by simpa using found⟩
    · cases found
  · intro form
    obtain ⟨sign, op, equality, rfl⟩ := form
    cases equality <;> rfl

theorem equality_no_lead {sign : Text} {op : Operator} (equality : Equality sign op) (rest : Text) :
    NoLead (sign ++ rest) := by
  cases equality
  · rw [List.cons_append, no_lead_cons]
    decide
  · rw [List.cons_append, no_lead_cons]
    decide

theorem existence_token {sign pad nothing : Text} {op : Operator} (equality : Equality sign op)
    (blankPad : pad.allBlank) (missing : Missing nothing) :
    Operator.ofToken (Reader.existenceToken (sign ++ (pad ++ nothing))) = .ok op := by
  have noPad : pad.filter (! isBlank ·) = [] := by
    rw [List.filter_eq_nil_iff]
    intro c mem
    simp [all_blank_mem blankPad c mem]
  have kept : nothing.filter (! isBlank ·) = nothing := by
    rw [List.filter_eq_self]
    intro c mem
    simp [missing_ink missing c mem]
  have signKept : sign.filter (! isBlank ·) = sign := by
    cases equality <;> decide
  rw [Reader.existenceToken, List.filter_append, List.filter_append, noPad, kept, signKept,
    List.nil_append]
  rcases missing with rfl | rfl | null
  · cases equality <;> decide
  · cases equality <;> decide
  · rw [upper, List.map_append, show nothing.map Char.toUpper = "NULL".toList from null]
    cases equality <;> decide

theorem existence_accepts {style : ReferenceStyle} {t : Text} {c : Criterion}
    (form : ExistenceForm style t c) : (Reader.ofStyle style).existence? t = .ok (some c) := by
  obtain ⟨raw, name, gap, sign, pad, nothing, op, names, blankGap, equality, blankPad, missing⟩ := form
  have check : trimStart (gap ++ (sign ++ (pad ++ nothing))) = sign ++ (pad ++ nothing) :=
    trim_start_core _ _ blankGap (equality_no_lead equality _)
  have follows := (equality_follows (sign ++ (pad ++ nothing)) _).mpr ⟨sign, op, equality, rfl⟩
  have empty : Grammar.isNothing (trimStart (pad ++ nothing)) = true := by
    rw [trim_start_core _ _ blankPad (missing_no_lead missing)]
    exact (is_nothing_iff nothing).mpr missing
  have found : style.grammar.existence? (raw ++ (gap ++ (sign ++ (pad ++ nothing)))) =
      some ⟨raw, sign ++ (pad ++ nothing)⟩ := by
    rw [Grammar.existence?, names_read names]
    simp only [check, follows, empty, if_true]
  rw [Reader.existence?, of_style_grammar, found]
  simp only [of_style_style, names_resolve names, existence_token equality blankPad missing]
  rfl

theorem existence_found {g : Grammar} {t : Text} {found : ExistenceMatch}
    (matched : g.existence? t = some found) :
    ∃ (rest gap sign pad nothing : Text) (op : Operator),
      g.reference? t = some (found.reference, rest) ∧ rest = gap ++ found.check ∧
      found.check = sign ++ (pad ++ nothing) ∧ gap.allBlank ∧ Equality sign op ∧ pad.allBlank ∧
      Missing nothing := by
  unfold Grammar.existence? at matched
  split at matched
  · cases matched
  · rename_i reference rest read
    simp only at matched
    split at matched
    · cases matched
    · rename_i operand follows
      obtain ⟨sign, op, equality, check⟩ := (equality_follows _ _).mp follows
      by_cases empty : Grammar.isNothing (trimStart operand) = true
      · rw [if_pos empty, Option.some.injEq] at matched
        subst matched
        obtain ⟨gap, blankGap, gapParts, -⟩ := trim_start_spec rest
        obtain ⟨pad, blankPad, padParts, -⟩ := trim_start_spec operand
        exact ⟨rest, gap, sign, pad, trimStart operand, op, read, gapParts, by rw [check, ← padParts],
          blankGap, equality, blankPad, (is_nothing_iff _).mp empty⟩
      · rw [if_neg empty] at matched
        cases matched

theorem existence_answers (style : ReferenceStyle) (t : Text) :
    (Reader.ofStyle style).existence? t = .ok none ∨
      ∃ c, (Reader.ofStyle style).existence? t = .ok (some c) ∧ ExistenceForm style t c := by
  cases matched : style.grammar.existence? t with
  | none =>
      left
      rw [Reader.existence?, of_style_grammar, matched]
  | some found =>
      cases resolved : style.resolve? found.reference with
      | none =>
          left
          rw [Reader.existence?, of_style_grammar, matched]
          simp only [of_style_style, resolved]
      | some name =>
          right
          obtain ⟨rest, gap, sign, pad, nothing, op, read, restEq, check, blankGap, equality, blankPad,
            missing⟩ := existence_found matched
          obtain ⟨names, parts⟩ := read_names read resolved
          have form : ExistenceForm style _ _ := .mk found.reference name gap sign pad nothing op names
            blankGap equality blankPad missing
          rw [← check, ← restEq, ← parts] at form
          exact ⟨_, existence_accepts form, form⟩

theorem existence_rejects {style : ReferenceStyle} {t : Text}
    (noForm : ∀ c, ¬ ExistenceForm style t c) : (Reader.ofStyle style).existence? t = .ok none := by
  rcases existence_answers style t with none | ⟨c, -, form⟩
  · exact none
  · exact absurd form (noForm c)

theorem comparison_token {op : Operator} (compares : op.kind = .comparison) :
    Operator.ofToken op.token = .ok op := by
  cases op <;> first | rfl | cases compares

-- The longest symbol is taken, since no operand and no blank starts with an equals sign.
theorem symbol_read {op : Operator} (compares : op.kind = .comparison) {rest : Text}
    (noEquals : '=' ∉ rest.head?) : Grammar.symbol? (op.token ++ rest) = some (op.token, rest) := by
  have short : ∀ tail, rest = '=' :: tail → False := by
    rintro tail rfl
    exact noEquals rfl
  cases op with
  | equals => exact Grammar.symbol?.eq_4 rest
  | notEquals => exact Grammar.symbol?.eq_1 rest
  | greater => exact Grammar.symbol?.eq_5 rest short
  | less => exact Grammar.symbol?.eq_6 rest short
  | greaterEquals => exact Grammar.symbol?.eq_2 rest
  | lessEquals => exact Grammar.symbol?.eq_3 rest
  | notNull => cases compares
  | null => cases compares
  | selected => cases compares
  | notSelected => cases compares

theorem symbol_found {t symbol rest : Text} (found : Grammar.symbol? t = some (symbol, rest)) :
    ∃ op : Operator, op.kind = .comparison ∧ symbol = op.token ∧ t = op.token ++ rest := by
  unfold Grammar.symbol? at found
  split at found
  · cases found
    exact ⟨.notEquals, rfl, rfl, rfl⟩
  · cases found
    exact ⟨.greaterEquals, rfl, rfl, rfl⟩
  · cases found
    exact ⟨.lessEquals, rfl, rfl, rfl⟩
  · cases found
    exact ⟨.equals, rfl, rfl, rfl⟩
  · cases found
    exact ⟨.greater, rfl, rfl, rfl⟩
  · cases found
    exact ⟨.less, rfl, rfl, rfl⟩
  · cases found

theorem token_no_lead {op : Operator} (compares : op.kind = .comparison) (rest : Text) :
    NoLead (op.token ++ rest) := by
  rw [no_lead_append]
  · intro c mem
    cases op <;> cases mem <;> decide
  · intro empty
    cases op <;> cases empty

theorem padded_no_equals {pad t : Text} (blankPad : pad.allBlank) (noEquals : '=' ∉ t.head?) :
    '=' ∉ (pad ++ t).head? := by
  intro mem
  cases pad with
  | nil => exact noEquals mem
  | cons d pad =>
      cases mem
      have blank := all_blank_mem blankPad '=' (by simp)
      exact absurd blank (by decide)

theorem comparison_accepts {style : ReferenceStyle} {t : Text} {c : Criterion}
    (form : ComparisonForm style t c) : (Reader.ofStyle style).comparison? t = .ok (some c) := by
  obtain ⟨raw, name, gap, pad, operand, value, op, names, blankGap, compares, blankPad, literal⟩ := form
  have noEquals := padded_no_equals blankPad (operand_no_equals literal)
  have start : trimStart (gap ++ (op.token ++ (pad ++ operand))) = op.token ++ (pad ++ operand) :=
    trim_start_core _ _ blankGap (token_no_lead compares _)
  have right : trimStart (pad ++ operand) = operand :=
    trim_start_core _ _ blankPad (operand_solid literal).noLead
  have accepted := ((is_operand_iff operand).mpr ⟨value, literal⟩).1
  have found : style.grammar.comparison? (raw ++ (gap ++ (op.token ++ (pad ++ operand)))) =
      some ⟨raw, op.token, operand⟩ := by
    rw [Grammar.comparison?, names_read names]
    simp only [start, symbol_read compares noEquals, right, accepted, if_true]
  rw [Reader.comparison?, of_style_grammar, found]
  simp only [of_style_style, names_resolve names, comparison_token compares, operand_value literal]
  rfl

theorem comparison_found {g : Grammar} {t : Text} {found : ComparisonMatch}
    (matched : g.comparison? t = some found) :
    ∃ (rest gap pad value : Text) (op : Operator),
      g.reference? t = some (found.reference, rest) ∧
      rest = gap ++ (op.token ++ (pad ++ found.operand)) ∧ found.symbol = op.token ∧ gap.allBlank ∧
      op.kind = .comparison ∧ pad.allBlank ∧ Operand found.operand value := by
  unfold Grammar.comparison? at matched
  split at matched
  · cases matched
  · rename_i reference rest read
    simp only at matched
    split at matched
    · cases matched
    · rename_i symbol behind follows
      obtain ⟨op, compares, rfl, parts⟩ := symbol_found follows
      by_cases accepted : isOperand (trimStart behind) = true
      · rw [if_pos accepted, Option.some.injEq] at matched
        subst matched
        obtain ⟨gap, blankGap, gapParts, -⟩ := trim_start_spec rest
        obtain ⟨pad, blankPad, padParts, noLead⟩ := trim_start_spec behind
        obtain ⟨value, literal⟩ := (is_operand_iff _).mp ⟨accepted, noLead⟩
        exact ⟨rest, gap, pad, value, op, read, by rw [← padParts, ← parts, ← gapParts], rfl, blankGap,
          compares, blankPad, literal⟩
      · rw [if_neg accepted] at matched
        cases matched

theorem comparison_answers (style : ReferenceStyle) (t : Text) :
    (Reader.ofStyle style).comparison? t = .ok none ∨
      ∃ c, (Reader.ofStyle style).comparison? t = .ok (some c) ∧ ComparisonForm style t c := by
  cases matched : style.grammar.comparison? t with
  | none =>
      left
      rw [Reader.comparison?, of_style_grammar, matched]
  | some found =>
      cases resolved : style.resolve? found.reference with
      | none =>
          left
          rw [Reader.comparison?, of_style_grammar, matched]
          simp only [of_style_style, resolved]
      | some name =>
          right
          obtain ⟨rest, gap, pad, value, op, read, restEq, -, blankGap, compares, blankPad, literal⟩ :=
            comparison_found matched
          obtain ⟨names, parts⟩ := read_names read resolved
          have form : ComparisonForm style _ _ := .mk found.reference name gap pad found.operand value op
            names blankGap compares blankPad literal
          rw [← restEq, ← parts] at form
          exact ⟨_, comparison_accepts form, form⟩

end SurveyLogic
