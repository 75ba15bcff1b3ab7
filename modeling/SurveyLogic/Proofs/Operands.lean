import SurveyLogic.Literal
import SurveyLogic.Proofs.Quotes

set_option autoImplicit false

namespace SurveyLogic.Literal

open Text

def Digits (t : Text) : Prop := t ≠ [] ∧ ∀ c ∈ t, isDigit c = true

def Day (t : Text) : Prop :=
  ∃ year month day : Text, t = year ++ ['-'] ++ month ++ ['-'] ++ day ∧ year.length = 4 ∧
    month.length = 2 ∧ day.length = 2 ∧ ∀ c ∈ year ++ month ++ day, isDigit c = true

def Fraction (t : Text) : Prop := t = [] ∨ ∃ digits, Digits digits ∧ t = '.' :: digits

def Number (t : Text) : Prop :=
  ∃ sign whole fraction : Text, t = sign ++ whole ++ fraction ∧ (sign = [] ∨ sign = ['-']) ∧
    Digits whole ∧ Fraction fraction

structure Words (t : Text) : Prop where
  inside : ∀ c ∈ t, isWord c = true ∨ isBlank c = true
  first : ∃ c ∈ t.head?, isWord c = true
  last : ∃ c ∈ t.getLast?, isWord c = true

inductive Quoted : Text → Text → Prop
  | mk (quote : Char) (inner : Text) (mark : isQuoteMark quote = true) (absent : quote ∉ inner) :
      Quoted (quote :: inner ++ [quote]) inner

inductive Operand : Text → Text → Prop
  | date (lead day tail : Text) (blankLead : lead.allBlank) (blankTail : tail.allBlank)
      (shape : Day day) :
      Operand (dateOpen ++ (lead ++ ('\'' :: day ++ ['\'']) ++ tail) ++ [')']) day
  | quoted (t inner : Text) (literal : Quoted t inner) : Operand t inner
  | number (t : Text) (shape : Number t) : Operand t t
  | words (t : Text) (shape : Words t) : Operand t t

theorem absent_apart {c : Char} {t : Text} (absent : c ∉ t) : ∀ d ∈ t, decide (d ≠ c) = true := by
  intro d mem
  rw [decide_eq_true_eq]
  rintro rfl
  exact absent mem

theorem absent_in_front (c : Char) (t : Text) : c ∉ t.takeWhile (· ≠ c) := by
  intro mem
  have different := List.mem_takeWhile_imp mem
  simp at different

theorem stops_at {c d : Char} {t rest : Text} (stop : t.dropWhile (· ≠ c) = d :: rest) : d = c := by
  have head := List.head?_dropWhile_not (· ≠ c) t
  rw [stop] at head
  simpa using head

theorem nonempty_all_iff (p : Char → Bool) (t : Text) :
    nonemptyAll p t = true ↔ t ≠ [] ∧ ∀ c ∈ t, p c = true := by
  simp [nonemptyAll]

theorem is_date_iff (t : Text) : isDate isDigit t = true ↔ Day t := by
  constructor
  · intro shape
    unfold isDate at shape
    split at shape
    · rename_i a b c d e f g h
      refine ⟨[a, b, c, d], [e, f], [g, h], rfl, rfl, rfl, rfl, ?_⟩
      exact List.all_eq_true.mp shape
    · cases shape
  · intro shape
    obtain ⟨year, month, day, rfl, yearSize, monthSize, daySize, digits⟩ := shape
    match year, month, day, yearSize, monthSize, daySize with
    | [a, b, c, d], [e, f], [g, h], _, _, _ => exact List.all_eq_true.mpr digits

theorem day_digits {t : Text} (shape : Day t) : ∀ c ∈ t, isDigit c = true ∨ c = '-' := by
  obtain ⟨year, month, day, rfl, -, -, -, digits⟩ := shape
  simp only [List.mem_append, or_imp, forall_and, List.mem_singleton] at digits ⊢
  refine ⟨⟨⟨⟨?_, ?_⟩, ?_⟩, ?_⟩, ?_⟩
  · exact fun c mem => .inl (digits.1.1 c mem)
  · exact fun c same => .inr same
  · exact fun c mem => .inl (digits.1.2 c mem)
  · exact fun c same => .inr same
  · exact fun c mem => .inl (digits.2 c mem)

theorem day_absent {t : Text} (shape : Day t) {c : Char} (other : isDigit c = false ∧ c ≠ '-') :
    c ∉ t := by
  intro mem
  rcases day_digits shape c mem with digit | same
  · rw [other.1] at digit
    cases digit
  · exact other.2 same

theorem day_length {t : Text} (shape : Day t) : t.length = 10 := by
  obtain ⟨year, month, day, rfl, yearSize, monthSize, daySize, -⟩ := shape
  simp [yearSize, monthSize, daySize]

theorem is_quoted_by_iff (quote : Char) (t : Text) :
    isQuotedBy quote t = true ↔ ∃ inner, quote ∉ inner ∧ t = quote :: inner ++ [quote] := by
  constructor
  · intro quoted
    cases t with
    | nil => cases quoted
    | cons c rest =>
        simp only [isQuotedBy, Bool.and_eq_true, decide_eq_true_eq] at quoted
        obtain ⟨rfl, closed⟩ := quoted
        refine ⟨rest.takeWhile (· ≠ c), absent_in_front c rest, ?_⟩
        rw [List.cons_append, ← closed, List.takeWhile_append_dropWhile]
  · intro form
    obtain ⟨inner, absent, rfl⟩ := form
    simp only [isQuotedBy, List.cons_append, decide_true, Bool.true_and, decide_eq_true_eq]
    rw [List.dropWhile_append_of_pos (absent_apart absent)]
    simp

theorem is_quoted_iff (t : Text) : isQuoted t = true ↔ ∃ inner, Quoted t inner := by
  rw [isQuoted, Bool.or_eq_true, is_quoted_by_iff, is_quoted_by_iff]
  constructor
  · intro quoted
    rcases quoted with ⟨inner, absent, rfl⟩ | ⟨inner, absent, rfl⟩
    · exact ⟨inner, .mk _ _ rfl absent⟩
    · exact ⟨inner, .mk _ _ rfl absent⟩
  · intro literal
    obtain ⟨inner, ⟨quote, _, mark, absent⟩⟩ := literal
    rcases quote_mark_iff.mp mark with rfl | rfl
    · exact .inl ⟨inner, absent, rfl⟩
    · exact .inr ⟨inner, absent, rfl⟩

theorem marked_solid {quote : Char} (mark : isQuoteMark quote = true) (inner : Text) :
    Solid (quote :: inner ++ [quote]) := by
  refine ⟨by simp, ?_, ?_⟩
  · rw [List.cons_append, no_lead_cons]
    exact quote_is_ink mark
  · rw [no_tail_concat]
    exact quote_is_ink mark

theorem quoted_solid {t inner : Text} (quoted : Quoted t inner) : Solid t := by
  obtain ⟨quote, _, mark, -⟩ := quoted
  exact marked_solid mark inner

theorem is_date_call_iff (t : Text) :
    isDateCall t = true ↔ ∃ lead day tail : Text, lead.allBlank ∧ tail.allBlank ∧ Day day ∧
      t = dateOpen ++ (lead ++ ('\'' :: day ++ ['\'']) ++ tail) ++ [')'] := by
  constructor
  · intro call
    rw [isDateCall] at call
    cases found : (after? dateOpen t).bind (before? [')']) with
    | none => simp [found] at call
    | some inner =>
        simp only [found, Bool.and_eq_true] at call
        obtain ⟨rest, afterEq, beforeEq⟩ := Option.bind_eq_some_iff.mp found
        obtain ⟨quoted, date⟩ := call
        obtain ⟨day, absent, core⟩ := (is_quoted_by_iff _ _).mp quoted
        obtain ⟨lead, tail, blankLead, blankTail, parts⟩ := trim_spec inner
        rw [core, List.cons_append, List.drop_succ_cons, List.drop_zero, List.dropLast_concat] at date
        refine ⟨lead, day, tail, blankLead, blankTail, (is_date_iff day).mp date, ?_⟩
        rw [after_eq_some.mp afterEq, before_eq_some.mp beforeEq, List.append_assoc, ← core, ← parts]
  · intro form
    obtain ⟨lead, day, tail, blankLead, blankTail, shape, rfl⟩ := form
    have absent : '\'' ∉ day := day_absent shape (by decide)
    have solid := quoted_solid (.mk '\'' day rfl absent)
    rw [isDateCall, List.append_assoc dateOpen, after_append]
    simp only [Option.bind_some, before_append, trim_core _ _ _ blankLead blankTail solid,
      Bool.and_eq_true]
    refine ⟨(is_quoted_by_iff _ _).mpr ⟨day, absent, rfl⟩, ?_⟩
    rw [List.cons_append, List.drop_succ_cons, List.drop_zero, List.dropLast_concat]
    exact (is_date_iff day).mpr shape

theorem digits_head {t : Text} (digits : Digits t) (rest : Text) :
    ∃ c tail, t ++ rest = c :: tail ∧ isDigit c = true := by
  obtain ⟨c, tail, rfl⟩ := List.exists_cons_of_ne_nil digits.1
  exact ⟨c, tail ++ rest, rfl, digits.2 c (by simp)⟩

theorem magnitude_iff (t : Text) :
    (nonemptyAll isDigit (t.takeWhile (· ≠ '.')) &&
      match t.dropWhile (· ≠ '.') with
      | [] => true
      | _ :: fraction => nonemptyAll isDigit fraction) = true ↔
    ∃ whole fraction, t = whole ++ fraction ∧ Digits whole ∧ Fraction fraction := by
  rw [Bool.and_eq_true, nonempty_all_iff]
  constructor
  · intro magnitude
    obtain ⟨whole, fraction⟩ := magnitude
    refine ⟨_, _, List.takeWhile_append_dropWhile.symm, whole, ?_⟩
    cases point : t.dropWhile (· ≠ '.') with
    | nil => exact .inl rfl
    | cons c digits =>
        rw [point] at fraction
        exact .inr ⟨digits, (nonempty_all_iff _ _).mp fraction, by rw [stops_at point]⟩
  · intro form
    obtain ⟨whole, fraction, rfl, digits, point⟩ := form
    have noPoint : '.' ∉ whole := fun mem => absurd (digits.2 _ mem) (by decide)
    rw [List.takeWhile_append_of_pos (absent_apart noPoint),
      List.dropWhile_append_of_pos (absent_apart noPoint)]
    rcases point with rfl | ⟨behind, behindDigits, rfl⟩
    · simpa [Digits] using digits
    · simpa [nonempty_all_iff, Digits] using And.intro digits behindDigits

theorem is_number_iff (t : Text) : isNumber isDigit t = true ↔ Number t := by
  rw [isNumber]
  constructor
  · intro number
    obtain ⟨whole, fraction, parts, digits, point⟩ := (magnitude_iff _).mp number
    unfold unsigned at parts
    split at parts
    · exact ⟨['-'], whole, fraction, by rw [parts]; rfl, .inr rfl, digits, point⟩
    · exact ⟨[], whole, fraction, parts, .inl rfl, digits, point⟩
  · intro number
    obtain ⟨sign, whole, fraction, rfl, signed, digits, point⟩ := number
    have magnitude : unsigned (sign ++ whole ++ fraction) = whole ++ fraction := by
      rcases signed with rfl | rfl
      · obtain ⟨c, tail, parts, digit⟩ := digits_head digits fraction
        rw [List.nil_append, parts]
        unfold unsigned
        split
        · rename_i same
          cases same
          exact absurd digit (by decide)
        · rfl
      · rfl
    rw [magnitude]
    exact (magnitude_iff _).mpr ⟨whole, fraction, rfl, digits, point⟩

theorem number_characters {t : Text} (number : Number t) :
    ∀ c ∈ t, isDigit c = true ∨ c = '-' ∨ c = '.' := by
  obtain ⟨sign, whole, fraction, rfl, signed, digits, point⟩ := number
  intro c mem
  rw [List.mem_append, List.mem_append] at mem
  rcases mem with (inSign | inWhole) | inFraction
  · rcases signed with rfl | rfl
    · cases inSign
    · exact .inr (.inl (List.mem_singleton.mp inSign))
  · exact .inl (digits.2 c inWhole)
  · rcases point with rfl | ⟨behind, behindDigits, rfl⟩
    · cases inFraction
    · rcases List.mem_cons.mp inFraction with same | later
      · exact .inr (.inr same)
      · exact .inl (behindDigits.2 c later)

theorem number_absent {t : Text} (number : Number t) {c : Char}
    (other : isDigit c = false ∧ c ≠ '-' ∧ c ≠ '.') : c ∉ t := by
  intro mem
  rcases number_characters number c mem with digit | same | same
  · rw [other.1] at digit
    cases digit
  · exact other.2.1 same
  · exact other.2.2 same

theorem digits_no_tail {t : Text} (digits : Digits t) (front : Text) : NoTail (front ++ t) := by
  rw [no_tail_append _ _ digits.1]
  exact fun c mem => digit_is_ink (digits.2 c (List.mem_of_getLast? mem))

theorem number_solid {t : Text} (number : Number t) : Solid t := by
  have characters := number_characters number
  obtain ⟨sign, whole, fraction, rfl, signed, digits, point⟩ := number
  refine ⟨by simp [digits.1], ?_, ?_⟩
  · intro c mem
    rcases characters c (List.mem_of_mem_head? mem) with digit | rfl | rfl
    · exact digit_is_ink digit
    · decide
    · decide
  · rcases point with rfl | ⟨behind, behindDigits, rfl⟩
    · rw [List.append_nil]
      exact digits_no_tail digits sign
    · rw [List.append_cons]
      exact digits_no_tail behindDigits _

theorem is_word_run_iff (t : Text) : isWordRun t = true ∧ NoLead t ↔ Words t := by
  simp only [isWordRun, Bool.and_eq_true, List.all_eq_true, Bool.or_eq_true, Option.any_eq_true]
  constructor
  · intro run
    obtain ⟨⟨inside, ⟨d, last, word⟩⟩, noLead⟩ := run
    refine ⟨inside, ?_, ⟨d, last, word⟩⟩
    cases t with
    | nil => simp at last
    | cons c t =>
        refine ⟨c, rfl, ?_⟩
        rcases inside c (by simp) with word | blank
        · exact word
        · simp [(no_lead_cons c t).mp noLead] at blank
  · intro words
    obtain ⟨inside, ⟨c, head, word⟩, ⟨d, last, lastWord⟩⟩ := words
    refine ⟨⟨inside, ⟨d, last, lastWord⟩⟩, ?_⟩
    intro first mem
    rw [Option.mem_unique mem head]
    exact word_is_ink word

theorem words_solid {t : Text} (words : Words t) : Solid t := by
  obtain ⟨-, ⟨c, head, word⟩, ⟨d, last, lastWord⟩⟩ := words
  refine ⟨?_, ?_, ?_⟩
  · intro empty
    rw [empty] at head
    cases head
  · intro first mem
    rw [Option.mem_unique mem head]
    exact word_is_ink word
  · intro final mem
    rw [Option.mem_unique mem last]
    exact word_is_ink lastWord

theorem words_absent {t : Text} (words : Words t) {c : Char}
    (other : isWord c = false ∧ isBlank c = false) : c ∉ t := by
  intro mem
  rcases words.inside c mem with word | blank
  · rw [other.1] at word
    cases word
  · rw [other.2] at blank
    cases blank

theorem date_call_solid (inner : Text) : Solid (dateOpen ++ inner ++ [')']) :=
  ⟨by simp, by simp [dateOpen, NoLead]; decide, by rw [no_tail_concat]; decide⟩

theorem operand_solid {t value : Text} (operand : Operand t value) : Solid t := by
  cases operand with
  | date lead day tail _ _ _ => exact date_call_solid _
  | quoted _ _ literal => exact quoted_solid literal
  | number _ shape => exact number_solid shape
  | words _ shape => exact words_solid shape

theorem operand_no_equals {t value : Text} (operand : Operand t value) : '=' ∉ t.head? := by
  intro head
  have mem := List.mem_of_mem_head? head
  cases operand with
  | date lead day tail _ _ _ => cases head
  | quoted _ _ literal =>
      obtain ⟨quote, _, mark, -⟩ := literal
      cases head
      cases mark
  | number _ shape => exact number_absent shape (by decide) mem
  | words _ shape => exact words_absent shape (by decide) mem

theorem is_operand_iff (t : Text) : isOperand t = true ∧ NoLead t ↔ ∃ value, Operand t value := by
  constructor
  · intro read
    obtain ⟨accepted, noLead⟩ := read
    simp only [isOperand, Bool.or_eq_true] at accepted
    rcases accepted with ((call | quoted) | number) | words
    · obtain ⟨lead, day, tail, blankLead, blankTail, shape, rfl⟩ := (is_date_call_iff t).mp call
      exact ⟨day, .date lead day tail blankLead blankTail shape⟩
    · obtain ⟨inner, literal⟩ := (is_quoted_iff t).mp quoted
      exact ⟨inner, .quoted t inner literal⟩
    · exact ⟨t, .number t ((is_number_iff t).mp number)⟩
    · exact ⟨t, .words t ((is_word_run_iff t).mp ⟨words, noLead⟩)⟩
  · intro literal
    obtain ⟨value, operand⟩ := literal
    refine ⟨?_, (operand_solid operand).noLead⟩
    simp only [isOperand, Bool.or_eq_true]
    cases operand with
    | date lead _ tail blankLead blankTail shape =>
        exact .inl (.inl (.inl ((is_date_call_iff _).mpr
          ⟨lead, value, tail, blankLead, blankTail, shape, rfl⟩)))
    | quoted _ _ literal => exact .inl (.inl (.inr ((is_quoted_iff t).mpr ⟨value, literal⟩)))
    | number _ shape => exact .inl (.inr ((is_number_iff t).mpr shape))
    | words _ shape => exact .inr ((is_word_run_iff t).mpr shape).1

end SurveyLogic.Literal
