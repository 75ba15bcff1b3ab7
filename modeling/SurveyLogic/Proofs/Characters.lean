import Mathlib.Data.List.TakeWhile
import SurveyLogic.Clause.Joins
import SurveyLogic.Text.Word

set_option autoImplicit false

namespace SurveyLogic

theorem apart_symm {p q : Char → Bool} {c : Char} (apart : p c = true → q c = false)
    (holds : q c = true) : p c = false := by
  cases other : p c with
  | false => rfl
  | true =>
      rw [apart other] at holds
      cases holds

theorem quote_mark_iff {c : Char} : isQuoteMark c = true ↔ c = '\'' ∨ c = '"' := by
  simp [isQuoteMark]

theorem quote_is_ink {c : Char} (quote : isQuoteMark c = true) : isBlank c = false := by
  rcases quote_mark_iff.mp quote with rfl | rfl <;> decide

theorem quote_is_no_word {c : Char} (quote : isQuoteMark c = true) : isWord c = false := by
  rcases quote_mark_iff.mp quote with rfl | rfl <;> decide

theorem quote_is_no_digit {c : Char} (quote : isQuoteMark c = true) : isDigit c = false := by
  rcases quote_mark_iff.mp quote with rfl | rfl <;> decide

theorem quote_lower {c : Char} (quote : isQuoteMark c = true) : c.toLower = c := by
  rcases quote_mark_iff.mp quote with rfl | rfl <;> decide

theorem blank_is_no_quote {c : Char} (blank : isBlank c = true) : isQuoteMark c = false :=
  apart_symm quote_is_ink blank

theorem lower_outside {c : Char} (outside : ¬ (0x41 ≤ c.toNat ∧ c.toNat ≤ 0x5A)) : c.toLower = c :=
  dif_neg fun inside => outside ⟨inside.1, inside.2⟩

theorem upper_outside {c : Char} (outside : ¬ (0x61 ≤ c.toNat ∧ c.toNat ≤ 0x7A)) : c.toUpper = c :=
  dif_neg fun inside => outside ⟨inside.1, inside.2⟩

theorem blank_lower {c : Char} (blank : isBlank c = true) : c.toLower = c := by
  apply lower_outside
  simp [isBlank] at blank
  omega

theorem blank_upper {c : Char} (blank : isBlank c = true) : c.toUpper = c := by
  apply upper_outside
  simp [isBlank] at blank
  omega

def wideBlanks : List Nat :=
  [0x85, 0xA0, 0x1680, 0x2000, 0x2001, 0x2002, 0x2003, 0x2004, 0x2005, 0x2006, 0x2007, 0x2008,
    0x2009, 0x200A, 0x2028, 0x2029, 0x202F, 0x205F, 0x3000]

theorem blank_codes {c : Char} (blank : isBlank c = true) :
    (0x9 ≤ c.toNat ∧ c.toNat ≤ 0xD) ∨ c.toNat = 0x20 ∨ c.toNat ∈ wideBlanks := by
  simp [isBlank] at blank
  simp only [wideBlanks, List.mem_cons, List.not_mem_nil, or_false]
  omega

theorem wide_blanks_wide : ∀ n ∈ wideBlanks, ¬ n < 0x80 := by decide

theorem wide_blanks_outside :
    ∀ n ∈ wideBlanks, inRanges wordRanges n = false ∧ inRanges digitRanges n = false := by
  decide +kernel

theorem ascii_digit_codes (c : Char) : isAsciiDigit c = true ↔ 0x30 ≤ c.toNat ∧ c.toNat ≤ 0x39 := by
  simp only [isAsciiDigit, Bool.and_eq_true, decide_eq_true_eq]
  rfl

theorem blank_is_no_digit {c : Char} (blank : isBlank c = true) : isDigit c = false := by
  rw [Bool.eq_false_iff]
  intro digit
  rw [isDigit] at digit
  rcases blank_codes blank with control | space | wide
  · rw [if_pos (by omega), ascii_digit_codes] at digit
    omega
  · rw [if_pos (by omega), ascii_digit_codes] at digit
    omega
  · rw [if_neg (wide_blanks_wide _ wide), (wide_blanks_outside _ wide).2] at digit
    cases digit

theorem ascii_word_codes {c : Char} (word : (c.isAlphanum || c == '_') = true) :
    0x30 ≤ c.toNat := by
  rcases (Bool.or_eq_true _ _).mp word with alphanum | underscore
  · rcases (Bool.or_eq_true _ _).mp alphanum with letter | digit
    · rcases (Bool.or_eq_true _ _).mp letter with upper | lower
      · have code : 65 ≤ c.toNat := (of_decide_eq_true upper).1
        omega
      · have code : 97 ≤ c.toNat := of_decide_eq_true ((Bool.and_eq_true _ _).mp lower).1
        omega
    · exact of_decide_eq_true ((Bool.and_eq_true _ _).mp digit).1
  · rw [beq_iff_eq] at underscore
    rw [underscore]
    decide

theorem blank_is_no_word {c : Char} (blank : isBlank c = true) : isWord c = false := by
  rw [Bool.eq_false_iff]
  intro word
  rw [isWord] at word
  rcases blank_codes blank with control | space | wide
  · rw [if_pos (by omega)] at word
    have code := ascii_word_codes word
    omega
  · rw [if_pos (by omega)] at word
    have code := ascii_word_codes word
    omega
  · rw [if_neg (wide_blanks_wide _ wide), (wide_blanks_outside _ wide).1] at word
    cases word

theorem word_is_ink {c : Char} (word : isWord c = true) : isBlank c = false :=
  apart_symm blank_is_no_word word

theorem digit_is_ink {c : Char} (digit : isDigit c = true) : isBlank c = false :=
  apart_symm blank_is_no_digit digit

theorem word_is_no_quote {c : Char} (word : isWord c = true) : isQuoteMark c = false :=
  apart_symm quote_is_no_word word

theorem digit_is_no_quote {c : Char} (digit : isDigit c = true) : isQuoteMark c = false :=
  apart_symm quote_is_no_digit digit

theorem ascii_digit_is_digit {c : Char} (digit : isAsciiDigit c = true) : isDigit c = true := by
  have codes := (ascii_digit_codes c).mp digit
  rw [isDigit, if_pos (by omega), digit]

theorem digit_codes {c : Char} (digit : isDigit c = true) :
    (0x30 ≤ c.toNat ∧ c.toNat ≤ 0x39) ∨ 0x80 ≤ c.toNat := by
  rw [isDigit] at digit
  by_cases ascii : c.toNat < 0x80
  · rw [if_pos ascii] at digit
    exact .inl ((ascii_digit_codes c).mp digit)
  · exact .inr (Nat.le_of_not_lt ascii)

theorem digit_lower {c : Char} (digit : isDigit c = true) : c.toLower = c := by
  apply lower_outside
  have codes := digit_codes digit
  omega

theorem digit_upper {c : Char} (digit : isDigit c = true) : c.toUpper = c := by
  apply upper_outside
  have codes := digit_codes digit
  omega

end SurveyLogic
