import SurveyLogic.Proofs.Characters
import SurveyLogic.Proofs.Trimming

set_option autoImplicit false

namespace SurveyLogic

def quoteAfter : Option Char → Char → Option Char
  | some quote, c => if c = quote then none else some quote
  | none, c => if isQuoteMark c then some c else none

-- The quote that is still open after a text, given the one that was open in front of it.
def openAfter (opened : Option Char) (t : Text) : Option Char := t.foldl quoteAfter opened

def QuoteFree (t : Text) : Prop := ∀ c ∈ t, isQuoteMark c = false

instance (t : Text) : Decidable (QuoteFree t) := List.decidableBAll _ t

theorem all_blank_quote_free {t : Text} (blank : t.allBlank) : QuoteFree t :=
  fun c mem => blank_is_no_quote (Text.all_blank_mem blank c mem)

@[simp] theorem quote_free_nil : QuoteFree [] := by simp [QuoteFree]

@[simp] theorem quote_free_cons (c : Char) (t : Text) :
    QuoteFree (c :: t) ↔ isQuoteMark c = false ∧ QuoteFree t := by
  simp [QuoteFree]

@[simp] theorem quote_free_append (t u : Text) : QuoteFree (t ++ u) ↔ QuoteFree t ∧ QuoteFree u := by
  simp only [QuoteFree, List.mem_append, or_imp, forall_and]

@[simp] theorem open_after_nil (opened : Option Char) : openAfter opened [] = opened := rfl

@[simp] theorem open_after_cons (opened : Option Char) (c : Char) (t : Text) :
    openAfter opened (c :: t) = openAfter (quoteAfter opened c) t := rfl

theorem open_after_append (opened : Option Char) (t u : Text) :
    openAfter opened (t ++ u) = openAfter (openAfter opened t) u := List.foldl_append

theorem open_after_quote_free {t : Text} (free : QuoteFree t) : openAfter none t = none := by
  induction t with
  | nil => rfl
  | cons c t ih =>
      obtain ⟨plain, rest⟩ := (quote_free_cons c t).mp free
      rw [open_after_cons, quoteAfter, plain]
      exact ih rest

theorem front_of_mark {p : Char → Bool} {t u front behind : Text} {mark : Char}
    (free : ∀ c ∈ t, p c = false) (isMark : p mark = true) (parts : t ++ u = front ++ mark :: behind) :
    ∃ rest, front = t ++ rest ∧ u = rest ++ mark :: behind := by
  rcases List.append_eq_append_iff.mp parts with ⟨rest, frontEq, uEq⟩ | ⟨rest, tEq, markEq⟩
  · exact ⟨rest, frontEq, uEq⟩
  · cases rest with
    | nil => exact ⟨[], by simp [tEq], markEq.symm⟩
    | cons c rest =>
        rw [List.cons_append, List.cons.injEq] at markEq
        have plain := free mark (by simp [tEq, markEq.1])
        rw [isMark] at plain
        cases plain

theorem first_mark_unique {p : Char → Bool} {front other behind otherBehind : Text} {mark otherMark : Char}
    (free : ∀ c ∈ front, p c = false) (otherFree : ∀ c ∈ other, p c = false) (isMark : p mark = true)
    (otherIsMark : p otherMark = true)
    (parts : front ++ mark :: behind = other ++ otherMark :: otherBehind) :
    front = other ∧ mark = otherMark ∧ behind = otherBehind := by
  obtain ⟨rest, otherEq, restEq⟩ := front_of_mark free otherIsMark parts
  cases rest with
  | nil =>
      rw [List.nil_append, List.cons.injEq] at restEq
      exact ⟨by simp [otherEq], restEq⟩
  | cons c rest =>
      rw [List.cons_append, List.cons.injEq] at restEq
      have plain := otherFree mark (by simp [otherEq, restEq.1])
      rw [isMark] at plain
      cases plain

theorem open_after_inside {quote : Char} {t : Text} (absent : quote ∉ t) :
    openAfter (some quote) t = some quote := by
  induction t with
  | nil => rfl
  | cons c t ih =>
      rw [List.mem_cons, not_or] at absent
      rw [open_after_cons, quoteAfter, if_neg (Ne.symm absent.1)]
      exact ih absent.2

theorem open_after_literal {quote : Char} {inner : Text} (mark : isQuoteMark quote = true)
    (absent : quote ∉ inner) : openAfter none (quote :: inner ++ [quote]) = none := by
  rw [List.cons_append, open_after_cons, quoteAfter, if_pos mark, open_after_append,
    open_after_inside absent]
  simp [quoteAfter]

theorem contains_iff {span : Span} {position : Nat} :
    span.contains position = true ↔ span.start ≤ position ∧ position < span.stop := by
  rw [Span.contains, Bool.and_eq_true, decide_eq_true_eq, decide_eq_true_eq]

theorem literal_spans_start (position : Nat) (opened : Option (Char × Nat)) (t : Text) :
    ∀ span ∈ literalSpansFrom position opened t,
      position ≤ span.start ∨ ∃ quote, opened = some (quote, span.start) := by
  induction t generalizing position opened with
  | nil =>
      cases opened with
      | none => simp [literalSpansFrom]
      | some state =>
          intro span mem
          rw [literalSpansFrom, List.mem_singleton] at mem
          exact .inr ⟨state.1, by rw [mem]⟩
  | cons c t ih =>
      intro span mem
      cases opened with
      | none =>
          rw [literalSpansFrom] at mem
          rcases ih _ _ span mem with later | ⟨quote, here⟩
          · exact .inl (by omega)
          · by_cases mark : isQuoteMark c
            · simp only [mark, if_true, Option.some.injEq, Prod.mk.injEq] at here
              exact .inl (by omega)
            · simp [mark] at here
      | some state =>
          obtain ⟨quote, start⟩ := state
          rw [literalSpansFrom] at mem
          by_cases closes : c = quote
          · rw [if_pos closes] at mem
            rcases List.mem_cons.mp mem with rfl | later
            · exact .inr ⟨quote, rfl⟩
            · rcases ih _ _ span later with after | ⟨_, impossible⟩
              · exact .inl (by omega)
              · cases impossible
          · rw [if_neg closes] at mem
            rcases ih _ _ span mem with later | here
            · exact .inl (by omega)
            · exact .inr here

theorem literal_spans_open (position start : Nat) (quote : Char) (t : Text) :
    ∃ span ∈ literalSpansFrom position (some (quote, start)) t,
      span.start = start ∧ position ≤ span.stop := by
  induction t generalizing position with
  | nil => exact ⟨⟨start, position⟩, by simp [literalSpansFrom], rfl, Nat.le_refl _⟩
  | cons c t ih =>
      rw [literalSpansFrom]
      by_cases closes : c = quote
      · rw [if_pos closes]
        exact ⟨⟨start, position + 1⟩, List.mem_cons_self, rfl, Nat.le_succ _⟩
      · rw [if_neg closes]
        obtain ⟨span, mem, starts, stops⟩ := ih (position + 1)
        exact ⟨span, mem, starts, by omega⟩

def openedAfter (position : Nat) : Option (Char × Nat) → Char → Option (Char × Nat)
  | some (quote, start), c => if c = quote then none else some (quote, start)
  | none, c => if isQuoteMark c then some (c, position) else none

def Opened (position : Nat) (opened : Option (Char × Nat)) : Prop :=
  ∀ state ∈ opened, state.2 ≤ position ∧ isQuoteMark state.1 = true

theorem opened_step {position : Nat} {opened : Option (Char × Nat)} (started : Opened position opened)
    (c : Char) : Opened (position + 1) (openedAfter position opened c) := by
  intro state mem
  cases opened with
  | none =>
      by_cases mark : isQuoteMark c = true
      · rw [openedAfter, if_pos mark, Option.mem_some] at mem
        rw [← mem]
        exact ⟨Nat.le_succ position, mark⟩
      · rw [openedAfter, if_neg mark] at mem
        cases mem
  | some before =>
      by_cases closes : c = before.1
      · rw [openedAfter, if_pos closes] at mem
        cases mem
      · rw [openedAfter, if_neg closes] at mem
        have earlier := started state mem
        exact ⟨Nat.le_succ_of_le earlier.1, earlier.2⟩

theorem opened_quote (position : Nat) (opened : Option (Char × Nat)) (c : Char) :
    (openedAfter position opened c).map Prod.fst = quoteAfter (opened.map Prod.fst) c := by
  cases opened with
  | none => by_cases mark : isQuoteMark c = true <;> simp [openedAfter, quoteAfter, mark]
  | some before => by_cases closes : c = before.1 <;> simp [openedAfter, quoteAfter, closes]

theorem spans_behind {position later : Nat} (opened : Option (Char × Nat)) (c : Char) (t : Text)
    (behind : position < later) :
    (literalSpansFrom position opened (c :: t)).any (·.contains later) =
      (literalSpansFrom (position + 1) (openedAfter position opened c) t).any (·.contains later) := by
  cases opened with
  | none => rw [literalSpansFrom, openedAfter]
  | some before =>
      rw [literalSpansFrom, openedAfter]
      by_cases closes : c = before.1
      · have past : Span.contains ⟨before.2, position + 1⟩ later = false := by
          simp only [Span.contains, Bool.and_eq_false_iff, decide_eq_false_iff_not]
          omega
        rw [if_pos closes, if_pos closes, List.any_cons, past, Bool.false_or]
      · rw [if_neg closes, if_neg closes]

theorem spans_here {position : Nat} {opened : Option (Char × Nat)} {c : Char} (t : Text)
    (plain : isQuoteMark c = false) (started : Opened position opened) :
    (literalSpansFrom position opened (c :: t)).any (·.contains position) = opened.isSome := by
  cases opened with
  | none =>
      rw [literalSpansFrom, plain, Option.isSome_none, List.any_eq_false]
      intro span mem
      rcases literal_spans_start _ _ _ span mem with later | ⟨_, impossible⟩
      · rw [contains_iff]
        omega
      · cases impossible
  | some before =>
      obtain ⟨earlier, mark⟩ := started before rfl
      have different : c ≠ before.1 := by
        rintro rfl
        rw [plain] at mark
        cases mark
      rw [literalSpansFrom, if_neg different, Option.isSome_some, List.any_eq_true]
      obtain ⟨span, mem, starts, stops⟩ := literal_spans_open (position + 1) before.2 before.1 t
      exact ⟨span, mem, contains_iff.mpr (by omega)⟩

theorem literal_spans_contain {position : Nat} {opened : Option (Char × Nat)} (t : Text) (i : Nat)
    (bound : i < t.length) (plain : isQuoteMark t[i] = false) (started : Opened position opened) :
    (literalSpansFrom position opened t).any (·.contains (position + i)) =
      (openAfter (opened.map Prod.fst) (t.take i)).isSome := by
  induction t generalizing position opened i with
  | nil => cases bound
  | cons c t ih =>
      cases i with
      | zero =>
          rw [Nat.add_zero, List.take_zero, open_after_nil, Option.isSome_map]
          exact spans_here t plain started
      | succ i =>
          rw [List.take_succ_cons, open_after_cons, ← opened_quote position, spans_behind opened c t (by omega),
            ← ih i (Nat.lt_of_succ_lt_succ bound) plain (opened_step started c),
            Nat.add_assoc position 1 i, Nat.add_comm 1 i]

end SurveyLogic
