import SurveyLogic.Proofs.Failures

set_option autoImplicit false

namespace SurveyLogic

open Text

theorem unmarked {t : Text} (plain : QuoteFree t) : t.count '\'' = 0 := by
  rw [List.count_eq_zero]
  intro mem
  cases plain _ mem

theorem marked_apart {first second other another between : Text} (plain : QuoteFree first)
    (secondPlain : QuoteFree second) (betweenPlain : QuoteFree between)
    (same : first ++ '\'' :: (between ++ '\'' :: second) = other ++ '\'' :: (between ++ '\'' :: another)) :
    first = other ∧ second = another := by
  have counted := congrArg (List.count '\'') same
  simp only [List.count_append, List.count_cons_self, unmarked plain, unmarked secondPlain,
    unmarked betweenPlain] at counted
  have isMark : decide ('\'' = '\'') = true := rfl
  have free : ∀ t : Text, t.count '\'' = 0 → ∀ c ∈ t, decide (c = '\'') = false := by
    intro t none c mem
    rw [decide_eq_false_iff_not]
    rintro rfl
    exact List.count_eq_zero.mp none mem
  obtain ⟨firstSame, -, rest⟩ := first_mark_unique (p := (· = '\'')) (free first (unmarked plain))
    (free other (by omega)) isMark isMark same
  rw [List.append_cancel_left_eq, List.cons.injEq] at rest
  exact ⟨firstSame, rest.2⟩

theorem unrecognized_message (clause : Text) : (LogicError.unrecognizedClause clause).message =
    "criterion not recognized: '".toList ++ clause ++ "'".toList := rfl

theorem mixed_message (first second : Text) : (LogicError.mixedJoins first second).message =
    "mixed join operators not supported: '".toList ++ first ++ "' and '".toList ++ second ++ "'".toList := rfl

theorem undefined_message (field question : Text) : (CompileError.undefinedField field question).message =
    "Undefined field '".toList ++ field ++ "' referenced by '".toList ++ question ++ "'".toList := rfl

theorem mixed_tells {first second other another : Text} (plain : QuoteFree first)
    (secondPlain : QuoteFree second)
    (same : (LogicError.mixedJoins first second).message = (LogicError.mixedJoins other another).message) :
    first = other ∧ second = another := by
  have marks : "' and '".toList = '\'' :: (" and ".toList ++ ['\'']) := rfl
  have betweenPlain : QuoteFree " and ".toList := by decide
  rw [mixed_message, mixed_message, marks] at same
  generalize " and ".toList = between at same betweenPlain
  generalize "mixed join operators not supported: '".toList = lead at same
  generalize "'".toList = tail at same
  rw [List.append_cancel_right_eq] at same
  simp only [List.append_assoc, List.append_cancel_left_eq] at same
  exact marked_apart plain secondPlain betweenPlain (by simpa using same)

theorem unrecognized_tells {clause other : Text}
    (same : (LogicError.unrecognizedClause clause).message = (LogicError.unrecognizedClause other).message) :
    clause = other := by
  rw [unrecognized_message, unrecognized_message] at same
  exact List.append_cancel_left (List.append_cancel_right same)

theorem undefined_tells {field other question : Text}
    (same : (CompileError.undefinedField field question).message =
      (CompileError.undefinedField other question).message) : field = other := by
  rw [undefined_message, undefined_message] at same
  generalize "' referenced by '".toList = between at same
  generalize "Undefined field '".toList = lead at same
  rw [List.append_cancel_right_eq, List.append_cancel_right_eq, List.append_cancel_right_eq] at same
  exact List.append_cancel_left same

def LogicError.letter : LogicError → Char
  | unrecognizedClause _ => 'c'
  | mixedJoins _ _ => 'm'
  | emptyExpression => 'E'
  | table _ => 'U'

theorem message_letter (error : LogicError) : error.message.head? = some error.letter := by
  cases error with
  | unrecognizedClause _ => rfl
  | mixedJoins _ _ => rfl
  | emptyExpression => rfl
  | table error => cases error <;> rfl

theorem message_tells {refusal error : LogicError} (refused : Refusal refusal)
    (same : refusal.message = error.message) : error = refusal := by
  have letters : refusal.letter = error.letter := by
    rw [← Option.some.injEq, ← message_letter, ← message_letter, same]
  cases refused with
  | unrecognized clause =>
      cases error with
      | unrecognizedClause other => rw [unrecognized_tells same]
      | _ => cases letters
  | mixed first second join other firstSpells secondSpells _ =>
      cases error with
      | mixedJoins one another =>
          obtain ⟨rfl, rfl⟩ := mixed_tells (fun c mem => (keyword_plain firstSpells c mem).2)
            (fun c mem => (keyword_plain secondSpells c mem).2) same
          rfl
      | _ => cases letters
  | empty =>
      cases error with
      | emptyExpression => rfl
      | _ => cases letters

end SurveyLogic
