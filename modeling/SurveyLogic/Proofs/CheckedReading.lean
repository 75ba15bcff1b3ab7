import SurveyLogic.Proofs.ByteScans
import SurveyLogic.Proofs.ExpressionReading

/- Reading over byte offsets, where every slice is checked. No slice fails, so the checked reading gives what
   reading gives. -/

set_option autoImplicit false

namespace SurveyLogic

open Text

-- The outer `none` is a slice that failed.
abbrev Checked (ε : Type) := ExceptT ε Option

def answered {ε α : Type} (answer : Except ε α) : Checked ε α := ExceptT.mk (some answer)

def sliced {ε : Type} (slice : Option Text) : Checked ε Text := ExceptT.lift slice

namespace Literal

def isWrappedIn (quote : Char) (t : Text) : Bool :=
  2 ≤ t.utf8Length && t.head? = some quote && t.getLast? = some quote

def unquoteChecked (t : Text) : Checked LogicError Text :=
  if isWrappedIn '\'' t || isWrappedIn '"' t then sliced (t.sliceBytes? 1 (t.utf8Length - 1))
  else return t

def valueChecked (raw : Text) : Checked LogicError Text :=
  let raw := raw.trim
  match (Text.after? dateOpen raw).bind (Text.before? [')']) with
  | some inner => unquoteChecked inner.trim
  | none => unquoteChecked raw

end Literal

namespace Reader

def comparisonChecked (r : Reader) (clause : Text) : Checked LogicError (Option Criterion) :=
  match r.grammar.comparison? clause with
  | none => return none
  | some found =>
    match r.style.resolve? found.reference with
    | none => return none
    | some name => do
      let operator ← answered (lookUp (Operator.ofToken found.symbol))
      let value ← Literal.valueChecked found.operand
      return some (.withValue name operator value)

def selectionChecked (r : Reader) (clause : Text) : Checked LogicError (Option Criterion) :=
  match r.grammar.callFrom? 0 clause with
  | none => return none
  | some (call, reference, choice) =>
    match r.style.resolve? reference with
    | none => return none
    | some name => do
      let before ← sliced (clause.sliceBytes? 0 call.start)
      let after ← sliced (clause.sliceBytes? call.stop clause.utf8Length)
      match selectionOperator? ⟨before, reference, choice, after⟩ with
      | none => return none
      | some operator =>
        let value ← Literal.valueChecked choice
        return some (.withValue name operator value)

def clauseChecked (r : Reader) (text : Text) : Checked LogicError Criterion :=
  if text.trim.isEmpty then throw (.unrecognizedClause text)
  else do
    match ← answered (r.existence? text.trim) with
    | some c => return c
    | none =>
      match ← r.comparisonChecked text.trim with
      | some c => return c
      | none =>
        match ← r.selectionChecked text.trim with
        | some c => return c
        | none => throw (.unrecognizedClause text.trim)

def criteriaChecked (r : Reader) (text : Text) (start : Nat) :
    List JoinMatch → Checked LogicError (List Criterion)
  | [] => do
    let clause ← sliced (text.sliceBytes? start text.utf8Length)
    let c ← r.clauseChecked clause
    return [c]
  | join :: rest => do
    let clause ← sliced (text.sliceBytes? start join.start)
    let c ← r.clauseChecked clause
    let others ← r.criteriaChecked text join.stop rest
    return c :: others

def trimmedChecked (r : Reader) (text : Text) : Checked LogicError Expression :=
  match topLevelJoinBytes text with
  | [] => Expression.single <$> r.clauseChecked text
  | first :: others =>
    match others.find? (fun join => !sameKeyword join.keyword first.keyword) with
    | some second => throw (.mixedJoins first.keyword second.keyword)
    | none => do
      let operator ← answered (lookUp (Join.ofText first.keyword))
      let criteria ← r.criteriaChecked text 0 (first :: others)
      return .joined criteria operator

def expressionChecked (r : Reader) (text : Text) : Checked LogicError Expression :=
  if text.trim.isEmpty then throw .emptyExpression else r.trimmedChecked text.trim

end Reader

section

variable {ε α β : Type}

theorem answered_bind (answer : Except ε α) (f : α → Checked ε β) (g : α → Except ε β)
    (same : ∀ a, f a = answered (g a)) : (answered answer >>= f) = answered (answer >>= g) := by
  cases answer with
  | error error => rfl
  | ok a => exact same a

theorem sliced_bind (slice : Text) (f : Text → Checked ε α) : (sliced (some slice) >>= f) = f slice := rfl

end

namespace Literal

theorem unquote_with_iff {quote : Char} {t inner : Text} :
    unquoteWith quote t = some inner ↔ t = quote :: inner ++ [quote] := by
  simp only [unquoteWith, Option.bind_eq_some_iff, after_eq_some, before_eq_some]
  constructor
  · rintro ⟨_, rfl, rfl⟩
    rfl
  · rintro rfl
    exact ⟨_, rfl, rfl⟩

theorem wrapped_iff {quote : Char} (mark : isQuoteMark quote = true) {t : Text} :
    isWrappedIn quote t = true ↔ ∃ inner, unquoteWith quote t = some inner := by
  simp only [unquote_with_iff, isWrappedIn, Bool.and_eq_true, decide_eq_true_eq]
  have width := quote_mark_width mark
  constructor
  · intro wrapped
    obtain ⟨⟨wide, first⟩, last⟩ := wrapped
    obtain ⟨rest, rfl⟩ := List.head?_eq_some_iff.mp first
    rcases List.eq_nil_or_concat rest with rfl | ⟨inner, c, rfl⟩
    · simp only [utf8_length_cons, utf8_length_nil] at wide
      omega
    · rw [List.concat_eq_append, ← List.cons_append, List.getLast?_concat, Option.some.injEq] at last
      exact ⟨inner, by rw [last, List.concat_eq_append, List.cons_append]⟩
  · rintro ⟨inner, rfl⟩
    rw [List.getLast?_concat, utf8_length_append, utf8_length_cons]
    refine ⟨⟨?_, rfl⟩, rfl⟩
    simp only [utf8_length_cons, utf8_length_nil]
    omega

theorem slice_inside {quote : Char} (mark : isQuoteMark quote = true) {t inner : Text}
    (unquoted : unquoteWith quote t = some inner) : t.sliceBytes? 1 (t.utf8Length - 1) = some inner := by
  rw [unquote_with_iff.mp unquoted]
  have width := quote_mark_width mark
  refine slice_bytes_iff.mpr ⟨[quote], [quote], rfl, ?_, ?_⟩
  · simp [width]
  · simp [width, Nat.add_comm]

theorem unquote_checked (t : Text) : unquoteChecked t = answered (.ok (unquote t)) := by
  have marks : isQuoteMark '\'' = true ∧ isQuoteMark '"' = true := ⟨rfl, rfl⟩
  rw [unquoteChecked, unquote]
  cases single : unquoteWith '\'' t with
  | some inner =>
      have wrapped := (wrapped_iff marks.1).mpr ⟨inner, single⟩
      rw [wrapped, slice_inside marks.1 single]
      rfl
  | none =>
      have bare : ¬ isWrappedIn '\'' t = true := by simp [wrapped_iff marks.1, single]
      cases double : unquoteWith '"' t with
      | some inner =>
          have wrapped := (wrapped_iff marks.2).mpr ⟨inner, double⟩
          rw [wrapped, Bool.or_true, slice_inside marks.2 double]
          rfl
      | none =>
          have unwrapped : ¬ isWrappedIn '"' t = true := by simp [wrapped_iff marks.2, double]
          rw [Bool.not_eq_true] at bare unwrapped
          rw [bare, unwrapped]
          rfl

theorem value_checked (raw : Text) : valueChecked raw = answered (.ok (value raw)) := by
  rw [valueChecked, value]
  cases (after? dateOpen raw.trim).bind (before? [')']) with
  | some inner => exact unquote_checked inner.trim
  | none => exact unquote_checked raw.trim

end Literal

section

variable {style : ReferenceStyle}

theorem comparison_checked (clause : Text) :
    (Reader.ofStyle style).comparisonChecked clause = answered ((Reader.ofStyle style).comparison? clause) := by
  rw [Reader.comparisonChecked, Reader.comparison?]
  cases (Reader.ofStyle style).grammar.comparison? clause with
  | none => rfl
  | some found =>
      simp only
      cases (Reader.ofStyle style).style.resolve? found.reference with
      | none => rfl
      | some name =>
          apply answered_bind
          intro operator
          rw [Literal.value_checked]
          rfl

theorem selection_checked (clause : Text) :
    (Reader.ofStyle style).selectionChecked clause =
      answered (.ok ((Reader.ofStyle style).selection? clause)) := by
  have parts : clause = [] ++ clause := rfl
  have scanned : style.grammar.callFrom? 0 clause = _ := call_from parts
  rw [Reader.selectionChecked, Reader.selection?, of_style_grammar, scanned]
  cases matched : style.grammar.selection? clause with
  | none => rfl
  | some found =>
      obtain ⟨before, after⟩ := call_slices matched
      simp only [Option.map_some, Option.bind_eq_bind, Option.bind_some, List.nil_append, before, after,
        sliced_bind]
      cases (Reader.ofStyle style).style.resolve? found.reference with
      | none => rfl
      | some name =>
          have same : Reader.selectionOperator? ⟨found.before, found.reference, found.choice, found.after⟩ =
            Reader.selectionOperator? found := rfl
          simp only [same, Option.bind_some]
          cases Reader.selectionOperator? found with
          | none => rfl
          | some operator =>
              simp only [Literal.value_checked]
              rfl

theorem clause_checked (text : Text) :
    (Reader.ofStyle style).clauseChecked text = answered ((Reader.ofStyle style).clause text) := by
  rw [Reader.clauseChecked, Reader.clause]
  by_cases empty : text.trim.isEmpty = true
  · rw [if_pos empty, if_pos empty]
    rfl
  · rw [if_neg empty, if_neg empty, comparison_checked, selection_checked]
    rcases (Reader.ofStyle style).existence? text.trim with error | _ | check
    · rfl
    · rcases (Reader.ofStyle style).comparison? text.trim with error | _ | compared
      · rfl
      · cases (Reader.ofStyle style).selection? text.trim <;> rfl
      · rfl
    · rfl

theorem criteria_checked {text : Text} {start : Nat} {found : List JoinMatch}
    (chained : Chained text start found) :
    (Reader.ofStyle style).criteriaChecked text (text.offset start) (found.map (JoinMatch.inBytes text)) =
      answered ((clausesFrom text start found).mapM (Reader.ofStyle style).clause) := by
  induction found generalizing start with
  | nil =>
      rw [List.map_nil, Reader.criteriaChecked, slice_behind, sliced_bind, clause_checked, clausesFrom,
        List.mapM_cons]
      exact answered_bind _ _ _ fun _ => rfl
  | cons join rest ih =>
      obtain ⟨behind, -, others⟩ := chained
      have slice : text.sliceBytes? (text.offset start) (join.inBytes text).start = _ := slice_between text behind
      rw [List.map_cons, Reader.criteriaChecked, slice, sliced_bind, clause_checked, clausesFrom, List.mapM_cons]
      apply answered_bind
      intro c
      have later : (Reader.ofStyle style).criteriaChecked text (join.inBytes text).stop _ = _ := ih others
      rw [later]
      exact answered_bind _ _ _ fun _ => rfl

theorem trimmed_checked (text : Text) :
    (Reader.ofStyle style).trimmedChecked text = answered ((Reader.ofStyle style).trimmedExpression text) := by
  have chained := top_level_chained text
  rw [Reader.trimmedChecked, Reader.trimmedExpression, top_level_join_bytes]
  cases joined : topLevelJoins text with
  | nil =>
      simp only [List.map_nil, clause_checked]
      cases (Reader.ofStyle style).clause text <;> rfl
  | cons first others =>
      rw [joined] at chained
      have criteria : (Reader.ofStyle style).criteriaChecked text 0 _ = _ := criteria_checked chained
      have differing : (others.map (JoinMatch.inBytes text)).find?
          (fun other => !Reader.sameKeyword other.keyword (first.inBytes text).keyword) =
          (others.find? fun other => !Reader.sameKeyword other.keyword first.keyword).map
            (JoinMatch.inBytes text) := List.find?_map ..
      simp only [List.map_cons] at criteria ⊢
      rw [differing]
      cases others.find? fun other => !Reader.sameKeyword other.keyword first.keyword with
      | some second => rfl
      | none =>
          apply answered_bind
          intro operator
          rw [criteria]
          exact answered_bind _ _ _ fun _ => rfl

end

theorem expression_checked (style : ReferenceStyle) (text : Text) :
    (Reader.ofStyle style).expressionChecked text = answered ((Reader.ofStyle style).expression text) := by
  rw [Reader.expressionChecked, Reader.expression, trimmed_checked]
  split <;> rfl

end SurveyLogic
