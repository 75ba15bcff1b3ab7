import Mathlib.Data.List.Forall2
import SurveyLogic.Compiler
import SurveyLogic.Proofs.ClauseReading
import SurveyLogic.Proofs.Occurrences

set_option autoImplicit false

namespace SurveyLogic

open Text

def ReadAs (style : ReferenceStyle) : List Text → List Criterion → Prop :=
  List.Forall₂ fun clause c => ClauseForm style clause.trim c

-- Fewer than two criteria fit either join.
inductive ExpressionForm (style : ReferenceStyle) (t : Text) : Expression → Prop
  | mk (criteria : List Criterion) (join : Join)
      (agree : ∀ keyword ∈ spelledJoins t, keyword.lower = join.keyword)
      (read : ReadAs style (topClauses t) criteria) : ExpressionForm style t (.joined criteria join)

theorem read_all_iff {style : ReferenceStyle} {texts : List Text} {criteria : List Criterion} :
    texts.mapM (Reader.ofStyle style).clause = .ok criteria ↔ ReadAs style texts criteria := by
  induction texts generalizing criteria with
  | nil =>
      constructor
      · intro read
        cases read
        exact .nil
      · intro read
        cases read
        rfl
  | cons t texts ih =>
      rw [List.mapM_cons]
      constructor
      · intro read
        cases first : (Reader.ofStyle style).clause t with
        | error e =>
            rw [first] at read
            cases read
        | ok c =>
            cases others : texts.mapM (Reader.ofStyle style).clause with
            | error e =>
                rw [first, others] at read
                cases read
            | ok rest =>
                rw [first, others] at read
                cases read
                exact .cons (read_has_form first) (ih.mp others)
      · intro read
        cases read with
        | cons first others =>
            rw [form_is_read first, ih.mpr others]
            rfl

theorem join_of_keyword {keyword : Text} {join : Join} (spells : keyword.lower = join.keyword) :
    Join.ofText keyword = .ok join := by
  have ink : Ink keyword := fun c mem => (keyword_plain spells c mem).1
  have solid := ink_solid ink (keyword_inked spells)
  rw [Join.ofText, trim_solid solid]
  simp only [spells]
  cases join <;> rfl

theorem spelled_join {t keyword : Text} (mem : keyword ∈ spelledJoins t) :
    ∃ join : Join, keyword.lower = join.keyword := by
  obtain ⟨found, foundMem, rfl⟩ := List.mem_map.mp mem
  obtain ⟨front, occurs, -⟩ := join_at_of_found foundMem
  generalize found.keyword = keyword at occurs
  obtain ⟨_, _, _, _, _, join, _, spells, _, _⟩ := occurs
  exact ⟨join, spells⟩

theorem same_keyword_iff {a b : Text} : Reader.sameKeyword a b = true ↔ a.lower = b.lower := by
  simp [Reader.sameKeyword]

theorem joins_agree_iff {t : Text} {first : JoinMatch} {others : List JoinMatch} {join : Join}
    (joined : topLevelJoins t = first :: others) :
    (∀ keyword ∈ spelledJoins t, keyword.lower = join.keyword) ↔
      first.keyword.lower = join.keyword ∧
        others.find? (fun other => !Reader.sameKeyword other.keyword first.keyword) = none := by
  rw [spelledJoins, joined, List.map_cons, List.forall_mem_cons, List.forall_mem_map]
  apply and_congr_right
  intro spells
  simp only [List.find?_eq_none, Bool.not_eq_true, Bool.not_eq_false', same_keyword_iff, spells]

theorem expression_form_inked {style : ReferenceStyle} {t : Text} {e : Expression}
    (form : ExpressionForm style t e) : t ≠ [] := by
  rintro rfl
  obtain ⟨criteria, join, agree, read⟩ := form
  cases read with
  | cons first others => exact form_inked first rfl

theorem undivided {t : Text} (joined : topLevelJoins t = []) : topClauses t = [t] := by
  rw [topClauses, joined]
  rfl

theorem bind_ok {ε α β : Type} {x : Except ε α} {f : α → Except ε β} {b : β} (read : (x >>= f) = .ok b) :
    ∃ a, x = .ok a ∧ f a = .ok b := by
  cases x with
  | error error => cases read
  | ok a => exact ⟨a, rfl, read⟩

theorem bind_error {ε α β : Type} {x : Except ε α} {f : α → Except ε β} {error : ε}
    (refused : (x >>= f) = .error error) : x = .error error ∨ ∃ a, x = .ok a ∧ f a = .error error := by
  cases x with
  | error _ =>
      cases refused
      exact .inl rfl
  | ok a => exact .inr ⟨a, rfl, refused⟩

theorem ok_bind {ε α β : Type} (a : α) (f : α → Except ε β) : (.ok a >>= f) = f a := rfl

theorem all_refused {ε α β : Type} {f : α → Except ε β} {a : α} {others : List α} {error : ε} :
    (a :: others).mapM f = .error error ↔
      f a = .error error ∨ ∃ b, f a = .ok b ∧ others.mapM f = .error error := by
  rw [List.mapM_cons]
  cases first : f a with
  | error e => simp [bind, Except.bind]
  | ok b => cases rest : others.mapM f <;> simp [bind, Except.bind, pure, Except.pure]

theorem read_all_refused {style : ReferenceStyle} {texts : List Text} {error : LogicError}
    (refused : texts.mapM (Reader.ofStyle style).clause = .error error) :
    ∃ clause ∈ texts, error = refusal clause := by
  induction texts with
  | nil => cases refused
  | cons t texts ih =>
      rcases all_refused.mp refused with first | ⟨_, _, others⟩
      · rcases clause_answers style t with told | ⟨c, read, -⟩
        · cases told.symm.trans first
          exact ⟨t, List.mem_cons_self, rfl⟩
        · cases read.symm.trans first
      · obtain ⟨clause, mem, same⟩ := ih others
        exact ⟨clause, List.mem_cons_of_mem t mem, same⟩

inductive Outcome (style : ReferenceStyle) (t : Text) : Except LogicError Expression → Prop
  | read (e : Expression) (form : ExpressionForm style t e) : Outcome style t (.ok e)
  | mixed (first second : JoinMatch) (others : List JoinMatch) (joined : topLevelJoins t = first :: others)
      (differs : others.find? (fun other => !Reader.sameKeyword other.keyword first.keyword) = some second) :
      Outcome style t (.error (.mixedJoins first.keyword second.keyword))
  | refused (clause : Text) (join : Join) (mem : clause ∈ topClauses t)
      (agree : ∀ keyword ∈ spelledJoins t, keyword.lower = join.keyword)
      (read : (topClauses t).mapM (Reader.ofStyle style).clause = .error (refusal clause)) :
      Outcome style t (.error (refusal clause))

theorem trimmed_outcome (style : ReferenceStyle) (t : Text) :
    Outcome style t ((Reader.ofStyle style).trimmedExpression t) := by
  rw [Reader.trimmedExpression]
  cases joined : topLevelJoins t with
  | nil =>
      have whole := undivided joined
      have agree : ∀ keyword ∈ spelledJoins t, keyword.lower = Join.and.keyword := by simp [spelledJoins, joined]
      rcases clause_answers style t with refused | ⟨c, answer, form⟩
      · simp only [refused]
        exact .refused t .and (by simp [whole]) agree (by rw [whole, all_refused]; exact .inl refused)
      · simp only [answer]
        refine .read (.single c) (.mk [c] .and agree ?_)
        rw [whole]
        exact .cons form .nil
  | cons first others =>
      simp only
      cases differs : others.find? (fun other => !Reader.sameKeyword other.keyword first.keyword) with
      | some second => exact .mixed first second others joined differs
      | none =>
          have firstMem : first.keyword ∈ spelledJoins t := by simp [spelledJoins, joined]
          obtain ⟨join, spells⟩ := spelled_join firstMem
          have agree := (joins_agree_iff joined).mpr ⟨spells, differs⟩
          have between : clauses t (first :: others) = topClauses t := by rw [topClauses, joined]
          rw [join_of_keyword spells, between]
          cases read : (topClauses t).mapM (Reader.ofStyle style).clause with
          | error error =>
              obtain ⟨clause, mem, rfl⟩ := read_all_refused read
              exact .refused clause join mem agree read
          | ok criteria => exact .read _ (.mk criteria join agree (read_all_iff.mp read))

theorem trimmed_has_form {style : ReferenceStyle} {t : Text} {e : Expression}
    (read : (Reader.ofStyle style).trimmedExpression t = .ok e) : ExpressionForm style t e := by
  have outcome := trimmed_outcome style t
  rw [read] at outcome
  cases outcome with
  | read _ form => exact form

theorem form_is_trimmed {style : ReferenceStyle} {t : Text} {e : Expression}
    (form : ExpressionForm style t e) : (Reader.ofStyle style).trimmedExpression t = .ok e := by
  obtain ⟨criteria, join, agree, read⟩ := form
  rw [Reader.trimmedExpression]
  rw [topClauses] at read
  cases joined : topLevelJoins t with
  | nil =>
      rw [joined] at read
      cases read with
      | cons first others =>
          cases others
          rw [List.drop_zero] at first
          simp only [form_is_read first]
          rfl
  | cons first others =>
      obtain ⟨spells, same⟩ := (joins_agree_iff joined).mp agree
      rw [joined] at read
      simp only [same, join_of_keyword spells, read_all_iff.mpr read]
      rfl

theorem expression_reads_iff {style : ReferenceStyle} {text : Text} {e : Expression} :
    (Reader.ofStyle style).expression text = .ok e ↔ ExpressionForm style text.trim e := by
  rw [Reader.expression]
  by_cases empty : text.trim.isEmpty = true
  · rw [if_pos empty]
    constructor
    · intro read
      cases read
    · intro form
      exact absurd (List.isEmpty_iff.mp empty) (expression_form_inked form)
  · rw [if_neg empty]
    exact ⟨trimmed_has_form, form_is_trimmed⟩

theorem expression_mixed {style : ReferenceStyle} {text : Text} {first second : JoinMatch}
    {others : List JoinMatch} (joined : topLevelJoins text.trim = first :: others)
    (differs : others.find? (fun other => !Reader.sameKeyword other.keyword first.keyword) = some second) :
    (Reader.ofStyle style).expression text = .error (.mixedJoins first.keyword second.keyword) := by
  have inked : ¬ text.trim.isEmpty = true := by
    intro empty
    rw [List.isEmpty_iff.mp empty] at joined
    cases joined
  rw [Reader.expression, if_neg inked, Reader.trimmedExpression, joined]
  simp only [differs]

theorem compile_of_style (style : ReferenceStyle) (text : Text) :
    (Compiler.ofStyle style).compile text = ((Reader.ofStyle style).expression text).mapError .logic := rfl

theorem compile_empty_iff {style : ReferenceStyle} {text : Text} :
    (Compiler.ofStyle style).compile text = .error (.logic .emptyExpression) ↔ text.trim = [] := by
  rw [compile_of_style, Reader.expression]
  by_cases empty : text.trim = []
  · simp [empty, Except.mapError]
  · rw [if_neg (by simpa using empty)]
    have outcome := trimmed_outcome style text.trim
    generalize (Reader.ofStyle style).trimmedExpression text.trim = result at outcome
    cases outcome <;> simp [empty, Except.mapError, refusal]

theorem compile_mixed_iff {style : ReferenceStyle} {text one other : Text} :
    (Compiler.ofStyle style).compile text = .error (.logic (.mixedJoins one other)) ↔
      ∃ first others second, topLevelJoins text.trim = first :: others ∧
        others.find? (fun join => !Reader.sameKeyword join.keyword first.keyword) = some second ∧
        one = first.keyword ∧ other = second.keyword := by
  constructor
  · intro mixed
    rw [compile_of_style, Reader.expression] at mixed
    by_cases empty : text.trim.isEmpty = true
    · rw [if_pos empty] at mixed
      cases mixed
    · rw [if_neg empty] at mixed
      have outcome := trimmed_outcome style text.trim
      generalize (Reader.ofStyle style).trimmedExpression text.trim = result at outcome mixed
      cases outcome with
      | read _ _ => cases mixed
      | mixed first second others joined differs =>
          cases mixed
          exact ⟨first, others, second, joined, differs, rfl, rfl⟩
      | refused _ _ _ _ _ => cases mixed
  · intro found
    obtain ⟨first, others, second, joined, differs, rfl, rfl⟩ := found
    rw [compile_of_style, expression_mixed joined differs]
    rfl

theorem compile_iff {style : ReferenceStyle} {text : Text} {e : Expression} :
    (Compiler.ofStyle style).compile text = .ok e ↔ ExpressionForm style text.trim e := by
  rw [← expression_reads_iff, compile_of_style]
  cases (Reader.ofStyle style).expression text with
  | error error => simp [Except.mapError]
  | ok found => simp [Except.mapError]

end SurveyLogic
