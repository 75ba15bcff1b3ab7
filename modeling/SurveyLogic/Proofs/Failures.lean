import SurveyLogic.Engine
import SurveyLogic.Proofs.CheckedReading
import SurveyLogic.Proofs.RoundTrip

set_option autoImplicit false

namespace SurveyLogic

open Text

inductive Refusal : LogicError → Prop
  | unrecognized (clause : Text) : Refusal (.unrecognizedClause clause)
  | mixed (first second : Text) (join other : Join) (firstSpells : first.lower = join.keyword)
      (secondSpells : second.lower = other.keyword) (differ : join ≠ other) :
      Refusal (.mixedJoins first second)
  | empty : Refusal .emptyExpression

theorem spelled_apart {t : Text} {first second : JoinMatch} {others : List JoinMatch}
    (joined : topLevelJoins t = first :: others)
    (differs : others.find? (fun other => !Reader.sameKeyword other.keyword first.keyword) = some second) :
    Refusal (.mixedJoins first.keyword second.keyword) := by
  have firstMem : first.keyword ∈ spelledJoins t := by simp [spelledJoins, joined]
  have secondMem : second.keyword ∈ spelledJoins t := by
    rw [spelledJoins, joined]
    exact List.mem_map_of_mem (List.mem_cons_of_mem first (List.mem_of_find?_eq_some differs))
  obtain ⟨join, firstSpells⟩ := spelled_join firstMem
  obtain ⟨other, secondSpells⟩ := spelled_join secondMem
  refine .mixed _ _ join other firstSpells secondSpells ?_
  rintro rfl
  have same : Reader.sameKeyword second.keyword first.keyword = true :=
    same_keyword_iff.mpr (secondSpells.trans firstSpells.symm)
  simpa [same] using List.find?_some differs

theorem expression_refused {style : ReferenceStyle} {text : Text} {error : LogicError}
    (refused : (Reader.ofStyle style).expression text = .error error) : Refusal error := by
  rw [Reader.expression] at refused
  by_cases empty : text.trim.isEmpty = true
  · rw [if_pos empty] at refused
    cases refused
    exact .empty
  · rw [if_neg empty] at refused
    have outcome := trimmed_outcome style text.trim
    rw [refused] at outcome
    cases outcome with
    | mixed first second others joined differs => exact spelled_apart joined differs
    | refused clause _ _ _ _ => exact .unrecognized _

theorem expression_empty_iff {style : ReferenceStyle} {text : Text} :
    (Reader.ofStyle style).expression text = .error .emptyExpression ↔ text.allBlank := by
  rw [← trim_eq_nil, ← compile_empty_iff, compile_of_style]
  cases (Reader.ofStyle style).expression text <;> simp [Except.mapError]

theorem verified_compiles {c : Compiler} {text : Text}
    (again : ∀ e, c.compile text = .ok e → c.compile (c.toText e) = .ok e) :
    c.verifyRoundTrip text = c.compile text := by
  rw [Compiler.verifyRoundTrip]
  cases read : c.compile text with
  | error error => rfl
  | ok e =>
      simp only [bind, Except.bind, again e read, if_true]
      rfl

theorem verified_style (style : ReferenceStyle) (text : Text) :
    (Compiler.ofStyle style).verifyRoundTrip text = (Compiler.ofStyle style).compile text :=
  verified_compiles fun _ read => read_again read

theorem compile_with_style (settings : Settings) (style : ReferenceStyle) (text : Text) :
    (Engine.ofSettings settings).compileWith (.ofStyle style) text =
      ((Reader.ofStyle style).expression text).mapError .logic := by
  rw [Engine.compileWith]
  simp only [verified_style, ite_self]
  rw [compile_of_style]
  cases (Reader.ofStyle style).expression text <;> rfl

def Column.style (column : Column) (question : Text) : ReferenceStyle :=
  match column with
  | .relevant => .bare
  | .constraint => .contextual question

theorem compile_column (settings : Settings) (text : Text) (column : Column) (question : Text) :
    (Engine.ofSettings settings).compileColumn text column question =
      ((Reader.ofStyle (column.style question)).expression text).mapError .logic := by
  cases column with
  | relevant => exact compile_with_style settings .bare text
  | constraint => exact compile_with_style settings (.contextual question) text

namespace Compiler

def compileChecked (c : Compiler) (text : Text) : Checked CompileError Expression :=
  (c.reader.expressionChecked text).adapt .logic

def verifyChecked (c : Compiler) (text : Text) : Checked CompileError Expression := do
  let e ← c.compileChecked text
  let again ← c.compileChecked (c.toText e)
  if again = e then return e else throw (.roundTripMismatch text (c.toText e))

end Compiler

def Engine.compileWithChecked (engine : Engine) (compiler : Compiler) (text : Text) :
    Checked EngineError Expression :=
  let result :=
    if engine.settings.strictRoundTrip then compiler.verifyChecked text
    else compiler.compileChecked text
  result.adapt .ofCompile

theorem compile_checked (style : ReferenceStyle) (text : Text) :
    (Compiler.ofStyle style).compileChecked text = answered ((Compiler.ofStyle style).compile text) := by
  rw [Compiler.compileChecked, show (Compiler.ofStyle style).reader = .ofStyle style from rfl,
    expression_checked, compile_of_style]
  cases (Reader.ofStyle style).expression text <;> rfl

theorem verify_checked (style : ReferenceStyle) (text : Text) :
    (Compiler.ofStyle style).verifyChecked text = answered ((Compiler.ofStyle style).verifyRoundTrip text) := by
  rw [Compiler.verifyChecked, Compiler.verifyRoundTrip, compile_checked]
  apply answered_bind
  intro e
  rw [compile_checked]
  apply answered_bind
  intro again
  split <;> rfl

theorem compile_with_checked (engine : Engine) (style : ReferenceStyle) (text : Text) :
    engine.compileWithChecked (.ofStyle style) text = answered (engine.compileWith (.ofStyle style) text) := by
  rw [Engine.compileWithChecked, Engine.compileWith]
  simp only [compile_checked, verify_checked]
  by_cases strict : engine.settings.strictRoundTrip = true
  · simp only [if_pos strict]
    cases (Compiler.ofStyle style).verifyRoundTrip text <;> rfl
  · simp only [if_neg strict]
    cases (Compiler.ofStyle style).compile text <;> rfl

structure Settled {α : Type} (text : Text) (answer : Except EngineError α) : Prop where
  refused : ∀ error, answer = .error error → ∃ refusal, Refusal refusal ∧ error = .logic refusal
  empty : answer = .error (.logic .emptyExpression) ↔ text.allBlank

theorem settled_reading (style : ReferenceStyle) (text : Text) :
    Settled text (((Reader.ofStyle style).expression text).mapError EngineError.logic) := by
  have empty : (Reader.ofStyle style).expression text = .error .emptyExpression ↔ text.allBlank :=
    expression_empty_iff
  cases read : (Reader.ofStyle style).expression text with
  | error error =>
      rw [read] at empty
      refine ⟨?_, by simpa [Except.mapError] using empty⟩
      intro failed same
      cases same
      exact ⟨error, expression_refused read, rfl⟩
  | ok e =>
      rw [read] at empty
      exact ⟨nofun, by simpa [Except.mapError] using empty⟩

theorem settled_map {α β : Type} {text : Text} {answer : Except EngineError α} (f : α → β)
    (settled : Settled text answer) : Settled text (f <$> answer) := by
  obtain ⟨refused, empty⟩ := settled
  cases answer with
  | error error => exact ⟨by simpa using refused, by simpa using empty⟩
  | ok a => exact ⟨nofun, by simpa using empty⟩

structure Engine.Settles (engine : Engine) (text question : Text) (column : Column) : Prop where
  compile : Settled text (engine.compile text)
  relevant : Settled text (engine.compileRelevant text)
  constraint : Settled text (engine.compileConstraint text question)
  column : Settled text (engine.compileColumn text column question)
  normalize : Settled text (engine.normalize text)
  relevantSlices : engine.compileWithChecked engine.relevant text = answered (engine.compileRelevant text)
  constraintSlices : engine.compileWithChecked (engine.constraint.boundTo question) text =
    answered (engine.compileConstraint text question)
  normalizeSlices : engine.relevant.compileChecked text = answered (engine.relevant.compile text)

theorem settled_normalize (settings : Settings) (text : Text) :
    Settled text ((Engine.ofSettings settings).normalize text) := by
  have normalized : (Engine.ofSettings settings).normalize text =
      Compiler.relevant.toText <$> ((Reader.ofStyle .bare).expression text).mapError .logic := by
    rw [Engine.normalize, Compiler.normalize,
      show (Engine.ofSettings settings).relevant = .ofStyle .bare from rfl, compile_of_style]
    cases (Reader.ofStyle .bare).expression text <;> rfl
  rw [normalized]
  exact settled_map _ (settled_reading .bare text)

theorem refused_by_readers_alone (settings : Settings) (text question : Text) (column : Column) :
    (Engine.ofSettings settings).Settles text question column := by
  have compiled : ∀ column, Settled text ((Engine.ofSettings settings).compileColumn text column question) := by
    intro column
    rw [compile_column]
    exact settled_reading (column.style question) text
  exact ⟨compiled .relevant, compiled .relevant, compiled .constraint, compiled column,
    settled_normalize settings text, compile_with_checked _ .bare text,
    compile_with_checked _ (.contextual question) text, compile_checked .bare text⟩

end SurveyLogic
