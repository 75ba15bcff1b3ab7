import SurveyLogic.Compiler

set_option autoImplicit false

namespace SurveyLogic

namespace ReferenceStyle

def boundTo (style : ReferenceStyle) (question : Text) : ReferenceStyle :=
  match style with
  | bare => bare
  | contextual _ => contextual question

def afterAll (style : ReferenceStyle) (questions : List Text) : ReferenceStyle :=
  match questions.getLast? with
  | none => style
  | some last => style.boundTo last

theorem bound_twice (style : ReferenceStyle) (first second : Text) :
    (style.boundTo first).boundTo second = style.boundTo second := by
  cases style <;> rfl

theorem after_cons (style : ReferenceStyle) (question : Text) (questions : List Text) :
    style.afterAll (question :: questions) = (style.boundTo question).afterAll questions := by
  rw [afterAll, afterAll, List.getLast?_cons]
  cases questions.getLast? with
  | none => rfl
  | some last => exact (bound_twice style question last).symm

theorem bound_grammar (style : ReferenceStyle) (question : Text) :
    (style.boundTo question).grammar = style.grammar := by
  cases style <;> rfl

theorem after_grammar (style : ReferenceStyle) (questions : List Text) :
    (style.afterAll questions).grammar = style.grammar := by
  rw [afterAll]
  cases questions.getLast? with
  | none => rfl
  | some last => exact bound_grammar style last

end ReferenceStyle

namespace Compiler

def boundToEach (c : Compiler) (questions : List Text) : Compiler := questions.foldl boundTo c

structure Coherent (c : Compiler) : Prop where
  grammar : c.reader.grammar = c.reader.style.grammar
  writer : c.writer.style = c.reader.style

structure Alike (c d : Compiler) : Prop where
  compile : ∀ text, c.compile text = d.compile text
  normalize : ∀ text, c.normalize text = d.normalize text
  verified : ∀ text, c.verifyRoundTrip text = d.verifyRoundTrip text
  written : ∀ e, c.toText e = d.toText e
  style : c.style = d.style

end Compiler

section

variable {c : Compiler}

theorem built_coherent (style : ReferenceStyle) : (Compiler.ofStyle style).Coherent := ⟨rfl, rfl⟩

theorem coherent_built (coherent : c.Coherent) : c = .ofStyle c.style := by
  obtain ⟨⟨grammar, style⟩, ⟨written⟩⟩ := c
  obtain ⟨(rfl : grammar = style.grammar), (rfl : written = style)⟩ := coherent
  rfl

theorem built_bound (style : ReferenceStyle) (question : Text) :
    (Compiler.ofStyle style).boundTo question = .ofStyle (style.boundTo question) := by
  cases style <;> rfl

theorem bound_coherent (coherent : c.Coherent) (question : Text) :
    (c.boundTo question).Coherent ∧ (c.boundTo question).style = c.style.boundTo question := by
  rw [coherent_built coherent, built_bound]
  exact ⟨built_coherent _, rfl⟩

theorem each_bound_coherent (coherent : c.Coherent) (questions : List Text) :
    (c.boundToEach questions).Coherent ∧ (c.boundToEach questions).style = c.style.afterAll questions := by
  induction questions generalizing c with
  | nil => exact ⟨coherent, rfl⟩
  | cons question questions ih =>
      obtain ⟨bound, style⟩ := bound_coherent coherent question
      rw [ReferenceStyle.after_cons, ← style]
      exact ih bound

end

theorem rebinding_rebuilds (style : ReferenceStyle) (questions : List Text) :
    ((Compiler.ofStyle style).boundToEach questions).Coherent ∧
      ((Compiler.ofStyle style).boundToEach questions).reader.grammar = style.grammar ∧
      ((Compiler.ofStyle style).boundToEach questions).Alike (.ofStyle (style.afterAll questions)) := by
  obtain ⟨coherent, left⟩ := each_bound_coherent (built_coherent style) questions
  have rebuilt : (Compiler.ofStyle style).boundToEach questions = .ofStyle (style.afterAll questions) := by
    have built := coherent_built coherent
    rwa [left] at built
  refine ⟨coherent, ?_, ?_⟩
  · rw [rebuilt]
    exact ReferenceStyle.after_grammar style questions
  · rw [rebuilt]
    exact ⟨fun _ => rfl, fun _ => rfl, fun _ => rfl, fun _ => rfl, rfl⟩

end SurveyLogic
