import SurveyLogic.Proofs.Carrying

set_option autoImplicit false

namespace SurveyLogic

open Text

def ReferenceStyle.Within (narrow wide : ReferenceStyle) : Prop :=
  ∀ raw name, narrow.Names raw name → wide.Names raw name

theorem bare_within (style : ReferenceStyle) : ReferenceStyle.bare.Within style := by
  intro raw name names
  cases names with
  | braced _ word => exact .braced name word
  | dot _ bound _ => cases bound

theorem unnamed_within_bare : (ReferenceStyle.contextual []).Within .bare := by
  intro raw name names
  cases names with
  | braced _ word => exact .braced name word
  | dot _ bound named =>
      cases bound
      exact absurd rfl named

section

variable {narrow wide : ReferenceStyle}

theorem within_carries (within : narrow.Within wide) :
    narrow.Carries (fun _ name other => other = name) wide :=
  fun raw name names => ⟨name, within raw name names, rfl⟩

theorem form_within (within : narrow.Within wide) {t : Text} {c : Criterion}
    (form : ClauseForm narrow t c) : ClauseForm wide t c := by
  obtain ⟨d, wideForm, carried⟩ := form_carried (within_carries within) form
  obtain ⟨_, -, sameName⟩ := carried.named
  have same : d = c := by
    obtain ⟨name, op, value⟩ := c
    obtain ⟨otherName, otherOp, otherValue⟩ := d
    cases sameName
    cases carried.operator
    cases carried.value
    rfl
  exact same ▸ wideForm

theorem expression_within (within : narrow.Within wide) {t : Text} {e : Expression}
    (form : ExpressionForm narrow t e) : ExpressionForm wide t e := by
  obtain ⟨criteria, join, agree, read⟩ := form
  exact .mk criteria join agree (read.imp fun _ _ => form_within within)

theorem compile_within (within : narrow.Within wide) {text : Text} {e : Expression}
    (read : (Compiler.ofStyle narrow).compile text = .ok e) :
    (Compiler.ofStyle wide).compile text = .ok e :=
  compile_iff.mpr (expression_within within (compile_iff.mp read))

theorem clause_same (forth : narrow.Within wide) (back : wide.Within narrow) :
    (Reader.ofStyle narrow).clause = (Reader.ofStyle wide).clause := by
  funext text
  rcases clause_answers narrow text with refused | ⟨c, read, form⟩
  · rcases clause_answers wide text with refusedToo | ⟨c, -, form⟩
    · rw [refused, refusedToo]
    · rw [form_is_read (form_within back form)] at refused
      cases refused
  · rw [read, form_is_read (form_within forth form)]

theorem compile_same (forth : narrow.Within wide) (back : wide.Within narrow) (text : Text) :
    (Compiler.ofStyle narrow).compile text = (Compiler.ofStyle wide).compile text := by
  rw [compile_of_style, compile_of_style, Reader.expression, Reader.expression, Reader.trimmedExpression,
    Reader.trimmedExpression, clause_same forth back]

end

theorem contextual_extends_bare (text : Text) :
    (Compiler.ofStyle (.contextual [])).compile text = (Compiler.ofStyle .bare).compile text ∧
    ∀ current : Text,
      (∀ e, (Compiler.ofStyle .bare).compile text = .ok e →
        (Compiler.ofStyle (.contextual current)).compile text = .ok e) ∧
      ((Compiler.ofStyle (.contextual current)).compile text = .error (.logic .emptyExpression) ↔
        (Compiler.ofStyle .bare).compile text = .error (.logic .emptyExpression)) ∧
      ∀ one other,
        (Compiler.ofStyle (.contextual current)).compile text = .error (.logic (.mixedJoins one other)) ↔
          (Compiler.ofStyle .bare).compile text = .error (.logic (.mixedJoins one other)) := by
  refine ⟨compile_same unnamed_within_bare (bare_within _) text, fun current => ⟨?_, ?_, ?_⟩⟩
  · intro e read
    exact compile_within (bare_within _) read
  · rw [compile_empty_iff, compile_empty_iff]
  · intro one other
    rw [compile_mixed_iff, compile_mixed_iff]

theorem pets_read_in_context :
    (Compiler.ofStyle (.contextual "it's me".toList)).compile
        "not(selected(${pets}, 'cat and .')) OR ${age} < 5".toList =
      .ok ⟨[.withValue "pets".toList .notSelected "cat and .".toList,
        .withValue "age".toList .less "5".toList], some .or⟩ :=
  ((contextual_extends_bare "not(selected(${pets}, 'cat and .')) OR ${age} < 5".toList).2
    "it's me".toList).1 _ rfl

end SurveyLogic
