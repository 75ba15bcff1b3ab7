import SurveyLogic.Proofs.Carrying
import SurveyLogic.Proofs.Failures

set_option autoImplicit false

namespace SurveyLogic

open Text

inductive Renames (one other : Text) : Text → Text → Text → Prop
  | braced (name : Text) : Renames one other (ReferenceStyle.braced name) name name
  | dot : Renames one other ['.'] one other

theorem contextual_carries (one : Text) {other : Text} (named : other ≠ []) :
    (ReferenceStyle.contextual one).Carries (Renames one other) (.contextual other) := by
  intro raw name names
  cases names with
  | braced _ word => exact ⟨name, .braced name word, .braced name⟩
  | dot _ bound _ =>
      cases bound
      exact ⟨other, .dot other rfl named, .dot⟩

section

variable {one other text : Text}

theorem renamed_render {raw name otherName : Text} (renamed : Renames one other raw name otherName)
    (inside : raw <:+: text) (absent : ¬ ReferenceStyle.braced one <:+: text)
    (otherAbsent : ¬ ReferenceStyle.braced other <:+: text) :
    (ReferenceStyle.contextual other).render otherName = (ReferenceStyle.contextual one).render name := by
  cases renamed with
  | braced _ =>
      have notOne : name ≠ one := fun same => absent (same ▸ inside)
      have notOther : name ≠ other := fun same => otherAbsent (same ▸ inside)
      rw [ReferenceStyle.render, ReferenceStyle.render, if_neg notOther, if_neg notOne]
  | dot => rw [ReferenceStyle.render, ReferenceStyle.render, if_pos rfl, if_pos rfl]

theorem written_alike {style otherStyle : ReferenceStyle} {c d : Criterion} (operator : d.operator = c.operator)
    (value : d.value = c.value) (reference : otherStyle.render d.name = style.render c.name) :
    (Writer.mk otherStyle).criterion d = (Writer.mk style).criterion c := by
  rw [Writer.criterion, Writer.criterion, Criterion.kind, Criterion.kind, Criterion.valueOrEmpty,
    Criterion.valueOrEmpty, operator, value, reference]

theorem carried_written {e f : Expression} (carried : Expression.Carried (Renames one other) text e f)
    (absent : ¬ ReferenceStyle.braced one <:+: text) (otherAbsent : ¬ ReferenceStyle.braced other <:+: text) :
    (Writer.mk (.contextual other)).expression f = (Writer.mk (.contextual one)).expression e := by
  have each : List.Forall₂ (fun c d => (Writer.mk (.contextual other)).criterion d =
      (Writer.mk (.contextual one)).criterion c) e.criteria f.criteria := by
    refine carried.criteria.imp fun c d same => ?_
    obtain ⟨raw, inside, renamed⟩ := same.named
    exact written_alike same.operator same.value (renamed_render renamed inside absent otherAbsent)
  have all : f.criteria.map (Writer.mk (.contextual other)).criterion =
      e.criteria.map (Writer.mk (.contextual one)).criterion := by
    have flipped := each.flip
    rwa [← List.forall₂_map_left_iff (f := (Writer.mk (.contextual other)).criterion)
      (R := fun t c => t = (Writer.mk (.contextual one)).criterion c),
      ← List.forall₂_map_right_iff (f := (Writer.mk (.contextual one)).criterion),
      List.forall₂_eq_eq_eq] at flipped
  rw [Writer.expression, Writer.expression, all, Expression.writtenJoin, Expression.writtenJoin,
    carried.operator]

end

structure Expression.Rebound (one other : Text) (e f : Expression) : Prop where
  size : f.criteria.length = e.criteria.length
  operator : f.operator = e.operator
  criteria : List.Forall₂ (fun c d => d.operator = c.operator ∧ d.value = c.value ∧
    (d.name = c.name ∨ (c.name = one ∧ d.name = other))) e.criteria f.criteria

theorem carried_rebound {one other text : Text} {e f : Expression}
    (carried : Expression.Carried (Renames one other) text e f) : e.Rebound one other f := by
  refine ⟨carried.criteria.length_eq.symm, carried.operator, carried.criteria.imp fun c d same => ?_⟩
  obtain ⟨raw, -, renamed⟩ := same.named
  generalize nameEq : c.name = name, otherEq : d.name = otherName at renamed
  cases renamed with
  | braced _ => exact ⟨same.operator, same.value, .inl rfl⟩
  | dot => exact ⟨same.operator, same.value, .inr ⟨rfl, rfl⟩⟩

theorem constraint_alongside (settings : Settings) (text : Text) {one other : Text} (named : one ≠ [])
    (otherNamed : other ≠ []) :
    Alongside (Expression.Carried (Renames one other) text)
      ((Engine.ofSettings settings).compileConstraint text one)
      ((Engine.ofSettings settings).compileConstraint text other) := by
  have alongside := expression_carried (contextual_carries one otherNamed) (contextual_carries other named) text
  have compiled : ∀ question, (Engine.ofSettings settings).compileConstraint text question =
      ((Reader.ofStyle (.contextual question)).expression text).mapError .logic :=
    fun question => compile_column settings text .constraint question
  rw [compiled, compiled]
  exact alongside_map_error alongside _

theorem constraint_parametric (settings : Settings) (text one other : Text) (named : one ≠ [])
    (otherNamed : other ≠ []) :
    (∀ error, (Engine.ofSettings settings).compileConstraint text one = .error error ↔
      (Engine.ofSettings settings).compileConstraint text other = .error error) ∧
    ∀ e f, (Engine.ofSettings settings).compileConstraint text one = .ok e →
      (Engine.ofSettings settings).compileConstraint text other = .ok f →
      e.Rebound one other f ∧
        (¬ ReferenceStyle.braced one <:+: text → ¬ ReferenceStyle.braced other <:+: text →
          (Engine.ofSettings settings).toConstraintText f other =
            (Engine.ofSettings settings).toConstraintText e one) := by
  have alongside := constraint_alongside settings text named otherNamed
  refine ⟨alongside_error_iff alongside, ?_⟩
  intro e f read otherRead
  rw [read, otherRead] at alongside
  cases alongside with
  | answered _ _ carried => exact ⟨carried_rebound carried, carried_written carried⟩

theorem odd_questions_alike :
    let text := ". > 1 and not(selected(${a}, 'b'))".toList
    let engine := Engine.ofSettings .standard
    ∃ e f, engine.compileConstraint text "my \x7d \"age\"".toList = .ok e ∧
      engine.compileConstraint text "${a} = .".toList = .ok f ∧
      e.Rebound "my \x7d \"age\"".toList "${a} = .".toList f ∧
      engine.toConstraintText f "${a} = .".toList = engine.toConstraintText e "my \x7d \"age\"".toList ∧
      engine.toConstraintText e "my \x7d \"age\"".toList = text := by
  intro text engine
  obtain ⟨rebound, written⟩ := (constraint_parametric .standard text "my \x7d \"age\"".toList "${a} = .".toList
    (by decide) (by decide)).2
      ⟨[.withValue "my \x7d \"age\"".toList .greater "1".toList, .withValue "a".toList .notSelected "b".toList],
        some .and⟩
      ⟨[.withValue "${a} = .".toList .greater "1".toList, .withValue "a".toList .notSelected "b".toList],
        some .and⟩
      rfl rfl
  have absent : ∀ {question : Text} (c : Char), c ∈ question → c ∉ text →
      ¬ ReferenceStyle.braced question <:+: text := by
    intro question c mem foreign inside
    exact foreign (inside.subset (by simp [ReferenceStyle.braced, mem]))
  exact ⟨_, _, rfl, rfl, rebound,
    written (absent '"' (by decide) (by decide)) (absent '=' (by decide) (by decide)), by decide⟩

end SurveyLogic
