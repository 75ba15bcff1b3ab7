import SurveyLogic.Proofs.RoundTrip

set_option autoImplicit false

namespace SurveyLogic

open Text Literal

structure Criterion.Readable (style : ReferenceStyle) (c : Criterion) : Prop where
  valued : c.value.isSome ↔ c.operator.takesValue = true
  spellable : style.Spellable c.name
  quotable : ∀ value ∈ c.value, Quotable value
  compared : c.operator = .equals ∨ c.operator = .notEquals → c.value ≠ some []

structure Expression.Readable (style : ReferenceStyle) (e : Expression) : Prop where
  inked : e.criteria ≠ []
  operated : e.operator.isSome ↔ 1 < e.criteria.length
  criteria : ∀ c ∈ e.criteria, c.Readable style

theorem takes_value_iff (op : Operator) : op.takesValue = true ↔ op.kind ≠ .existence := by
  simp [Operator.takesValue]

theorem canonical_cases (c : Criterion) :
    (∃ op : Operator, op.kind = .existence ∧ c.canonical = .existence c.name op) ∨
      (c.kind ≠ .existence ∧ ¬ (c.valueOrEmpty = [] ∧ (c.operator = .equals ∨ c.operator = .notEquals)) ∧
        c.canonical = .withValue c.name c.operator c.valueOrEmpty) := by
  by_cases check : c.kind = .existence
  · exact .inl ⟨c.operator, check, canonical_existence check⟩
  · by_cases hidden : c.valueOrEmpty = [] ∧ (c.operator = .equals ∨ c.operator = .notEquals)
    · obtain ⟨empty, equals | notEquals⟩ := hidden
      · exact .inl ⟨.null, rfl, by simp [Criterion.canonical, equals, empty]⟩
      · exact .inl ⟨.notNull, rfl, by simp [Criterion.canonical, notEquals, empty]⟩
    · exact .inr ⟨check, hidden, canonical_valued check hidden⟩

theorem canonical_readable {style : ReferenceStyle} {c : Criterion} (writable : c.Writable style)
    (canonical : c.canonical = c) : c.Readable style := by
  rcases canonical_cases c with ⟨op, check, shape⟩ | ⟨valued, notHidden, shape⟩
  · rw [canonical] at shape
    have operator : c.operator = op := congrArg Criterion.operator shape
    have absent : c.value = none := congrArg Criterion.value shape
    refine ⟨?_, writable.spellable, ?_, ?_⟩
    · rw [absent, takes_value_iff, operator, check]
      simp
    · simp [absent]
    · simp [absent]
  · rw [canonical] at shape
    have value : c.value = some c.valueOrEmpty := congrArg Criterion.value shape
    refine ⟨?_, writable.spellable, ?_, ?_⟩
    · rw [value, takes_value_iff]
      exact ⟨fun _ => valued, fun _ => rfl⟩
    · rw [value]
      intro text mem
      rw [← Option.mem_some.mp mem]
      exact writable.quotable valued
    · intro compares empty
      rw [value, Option.some.injEq] at empty
      exact notHidden ⟨empty, compares⟩

theorem readable_value {style : ReferenceStyle} {c : Criterion} (readable : c.Readable style)
    (valued : c.kind ≠ .existence) : c.value = some c.valueOrEmpty := by
  have present := readable.valued.mpr ((takes_value_iff _).mpr valued)
  obtain ⟨value, some⟩ := Option.isSome_iff_exists.mp present
  rw [Criterion.valueOrEmpty, some]
  rfl

theorem readable_canonical {style : ReferenceStyle} {c : Criterion} (readable : c.Readable style) :
    c.canonical = c := by
  by_cases check : c.kind = .existence
  · have absent : c.value = none := by
      rw [← Option.not_isSome_iff_eq_none, readable.valued, takes_value_iff]
      exact fun valued => valued check
    calc c.canonical = ⟨c.name, c.operator, none⟩ := canonical_existence check
      _ = c := by rw [← absent]
  · have value := readable_value readable check
    have notHidden : ¬ (c.valueOrEmpty = [] ∧ (c.operator = .equals ∨ c.operator = .notEquals)) := by
      intro hidden
      obtain ⟨empty, compares⟩ := hidden
      rw [empty] at value
      exact readable.compared compares value
    calc c.canonical = ⟨c.name, c.operator, some c.valueOrEmpty⟩ := canonical_valued check notHidden
      _ = c := by rw [← value]

theorem readable_writable {style : ReferenceStyle} {c : Criterion} (readable : c.Readable style) :
    c.Writable style :=
  ⟨readable.spellable, fun valued => readable.quotable _ (readable_value readable valued)⟩

theorem operated_joined {e : Expression} (operated : e.operator.isSome ↔ 1 < e.criteria.length) :
    e = .joined e.criteria e.writtenJoin := by
  obtain ⟨criteria, operator⟩ := e
  cases operator with
  | none =>
      have few : ¬ 1 < criteria.length := by simpa using operated
      rw [Expression.joined, if_neg few]
  | some join =>
      have several : 1 < criteria.length := by simpa using operated
      rw [Expression.joined, if_pos several]
      rfl

theorem compiles_to_iff_readable (style : ReferenceStyle) (e : Expression) :
    (∃ text, (Compiler.ofStyle style).compile text = .ok e) ↔ e.Readable style := by
  constructor
  · intro compiled
    obtain ⟨text, read⟩ := compiled
    obtain ⟨criteria, join, rfl, inked, written⟩ := compiled_criteria read
    refine ⟨inked, ?_, fun c mem => canonical_readable (written c mem).1 (written c mem).2⟩
    simp [Expression.joined]
  · intro readable
    have canonical : e.canonical = e := by
      have same := joined_canonical e.writtenJoin fun c mem => readable_canonical (readable.criteria c mem)
      rwa [← operated_joined readable.operated] at same
    have compiled := written_compiles readable.inked fun c mem => readable_writable (readable.criteria c mem)
    rw [canonical] at compiled
    exact ⟨_, compiled⟩

end SurveyLogic
