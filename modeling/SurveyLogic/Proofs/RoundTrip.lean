import SurveyLogic.Proofs.Saving

set_option autoImplicit false

namespace SurveyLogic

open Text Literal

theorem names_spellable {style : ReferenceStyle} {raw name : Text} (names : style.Names raw name) :
    style.Spellable name := by
  cases names with
  | braced _ word => exact .inl word
  | dot _ bound named => exact .inr ⟨named, bound⟩

theorem form_writable {style : ReferenceStyle} {t : Text} {c : Criterion} (form : ClauseForm style t c) :
    c.Writable style := by
  cases form with
  | existence form =>
      obtain ⟨_, _, _, _, _, _, _, names, -, equality, -, -⟩ := form
      refine ⟨names_spellable names, fun valued => ?_⟩
      cases equality <;> exact absurd rfl valued
  | comparison form _ =>
      obtain ⟨_, _, _, _, _, _, _, names, -, -, -, literal⟩ := form
      exact ⟨names_spellable names, fun _ => operand_quotable literal⟩
  | selection form =>
      cases form with
      | selected _ _ _ call =>
          obtain ⟨_, _, _, _, _, _, _, _, -, names, -, -, literal, -⟩ := call
          exact ⟨names_spellable names, fun _ => quoted_quotable literal⟩
      | notSelected _ _ _ _ _ _ call _ =>
          obtain ⟨_, _, _, _, _, _, _, _, -, names, -, -, literal, -⟩ := call
          exact ⟨names_spellable names, fun _ => quoted_quotable literal⟩

-- An equality with an empty literal is read as a check for existence, so none is left to change.
theorem form_canonical {style : ReferenceStyle} {t : Text} {c : Criterion} (form : ClauseForm style t c) :
    c.canonical = c := by
  cases form with
  | existence form =>
      obtain ⟨_, _, _, _, _, _, _, -, -, equality, -, -⟩ := form
      cases equality <;> rfl
  | comparison form noCheck =>
      obtain ⟨raw, name, gap, pad, operand, value, op, names, blankGap, compares, blankPad, literal⟩ := form
      apply canonical_valued
      · intro check
        rw [show (Criterion.withValue name op value).kind = op.kind from rfl, compares] at check
        cases check
      · intro empty
        obtain ⟨empty, operator⟩ := empty
        have missing := operand_missing literal empty
        rcases operator with equals | notEquals
        · rw [show op = .equals from equals] at noCheck
          exact noCheck _ (.mk raw name gap ['='] pad operand .null names blankGap .same blankPad missing)
        · rw [show op = .notEquals from notEquals] at noCheck
          exact noCheck _
            (.mk raw name gap ['!', '='] pad operand .notNull names blankGap .different blankPad missing)
  | selection form => cases form <;> rfl

theorem read_as_forms {style : ReferenceStyle} {texts : List Text} {criteria : List Criterion}
    (read : ReadAs style texts criteria) : ∀ c ∈ criteria, ∃ t, ClauseForm style t c := by
  induction read with
  | nil => simp
  | cons first _ ih => exact List.forall_mem_cons.mpr ⟨⟨_, first⟩, ih⟩

theorem top_clauses_inked (t : Text) : topClauses t ≠ [] := by
  rw [topClauses, clauses]
  cases topLevelJoins t with
  | nil => simp [clausesFrom]
  | cons join rest => simp [clausesFrom]

theorem joined_canonical {criteria : List Criterion} (join : Join)
    (canonical : ∀ c ∈ criteria, c.canonical = c) :
    (Expression.joined criteria join).canonical = .joined criteria join := by
  have same : criteria.map Criterion.canonical = criteria := by
    calc criteria.map Criterion.canonical = criteria.map id := List.map_congr_left canonical
      _ = criteria := List.map_id criteria
  rw [Expression.canonical, show (Expression.joined criteria join).criteria = criteria from rfl, same]
  by_cases several : 1 < criteria.length
  · simp [Expression.joined, several]
  · simp [Expression.joined, several]

theorem compiled_criteria {style : ReferenceStyle} {text : Text} {e : Expression}
    (read : (Compiler.ofStyle style).compile text = .ok e) :
    ∃ criteria join, e = .joined criteria join ∧ criteria ≠ [] ∧
      ∀ c ∈ criteria, c.Writable style ∧ c.canonical = c := by
  obtain ⟨criteria, join, -, clauses⟩ := compile_iff.mp read
  refine ⟨criteria, join, rfl, ?_, ?_⟩
  · rintro rfl
    exact top_clauses_inked text.trim (List.forall₂_nil_right_iff.mp clauses)
  · intro c mem
    obtain ⟨t, form⟩ := read_as_forms clauses c mem
    exact ⟨form_writable form, form_canonical form⟩

theorem read_again {style : ReferenceStyle} {text : Text} {e : Expression}
    (read : (Compiler.ofStyle style).compile text = .ok e) :
    (Compiler.ofStyle style).compile ((Compiler.ofStyle style).toText e) = .ok e := by
  obtain ⟨criteria, join, rfl, inked, written⟩ := compiled_criteria read
  rw [written_compiles inked fun c mem => (written c mem).1,
    joined_canonical join fun c mem => (written c mem).2]

theorem round_trip_agrees (style : ReferenceStyle) (text : Text) :
    (Compiler.ofStyle style).verifyRoundTrip text = (Compiler.ofStyle style).compile text ∧
      ∀ e, (Compiler.ofStyle style).compile text = .ok e →
        (Compiler.ofStyle style).compile ((Compiler.ofStyle style).toText e) = .ok e := by
  refine ⟨?_, fun e read => read_again read⟩
  rw [Compiler.verifyRoundTrip]
  cases read : (Compiler.ofStyle style).compile text with
  | error error => rfl
  | ok e =>
      have again := read_again read
      simp only [bind, Except.bind, again, if_true]
      rfl

theorem round_trip_of_null :
    (Compiler.ofStyle (.contextual "age".toList)).compile
        ((Compiler.ofStyle (.contextual "age".toList)).toText
          ⟨[.existence "age".toList .null, .withValue "b".toList .less "x or 'y'".toList], some .or⟩) =
      .ok ⟨[.existence "age".toList .null, .withValue "b".toList .less "x or 'y'".toList], some .or⟩ :=
  (round_trip_agrees (.contextual "age".toList) " .=nULL\tOR ${b}<\"x or 'y'\"".toList).2 _ rfl

end SurveyLogic
