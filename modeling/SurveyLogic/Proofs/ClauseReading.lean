import SurveyLogic.Proofs.Checks
import SurveyLogic.Proofs.Selections

set_option autoImplicit false

namespace SurveyLogic

open Text Literal

theorem names_head {style : ReferenceStyle} {raw name : Text} (names : style.Names raw name)
    (rest : Text) : ∃ c ∈ (raw ++ rest).head?, c = '$' ∨ c = '.' := by
  cases names with
  | braced _ _ => exact ⟨'$', rfl, .inl rfl⟩
  | dot _ _ _ => exact ⟨'.', rfl, .inr rfl⟩

theorem existence_head {style : ReferenceStyle} {t : Text} {c : Criterion}
    (form : ExistenceForm style t c) : ∃ c ∈ t.head?, c = '$' ∨ c = '.' := by
  obtain ⟨raw, name, gap, sign, pad, nothing, op, names, -, -, -, -⟩ := form
  exact names_head names _

theorem comparison_head {style : ReferenceStyle} {t : Text} {c : Criterion}
    (form : ComparisonForm style t c) : ∃ c ∈ t.head?, c = '$' ∨ c = '.' := by
  obtain ⟨raw, name, gap, pad, operand, value, op, names, -, -, -, -⟩ := form
  exact names_head names _

theorem selection_head {style : ReferenceStyle} {t : Text} {c : Criterion}
    (form : SelectionForm style t c) : ∃ c ∈ t.head?, c = 's' ∨ c = 'n' := by
  cases form with
  | selected call name value form =>
      cases form
      exact ⟨'s', rfl, .inl rfl⟩
  | notSelected _ _ _ _ _ _ _ _ => exact ⟨'n', rfl, .inr rfl⟩

theorem heads_apart {t : Text} (reference : ∃ c ∈ t.head?, c = '$' ∨ c = '.')
    (word : ∃ c ∈ t.head?, c = 's' ∨ c = 'n') : False := by
  obtain ⟨c, cHead, symbol⟩ := reference
  obtain ⟨d, dHead, letter⟩ := word
  rw [Option.mem_unique cHead dHead] at symbol
  rcases letter with rfl | rfl <;> exact absurd symbol (by decide)

theorem selection_no_existence {style : ReferenceStyle} {t : Text} {c : Criterion}
    (form : SelectionForm style t c) : (Reader.ofStyle style).existence? t = .ok none :=
  existence_rejects fun _ other => heads_apart (existence_head other) (selection_head form)

theorem selection_no_comparison {style : ReferenceStyle} {t : Text} {c : Criterion}
    (form : SelectionForm style t c) : (Reader.ofStyle style).comparison? t = .ok none := by
  rcases comparison_answers style t with none | ⟨other, -, otherForm⟩
  · exact none
  · exact (heads_apart (comparison_head otherForm) (selection_head form)).elim

theorem form_inked {style : ReferenceStyle} {t : Text} {c : Criterion} (form : ClauseForm style t c) :
    t ≠ [] := by
  rintro rfl
  cases form with
  | existence form =>
      obtain ⟨_, head, -⟩ := existence_head form
      cases head
  | comparison form _ =>
      obtain ⟨_, head, -⟩ := comparison_head form
      cases head
  | selection form =>
      obtain ⟨_, head, -⟩ := selection_head form
      cases head

theorem form_is_read {style : ReferenceStyle} {text : Text} {c : Criterion}
    (form : ClauseForm style text.trim c) : (Reader.ofStyle style).clause text = .ok c := by
  have inked : ¬ text.trim.isEmpty = true := by simpa using form_inked form
  rw [Reader.clause, if_neg inked]
  cases form with
  | existence form => rw [existence_accepts form]
  | comparison form noCheck => rw [existence_rejects noCheck, comparison_accepts form]
  | selection form =>
      rw [selection_no_existence form, selection_no_comparison form, selection_accepts form]

def refusal (text : Text) : LogicError :=
  .unrecognizedClause (if text.trim.isEmpty then text else text.trim)

theorem clause_answers (style : ReferenceStyle) (text : Text) :
    (Reader.ofStyle style).clause text = .error (refusal text) ∨
      ∃ c, (Reader.ofStyle style).clause text = .ok c ∧ ClauseForm style text.trim c := by
  rw [Reader.clause, refusal]
  by_cases empty : text.trim.isEmpty = true
  · rw [if_pos empty, if_pos empty]
    exact .inl rfl
  · rw [if_neg empty, if_neg empty]
    rcases existence_answers style text.trim with noCheck | ⟨check, answer, form⟩
    · rw [noCheck]
      rcases comparison_answers style text.trim with noComparison | ⟨compared, answer, form⟩
      · rw [noComparison]
        cases selected : (Reader.ofStyle style).selection? text.trim with
        | none => exact .inl rfl
        | some found =>
            have solid := trim_is_solid text (by simpa using empty)
            exact .inr ⟨found, rfl, .selection (selection_found solid selected)⟩
      · rw [answer]
        refine .inr ⟨compared, rfl, .comparison form fun other check => ?_⟩
        rw [existence_accepts check] at noCheck
        cases noCheck
    · rw [answer]
      exact .inr ⟨check, rfl, .existence form⟩

theorem read_has_form {style : ReferenceStyle} {text : Text} {c : Criterion}
    (read : (Reader.ofStyle style).clause text = .ok c) : ClauseForm style text.trim c := by
  rcases clause_answers style text with refused | ⟨found, answer, form⟩
  · rw [refused] at read
    cases read
  · rw [answer] at read
    cases read
    exact form

theorem form_unique {style : ReferenceStyle} {t : Text} {c other : Criterion} (solid : Solid t)
    (form : ClauseForm style t c) (otherForm : ClauseForm style t other) : other = c := by
  rw [← trim_solid solid] at form otherForm
  have same := (form_is_read otherForm).symm.trans (form_is_read form)
  cases same
  rfl

theorem clause_reads_exactly (style : ReferenceStyle) (text : Text) (c : Criterion) :
    ((Reader.ofStyle style).clause text = .ok c ↔ ClauseForm style text.trim c) ∧
      ∀ other, ClauseForm style text.trim c → ClauseForm style text.trim other → other = c := by
  refine ⟨⟨read_has_form, form_is_read⟩, ?_⟩
  intro other form otherForm
  exact form_unique (trim_is_solid text (form_inked form)) form otherForm

theorem negated_selection_reads :
    (Reader.ofStyle .bare).clause " not(selected( ${pets} ,\"cat\") )\n".toList =
        .ok (.withValue "pets".toList .notSelected "cat".toList) ∧
      ∀ other, ClauseForm .bare "not(selected( ${pets} ,\"cat\") )".toList other →
        other = .withValue "pets".toList .notSelected "cat".toList := by
  have names : ReferenceStyle.bare.Names (ReferenceStyle.braced "pets".toList) "pets".toList :=
    .braced _ (by decide)
  have call := CallForm.mk [' '] _ _ [' '] [] _ "cat".toList [] rfl names rfl rfl (.mk '"' _ rfl (by decide))
    rfl
  have form : ClauseForm .bare (Text.trim " not(selected( ${pets} ,\"cat\") )\n".toList)
      (.withValue "pets".toList .notSelected "cat".toList) :=
    .selection (.notSelected [] _ [' '] _ _ rfl call rfl)
  have exactly := clause_reads_exactly .bare " not(selected( ${pets} ,\"cat\") )\n".toList
    (.withValue "pets".toList .notSelected "cat".toList)
  exact ⟨exactly.1.mpr form, fun other otherForm => exactly.2 other form otherForm⟩

end SurveyLogic
