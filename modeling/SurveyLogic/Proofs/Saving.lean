import SurveyLogic.Proofs.Splices
import SurveyLogic.Proofs.Writing

set_option autoImplicit false

namespace SurveyLogic

open Text Literal

def Expression.canonical (e : Expression) : Expression :=
  .joined (e.criteria.map Criterion.canonical) (e.operator.getD .and)

structure Criterion.Writable (style : ReferenceStyle) (c : Criterion) : Prop where
  spellable : style.Spellable c.name
  quotable : c.kind ≠ .existence → Quotable c.valueOrEmpty

def writtenSeparator (join : Join) : Separator :=
  .around ' ' join.keyword ' ' rfl (keyword_lower join) rfl

def writtenText (style : ReferenceStyle) (join : Join) (criteria : List Criterion) : Text :=
  (Writer.separator join).intercalate (criteria.map (Writer.mk style).criterion)

theorem written_cons (style : ReferenceStyle) (join : Join) (c next : Criterion) (criteria : List Criterion) :
    writtenText style join (c :: next :: criteria) = (Writer.mk style).criterion c ++
      (writtenSeparator join).text ++ writtenText style join (next :: criteria) := by
  simp [writtenText, Writer.separator, writtenSeparator, Separator.around, Separator.text]

theorem written_once {style : ReferenceStyle} {c : Criterion} (writable : c.Writable style) :
    Reads style ((Writer.mk style).criterion c) [] [c.canonical] := by
  have form := written_form writable.spellable writable.quotable
  have closed := closes_sealed (written_closes writable.spellable)
  have calm := calm_top_level (written_calm writable.spellable writable.quotable)
  have trimmed := trim_solid ⟨form_inked form, form_no_lead form, closed.noTail⟩
  constructor
  · rw [trimmed, spelledJoins, calm]
    rfl
  · rw [trimmed, topClauses, calm]
    refine .cons ?_ .nil
    rw [List.drop_zero, trimmed]
    exact form
  · rw [trimmed]
    exact closed.noKeyword

theorem written_reads {style : ReferenceStyle} (join : Join) {c : Criterion} {criteria : List Criterion}
    (writable : ∀ d ∈ c :: criteria, d.Writable style) :
    Reads style (writtenText style join (c :: criteria)) (List.replicate criteria.length join.keyword)
      ((c :: criteria).map Criterion.canonical) := by
  induction criteria generalizing c with
  | nil =>
      have text : writtenText style join [c] = (Writer.mk style).criterion c := by simp [writtenText]
      rw [text]
      exact written_once (writable c (by simp))
  | cons next criteria ih =>
      rw [List.forall_mem_cons] at writable
      rw [written_cons]
      exact reads_spliced (writtenSeparator join) (written_once writable.1) (ih writable.2)

theorem written_compiles {style : ReferenceStyle} {e : Expression} (inked : e.criteria ≠ [])
    (writable : ∀ c ∈ e.criteria, c.Writable style) :
    (Compiler.ofStyle style).compile ((Compiler.ofStyle style).toText e) = .ok e.canonical := by
  obtain ⟨criteria, operator⟩ := e
  obtain ⟨c, criteria, rfl⟩ := List.exists_cons_of_ne_nil inked
  apply reads_agreed (written_reads (Expression.writtenJoin ⟨c :: criteria, operator⟩) writable)
  intro keyword mem
  rw [List.eq_of_mem_replicate mem]
  exact keyword_lower _

theorem saved_expression_reads_canonical (style : ReferenceStyle) (e : Expression)
    (inked : e.criteria ≠ []) (spellable : ∀ c ∈ e.criteria, style.Spellable c.name)
    (quotable : ∀ c ∈ e.criteria, c.kind ≠ .existence → Quotable c.valueOrEmpty) :
    (Compiler.ofStyle style).compile ((Compiler.ofStyle style).toText e) = .ok e.canonical := by
  apply written_compiles inked
  intro c mem
  exact ⟨spellable c mem, quotable c mem⟩

theorem saved_draft_reads_canonical :
    let draft : Expression := ⟨[⟨"age".toList, .notNull, some "1 or '2".toList⟩, ⟨"b".toList, .equals, none⟩,
      ⟨"c".toList, .selected, some "x' and ${y} or".toList⟩], none⟩
    let either : Expression := ⟨[⟨"b".toList, .notEquals, some []⟩, ⟨"age".toList, .less, none⟩], some .or⟩
    (Compiler.ofStyle (.contextual "age".toList)).compile
        ((Compiler.ofStyle (.contextual "age".toList)).toText draft) =
      .ok ⟨[.existence "age".toList .notNull, .existence "b".toList .null,
        .withValue "c".toList .selected "x' and ${y} or".toList], some .and⟩ ∧
    (Compiler.ofStyle .bare).compile ((Compiler.ofStyle .bare).toText either) =
      .ok ⟨[.existence "b".toList .notNull, .withValue "age".toList .less []], some .or⟩ :=
  ⟨saved_expression_reads_canonical (.contextual "age".toList) _ (by decide) (by decide) (by decide),
    saved_expression_reads_canonical .bare _ (by decide) (by decide) (by decide)⟩

end SurveyLogic
