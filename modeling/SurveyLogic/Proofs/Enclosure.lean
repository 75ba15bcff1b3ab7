import SurveyLogic.Proofs.Saving

/- Values with both quote marks in them have no literal, and writing puts them between double quotes as
   they are. The text is refused as long as no join of the value comes to lie outside the quotes. -/

set_option autoImplicit false

namespace SurveyLogic

open Text Literal

def Enclosed (value : Text) : Prop := topLevelJoins (quote value) = []

instance (value : Text) : Decidable (Enclosed value) :=
  inferInstanceAs (Decidable (topLevelJoins (quote value) = []))

theorem no_keyword_nil : ¬ StartsInKeyword [] := by
  intro starts
  obtain ⟨c, head, -⟩ := keyword_head starts
  cases head

theorem ending_in_front {t more front behind : Text} {mark : Char} (free : QuoteFree t) (ending : Ending more)
    (isMark : isQuoteMark mark = true) (parts : t ++ more = front ++ mark :: behind) :
    ∃ (s : Separator) (rest : Text), front = t ++ s.text ++ rest := by
  obtain ⟨gap, frontEq, moreEq⟩ := front_of_mark free isMark parts
  cases ending with
  | text => simp at moreEq
  | separator s _ =>
      obtain ⟨rest, gapEq, -⟩ := front_of_mark (separator_quote_free s) isMark moreEq
      exact ⟨s, rest, by rw [frontEq, gapEq, List.append_assoc]⟩

-- No clause starts where an enclosed value with both quote marks follows, since it would end at a join
-- outside the quotes.
theorem no_clause {front value behind clause more : Text} (free : QuoteFree front) (calm : Calm front)
    (unquotable : ¬ Quotable value) (enclosed : Enclosed value) (one : OneLiteral clause)
    (ending : Ending more) : front ++ (quote value ++ behind) ≠ clause ++ more := by
  intro parts
  obtain ⟨-, double⟩ := Decidable.not_not.mp unquotable
  obtain ⟨inside, rest, valueEq, absent⟩ := List.eq_append_cons_of_mem double
  have literal : quote value = '"' :: (inside ++ '"' :: (rest ++ ['"'])) := by
    rw [quote_unquotable unquotable, valueEq]
    simp
  cases one with
  | without _ clauseFree =>
      -- The clause ends in front of the value, where no join stands.
      have whole : clause ++ more = front ++ '"' :: (inside ++ '"' :: (rest ++ ['"']) ++ behind) := by
        rw [← parts, literal]
        simp
      obtain ⟨s, tail, frontEq⟩ := ending_in_front clauseFree ending rfl whole
      rw [frontEq] at calm
      exact separator_outside s tail (open_after_quote_free clauseFree) (calm_top_level calm)
  | around lead text inner back freeLead quoted freeBack =>
      -- The literal is the value up to its own double quote, and the clause ends further on in the value.
      obtain ⟨mark, inner, isMark, absentInner⟩ := quoted
      have whole : lead ++ mark :: (inner ++ mark :: (back ++ more)) =
          front ++ '"' :: (inside ++ '"' :: (rest ++ '"' :: behind)) := by
        rw [literal] at parts
        simpa using parts.symm
      obtain ⟨rfl, rfl, inners⟩ := first_mark_unique freeLead free isMark rfl whole
      have apart : ∀ {t : Text}, '"' ∉ t → ∀ c ∈ t, (c == '"') = false := by
        intro t absent c mem
        exact beq_false_of_ne (ne_of_mem_of_not_mem mem absent)
      obtain ⟨rfl, -, behinds⟩ := first_mark_unique (apart absentInner) (apart absent) rfl rfl inners
      obtain ⟨s, tail, restEq⟩ := ending_in_front freeBack ending rfl behinds
      have closed : openAfter none ('"' :: inner ++ ['"'] ++ back) = none := by
        rw [open_after_append, open_after_literal rfl absent, open_after_quote_free freeBack]
      apply separator_outside s (tail ++ ['"']) closed
      have same : '"' :: inner ++ ['"'] ++ back ++ s.text ++ (tail ++ ['"']) = quote value := by
        rw [literal, restEq]
        simp
      rw [same]
      exact enclosed

theorem written_starts (style : ReferenceStyle) (join : Join) (c : Criterion) (criteria : List Criterion) :
    ∃ more, writtenText style join (c :: criteria) = (Writer.mk style).criterion c ++ more := by
  cases criteria with
  | nil => exact ⟨[], by simp [writtenText]⟩
  | cons next criteria => exact ⟨_, by rw [written_cons, List.append_assoc]⟩

theorem written_text_no_lead {style : ReferenceStyle} (join : Join) {c : Criterion}
    (criteria : List Criterion) (spellable : style.Spellable c.name) :
    NoLead (writtenText style join (c :: criteria)) := by
  obtain ⟨more, text⟩ := written_starts style join c criteria
  rw [text]
  exact written_no_lead spellable more

theorem written_text_closes {style : ReferenceStyle} (join : Join) {c : Criterion} (criteria : List Criterion)
    (spellable : ∀ d ∈ c :: criteria, style.Spellable d.name) :
    Closes (writtenText style join (c :: criteria)) := by
  induction criteria generalizing c with
  | nil => simpa [writtenText] using written_closes (spellable c (by simp))
  | cons next criteria ih =>
      rw [List.forall_mem_cons] at spellable
      rw [written_cons]
      exact closes_append (ih spellable.2) _

theorem written_text_solid {style : ReferenceStyle} (join : Join) {c : Criterion} (criteria : List Criterion)
    (spellable : ∀ d ∈ c :: criteria, style.Spellable d.name) :
    Solid (writtenText style join (c :: criteria)) := by
  have closes := written_text_closes join criteria spellable
  refine ⟨?_, written_text_no_lead join criteria (spellable c (by simp)), (closes_sealed closes).noTail⟩
  intro empty
  obtain ⟨d, last, -⟩ := closes
  rw [empty] at last
  cases last

theorem read_values_quotable {style : ReferenceStyle} (join : Join) {criteria read : List Criterion}
    (spellable : ∀ c ∈ criteria, style.Spellable c.name)
    (enclosed : ∀ c ∈ criteria,
      c.kind ≠ .existence → ¬ Quotable c.valueOrEmpty → Enclosed c.valueOrEmpty)
    (reads : ReadAs style (topClauses (writtenText style join criteria)) read) :
    ∀ c ∈ criteria, c.kind ≠ .existence → Quotable c.valueOrEmpty := by
  induction criteria generalizing read with
  | nil => simp
  | cons c criteria ih =>
      rw [List.forall_mem_cons] at spellable enclosed ⊢
      have quotable : c.kind ≠ .existence → Quotable c.valueOrEmpty := by
        intro valued
        by_contra unquotable
        obtain ⟨front, behind, around, text⟩ := written_around spellable.1
        have calm := around.calm [] no_keyword_nil calm_nil
        rw [List.append_nil] at calm
        rw [literal_unquotable valued unquotable] at text
        obtain ⟨more, whole⟩ := written_starts style join c criteria
        obtain ⟨clause, rest, first, parts, ending⟩ :=
          clause_first (top_level_chained (writtenText style join (c :: criteria)))
        obtain ⟨d, form⟩ := read_as_mem reads clause (List.mem_of_mem_head? first)
        rw [List.drop_zero, whole, text, List.append_assoc, List.append_assoc] at parts
        exact no_clause around.free calm unquotable (enclosed.1 valued unquotable)
          (padded_form_one_literal form) ending parts
      refine ⟨quotable, ?_⟩
      cases criteria with
      | nil => simp
      | cons next criteria =>
          have form := written_form spellable.1 quotable
          have closed := closes_sealed (written_closes spellable.1)
          have whole := undivided (calm_top_level (written_calm spellable.1 quotable))
          have noLead := written_text_no_lead join criteria (spellable.2 next (by simp))
          rw [written_cons, top_clauses_spliced _ closed (form_neutral form) noLead, whole] at reads
          cases reads with
          | cons _ others => exact ih spellable.2 enclosed.2 others

theorem enclosed_values_keep_structure (style : ReferenceStyle) (e : Expression) (inked : e.criteria ≠ [])
    (spellable : ∀ c ∈ e.criteria, style.Spellable c.name)
    (enclosed : ∀ c ∈ e.criteria,
      c.kind ≠ .existence → ¬ Quotable c.valueOrEmpty → Enclosed c.valueOrEmpty)
    (read : Expression) :
    (Compiler.ofStyle style).compile ((Compiler.ofStyle style).toText e) = .ok read ↔
      read = e.canonical ∧ ∀ c ∈ e.criteria, c.kind ≠ .existence → Quotable c.valueOrEmpty := by
  have written : (∀ c ∈ e.criteria, c.kind ≠ .existence → Quotable c.valueOrEmpty) →
      (Compiler.ofStyle style).compile ((Compiler.ofStyle style).toText e) = .ok e.canonical := by
    intro quotable
    exact written_compiles inked fun c mem => ⟨spellable c mem, quotable c mem⟩
  constructor
  · intro accepted
    have quotable : ∀ c ∈ e.criteria, c.kind ≠ .existence → Quotable c.valueOrEmpty := by
      obtain ⟨criteria, operator⟩ := e
      obtain ⟨c, criteria, rfl⟩ := List.exists_cons_of_ne_nil inked
      obtain ⟨found, join, -, clauses⟩ := compile_iff.mp accepted
      have solid := written_text_solid (Expression.writtenJoin ⟨c :: criteria, operator⟩) criteria spellable
      have trimmed := trim_solid solid
      exact read_values_quotable _ spellable enclosed (trimmed ▸ clauses)
    rw [written quotable] at accepted
    cases accepted
    exact ⟨rfl, quotable⟩
  · intro canonical
    obtain ⟨rfl, quotable⟩ := canonical
    exact written quotable

theorem enclosed_joins_saved :
    let kept : Expression := ⟨[⟨"a".toList, .equals, some "it's ${x} and so".toList⟩,
      ⟨"b".toList, .selected, some "or \"${y}\" or".toList⟩], some .or⟩
    let refused : Expression := ⟨[⟨"a".toList, .equals, some "it's and \"so\"".toList⟩,
      ⟨"b".toList, .notSelected, some "or".toList⟩], none⟩
    (Compiler.ofStyle .bare).compile ((Compiler.ofStyle .bare).toText kept) = .ok kept ∧
      ¬ ∃ read, (Compiler.ofStyle .bare).compile ((Compiler.ofStyle .bare).toText refused) = .ok read := by
  intro kept refused
  constructor
  · have answer := enclosed_values_keep_structure .bare kept (by decide) (by decide) (by decide) kept
    exact answer.mpr ⟨by rfl, by decide⟩
  · intro accepted
    obtain ⟨read, accepted⟩ := accepted
    have answer := enclosed_values_keep_structure .bare refused (by decide) (by decide) (by decide) read
    exact absurd (answer.mp accepted).2 (by decide)

-- The double quote in the value closes the literal, and the rest of the value is read as a join and
-- a second criterion.
theorem crafted_value_splits :
    let saved : Expression := .single (.withValue "q".toList .equals "it's\" and ${x} = \"z".toList)
    (Compiler.ofStyle .bare).compile ((Compiler.ofStyle .bare).toText saved) =
      .ok ⟨[.withValue "q".toList .equals "it's".toList, .withValue "x".toList .equals "z".toList],
        some .and⟩ ∧ saved.canonical = saved := ⟨by rfl, by rfl⟩

end SurveyLogic
