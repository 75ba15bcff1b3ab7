import SurveyLogic.Proofs.Quotes

set_option autoImplicit false

namespace SurveyLogic

def ClosedAt (t : Text) (span : Span) : Prop :=
  ∃ (front inner back : Text) (quote : Char), t = front ++ (quote :: inner ++ [quote]) ++ back ∧
    isQuoteMark quote = true ∧ quote ∉ inner ∧
    span = ⟨front.length, (front ++ (quote :: inner ++ [quote])).length⟩

def UnclosedAt (t : Text) (span : Span) : Prop :=
  ∃ (front inner : Text) (quote : Char), t = front ++ quote :: inner ∧ isQuoteMark quote = true ∧
    quote ∉ inner ∧ span = ⟨front.length, t.length⟩

structure QuotesTracked (t : Text) (start : Nat) (spans : List Span) : Prop where
  behind : ∀ span ∈ spans, start ≤ span.start
  ordered : spans.Pairwise fun a b => a.stop ≤ b.start
  literal : ∀ span ∈ spans, ClosedAt t span ∨ UnclosedAt t span ∧ spans.getLast? = some span
  covered : ∀ i c, start ≤ i → t[i]? = some c → isQuoteMark c = true →
    ∃ span ∈ spans, span.contains i = true

inductive Quoting : Text → Prop
  | plain (t : Text) (free : QuoteFree t) : Quoting t
  | closed (front inner back : Text) (quote : Char) (free : QuoteFree front) (mark : isQuoteMark quote = true)
      (absent : quote ∉ inner) (rest : Quoting back) : Quoting (front ++ (quote :: inner ++ [quote]) ++ back)
  | unclosed (front inner : Text) (quote : Char) (free : QuoteFree front) (mark : isQuoteMark quote = true)
      (absent : quote ∉ inner) : Quoting (front ++ quote :: inner)

theorem first_mark (t : Text) : QuoteFree t ∨
    ∃ front quote behind, t = front ++ quote :: behind ∧ QuoteFree front ∧ isQuoteMark quote = true := by
  induction t with
  | nil => exact .inl quote_free_nil
  | cons c t ih =>
      by_cases mark : isQuoteMark c = true
      · exact .inr ⟨[], c, t, rfl, quote_free_nil, mark⟩
      · rw [Bool.not_eq_true] at mark
        rcases ih with free | ⟨front, quote, behind, rfl, free, isMark⟩
        · exact .inl ((quote_free_cons c t).mpr ⟨mark, free⟩)
        · exact .inr ⟨c :: front, quote, behind, rfl, (quote_free_cons c front).mpr ⟨mark, free⟩, isMark⟩

theorem quoting (t : Text) : Quoting t := by
  rcases first_mark t with free | ⟨front, quote, behind, parts, free, mark⟩
  · exact .plain t free
  · by_cases closes : quote ∈ behind
    · obtain ⟨inner, back, behindEq, absent⟩ := List.eq_append_cons_of_mem closes
      have whole : t = front ++ (quote :: inner ++ [quote]) ++ back := by simp [parts, behindEq]
      have shorter : back.length < t.length := by
        rw [whole, List.length_append, List.length_append, List.length_append]
        simp only [List.length_cons]
        omega
      rw [whole]
      exact .closed front inner back quote free mark absent (quoting back)
    · rw [parts]
      exact .unclosed front behind quote free mark closes
termination_by t.length

section

variable {quote : Char} {front inner : Text}

theorem spans_plain (free : QuoteFree front) (position : Nat) (t : Text) :
    literalSpansFrom position none (front ++ t) = literalSpansFrom (position + front.length) none t := by
  induction front generalizing position with
  | nil => rfl
  | cons c front ih =>
      obtain ⟨plain, rest⟩ := (quote_free_cons c front).mp free
      rw [List.cons_append, literalSpansFrom, plain, if_neg Bool.false_ne_true, ih rest, List.length_cons,
        Nat.add_assoc, Nat.add_comm 1]

theorem spans_inside (absent : quote ∉ inner) (start position : Nat) (t : Text) :
    literalSpansFrom position (some (quote, start)) (inner ++ t) =
      literalSpansFrom (position + inner.length) (some (quote, start)) t := by
  induction inner generalizing position with
  | nil => rfl
  | cons c inner ih =>
      rw [List.mem_cons, not_or] at absent
      rw [List.cons_append, literalSpansFrom, if_neg (Ne.symm absent.1), ih absent.2, List.length_cons,
        Nat.add_assoc, Nat.add_comm 1]

theorem spans_closed (free : QuoteFree front) (mark : isQuoteMark quote = true) (absent : quote ∉ inner)
    (lead back : Text) : literalSpansFrom lead.length none (front ++ (quote :: inner ++ [quote]) ++ back) =
      ⟨(lead ++ front).length, (lead ++ front ++ (quote :: inner ++ [quote])).length⟩ ::
        literalSpansFrom (lead ++ front ++ (quote :: inner ++ [quote])).length none back := by
  have stop : (lead ++ front ++ (quote :: inner ++ [quote])).length =
      lead.length + front.length + 1 + inner.length + 1 := by
    simp only [List.length_append, List.length_cons, List.length_nil]
    omega
  rw [stop, List.append_assoc, spans_plain free, List.cons_append, List.cons_append, List.append_assoc,
    literalSpansFrom, if_pos mark, spans_inside absent, List.singleton_append, literalSpansFrom, if_pos rfl,
    List.length_append]

theorem spans_unclosed (free : QuoteFree front) (mark : isQuoteMark quote = true) (absent : quote ∉ inner)
    (lead : Text) : literalSpansFrom lead.length none (front ++ quote :: inner) =
      [⟨(lead ++ front).length, (lead ++ front ++ quote :: inner).length⟩] := by
  have inside := spans_inside absent (lead.length + front.length) (lead.length + front.length + 1) []
  rw [List.append_nil] at inside
  rw [spans_plain free, literalSpansFrom, if_pos mark, inside, literalSpansFrom, List.length_append,
    List.length_append, List.length_append, List.length_cons]
  congr 2
  omega

end

def NoMark (t : Text) (start stop : Nat) : Prop :=
  ∀ i c, start ≤ i → i < stop → t[i]? = some c → isQuoteMark c = false

theorem no_mark_between {front : Text} (free : QuoteFree front) (lead behind : Text) :
    NoMark (lead ++ front ++ behind) lead.length (lead ++ front).length := by
  intro i c reached before found
  rw [List.length_append] at before
  rw [List.append_assoc, List.getElem?_append_right reached,
    List.getElem?_append_left (by omega)] at found
  exact free c (List.mem_of_getElem? found)

theorem literal_start {t : Text} {span : Span} (literal : ClosedAt t span ∨ UnclosedAt t span) :
    ∃ quote, t[span.start]? = some quote ∧ isQuoteMark quote = true ∧ span.start < span.stop := by
  rcases literal with ⟨front, inner, back, quote, rfl, mark, -, rfl⟩ |
    ⟨front, inner, quote, rfl, mark, -, rfl⟩
  · exact ⟨quote, by simp, mark, by simp⟩
  · exact ⟨quote, by simp, mark, by simp⟩

section

variable {t : Text} {start : Nat} {spans : List Span}

theorem tracked_literal (tracked : QuotesTracked t start spans) {span : Span} (mem : span ∈ spans) :
    ClosedAt t span ∨ UnclosedAt t span :=
  (tracked.literal span mem).imp_right And.left

theorem tracked_none (tracked : QuotesTracked t start spans) (none : NoMark t start t.length) : spans = [] := by
  cases spans with
  | nil => rfl
  | cons first rest =>
      obtain ⟨quote, found, mark, -⟩ := literal_start (tracked_literal tracked List.mem_cons_self)
      have inside := (List.getElem?_eq_some_iff.mp found).1
      rw [none first.start quote (tracked.behind first List.mem_cons_self) inside found] at mark
      cases mark

theorem none_tracked (none : NoMark t start t.length) : QuotesTracked t start [] := by
  refine ⟨by simp, .nil, by simp, ?_⟩
  intro i c reached found mark
  rw [none i c reached (List.getElem?_eq_some_iff.mp found).1 found] at mark
  cases mark

theorem last_behind {first span : Span} {rest : List Span} (mem : span ∈ rest) :
    (first :: rest).getLast? = rest.getLast? := by
  obtain ⟨next, others, rfl⟩ := List.exists_cons_of_ne_nil (List.ne_nil_of_mem mem)
  exact List.getLast?_cons_cons

section

variable {first : Span} {rest : List Span} {position : Nat} {quote : Char}

theorem tracked_start (tracked : QuotesTracked t start (first :: rest)) (reached : start ≤ position)
    (free : NoMark t start position) (found : t[position]? = some quote) (mark : isQuoteMark quote = true) :
    first.start = position := by
  obtain ⟨other, otherFound, otherMark, nonempty⟩ :=
    literal_start (tracked_literal tracked List.mem_cons_self)
  have late : position ≤ first.start := by
    by_cases before : first.start < position
    · rw [free first.start other (tracked.behind first List.mem_cons_self) before otherFound] at otherMark
      cases otherMark
    · exact Nat.le_of_not_lt before
  obtain ⟨span, mem, holds⟩ := tracked.covered position quote reached found mark
  rw [contains_iff] at holds
  rcases List.mem_cons.mp mem with rfl | later
  · omega
  · have past := (List.pairwise_cons.mp tracked.ordered).1 span later
    omega

theorem tracked_rest (tracked : QuotesTracked t start (first :: rest)) : QuotesTracked t first.stop rest := by
  have ordered := List.pairwise_cons.mp tracked.ordered
  have nonempty := (literal_start (tracked_literal tracked List.mem_cons_self)).choose_spec.2.2
  have reached := tracked.behind first List.mem_cons_self
  refine ⟨ordered.1, ordered.2, ?_, ?_⟩
  · intro span mem
    have literal := tracked.literal span (List.mem_cons_of_mem _ mem)
    rwa [last_behind mem] at literal
  · intro i c past found mark
    obtain ⟨span, mem, holds⟩ := tracked.covered i c (by omega) found mark
    rcases List.mem_cons.mp mem with rfl | later
    · rw [contains_iff] at holds
      omega
    · exact ⟨span, later, holds⟩

end

theorem tracked_first {position : Nat} {quote : Char} (tracked : QuotesTracked t start spans)
    (reached : start ≤ position) (free : NoMark t start position) (found : t[position]? = some quote)
    (mark : isQuoteMark quote = true) :
    ∃ stop rest, spans = ⟨position, stop⟩ :: rest ∧ QuotesTracked t stop rest := by
  cases spans with
  | nil =>
      obtain ⟨span, mem, -⟩ := tracked.covered position quote reached found mark
      cases mem
  | cons first rest =>
      have own := tracked_start tracked reached free found mark
      exact ⟨first.stop, rest, by rw [← own], tracked_rest tracked⟩

theorem first_tracked {span : Span} {rest : List Span} (reached : start ≤ span.start)
    (free : NoMark t start span.start) (literal : ClosedAt t span ∨ UnclosedAt t span ∧ rest = [])
    (tracked : QuotesTracked t span.stop rest) : QuotesTracked t start (span :: rest) := by
  have nonempty := (literal_start (literal.imp_right And.left)).choose_spec.2.2
  refine ⟨?_, List.pairwise_cons.mpr ⟨tracked.behind, tracked.ordered⟩, ?_, ?_⟩
  · rw [List.forall_mem_cons]
    refine ⟨reached, fun other mem => ?_⟩
    have past := tracked.behind other mem
    omega
  · rw [List.forall_mem_cons]
    refine ⟨literal.imp_right (And.imp_right fun alone => by rw [alone]; rfl), fun other mem => ?_⟩
    rw [last_behind mem]
    exact tracked.literal other mem
  · intro i c later found mark
    by_cases past : span.stop ≤ i
    · obtain ⟨other, mem, holds⟩ := tracked.covered i c past found mark
      exact ⟨other, List.mem_cons_of_mem _ mem, holds⟩
    · refine ⟨span, List.mem_cons_self, contains_iff.mpr ⟨?_, Nat.lt_of_not_le past⟩⟩
      by_cases before : i < span.start
      · rw [free i c later before found] at mark
        cases mark
      · exact Nat.le_of_not_lt before

end

theorem closed_parts {front behind : Text} {quote : Char} {stop : Nat}
    (closed : ClosedAt (front ++ quote :: behind) ⟨front.length, stop⟩) :
    ∃ inner back, behind = inner ++ quote :: back ∧ quote ∉ inner ∧
      stop = (front ++ (quote :: inner ++ [quote])).length := by
  obtain ⟨other, inner, back, mark, parts, -, absent, same⟩ := closed
  rw [Span.mk.injEq] at same
  rw [List.append_assoc] at parts
  obtain ⟨rfl, behindEq⟩ := List.append_inj parts same.1
  rw [List.cons_append, List.cons_append, List.append_assoc, List.cons.injEq] at behindEq
  obtain ⟨rfl, behindEq⟩ := behindEq
  exact ⟨inner, back, behindEq, absent, same.2⟩

theorem unclosed_parts {front behind : Text} {quote : Char} {stop : Nat}
    (unclosed : UnclosedAt (front ++ quote :: behind) ⟨front.length, stop⟩) :
    quote ∉ behind ∧ stop = (front ++ quote :: behind).length := by
  obtain ⟨other, inner, mark, parts, -, absent, same⟩ := unclosed
  rw [Span.mk.injEq] at same
  obtain ⟨rfl, behindEq⟩ := List.append_inj parts same.1
  rw [List.cons.injEq] at behindEq
  obtain ⟨rfl, rfl⟩ := behindEq
  exact ⟨absent, same.2⟩

theorem closed_stop {front inner back : Text} {quote : Char} {stop : Nat} (absent : quote ∉ inner)
    (literal : ClosedAt (front ++ (quote :: inner ++ [quote]) ++ back) ⟨front.length, stop⟩ ∨
      UnclosedAt (front ++ (quote :: inner ++ [quote]) ++ back) ⟨front.length, stop⟩) :
    stop = (front ++ (quote :: inner ++ [quote])).length := by
  have whole : front ++ (quote :: inner ++ [quote]) ++ back = front ++ quote :: (inner ++ quote :: back) := by
    simp
  rw [whole] at literal
  rcases literal with closed | unclosed
  · obtain ⟨other, behind, parts, otherAbsent, stops⟩ := closed_parts closed
    have isMark : ∀ inside : Text, quote ∉ inside → ∀ c ∈ inside, (c == quote) = false := by
      intro inside missing c mem
      rw [beq_eq_false_iff_ne]
      rintro rfl
      exact missing mem
    have same := first_mark_unique (isMark inner absent) (isMark other otherAbsent) (beq_self_eq_true quote)
      (beq_self_eq_true quote) parts
    rw [stops, same.1]
  · exact absurd (by simp) (unclosed_parts unclosed).1

theorem unclosed_stop {front inner : Text} {quote : Char} {stop : Nat} (absent : quote ∉ inner)
    (literal : ClosedAt (front ++ quote :: inner) ⟨front.length, stop⟩ ∨
      UnclosedAt (front ++ quote :: inner) ⟨front.length, stop⟩) :
    stop = (front ++ quote :: inner).length := by
  rcases literal with closed | unclosed
  · obtain ⟨other, behind, rfl, -, -⟩ := closed_parts closed
    exact absurd (by simp) absent
  · exact (unclosed_parts unclosed).2

theorem no_mark_end {lead t : Text} (free : QuoteFree t) : NoMark (lead ++ t) lead.length (lead ++ t).length := by
  have between := no_mark_between free lead []
  rwa [List.append_nil] at between

theorem no_mark_past (t : Text) : NoMark t t.length t.length :=
  fun _ _ reached before => absurd before (Nat.not_lt.mpr reached)

theorem scan_tracked {t : Text} (shape : Quoting t) (lead : Text) :
    QuotesTracked (lead ++ t) lead.length (literalSpansFrom lead.length none t) := by
  induction shape generalizing lead with
  | plain t free =>
      have scan := spans_plain free lead.length []
      rw [List.append_nil, literalSpansFrom] at scan
      rw [scan]
      exact none_tracked (no_mark_end free)
  | closed front inner back quote free mark absent _ ih =>
      have whole : lead ++ (front ++ (quote :: inner ++ [quote]) ++ back) =
          lead ++ front ++ (quote :: inner ++ [quote]) ++ back := by simp
      have rest := ih (lead ++ front ++ (quote :: inner ++ [quote]))
      rw [spans_closed free mark absent, whole]
      refine first_tracked ?_ ?_ (.inl ⟨lead ++ front, inner, back, quote, rfl, mark, absent, rfl⟩) rest
      · rw [List.length_append]
        exact Nat.le_add_right _ _
      · rw [List.append_assoc _ _ back]
        exact no_mark_between free lead _
  | unclosed front inner quote free mark absent =>
      rw [spans_unclosed free mark absent, ← List.append_assoc]
      refine first_tracked ?_ (no_mark_between free lead _)
        (.inr ⟨⟨lead ++ front, inner, quote, rfl, mark, absent, rfl⟩, rfl⟩) (none_tracked (no_mark_past _))
      rw [List.length_append]
      exact Nat.le_add_right _ _

theorem tracked_scan {t : Text} (shape : Quoting t) (lead : Text) {spans : List Span}
    (tracked : QuotesTracked (lead ++ t) lead.length spans) :
    spans = literalSpansFrom lead.length none t := by
  induction shape generalizing lead spans with
  | plain t free =>
      have scan := spans_plain free lead.length []
      rw [List.append_nil, literalSpansFrom] at scan
      rw [scan]
      exact tracked_none tracked (no_mark_end free)
  | closed front inner back quote free mark absent _ ih =>
      have whole : lead ++ (front ++ (quote :: inner ++ [quote]) ++ back) =
          lead ++ front ++ (quote :: inner ++ [quote]) ++ back := by simp
      rw [whole] at tracked
      have none : NoMark (lead ++ front ++ (quote :: inner ++ [quote]) ++ back) lead.length
          (lead ++ front).length := by
        rw [List.append_assoc _ _ back]
        exact no_mark_between free lead _
      obtain ⟨stop, rest, rfl, behind⟩ := tracked_first tracked (by simp) none (by simp) mark
      have stops := closed_stop absent (tracked_literal tracked List.mem_cons_self)
      rw [stops] at behind ⊢
      rw [spans_closed free mark absent, ih _ behind]
  | unclosed front inner quote free mark absent =>
      rw [← List.append_assoc] at tracked
      obtain ⟨stop, rest, rfl, behind⟩ :=
        tracked_first tracked (by simp) (no_mark_between free lead _) (by simp) mark
      have stops := unclosed_stop absent (tracked_literal tracked List.mem_cons_self)
      rw [stops] at behind ⊢
      rw [spans_unclosed free mark absent, tracked_none behind (no_mark_past _)]

theorem tracked_iff (t : Text) (spans : List Span) : QuotesTracked t 0 spans ↔ spans = literalSpans t := by
  constructor
  · exact tracked_scan (quoting t) []
  · rintro rfl
    exact scan_tracked (quoting t) []

end SurveyLogic
