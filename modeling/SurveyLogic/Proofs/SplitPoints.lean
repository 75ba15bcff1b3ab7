import SurveyLogic.Proofs.ByteScans
import SurveyLogic.Proofs.QuotedSpans

set_option autoImplicit false

namespace SurveyLogic

open Text

def Span.Within (inner outer : Span) : Prop := outer.start ≤ inner.start ∧ inner.stop ≤ outer.stop

def Span.Apart (a b : Span) : Prop := a.stop ≤ b.start ∨ b.stop ≤ a.start

instance (a b : Span) : Decidable (a.Apart b) := inferInstanceAs (Decidable (_ ∨ _))

section

variable {t : Text}

theorem match_occurs {join : JoinMatch} (found : MatchIn t join) : ∃ s : Separator, s.OccursAt t join.start := by
  obtain ⟨s, behind, parts, -, -⟩ := found
  exact ⟨s, behind, parts⟩

theorem match_unique {join other : JoinMatch} (found : MatchIn t join) (otherFound : MatchIn t other)
    (start : join.start = other.start) : join = other := by
  obtain ⟨s, behind, parts, noLead, same⟩ := found
  obtain ⟨u, otherBehind, otherParts, otherNoLead, otherSame⟩ := otherFound
  have here := join_here_found s behind noLead
  rw [← parts, start, otherParts, join_here_found u otherBehind otherNoLead, Option.some.injEq,
    Prod.mk.injEq] at here
  rw [same, otherSame, start, Separator.found, Separator.found, here.1, here.2]

theorem scanned_unique {start : Nat} {found others : List JoinMatch} (scanned : Scanned t start found)
    (again : Scanned t start others) : found = others := by
  induction scanned generalizing others with
  | done start none =>
      cases again with
      | done => rfl
      | found _ join _ here reached =>
          obtain ⟨s, occurs⟩ := match_occurs here
          exact absurd occurs (none s join.start reached)
  | found start join rest here reached leftmost _ ih =>
      obtain ⟨s, occurs⟩ := match_occurs here
      cases again with
      | done _ none => exact absurd occurs (none s join.start reached)
      | found _ other _ otherHere otherReached otherLeftmost otherRest =>
          obtain ⟨u, otherOccurs⟩ := match_occurs otherHere
          have same : join = other := by
            apply match_unique here otherHere
            rcases Nat.lt_trichotomy join.start other.start with less | same | less
            · exact absurd occurs (otherLeftmost s join.start reached less)
            · exact same
            · exact absurd otherOccurs (leftmost u other.start otherReached less)
          rw [← same] at otherRest
          rw [← same, ih otherRest]

theorem scanned_iff (found : List JoinMatch) : Scanned t 0 found ↔ found = joins t := by
  have scanned : Scanned t 0 (joins t) := joins_from_scanned [] t 0
  constructor
  · exact fun other => scanned_unique other scanned
  · rintro rfl
    exact scanned

theorem join_match {join : JoinMatch} (mem : join ∈ joins t) : MatchIn t join :=
  chained_mem (joins_from_chained [] t 0) mem

theorem occurs_plain {s : Separator} {start : Nat} (occurs : s.OccursAt t start) :
    NoMark t start (start + s.text.length) ∧ start + s.text.length ≤ t.length := by
  obtain ⟨behind, parts⟩ := occurs
  have length := congrArg List.length parts
  rw [List.length_drop, List.length_append] at length
  obtain ⟨c, rest, shape, -⟩ := separator_head s
  have inked : 0 < s.text.length := by rw [shape]; exact Nat.succ_pos _
  refine ⟨?_, by omega⟩
  intro i c reached before found
  have shifted : (t.drop start)[i - start]? = some c := by
    rw [List.getElem?_drop, Nat.add_sub_cancel' reached, found]
  rw [parts, List.getElem?_append_left (by omega)] at shifted
  exact separator_quote_free s c (List.mem_of_getElem? shifted)

theorem literal_stop {span : Span} (literal : ClosedAt t span ∨ UnclosedAt t span) :
    (∃ quote, t[span.stop - 1]? = some quote ∧ isQuoteMark quote = true) ∨ span.stop = t.length := by
  rcases literal with ⟨front, inner, back, quote, rfl, mark, -, rfl⟩ |
    ⟨front, inner, quote, rfl, mark, -, rfl⟩
  · refine .inl ⟨quote, ?_, mark⟩
    have last : front ++ (quote :: inner ++ [quote]) ++ back = (front ++ quote :: inner) ++ quote :: back := by
      simp
    have stop : (front ++ (quote :: inner ++ [quote])).length - 1 = (front ++ quote :: inner).length := by
      simp
    rw [last]
    simp only [stop]
    simp
  · exact .inr rfl

theorem separator_whole {s : Separator} {start : Nat} (occurs : s.OccursAt t start) {span : Span}
    (literal : ClosedAt t span ∨ UnclosedAt t span) :
    (⟨start, start + s.text.length⟩ : Span).Within span ∨
      (⟨start, start + s.text.length⟩ : Span).Apart span := by
  obtain ⟨plain, inside⟩ := occurs_plain occurs
  obtain ⟨quote, found, mark, nonempty⟩ := literal_start literal
  have outside : ∀ i c, t[i]? = some c → isQuoteMark c = true →
      ¬ (start ≤ i ∧ i < start + s.text.length) := by
    intro i c found mark between
    rw [plain i c between.1 between.2 found] at mark
    cases mark
  have first := outside span.start quote found mark
  simp only [Span.Within, Span.Apart]
  rcases literal_stop literal with ⟨last, lastFound, lastMark⟩ | stop
  · have final := outside (span.stop - 1) last lastFound lastMark
    omega
  · omega

theorem scanned_literal {span : Span} (mem : span ∈ literalSpans t) : ClosedAt t span ∨ UnclosedAt t span :=
  tracked_literal ((tracked_iff t _).mpr rfl) mem

theorem separator_inside_or_apart {s : Separator} {start : Nat} (occurs : s.OccursAt t start) :
    (∃ span ∈ literalSpans t, (⟨start, start + s.text.length⟩ : Span).Within span) ∨
      ∀ span ∈ literalSpans t, (⟨start, start + s.text.length⟩ : Span).Apart span := by
  by_cases inside : ∃ span ∈ literalSpans t, (⟨start, start + s.text.length⟩ : Span).Within span
  · exact .inl inside
  · refine .inr fun span mem => ?_
    rcases separator_whole occurs (scanned_literal mem) with within | apart
    · exact absurd ⟨span, mem, within⟩ inside
    · exact apart

theorem match_whole {join : JoinMatch} (found : MatchIn t join) {span : Span} (mem : span ∈ literalSpans t) :
    join.Within span ∨ join.Apart span := by
  obtain ⟨s, behind, parts, -, same⟩ := found
  have whole := separator_whole ⟨behind, parts⟩ (scanned_literal mem)
  have stop : join.stop = join.start + s.text.length := by
    rw [congrArg (·.stop) same]
    exact Nat.add_comm _ _
  rw [← stop] at whole
  exact whole

theorem start_outside_iff {join : JoinMatch} (found : MatchIn t join) {span : Span} (mem : span ∈ literalSpans t) :
    span.contains join.start = false ↔ join.Apart span := by
  have nonempty := match_stop found
  have whole := match_whole found mem
  rw [Bool.eq_false_iff, Ne, contains_iff]
  simp only [Span.Within, Span.Apart] at whole ⊢
  omega

theorem top_level_apart (t : Text) : topLevelJoins t =
    (joins t).filter fun join => (literalSpans t).all fun span => decide (join.Apart span) := by
  rw [topLevelJoins]
  apply List.filter_congr
  intro join mem
  rw [Bool.eq_iff_iff, Bool.not_eq_true', List.any_eq_false, List.all_eq_true]
  refine forall₂_congr fun span literal => ?_
  rw [Bool.not_eq_true, decide_eq_true_eq, start_outside_iff (join_match mem) literal]

theorem chained_ordered {start : Nat} {found : List JoinMatch} (chained : Chained t start found) :
    found.Pairwise fun a b => a.stop ≤ b.start := by
  induction found generalizing start with
  | nil => exact .nil
  | cons join rest ih =>
      obtain ⟨-, -, others⟩ := chained
      exact List.pairwise_cons.mpr ⟨chained_behind others, ih others⟩

theorem match_slice {join : JoinMatch} (found : MatchIn t join) :
    ∃ s : Separator, t.slice join.start join.stop = s.text ∧ join.keyword = s.keyword := by
  obtain ⟨s, parts, -, keyword⟩ := match_parts found
  rw [← slice_drop t (Nat.le_of_lt (match_stop found))] at parts
  exact ⟨s, List.append_cancel_right parts, keyword⟩

end

structure JoinsFound (t : Text) (found : List JoinMatch) : Prop where
  outside : found = (joins t).filter fun join => (literalSpans t).all fun span => decide (join.Apart span)
  ordered : found.Pairwise fun a b => a.stop ≤ b.start

structure BytesFound (t : Text) (quoted : List Span) (found : List JoinMatch) : Prop where
  spans : quoted = (literalSpans t).map (Span.inBytes t)
  joins : found = (topLevelJoins t).map (JoinMatch.inBytes t)
  quotedOrdered : quoted.Pairwise fun a b => a.stop ≤ b.start
  ordered : found.Pairwise fun a b => a.stop ≤ b.start
  sliced : ∀ join ∈ found, ∃ s : Separator, t.sliceBytes? join.start join.stop = some s.text ∧
    join.keyword = s.keyword

theorem joins_found (t : Text) : JoinsFound t (topLevelJoins t) :=
  ⟨top_level_apart t, chained_ordered (top_level_chained t)⟩

theorem offset_le (t : Text) {start stop : Nat} (ordered : start ≤ stop) : t.offset start ≤ t.offset stop := by
  rw [offset, offset, ← take_slice t ordered, utf8_length_append]
  exact Nat.le_add_right _ _

theorem bytes_found (t : Text) : BytesFound t (literalBytesFrom 0 none t) (topLevelJoinBytes t) := by
  refine ⟨literal_spans_bytes t, top_level_join_bytes t, ?_, ?_, ?_⟩
  · rw [literal_spans_bytes, List.pairwise_map]
    exact ((tracked_iff t _).mpr rfl).ordered.imp (offset_le t)
  · rw [top_level_join_bytes, List.pairwise_map]
    exact (joins_found t).ordered.imp (offset_le t)
  · rw [top_level_join_bytes, List.forall_mem_map]
    intro join mem
    have found := chained_mem (top_level_chained t) mem
    obtain ⟨s, slice, keyword⟩ := match_slice found
    refine ⟨s, ?_, keyword⟩
    rw [← slice]
    exact slice_between t (Nat.le_of_lt (match_stop found))

theorem text_split_outside_literals (t : Text) :
    (∀ spans, QuotesTracked t 0 spans ↔ spans = literalSpans t) ∧
      (∀ found, Scanned t 0 found ↔ found = joins t) ∧
      (∀ (s : Separator) (start : Nat), s.OccursAt t start →
        (∃ span ∈ literalSpans t, (⟨start, start + s.text.length⟩ : Span).Within span) ∨
          ∀ span ∈ literalSpans t, (⟨start, start + s.text.length⟩ : Span).Apart span) ∧
      JoinsFound t (topLevelJoins t) ∧ BytesFound t (literalBytesFrom 0 none t) (topLevelJoinBytes t) :=
  ⟨tracked_iff t, scanned_iff, fun _ _ => separator_inside_or_apart, joins_found t, bytes_found t⟩

def quotedKeywords : Text := "\"it's é and x\" or 'c and d".toList

theorem quoted_keywords_split : QuotesTracked quotedKeywords 0 [⟨0, 14⟩, ⟨18, 26⟩] ∧
    Scanned quotedKeywords 0 [⟨⟨7, 12⟩, "and".toList⟩, ⟨⟨14, 18⟩, "or".toList⟩, ⟨⟨20, 25⟩, "and".toList⟩] ∧
    topLevelJoins quotedKeywords = [⟨⟨14, 18⟩, "or".toList⟩] ∧
    topLevelJoinBytes quotedKeywords = [⟨⟨15, 19⟩, "or".toList⟩] ∧
    ∃ s : Separator, s.OccursAt quotedKeywords 7 ∧
      ((∃ span ∈ literalSpans quotedKeywords, (⟨7, 7 + s.text.length⟩ : Span).Within span) ∨
        ∀ span ∈ literalSpans quotedKeywords, (⟨7, 7 + s.text.length⟩ : Span).Apart span) := by
  obtain ⟨spans, scans, whole, -, -⟩ := text_split_outside_literals quotedKeywords
  have spells : lower "and".toList = Join.and.keyword := rfl
  have occurs : (Separator.around ' ' "and".toList ' ' rfl spells rfl).OccursAt quotedKeywords 7 :=
    ⟨"x\" or 'c and d".toList, rfl⟩
  exact ⟨(spans _).mpr (by decide), (scans _).mpr (by decide), by decide, by decide, _, occurs, whole _ 7 occurs⟩

end SurveyLogic
