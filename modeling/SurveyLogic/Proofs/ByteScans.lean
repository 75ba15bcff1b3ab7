import SurveyLogic.Proofs.Leftmost
import SurveyLogic.Proofs.Offsets
import SurveyLogic.Proofs.Selections

set_option autoImplicit false

namespace SurveyLogic

open Text

def Span.inBytes (whole : Text) (s : Span) : Span := ⟨whole.offset s.start, whole.offset s.stop⟩

def JoinMatch.inBytes (whole : Text) (join : JoinMatch) : JoinMatch :=
  ⟨join.toSpan.inBytes whole, join.keyword⟩

def literalBytesFrom (offset : Nat) (opened : Option (Char × Nat)) : Text → List Span
  | [] =>
    match opened with
    | some (_, start) => [⟨start, offset⟩]
    | none => []
  | c :: t =>
    match opened with
    | some (quote, start) =>
      if c = quote then ⟨start, offset + 1⟩ :: literalBytesFrom (offset + c.utf8Size) none t
      else literalBytesFrom (offset + c.utf8Size) opened t
    | none =>
      literalBytesFrom (offset + c.utf8Size) (if isQuoteMark c then some (c, offset) else none) t

def joinBytesFrom (offset skip : Nat) : Text → List JoinMatch
  | [] => []
  | c :: t =>
    match skip with
    | skip + 1 => joinBytesFrom (offset + c.utf8Size) skip t
    | 0 =>
      (joinHere? (c :: t)).elim (joinBytesFrom (offset + c.utf8Size) 0 t) fun (keyword, length) =>
        ⟨⟨offset, offset + utf8Length ((c :: t).take length)⟩, keyword⟩ ::
          joinBytesFrom (offset + c.utf8Size) (length - 1) t

def topLevelJoinBytes (t : Text) : List JoinMatch :=
  let quoted := literalBytesFrom 0 none t
  (joinBytesFrom 0 0 t).filter fun join => !quoted.any (·.contains join.start)

def Grammar.callFrom? (g : Grammar) (offset : Nat) : Text → Option (Span × Text × Text)
  | [] => none
  | c :: t =>
    match g.selectionHere? (c :: t) with
    | some found =>
      some (⟨offset, offset + (utf8Length (c :: t) - utf8Length found.after)⟩, found.reference, found.choice)
    | none => g.callFrom? (offset + c.utf8Size) t

theorem offset_contains {whole : Text} (s : Span) {position : Nat} (bound : position < whole.length) :
    (s.inBytes whole).contains (whole.offset position) = s.contains position := by
  have starts : whole.offset s.start ≤ whole.offset position ↔ s.start ≤ position := by
    rw [← Nat.not_lt, offset_lt_iff bound, Nat.not_lt]
  simp only [Span.contains, Span.inBytes, starts, offset_lt_iff bound]

theorem quote_mark_width {c : Char} (mark : isQuoteMark c = true) : c.utf8Size = 1 := by
  rcases quote_mark_iff.mp mark with rfl | rfl <;> rfl

section

variable {whole front t : Text}

theorem offset_front (parts : whole = front ++ t) : whole.offset front.length = utf8Length front := by
  rw [parts, offset, List.take_left]

theorem front_step {c : Char} (parts : whole = front ++ c :: t) :
    whole = (front ++ [c]) ++ t ∧ (front ++ [c]).length = front.length + 1 ∧
      utf8Length (front ++ [c]) = utf8Length front + c.utf8Size := by
  refine ⟨?_, List.length_append, utf8_length_append _ _⟩
  rw [parts, List.append_assoc, List.singleton_append]

theorem literal_bytes (parts : whole = front ++ t) {opened : Option (Char × Nat)}
    (started : Opened front.length opened) :
    literalBytesFrom (utf8Length front) (opened.map fun state => (state.1, whole.offset state.2)) t =
      (literalSpansFrom front.length opened t).map (Span.inBytes whole) := by
  induction t generalizing front opened with
  | nil =>
      cases opened with
      | none => rfl
      | some state => simp [literalBytesFrom, literalSpansFrom, Span.inBytes, offset_front parts]
  | cons c t ih =>
      have here := offset_front parts
      obtain ⟨next, length, bytes⟩ := front_step parts
      have behind := offset_front next
      have opens := opened_step started c
      rw [← length] at opens
      have rest := ih next opens
      rw [length, bytes] at rest behind
      cases opened with
      | none =>
          rw [Option.map_none, literalBytesFrom, literalSpansFrom]
          by_cases mark : isQuoteMark c = true
          · rw [openedAfter, if_pos mark] at rest
            rw [if_pos mark, if_pos mark, ← rest, Option.map_some, here]
          · rw [openedAfter, if_neg mark] at rest
            rw [if_neg mark, if_neg mark, ← rest, Option.map_none]
      | some before =>
          rw [Option.map_some, literalBytesFrom, literalSpansFrom]
          by_cases closes : c = before.1
          · have mark := (started before rfl).2
            rw [← closes] at mark
            rw [openedAfter, if_pos closes] at rest
            rw [if_pos closes, if_pos closes, List.map_cons, ← rest, Span.inBytes, behind,
              quote_mark_width mark]
            rfl
          · rw [openedAfter, if_neg closes] at rest
            rw [if_neg closes, if_neg closes, ← rest, Option.map_some]

theorem join_bytes (parts : whole = front ++ t) (skip : Nat) :
    joinBytesFrom (utf8Length front) skip t =
      (joinsFrom front.length skip t).map (JoinMatch.inBytes whole) := by
  induction t generalizing front skip with
  | nil => rfl
  | cons c t ih =>
      obtain ⟨next, length, bytes⟩ := front_step parts
      have step := ih next
      rw [length, bytes] at step
      cases skip with
      | succ skip => exact step skip
      | zero =>
          rw [joinBytesFrom, joinsFrom]
          cases joinHere? (c :: t) with
          | none => exact step 0
          | some result =>
              obtain ⟨keyword, length⟩ := result
              have stops : whole.offset (front.length + length) =
                  utf8Length front + utf8Length ((c :: t).take length) := by
                rw [parts, offset, List.take_length_add_append, utf8_length_append]
              rw [Option.elim_some, Option.elim_some, List.map_cons, ← step, JoinMatch.inBytes, Span.inBytes,
                stops, offset_front parts]

end

theorem match_start {t : Text} {join : JoinMatch} (found : MatchIn t join) : join.start < t.length := by
  obtain ⟨s, behind, parts, -, -⟩ := found
  obtain ⟨c, rest, shape, -⟩ := separator_head s
  have length := congrArg List.length parts
  rw [List.length_drop, shape, List.length_append, List.length_cons] at length
  omega

theorem literal_spans_bytes (t : Text) :
    literalBytesFrom 0 none t = (literalSpans t).map (Span.inBytes t) := by
  have parts : t = [] ++ t := rfl
  have closed : Opened 0 none := by simp [Opened]
  exact literal_bytes parts closed

theorem top_level_join_bytes (t : Text) :
    topLevelJoinBytes t = (topLevelJoins t).map (JoinMatch.inBytes t) := by
  have parts : t = [] ++ t := rfl
  have found : joinBytesFrom 0 0 t = (joins t).map (JoinMatch.inBytes t) := join_bytes parts 0
  rw [topLevelJoinBytes, topLevelJoins, literal_spans_bytes, found, List.filter_map]
  congr 1
  apply List.filter_congr
  intro join mem
  have bound := match_start (chained_mem (joins_from_chained [] t 0) mem)
  have contained : (Span.contains · (t.offset join.start)) ∘ Span.inBytes t = (·.contains join.start) :=
    funext fun span => offset_contains span bound
  rw [Function.comp_apply, List.any_map, ← contained]
  rfl

section

variable {style : ReferenceStyle}

theorem trimmed_suffix {rest t : Text} (front : Text) (parts : t.trimStart = front ++ rest) : rest <:+ t :=
  List.IsSuffix.trans ⟨front, parts.symm⟩ (List.dropWhile_suffix isBlank)

theorem here_parts {t : Text} {found : SelectionMatch} (matched : style.grammar.selectionHere? t = some found) :
    found.before = [] ∧ found.after <:+ t := by
  simp only [Grammar.selectionHere?, Option.bind_eq_bind, Option.bind_eq_some_iff, Prod.exists] at matched
  obtain ⟨arguments, opened, reference, behindName, nameRead, behindComma, comma, choice, behindChoice,
    choiceRead, after, closed, whole⟩ := matched
  cases whole
  obtain ⟨_, -, choiceParts⟩ := quoted_found choiceRead
  have behindOpen : arguments <:+ t := ⟨_, (after_eq_some.mp opened).symm⟩
  have name := trimmed_suffix reference (reference_found nameRead).1
  have separator := trimmed_suffix [','] (after_eq_some.mp comma)
  have quoted := trimmed_suffix choice choiceParts
  have close := trimmed_suffix [')'] (after_eq_some.mp closed)
  exact ⟨rfl, close.trans (quoted.trans (separator.trans (name.trans behindOpen)))⟩

theorem call_from {whole front t : Text} (parts : whole = front ++ t) :
    style.grammar.callFrom? (utf8Length front) t =
      (style.grammar.selection? t).map fun found =>
        (⟨utf8Length (front ++ found.before), whole.utf8Length - utf8Length found.after⟩, found.reference,
          found.choice) := by
  induction t generalizing front with
  | nil => rfl
  | cons c t ih =>
      rw [Grammar.callFrom?, Grammar.selection?]
      cases matched : style.grammar.selectionHere? (c :: t) with
      | some found =>
          obtain ⟨start, call, behind⟩ := here_parts matched
          have width := congrArg utf8Length behind
          rw [utf8_length_append] at width
          have stop : utf8Length front + (utf8Length (c :: t) - utf8Length found.after) =
              utf8Length whole - utf8Length found.after := by
            rw [parts, utf8_length_append]
            omega
          simp only [stop, Option.map_some, start, List.append_nil]
      | none =>
          obtain ⟨next, -, bytes⟩ := front_step parts
          have later := ih next
          rw [bytes] at later
          simp only [later, Option.map_map]
          congr 1
          funext found
          simp

theorem call_slices {clause : Text} {found : SelectionMatch}
    (matched : style.grammar.selection? clause = some found) :
    clause.sliceBytes? 0 (utf8Length found.before) = some found.before ∧
      clause.sliceBytes? (clause.utf8Length - utf8Length found.after) clause.utf8Length = some found.after := by
  obtain ⟨here, parts, hereMatched⟩ := selection_split matched
  obtain ⟨-, call, behind⟩ := here_parts hereMatched
  have whole : clause = (found.before ++ call) ++ found.after := by rw [parts, ← behind, List.append_assoc]
  have start : clause.utf8Length - utf8Length found.after = utf8Length (found.before ++ call) := by
    rw [whole, utf8_length_append, Nat.add_sub_cancel]
  constructor
  · exact slice_bytes_iff.mpr ⟨[], here, parts, rfl, rfl⟩
  · exact slice_bytes_iff.mpr ⟨_, [], by rw [List.append_nil, ← whole], start, by rw [← whole]⟩

end

end SurveyLogic
