import SurveyLogic.Proofs.Separators

set_option autoImplicit false

namespace SurveyLogic

open Text

def JoinMatch.shift (distance : Nat) (join : JoinMatch) : JoinMatch :=
  ⟨⟨join.start + distance, join.stop + distance⟩, join.keyword⟩

theorem joins_from_shift (position distance skip : Nat) (t : Text) :
    joinsFrom (position + distance) skip t = (joinsFrom position skip t).map (.shift distance) := by
  induction t generalizing position skip with
  | nil => rfl
  | cons c t ih =>
      have step : position + distance + 1 = position + 1 + distance := by omega
      cases skip with
      | succ skip =>
          rw [joinsFrom, joinsFrom, step]
          exact ih (position + 1) skip
      | zero =>
          rw [joinsFrom, joinsFrom]
          cases joinHere? (c :: t) with
          | none =>
              rw [Option.elim_none, Option.elim_none, step]
              exact ih (position + 1) 0
          | some found =>
              obtain ⟨keyword, size⟩ := found
              simp only [Option.elim_some, List.map_cons, JoinMatch.shift, step, ih]
              rw [Nat.add_right_comm]

theorem joins_from_zero (distance : Nat) (t : Text) :
    joinsFrom distance 0 t = (joins t).map (.shift distance) := by
  have moved := joins_from_shift 0 distance 0 t
  rwa [Nat.zero_add] at moved

theorem joins_from_skip (position : Nat) (t u : Text) :
    joinsFrom position t.length (t ++ u) = joinsFrom (position + t.length) 0 u := by
  induction t generalizing position with
  | nil => rfl
  | cons c t ih =>
      rw [List.length_cons, List.cons_append, joinsFrom, ih]
      congr 1
      omega

theorem joins_from_append (position skip : Nat) (t u : Text) (closed : Sealed t)
    (bound : skip ≤ t.length) (blankHead : ∀ c ∈ u.head?, isBlank c = true) :
    joinsFrom position skip (t ++ u) =
      joinsFrom position skip t ++ joinsFrom (position + t.length) 0 u := by
  induction t generalizing position skip with
  | nil =>
      have none : skip = 0 := Nat.le_zero.mp bound
      rw [none]
      rfl
  | cons c t ih =>
      have tailClosed := sealed_tail closed
      have size : position + 1 + t.length = position + (c :: t).length := by
        rw [List.length_cons]
        omega
      cases skip with
      | succ skip =>
          rw [List.cons_append, joinsFrom, joinsFrom,
            ih (position + 1) skip tailClosed (Nat.le_of_succ_le_succ bound), size]
      | zero =>
          have same := join_here_append closed (by simp) blankHead
          rw [List.cons_append] at same
          rw [List.cons_append, joinsFrom, joinsFrom, same]
          cases found : joinHere? (c :: t) with
          | none =>
              simp only [Option.elim_none, ih (position + 1) 0 tailClosed (Nat.zero_le _), size]
          | some result =>
              obtain ⟨keyword, length⟩ := result
              have fits := (join_here_size found).2
              rw [List.length_cons] at fits
              simp only [Option.elim_some, ih (position + 1) (length - 1) tailClosed (by omega), size,
                List.cons_append]

theorem joins_append {t u : Text} (closed : Sealed t) (blankHead : ∀ c ∈ u.head?, isBlank c = true) :
    joins (t ++ u) = joins t ++ (joins u).map (.shift t.length) := by
  rw [joins, joins_from_append 0 0 t u closed (Nat.zero_le _) blankHead, Nat.zero_add,
    joins_from_zero t.length]
  rfl

def Separator.found (s : Separator) : JoinMatch := ⟨⟨0, s.text.length⟩, s.keyword⟩

theorem joins_separator (s : Separator) {t : Text} (noLead : NoLead t) :
    joins (s.text ++ t) = s.found :: (joins t).map (.shift s.text.length) := by
  obtain ⟨c, rest, parts, -⟩ := separator_head s
  have here := join_here_found s t noLead
  rw [parts, List.cons_append] at here
  have skipped := joins_from_skip 1 rest t
  have size : 1 + rest.length = s.text.length := by
    rw [parts, List.length_cons]
    omega
  rw [size, joins_from_zero] at skipped
  rw [joins, parts, List.cons_append, joinsFrom, here]
  simp only [Option.elim_some, List.length_cons, Nat.zero_add, Nat.add_sub_cancel, skipped,
    Separator.found, parts]

theorem joins_from_mem {position skip : Nat} {t : Text} {join : JoinMatch}
    (mem : join ∈ joinsFrom position skip t) :
    ∃ (front : Text) (s : Separator) (rest : Text), t = front ++ s.text ++ rest ∧ NoLead rest ∧
      join = s.found.shift (position + front.length) := by
  induction t generalizing position skip with
  | nil => simp [joinsFrom] at mem
  | cons c t ih =>
      have later : ∀ skip, join ∈ joinsFrom (position + 1) skip t →
          ∃ (front : Text) (s : Separator) (rest : Text), c :: t = front ++ s.text ++ rest ∧
            NoLead rest ∧ join = s.found.shift (position + front.length) := by
        intro skip memTail
        obtain ⟨front, s, rest, rfl, noLead, rfl⟩ := ih memTail
        refine ⟨c :: front, s, rest, rfl, noLead, ?_⟩
        rw [List.length_cons]
        congr 1
        omega
      cases skip with
      | succ skip => exact later skip mem
      | zero =>
          rw [joinsFrom] at mem
          cases found : joinHere? (c :: t) with
          | none =>
              rw [found, Option.elim_none] at mem
              exact later 0 mem
          | some result =>
              obtain ⟨keyword, size⟩ := result
              rw [found, Option.elim_some, List.mem_cons] at mem
              rcases mem with here | memTail
              · obtain ⟨s, rest, parts, noLead, rfl, rfl⟩ := join_here_spec found
                refine ⟨[], s, rest, parts, noLead, ?_⟩
                rw [here]
                simp [Separator.found, JoinMatch.shift, Nat.add_comm]
              · exact later _ memTail

theorem top_level_joins_open (t : Text) :
    topLevelJoins t = (joins t).filter fun join => (openAfter none (t.take join.start)).isNone := by
  apply List.filter_congr
  intro join mem
  obtain ⟨front, s, rest, parts, -, rfl⟩ := joins_from_mem mem
  obtain ⟨c, behind, sParts, blank⟩ := separator_head s
  have start : (s.found.shift (0 + front.length)).start = front.length := by
    simp [Separator.found, JoinMatch.shift]
  have split : t = front ++ (c :: (behind ++ rest)) := by
    rw [parts, sParts]
    simp
  have bound : front.length < t.length := by
    rw [split]
    simp
  have here : t[front.length] = c := by
    simp [split]
  have plain : isQuoteMark t[front.length] = false := by
    rw [here]
    exact blank_is_no_quote blank
  have started : Opened 0 none := by simp [Opened]
  have spans := literal_spans_contain t front.length bound plain started
  rw [Nat.zero_add, Option.map_none] at spans
  rw [start, literalSpans, spans]
  cases openAfter none (t.take front.length) <;> rfl

theorem top_level_joins_append {t u : Text} (closed : Sealed t) (neutral : openAfter none t = none)
    (blankHead : ∀ c ∈ u.head?, isBlank c = true) :
    topLevelJoins (t ++ u) = topLevelJoins t ++ (topLevelJoins u).map (.shift t.length) := by
  rw [top_level_joins_open, joins_append closed blankHead, List.filter_append,
    top_level_joins_open, top_level_joins_open, List.filter_map]
  congr 1
  · apply List.filter_congr
    intro join mem
    obtain ⟨front, s, rest, rfl, -, rfl⟩ := joins_from_mem mem
    rw [List.take_append_of_le_length]
    simp [Separator.found, JoinMatch.shift]
  · congr 1
    apply List.filter_congr
    intro join _
    rw [Function.comp_apply, JoinMatch.shift, Nat.add_comm, List.take_length_add_append,
      open_after_append, neutral]

theorem top_level_joins_separator (s : Separator) {t : Text} (noLead : NoLead t) :
    topLevelJoins (s.text ++ t) = s.found :: (topLevelJoins t).map (.shift s.text.length) := by
  have outside : openAfter none s.text = none := open_after_quote_free (separator_quote_free s)
  rw [top_level_joins_open, joins_separator s noLead, List.filter_cons_of_pos,
    top_level_joins_open, List.filter_map]
  · congr 2
    apply List.filter_congr
    intro join _
    rw [Function.comp_apply, JoinMatch.shift, Nat.add_comm, List.take_length_add_append,
      open_after_append, outside]
  · simp [Separator.found]

def spelledJoins (t : Text) : List Text := (topLevelJoins t).map JoinMatch.keyword

def topClauses (t : Text) : List Text := clauses t (topLevelJoins t)

theorem clauses_from_shift (front t : Text) (start : Nat) (found : List JoinMatch) :
    clausesFrom (front ++ t) (start + front.length) (found.map (.shift front.length)) =
      clausesFrom t start found := by
  induction found generalizing start with
  | nil => simp [clausesFrom, Nat.add_comm start]
  | cons join found ih =>
      rw [List.map_cons, clausesFrom, clausesFrom]
      congr 1
      · rw [slice, slice, JoinMatch.shift, Nat.add_comm join.start, List.take_length_add_append,
          Nat.add_comm start, List.drop_length_add_append]
      · exact ih join.stop

theorem clauses_from_append (t : Text) (start : Nat) (left right : List JoinMatch) (join : JoinMatch)
    (ordered : ∀ other ∈ left, other.start ≤ join.start) :
    clausesFrom t start (left ++ join :: right) =
      clausesFrom (t.take join.start) start left ++ clausesFrom t join.stop right := by
  induction left generalizing start with
  | nil => rfl
  | cons other left ih =>
      rw [List.forall_mem_cons] at ordered
      rw [List.cons_append, clausesFrom, clausesFrom, ih other.stop ordered.2, List.cons_append]
      congr 1
      rw [slice, slice, List.take_take, Nat.min_eq_left ordered.1]

theorem top_level_joins_mem {t : Text} {join : JoinMatch} (mem : join ∈ topLevelJoins t) :
    join ∈ joins t := (List.mem_filter.mp mem).1

theorem join_within {t : Text} {join : JoinMatch} (mem : join ∈ topLevelJoins t) :
    join.start ≤ t.length := by
  obtain ⟨front, s, rest, rfl, -, rfl⟩ := joins_from_mem (top_level_joins_mem mem)
  simp [Separator.found, JoinMatch.shift]

theorem blank_head_separator (s : Separator) (t : Text) :
    ∀ c ∈ (s.text ++ t).head?, isBlank c = true := by
  obtain ⟨c, rest, parts, blank⟩ := separator_head s
  simp [parts, blank]

theorem top_level_joins_spliced {t u : Text} (s : Separator) (closed : Sealed t)
    (neutral : openAfter none t = none) (noLead : NoLead u) :
    topLevelJoins (t ++ s.text ++ u) = topLevelJoins t ++ s.found.shift t.length ::
      (topLevelJoins u).map (.shift (t ++ s.text).length) := by
  rw [List.append_assoc, top_level_joins_append closed neutral (blank_head_separator s u),
    top_level_joins_separator s noLead, List.map_cons, List.map_map]
  congr 3
  funext join
  simp only [Function.comp_apply, JoinMatch.shift, List.length_append, JoinMatch.mk.injEq,
    Span.mk.injEq, and_true]
  omega

theorem spelled_joins_spliced {t u : Text} (s : Separator) (closed : Sealed t)
    (neutral : openAfter none t = none) (noLead : NoLead u) :
    spelledJoins (t ++ s.text ++ u) = spelledJoins t ++ s.keyword :: spelledJoins u := by
  rw [spelledJoins, top_level_joins_spliced s closed neutral noLead, List.map_append, List.map_cons,
    List.map_map]
  rfl

theorem top_clauses_spliced {t u : Text} (s : Separator) (closed : Sealed t)
    (neutral : openAfter none t = none) (noLead : NoLead u) :
    topClauses (t ++ s.text ++ u) = topClauses t ++ topClauses u := by
  have start : (s.found.shift t.length).start = t.length := by simp [Separator.found, JoinMatch.shift]
  have stop : (s.found.shift t.length).stop = 0 + (t ++ s.text).length := by
    simp [Separator.found, JoinMatch.shift, Nat.add_comm]
  rw [topClauses, clauses, top_level_joins_spliced s closed neutral noLead, clauses_from_append, start,
    stop, clauses_from_shift, List.append_assoc, List.take_left]
  · rfl
  · intro other mem
    rw [start]
    exact join_within mem

end SurveyLogic
