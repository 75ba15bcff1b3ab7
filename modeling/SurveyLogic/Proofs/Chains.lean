import SurveyLogic.Proofs.ClauseTexts

set_option autoImplicit false

namespace SurveyLogic

open Text

def MatchIn (t : Text) (join : JoinMatch) : Prop :=
  ∃ (s : Separator) (behind : Text), t.drop join.start = s.text ++ behind ∧ NoLead behind ∧
    join = s.found.shift join.start

def Separator.OccursAt (s : Separator) (t : Text) (position : Nat) : Prop :=
  ∃ behind, t.drop position = s.text ++ behind

-- The matches from a position on. Each is at the first separator behind the match before it.
inductive Scanned (t : Text) : Nat → List JoinMatch → Prop
  | done (start : Nat)
      (none : ∀ (s : Separator) (position : Nat), start ≤ position → ¬ s.OccursAt t position) :
      Scanned t start []
  | found (start : Nat) (join : JoinMatch) (rest : List JoinMatch) (here : MatchIn t join)
      (reached : start ≤ join.start)
      (leftmost : ∀ (s : Separator) (position : Nat), start ≤ position → position < join.start →
        ¬ s.OccursAt t position)
      (others : Scanned t join.stop rest) : Scanned t start (join :: rest)

def Chained (t : Text) : Nat → List JoinMatch → Prop
  | _, [] => True
  | start, join :: rest => start ≤ join.start ∧ MatchIn t join ∧ Chained t join.stop rest

theorem match_stop {t : Text} {join : JoinMatch} (found : MatchIn t join) : join.start < join.stop := by
  obtain ⟨s, behind, -, -, same⟩ := found
  obtain ⟨c, rest, parts, -⟩ := separator_head s
  have stop : join.stop = s.text.length + join.start := congrArg (·.stop) same
  rw [stop, parts, List.length_cons]
  omega

theorem match_parts {t : Text} {join : JoinMatch} (found : MatchIn t join) :
    ∃ s : Separator, t.drop join.start = s.text ++ t.drop join.stop ∧ NoLead (t.drop join.stop) ∧
      join.keyword = s.keyword := by
  obtain ⟨s, behind, parts, noLead, same⟩ := found
  have stop : join.stop = join.start + s.text.length := by
    rw [congrArg (·.stop) same]
    exact Nat.add_comm _ _
  have keyword : join.keyword = s.keyword := congrArg (·.keyword) same
  have rest : t.drop join.stop = behind := by
    rw [stop, ← List.drop_drop, parts, List.drop_left]
  rw [rest]
  exact ⟨s, parts, noLead, keyword⟩

theorem chained_earlier {t : Text} {start later : Nat} {found : List JoinMatch} (earlier : start ≤ later)
    (chained : Chained t later found) : Chained t start found := by
  cases found with
  | nil => trivial
  | cons join rest => exact ⟨Nat.le_trans earlier chained.1, chained.2⟩

theorem chained_filter {t : Text} {start : Nat} {found : List JoinMatch} (keep : JoinMatch → Bool)
    (chained : Chained t start found) : Chained t start (found.filter keep) := by
  induction found generalizing start with
  | nil => trivial
  | cons join rest ih =>
      obtain ⟨behind, here, others⟩ := chained
      by_cases kept : keep join = true
      · rw [List.filter_cons_of_pos kept]
        exact ⟨behind, here, ih others⟩
      · rw [List.filter_cons_of_neg kept]
        have passed := Nat.le_trans behind (Nat.le_of_lt (match_stop here))
        exact ih (chained_earlier passed others)

theorem scanned_earlier {t : Text} {start : Nat} {found : List JoinMatch}
    (none : ∀ s : Separator, ¬ s.OccursAt t start) (scanned : Scanned t (start + 1) found) :
    Scanned t start found := by
  cases scanned with
  | done _ noLater =>
      refine .done start fun s position reached => ?_
      rcases Nat.eq_or_lt_of_le reached with rfl | past
      · exact none s
      · exact noLater s position past
  | found _ join rest here reached leftmost others =>
      refine .found start join rest here (Nat.le_of_succ_le reached) (fun s position from_start before => ?_) others
      rcases Nat.eq_or_lt_of_le from_start with rfl | past
      · exact none s
      · exact leftmost s position past before

theorem joins_from_scanned (front t : Text) (skip : Nat) :
    Scanned (front ++ t) (front.length + skip) (joinsFrom front.length skip t) := by
  induction t generalizing front skip with
  | nil =>
      refine .done _ fun s position reached occurs => ?_
      obtain ⟨behind, parts⟩ := occurs
      obtain ⟨c, rest, shape, -⟩ := separator_head s
      rw [List.append_nil, List.drop_of_length_le (Nat.le_of_add_right_le reached), shape] at parts
      cases parts
  | cons c t ih =>
      have step := ih (front ++ [c])
      rw [List.append_assoc, List.singleton_append, List.length_append, List.length_singleton] at step
      cases skip with
      | succ skip =>
          rw [joinsFrom, show front.length + (skip + 1) = front.length + 1 + skip by omega]
          exact step skip
      | zero =>
          rw [joinsFrom]
          cases here : joinHere? (c :: t) with
          | none =>
              refine scanned_earlier (fun s occurs => ?_) (step 0)
              obtain ⟨behind, parts⟩ := occurs
              obtain ⟨size, found⟩ := join_here_occurs s behind
              rw [Nat.add_zero, List.drop_left] at parts
              rw [← parts, here] at found
              cases found
          | some result =>
              obtain ⟨keyword, size⟩ := result
              have positive := (join_here_size here).1
              obtain ⟨s, behind, parts, noLead, rfl, rfl⟩ := join_here_spec here
              rw [Option.elim_some]
              refine .found _ _ _ ⟨s, behind, ?_, noLead, ?_⟩ (Nat.le_refl _) ?_ ?_
              · rw [← parts]
                exact List.drop_left
              · simp [Separator.found, JoinMatch.shift, Nat.add_comm]
              · exact fun _ _ reached before => absurd before (Nat.not_lt.mpr reached)
              · rw [show front.length + s.text.length = front.length + 1 + (s.text.length - 1) by omega]
                exact step (s.text.length - 1)

theorem scanned_chained {t : Text} {start : Nat} {found : List JoinMatch} (scanned : Scanned t start found) :
    Chained t start found := by
  induction scanned with
  | done => trivial
  | found _ _ _ here reached _ _ ih => exact ⟨reached, here, ih⟩

theorem joins_from_chained (front t : Text) (skip : Nat) :
    Chained (front ++ t) (front.length + skip) (joinsFrom front.length skip t) :=
  scanned_chained (joins_from_scanned front t skip)

theorem top_level_chained (t : Text) : Chained t 0 (topLevelJoins t) := by
  rw [top_level_joins_open]
  exact chained_filter _ (joins_from_chained [] t 0)

theorem chained_behind {t : Text} {start : Nat} {found : List JoinMatch} (chained : Chained t start found) :
    ∀ join ∈ found, start ≤ join.start := by
  induction found generalizing start with
  | nil => simp
  | cons join rest ih =>
      obtain ⟨behind, here, others⟩ := chained
      rw [List.forall_mem_cons]
      refine ⟨behind, fun other mem => ?_⟩
      have past := ih others other mem
      have stops := match_stop here
      omega

theorem slice_drop (t : Text) {start stop : Nat} (ordered : start ≤ stop) :
    t.slice start stop ++ t.drop stop = t.drop start := by
  have whole := List.take_append_drop (stop - start) (t.drop start)
  rw [List.drop_drop, show start + (stop - start) = stop by omega] at whole
  rw [slice, List.drop_take]
  exact whole

inductive Ending : Text → Prop
  | text : Ending []
  | separator (s : Separator) (rest : Text) : Ending (s.text ++ rest)

theorem clause_first {t : Text} {start : Nat} {found : List JoinMatch} (chained : Chained t start found) :
    ∃ clause more, (clausesFrom t start found).head? = some clause ∧ t.drop start = clause ++ more ∧
      Ending more := by
  cases found with
  | nil => exact ⟨t.drop start, [], rfl, (List.append_nil _).symm, .text⟩
  | cons join rest =>
      obtain ⟨s, parts, -, -⟩ := match_parts chained.2.1
      exact ⟨_, t.drop join.start, rfl, (slice_drop t chained.1).symm, parts ▸ .separator s _⟩

theorem clauses_neutral {t : Text} {start : Nat} {found : List JoinMatch} (chained : Chained t start found)
    (neutral : ∀ clause ∈ clausesFrom t start found, openAfter none clause = none) :
    openAfter none (t.drop start) = none := by
  induction found generalizing start with
  | nil => exact neutral _ (List.mem_singleton.mpr rfl)
  | cons join rest ih =>
      obtain ⟨behind, here, others⟩ := chained
      rw [clausesFrom, List.forall_mem_cons] at neutral
      obtain ⟨s, parts, -, -⟩ := match_parts here
      rw [← slice_drop t behind, open_after_append, neutral.1, parts, open_after_append,
        open_after_quote_free (separator_quote_free s)]
      exact ih others neutral.2

end SurveyLogic
