import SurveyLogic.Proofs.Splitting

/- Join keywords by where they stand: between blanks and outside every literal. Scanning takes the
   matches from the left and no two overlap, so it may pass over a keyword, but then over one right
   behind another. -/

set_option autoImplicit false

namespace SurveyLogic

open Text

inductive JoinAt : Text → Text → Text → Prop
  | mk (front keyword rest : Text) (before after : Char) (join : Join)
      (blankBefore : isBlank before = true) (spells : keyword.lower = join.keyword)
      (blankAfter : isBlank after = true) (outside : openAfter none front = none) :
      JoinAt (front ++ before :: (keyword ++ after :: rest)) front keyword

theorem join_here_occurs (s : Separator) (rest : Text) :
    ∃ size, joinHere? (s.text ++ rest) = some (s.keyword, size) := by
  obtain ⟨trail, trailBlank, parts, noLead⟩ := trim_start_spec rest
  generalize trimStart rest = core at parts noLead
  subst parts
  have text : s.text ++ (trail ++ core) = (s.widen [] trail rfl trailBlank).text ++ core := by
    simp [Separator.widen, Separator.text]
  rw [text]
  exact ⟨_, join_here_found (s.widen [] trail rfl trailBlank) core noLead⟩

theorem join_here_at {before after : Char} {keyword : Text} {join : Join} (rest : Text)
    (blankBefore : isBlank before = true) (spells : keyword.lower = join.keyword)
    (blankAfter : isBlank after = true) :
    ∃ size, joinHere? (before :: (keyword ++ after :: rest)) = some (keyword, size) := by
  have text : before :: (keyword ++ after :: rest) =
      (Separator.around before keyword after blankBefore spells blankAfter).text ++ rest := by
    simp [Separator.around, Separator.text]
  rw [text]
  exact join_here_occurs _ rest

theorem joins_from_cover (position skip : Nat) {front keyword : Text} {before after : Char} {join : Join}
    (rest : Text) (blankBefore : isBlank before = true) (spells : keyword.lower = join.keyword)
    (blankAfter : isBlank after = true) (bound : skip ≤ front.length) :
    ∃ found ∈ joinsFrom position skip (front ++ before :: (keyword ++ after :: rest)),
      found.start ≤ position + front.length ∧ position + front.length < found.stop := by
  induction front generalizing position skip with
  | nil =>
      obtain ⟨size, here⟩ := join_here_at rest blankBefore spells blankAfter
      have positive := (join_here_size here).1
      rw [Nat.le_zero.mp bound, List.nil_append, joinsFrom, here, Option.elim_some]
      refine ⟨_, List.mem_cons_self, Nat.le_add_right _ _, ?_⟩
      exact Nat.add_lt_add_left positive position
  | cons c front ih =>
      have later : ∀ skip ≤ front.length,
          ∃ found ∈ joinsFrom (position + 1) skip (front ++ before :: (keyword ++ after :: rest)),
            found.start ≤ position + (c :: front).length ∧
            position + (c :: front).length < found.stop := by
        intro skip fits
        obtain ⟨found, mem, starts, stops⟩ := ih (position + 1) skip fits
        rw [List.length_cons]
        exact ⟨found, mem, by omega, by omega⟩
      cases skip with
      | succ skip => exact later skip (Nat.le_of_succ_le_succ bound)
      | zero =>
          rw [List.cons_append, joinsFrom]
          cases joinHere? (c :: (front ++ before :: (keyword ++ after :: rest))) with
          | none => exact later 0 (Nat.zero_le _)
          | some result =>
              obtain ⟨word, size⟩ := result
              rw [Option.elim_some]
              by_cases past : size ≤ front.length + 1
              · obtain ⟨found, mem, spans⟩ := later (size - 1) (by omega)
                exact ⟨found, List.mem_cons_of_mem _ mem, spans⟩
              · refine ⟨_, List.mem_cons_self, Nat.le_add_right _ _, ?_⟩
                rw [List.length_cons]
                simp only
                omega

theorem open_after_mark {opened : Option Char} {t : Text} {quote : Char}
    (marks : ∀ q ∈ opened, isQuoteMark q = true) (found : openAfter opened t = some quote) :
    isQuoteMark quote = true := by
  induction t generalizing opened with
  | nil => exact marks quote found
  | cons c t ih =>
      apply ih _ found
      intro q mem
      cases opened with
      | none =>
          rw [quoteAfter] at mem
          by_cases mark : isQuoteMark c
          · rw [if_pos mark] at mem
            exact Option.mem_some.mp mem ▸ mark
          · rw [if_neg mark] at mem
            cases mem
      | some inner =>
          rw [quoteAfter] at mem
          by_cases closes : c = inner
          · rw [if_pos closes] at mem
            cases mem
          · rw [if_neg closes] at mem
            exact marks q mem

theorem open_before_quote_free {t w : Text} (free : QuoteFree w)
    (outside : openAfter none (t ++ w) = none) : openAfter none t = none := by
  rw [open_after_append] at outside
  cases opened : openAfter none t with
  | none => rfl
  | some quote =>
      have mark := open_after_mark (by simp) opened
      have absent : quote ∉ w := by
        intro mem
        rw [free quote mem] at mark
        cases mark
      rw [opened, open_after_inside absent] at outside
      cases outside

theorem front_between {front back lead middle rest : Text} (parts : front ++ back = lead ++ middle ++ rest)
    (reach : lead.length ≤ front.length) (covers : front.length ≤ lead.length + middle.length) :
    ∃ between after, front = lead ++ between ∧ middle = between ++ after := by
  rw [List.append_assoc] at parts
  rcases List.append_eq_append_iff.mp parts with ⟨excess, leadEq, -⟩ | ⟨between, frontEq, behind⟩
  · have empty : excess = [] := by
      rw [leadEq, List.length_append] at reach
      exact List.eq_nil_of_length_eq_zero (by omega)
    rw [empty, List.append_nil] at leadEq
    exact ⟨[], middle, by rw [leadEq, List.append_nil], rfl⟩
  · rcases List.append_eq_append_iff.mp behind with ⟨excess, betweenEq, -⟩ | ⟨after, middleEq, -⟩
    · have empty : excess = [] := by
        rw [frontEq, betweenEq, List.length_append, List.length_append] at covers
        exact List.eq_nil_of_length_eq_zero (by omega)
      rw [empty, List.append_nil] at betweenEq
      exact ⟨between, [], frontEq, by rw [betweenEq, List.append_nil]⟩
    · exact ⟨between, after, frontEq, middleEq⟩

-- A match covers every keyword, its own or the one that the match before it ends at.
theorem join_at_covered {t front keyword : Text} (occurs : JoinAt t front keyword) :
    ∃ (lead : Text) (s : Separator) (rest : Text), t = lead ++ s.text ++ rest ∧ NoLead rest ∧
      s.found.shift lead.length ∈ topLevelJoins t ∧ lead.length ≤ front.length ∧
      front.length < lead.length + s.text.length := by
  obtain ⟨front, keyword, rest, before, after, join, blankBefore, spells, blankAfter, outside⟩ := occurs
  obtain ⟨found, mem, starts, stops⟩ :=
    joins_from_cover 0 0 rest blankBefore spells blankAfter (Nat.zero_le front.length)
  obtain ⟨lead, s, behind, parts, noLead, rfl⟩ := joins_from_mem mem
  rw [Nat.zero_add] at mem starts stops
  have reach : lead.length ≤ front.length := by simpa [JoinMatch.shift, Separator.found] using starts
  have covers : front.length < lead.length + s.text.length := by
    simpa [JoinMatch.shift, Separator.found, Nat.add_comm] using stops
  refine ⟨lead, s, behind, parts, noLead, ?_, reach, covers⟩
  obtain ⟨between, _, frontEq, textEq⟩ := front_between parts reach (Nat.le_of_lt covers)
  have free : QuoteFree between := by
    have all := separator_quote_free s
    rw [textEq, quote_free_append] at all
    exact all.1
  rw [frontEq] at outside
  have start : (s.found.shift lead.length).start = lead.length := by
    simp [JoinMatch.shift, Separator.found]
  rw [top_level_joins_open, List.mem_filter]
  refine ⟨mem, ?_⟩
  rw [start, parts, List.append_assoc, List.take_left, open_before_quote_free free outside]
  rfl

def JoinMatch.keywordStart (t : Text) (join : JoinMatch) : Nat :=
  join.start + (blanks (t.drop join.start)).length

theorem keyword_start (s : Separator) (lead rest : Text) :
    (s.found.shift lead.length).keywordStart (lead ++ s.text ++ rest) = lead.length + s.lead.length := by
  have start : (s.found.shift lead.length).start = lead.length := by
    simp [JoinMatch.shift, Separator.found]
  have behind : lead ++ s.text ++ rest = lead ++ (s.lead ++ (s.keyword ++ (s.trail ++ rest))) := by
    simp [Separator.text]
  rw [JoinMatch.keywordStart, start, behind, List.drop_left,
    blanks_core _ _ s.leadBlank (keyword_no_lead s.spells _)]

theorem separator_join_at (s : Separator) {lead : Text} (rest : Text) (outside : openAfter none lead = none) :
    ∃ front, JoinAt (lead ++ s.text ++ rest) front s.keyword ∧
      front.length + 1 = lead.length + s.lead.length := by
  obtain ⟨blanks, before, leadEq⟩ := (List.eq_nil_or_concat s.lead).resolve_left s.leadInked
  obtain ⟨after, trail, trailEq⟩ := List.exists_cons_of_ne_nil s.trailInked
  have leadBlank := s.leadBlank
  have trailBlank := s.trailBlank
  rw [List.concat_eq_append] at leadEq
  rw [leadEq, all_blank_append, Bool.and_eq_true, all_blank_cons, Bool.and_eq_true] at leadBlank
  rw [trailEq, all_blank_cons, Bool.and_eq_true] at trailBlank
  have textEq : s.text = blanks ++ before :: (s.keyword ++ after :: trail) := by
    simp [Separator.text, leadEq, trailEq]
  have stillOutside : openAfter none (lead ++ blanks) = none := by
    rw [open_after_append, outside]
    exact open_after_quote_free (all_blank_quote_free leadBlank.1)
  have occurs := JoinAt.mk (lead ++ blanks) s.keyword (trail ++ rest) before after s.join leadBlank.2.1
    s.spells trailBlank.1 stillOutside
  refine ⟨lead ++ blanks, ?_, by simp [leadEq, Nat.add_assoc]⟩
  rw [textEq]
  simpa using occurs

theorem join_at_of_found {t : Text} {found : JoinMatch} (mem : found ∈ topLevelJoins t) :
    ∃ front, JoinAt t front found.keyword ∧ front.length + 1 = found.keywordStart t := by
  rw [top_level_joins_open, List.mem_filter] at mem
  obtain ⟨here, outside⟩ := mem
  obtain ⟨lead, s, rest, rfl, -, rfl⟩ := joins_from_mem here
  rw [Nat.zero_add] at outside ⊢
  have start : (s.found.shift lead.length).start = lead.length := by
    simp [JoinMatch.shift, Separator.found]
  rw [start, List.append_assoc, List.take_left, Option.isNone_iff_eq_none] at outside
  rw [keyword_start]
  exact separator_join_at s rest outside

theorem separator_outside {front : Text} (s : Separator) (rest : Text)
    (outside : openAfter none front = none) : topLevelJoins (front ++ s.text ++ rest) ≠ [] := by
  obtain ⟨lead, occurs, -⟩ := separator_join_at s rest outside
  obtain ⟨_, _, _, -, -, found, -, -⟩ := join_at_covered occurs
  exact List.ne_nil_of_mem found

def Calm (t : Text) : Prop := ∀ front keyword, ¬ JoinAt t front keyword

theorem calm_top_level {t : Text} (calm : Calm t) : topLevelJoins t = [] := by
  apply List.eq_nil_iff_forall_not_mem.mpr
  intro found mem
  obtain ⟨front, occurs, -⟩ := join_at_of_found mem
  exact calm front found.keyword occurs

theorem calm_nil : Calm [] := by
  intro front keyword occurs
  generalize textEq : ([] : Text) = t at occurs
  cases occurs
  simp at textEq

def StartsInKeyword (t : Text) : Prop :=
  ∃ (keyword : Text) (join : Join) (rest : Text), t = keyword ++ rest ∧ keyword.lower = join.keyword

structure KeywordFree (c : Char) : Prop where
  first : c.toLower ≠ 'a' ∧ c.toLower ≠ 'o'
  last : c.toLower ≠ 'd' ∧ c.toLower ≠ 'r'

theorem quote_keyword_free {c : Char} (quote : isQuoteMark c = true) : KeywordFree c := by
  rcases quote_mark_iff.mp quote with rfl | rfl
  · exact ⟨by decide, by decide⟩
  · exact ⟨by decide, by decide⟩

theorem no_letter_keyword_free {c : Char} (same : c.toLower = c) (apart : c ∉ ['a', 'o', 'd', 'r']) :
    KeywordFree c := by
  simp only [List.mem_cons, List.not_mem_nil, or_false, not_or] at apart
  obtain ⟨a, o, d, r⟩ := apart
  constructor
  · rw [same]
    exact ⟨a, o⟩
  · rw [same]
    exact ⟨d, r⟩

theorem digit_keyword_free {c : Char} (digit : isDigit c = true) : KeywordFree c := by
  apply no_letter_keyword_free (digit_lower digit)
  intro mem
  simp only [List.mem_cons, List.not_mem_nil, or_false] at mem
  rcases mem with rfl | rfl | rfl | rfl <;> exact absurd digit (by decide)

theorem blank_keyword_free {c : Char} (blank : isBlank c = true) : KeywordFree c := by
  apply no_letter_keyword_free (blank_lower blank)
  intro mem
  have letters : Ink ['a', 'o', 'd', 'r'] := by decide
  rw [letters c mem] at blank
  cases blank

theorem keyword_head {t : Text} (starts : StartsInKeyword t) :
    ∃ c ∈ t.head?, c.toLower = 'a' ∨ c.toLower = 'o' := by
  obtain ⟨keyword, join, rest, rfl, spells⟩ := starts
  cases keyword with
  | nil => cases join <;> cases spells
  | cons c keyword =>
      refine ⟨c, rfl, ?_⟩
      have same := congrArg List.head? spells
      cases join with
      | and => exact .inl (by simpa [lower, Join.keyword] using same)
      | or => exact .inr (by simpa [lower, Join.keyword] using same)

theorem keyword_last {t : Text} (ends : EndsInKeyword t) :
    ∃ c ∈ t.getLast?, c.toLower = 'd' ∨ c.toLower = 'r' := by
  obtain ⟨front, blank, keyword, join, rfl, -, spells⟩ := ends
  rcases List.eq_nil_or_concat keyword with rfl | ⟨start, c, rfl⟩
  · cases join <;> cases spells
  · have last : (front ++ blank :: start.concat c).getLast? = some c := by
      rw [List.concat_eq_append, ← List.cons_append, ← List.append_assoc, List.getLast?_concat]
    refine ⟨c, last, ?_⟩
    have same := congrArg List.getLast? spells
    cases join with
    | and => exact .inl (by simpa [lower, Join.keyword] using same)
    | or => exact .inr (by simpa [lower, Join.keyword] using same)

theorem no_keyword_head {t : Text} {c : Char} (head : c ∈ t.head?)
    (other : c.toLower ≠ 'a' ∧ c.toLower ≠ 'o') : ¬ StartsInKeyword t := by
  intro starts
  obtain ⟨d, dHead, letter⟩ := keyword_head starts
  rw [Option.mem_unique dHead head] at letter
  exact letter.elim other.1 other.2

theorem no_keyword_last {t : Text} {c : Char} (last : c ∈ t.getLast?)
    (other : c.toLower ≠ 'd' ∧ c.toLower ≠ 'r') : ¬ EndsInKeyword t := by
  intro ends
  obtain ⟨d, dLast, letter⟩ := keyword_last ends
  rw [Option.mem_unique dLast last] at letter
  exact letter.elim other.1 other.2

theorem calm_cons {c : Char} {t : Text} (plain : isQuoteMark c = false)
    (here : ∀ keyword, ¬ JoinAt (c :: t) [] keyword) (calm : Calm t) : Calm (c :: t) := by
  intro front keyword occurs
  cases front with
  | nil => exact here keyword occurs
  | cons d front =>
      generalize textEq : c :: t = whole at occurs
      obtain ⟨_, _, rest, before, after, join, blankBefore, spells, blankAfter, outside⟩ := occurs
      rw [List.cons_append, List.cons.injEq] at textEq
      obtain ⟨rfl, rfl⟩ := textEq
      rw [open_after_cons, quoteAfter, plain] at outside
      exact calm front keyword (.mk front keyword rest before after join blankBefore spells blankAfter outside)

theorem join_at_start {c : Char} {t keyword : Text} (occurs : JoinAt (c :: t) [] keyword) :
    isBlank c = true ∧ StartsInKeyword t := by
  generalize frontEq : ([] : Text) = front at occurs
  generalize textEq : c :: t = whole at occurs
  obtain ⟨_, _, rest, before, after, join, blankBefore, spells, blankAfter, -⟩ := occurs
  rw [← frontEq, List.nil_append, List.cons.injEq] at textEq
  obtain ⟨rfl, rfl⟩ := textEq
  exact ⟨blankBefore, keyword, join, after :: rest, rfl, spells⟩

theorem calm_ink {u t : Text} (ink : Ink u) (free : QuoteFree u) (calm : Calm t) :
    Calm (u ++ t) := by
  induction u with
  | nil => exact calm
  | cons c u ih =>
      rw [Ink, List.forall_mem_cons] at ink
      rw [quote_free_cons] at free
      rw [List.cons_append]
      apply calm_cons free.1
      · intro keyword occurs
        have blank := (join_at_start occurs).1
        rw [ink.1] at blank
        cases blank
      · exact ih ink.2 free.2

theorem calm_blank {c : Char} {t : Text} (blank : isBlank c = true) (noKeyword : ¬ StartsInKeyword t)
    (calm : Calm t) : Calm (c :: t) := by
  apply calm_cons (blank_is_no_quote blank)
  · intro keyword occurs
    exact noKeyword (join_at_start occurs).2
  · exact calm

theorem calm_literal {quote : Char} {inner t : Text} (mark : isQuoteMark quote = true)
    (absent : quote ∉ inner) (calm : Calm t) : Calm (quote :: inner ++ [quote] ++ t) := by
  intro front keyword occurs
  generalize textEq : quote :: inner ++ [quote] ++ t = whole at occurs
  obtain ⟨front, keyword, rest, before, after, join, blankBefore, spells, blankAfter, outside⟩ := occurs
  rcases List.append_eq_append_iff.mp textEq with ⟨behind, frontEq, tEq⟩ | ⟨inside, literalEq, restEq⟩
  · rw [frontEq, open_after_append, open_after_literal mark absent] at outside
    rw [tEq] at calm
    exact calm behind keyword
      (.mk behind keyword rest before after join blankBefore spells blankAfter outside)
  · cases inside with
    | nil =>
        rw [List.nil_append] at restEq
        rw [← restEq] at calm
        exact calm [] keyword (.mk [] keyword rest before after join blankBefore spells blankAfter rfl)
    | cons c inside =>
        -- The blank in front of the keyword lies in the literal, where the quote is open.
        rw [List.cons_append, List.cons.injEq] at restEq
        rw [← restEq.1] at literalEq
        cases front with
        | nil =>
            rw [List.nil_append, List.cons_append, List.cons.injEq] at literalEq
            rw [literalEq.1, blank_is_no_quote blankBefore] at mark
            cases mark
        | cons d front =>
            rw [List.cons_append, List.cons_append, List.cons.injEq] at literalEq
            obtain ⟨rfl, innerEq⟩ := literalEq
            have frontAbsent : quote ∉ front := by
              rcases List.append_eq_append_iff.mp innerEq with ⟨more, frontEq, closeEq⟩ | ⟨more, innerEq, -⟩
              · cases more with
                | nil => simpa [frontEq] using absent
                | cons _ _ => simp at closeEq
              · intro mem
                exact absent (by simp [innerEq, mem])
            rw [open_after_cons, quoteAfter, if_pos mark, open_after_inside frontAbsent] at outside
            cases outside

end SurveyLogic
