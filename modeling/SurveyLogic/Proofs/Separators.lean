import SurveyLogic.Operator
import SurveyLogic.Proofs.Quotes

set_option autoImplicit false

namespace SurveyLogic

open Text

structure Separator where
  lead : Text
  keyword : Text
  trail : Text
  join : Join
  leadInked : lead ≠ []
  leadBlank : lead.allBlank
  spells : keyword.lower = join.keyword
  trailInked : trail ≠ []
  trailBlank : trail.allBlank

def Separator.text (s : Separator) : Text := s.lead ++ s.keyword ++ s.trail

def Separator.around (before : Char) (keyword : Text) (after : Char) {join : Join}
    (blankBefore : isBlank before = true) (spells : keyword.lower = join.keyword)
    (blankAfter : isBlank after = true) : Separator where
  lead := [before]
  keyword := keyword
  trail := [after]
  join := join
  leadInked := by simp
  leadBlank := by simp [blankBefore]
  spells := spells
  trailInked := by simp
  trailBlank := by simp [blankAfter]

def Separator.widen (s : Separator) (before after : Text) (blankBefore : before.allBlank)
    (blankAfter : after.allBlank) : Separator where
  lead := before ++ s.lead
  keyword := s.keyword
  trail := s.trail ++ after
  join := s.join
  leadInked := by simp [s.leadInked]
  leadBlank := by simp [blankBefore, s.leadBlank]
  spells := s.spells
  trailInked := by simp [s.trailInked]
  trailBlank := by simp [blankAfter, s.trailBlank]

theorem keyword_lower (join : Join) : join.keyword.lower = join.keyword := by
  cases join <;> rfl

theorem keyword_plain {keyword : Text} {join : Join} (spells : keyword.lower = join.keyword) :
    ∀ c ∈ keyword, isBlank c = false ∧ isQuoteMark c = false := by
  intro c mem
  have folded : c.toLower ∈ join.keyword := by
    rw [← spells]
    exact List.mem_map_of_mem mem
  have letters : Ink join.keyword ∧ QuoteFree join.keyword := by
    cases join <;> decide
  have ink := letters.1 _ folded
  have plain := letters.2 _ folded
  constructor
  · rw [Bool.eq_false_iff]
    intro blank
    rw [blank_lower blank, blank] at ink
    cases ink
  · rw [Bool.eq_false_iff]
    intro quote
    rw [quote_lower quote, quote] at plain
    cases plain

theorem keyword_length {keyword : Text} {join : Join} (spells : keyword.lower = join.keyword) :
    keyword.length = join.keyword.length := by
  rw [← spells, lower, List.length_map]

theorem keyword_inked {keyword : Text} {join : Join} (spells : keyword.lower = join.keyword) :
    keyword ≠ [] := by
  rintro rfl
  cases join <;> cases spells

theorem keyword_no_lead {keyword : Text} {join : Join} (spells : keyword.lower = join.keyword)
    (rest : Text) : NoLead (keyword ++ rest) := by
  rw [no_lead_append _ _ (keyword_inked spells)]
  intro c mem
  exact (keyword_plain spells c (List.mem_of_mem_head? mem)).1

theorem keyword_found {keyword : Text} {join : Join} (spells : keyword.lower = join.keyword)
    (rest : Text) : keyword? (keyword ++ rest) = some keyword := by
  have size := keyword_length spells
  cases join with
  | and =>
      have whole : (keyword ++ rest).take 3 = keyword := by
        rw [List.take_append_of_le_length (by simp [size, Join.keyword]), List.take_of_length_le]
        simp [size, Join.keyword]
      rw [keyword?, whole]
      exact if_pos spells
  | or =>
      obtain ⟨o, r, rfl⟩ : ∃ o r, keyword = [o, r] := by
        match keyword, size with
        | [o, r], _ => exact ⟨o, r, rfl⟩
      have letter : o.toLower = 'o' := by
        have same := congrArg List.head? spells
        simpa [lower, Join.keyword] using same
      have noAnd : lower (([o, r] ++ rest).take 3) ≠ "and".toList := by
        simp [lower, letter]
      rw [keyword?, if_neg noAnd]
      exact if_pos spells

theorem keyword_spec {t keyword : Text} (found : keyword? t = some keyword) :
    ∃ (join : Join) (rest : Text), keyword.lower = join.keyword ∧ t = keyword ++ rest := by
  rw [keyword?] at found
  split at found
  · rename_i spells
    cases found
    exact ⟨.and, t.drop 3, spells, (List.take_append_drop 3 t).symm⟩
  · split at found
    · rename_i spells
      cases found
      exact ⟨.or, t.drop 2, spells, (List.take_append_drop 2 t).symm⟩
    · cases found

theorem separator_head (s : Separator) : ∃ c rest, s.text = c :: rest ∧ isBlank c = true := by
  obtain ⟨c, lead, parts⟩ := List.exists_cons_of_ne_nil s.leadInked
  refine ⟨c, lead ++ s.keyword ++ s.trail, by rw [Separator.text, parts]; rfl, ?_⟩
  exact all_blank_mem s.leadBlank c (by simp [parts])

theorem separator_quote_free (s : Separator) : QuoteFree s.text := by
  rw [Separator.text, quote_free_append, quote_free_append]
  exact ⟨⟨all_blank_quote_free s.leadBlank, fun c mem => (keyword_plain s.spells c mem).2⟩,
    all_blank_quote_free s.trailBlank⟩

theorem separator_length (s : Separator) :
    s.text.length = s.lead.length + s.keyword.length + s.trail.length := by
  rw [Separator.text, List.length_append, List.length_append]

theorem join_here_found (s : Separator) (rest : Text) (noLead : NoLead rest) :
    joinHere? (s.text ++ rest) = some (s.keyword, s.text.length) := by
  have lead : blanks (s.lead ++ (s.keyword ++ (s.trail ++ rest))) = s.lead :=
    blanks_core _ _ s.leadBlank (keyword_no_lead s.spells _)
  have trail : blanks (s.trail ++ rest) = s.trail := blanks_core _ _ s.trailBlank noLead
  have dropTrail : (s.lead ++ (s.keyword ++ (s.trail ++ rest))).drop
      (s.lead.length + s.keyword.length) = s.trail ++ rest := by
    rw [← List.drop_drop, List.drop_left, List.drop_left]
  have some : (s.lead.isEmpty || s.trail.isEmpty) = false := by
    simp [s.leadInked, s.trailInked]
  have parts : s.text ++ rest = s.lead ++ (s.keyword ++ (s.trail ++ rest)) := by
    simp [Separator.text]
  rw [parts, joinHere?, lead, List.drop_left, keyword_found s.spells]
  simp only [dropTrail, trail, some, separator_length, Bool.false_eq_true, if_false]

theorem join_here_spec {t keyword : Text} {size : Nat}
    (found : joinHere? t = some (keyword, size)) :
    ∃ (s : Separator) (rest : Text), t = s.text ++ rest ∧ NoLead rest ∧ keyword = s.keyword ∧
      size = s.text.length := by
  rw [joinHere?] at found
  obtain ⟨lead, leadBlank, parts, noLead⟩ := trim_start_spec t
  have leadEq : blanks t = lead := by
    rw [parts]
    exact blanks_core _ _ leadBlank noLead
  generalize trimStart t = core at parts noLead
  subst parts
  rw [leadEq, List.drop_left] at found
  cases keywordEq : keyword? core with
  | none => simp [keywordEq] at found
  | some word =>
      obtain ⟨join, behind, spells, rfl⟩ := keyword_spec keywordEq
      obtain ⟨trail, trailBlank, tailParts, restNoLead⟩ := trim_start_spec behind
      have trailEq : blanks behind = trail := by
        rw [tailParts]
        exact blanks_core _ _ trailBlank restNoLead
      have dropTrail : (lead ++ (word ++ behind)).drop (lead.length + word.length) = behind := by
        rw [← List.drop_drop, List.drop_left, List.drop_left]
      simp only [keywordEq, dropTrail, trailEq] at found
      by_cases leadEmpty : lead = []
      · simp [leadEmpty] at found
      · by_cases trailEmpty : trail = []
        · simp [trailEmpty] at found
        · have inked : ¬ (lead.isEmpty || trail.isEmpty) = true := by simp [leadEmpty, trailEmpty]
          rw [if_neg inked, Option.some.injEq, Prod.mk.injEq] at found
          refine ⟨⟨lead, word, trail, join, leadEmpty, leadBlank, spells, trailEmpty, trailBlank⟩,
            trimStart behind, ?_, restNoLead, found.1.symm, ?_⟩
          · rw [Separator.text, List.append_assoc, List.append_assoc, ← tailParts]
          · rw [separator_length, found.2]

-- A text that ends in a blank and a join keyword, so that blanks behind it would complete a
-- separator.
def EndsInKeyword (t : Text) : Prop :=
  ∃ (front : Text) (blank : Char) (keyword : Text) (join : Join),
    t = front ++ blank :: keyword ∧ isBlank blank = true ∧ keyword.lower = join.keyword

-- No separator can start in the text and end behind it.
structure Sealed (t : Text) : Prop where
  noTail : NoTail t
  noKeyword : ¬ EndsInKeyword t

theorem sealed_tail {c : Char} {t : Text} (closed : Sealed (c :: t)) : Sealed t := by
  constructor
  · cases t with
    | nil => simp
    | cons d t => exact (no_tail_append [c] (d :: t) (by simp)).mp closed.noTail
  · intro ends
    obtain ⟨front, blank, keyword, join, rfl, isBlank, spells⟩ := ends
    exact closed.noKeyword ⟨c :: front, blank, keyword, join, rfl, isBlank, spells⟩

theorem separator_front_ends (s : Separator) : EndsInKeyword (s.lead ++ s.keyword) := by
  obtain ⟨front, blank, leadEq⟩ := (List.eq_nil_or_concat s.lead).resolve_left s.leadInked
  refine ⟨front, blank, s.keyword, s.join, by simp [leadEq], ?_, s.spells⟩
  exact all_blank_mem s.leadBlank blank (by simp [leadEq])

theorem separator_inside (s : Separator) {t u rest : Text} (closed : Sealed t) (inked : t ≠ [])
    (blankHead : ∀ c ∈ u.head?, isBlank c = true) (parts : t ++ u = s.text ++ rest) :
    ∃ inner, t = s.text ++ inner ∧ rest = inner ++ u := by
  rcases List.append_eq_append_iff.mp parts with ⟨excess, textEq, uEq⟩ | ⟨inner, tEq, restEq⟩
  · cases excess with
    | nil => exact ⟨[], by simp [textEq], by simp [uEq]⟩
    | cons c excess =>
        exfalso
        have cBlank : isBlank c = true := blankHead c (by simp [uEq])
        rw [Separator.text] at textEq
        rcases List.append_eq_append_iff.mp textEq with ⟨trail, tEq, trailEq⟩ | ⟨word, frontEq, overEq⟩
        · -- The text ends in the trailing blanks, so it has none of them and ends in the keyword.
          have trailBlank : allBlank trail := by
            have all := s.trailBlank
            rw [trailEq, all_blank_append, Bool.and_eq_true] at all
            exact all.1
          have noTail := closed.noTail
          rw [tEq] at noTail
          rw [no_tail_blank noTail trailBlank, List.append_nil] at tEq
          exact closed.noKeyword (tEq ▸ separator_front_ends s)
        · rcases List.append_eq_append_iff.mp frontEq with ⟨front, tEq, keyEq⟩ | ⟨lead, leadEq, -⟩
          · -- The text ends in the keyword, and the next character of the keyword is the blank.
            cases word with
            | nil =>
                rw [List.append_nil] at keyEq
                exact closed.noKeyword (tEq ▸ keyEq ▸ separator_front_ends s)
            | cons d word =>
                have same : c = d := by simpa using congrArg List.head? overEq
                have ink := (keyword_plain s.spells d (by simp [keyEq])).1
                rw [← same, cBlank] at ink
                cases ink
          · -- The text ends in the leading blanks.
            have blank : allBlank t := by
              have all := s.leadBlank
              rw [leadEq, all_blank_append, Bool.and_eq_true] at all
              exact all.1
            exact inked (no_tail_blank (t := []) closed.noTail blank)
  · exact ⟨inner, tEq, restEq⟩

theorem join_here_append {t u : Text} (closed : Sealed t) (inked : t ≠ [])
    (blankHead : ∀ c ∈ u.head?, isBlank c = true) : joinHere? (t ++ u) = joinHere? t := by
  apply Option.ext
  rintro ⟨keyword, size⟩
  constructor
  · intro found
    obtain ⟨s, rest, parts, noLead, rfl, rfl⟩ := join_here_spec found
    obtain ⟨inner, tEq, rfl⟩ := separator_inside s closed inked blankHead parts
    rw [tEq]
    apply join_here_found
    by_cases empty : inner = []
    · simp [empty]
    · exact (no_lead_append _ _ empty).mp noLead
  · intro found
    obtain ⟨s, rest, rfl, noLead, rfl, rfl⟩ := join_here_spec found
    rw [List.append_assoc]
    apply join_here_found
    by_cases empty : rest = []
    · have noTail := closed.noTail
      rw [empty, List.append_nil, Separator.text] at noTail
      exact absurd (no_tail_blank noTail s.trailBlank) s.trailInked
    · exact (no_lead_append _ _ empty).mpr noLead

theorem join_here_size {t keyword : Text} {size : Nat}
    (found : joinHere? t = some (keyword, size)) : 0 < size ∧ size ≤ t.length := by
  obtain ⟨s, rest, rfl, -, -, rfl⟩ := join_here_spec found
  obtain ⟨c, behind, textEq, -⟩ := separator_head s
  simp [textEq]

end SurveyLogic
