import SurveyLogic.Proofs.Chains

set_option autoImplicit false

namespace SurveyLogic

open Text

def Leftmost (t : Text) (wanted : Text → Prop) (keyword : Text) : Prop :=
  wanted keyword ∧ ∃ front, JoinAt t front keyword ∧
    ∀ other found, JoinAt t other found → wanted found → front.length ≤ other.length

theorem blank_behind_keyword {blank rest keyword more : Text} {join : Join} (blanks : blank.allBlank)
    (spells : keyword.lower = join.keyword) (parts : blank ++ rest = keyword ++ more) :
    blank = [] ∧ rest = keyword ++ more := by
  have noLead := keyword_no_lead spells more
  rw [← parts] at noLead
  have empty := no_lead_blank noLead blanks
  rw [empty, List.nil_append] at parts
  exact ⟨empty, parts⟩

-- A keyword in front of which a match has started is the keyword of the match or stands right behind
-- the match.
theorem separator_overlap (s : Separator) {between after keyword rest more : Text} {before close : Char}
    {join : Join} (textEq : s.text = between ++ after) (inked : after ≠ [])
    (parts : after ++ rest = before :: (keyword ++ close :: more)) (blankBefore : isBlank before = true)
    (spells : keyword.lower = join.keyword) :
    (between ++ [before] = s.lead ∧ keyword = s.keyword) ∨ StartsInKeyword rest := by
  have inTrail : after.allBlank → StartsInKeyword rest := by
    intro blank
    obtain ⟨c, tail, rfl⟩ := List.exists_cons_of_ne_nil inked
    rw [all_blank_cons, Bool.and_eq_true] at blank
    rw [List.cons_append, List.cons.injEq] at parts
    obtain ⟨-, same⟩ := blank_behind_keyword blank.2 spells parts.2
    exact ⟨keyword, join, close :: more, same, spells⟩
  have notInKeyword : ∀ c tail, after = c :: tail → c ∉ s.keyword := by
    rintro c tail rfl mem
    rw [List.cons_append, List.cons.injEq] at parts
    have ink := (keyword_plain s.spells c mem).1
    rw [parts.1, blankBefore] at ink
    cases ink
  rw [Separator.text, List.append_assoc] at textEq
  rcases List.append_eq_append_iff.mp textEq with ⟨x, betweenEq, wordEq⟩ | ⟨x, leadEq, afterEq⟩
  · rcases List.append_eq_append_iff.mp wordEq with ⟨y, -, trailEq⟩ | ⟨y, keywordEq, afterEq⟩
    · right
      apply inTrail
      have blank := s.trailBlank
      rw [trailEq, all_blank_append, Bool.and_eq_true] at blank
      exact blank.2
    · cases y with
      | nil => exact .inr (inTrail (afterEq ▸ s.trailBlank))
      | cons c y => exact absurd (by simp [keywordEq]) (notInKeyword c _ afterEq)
  · cases x with
    | nil =>
        obtain ⟨c, word, keywordEq⟩ := List.exists_cons_of_ne_nil (keyword_inked s.spells)
        exact absurd (by simp [keywordEq]) (notInKeyword c (word ++ s.trail) (by rw [afterEq, keywordEq]; rfl))
    | cons c x =>
        have blank := s.leadBlank
        rw [leadEq, all_blank_append, Bool.and_eq_true, all_blank_cons, Bool.and_eq_true] at blank
        rw [afterEq, List.cons_append, List.cons_append, List.cons.injEq, List.append_assoc] at parts
        obtain ⟨rfl, same⟩ := blank_behind_keyword blank.2.2 spells parts.2
        left
        refine ⟨by rw [leadEq, parts.1], ?_⟩
        have word := keyword_found spells (close :: more)
        rw [← same, List.append_assoc, keyword_found s.spells, Option.some.injEq] at word
        exact word.symm

theorem join_at_found {t front keyword : Text} (occurs : JoinAt t front keyword)
    (alone : ∀ join ∈ topLevelJoins t, ¬ StartsInKeyword (t.drop join.stop)) :
    ∃ found ∈ topLevelJoins t, found.keyword = keyword ∧ front.length + 1 = found.keywordStart t := by
  obtain ⟨lead, s, rest, parts, -, mem, reach, covers⟩ := join_at_covered occurs
  refine ⟨_, mem, ?_⟩
  have noKeyword := alone _ mem
  have stop : (s.found.shift lead.length).stop = (lead ++ s.text).length := by
    simp [JoinMatch.shift, Separator.found, Nat.add_comm]
  rw [stop, parts, List.drop_left] at noKeyword
  rw [parts, keyword_start]
  obtain ⟨front, keyword, more, before, close, join, blankBefore, spells, -, -⟩ := occurs
  obtain ⟨between, after, frontEq, textEq⟩ := front_between parts reach (Nat.le_of_lt covers)
  have inked : after ≠ [] := by
    rintro rfl
    rw [frontEq, textEq] at covers
    simp at covers
  rw [frontEq, textEq, List.append_assoc, List.append_assoc, List.append_assoc,
    List.append_cancel_left_eq, List.append_cancel_left_eq] at parts
  rcases separator_overlap s textEq inked parts.symm blankBefore spells with ⟨leadEq, same⟩ | starts
  · refine ⟨same.symm, ?_⟩
    rw [frontEq, ← leadEq]
    simp [Nat.add_assoc]
  · exact absurd starts noKeyword

theorem keyword_start_within {t : Text} {join : JoinMatch} (found : MatchIn t join) :
    join.start ≤ join.keywordStart t ∧ join.keywordStart t ≤ join.stop := by
  obtain ⟨s, behind, parts, -, same⟩ := found
  have stop : join.stop = s.text.length + join.start := congrArg (·.stop) same
  have lead : blanks (t.drop join.start) = s.lead := by
    rw [parts, Separator.text, List.append_assoc, List.append_assoc]
    exact blanks_core _ _ s.leadBlank (keyword_no_lead s.spells _)
  rw [JoinMatch.keywordStart, lead, stop, separator_length]
  omega

theorem chained_split {t : Text} {start : Nat} {passed later : List JoinMatch} {join : JoinMatch}
    (chained : Chained t start (passed ++ join :: later)) : MatchIn t join ∧ Chained t join.stop later := by
  induction passed generalizing start with
  | nil => exact chained.2
  | cons other passed ih => exact ih chained.2.2

theorem chained_mem {t : Text} {start : Nat} {found : List JoinMatch} {join : JoinMatch}
    (chained : Chained t start found) (mem : join ∈ found) : MatchIn t join := by
  obtain ⟨passed, later, rfl⟩ := List.append_of_mem mem
  exact (chained_split chained).1

theorem leftmost_found {t : Text} {wanted : Text → Prop} {passed later : List JoinMatch} {join : JoinMatch}
    (joined : topLevelJoins t = passed ++ join :: later)
    (unwanted : ∀ other ∈ passed, ¬ wanted other.keyword) (here : wanted join.keyword)
    (alone : ∀ join ∈ topLevelJoins t, ¬ StartsInKeyword (t.drop join.stop)) :
    Leftmost t wanted join.keyword := by
  have chained := top_level_chained t
  have mem : join ∈ topLevelJoins t := by simp [joined]
  obtain ⟨front, occurs, position⟩ := join_at_of_found mem
  refine ⟨here, front, occurs, ?_⟩
  intro other keyword otherOccurs otherWanted
  obtain ⟨found, foundMem, same, otherPosition⟩ := join_at_found otherOccurs alone
  have within := keyword_start_within (chained_mem chained foundMem)
  rw [joined] at foundMem chained
  rw [List.mem_append, List.mem_cons] at foundMem
  rcases foundMem with before | rfl | behind
  · rw [← same] at otherWanted
    exact absurd otherWanted (unwanted found before)
  · omega
  · have first := keyword_start_within (chained_split chained).1
    have ordered := chained_behind (chained_split chained).2 found behind
    omega

theorem sealed_drop {front t : Text} (closed : Sealed (front ++ t)) : Sealed t := by
  induction front with
  | nil => exact closed
  | cons c front ih => exact ih (sealed_tail closed)

theorem blanks_hold_no_keyword {blank front keyword more : Text} {before : Char} {join : Join}
    (blanks : blank.allBlank) (spells : keyword.lower = join.keyword) :
    blank ≠ front ++ before :: (keyword ++ more) := by
  intro parts
  obtain ⟨c, word, keywordEq⟩ := List.exists_cons_of_ne_nil (keyword_inked spells)
  have ink := (keyword_plain spells c (by simp [keywordEq])).1
  rw [all_blank_mem blanks c (by simp [parts, keywordEq])] at ink
  cases ink

theorem join_at_core {lead core tail front keyword : Text} (blankLead : lead.allBlank)
    (blankTail : tail.allBlank) (solid : Solid core) (closed : Sealed core)
    (noKeyword : ¬ StartsInKeyword (core ++ tail)) (occurs : JoinAt (lead ++ core ++ tail) front keyword) :
    ∃ inner, front = lead ++ inner ∧ JoinAt core inner keyword := by
  generalize textEq : lead ++ core ++ tail = t at occurs
  obtain ⟨front, keyword, more, before, after, join, blankBefore, spells, blankAfter, outside⟩ := occurs
  rw [List.append_assoc] at textEq
  rcases List.append_eq_append_iff.mp textEq with ⟨inner, frontEq, coreEq⟩ | ⟨excess, leadEq, restEq⟩
  · refine ⟨inner, frontEq, ?_⟩
    rcases List.append_eq_append_iff.mp coreEq with ⟨behind, -, tailEq⟩ | ⟨last, coreParts, restEq⟩
    · exact absurd tailEq (blanks_hold_no_keyword blankTail spells)
    · have inked : last ≠ [] := by
        rintro rfl
        have tailEq : tail = [] ++ before :: (keyword ++ after :: more) := restEq.symm
        exact blanks_hold_no_keyword blankTail spells tailEq
      have tailHead : ∀ c ∈ tail.head?, isBlank c = true :=
        fun c mem => all_blank_mem blankTail c (List.mem_of_mem_head? mem)
      rw [coreParts] at closed
      let s := Separator.around before keyword after blankBefore spells blankAfter
      have parts : last ++ tail = s.text ++ more := by
        rw [← restEq]
        simp [s, Separator.around, Separator.text]
      obtain ⟨rest, lastEq, -⟩ := separator_inside s (sealed_drop closed) inked tailHead parts
      have innerOutside : openAfter none inner = none := by
        rwa [frontEq, open_after_append, open_after_quote_free (all_blank_quote_free blankLead)] at outside
      have inCore := JoinAt.mk inner keyword rest before after join blankBefore spells blankAfter innerOutside
      rw [coreParts, lastEq]
      simpa [s, Separator.around, Separator.text] using inCore
  · cases excess with
    | nil =>
        rw [List.nil_append] at restEq
        have noLead := (no_lead_append core tail solid.inked).mpr solid.noLead
        rw [← restEq, no_lead_cons, blankBefore] at noLead
        cases noLead
    | cons c excess =>
        rw [leadEq, all_blank_append, Bool.and_eq_true, all_blank_cons, Bool.and_eq_true] at blankLead
        rw [List.cons_append, List.cons.injEq] at restEq
        obtain ⟨-, starts⟩ := blank_behind_keyword blankLead.2.2 spells restEq.2.symm
        exact absurd ⟨keyword, join, after :: more, starts, spells⟩ noKeyword

theorem join_at_part {lead core front keyword : Text} (tail : Text) (neutral : openAfter none lead = none)
    (occurs : JoinAt core front keyword) : JoinAt (lead ++ core ++ tail) (lead ++ front) keyword := by
  obtain ⟨front, keyword, more, before, after, join, blankBefore, spells, blankAfter, outside⟩ := occurs
  have stillOutside : openAfter none (lead ++ front) = none := by
    rw [open_after_append, neutral, outside]
  have padded := JoinAt.mk (lead ++ front) keyword (more ++ tail) before after join blankBefore spells
    blankAfter stillOutside
  simpa using padded

theorem join_at_padded {lead core front keyword : Text} (tail : Text) (blankLead : lead.allBlank)
    (occurs : JoinAt core front keyword) : JoinAt (lead ++ core ++ tail) (lead ++ front) keyword :=
  join_at_part tail (open_after_quote_free (all_blank_quote_free blankLead)) occurs

theorem leftmost_trim {t : Text} {wanted : Text → Prop} {keyword : Text} (solid : Solid t.trim)
    (closed : Sealed t.trim) (noKeyword : ∀ more, ¬ StartsInKeyword (t.trim ++ more))
    (first : Leftmost t.trim wanted keyword) : Leftmost t wanted keyword := by
  obtain ⟨here, front, occurs, leftmost⟩ := first
  obtain ⟨lead, tail, blankLead, blankTail, parts⟩ := trim_spec t
  refine ⟨here, lead ++ front, ?_, ?_⟩
  · have padded := join_at_padded tail blankLead occurs
    rwa [← parts] at padded
  · intro other found otherOccurs otherWanted
    rw [parts] at otherOccurs
    obtain ⟨inner, rfl, inCore⟩ := join_at_core blankLead blankTail solid closed (noKeyword tail) otherOccurs
    have before := leftmost inner found inCore otherWanted
    rw [List.length_append, List.length_append]
    omega

end SurveyLogic
