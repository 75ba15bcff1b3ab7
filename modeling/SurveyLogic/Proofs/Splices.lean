import SurveyLogic.Proofs.ExpressionReading
import SurveyLogic.Proofs.Leftmost

set_option autoImplicit false

namespace SurveyLogic

open Text Literal

-- A text with its keywords as spelled and the criteria of its clauses. The keywords need not agree.
structure Reads (style : ReferenceStyle) (t : Text) (keywords : List Text) (criteria : List Criterion) :
    Prop where
  joins : spelledJoins t.trim = keywords
  clauses : ReadAs style (topClauses t.trim) criteria
  closed : ¬ EndsInKeyword t.trim

theorem read_as_mem {style : ReferenceStyle} {texts : List Text} {criteria : List Criterion}
    (read : ReadAs style texts criteria) : ∀ t ∈ texts, ∃ c, ClauseForm style t.trim c := by
  induction read with
  | nil => simp
  | cons first _ ih => exact List.forall_mem_cons.mpr ⟨⟨_, first⟩, ih⟩

theorem padded_form_one_literal {style : ReferenceStyle} {t : Text} {c : Criterion}
    (form : ClauseForm style t.trim c) : OneLiteral t := by
  obtain ⟨lead, tail, blankLead, blankTail, parts⟩ := trim_spec t
  rw [parts]
  apply one_literal_before _ (all_blank_quote_free blankTail)
  exact one_literal_after (all_blank_quote_free blankLead) (form_one_literal form)

theorem padded_form_no_keyword {style : ReferenceStyle} {t : Text} {c : Criterion}
    (form : ClauseForm style t.trim c) (more : Text) : ¬ StartsInKeyword (t ++ more) := by
  obtain ⟨lead, tail, blankLead, -, parts⟩ := trim_spec t
  cases lead with
  | nil =>
      rw [parts, List.nil_append, List.append_assoc]
      exact form_no_keyword form _
  | cons d lead =>
      have blank := all_blank_mem blankLead d (by simp)
      have head : d ∈ (t ++ more).head? := by
        rw [parts]
        rfl
      exact no_keyword_head head (blank_keyword_free blank).first

theorem chained_no_keyword {style : ReferenceStyle} {t : Text} {start : Nat} {found : List JoinMatch}
    {criteria : List Criterion} (chained : Chained t start found)
    (read : ReadAs style (clausesFrom t start found) criteria) (more : Text) :
    ¬ StartsInKeyword (t.drop start ++ more) := by
  obtain ⟨clause, behind, first, parts, -⟩ := clause_first chained
  obtain ⟨c, form⟩ := read_as_mem read clause (List.mem_of_mem_head? first)
  rw [parts, List.append_assoc]
  exact padded_form_no_keyword form _

theorem chained_alone {style : ReferenceStyle} {t : Text} {start : Nat} {found : List JoinMatch}
    {criteria : List Criterion} (chained : Chained t start found)
    (read : ReadAs style (clausesFrom t start found) criteria) :
    ∀ join ∈ found, ¬ StartsInKeyword (t.drop join.stop) := by
  induction found generalizing start criteria with
  | nil => simp
  | cons join rest ih =>
      rw [clausesFrom] at read
      cases read with
      | cons _ others =>
          have here := chained_no_keyword chained.2.2 others []
          rw [List.append_nil] at here
          exact List.forall_mem_cons.mpr ⟨here, ih chained.2.2 others⟩

section

variable {style : ReferenceStyle} {t : Text} {keywords : List Text} {criteria : List Criterion}

theorem reads_solid (reads : Reads style t keywords criteria) : Solid t.trim := by
  apply trim_is_solid
  intro empty
  have clauses := reads.clauses
  rw [empty] at clauses
  cases clauses with
  | cons first _ => exact form_inked first rfl

theorem reads_sealed (reads : Reads style t keywords criteria) : Sealed t.trim :=
  ⟨trim_no_tail t, reads.closed⟩

theorem reads_neutral (reads : Reads style t keywords criteria) : openAfter none t.trim = none := by
  apply clauses_neutral (top_level_chained t.trim)
  intro clause mem
  obtain ⟨c, form⟩ := read_as_mem reads.clauses clause mem
  exact one_literal_neutral (padded_form_one_literal form)

theorem reads_no_keyword (reads : Reads style t keywords criteria) (more : Text) :
    ¬ StartsInKeyword (t.trim ++ more) :=
  chained_no_keyword (top_level_chained t.trim) reads.clauses more

theorem reads_alone (reads : Reads style t keywords criteria) :
    ∀ join ∈ topLevelJoins t.trim, ¬ StartsInKeyword (t.trim.drop join.stop) :=
  chained_alone (top_level_chained t.trim) reads.clauses

end

theorem trim_spliced {t u : Text} (s : Separator) (left : Solid t.trim) (right : Solid u.trim) :
    ∃ wide : Separator, wide.keyword = s.keyword ∧
      trim (t ++ s.text ++ u) = t.trim ++ wide.text ++ u.trim := by
  obtain ⟨lead, before, blankLead, blankBefore, tParts⟩ := trim_spec t
  obtain ⟨after, tail, blankAfter, blankTail, uParts⟩ := trim_spec u
  refine ⟨s.widen before after blankBefore blankAfter, rfl, ?_⟩
  have whole : t ++ s.text ++ u = lead ++ (t.trim ++ (s.widen before after blankBefore blankAfter).text ++
      u.trim) ++ tail := by
    calc t ++ s.text ++ u = (lead ++ t.trim ++ before) ++ s.text ++ (after ++ u.trim ++ tail) := by
          rw [← tParts, ← uParts]
      _ = _ := by simp [Separator.text, Separator.widen]
  rw [whole]
  apply trim_core _ _ _ blankLead blankTail
  refine ⟨by simp [left.inked], ?_, ?_⟩
  · rw [List.append_assoc, no_lead_append _ _ left.inked]
    exact left.noLead
  · rw [no_tail_append _ _ right.inked]
    exact right.noTail

def Foreign (c : Char) : Prop :=
  ∀ (keyword : Text) (join : Join), keyword.lower = join.keyword → c ∉ keyword

theorem blank_foreign {c : Char} (blank : isBlank c = true) : Foreign c := by
  intro keyword join spells mem
  have ink := (keyword_plain spells c mem).1
  rw [blank] at ink
  cases ink

theorem ends_behind {front u : Text} {last : Char} (foreign : Foreign last)
    (ends : EndsInKeyword (front ++ last :: u)) :
    (∃ join : Join, u.lower = join.keyword) ∨ EndsInKeyword u := by
  obtain ⟨lead, blank, keyword, join, parts, blankBefore, spells⟩ := ends
  have sides : (front ++ [last]) ++ u = (lead ++ [blank]) ++ keyword := by simpa using parts
  rcases List.append_eq_append_iff.mp sides with ⟨excess, leadEq, uEq⟩ | ⟨excess, frontEq, keywordEq⟩
  · rcases List.eq_nil_or_concat excess with rfl | ⟨inner, c, rfl⟩
    · exact .inl ⟨join, by rw [uEq]; exact spells⟩
    · rw [List.concat_eq_append, ← List.append_assoc] at leadEq
      have same : blank = c := by simpa using (List.append_inj' leadEq rfl).2
      refine .inr ⟨inner, c, keyword, join, ?_, same ▸ blankBefore, spells⟩
      rw [uEq, List.concat_eq_append, List.append_assoc, List.singleton_append]
  · rcases List.eq_nil_or_concat excess with rfl | ⟨inner, c, rfl⟩
    · rw [List.nil_append] at keywordEq
      exact .inl ⟨join, keywordEq ▸ spells⟩
    · rw [List.concat_eq_append, ← List.append_assoc] at frontEq
      have same : last = c := by simpa using (List.append_inj' frontEq rfl).2
      exact absurd (by simp [keywordEq, same]) (foreign keyword join spells)

theorem separator_last (s : Separator) : ∃ body last, s.text = body ++ [last] ∧ isBlank last = true := by
  obtain ⟨trail, last, trailEq⟩ := (List.eq_nil_or_concat s.trail).resolve_left s.trailInked
  rw [List.concat_eq_append] at trailEq
  refine ⟨s.lead ++ s.keyword ++ trail, last, by simp [Separator.text, trailEq], ?_⟩
  exact all_blank_mem s.trailBlank last (by simp [trailEq])

theorem spliced_closed {front u : Text} (s : Separator) (noKeyword : ¬ StartsInKeyword u)
    (closed : ¬ EndsInKeyword u) : ¬ EndsInKeyword (front ++ s.text ++ u) := by
  intro ends
  obtain ⟨body, last, textEq, lastBlank⟩ := separator_last s
  have parts : front ++ s.text ++ u = (front ++ body) ++ last :: u := by simp [textEq]
  rw [parts] at ends
  rcases ends_behind (blank_foreign lastBlank) ends with ⟨join, spells⟩ | within
  · exact noKeyword ⟨u, join, [], (List.append_nil u).symm, spells⟩
  · exact closed within

theorem reads_spliced {style : ReferenceStyle} {t u : Text} {left right : List Text}
    {first second : List Criterion} (s : Separator) (here : Reads style t left first)
    (there : Reads style u right second) :
    Reads style (t ++ s.text ++ u) (left ++ s.keyword :: right) (first ++ second) := by
  obtain ⟨wide, sameKeyword, trimmed⟩ := trim_spliced s (reads_solid here) (reads_solid there)
  have noLead := (reads_solid there).noLead
  have noKeyword := reads_no_keyword there []
  rw [List.append_nil] at noKeyword
  constructor
  · rw [trimmed, spelled_joins_spliced wide (reads_sealed here) (reads_neutral here) noLead, here.joins,
      there.joins, sameKeyword]
  · rw [trimmed, top_clauses_spliced wide (reads_sealed here) (reads_neutral here) noLead]
    exact List.rel_append here.clauses there.clauses
  · rw [trimmed]
    exact spliced_closed wide noKeyword there.closed

section

variable {style : ReferenceStyle} {t : Text} {keywords : List Text} {criteria : List Criterion}

theorem reads_agreed (reads : Reads style t keywords criteria) {op : Join}
    (agree : ∀ keyword ∈ keywords, keyword.lower = op.keyword) :
    (Compiler.ofStyle style).compile t = .ok (.joined criteria op) := by
  rw [← reads.joins] at agree
  rw [compile_iff]
  exact .mk criteria op agree reads.clauses

theorem mixed_found (reads : Reads style t keywords criteria)
    (mixed : ∀ op : Join, ¬ ∀ keyword ∈ keywords, keyword.lower = op.keyword) :
    ∃ first others second, topLevelJoins t.trim = first :: others ∧
      others.find? (fun other => !Reader.sameKeyword other.keyword first.keyword) = some second := by
  rw [← reads.joins] at mixed
  cases joined : topLevelJoins t.trim with
  | nil =>
      exfalso
      apply mixed .and
      simp [spelledJoins, joined]
  | cons first others =>
      refine ⟨first, others, ?_⟩
      cases differs : others.find? (fun other => !Reader.sameKeyword other.keyword first.keyword) with
      | some second => exact ⟨second, rfl, rfl⟩
      | none =>
          have firstMem : first.keyword ∈ spelledJoins t.trim := by simp [spelledJoins, joined]
          obtain ⟨op, spells⟩ := spelled_join firstMem
          exact absurd ((joins_agree_iff joined).mpr ⟨spells, differs⟩) (mixed op)

theorem reads_mixed (reads : Reads style t keywords criteria)
    (mixed : ∀ op : Join, ¬ ∀ keyword ∈ keywords, keyword.lower = op.keyword) :
    ∃ one other, (Compiler.ofStyle style).compile t = .error (.logic (.mixedJoins one other)) ∧
      Leftmost t (fun _ => True) one ∧ Leftmost t (fun keyword => keyword.lower ≠ one.lower) other := by
  have leftmost : ∀ {wanted : Text → Prop} {keyword : Text},
      Leftmost t.trim wanted keyword → Leftmost t wanted keyword :=
    leftmost_trim (reads_solid reads) (reads_sealed reads) (reads_no_keyword reads)
  have alone := reads_alone reads
  obtain ⟨first, others, second, joined, differs⟩ := mixed_found reads mixed
  obtain ⟨different, passed, later, othersEq, same⟩ := List.find?_eq_some_iff_append.mp differs
  refine ⟨first.keyword, second.keyword, ?_, leftmost ?_, leftmost ?_⟩
  · rw [compile_of_style, expression_mixed joined differs]
    rfl
  · have noneBefore : topLevelJoins t.trim = [] ++ first :: others := joined
    exact leftmost_found noneBefore (by simp) trivial alone
  · have before : topLevelJoins t.trim = (first :: passed) ++ second :: later := by
      rw [joined, othersEq]
      rfl
    refine leftmost_found before ?_ ?_ alone
    · rw [List.forall_mem_cons]
      refine ⟨fun other => other rfl, fun other mem => ?_⟩
      have agrees := same other mem
      rw [Bool.not_not, same_keyword_iff] at agrees
      exact fun differ => differ agrees
    · intro folded
      rw [← same_keyword_iff] at folded
      rw [folded] at different
      cases different

end

end SurveyLogic
