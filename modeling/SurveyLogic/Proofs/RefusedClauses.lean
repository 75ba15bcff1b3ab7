import SurveyLogic.Proofs.Splices

set_option autoImplicit false

namespace SurveyLogic

open Text

structure ClauseStart (t : Text) (start : Nat) (found : List JoinMatch) : Prop where
  chained : Chained t start found
  passed : ∀ join ∈ topLevelJoins t, join.stop ≤ start ∨ join ∈ found
  inked : t.drop start ≠ []
  noLead : NoLead (t.drop start)

theorem clause_start_first {t : Text} (solid : Solid t) : ClauseStart t 0 (topLevelJoins t) :=
  ⟨top_level_chained t, fun _ mem => .inr mem, solid.inked, solid.noLead⟩

theorem clause_start_next {t : Text} {start : Nat} {join : JoinMatch} {found : List JoinMatch}
    (noTail : NoTail t) (position : ClauseStart t start (join :: found)) : ClauseStart t join.stop found := by
  obtain ⟨behind, here, others⟩ := position.chained
  obtain ⟨s, parts, noLead, -⟩ := match_parts here
  refine ⟨others, ?_, ?_, noLead⟩
  · intro other mem
    have reach := match_stop here
    rcases position.passed other mem with before | later
    · exact .inl (by omega)
    · rcases List.mem_cons.mp later with rfl | later
      · exact .inl (Nat.le_refl _)
      · exact .inr later
  · intro empty
    have whole := List.take_append_drop join.start t
    rw [parts, empty, List.append_nil, Separator.text, ← List.append_assoc] at whole
    rw [← whole] at noTail
    exact s.trailInked (no_tail_blank noTail s.trailBlank)

theorem clause_start_length {t : Text} {start : Nat} {found : List JoinMatch}
    (position : ClauseStart t start found) : (t.take start).length = start := by
  have inside : start < t.length := by
    rw [← Nat.not_le, ← List.drop_eq_nil_iff]
    exact position.inked
  rw [List.length_take]
  omega

theorem join_at_length {t front keyword : Text} (occurs : JoinAt t front keyword) :
    front.length < t.length := by
  cases occurs
  simp

theorem clause_clear {t clause : Text} {start : Nat} {found : List JoinMatch}
    (position : ClauseStart t start found) (first : (clausesFrom t start found).head? = some clause)
    {front keyword : Text} (occurs : JoinAt t front keyword) :
    front.length < start ∨ start + clause.length ≤ front.length := by
  obtain ⟨lead, s, rest, -, -, mem, reach, covers⟩ := join_at_covered occurs
  have starts : (s.found.shift lead.length).start = lead.length := by
    simp [Separator.found, JoinMatch.shift]
  have stops : (s.found.shift lead.length).stop = lead.length + s.text.length := by
    simp [Separator.found, JoinMatch.shift, Nat.add_comm]
  rcases position.passed _ mem with before | later
  · exact .inl (by omega)
  · cases found with
    | nil => cases later
    | cons join found =>
        obtain ⟨behind, here, others⟩ := position.chained
        rw [clausesFrom, List.head?_cons, Option.some.injEq] at first
        have size : start + clause.length ≤ join.start := by
          rw [← first, slice, List.length_drop, List.length_take]
          omega
        have ordered : join.start ≤ (s.found.shift lead.length).start := by
          rcases List.mem_cons.mp later with same | later
          · rw [same]
          · exact Nat.le_trans (Nat.le_of_lt (match_stop here)) (chained_behind others _ later)
        exact .inr (by omega)

section

variable {style : ReferenceStyle} {t clause more : Text} {start : Nat} {found : List JoinMatch}

theorem clause_calm (position : ClauseStart t start found)
    (first : (clausesFrom t start found).head? = some clause) (parts : t.drop start = clause ++ more)
    (neutral : openAfter none (t.take start) = none) : Calm clause.trim := by
  intro front keyword occurs
  obtain ⟨lead, tail, blankLead, -, clauseEq⟩ := trim_spec clause
  have inClause := join_at_padded tail blankLead occurs
  rw [← clauseEq] at inClause
  have inText := join_at_part more neutral inClause
  rw [List.append_assoc, ← parts, List.take_append_drop] at inText
  have outside := clause_clear position first inText
  have inside := join_at_length inClause
  rw [List.length_append, clause_start_length position] at outside
  omega

-- An accepted clause in front of a separator does not end in a keyword: that would be the keyword of a join.
theorem clause_closed {c : Criterion} {s : Separator} (position : ClauseStart t start found)
    (first : (clausesFrom t start found).head? = some clause)
    (parts : t.drop start = clause ++ (s.text ++ more)) (neutral : openAfter none (t.take start) = none)
    (form : ClauseForm style clause.trim c) : ¬ EndsInKeyword clause.trim := by
  intro ends
  obtain ⟨lead, tail, blankLead, blankTail, clauseEq⟩ := trim_spec clause
  have closedQuotes := form_neutral form
  obtain ⟨inner, before, keyword, join, trimEq, blankBefore, spells⟩ := ends
  rw [trimEq] at closedQuotes clauseEq
  obtain ⟨after, rest, textEq, blankAfter⟩ := separator_head (s.widen tail [] blankTail rfl)
  have behind : tail ++ (s.text ++ more) = after :: (rest ++ more) := by
    rw [← List.cons_append, ← textEq]
    simp [Separator.text, Separator.widen]
  have free : QuoteFree (before :: keyword) := by
    rw [quote_free_cons]
    exact ⟨blank_is_no_quote blankBefore, fun c mem => (keyword_plain spells c mem).2⟩
  have here := JoinAt.mk inner keyword (rest ++ more) before after join blankBefore spells blankAfter
    (open_before_quote_free free closedQuotes)
  have leadNeutral : openAfter none (t.take start ++ lead) = none := by
    rw [open_after_append, neutral, open_after_quote_free (all_blank_quote_free blankLead)]
  have whole : t.take start ++ lead ++ (inner ++ before :: (keyword ++ after :: (rest ++ more))) ++ [] = t := by
    calc _ = t.take start ++ (lead ++ (inner ++ before :: keyword) ++ tail ++ (s.text ++ more)) := by
          rw [List.append_assoc _ tail, behind]
          simp
      _ = t.take start ++ t.drop start := by rw [parts, ← clauseEq]
      _ = t := List.take_append_drop start t
  have inText := join_at_part [] leadNeutral here
  rw [whole] at inText
  have apart := clause_clear position first inText
  have size := congrArg List.length clauseEq
  simp only [List.length_append, List.length_cons, clause_start_length position] at apart size
  omega

theorem clause_reads {c : Criterion} {s : Separator} (position : ClauseStart t start found)
    (first : (clausesFrom t start found).head? = some clause)
    (parts : t.drop start = clause ++ (s.text ++ more)) (neutral : openAfter none (t.take start) = none)
    (form : ClauseForm style clause.trim c) : Reads style clause [] [c] := by
  have calm := calm_top_level (clause_calm position first parts neutral)
  refine ⟨?_, ?_, clause_closed position first parts neutral form⟩
  · rw [spelledJoins, calm]
    rfl
  · rw [undivided calm]
    refine .cons ?_ .nil
    rwa [trim_solid (trim_is_solid clause (form_inked form))]

end

-- What stands in front of a clause: nothing, or a text that is read with this join, and a separator.
inductive Foregone (style : ReferenceStyle) (op : Join) : Text → Prop
  | nothing : Foregone style op []
  | accepted (earlier : Text) (s : Separator) (keywords : List Text) (criteria : List Criterion)
      (reads : Reads style earlier keywords criteria)
      (agree : ∀ keyword ∈ keywords, keyword.lower = op.keyword) (fits : s.keyword.lower = op.keyword) :
      Foregone style op (earlier ++ s.text)

section

variable {style : ReferenceStyle} {op : Join}

theorem reads_open_after {t : Text} {keywords : List Text} {criteria : List Criterion}
    (reads : Reads style t keywords criteria) : openAfter none t = none := by
  obtain ⟨lead, tail, blankLead, blankTail, parts⟩ := trim_spec t
  rw [parts, open_after_append, open_after_append, open_after_quote_free (all_blank_quote_free blankLead),
    reads_neutral reads, open_after_quote_free (all_blank_quote_free blankTail)]

theorem foregone_neutral {front : Text} (foregone : Foregone style op front) : openAfter none front = none := by
  cases foregone with
  | nothing => rfl
  | accepted earlier s _ _ reads _ _ =>
      rw [open_after_append, reads_open_after reads, open_after_quote_free (separator_quote_free s)]

theorem foregone_next {front clause : Text} {c : Criterion} {s : Separator} (foregone : Foregone style op front)
    (reads : Reads style clause [] [c]) (fits : s.keyword.lower = op.keyword) :
    Foregone style op (front ++ clause ++ s.text) := by
  cases foregone with
  | nothing => exact .accepted clause s [] [c] reads (by simp) fits
  | accepted earlier before keywords criteria earlierReads agree beforeFits =>
      refine .accepted _ s _ _ (reads_spliced before earlierReads reads) ?_ fits
      rw [List.forall_mem_append, List.forall_mem_cons]
      exact ⟨agree, beforeFits, by simp⟩

theorem foregone_compiles {front : Text} (foregone : Foregone style op front) :
    front = [] ∨ ∃ earlier s e, front = earlier ++ Separator.text s ∧
      (Compiler.ofStyle style).compile earlier = .ok e := by
  cases foregone with
  | nothing => exact .inl rfl
  | accepted earlier s keywords criteria reads agree _ =>
      exact .inr ⟨earlier, s, _, rfl, reads_agreed reads agree⟩

structure RefusedIn (style : ReferenceStyle) (op : Join) (t clause : Text) : Prop where
  solid : Solid clause
  whole : topLevelJoins clause = []
  refused : (Reader.ofStyle style).clause clause = .error (.unrecognizedClause clause)
  placed : ∃ front rest, t = front ++ clause ++ rest ∧ Foregone style op front ∧ Ending rest

theorem refused_trim {clause : Text} {error : LogicError} (inked : clause.trim ≠ [])
    (refused : (Reader.ofStyle style).clause clause = .error error) :
    error = .unrecognizedClause clause.trim ∧
      (Reader.ofStyle style).clause clause.trim = .error (.unrecognizedClause clause.trim) := by
  have solid := trim_solid (trim_is_solid clause inked)
  have told : refusal clause.trim = .unrecognizedClause clause.trim := by
    rw [refusal, solid, ite_self]
  rcases clause_answers style clause with first | ⟨c, read, -⟩
  · rw [first] at refused
    cases refused
    refine ⟨by rw [refusal, if_neg (by simpa using inked)], ?_⟩
    rcases clause_answers style clause.trim with again | ⟨c, -, form⟩
    · rwa [told] at again
    · rw [solid] at form
      rw [form_is_read form] at first
      cases first
  · rw [read] at refused
    cases refused

theorem trim_front {t : Text} (inked : t ≠ []) (noLead : NoLead t) :
    t.trim ≠ [] ∧ ∃ tail, tail.allBlank ∧ t = t.trim ++ tail := by
  obtain ⟨lead, tail, blankLead, blankTail, parts⟩ := trim_spec t
  constructor
  · rw [Ne, trim_eq_nil]
    intro blank
    rw [← List.append_nil t] at noLead
    exact inked (no_lead_blank noLead blank)
  · rw [parts, List.append_assoc] at noLead
    rw [no_lead_blank noLead blankLead, List.nil_append] at parts
    exact ⟨tail, blankTail, parts⟩

theorem ending_padded {front tail more : Text} (noTail : NoTail (front ++ (tail ++ more)))
    (blank : tail.allBlank) (ending : Ending more) : Ending (tail ++ more) := by
  cases ending with
  | text =>
      rw [List.append_nil] at noTail ⊢
      rw [no_tail_blank noTail blank]
      exact .text
  | separator s rest =>
      have wide : tail ++ (s.text ++ rest) = (s.widen tail [] blank rfl).text ++ rest := by
        simp [Separator.text, Separator.widen]
      rw [wide]
      exact .separator _ rest

theorem refused_here {t clause more : Text} {start : Nat} {found : List JoinMatch} {error : LogicError}
    (noTail : NoTail t) (position : ClauseStart t start found) (foregone : Foregone style op (t.take start))
    (first : (clausesFrom t start found).head? = some clause) (parts : t.drop start = clause ++ more)
    (ending : Ending more) (inked : clause ≠ [])
    (refused : (Reader.ofStyle style).clause clause = .error error) :
    error = .unrecognizedClause clause.trim ∧ RefusedIn style op t clause.trim := by
  have noLead := position.noLead
  rw [parts, no_lead_append _ _ inked] at noLead
  obtain ⟨trimInked, tail, blankTail, clauseEq⟩ := trim_front inked noLead
  obtain ⟨told, refusedTrim⟩ := refused_trim trimInked refused
  have calm := clause_calm position first parts (foregone_neutral foregone)
  have whole : t = t.take start ++ clause.trim ++ (tail ++ more) := by
    calc t = t.take start ++ t.drop start := (List.take_append_drop start t).symm
      _ = t.take start ++ (clause.trim ++ tail ++ more) := by rw [parts, ← clauseEq]
      _ = t.take start ++ clause.trim ++ (tail ++ more) := by simp
  rw [whole] at noTail
  exact ⟨told, trim_is_solid clause trimInked, calm_top_level calm, refusedTrim, t.take start, tail ++ more,
    whole, foregone, ending_padded noTail blankTail ending⟩

theorem taken_through {t : Text} {start stop next : Nat} {s : Text}
    (parts : t.drop start = t.slice start stop ++ (s ++ t.drop next)) :
    t.take start ++ t.slice start stop ++ s = t.take next := by
  rw [← List.append_left_inj (t.drop next), List.take_append_drop, List.append_assoc, List.append_assoc,
    ← parts, List.take_append_drop]

theorem refused_located {t : Text} {start : Nat} {found : List JoinMatch} {error : LogicError}
    (noTail : NoTail t) (position : ClauseStart t start found) (foregone : Foregone style op (t.take start))
    (agree : ∀ join ∈ found, join.keyword.lower = op.keyword)
    (refused : (clausesFrom t start found).mapM (Reader.ofStyle style).clause = .error error) :
    ∃ clause, error = .unrecognizedClause clause ∧ RefusedIn style op t clause := by
  induction found generalizing start with
  | nil =>
      rcases all_refused.mp refused with first | ⟨_, _, rest⟩
      · have located :=
          refused_here noTail position foregone rfl (List.append_nil _).symm .text position.inked first
        exact ⟨_, located⟩
      · cases rest
  | cons join found ih =>
      obtain ⟨behind, here, others⟩ := position.chained
      obtain ⟨s, separated, -, keywordEq⟩ := match_parts here
      have parts : t.drop start = t.slice start join.start ++ (s.text ++ t.drop join.stop) := by
        rw [← separated]
        exact (slice_drop t behind).symm
      rw [List.forall_mem_cons] at agree
      rcases all_refused.mp refused with first | ⟨c, first, rest⟩
      · have inked : t.slice start join.start ≠ [] := by
          intro empty
          obtain ⟨d, tail, textEq, blank⟩ := separator_head s
          have noLead := position.noLead
          rw [parts, empty, textEq, List.nil_append, List.cons_append, no_lead_cons, blank] at noLead
          cases noLead
        exact ⟨_, refused_here noTail position foregone rfl parts (.separator s _) inked first⟩
      · have reads := clause_reads position rfl parts (foregone_neutral foregone) (read_has_form first)
        have next := foregone_next foregone reads (keywordEq ▸ agree.1)
        rw [taken_through parts] at next
        exact ih (clause_start_next noTail position) next agree.2 rest

theorem trimmed_refused {t clause : Text}
    (refused : (Reader.ofStyle style).trimmedExpression t = .error (.unrecognizedClause clause)) :
    ∃ op : Join, (∀ join ∈ topLevelJoins t, join.keyword.lower = op.keyword) ∧
      (topClauses t).mapM (Reader.ofStyle style).clause = .error (.unrecognizedClause clause) := by
  have outcome := trimmed_outcome style t
  rw [refused] at outcome
  generalize answer : Except.error (LogicError.unrecognizedClause clause) = result at outcome
  cases outcome with
  | read _ _ => cases answer
  | mixed _ _ _ _ _ => cases answer
  | refused _ op _ agree read =>
      rw [spelledJoins, List.forall_mem_map] at agree
      rw [← Except.error.inj answer] at read
      exact ⟨op, agree, read⟩

theorem compile_refused_iff {text clause : Text} :
    (Compiler.ofStyle style).compile text = .error (.logic (.unrecognizedClause clause)) ↔
      text.trim ≠ [] ∧
        (Reader.ofStyle style).trimmedExpression text.trim = .error (.unrecognizedClause clause) := by
  rw [compile_of_style, Reader.expression]
  by_cases empty : text.trim = []
  · simp [empty, Except.mapError]
  · rw [if_neg (by simpa using empty)]
    cases (Reader.ofStyle style).trimmedExpression text.trim <;> simp [Except.mapError, empty]

theorem refused_alone {t clause : Text} (refused : RefusedIn style op t clause) :
    (Compiler.ofStyle style).compile clause = .error (.logic (.unrecognizedClause clause)) := by
  rw [compile_refused_iff, trim_solid refused.solid]
  refine ⟨refused.solid.inked, ?_⟩
  rw [Reader.trimmedExpression, refused.whole]
  simp only [refused.refused]
  rfl

end

theorem refused_clause_located (style : ReferenceStyle) (text clause : Text)
    (refused : (Compiler.ofStyle style).compile text = .error (.logic (.unrecognizedClause clause))) :
    Solid clause ∧
    (Compiler.ofStyle style).compile clause = .error (.logic (.unrecognizedClause clause)) ∧
    ∃ front rest, text.trim = front ++ clause ++ rest ∧ Ending rest ∧
      (front = [] ∨ ∃ earlier s e, front = earlier ++ Separator.text s ∧
        (Compiler.ofStyle style).compile earlier = .ok e) := by
  obtain ⟨inked, trimmedRefused⟩ := compile_refused_iff.mp refused
  have solid := trim_is_solid text inked
  obtain ⟨op, agree, clauseRefused⟩ := trimmed_refused trimmedRefused
  have atStart : Foregone style op (text.trim.take 0) := .nothing
  obtain ⟨found, same, located⟩ :=
    refused_located solid.noTail (clause_start_first solid) atStart agree clauseRefused
  cases same
  obtain ⟨front, rest, parts, foregone, ending⟩ := located.placed
  exact ⟨located.solid, refused_alone located, front, rest, parts, ending, foregone_compiles foregone⟩

theorem stray_keyword_located :
    (Compiler.ofStyle .bare).compile " ${a} = 'x and y'\tAND  and so on and ${b} = 2".toList =
        .error (.logic (.unrecognizedClause "and so on".toList)) ∧
      (Compiler.ofStyle .bare).compile "and so on".toList =
        .error (.logic (.unrecognizedClause "and so on".toList)) ∧
      ∃ front rest, "${a} = 'x and y'\tAND  and so on and ${b} = 2".toList =
          front ++ "and so on".toList ++ rest ∧ Ending rest ∧
        (front = [] ∨ ∃ earlier s e, front = earlier ++ Separator.text s ∧
          (Compiler.ofStyle .bare).compile earlier = .ok e) :=
  ⟨rfl, (refused_clause_located .bare " ${a} = 'x and y'\tAND  and so on and ${b} = 2".toList _ rfl).2⟩

end SurveyLogic
