import SurveyLogic.Proofs.ClauseForms

set_option autoImplicit false

namespace SurveyLogic

open Text Literal

theorem quoted_read {choice value : Text} (quoted : Quoted choice value) (rest : Text) :
    Grammar.quoted? (choice ++ rest) = some (choice, rest) := by
  obtain ⟨quote, _, mark, absent⟩ := quoted
  have parts : quote :: value ++ [quote] ++ rest = quote :: (value ++ quote :: rest) := by simp
  rw [parts, Grammar.quoted?, if_pos (quote_mark_iff.mp mark),
    List.dropWhile_append_of_pos (absent_apart absent), List.takeWhile_append_of_pos (absent_apart absent)]
  simp

theorem quoted_found {t choice rest : Text} (found : Grammar.quoted? t = some (choice, rest)) :
    ∃ value, Quoted choice value ∧ t = choice ++ rest := by
  cases t with
  | nil => cases found
  | cons c t =>
      rw [Grammar.quoted?] at found
      split at found
      · rename_i mark
        have parts := List.takeWhile_append_dropWhile (p := (· ≠ c)) (l := t)
        have inside := absent_in_front c t
        generalize t.takeWhile (· ≠ c) = value at found parts inside
        cases closing : t.dropWhile (· ≠ c) with
        | nil =>
            rw [closing] at found
            cases found
        | cons close behind =>
            have same := stops_at closing
            rw [closing, same, Option.some.injEq, Prod.mk.injEq] at found
            obtain ⟨rfl, rfl⟩ := found
            refine ⟨value, .mk c value (quote_mark_iff.mpr mark) inside, ?_⟩
            rw [← parts, closing, same]
            simp
      · cases found

theorem call_read {style : ReferenceStyle} {call name value : Text}
    (form : CallForm style call name value) (after : Text) :
    ∃ raw choice, style.grammar.selectionHere? (call ++ after) = some ⟨[], raw, choice, after⟩ ∧
      style.resolve? raw = some name ∧ Literal.value choice = value := by
  obtain ⟨lead, raw, _, gap, pad, choice, _, tail, blankLead, names, blankGap, blankPad, literal,
    blankTail⟩ := form
  refine ⟨raw, choice, ?_, names_resolve names, quoted_value literal⟩
  have first : ∀ rest, trimStart (lead ++ (raw ++ rest)) = raw ++ rest := by
    intro rest
    apply trim_start_core _ _ blankLead
    exact (no_lead_append _ _ (names_solid names).inked).mpr (names_solid names).noLead
  have comma : ∀ rest, after? [','] (trimStart (gap ++ ',' :: rest)) = some rest := by
    intro rest
    rw [trim_start_core _ _ blankGap ((no_lead_cons _ _).mpr (by decide))]
    exact after_append [','] rest
  have second : ∀ rest, trimStart (pad ++ (choice ++ rest)) = choice ++ rest := by
    intro rest
    apply trim_start_core _ _ blankPad
    exact (no_lead_append _ _ (quoted_solid literal).inked).mpr (quoted_solid literal).noLead
  have close : after? [')'] (trimStart (tail ++ ')' :: after)) = some after := by
    rw [trim_start_core _ _ blankTail ((no_lead_cons _ _).mpr (by decide))]
    exact after_append [')'] after
  rw [Grammar.selectionHere?]
  simp only [List.append_assoc, List.cons_append, List.nil_append, after_append, first, comma, second,
    close, names_read names, quoted_read literal, Option.bind_eq_bind, Option.bind_some]
  rfl

theorem call_found {style : ReferenceStyle} {t name : Text} {found : SelectionMatch}
    (matched : style.grammar.selectionHere? t = some found)
    (resolved : style.resolve? found.reference = some name) :
    ∃ call, CallForm style call name (Literal.value found.choice) ∧ t = call ++ found.after ∧
      found.before = [] := by
  simp only [Grammar.selectionHere?, Option.bind_eq_bind, Option.bind_eq_some_iff, Prod.exists] at matched
  obtain ⟨arguments, opened, reference, behindName, nameRead, behindComma, comma, choice, behindChoice,
    choiceRead, after, closed, whole⟩ := matched
  simp only [Option.pure_def, Option.some.injEq] at whole
  subst whole
  obtain ⟨lead, blankLead, leadParts, -⟩ := trim_start_spec arguments
  obtain ⟨gap, blankGap, gapParts, -⟩ := trim_start_spec behindName
  obtain ⟨pad, blankPad, padParts, -⟩ := trim_start_spec behindComma
  obtain ⟨tail, blankTail, tailParts, -⟩ := trim_start_spec behindChoice
  obtain ⟨names, nameParts⟩ := read_names nameRead resolved
  obtain ⟨value, literal, choiceParts⟩ := quoted_found choiceRead
  have form : CallForm style _ _ _ := .mk lead reference name gap pad choice value tail blankLead names
    blankGap blankPad literal blankTail
  rw [after_eq_some.mp closed] at tailParts
  rw [choiceParts, tailParts] at padParts
  rw [after_eq_some.mp comma, padParts] at gapParts
  rw [nameParts, gapParts] at leadParts
  rw [← quoted_value literal] at form
  refine ⟨_, form, ?_, rfl⟩
  rw [after_eq_some.mp opened, leadParts]
  simp

theorem selection_here {g : Grammar} {t : Text} {found : SelectionMatch}
    (matched : g.selectionHere? t = some found) : g.selection? t = some found := by
  cases t with
  | nil => cases matched
  | cons c t => rw [Grammar.selection?, matched]

theorem selection_skip {g : Grammar} {front : Text} (absent : 's' ∉ front) (t : Text) :
    g.selection? (front ++ t) =
      (g.selection? t).map fun found => { found with before := front ++ found.before } := by
  induction front with
  | nil => simp
  | cons c front ih =>
      rw [List.mem_cons, not_or] at absent
      have other : g.selectionHere? (c :: (front ++ t)) = none := by
        rw [Grammar.selectionHere?, show "selected(".toList = 's' :: "elected(".toList from rfl,
          after_other_head _ _ absent.1]
        rfl
      rw [List.cons_append, Grammar.selection?, other]
      simp only [ih absent.2, Option.map_map]
      rfl

theorem selection_split {g : Grammar} {t : Text} {found : SelectionMatch}
    (matched : g.selection? t = some found) :
    ∃ here, t = found.before ++ here ∧ g.selectionHere? here = some { found with before := [] } := by
  induction t generalizing found with
  | nil => cases matched
  | cons c t ih =>
      rw [Grammar.selection?] at matched
      cases first : g.selectionHere? (c :: t) with
      | some result =>
          rw [first] at matched
          cases matched
          have start : found.before = [] := by
            simp only [Grammar.selectionHere?, Option.bind_eq_bind, Option.bind_eq_some_iff] at first
            obtain ⟨_, -, _, -, _, -, _, -, _, -, whole⟩ := first
            cases whole
            rfl
          exact ⟨c :: t, by rw [start]; rfl, by rw [first, ← start]⟩
      | none =>
          rw [first] at matched
          obtain ⟨later, laterMatched, whole⟩ := Option.map_eq_some_iff.mp matched
          obtain ⟨here, parts, hereMatched⟩ := ih laterMatched
          subst whole
          exact ⟨here, by rw [parts]; rfl, hereMatched⟩

theorem operator_negated {lead tail : Text} (raw choice : Text) (blankLead : lead.allBlank)
    (blankTail : tail.allBlank) :
    Reader.selectionOperator? ⟨"not(".toList ++ lead, raw, choice, tail ++ [')']⟩ = some .notSelected := by
  have before : trim ("not(".toList ++ lead) = "not(".toList :=
    trim_core [] "not(".toList lead rfl blankLead (ink_solid (by decide) (by decide))
  have after : trim (tail ++ [')']) = [')'] := by
    have core := trim_core tail [')'] [] blankTail rfl (ink_solid (by decide) (by decide))
    rwa [List.append_nil] at core
  rw [Reader.selectionOperator?]
  simp only [before, after]
  decide

theorem operator_found {found : SelectionMatch} {op : Operator}
    (shape : Reader.selectionOperator? found = some op) :
    (op = .selected ∧ found.before.allBlank ∧ found.after.allBlank) ∨
      (op = .notSelected ∧ ∃ outer lead tail rest : Text, outer.allBlank ∧ lead.allBlank ∧ tail.allBlank ∧
        rest.allBlank ∧ found.before = outer ++ "not(".toList ++ lead ∧ found.after = tail ++ [')'] ++ rest) := by
  rw [Reader.selectionOperator?] at shape
  split at shape
  · rename_i empty
    cases shape
    rw [trim_eq_nil, trim_eq_nil] at empty
    exact .inl ⟨rfl, empty⟩
  · split at shape
    · rename_i wrapped
      cases shape
      obtain ⟨outer, lead, blankOuter, blankLead, beforeParts⟩ := trim_spec found.before
      obtain ⟨tail, rest, blankTail, blankRest, afterParts⟩ := trim_spec found.after
      rw [wrapped.1] at beforeParts
      rw [wrapped.2] at afterParts
      exact .inr ⟨rfl, outer, lead, tail, rest, blankOuter, blankLead, blankTail, blankRest, beforeParts,
        afterParts⟩
    · cases shape

theorem selection_accepts {style : ReferenceStyle} {t : Text} {c : Criterion}
    (form : SelectionForm style t c) : (Reader.ofStyle style).selection? t = some c := by
  cases form with
  | selected call name value form =>
      obtain ⟨raw, choice, matched, resolved, valueEq⟩ := call_read form []
      rw [List.append_nil] at matched
      rw [Reader.selection?, of_style_grammar, of_style_style, selection_here matched]
      simp only [Option.bind_eq_bind, Option.bind_some, resolved, valueEq]
      rfl
  | notSelected lead call tail name value blankLead form blankTail =>
      obtain ⟨raw, choice, matched, resolved, valueEq⟩ := call_read form (tail ++ [')'])
      have absent : 's' ∉ "not(".toList ++ lead := by
        intro mem
        rcases List.mem_append.mp mem with inWord | inLead
        · exact absurd inWord (by decide)
        · exact absurd (all_blank_mem blankLead _ inLead) (by decide)
      rw [Reader.selection?, of_style_grammar, of_style_style, ← List.append_assoc,
        selection_skip absent, selection_here matched]
      simp only [Option.map_some, List.append_nil, Option.bind_eq_bind, Option.bind_some, resolved,
        operator_negated raw choice blankLead blankTail, valueEq]
      rfl

theorem selection_found {style : ReferenceStyle} {t : Text} {c : Criterion} (solid : Solid t)
    (accepted : (Reader.ofStyle style).selection? t = some c) : SelectionForm style t c := by
  simp only [Reader.selection?, Option.bind_eq_bind, Option.bind_eq_some_iff, Option.pure_def,
    Option.some.injEq] at accepted
  obtain ⟨found, matched, name, resolved, operator, shape, rfl⟩ := accepted
  obtain ⟨here, parts, hereMatched⟩ := selection_split matched
  obtain ⟨call, form, callParts, -⟩ := call_found hereMatched resolved
  rw [callParts] at parts
  simp only at parts form
  have noLead := solid.noLead
  have noTail := solid.noTail
  -- No blank is left at the ends of the text, so the call or its negation is the whole of it.
  rcases operator_found shape with ⟨rfl, blankBefore, blankAfter⟩ |
    ⟨rfl, outer, lead, tail, rest, blankOuter, blankLead, blankTail, blankRest, beforeParts, afterParts⟩
  · rw [parts] at noLead
    rw [parts, ← List.append_assoc] at noTail
    rw [no_lead_blank noLead blankBefore, no_tail_blank noTail blankAfter, List.nil_append,
      List.append_nil] at parts
    rw [parts]
    exact .selected call name _ form
  · have whole : t = outer ++ (("not(".toList ++ (lead ++ (call ++ (tail ++ [')'])))) ++ rest) := by
      rw [parts, beforeParts, afterParts]
      simp
    rw [whole] at noLead noTail
    rw [no_lead_blank noLead blankOuter, List.nil_append] at whole noTail
    rw [no_tail_blank noTail blankRest, List.append_nil] at whole
    rw [whole]
    exact .notSelected lead call tail name _ blankLead form blankTail

end SurveyLogic
