import SurveyLogic.Proofs.ExpressionReading

set_option autoImplicit false

namespace SurveyLogic

open Text

-- Every reference of one style is a reference of the other, and the two names of it are related.
def ReferenceStyle.Carries (related : Text → Text → Text → Prop) (here there : ReferenceStyle) : Prop :=
  ∀ raw name, here.Names raw name → ∃ other, there.Names raw other ∧ related raw name other

structure Criterion.Carried (related : Text → Text → Text → Prop) (t : Text) (c d : Criterion) : Prop where
  operator : d.operator = c.operator
  value : d.value = c.value
  named : ∃ raw, raw <:+: t ∧ related raw c.name d.name

structure Expression.Carried (related : Text → Text → Text → Prop) (t : Text) (e f : Expression) : Prop where
  operator : f.operator = e.operator
  criteria : List.Forall₂ (Criterion.Carried related t) e.criteria f.criteria

section

variable {related : Text → Text → Text → Prop} {here there : ReferenceStyle}

theorem carried_inside {t u : Text} {c d : Criterion} (within : t <:+: u)
    (carried : Criterion.Carried related t c d) : Criterion.Carried related u c d := by
  obtain ⟨raw, inside, names⟩ := carried.named
  exact ⟨carried.operator, carried.value, raw, inside.trans within, names⟩

theorem existence_carried (carries : here.Carries related there) {t : Text} {c : Criterion}
    (form : ExistenceForm here t c) :
    ∃ d, ExistenceForm there t d ∧ Criterion.Carried related t c d := by
  obtain ⟨raw, name, gap, sign, pad, nothing, op, names, blankGap, equality, blankPad, missing⟩ := form
  obtain ⟨other, otherNames, renamed⟩ := carries raw name names
  exact ⟨_, .mk raw other gap sign pad nothing op otherNames blankGap equality blankPad missing, rfl, rfl, raw,
    (List.prefix_append raw _).isInfix, renamed⟩

theorem comparison_carried (carries : here.Carries related there) {t : Text} {c : Criterion}
    (form : ComparisonForm here t c) :
    ∃ d, ComparisonForm there t d ∧ Criterion.Carried related t c d := by
  obtain ⟨raw, name, gap, pad, operand, value, op, names, blankGap, compares, blankPad, literal⟩ := form
  obtain ⟨other, otherNames, renamed⟩ := carries raw name names
  exact ⟨_, .mk raw other gap pad operand value op otherNames blankGap compares blankPad literal, rfl, rfl, raw,
    (List.prefix_append raw _).isInfix, renamed⟩

theorem call_carried (carries : here.Carries related there) {call name value : Text}
    (form : CallForm here call name value) :
    ∃ other, CallForm there call other value ∧ ∃ raw, raw <:+: call ∧ related raw name other := by
  obtain ⟨lead, raw, _, gap, pad, choice, _, tail, blankLead, names, blankGap, blankPad, literal,
    blankTail⟩ := form
  obtain ⟨other, otherNames, renamed⟩ := carries raw name names
  refine ⟨other, .mk lead raw other gap pad choice value tail blankLead otherNames blankGap blankPad literal
    blankTail, raw, ?_, renamed⟩
  exact ⟨"selected(".toList ++ lead, gap ++ ([','] ++ (pad ++ (choice ++ (tail ++ [')'])))), by simp⟩

theorem selection_carried (carries : here.Carries related there) {t : Text} {c : Criterion}
    (form : SelectionForm here t c) :
    ∃ d, SelectionForm there t d ∧ Criterion.Carried related t c d := by
  cases form with
  | selected _ name value call =>
      obtain ⟨other, otherCall, renamed⟩ := call_carried carries call
      exact ⟨_, .selected t other value otherCall, rfl, rfl, renamed⟩
  | notSelected lead call tail name value blankLead form blankTail =>
      obtain ⟨other, otherCall, raw, inside, renamed⟩ := call_carried carries form
      have within : call <:+: "not(".toList ++ (lead ++ (call ++ (tail ++ [')']))) :=
        ⟨"not(".toList ++ lead, tail ++ [')'], by simp⟩
      exact ⟨_, .notSelected lead call tail other value blankLead otherCall blankTail, rfl, rfl, raw,
        inside.trans within, renamed⟩

-- A text starts with one reference at most, so what the other style takes for a check for existence is one
-- here too.
theorem check_carried (carries : here.Carries related there) {t : Text} {c other : Criterion}
    (form : ComparisonForm here t c) (check : ExistenceForm there t other) :
    ∃ found, ExistenceForm here t found := by
  obtain ⟨raw, name, gap, pad, operand, value, op, names, -, -, -, -⟩ := form
  obtain ⟨_, otherNames, -⟩ := carries raw name names
  generalize textEq : raw ++ (gap ++ (op.token ++ (pad ++ operand))) = t at check
  obtain ⟨raw', name', gap', sign, pad', nothing, _, names', blankGap, equality, blankPad, missing⟩ := check
  obtain ⟨rfl, -⟩ := names_unique otherNames names' textEq
  exact ⟨_, .mk raw name gap' sign pad' nothing _ names blankGap equality blankPad missing⟩

theorem form_carried (carries : here.Carries related there) {t : Text} {c : Criterion}
    (form : ClauseForm here t c) : ∃ d, ClauseForm there t d ∧ Criterion.Carried related t c d := by
  cases form with
  | existence form =>
      obtain ⟨d, otherForm, carried⟩ := existence_carried carries form
      exact ⟨d, .existence otherForm, carried⟩
  | comparison form noCheck =>
      obtain ⟨d, otherForm, carried⟩ := comparison_carried carries form
      refine ⟨d, .comparison otherForm fun other check => ?_, carried⟩
      obtain ⟨found, hereCheck⟩ := check_carried carries form check
      exact noCheck found hereCheck
  | selection form =>
      obtain ⟨d, otherForm, carried⟩ := selection_carried carries form
      exact ⟨d, .selection otherForm, carried⟩

end

inductive Alongside {ε α β : Type} (related : α → β → Prop) : Except ε α → Except ε β → Prop
  | refused (error : ε) : Alongside related (.error error) (.error error)
  | answered (a : α) (b : β) (both : related a b) : Alongside related (.ok a) (.ok b)

section

variable {ε α β γ δ : Type} {related : α → β → Prop} {further : γ → δ → Prop}

theorem alongside_error_iff {a : Except ε α} {b : Except ε β} (both : Alongside related a b) (error : ε) :
    a = .error error ↔ b = .error error := by
  cases both with
  | refused _ => simp
  | answered _ _ _ => simp

theorem alongside_same (a : Except ε α) : Alongside (· = ·) a a := by
  cases a with
  | error error => exact .refused error
  | ok x => exact .answered x x rfl

theorem alongside_bind {a : Except ε α} {b : Except ε β} {f : α → Except ε γ} {g : β → Except ε δ}
    (both : Alongside related a b) (next : ∀ x y, related x y → Alongside further (f x) (g y)) :
    Alongside further (a >>= f) (b >>= g) := by
  cases both with
  | refused error => exact .refused error
  | answered x y same => exact next x y same

theorem alongside_map {a : Except ε α} {b : Except ε β} {f : α → γ} {g : β → δ}
    (both : Alongside related a b) (next : ∀ x y, related x y → further (f x) (g y)) :
    Alongside further (f <$> a) (g <$> b) := by
  cases both with
  | refused error => exact .refused error
  | answered x y same => exact .answered (f x) (g y) (next x y same)

theorem alongside_imp {weaker : α → β → Prop} {a : Except ε α} {b : Except ε β} (both : Alongside related a b)
    (imp : ∀ x y, related x y → weaker x y) : Alongside weaker a b := by
  cases both with
  | refused error => exact .refused error
  | answered x y same => exact .answered x y (imp x y same)

theorem alongside_map_error {ε' : Type} {a : Except ε α} {b : Except ε β} (both : Alongside related a b)
    (f : ε → ε') : Alongside related (a.mapError f) (b.mapError f) := by
  cases both with
  | refused error => exact .refused (f error)
  | answered x y same => exact .answered x y same

theorem alongside_all {texts : List γ} {f : γ → Except ε α} {g : γ → Except ε β}
    (each : ∀ t ∈ texts, Alongside related (f t) (g t)) :
    Alongside (List.Forall₂ related) (texts.mapM f) (texts.mapM g) := by
  induction texts with
  | nil => exact .answered [] [] .nil
  | cons t texts ih =>
      rw [List.forall_mem_cons] at each
      rw [List.mapM_cons, List.mapM_cons]
      refine alongside_bind each.1 fun c d first => alongside_bind (ih each.2) fun cs ds others => ?_
      exact .answered (c :: cs) (d :: ds) (.cons first others)

end

theorem trim_inside (t : Text) : t.trim <:+: t := by
  obtain ⟨lead, tail, -, -, parts⟩ := trim_spec t
  exact ⟨lead, tail, parts.symm⟩

theorem clauses_inside (t : Text) (start : Nat) (found : List JoinMatch) :
    ∀ clause ∈ clausesFrom t start found, clause <:+: t := by
  induction found generalizing start with
  | nil =>
      intro clause mem
      rw [clausesFrom, List.mem_singleton] at mem
      rw [mem]
      exact (List.drop_suffix start t).isInfix
  | cons join rest ih =>
      rw [clausesFrom, List.forall_mem_cons]
      refine ⟨?_, ih join.stop⟩
      exact (List.drop_suffix start _).isInfix.trans (List.take_prefix join.start t).isInfix

section

variable {related opposite : Text → Text → Text → Prop} {here there : ReferenceStyle}

theorem clause_carried (forth : here.Carries related there) (back : there.Carries opposite here) (t : Text) :
    Alongside (Criterion.Carried related t) ((Reader.ofStyle here).clause t)
      ((Reader.ofStyle there).clause t) := by
  rcases clause_answers here t with refused | ⟨c, read, form⟩
  · rcases clause_answers there t with refusedToo | ⟨d, -, form⟩
    · rw [refused, refusedToo]
      exact .refused _
    · obtain ⟨c, hereForm, -⟩ := form_carried back form
      rw [form_is_read hereForm] at refused
      cases refused
  · obtain ⟨d, otherForm, carried⟩ := form_carried forth form
    rw [read, form_is_read otherForm]
    exact .answered c d (carried_inside (trim_inside t) carried)

theorem joined_carried {t : Text} {criteria others : List Criterion}
    (carried : List.Forall₂ (Criterion.Carried related t) criteria others) (join : Join) :
    Expression.Carried related t (.joined criteria join) (.joined others join) := by
  refine ⟨?_, carried⟩
  rw [Expression.joined, Expression.joined, carried.length_eq]

theorem trimmed_carried (forth : here.Carries related there) (back : there.Carries opposite here) (t : Text) :
    Alongside (Expression.Carried related t) ((Reader.ofStyle here).trimmedExpression t)
      ((Reader.ofStyle there).trimmedExpression t) := by
  rw [Reader.trimmedExpression, Reader.trimmedExpression]
  cases topLevelJoins t with
  | nil =>
      refine alongside_map (clause_carried forth back t) fun c d carried => ?_
      exact joined_carried (.cons carried .nil) .and
  | cons first others =>
      simp only
      cases others.find? (fun join => !Reader.sameKeyword join.keyword first.keyword) with
      | some second => exact .refused _
      | none =>
          have each : ∀ clause ∈ clauses t (first :: others), Alongside (Criterion.Carried related t)
              ((Reader.ofStyle here).clause clause) ((Reader.ofStyle there).clause clause) := by
            intro clause mem
            have within := clauses_inside t 0 (first :: others) clause mem
            exact alongside_imp (clause_carried forth back clause) fun _ _ => carried_inside within
          refine alongside_bind (alongside_same (lookUp (Join.ofText first.keyword))) fun join _ same => ?_
          refine alongside_bind (alongside_all each) fun criteria otherCriteria carried => ?_
          exact .answered _ _ (same ▸ joined_carried carried join)

theorem expression_carried (forth : here.Carries related there) (back : there.Carries opposite here)
    (text : Text) :
    Alongside (Expression.Carried related text) ((Reader.ofStyle here).expression text)
      ((Reader.ofStyle there).expression text) := by
  rw [Reader.expression, Reader.expression]
  by_cases empty : text.trim.isEmpty = true
  · rw [if_pos empty, if_pos empty]
    exact .refused _
  · rw [if_neg empty, if_neg empty]
    refine alongside_imp (trimmed_carried forth back text.trim) fun e f carried => ?_
    exact ⟨carried.operator, carried.criteria.imp fun _ _ => carried_inside (trim_inside text)⟩

end

end SurveyLogic
