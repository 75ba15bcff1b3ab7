import SurveyLogic.KnownNames

set_option autoImplicit false

namespace SurveyLogic

theorem distinct_mem {names : List Text} {name : Text} : name ∈ Expression.distinct names ↔ name ∈ names := by
  induction names with
  | nil => rfl
  | cons first names ih =>
      rw [Expression.distinct, List.mem_cons, List.mem_cons, List.mem_filter, ih, decide_eq_true_eq]
      by_cases same : name = first
      · simp [same]
      · simp [same]

theorem distinct_find (p : Text → Bool) (names : List Text) :
    (Expression.distinct names).find? p = names.find? p := by
  induction names with
  | nil => rfl
  | cons first names ih =>
      rw [Expression.distinct]
      cases here : p first with
      | true => rw [List.find?_cons_of_pos here, List.find?_cons_of_pos here]
      | false =>
          rw [List.find?_cons_of_neg (by simp [here]), List.find?_cons_of_neg (by simp [here]),
            List.find?_filter, ← ih]
          congr 1
          funext name
          by_cases same : name = first
          · simp [same, here]
          · simp [same]

theorem references_mem {e : Expression} {name : Text} :
    name ∈ e.references ↔ ∃ c ∈ e.criteria, c.name = name := by
  rw [Expression.references, distinct_mem, List.mem_map]

theorem named_at {rows : List Row} {name : Text} : name ∈ rows.filterMap Row.questionName ↔
    ∃ (index : Nat) (row : Row), rows[index]? = some row ∧ row.questionName = some name := by
  rw [List.mem_filterMap]
  constructor
  · intro named
    obtain ⟨row, mem, name⟩ := named
    obtain ⟨index, found⟩ := List.mem_iff_getElem?.mp mem
    exact ⟨index, row, found, name⟩
  · intro named
    obtain ⟨index, row, found, name⟩ := named
    exact ⟨row, List.mem_of_getElem? found, name⟩

theorem known_iff_row {form : Form} {name : Text} : (KnownNames.ofForm form).isKnown name = true ↔
    ∃ (index : Nat) (row : Row), form.survey[index]? = some row ∧ row.questionName = some name := by
  rw [KnownNames.isKnown, KnownNames.ofForm, decide_eq_true_eq, Form.questionNames, named_at]

theorem known_iff_found {form : Form} {name : Text} :
    (KnownNames.ofForm form).isKnown name = true ↔ (form.find? name).isSome = true := by
  rw [KnownNames.isKnown, KnownNames.ofForm, decide_eq_true_eq, Form.questionNames, List.mem_filterMap,
    Form.find?, List.find?_isSome]
  simp

theorem check_known (known : KnownNames) (e : Expression) (question : Text) :
    known.check e question =
      match e.criteria.find? fun c => !known.isKnown c.name with
      | none => .ok ()
      | some c => .error (.undefinedField c.name question) := by
  have first : (known.unknown e).head? =
      (e.criteria.find? fun c => !known.isKnown c.name).map Criterion.name := by
    rw [KnownNames.unknown, List.head?_filter, Expression.references, distinct_find, List.find?_map]
    rfl
  rw [KnownNames.check]
  cases found : e.criteria.find? fun c => !known.isKnown c.name with
  | none =>
      rw [found, Option.map_none, List.head?_eq_none_iff] at first
      simp [first]
  | some c =>
      rw [found, Option.map_some, List.head?_eq_some_iff] at first
      obtain ⟨_, parts⟩ := first
      simp [parts]

theorem check_behind {known : KnownNames} {front back : List Criterion}
    (earlier : ∀ c ∈ front, known.isKnown c.name = true) (join : Option Join) (question : Text) :
    known.check ⟨front ++ back, join⟩ question = known.check ⟨back, join⟩ question := by
  have none : front.find? (fun c => !known.isKnown c.name) = none := by
    rw [List.find?_eq_none]
    intro c mem
    simp [earlier c mem]
  rw [check_known, check_known, List.find?_append, none, Option.none_or]

theorem check_accepts {known : KnownNames} {e : Expression} {question : Text} :
    known.check e question = .ok () ↔ ∀ c ∈ e.criteria, known.isKnown c.name = true := by
  rw [check_known]
  cases found : e.criteria.find? fun c => !known.isKnown c.name with
  | none =>
      have all := List.find?_eq_none.mp found
      simp only [Bool.not_eq_true', Bool.not_eq_false] at all
      exact ⟨fun _ => all, fun _ => rfl⟩
  | some c =>
      have unknown := List.find?_some found
      constructor
      · intro impossible
        cases impossible
      · intro all
        rw [all c (List.mem_of_find?_eq_some found)] at unknown
        cases unknown

theorem check_refuses {known : KnownNames} {e : Expression} {question : Text} {error : CompileError} :
    known.check e question = .error error ↔ ∃ front c back, e.criteria = front ++ c :: back ∧
      (∀ other ∈ front, known.isKnown other.name = true) ∧ known.isKnown c.name = false ∧
      error = .undefinedField c.name question := by
  rw [check_known]
  constructor
  · intro refused
    cases found : e.criteria.find? fun c => !known.isKnown c.name with
    | none =>
        rw [found] at refused
        cases refused
    | some c =>
        rw [found] at refused
        cases refused
        obtain ⟨unknown, front, back, parts, earlier⟩ := List.find?_eq_some_iff_append.mp found
        exact ⟨front, c, back, parts, by simpa using earlier, by simpa using unknown, rfl⟩
  · intro parts
    obtain ⟨front, c, back, parts, earlier, unknown, rfl⟩ := parts
    have found : e.criteria.find? (fun c => !known.isKnown c.name) = some c :=
      List.find?_eq_some_iff_append.mpr
        ⟨by rw [unknown]; rfl, front, back, parts, fun other mem => by rw [earlier other mem]; rfl⟩
    rw [found]

end SurveyLogic
