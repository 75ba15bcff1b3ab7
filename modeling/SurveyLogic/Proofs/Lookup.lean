import SurveyLogic.Proofs.Agreement

/- Looking up the expression of a question in a report, against finding the row of the question in the sheet. The
   report holds compiled cells alone, so with a name on several rows the two may answer for different rows. -/

set_option autoImplicit false

namespace SurveyLogic

def Report.Offers (r : Report) (form : Form) (question : Text) (column : Column) (index : Nat)
    (e : Expression) : Prop :=
  ∃ row, form.survey[index]? = some row ∧ row.questionName = some question ∧ r.CompiledAt (index + 1) column e

def Form.NamesDistinct (form : Form) : Prop :=
  ∀ (i j : Nat) (row other : Row) (name : Text), form.survey[i]? = some row → form.survey[j]? = some other →
    row.questionName = some name → other.questionName = some name → i = j

structure Report.LooksUp (r : Report) (form : Form) (question : Text) (column : Column) : Prop where
  offered : (∃ e, r.expression? question column = some e) ↔ ∃ index e, r.Offers form question column index e
  first : ∀ e, r.expression? question column = some e ↔ ∃ index, r.Offers form question column index e ∧
    ∀ earlier < index, ∀ other, ¬ r.Offers form question column earlier other

structure Report.LooksUpRow (r : Report) (form : Form) (question : Text) (column : Column) : Prop where
  found : ∀ e, r.expression? question column = some e ↔ ∃ index row, form.find? question = some row ∧
    form.survey[index]? = some row ∧ r.CompiledAt (index + 1) column e
  blank : ∀ row, form.find? question = some row → row.logic column = none →
    r.expression? question column = none
  rejected : ∀ index row code message, form.find? question = some row → form.survey[index]? = some row →
    r.RejectedAt (index + 1) column code message → r.expression? question column = none

section

variable {v : Validator} {form : Form} {question : Text} {column : Column}

theorem compiled_at_cell (complete : v.options.failFast = false) {index : Nat} {row : Row} {e : Expression}
    (found : form.survey[index]? = some row) (compiled : (v.validate form).CompiledAt (index + 1) column e) :
    ∃ cell, cell.StandsIn (index + 1) row ∧ cell.column = column ∧ v.check (.ofForm form) cell = .ok e ∧
      ⟨index + 1, row.questionName, column, e⟩ ∈ (v.validate form).compiled := by
  obtain ⟨logic, entry, atRow, rfl, rfl⟩ := compiled
  obtain ⟨cell, mem, e, result, rfl⟩ := (accounted_compiled (validate_accounted complete form) logic).mp entry
  obtain ⟨other, otherRow, otherFound, stands⟩ := cells_from_mem.mp mem
  have same : other = index := Nat.succ.inj (stands.numbered.symm.trans atRow)
  rw [same, found] at otherFound
  cases otherFound
  rw [same] at stands
  rw [stands.numbered, stands.question] at entry
  exact ⟨cell, stands, rfl, result, entry⟩

theorem offers_entry (complete : v.options.failFast = false) {index : Nat} {e : Expression}
    (offers : (v.validate form).Offers form question column index e) :
    ⟨index + 1, some question, column, e⟩ ∈ (v.validate form).compiled := by
  obtain ⟨row, found, named, compiled⟩ := offers
  obtain ⟨_, _, _, _, entry⟩ := compiled_at_cell complete found compiled
  rwa [named] at entry

theorem entry_offers (complete : v.options.failFast = false) {logic : CompiledLogic}
    (entry : logic ∈ (v.validate form).compiled) (named : logic.question = some question)
    (atColumn : logic.column = column) :
    ∃ index, logic.row = index + 1 ∧ (v.validate form).Offers form question column index logic.expression := by
  obtain ⟨cell, mem, e, _, same⟩ := (accounted_compiled (validate_accounted complete form) logic).mp entry
  obtain ⟨index, row, found, stands⟩ := cells_from_mem.mp mem
  have number : logic.row = index + 1 := by rw [same, stands.numbered]
  refine ⟨index, number, row, found, ?_, logic, entry, number, atColumn, rfl⟩
  rw [← named, same, stands.question]

theorem offers_unique (complete : v.options.failFast = false) {index : Nat} {e f : Expression}
    (offers : (v.validate form).Offers form question column index e)
    (other : (v.validate form).Offers form question column index f) : e = f := by
  obtain ⟨row, found, _, compiled⟩ := offers
  obtain ⟨otherRow, otherFound, _, otherCompiled⟩ := other
  obtain ⟨cell, stands, atColumn, result, _⟩ := compiled_at_cell complete found compiled
  obtain ⟨otherCell, otherStands, otherColumn, otherResult, _⟩ :=
    compiled_at_cell complete otherFound otherCompiled
  rw [found] at otherFound
  cases otherFound
  rw [stands_unique stands otherStands (otherColumn.trans atColumn.symm), result] at otherResult
  exact Except.ok.inj otherResult

theorem looked_up_first (complete : v.options.failFast = false) {e : Expression}
    (found : (v.validate form).expression? question column = some e) :
    ∃ index, (v.validate form).Offers form question column index e ∧
      ∀ earlier < index, ∀ other, ¬ (v.validate form).Offers form question column earlier other := by
  obtain ⟨logic, first, rfl⟩ := Option.map_eq_some_iff.mp found
  obtain ⟨asked, front, back, parts, others⟩ := List.find?_eq_some_iff_append.mp first
  simp only [Bool.and_eq_true, beq_iff_eq] at asked
  have entry : logic ∈ (v.validate form).compiled := List.mem_of_find?_eq_some first
  obtain ⟨index, number, offers⟩ := entry_offers complete entry asked.2 asked.1
  refine ⟨index, offers, ?_⟩
  intro earlier before other offered
  have ordered := compiled_ordered complete form
  have there := offers_entry complete offered
  rw [parts, List.mem_append, List.mem_cons] at there
  rcases there with front_mem | same | behind
  · simpa using others _ front_mem
  · have equal : earlier + 1 = index + 1 := (congrArg CompiledLogic.row same).trans number
    omega
  · rw [parts, List.pairwise_append, List.pairwise_cons] at ordered
    have later : logic.row ≤ earlier + 1 := by
      rcases ordered.2.1.1 _ behind with less | ⟨sameRow, _⟩
      · exact Nat.le_of_lt less
      · exact Nat.le_of_eq sameRow
    omega

theorem offers_looked_up (complete : v.options.failFast = false) {index : Nat} {e : Expression}
    (offers : (v.validate form).Offers form question column index e) :
    ∃ f, (v.validate form).expression? question column = some f := by
  have entry := offers_entry complete offers
  rw [← Option.isSome_iff_exists, Report.expression?, Option.isSome_map, List.find?_isSome]
  exact ⟨_, entry, by simp⟩

theorem looks_up (complete : v.options.failFast = false) (form : Form) (question : Text) (column : Column) :
    (v.validate form).LooksUp form question column := by
  refine ⟨⟨?_, ?_⟩, fun e => ⟨looked_up_first complete, ?_⟩⟩
  · intro found
    obtain ⟨e, found⟩ := found
    obtain ⟨index, offers, _⟩ := looked_up_first complete found
    exact ⟨index, e, offers⟩
  · intro offered
    obtain ⟨_, _, offers⟩ := offered
    exact offers_looked_up complete offers
  · intro first
    obtain ⟨index, offers, earliest⟩ := first
    obtain ⟨f, found⟩ := offers_looked_up complete offers
    obtain ⟨other, otherOffers, otherEarliest⟩ := looked_up_first complete found
    have same : other = index := by
      rcases Nat.lt_trichotomy other index with less | same | less
      · exact absurd otherOffers (earliest other less f)
      · exact same
      · exact absurd offers (otherEarliest index less e)
    rw [same] at otherOffers
    rw [found, offers_unique complete offers otherOffers]

theorem found_by_name (distinct : form.NamesDistinct) {index : Nat} {row : Row}
    (found : form.survey[index]? = some row) (named : row.questionName = some question) :
    form.find? question = some row := by
  cases by_name : form.find? question with
  | none =>
      have all := List.find?_eq_none.mp by_name row (List.mem_of_getElem? found)
      simp [named] at all
  | some other =>
      obtain ⟨otherIndex, otherFound⟩ := List.mem_iff_getElem?.mp (List.mem_of_find?_eq_some by_name)
      have otherNamed : other.questionName = some question := by simpa using List.find?_some by_name
      rw [distinct _ _ _ _ _ otherFound found otherNamed named, found] at otherFound
      rw [otherFound]

theorem looks_up_row (complete : v.options.failFast = false) (distinct : form.NamesDistinct) (question : Text)
    (column : Column) : (v.validate form).LooksUpRow form question column := by
  have named : ∀ {row}, form.find? question = some row → row.questionName = some question := by
    intro row by_name
    simpa using List.find?_some by_name
  have found : ∀ e, (v.validate form).expression? question column = some e ↔ ∃ index row,
      form.find? question = some row ∧ form.survey[index]? = some row ∧
        (v.validate form).CompiledAt (index + 1) column e := by
    intro e
    rw [(looks_up complete form question column).first]
    refine ⟨?_, ?_⟩
    · intro first
      obtain ⟨index, ⟨row, here, carried, compiled⟩, _⟩ := first
      exact ⟨index, row, found_by_name distinct here carried, here, compiled⟩
    · intro there
      obtain ⟨index, row, by_name, here, compiled⟩ := there
      refine ⟨index, ⟨row, here, named by_name, compiled⟩, ?_⟩
      intro earlier before other offered
      obtain ⟨otherRow, otherHere, carried, _⟩ := offered
      have same := distinct _ _ _ _ _ otherHere here carried (named by_name)
      omega
  refine ⟨found, ?_, ?_⟩
  · intro row by_name empty
    rw [Option.eq_none_iff_forall_ne_some]
    intro e looked
    obtain ⟨index, other, otherName, here, compiled⟩ := (found e).mp looked
    rw [by_name] at otherName
    cases otherName
    obtain ⟨cell, stands, rfl, _, _⟩ := compiled_at_cell complete here compiled
    rw [logic_iff.mpr ⟨stands.written, stands.inked⟩] at empty
    cases empty
  · intro index row code message by_name here rejected
    rw [Option.eq_none_iff_forall_ne_some]
    intro e looked
    obtain ⟨otherIndex, other, otherName, there, compiled⟩ := (found e).mp looked
    rw [by_name] at otherName
    cases otherName
    rw [distinct _ _ _ _ _ there here (named by_name) (named by_name)] at compiled
    obtain ⟨cell, stands, rfl, result, _⟩ := compiled_at_cell complete here compiled
    have mem : cell ∈ form.cells := cells_from_mem.mpr ⟨index, row, here, stands⟩
    rw [← stands.numbered, rejected_at_iff complete mem] at rejected
    obtain ⟨error, failure, _⟩ := rejected
    rw [result] at failure
    cases failure

end

theorem names_distinct_iff {form : Form} : form.NamesDistinct ↔ form.duplicates = [] := by
  rw [Form.duplicates, duplicates_none_iff, List.Nodup, List.pairwise_filterMap, List.pairwise_iff_getElem]
  refine ⟨?_, ?_⟩
  · intro distinct i j inside otherInside less name named _ otherNamed same
    cases same
    have equal := distinct i j _ _ name (List.getElem?_eq_getElem inside) (List.getElem?_eq_getElem otherInside)
      named otherNamed
    omega
  · intro apart i j row other name found otherFound named otherNamed
    obtain ⟨inside, rfl⟩ := List.getElem?_eq_some_iff.mp found
    obtain ⟨otherInside, rfl⟩ := List.getElem?_eq_some_iff.mp otherFound
    rcases Nat.lt_trichotomy i j with less | same | less
    · exact absurd rfl (apart i j inside otherInside less name named name otherNamed)
    · exact same
    · exact absurd rfl (apart j i otherInside inside less name otherNamed name named)

theorem lookup_answers_first (v : Validator) (form : Form) (question : Text) (column : Column)
    (complete : v.options.failFast = false) :
    (v.validate form).LooksUp form question column ∧
      (form.NamesDistinct → (v.validate form).LooksUpRow form question column) ∧
      (v.options.checkDuplicateNames = true → ((v.validate form).warnings = [] ↔ form.NamesDistinct)) := by
  refine ⟨looks_up complete form question column, ?_, ?_⟩
  · exact fun distinct => looks_up_row complete distinct question column
  · intro checked
    rw [names_distinct_iff, Validator.validate]
    simp only [if_pos checked]

def twinForm : Form where
  id := none
  survey := [⟨"text".toList, some "pet".toList, none, some "broken".toList, none⟩,
    ⟨"text".toList, some " pet".toList, none, some "${pet} = 1".toList, none⟩]

theorem second_twin_answers :
    ((Validator.ofOptions .standard).validate twinForm).LooksUp twinForm "pet".toList .relevant ∧
      ((Validator.ofOptions .standard).validate twinForm).expression? "pet".toList .relevant =
        some (.single (.withValue "pet".toList .equals "1".toList)) ∧
      (twinForm.find? "pet".toList).bind Row.relevant = some "broken".toList ∧ ¬ twinForm.NamesDistinct ∧
      ((Validator.ofOptions .standard).validate ⟨none, twinForm.survey.tail⟩).LooksUpRow
        ⟨none, twinForm.survey.tail⟩ "pet".toList .relevant := by
  obtain ⟨first, -, warned⟩ :=
    lookup_answers_first (.ofOptions .standard) twinForm "pet".toList .relevant rfl
  obtain ⟨-, alone, noneWarned⟩ :=
    lookup_answers_first (.ofOptions .standard) ⟨none, twinForm.survey.tail⟩ "pet".toList .relevant rfl
  refine ⟨first, by decide, by decide, ?_, alone ((noneWarned rfl).mp (by decide))⟩
  rw [← warned rfl]
  decide

end SurveyLogic
