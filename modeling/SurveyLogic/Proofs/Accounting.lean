import SurveyLogic.Proofs.DuplicateNames
import SurveyLogic.Proofs.Sheet

set_option autoImplicit false

namespace SurveyLogic

-- The cells that were checked, and the entry that each of them has in one of the two lists.
inductive Accounted (v : Validator) (known : KnownNames) :
    List Cell → List CompiledLogic → List Diagnostic → Prop
  | nothing : Accounted v known [] [] []
  | compiled (cell : Cell) (cells : List Cell) (e : Expression) (compiled : List CompiledLogic)
      (errors : List Diagnostic) (result : v.check known cell = .ok e)
      (rest : Accounted v known cells compiled errors) :
      Accounted v known (cell :: cells) (⟨cell.row, cell.question, cell.column, e⟩ :: compiled) errors
  | rejected (cell : Cell) (cells : List Cell) (error : CompileError) (compiled : List CompiledLogic)
      (errors : List Diagnostic) (failure : v.check known cell = .error error)
      (rest : Accounted v known cells compiled errors) :
      Accounted v known (cell :: cells) compiled
        (⟨.error, error.code, error.message, some cell.row, cell.question, some cell.column,
          some cell.text⟩ :: errors)

section

variable {v : Validator} {known : KnownNames}

theorem examine_compiled {cell : Cell} {e : Expression} (result : v.check known cell = .ok e) :
    v.examine known cell = .compiled ⟨cell.row, cell.question, cell.column, e⟩ := by
  rw [Validator.examine, result]

theorem examine_rejected {cell : Cell} {error : CompileError}
    (failure : v.check known cell = .error error) :
    v.examine known cell = .rejected ⟨.error, error.code, error.message, some cell.row, cell.question,
      some cell.column, some cell.text⟩ := by
  rw [Validator.examine, failure]
  rfl

theorem findings_map (complete : v.options.failFast = false) (cells : List Cell) :
    v.findings known cells = cells.map (v.examine known) := by
  induction cells with
  | nil => rfl
  | cons cell cells ih =>
      rw [Validator.findings, List.map_cons, ih, complete]
      cases v.examine known cell <;> rfl

theorem findings_accounted (complete : v.options.failFast = false) (cells : List Cell) :
    Accounted v known cells ((v.findings known cells).filterMap Finding.compiled?)
      ((v.findings known cells).filterMap Finding.rejected?) := by
  induction cells with
  | nil => exact .nothing
  | cons cell cells ih =>
      rw [Validator.findings]
      cases result : v.check known cell with
      | ok e =>
          rw [examine_compiled result]
          exact .compiled cell cells e _ _ result ih
      | error error =>
          rw [examine_rejected result, complete]
          exact .rejected cell cells error _ _ result ih

theorem accounted_length {cells : List Cell} {compiled : List CompiledLogic} {errors : List Diagnostic}
    (accounted : Accounted v known cells compiled errors) :
    compiled.length + errors.length = cells.length := by
  induction accounted with
  | nothing => rfl
  | compiled _ _ _ _ _ _ _ ih =>
      rw [List.length_cons, List.length_cons, ← ih]
      omega
  | rejected _ _ _ _ _ _ _ ih =>
      rw [List.length_cons, List.length_cons, ← ih]
      omega

theorem accounted_compiled {cells : List Cell} {compiled : List CompiledLogic} {errors : List Diagnostic}
    (accounted : Accounted v known cells compiled errors) (logic : CompiledLogic) :
    logic ∈ compiled ↔ ∃ cell ∈ cells, ∃ e, v.check known cell = .ok e ∧
      logic = ⟨cell.row, cell.question, cell.column, e⟩ := by
  induction accounted with
  | nothing => simp
  | compiled cell cells e _ _ result _ ih => simp [ih, result]
  | rejected cell cells error _ _ failure _ ih => simp [ih, failure]

theorem accounted_errors {cells : List Cell} {compiled : List CompiledLogic} {errors : List Diagnostic}
    (accounted : Accounted v known cells compiled errors) (d : Diagnostic) :
    d ∈ errors ↔ ∃ cell ∈ cells, ∃ error, v.check known cell = .error error ∧
      d = ⟨.error, error.code, error.message, some cell.row, cell.question, some cell.column,
        some cell.text⟩ := by
  induction accounted with
  | nothing => simp
  | compiled cell cells e _ _ result _ ih => simp [ih, result]
  | rejected cell cells error _ _ failure _ ih => simp [ih, failure]

theorem accounted_severity {cells : List Cell} {compiled : List CompiledLogic} {errors : List Diagnostic}
    (accounted : Accounted v known cells compiled errors) : ∀ d ∈ errors, d.severity = .error := by
  intro d mem
  obtain ⟨cell, -, error, -, rfl⟩ := (accounted_errors accounted d).mp mem
  rfl

end

def CompiledLogic.Before (a b : CompiledLogic) : Prop :=
  a.row < b.row ∨ (a.row = b.row ∧ a.column = .relevant ∧ b.column = .constraint)

section

variable {v : Validator}

theorem compiled_cells (complete : v.options.failFast = false) (form : Form) : (v.validate form).compiled =
    form.cells.filterMap fun cell => (v.examine (.ofForm form) cell).compiled? := by
  simp only [Validator.validate, findings_map complete, List.filterMap_map, Function.comp_def]

theorem error_cells (complete : v.options.failFast = false) (form : Form) : (v.validate form).errors =
    form.cells.filterMap fun cell => (v.examine (.ofForm form) cell).rejected? := by
  simp only [Validator.validate, findings_map complete, List.filterMap_map, Function.comp_def]

theorem examined_place {known : KnownNames} {cell : Cell} {logic : CompiledLogic}
    (found : (v.examine known cell).compiled? = some logic) :
    logic.row = cell.row ∧ logic.column = cell.column := by
  cases result : v.check known cell with
  | error error =>
      rw [examine_rejected result] at found
      cases found
  | ok e =>
      rw [examine_compiled result] at found
      cases found
      exact ⟨rfl, rfl⟩

theorem compiled_ordered (complete : v.options.failFast = false) (form : Form) :
    (v.validate form).compiled.Pairwise CompiledLogic.Before := by
  rw [compiled_cells complete]
  refine (cells_from_ordered 1 form.survey).filterMap _ ?_
  intro a b before logic here later there
  obtain ⟨row, column⟩ := examined_place here
  obtain ⟨laterRow, laterColumn⟩ := examined_place there
  rwa [CompiledLogic.Before, row, column, laterRow, laterColumn]

theorem summary_complete (complete : v.options.failFast = false) (form : Form) :
    (v.validate form).summary = ⟨form.id, form.questionNames.length, form.cells.length⟩ := by
  rw [Validator.validate, findings_map complete, List.length_map]

end

theorem findings_length (findings : List Finding) :
    findings.length =
      (findings.filterMap Finding.compiled?).length + (findings.filterMap Finding.rejected?).length := by
  induction findings with
  | nil => rfl
  | cons finding findings ih =>
      cases finding with
      | compiled logic =>
          rw [List.length_cons, ih]
          exact Nat.add_right_comm _ _ _
      | rejected diagnostic =>
          rw [List.length_cons, ih]
          exact Nat.add_assoc _ _ _

structure Report.Complete (v : Validator) (form : Form) (r : Report) : Prop where
  listed : form.Lists form.cells
  accounted : Accounted v (.ofForm form) form.cells r.compiled r.errors
  counted : r.summary.expressionCount = r.compiled.length + r.errors.length
  total : r.compiled.length + r.errors.length = form.cells.length
  verdict : r.valid = true ↔ r.errors = []
  errors : ∀ d ∈ r.errors, d.severity = .error
  warnings : ∀ d ∈ r.warnings, d.severity = .warning

theorem every_cell_accounted_for (v : Validator) (form : Form) (complete : v.options.failFast = false) :
    (v.validate form).Complete v form := by
  have accounted : Accounted v (.ofForm form) form.cells (v.validate form).compiled
      (v.validate form).errors := findings_accounted complete form.cells
  refine ⟨cells_listed form, accounted, findings_length _, accounted_length accounted, ?_,
    accounted_severity accounted, ?_⟩
  · rw [Validator.validate, List.isEmpty_iff]
  · rw [Validator.validate]
    by_cases checked : v.options.checkDuplicateNames = true
    · simp only [if_pos checked]
      exact duplicates_severity 1 [] form.survey
    · simp [checked]

def petForm : Form where
  id := none
  survey := [⟨"text".toList, some " pet ".toList, none, some " ${pet} = 'cat'".toList, some "\t".toList⟩,
    ⟨"note".toList, some " ".toList, none, some "${dog} = 1".toList, some ". = 1".toList⟩,
    ⟨"text".toList, some "pet".toList, none, none, some "bad".toList⟩]

theorem pets_accounted_for :
    ((Validator.ofOptions .standard).validate petForm).Complete (.ofOptions .standard) petForm ∧
      petForm.cells.map (fun cell => (cell.row, cell.column)) =
        [(1, .relevant), (2, .relevant), (2, .constraint), (3, .constraint)] ∧
      ((Validator.ofOptions .standard).validate petForm).compiled.length = 1 ∧
      ((Validator.ofOptions .standard).validate petForm).warnings.length = 1 :=
  ⟨every_cell_accounted_for (.ofOptions .standard) petForm rfl, by decide, by decide, by decide⟩

end SurveyLogic
