import SurveyLogic.Proofs.Accounting

set_option autoImplicit false

namespace SurveyLogic

inductive Truncated (v : Validator) (known : KnownNames) :
    List Cell → List CompiledLogic → List Diagnostic → List CompiledLogic → List Diagnostic → Prop
  | nothing : Truncated v known [] [] [] [] []
  | compiled (cell : Cell) (cells : List Cell) (e : Expression) (compiled kept : List CompiledLogic)
      (errors first : List Diagnostic) (result : v.check known cell = .ok e)
      (rest : Truncated v known cells compiled errors kept first) :
      Truncated v known (cell :: cells) (⟨cell.row, cell.question, cell.column, e⟩ :: compiled) errors
        (⟨cell.row, cell.question, cell.column, e⟩ :: kept) first
  | rejected (cell : Cell) (cells : List Cell) (error : CompileError) (compiled : List CompiledLogic)
      (errors : List Diagnostic) (failure : v.check known cell = .error error)
      (unseen : Accounted v known cells compiled errors) :
      Truncated v known (cell :: cells) compiled
        (⟨.error, error.code, error.message, some cell.row, cell.question, some cell.column,
          some cell.text⟩ :: errors) []
        [⟨.error, error.code, error.message, some cell.row, cell.question, some cell.column,
          some cell.text⟩]

theorem findings_truncated (full cut : Validator) (known : KnownNames)
    (complete : full.options.failFast = false) (stops : cut.options.failFast = true)
    (same : cut.check known = full.check known) (cells : List Cell) :
    Truncated full known cells ((full.findings known cells).filterMap Finding.compiled?)
      ((full.findings known cells).filterMap Finding.rejected?)
      ((cut.findings known cells).filterMap Finding.compiled?)
      ((cut.findings known cells).filterMap Finding.rejected?) := by
  induction cells with
  | nil => exact .nothing
  | cons cell cells ih =>
      rw [Validator.findings, Validator.findings]
      cases result : full.check known cell with
      | ok e =>
          rw [examine_compiled result, examine_compiled (same ▸ result)]
          exact .compiled cell cells e _ _ _ _ result ih
      | error error =>
          rw [examine_rejected result, examine_rejected (same ▸ result), complete, stops]
          exact .rejected cell cells error _ _ result (findings_accounted complete cells)

def CompiledLogic.isBefore (logic : CompiledLogic) (d : Diagnostic) : Bool :=
  match d.row, d.column with
  | some row, some column =>
    logic.row < row || (logic.row = row && logic.column = .relevant && column = .constraint)
  | _, _ => false

theorem is_before_iff (cell other : Cell) (e : Expression) (error : CompileError) :
    CompiledLogic.isBefore ⟨cell.row, cell.question, cell.column, e⟩
        ⟨.error, error.code, error.message, some other.row, other.question, some other.column,
          some other.text⟩ = true ↔ cell.Before other := by
  simp [CompiledLogic.isBefore, Cell.Before, and_assoc]

theorem before_one_way {a b : Cell} (before : a.Before b) : ¬ b.Before a := by
  intro after
  rcases before with earlier | ⟨sameRow, -, constraint⟩
  · rcases after with later | ⟨sameRow, -, -⟩ <;> omega
  · rcases after with later | ⟨-, relevant, -⟩
    · omega
    · rw [constraint] at relevant
      cases relevant

section

variable {v : Validator} {known : KnownNames} {cells : List Cell} {compiled kept : List CompiledLogic}
  {errors first : List Diagnostic}

theorem truncated_accounted (truncated : Truncated v known cells compiled errors kept first) :
    Accounted v known cells compiled errors := by
  induction truncated with
  | nothing => exact .nothing
  | compiled cell cells e _ _ _ _ result _ ih => exact .compiled cell cells e _ _ result ih
  | rejected cell cells error _ _ failure unseen => exact .rejected cell cells error _ _ failure unseen

theorem truncated_errors (truncated : Truncated v known cells compiled errors kept first) :
    first = errors.take 1 := by
  induction truncated with
  | nothing => rfl
  | compiled _ _ _ _ _ _ _ _ _ ih => exact ih
  | rejected _ _ _ _ _ _ _ => rfl

theorem truncated_prefix (truncated : Truncated v known cells compiled errors kept first) :
    kept <+: compiled := by
  induction truncated with
  | nothing => exact List.prefix_rfl
  | compiled cell _ e _ _ _ _ _ _ ih => exact (List.prefix_cons_inj _).mpr ih
  | rejected _ _ _ _ _ _ _ => exact List.nil_prefix

-- In front of the first error is what is kept, since the cells are in order.
theorem truncated_before (truncated : Truncated v known cells compiled errors kept first)
    (ordered : cells.Pairwise Cell.Before) :
    kept = compiled.filter fun logic => errors.head?.all logic.isBefore := by
  induction truncated with
  | nothing => rfl
  | compiled cell cells e compiled kept errors first result rest ih =>
      rw [List.pairwise_cons] at ordered
      rw [List.filter_cons_of_pos, ← ih ordered.2]
      rw [Option.all_eq_true]
      intro d head
      obtain ⟨other, mem, error, -, rfl⟩ :=
        (accounted_errors (truncated_accounted rest) d).mp (List.mem_of_mem_head? head)
      exact (is_before_iff cell other e error).mpr (ordered.1 other mem)
  | rejected cell cells error compiled errors failure unseen =>
      rw [List.pairwise_cons] at ordered
      symm
      rw [List.filter_eq_nil_iff]
      intro logic mem
      obtain ⟨other, otherMem, e, -, rfl⟩ := (accounted_compiled unseen logic).mp mem
      rw [List.head?_cons, Option.all_some, is_before_iff]
      exact before_one_way (ordered.1 other otherMem)

end

structure Report.CutOff (cut full : Report) : Prop where
  valid : cut.valid = full.valid
  warnings : cut.warnings = full.warnings
  errors : cut.errors = full.errors.take 1
  kept : cut.compiled <+: full.compiled
  before : cut.compiled = full.compiled.filter fun logic => full.errors.head?.all logic.isBefore
  counted : cut.summary.expressionCount = cut.compiled.length + cut.errors.length
  id : cut.summary.id = full.summary.id
  questionCount : cut.summary.questionCount = full.summary.questionCount

def Validator.withFailFast (v : Validator) (enable : Bool) : Validator :=
  { v with options.failFast := enable }

theorem fail_fast_cuts_off (v : Validator) (form : Form) :
    ((v.withFailFast true).validate form).CutOff ((v.withFailFast false).validate form) := by
  have truncated : Truncated (v.withFailFast false) (.ofForm form) form.cells
      ((v.withFailFast false).validate form).compiled ((v.withFailFast false).validate form).errors
      ((v.withFailFast true).validate form).compiled ((v.withFailFast true).validate form).errors :=
    findings_truncated (v.withFailFast false) (v.withFailFast true) _ rfl rfl rfl form.cells
  have errors := truncated_errors truncated
  refine ⟨?_, rfl, errors, truncated_prefix truncated,
    truncated_before truncated (cells_from_ordered 1 form.survey), findings_length _, rfl, rfl⟩
  calc ((v.withFailFast true).validate form).valid
      = (((v.withFailFast false).validate form).errors.take 1).isEmpty := by rw [← errors]; rfl
    _ = ((v.withFailFast false).validate form).errors.isEmpty := by
      cases ((v.withFailFast false).validate form).errors <;> rfl

def brokenForm : Form where
  id := none
  survey := [⟨"integer".toList, some "age".toList, none, none, some ". > 0".toList⟩,
    ⟨"text".toList, some "pet".toList, none, some "${age} >".toList, some ". = 'cat'".toList⟩,
    ⟨"note".toList, some "age".toList, none, some "${pet} = 'cat'".toList, some "bad".toList⟩]

theorem broken_form_cut_off :
    let cut := ((Validator.ofOptions .standard).withFailFast true).validate brokenForm
    let full := ((Validator.ofOptions .standard).withFailFast false).validate brokenForm
    cut.CutOff full ∧ full.errors.map Diagnostic.row = [some 2, some 3] ∧
      cut.errors.map Diagnostic.row = [some 2] ∧ full.compiled.map CompiledLogic.row = [1, 2, 3] ∧
      cut.compiled.map CompiledLogic.row = [1] ∧ cut.warnings.map Diagnostic.row = [some 3] ∧
      full.summary.expressionCount = 5 ∧ cut.summary.expressionCount = 2 :=
  ⟨fail_fast_cuts_off (.ofOptions .standard) brokenForm, by decide, by decide, by decide, by decide,
    by decide, by decide, by decide⟩

end SurveyLogic
