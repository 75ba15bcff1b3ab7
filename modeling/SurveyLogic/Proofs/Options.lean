import Mathlib.Data.List.Forall2
import SurveyLogic.Proofs.Agreement
import SurveyLogic.Proofs.Rebuilding

set_option autoImplicit false

namespace SurveyLogic

namespace Validator

def ofStyles (relevant constraint : ReferenceStyle) (options : CheckOptions) : Validator :=
  ⟨.ofStyle relevant, .ofStyle constraint, options⟩

def withVerification (v : Validator) (enable : Bool) : Validator :=
  { v with options.verifyRoundTrip := enable }

def withDuplicates (v : Validator) (enable : Bool) : Validator :=
  { v with options.checkDuplicateNames := enable }

def withReferences (v : Validator) (enable : Bool) : Validator :=
  { v with options.checkReferences := enable }

end Validator

def Validator.Styled (v : Validator) : Prop := ∀ cell, ∃ style, v.compilerFor cell = .ofStyle style

def Report.undefinedAt (r : Report) (row : Nat) (column : Column) : Bool :=
  r.errors.any fun d => d.code = "E002".toList && d.row = some row && d.column = some column

structure CompiledLogic.Replaces (logic : CompiledLogic) (v : Validator) (d : Diagnostic) : Prop where
  row : d.row = some logic.row
  question : d.question = logic.question
  column : d.column = some logic.column
  compiles : ∃ text, d.context = some text ∧
    (v.compilerFor ⟨logic.row, logic.question, logic.column, text⟩).compile text = .ok logic.expression

structure Report.Relaxes (lax strict : Report) (v : Validator) : Prop where
  warnings : lax.warnings = strict.warnings
  summary : lax.summary = strict.summary
  errors : lax.errors = strict.errors.filter fun d => d.code ≠ "E002".toList
  codes : ∀ d ∈ lax.errors, d.code = "E001".toList
  kept : strict.compiled = lax.compiled.filter fun logic => !strict.undefinedAt logic.row logic.column
  turned : List.Forall₂ (fun logic d => logic.Replaces v d)
    (lax.compiled.filter fun logic => strict.undefinedAt logic.row logic.column)
    (strict.errors.filter fun d => d.code = "E002".toList)
  ordered : lax.compiled.Pairwise CompiledLogic.Before

structure Validator.OptionsApart (v : Validator) (form : Form) : Prop where
  verification : (v.withVerification true).validate form = (v.withVerification false).validate form
  duplicates : (v.withDuplicates false).validate form =
    { (v.withDuplicates true).validate form with warnings := [] }
  references : v.options.failFast = false →
    ((v.withReferences false).validate form).Relaxes ((v.withReferences true).validate form) v

theorem findings_same {v w : Validator} (checks : v.check = w.check)
    (ends : v.options.failFast = w.options.failFast) (known : KnownNames) (cells : List Cell) :
    v.findings known cells = w.findings known cells := by
  induction cells with
  | nil => rfl
  | cons cell cells ih =>
      rw [Validator.findings, Validator.findings, Validator.examine, Validator.examine, checks, ends, ih]

theorem validate_same (v w : Validator) (checks : v.check = w.check)
    (ends : v.options.failFast = w.options.failFast) (form : Form) :
    v.validate form = { w.validate form with warnings := (v.validate form).warnings } := by
  simp only [Validator.validate, findings_same checks ends]

theorem of_styles_styled (relevant constraint : ReferenceStyle) (options : CheckOptions) :
    (Validator.ofStyles relevant constraint options).Styled := by
  intro cell
  rw [Validator.compilerFor]
  cases cell.column with
  | relevant => exact ⟨relevant, rfl⟩
  | constraint => exact ⟨_, built_bound constraint (cell.question.getD [])⟩

inductive Relaxed (v : Validator) (cell : Cell) : Finding → Finding → Prop
  | refused (d : Diagnostic) (code : d.code = "E001".toList) : Relaxed v cell (.rejected d) (.rejected d)
  | undefined (d : Diagnostic) (logic : CompiledLogic) (code : d.code = "E002".toList)
      (row : logic.row = cell.row) (column : logic.column = cell.column) (replaces : logic.Replaces v d) :
      Relaxed v cell (.rejected d) (.compiled logic)
  | compiled (logic : CompiledLogic) (row : logic.row = cell.row) (column : logic.column = cell.column) :
      Relaxed v cell (.compiled logic) (.compiled logic)

section

variable {v : Validator} (styled : v.Styled) (known : KnownNames) (cell : Cell)

include styled

theorem styled_verified : (v.compilerFor cell).verifyRoundTrip cell.text =
    (v.compilerFor cell).compile cell.text := by
  obtain ⟨style, built⟩ := styled cell
  rw [built, verified_style]

theorem verification_same :
    (v.withVerification true).check known cell = (v.withVerification false).check known cell := by
  have verified := styled_verified styled cell
  exact (check_compiles (v := v.withVerification true) verified).trans
    (check_compiles (v := v.withVerification false) verified).symm

-- Names are looked at once a text has compiled, so what is refused for a name compiles where none is looked at.
theorem cell_relaxed : Relaxed v cell ((v.withReferences true).examine known cell)
    ((v.withReferences false).examine known cell) := by
  have verified : ∀ enable, ((v.withReferences enable).compilerFor cell).verifyRoundTrip cell.text =
      ((v.withReferences enable).compilerFor cell).compile cell.text := fun _ => styled_verified styled cell
  obtain ⟨style, built⟩ := styled cell
  have read : ∀ enable, ((v.withReferences enable).compilerFor cell).compile cell.text =
      ((Reader.ofStyle style).expression cell.text).mapError .logic := by
    intro enable
    have same : (v.withReferences enable).compilerFor cell = v.compilerFor cell := rfl
    rw [same, built, compile_of_style]
  cases outcome : (Reader.ofStyle style).expression cell.text with
  | error refusal =>
      have refused : ∀ enable, (v.withReferences enable).check known cell = .error (.logic refusal) := by
        intro enable
        rw [check_compiles (verified enable), read, outcome]
        rfl
      rw [examine_rejected (refused true), examine_rejected (refused false)]
      exact .refused _ rfl
  | ok e =>
      have compiles : ∀ enable, ((v.withReferences enable).compilerFor cell).compile cell.text = .ok e := by
        intro enable
        rw [read, outcome]
        rfl
      have lax : (v.withReferences false).check known cell = .ok e := by
        rw [check_compiles (verified false), compiles]
        rfl
      have strict : (v.withReferences true).check known cell =
          (known.check e (cell.question.getD [])).map fun _ => e := by
        rw [check_compiles (verified true), compiles]
        rfl
      rw [examine_compiled lax]
      cases names : known.check e (cell.question.getD []) with
      | ok _ =>
          rw [names] at strict
          rw [examine_compiled strict]
          exact .compiled _ rfl rfl
      | error error =>
          obtain ⟨_, _, _, -, -, -, rfl⟩ := check_refuses.mp names
          rw [names] at strict
          rw [examine_rejected strict]
          exact .undefined _ _ rfl rfl rfl ⟨rfl, rfl, rfl, cell.text, rfl, compiles true⟩

end

section

variable {v : Validator} {form : Form}

theorem undefined_at_iff (complete : v.options.failFast = false) {cell : Cell} (mem : cell ∈ form.cells) :
    (v.validate form).undefinedAt cell.row cell.column = true ↔
      ∃ d, v.examine (.ofForm form) cell = .rejected d ∧ d.code = "E002".toList := by
  rw [Report.undefinedAt, List.any_eq_true]
  refine ⟨?_, ?_⟩
  · intro found
    obtain ⟨d, entry, place⟩ := found
    simp only [Bool.and_eq_true, decide_eq_true_eq] at place
    obtain ⟨⟨code, row⟩, column⟩ := place
    obtain ⟨error, failure, rfl⟩ := error_entry complete mem entry row column
    exact ⟨_, examine_rejected failure, code⟩
  · intro rejected
    obtain ⟨d, examined, code⟩ := rejected
    cases result : v.check (.ofForm form) cell with
    | ok e =>
        rw [examine_compiled result] at examined
        cases examined
    | error error =>
        rw [examine_rejected result] at examined
        cases examined
        have entry := (accounted_errors (validate_accounted complete form) _).mpr ⟨cell, mem, error, result, rfl⟩
        exact ⟨_, entry, by simpa using code⟩

end

section

variable {v strict lax : Validator} {form : Form} (strictComplete : strict.options.failFast = false)
  (laxComplete : lax.options.failFast = false)
  (relaxed : ∀ cell, Relaxed v cell (strict.examine (.ofForm form) cell) (lax.examine (.ofForm form) cell))

include strictComplete laxComplete relaxed

theorem relaxed_errors : (lax.validate form).errors =
    (strict.validate form).errors.filter fun d => d.code ≠ "E002".toList := by
  rw [error_cells laxComplete, error_cells strictComplete, List.filter_filterMap]
  apply List.filterMap_congr
  intro cell _
  have here := relaxed cell
  generalize strict.examine _ cell = before, lax.examine _ cell = after at here
  cases here with
  | refused d code => simp [Finding.rejected?, Option.filter_some, code]
  | undefined d logic code _ _ _ => simp [Finding.rejected?, Option.filter_some, code]
  | compiled logic _ _ => rfl

omit strictComplete in
theorem relaxed_codes : ∀ d ∈ (lax.validate form).errors, d.code = "E001".toList := by
  intro d mem
  rw [error_cells laxComplete, List.mem_filterMap] at mem
  obtain ⟨cell, _, found⟩ := mem
  have here := relaxed cell
  generalize strict.examine _ cell = before, lax.examine _ cell = after at here found
  cases here with
  | refused d code =>
      cases found
      exact code
  | undefined _ _ _ _ _ _ => cases found
  | compiled _ _ _ => cases found

theorem relaxed_kept : (strict.validate form).compiled = (lax.validate form).compiled.filter fun logic =>
    !(strict.validate form).undefinedAt logic.row logic.column := by
  rw [compiled_cells strictComplete, compiled_cells laxComplete, List.filter_filterMap]
  apply List.filterMap_congr
  intro cell mem
  have here := relaxed cell
  have undefined := undefined_at_iff strictComplete mem
  generalize strict.examine _ cell = before, lax.examine _ cell = after at here undefined
  cases here with
  | refused _ _ => rfl
  | undefined d logic code row column _ =>
      simp [Finding.compiled?, Option.filter_some, row, column, undefined, code]
  | compiled logic row column => simp [Finding.compiled?, Option.filter_some, row, column, undefined]

theorem relaxed_turned : List.Forall₂ (fun logic d => logic.Replaces v d)
    ((lax.validate form).compiled.filter fun logic =>
      (strict.validate form).undefinedAt logic.row logic.column)
    ((strict.validate form).errors.filter fun d => d.code = "E002".toList) := by
  rw [compiled_cells laxComplete, error_cells strictComplete, List.filter_filterMap, List.filter_filterMap]
  have cells : List.Forall₂ (fun a b => a = b ∧ a ∈ form.cells) form.cells form.cells :=
    List.forall₂_same.mpr fun cell mem => ⟨rfl, mem⟩
  refine List.rel_filterMap ?_ cells
  rintro cell _ ⟨rfl, mem⟩
  beta_reduce
  have here := relaxed cell
  have undefined := undefined_at_iff strictComplete mem
  generalize strict.examine _ cell = before, lax.examine _ cell = after at here undefined
  cases here with
  | refused d code => simp [Finding.compiled?, Finding.rejected?, Option.filter_some, code]
  | undefined d logic code row column replaces =>
      simp [Finding.compiled?, Finding.rejected?, Option.filter_some, row, column, undefined, code, replaces]
  | compiled logic row column =>
      simp [Finding.compiled?, Finding.rejected?, Option.filter_some, row, column, undefined]

end

theorem options_apart (relevant constraint : ReferenceStyle) (options : CheckOptions) (form : Form) :
    (Validator.ofStyles relevant constraint options).OptionsApart form := by
  have styled := of_styles_styled relevant constraint options
  generalize Validator.ofStyles relevant constraint options = v at styled
  refine ⟨?_, validate_same (v.withDuplicates false) (v.withDuplicates true) rfl rfl form, ?_⟩
  · refine validate_same (v.withVerification true) (v.withVerification false) ?_ rfl form
    funext known cell
    exact verification_same styled known cell
  · intro complete
    have strictComplete : (v.withReferences true).options.failFast = false := complete
    have laxComplete : (v.withReferences false).options.failFast = false := complete
    have relaxed := cell_relaxed styled (.ofForm form)
    exact ⟨rfl, (summary_complete laxComplete form).trans (summary_complete strictComplete form).symm,
      relaxed_errors strictComplete laxComplete relaxed, relaxed_codes laxComplete relaxed,
      relaxed_kept strictComplete laxComplete relaxed, relaxed_turned strictComplete laxComplete relaxed,
      compiled_ordered laxComplete form⟩

theorem pets_without_references :
    let v := Validator.ofStyles .bare (.contextual []) .standard
    ((v.withReferences false).validate petForm).Relaxes ((v.withReferences true).validate petForm) v ∧
      ((v.withReferences true).validate petForm).compiled.map CompiledLogic.row = [1] ∧
      ((v.withReferences false).validate petForm).compiled.map CompiledLogic.row = [1, 2] ∧
      ((v.withReferences false).validate petForm).errors.map Diagnostic.row = [some 2, some 3] :=
  ⟨(options_apart .bare (.contextual []) .standard petForm).references rfl, by decide, by decide, by decide⟩

end SurveyLogic
