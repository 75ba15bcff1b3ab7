import SurveyLogic.Proofs.Accounting
import SurveyLogic.Proofs.Messages
import SurveyLogic.Proofs.References

set_option autoImplicit false

namespace SurveyLogic

def Report.CompiledAt (r : Report) (row : Nat) (column : Column) (e : Expression) : Prop :=
  ∃ logic ∈ r.compiled, logic.row = row ∧ logic.column = column ∧ logic.expression = e

def Report.RejectedAt (r : Report) (row : Nat) (column : Column) (code message : Text) : Prop :=
  ∃ d ∈ r.errors, d.row = some row ∧ d.column = some column ∧ d.code = code ∧ d.message = message

theorem stands_unique {cell other : Cell} {number : Nat} {row : Row} (stands : cell.StandsIn number row)
    (otherStands : other.StandsIn number row) (column : other.column = cell.column) : other = cell := by
  obtain ⟨number, question, cellColumn, text⟩ := cell
  obtain ⟨otherNumber, otherQuestion, otherColumn, otherText⟩ := other
  obtain ⟨rfl, rfl, written, -⟩ := stands
  obtain ⟨rfl, rfl, otherWritten, -⟩ := otherStands
  cases column
  cases written.symm.trans otherWritten
  rfl

theorem cell_unique {form : Form} {cell other : Cell} (mem : cell ∈ form.cells)
    (otherMem : other ∈ form.cells) (row : other.row = cell.row) (column : other.column = cell.column) :
    other = cell := by
  obtain ⟨index, here, found, stands⟩ := cells_from_mem.mp mem
  obtain ⟨otherIndex, there, otherFound, otherStands⟩ := cells_from_mem.mp otherMem
  have same : otherIndex = index := by
    have first := stands.numbered
    have second := otherStands.numbered
    omega
  rw [same, found] at otherFound
  cases otherFound
  rw [same] at otherStands
  exact stands_unique stands otherStands column

section

variable {v : Validator} {form : Form} {cell : Cell}

theorem validate_accounted (complete : v.options.failFast = false) (form : Form) :
    Accounted v (.ofForm form) form.cells (v.validate form).compiled (v.validate form).errors :=
  findings_accounted complete form.cells

theorem compiled_entry (complete : v.options.failFast = false) (mem : cell ∈ form.cells)
    {logic : CompiledLogic} (entry : logic ∈ (v.validate form).compiled) (row : logic.row = cell.row)
    (column : logic.column = cell.column) :
    ∃ e, v.check (.ofForm form) cell = .ok e ∧ logic = ⟨cell.row, cell.question, cell.column, e⟩ := by
  obtain ⟨other, otherMem, e, result, rfl⟩ :=
    (accounted_compiled (validate_accounted complete form) logic).mp entry
  rw [← cell_unique mem otherMem row column]
  exact ⟨e, result, rfl⟩

theorem error_entry (complete : v.options.failFast = false) (mem : cell ∈ form.cells) {d : Diagnostic}
    (entry : d ∈ (v.validate form).errors) (row : d.row = some cell.row)
    (column : d.column = some cell.column) :
    ∃ error, v.check (.ofForm form) cell = .error error ∧ d = ⟨.error, error.code, error.message,
      some cell.row, cell.question, some cell.column, some cell.text⟩ := by
  obtain ⟨other, otherMem, error, failure, rfl⟩ :=
    (accounted_errors (validate_accounted complete form) d).mp entry
  rw [← cell_unique mem otherMem (Option.some.inj row) (Option.some.inj column)]
  exact ⟨error, failure, rfl⟩

theorem compiled_at_iff (complete : v.options.failFast = false) (mem : cell ∈ form.cells) {e : Expression} :
    (v.validate form).CompiledAt cell.row cell.column e ↔ v.check (.ofForm form) cell = .ok e := by
  constructor
  · intro found
    obtain ⟨logic, entry, row, column, rfl⟩ := found
    obtain ⟨e, result, rfl⟩ := compiled_entry complete mem entry row column
    exact result
  · intro result
    exact ⟨_, (accounted_compiled (validate_accounted complete form) _).mpr ⟨cell, mem, e, result, rfl⟩,
      rfl, rfl, rfl⟩

theorem rejected_at_iff (complete : v.options.failFast = false) (mem : cell ∈ form.cells)
    {code message : Text} : (v.validate form).RejectedAt cell.row cell.column code message ↔
      ∃ error, v.check (.ofForm form) cell = .error error ∧ error.code = code ∧ error.message = message := by
  constructor
  · intro found
    obtain ⟨d, entry, row, column, rfl, rfl⟩ := found
    obtain ⟨error, failure, rfl⟩ := error_entry complete mem entry row column
    exact ⟨error, failure, rfl, rfl⟩
  · intro rejected
    obtain ⟨error, failure, rfl, rfl⟩ := rejected
    exact ⟨_, (accounted_errors (validate_accounted complete form) _).mpr ⟨cell, mem, error, failure, rfl⟩,
      rfl, rfl, rfl, rfl⟩

end

def Cell.reading (cell : Cell) : Except LogicError Expression :=
  (Reader.ofStyle (cell.column.style (cell.question.getD []))).expression cell.text

def Engine.compileCell (engine : Engine) (cell : Cell) : Except EngineError Expression :=
  engine.compileColumn cell.text cell.column (cell.question.getD [])

section

variable {settings : Settings} {known : KnownNames} {cell : Cell}

theorem compile_cell_ok {e : Expression} :
    (Engine.ofSettings settings).compileCell cell = .ok e ↔ cell.reading = .ok e := by
  rw [Engine.compileCell, compile_column, ← Cell.reading]
  cases cell.reading <;> simp [Except.mapError]

theorem compile_cell_error {error : EngineError} :
    (Engine.ofSettings settings).compileCell cell = .error error ↔
      ∃ refusal, cell.reading = .error refusal ∧ error = .logic refusal := by
  rw [Engine.compileCell, compile_column, ← Cell.reading]
  cases cell.reading <;> simp [Except.mapError, eq_comm]

end

section

variable {options : CheckOptions} {known : KnownNames} {cell : Cell}

theorem compiler_for_cell (options : CheckOptions) (cell : Cell) :
    (Validator.ofOptions options).compilerFor cell =
      .ofStyle (cell.column.style (cell.question.getD [])) := by
  rw [Validator.compilerFor]
  cases cell.column <;> rfl

theorem check_compiles {v : Validator} (verified : (v.compilerFor cell).verifyRoundTrip cell.text =
    (v.compilerFor cell).compile cell.text) : v.check known cell =
      match (v.compilerFor cell).compile cell.text with
      | .error error => .error error
      | .ok e =>
        if v.options.checkReferences then (known.check e (cell.question.getD [])).map fun _ => e
        else .ok e := by
  rw [Validator.check]
  simp only [verified, ite_self]
  cases (v.compilerFor cell).compile cell.text with
  | error error => rfl
  | ok e =>
      by_cases checked : v.options.checkReferences = true
      · simp only [if_pos checked, bind, Except.bind]
        cases known.check e (cell.question.getD []) <;> rfl
      · simp only [if_neg checked]
        rfl

theorem check_cell (options : CheckOptions) (known : KnownNames) (cell : Cell) :
    (Validator.ofOptions options).check known cell =
      match cell.reading with
      | .error refusal => .error (.logic refusal)
      | .ok e =>
        if options.checkReferences then (known.check e (cell.question.getD [])).map fun _ => e else .ok e := by
  rw [check_compiles (by rw [compiler_for_cell, verified_style]), compiler_for_cell, compile_of_style,
    ← Cell.reading]
  cases cell.reading <;> rfl

inductive CellOutcome (options : CheckOptions) (known : KnownNames) (cell : Cell) :
    Except CompileError Expression → Prop
  | refused (refusal : LogicError) (read : cell.reading = .error refusal) :
      CellOutcome options known cell (.error (.logic refusal))
  | undefined (e : Expression) (error : CompileError) (read : cell.reading = .ok e)
      (checked : options.checkReferences = true)
      (names : known.check e (cell.question.getD []) = .error error) :
      CellOutcome options known cell (.error error)
  | compiled (e : Expression) (read : cell.reading = .ok e)
      (names : options.checkReferences = true → known.check e (cell.question.getD []) = .ok ()) :
      CellOutcome options known cell (.ok e)

theorem cell_outcome (options : CheckOptions) (known : KnownNames) (cell : Cell) :
    CellOutcome options known cell ((Validator.ofOptions options).check known cell) := by
  rw [check_cell]
  cases read : cell.reading with
  | error refusal => exact .refused refusal read
  | ok e =>
      cases checked : options.checkReferences with
      | false => exact .compiled e read (by simp [checked])
      | true =>
          simp only [if_true]
          cases names : known.check e (cell.question.getD []) with
          | error error => exact .undefined e error read checked names
          | ok _ => exact .compiled e read fun _ => names

theorem check_ok_iff {e : Expression} : (Validator.ofOptions options).check known cell = .ok e ↔
    cell.reading = .ok e ∧
      (options.checkReferences = true → ∀ c ∈ e.criteria, known.isKnown c.name = true) := by
  constructor
  · intro result
    have outcome := cell_outcome options known cell
    rw [result] at outcome
    cases outcome with
    | compiled _ read names => exact ⟨read, fun checked => check_accepts.mp (names checked)⟩
  · intro result
    cases checked : options.checkReferences with
    | false => simp [check_cell, result.1, checked]
    | true =>
        simp only [check_cell, result.1, checked, if_true, check_accepts.mpr (result.2 checked)]
        rfl

theorem check_error_iff {error : CompileError} :
    (Validator.ofOptions options).check known cell = .error error ↔
      (∃ refusal, cell.reading = .error refusal ∧ error = .logic refusal) ∨
        (options.checkReferences = true ∧
          ∃ e, cell.reading = .ok e ∧ known.check e (cell.question.getD []) = .error error) := by
  constructor
  · intro failure
    have outcome := cell_outcome options known cell
    rw [failure] at outcome
    cases outcome with
    | refused refusal read => exact .inl ⟨refusal, read, rfl⟩
    | undefined e _ read checked names => exact .inr ⟨checked, e, read, names⟩
  · intro failure
    rcases failure with ⟨refusal, read, rfl⟩ | ⟨checked, e, read, names⟩
    · rw [check_cell, read]
    · simp only [check_cell, read, checked, if_true, names]
      rfl

theorem refused_at_reading {error : CompileError}
    (failure : (Validator.ofOptions options).check known cell = .error error)
    (code : error.code = "E001".toList) :
    ∃ refusal, cell.reading = .error refusal ∧ error = .logic refusal := by
  rcases check_error_iff.mp failure with refused | ⟨-, e, -, names⟩
  · exact refused
  · obtain ⟨_, _, _, -, -, -, rfl⟩ := check_refuses.mp names
    exact absurd code (show "E002".toList ≠ "E001".toList by decide)

theorem refused_at_name {error : CompileError}
    (failure : (Validator.ofOptions options).check known cell = .error error)
    (code : error.code = "E002".toList) :
    ∃ e field, options.checkReferences = true ∧ cell.reading = .ok e ∧ known.isKnown field = false ∧
      known.check e (cell.question.getD []) = .error error ∧
      error = .undefinedField field (cell.question.getD []) := by
  rcases check_error_iff.mp failure with ⟨refusal, -, rfl⟩ | ⟨checked, e, read, names⟩
  · exact absurd code (show "E001".toList ≠ "E002".toList by decide)
  · obtain ⟨_, c, _, -, -, unknown, rfl⟩ := check_refuses.mp names
    exact ⟨e, c.name, checked, read, unknown, names, rfl⟩

end

theorem own_name_known {form : Form} {cell : Cell} (mem : cell ∈ form.cells) {question : Text}
    (named : cell.question = some question) : (KnownNames.ofForm form).isKnown question = true := by
  obtain ⟨index, row, found, stands⟩ := cells_from_mem.mp mem
  exact known_iff_row.mpr ⟨index, row, found, stands.question.symm.trans named⟩

theorem read_criteria_named {style : ReferenceStyle} {text : Text} {e : Expression}
    (read : (Reader.ofStyle style).expression text = .ok e) : ∀ c ∈ e.criteria, c.name ≠ [] := by
  have compiled : (Compiler.ofStyle style).compile text = .ok e := by
    rw [compile_of_style, read]
    rfl
  obtain ⟨criteria, join, rfl, -, written⟩ := compiled_criteria compiled
  intro c mem
  rcases (written c mem).1.spellable with word | ⟨inked, -⟩
  · exact word.1
  · exact inked

theorem unknown_is_other {form : Form} {cell : Cell} {e : Expression} {c : Criterion}
    (mem : cell ∈ form.cells) (read : cell.reading = .ok e) (criterion : c ∈ e.criteria)
    (unknown : (KnownNames.ofForm form).isKnown c.name = false) : c.name ≠ cell.question.getD [] := by
  intro own
  cases named : cell.question with
  | none =>
      rw [named] at own
      exact read_criteria_named read c criterion own
  | some question =>
      rw [named, Option.getD_some] at own
      rw [own, own_name_known mem named] at unknown
      cases unknown

theorem unknown_iff_absent {form : Form} {name : Text} :
    (KnownNames.ofForm form).isKnown name = false ↔ form.find? name = none := by
  rw [← Bool.not_eq_true, known_iff_found, Bool.not_eq_true, Option.isSome_eq_false_iff,
    Option.isNone_iff_eq_none]

structure Report.AgreesAt (r : Report) (engine : Engine) (form : Form) (cell : Cell) : Prop where
  compiled : ∀ e, r.CompiledAt cell.row cell.column e ↔
    engine.compileCell cell = .ok e ∧ ∀ name ∈ e.references, (form.find? name).isSome = true
  refused : ∀ error, engine.compileCell cell = .error error ↔
    ∃ refusal, error = .logic refusal ∧
      r.RejectedAt cell.row cell.column "E001".toList refusal.message
  worded : ∀ message, r.RejectedAt cell.row cell.column "E001".toList message →
    ∃ refusal, engine.compileCell cell = .error (.logic refusal) ∧ message = refusal.message
  undefined : ∀ message, r.RejectedAt cell.row cell.column "E002".toList message ↔
    ∃ e front c back, engine.compileCell cell = .ok e ∧ e.criteria = front ++ c :: back ∧
      (∀ other ∈ front, (form.find? other.name).isSome = true) ∧ form.find? c.name = none ∧
      message = (CompileError.undefinedField c.name (cell.question.getD [])).message
  otherName : ¬ r.RejectedAt cell.row cell.column "E002".toList
    (CompileError.undefinedField (cell.question.getD []) (cell.question.getD [])).message

structure Report.Agrees (r : Report) (engine : Engine) (form : Form) : Prop where
  cells : ∀ index row cell, form.survey[index]? = some row → cell.StandsIn (index + 1) row →
    r.AgreesAt engine form cell
  codes : ∀ d ∈ r.errors, d.code = "E001".toList ∨ d.code = "E002".toList

section

variable {settings : Settings} {form : Form} {cell : Cell}

theorem engine_validates (settings : Settings) (form : Form) : (Engine.ofSettings settings).validate form =
    (Validator.ofOptions settings.validation).validate form := rfl

theorem rejected_refusal (complete : settings.validation.failFast = false) (mem : cell ∈ form.cells)
    {message : Text} :
    ((Engine.ofSettings settings).validate form).RejectedAt cell.row cell.column "E001".toList message ↔
      ∃ refusal, cell.reading = .error refusal ∧ message = refusal.message := by
  rw [engine_validates, rejected_at_iff complete mem]
  constructor
  · intro rejected
    obtain ⟨error, failure, code, rfl⟩ := rejected
    obtain ⟨refusal, read, rfl⟩ := refused_at_reading failure code
    exact ⟨refusal, read, rfl⟩
  · intro refused
    obtain ⟨refusal, read, rfl⟩ := refused
    exact ⟨_, check_error_iff.mpr (.inl ⟨refusal, read, rfl⟩), rfl, rfl⟩

theorem rejected_undefined (complete : settings.validation.failFast = false)
    (checked : settings.validation.checkReferences = true) (mem : cell ∈ form.cells) {message : Text} :
    ((Engine.ofSettings settings).validate form).RejectedAt cell.row cell.column "E002".toList message ↔
      ∃ e front c back, cell.reading = .ok e ∧ e.criteria = front ++ c :: back ∧
        (∀ other ∈ front, (KnownNames.ofForm form).isKnown other.name = true) ∧
        (KnownNames.ofForm form).isKnown c.name = false ∧
        message = (CompileError.undefinedField c.name (cell.question.getD [])).message := by
  rw [engine_validates, rejected_at_iff complete mem]
  constructor
  · intro rejected
    obtain ⟨error, failure, code, rfl⟩ := rejected
    obtain ⟨e, _, -, read, -, names, -⟩ := refused_at_name failure code
    obtain ⟨front, c, back, parts, earlier, unknown, rfl⟩ := check_refuses.mp names
    exact ⟨e, front, c, back, read, parts, earlier, unknown, rfl⟩
  · intro undefined
    obtain ⟨e, front, c, back, read, parts, earlier, unknown, rfl⟩ := undefined
    have names : (KnownNames.ofForm form).check e (cell.question.getD []) = _ :=
      check_refuses.mpr ⟨front, c, back, parts, earlier, unknown, rfl⟩
    exact ⟨_, check_error_iff.mpr (.inr ⟨checked, e, read, names⟩), rfl, rfl⟩

theorem agrees_at (complete : settings.validation.failFast = false)
    (checked : settings.validation.checkReferences = true) (mem : cell ∈ form.cells) :
    ((Engine.ofSettings settings).validate form).AgreesAt (Engine.ofSettings settings) form cell := by
  constructor
  · intro e
    rw [engine_validates, compiled_at_iff complete mem, check_ok_iff, compile_cell_ok]
    simp only [checked, true_imp_iff, references_mem, forall_exists_index, and_imp,
      forall_apply_eq_imp_iff₂, known_iff_found]
  · intro error
    simp only [compile_cell_error, rejected_refusal complete mem]
    constructor
    · intro failed
      obtain ⟨refusal, read, rfl⟩ := failed
      exact ⟨refusal, rfl, refusal, read, rfl⟩
    · intro rejected
      obtain ⟨refusal, rfl, actual, read, same⟩ := rejected
      rw [message_tells (expression_refused read) same.symm]
      exact ⟨actual, read, rfl⟩
  · intro message rejected
    obtain ⟨refusal, read, rfl⟩ := (rejected_refusal complete mem).mp rejected
    exact ⟨refusal, compile_cell_error.mpr ⟨refusal, read, rfl⟩, rfl⟩
  · intro message
    simp only [rejected_undefined complete checked mem, compile_cell_ok, known_iff_found, unknown_iff_absent]
  · intro rejected
    obtain ⟨e, front, c, back, read, parts, -, unknown, same⟩ :=
      (rejected_undefined complete checked mem).mp rejected
    have criterion : c ∈ e.criteria := by simp [parts]
    exact unknown_is_other mem read criterion unknown (undefined_tells same).symm

theorem rejected_codes {options : CheckOptions} {known : KnownNames} {error : CompileError}
    (failure : (Validator.ofOptions options).check known cell = .error error) :
    error.code = "E001".toList ∨ error.code = "E002".toList := by
  rcases check_error_iff.mp failure with ⟨refusal, -, rfl⟩ | ⟨-, e, -, names⟩
  · exact .inl rfl
  · obtain ⟨_, _, _, -, -, -, rfl⟩ := check_refuses.mp names
    exact .inr rfl

end

theorem validation_agrees (settings : Settings) (form : Form)
    (complete : settings.validation.failFast = false)
    (checked : settings.validation.checkReferences = true) :
    ((Engine.ofSettings settings).validate form).Agrees (Engine.ofSettings settings) form := by
  constructor
  · intro index row cell found stands
    exact agrees_at complete checked (cells_from_mem.mpr ⟨index, row, found, stands⟩)
  · intro d mem
    obtain ⟨cell, -, error, failure, rfl⟩ := (accounted_errors (validate_accounted complete form) d).mp mem
    exact rejected_codes failure

theorem dog_is_undefined :
    ((Engine.ofSettings ⟨⟨true, false, true, false⟩, true⟩).validate petForm).Agrees
        (Engine.ofSettings ⟨⟨true, false, true, false⟩, true⟩) petForm ∧
      ((Engine.ofSettings ⟨⟨true, false, true, false⟩, true⟩).validate petForm).RejectedAt 2 .relevant
        "E002".toList "Undefined field 'dog' referenced by ''".toList := by
  have agrees := validation_agrees ⟨⟨true, false, true, false⟩, true⟩ petForm rfl rfl
  have stands : Cell.StandsIn ⟨2, none, .relevant, "${dog} = 1".toList⟩ 2
      ⟨"note".toList, some " ".toList, none, some "${dog} = 1".toList, some ". = 1".toList⟩ :=
    ⟨rfl, rfl, rfl, by decide⟩
  have cell := agrees.cells 1 _ _ rfl stands
  exact ⟨agrees, (cell.undefined _).mpr ⟨.single (.withValue "dog".toList .equals "1".toList), [], _, [], rfl,
    rfl, nofun, rfl, rfl⟩⟩

end SurveyLogic
