import Mathlib.Data.List.NodupEquivFin
import SurveyLogic.Proofs.Agreement

set_option autoImplicit false

namespace SurveyLogic

structure Form.Widens (wide form : Form) (place : Nat → Nat) : Prop where
  ordered : StrictMono place
  kept : ∀ index row, form.survey[index]? = some row → wide.survey[place index]? = some row

def Form.Adds (wide form : Form) (place : Nat → Nat) (name : Text) : Prop :=
  ∃ (index : Nat) (row : Row), wide.survey[index]? = some row ∧ row.questionName = some name ∧
    ∀ old < form.survey.length, place old ≠ index

def Expression.MentionsFirst (e : Expression) (name later : Text) : Prop :=
  ∃ front c between d back, e.criteria = front ++ c :: (between ++ d :: back) ∧ c.name = name ∧
    d.name = later ∧ (∀ other ∈ front, other.name ≠ name) ∧
    ∀ other ∈ front ++ c :: between, other.name ≠ later

section

variable {wide form : Form} {place : Nat → Nat}

theorem known_widens (widens : wide.Widens form place) {name : Text}
    (known : (KnownNames.ofForm form).isKnown name = true) : (KnownNames.ofForm wide).isKnown name = true := by
  obtain ⟨index, row, found, named⟩ := known_iff_row.mp known
  exact known_iff_row.mpr ⟨place index, row, widens.kept index row found, named⟩

theorem known_if_added (widens : wide.Widens form place) {name : Text}
    (unknown : (KnownNames.ofForm form).isKnown name = false) :
    (KnownNames.ofForm wide).isKnown name = true ↔ wide.Adds form place name := by
  constructor
  · intro known
    obtain ⟨index, row, found, named⟩ := known_iff_row.mp known
    refine ⟨index, row, found, named, ?_⟩
    rintro old inside rfl
    have old := List.getElem?_eq_getElem inside
    cases found.symm.trans (widens.kept _ _ old)
    rw [known_iff_row.mpr ⟨_, _, old, named⟩] at unknown
    cases unknown
  · intro added
    obtain ⟨index, row, found, named, -⟩ := added
    exact known_iff_row.mpr ⟨index, row, found, named⟩

theorem cell_widens (widens : wide.Widens form place) {index : Nat} {row : Row} {cell : Cell}
    (found : form.survey[index]? = some row) (stands : cell.StandsIn (index + 1) row) :
    { cell with row := place index + 1 } ∈ wide.cells :=
  cells_from_mem.mpr ⟨place index, row, widens.kept index row found, rfl, stands.question, stands.written,
    stands.inked⟩

end

-- With more names known, an expression that was refused for a name is refused for that name still, or it
-- is the next unknown name that counts.
theorem check_widens {known wider : KnownNames} {e : Expression} {question field : Text}
    (more : ∀ name, known.isKnown name = true → wider.isKnown name = true)
    (refused : known.check e question = .error (.undefinedField field question)) :
    (wider.isKnown field = false → wider.check e question = .error (.undefinedField field question)) ∧
      (wider.isKnown field = true → wider.check e question = .ok () ∨
        ∃ later, e.MentionsFirst field later ∧
          wider.check e question = .error (.undefinedField later question)) := by
  obtain ⟨front, c, back, parts, earlier, unknown, same⟩ := check_refuses.mp refused
  cases same
  have front_known : ∀ other ∈ front, wider.isKnown other.name = true :=
    fun other mem => more _ (earlier other mem)
  constructor
  · intro still
    exact check_refuses.mpr ⟨front, c, back, parts, front_known, still, rfl⟩
  · intro cured
    have first_known : ∀ other ∈ front ++ [c], wider.isKnown other.name = true := by
      simpa [or_imp, forall_and, cured] using front_known
    have behind : wider.check e question = wider.check ⟨back, e.operator⟩ question := calc
      wider.check e question = wider.check ⟨(front ++ [c]) ++ back, e.operator⟩ question := by
        rw [List.append_assoc, List.singleton_append, ← parts]
      _ = wider.check ⟨back, e.operator⟩ question := check_behind first_known _ _
    rw [behind]
    cases rest : wider.check ⟨back, e.operator⟩ question with
    | ok _ => exact .inl rfl
    | error error =>
        obtain ⟨between, d, last, rfl, between_known, still, rfl⟩ := check_refuses.mp rest
        refine .inr ⟨d.name, ⟨front, c, between, d, last, parts, rfl, rfl, ?_, ?_⟩, rfl⟩
        · intro other mem same
          rw [← same, earlier other mem] at unknown
          cases unknown
        · intro other mem same
          have seen : wider.isKnown other.name = true := by
            rw [List.append_cons, List.mem_append] at mem
            exact mem.elim (first_known other) (between_known other)
          rw [same, still] at seen
          cases seen

structure Report.KeepsAt (wide narrow : Report) (compiler : Compiler) (Added : Text → Prop) (cell : Cell)
    (number : Nat) : Prop where
  compiled : ∀ logic ∈ narrow.compiled, logic.row = cell.row → logic.column = cell.column →
    { logic with row := number } ∈ wide.compiled
  refused : ∀ d ∈ narrow.errors, d.row = some cell.row → d.column = some cell.column →
    d.code = "E001".toList → { d with row := some number } ∈ wide.errors
  named : ∀ d ∈ narrow.errors, d.row = some cell.row → d.column = some cell.column →
    d.code = "E002".toList →
      ∃ field, d.message = (CompileError.undefinedField field (cell.question.getD [])).message
  undefined : ∀ d ∈ narrow.errors, d.row = some cell.row → d.column = some cell.column →
    d.code = "E002".toList → ∀ field,
      d.message = (CompileError.undefinedField field (cell.question.getD [])).message →
      (¬ Added field → { d with row := some number } ∈ wide.errors) ∧
        (Added field → ∃ e, compiler.compile cell.text = .ok e ∧
          (⟨number, cell.question, cell.column, e⟩ ∈ wide.compiled ∨ ∃ later, e.MentionsFirst field later ∧
            { d with
              row := some number
              message := (CompileError.undefinedField later (cell.question.getD [])).message } ∈ wide.errors))

theorem compiler_reads {options : CheckOptions} {cell : Cell} {e : Expression} (read : cell.reading = .ok e) :
    ((Validator.ofOptions options).compilerFor cell).compile cell.text = .ok e := by
  rw [compiler_for_cell, compile_of_style, ← Cell.reading, read]
  rfl

theorem inserted_rows_keep (options : CheckOptions) (complete : options.failFast = false) (wide form : Form)
    (place : Nat → Nat) (widens : wide.Widens form place) (index : Nat) (row : Row) (cell : Cell)
    (found : form.survey[index]? = some row) (stands : cell.StandsIn (index + 1) row) :
    ((Validator.ofOptions options).validate wide).KeepsAt ((Validator.ofOptions options).validate form)
      ((Validator.ofOptions options).compilerFor cell) (wide.Adds form place) cell (place index + 1) := by
  have mem : cell ∈ form.cells := cells_from_mem.mpr ⟨index, row, found, stands⟩
  have moved := cell_widens widens found stands
  have more : ∀ name, (KnownNames.ofForm form).isKnown name = true →
      (KnownNames.ofForm wide).isKnown name = true := fun _ => known_widens widens
  -- A cell is checked without a look at its row.
  have compiled : ∀ e, (Validator.ofOptions options).check (.ofForm wide) cell = .ok e →
      ⟨place index + 1, cell.question, cell.column, e⟩ ∈ ((Validator.ofOptions options).validate wide).compiled :=
    fun e result => (accounted_compiled (validate_accounted complete wide) _).mpr ⟨_, moved, e, result, rfl⟩
  have errors : ∀ error, (Validator.ofOptions options).check (.ofForm wide) cell = .error error →
      ⟨.error, error.code, error.message, some (place index + 1), cell.question, some cell.column,
        some cell.text⟩ ∈ ((Validator.ofOptions options).validate wide).errors :=
    fun error failure =>
      (accounted_errors (validate_accounted complete wide) _).mpr ⟨_, moved, error, failure, rfl⟩
  constructor
  · intro logic entry atRow atColumn
    obtain ⟨e, result, rfl⟩ := compiled_entry complete mem entry atRow atColumn
    obtain ⟨read, names⟩ := check_ok_iff.mp result
    exact compiled e (check_ok_iff.mpr ⟨read, fun checked c criterion => more _ (names checked c criterion)⟩)
  · intro d entry atRow atColumn code
    obtain ⟨error, failure, rfl⟩ := error_entry complete mem entry atRow atColumn
    exact errors error (check_error_iff.mpr (.inl (refused_at_reading failure code)))
  · intro d entry atRow atColumn code
    obtain ⟨error, failure, rfl⟩ := error_entry complete mem entry atRow atColumn
    obtain ⟨_, field, -, -, -, -, rfl⟩ := refused_at_name failure code
    exact ⟨field, rfl⟩
  · intro d entry atRow atColumn code field message
    obtain ⟨error, failure, rfl⟩ := error_entry complete mem entry atRow atColumn
    obtain ⟨e, _, checked, read, unknown, names, rfl⟩ := refused_at_name failure code
    cases undefined_tells message
    obtain ⟨still, cured⟩ := check_widens more names
    have added := known_if_added widens unknown
    constructor
    · intro absent
      have unknown := Bool.eq_false_iff.mpr (mt added.mp absent)
      exact errors _ (check_error_iff.mpr (.inr ⟨checked, e, read, still unknown⟩))
    · intro fresh
      refine ⟨e, compiler_reads read, ?_⟩
      rcases cured (added.mpr fresh) with accepted | ⟨later, first, refused⟩
      · exact .inl (compiled e (check_ok_iff.mpr ⟨read, fun _ => check_accepts.mp accepted⟩))
      · exact .inr ⟨later, first, errors _ (check_error_iff.mpr (.inr ⟨checked, e, read, refused⟩))⟩

def houseForm : Form where
  id := none
  survey := [⟨"text".toList, some "pet".toList, none, some "${dog} = 1 and ${cat} = 2".toList, none⟩]

def houseFormWithDog : Form where
  id := none
  survey := ⟨"text".toList, some "dog".toList, none, some "broken".toList, none⟩ :: houseForm.survey

theorem cat_is_missed_next :
    ((Validator.ofOptions .standard).validate houseFormWithDog).KeepsAt
        ((Validator.ofOptions .standard).validate houseForm) .relevant (houseFormWithDog.Adds houseForm (· + 1))
        ⟨1, some "pet".toList, .relevant, "${dog} = 1 and ${cat} = 2".toList⟩ 2 ∧
      ((Validator.ofOptions .standard).validate houseForm).errors.map (fun d => (d.row, d.message)) =
        [(some 1, "Undefined field 'dog' referenced by 'pet'".toList)] ∧
      ((Validator.ofOptions .standard).validate houseFormWithDog).errors.map (fun d => (d.row, d.message)) =
        [(some 1, "criterion not recognized: 'broken'".toList),
          (some 2, "Undefined field 'cat' referenced by 'pet'".toList)] := by
  have widens : houseFormWithDog.Widens houseForm (· + 1) :=
    ⟨fun _ _ less => Nat.succ_lt_succ less, fun _ _ found => found⟩
  have stands : Cell.StandsIn ⟨1, some "pet".toList, .relevant, "${dog} = 1 and ${cat} = 2".toList⟩ 1
      ⟨"text".toList, some "pet".toList, none, some "${dog} = 1 and ${cat} = 2".toList, none⟩ :=
    ⟨rfl, by decide, rfl, by decide⟩
  exact ⟨inserted_rows_keep .standard rfl houseFormWithDog houseForm _ widens 0 _ _ rfl stands,
    by decide, by decide⟩

end SurveyLogic
