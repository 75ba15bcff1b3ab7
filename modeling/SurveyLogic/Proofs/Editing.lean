import SurveyLogic.Editor
import SurveyLogic.Proofs.Failures

set_option autoImplicit false

namespace SurveyLogic

namespace Editor

inductive Part where
  | engine
  | expression
  | form

def Step.part : Step → Option Part
  | .configure _ => some .engine
  | .compile _ | .compileColumn _ _ _ | .push _ | .insert _ _ | .replace _ _ | .remove _ | .clear
  | .setOperator _ | .rejoin _ | .reload | .openCell _ _ => some .expression
  | .loadForm _ | .addRow _ | .dropRow _ | .renameRow _ _ | .saveCell _ _ => some .form
  | .normalize _ | .constraintText _ | .validate => none

structure Within (parts : List Part) (s t : Editor) : Prop where
  engine : Part.engine ∉ parts → t.engine = s.engine
  expression : Part.expression ∉ parts → t.expression = s.expression
  form : Part.form ∉ parts → t.form = s.form

def next (s : Editor) (a : Step) : Editor :=
  match s.step a with
  | .ok (t, _) => t
  | .error _ => s

def run (s : Editor) (steps : List Step) : Editor := steps.foldl next s

def Built (s : Editor) : Prop := ∃ settings, s.engine = .ofSettings settings

-- The steps of a run of which none fails.
inductive Taken : Editor → List Step → Editor → Prop
  | done (s : Editor) : Taken s [] s
  | step (s t u : Editor) (a : Step) (steps : List Step) (outcome : Outcome)
      (here : s.step a = .ok (t, outcome)) (rest : Taken t steps u) : Taken s (a :: steps) u

def Step.Fails (s : Editor) : Step → Failure → Prop
  | .compile _, .engine error | .compileColumn _ _ _, .engine error | .reload, .engine error
  | .normalize _, .engine error | .openCell _ _, .engine error =>
    ∃ refusal, Refusal refusal ∧ error = .logic refusal
  | .insert index _, .noSuchIndex => s.expression.criteria.length < index
  | .replace index _, .noSuchIndex | .remove index, .noSuchIndex => s.expression.criteria.length ≤ index
  | .loadForm text, .form error => Form.ofText text = .error error
  | .dropRow index, .noSuchRow | .renameRow index _, .noSuchRow | .openCell index _, .noSuchRow
  | .saveCell index _, .noSuchRow => s.form.survey.length ≤ index
  | .openCell index column, .noLogic => ∃ row, s.form.survey[index]? = some row ∧ row.logic column = none
  | _, _ => False

section

variable {s t u : Editor} {parts others : List Part}

theorem within_same : Within parts s s := ⟨fun _ => rfl, fun _ => rfl, fun _ => rfl⟩

theorem within_engine (engine : Engine) : Within [.engine] s { s with engine := engine } :=
  ⟨by simp, fun _ => rfl, fun _ => rfl⟩

theorem within_expression (e : Expression) : Within [.expression] s { s with expression := e } :=
  ⟨fun _ => rfl, by simp, fun _ => rfl⟩

theorem within_form (form : Form) : Within [.form] s { s with form := form } :=
  ⟨fun _ => rfl, fun _ => rfl, by simp⟩

theorem within_trans (first : Within parts s t) (second : Within others t u) :
    Within (parts ++ others) s u := by
  have both : ∀ part, part ∉ parts ++ others → part ∉ parts ∧ part ∉ others := by simp
  refine ⟨fun absent => ?_, fun absent => ?_, fun absent => ?_⟩
  · rw [second.engine (both _ absent).2, first.engine (both _ absent).1]
  · rw [second.expression (both _ absent).2, first.expression (both _ absent).1]
  · rw [second.form (both _ absent).2, first.form (both _ absent).1]

end

section

variable {s t : Editor} {a : Step} {outcome : Outcome} {failure : Failure} {index : Nat} {column : Column}

theorem set_expression_ok {compiled : Except EngineError Expression}
    (set : s.setExpression compiled = .ok (t, outcome)) :
    ∃ e, compiled = .ok e ∧ t = { s with expression := e } := by
  cases compiled with
  | error error => cases set
  | ok e =>
      cases set
      exact ⟨e, rfl, rfl⟩

theorem row_at_ok {row : Row} : s.rowAt index = .ok row ↔ s.form.survey[index]? = some row := by
  rw [rowAt]
  cases s.form.survey[index]? <;> simp

theorem reload_ok (reloaded : s.reload = .ok (t, outcome)) :
    ∃ e, s.engine.compile (s.engine.toText s.expression) = .ok e ∧ t = { s with expression := e } := by
  rw [reload] at reloaded
  cases compiled : s.engine.compile (s.engine.toText s.expression) with
  | error error =>
      rw [compiled] at reloaded
      cases reloaded
  | ok e =>
      rw [compiled] at reloaded
      cases reloaded
      exact ⟨e, rfl, rfl⟩

theorem open_cell_ok (opened : s.openCell index column = .ok (t, outcome)) :
    ∃ row text e, s.form.survey[index]? = some row ∧ row.logic column = some text ∧
      s.engine.compileColumn text column (row.questionName.getD []) = .ok e ∧
      t = { s with expression := e } := by
  obtain ⟨row, found, opened⟩ := bind_ok opened
  cases logic : row.logic column with
  | none =>
      simp only [logic] at opened
      cases opened
  | some text =>
      simp only [logic] at opened
      obtain ⟨e, compiled, rfl⟩ := set_expression_ok opened
      exact ⟨row, text, e, row_at_ok.mp found, logic, compiled, rfl⟩

theorem reading_refused (built : s.Built) (text : Text) (column : Column) (question : Text) {error : EngineError}
    (refused : s.engine.compileColumn text column question = .error error) :
    ∃ refusal, Refusal refusal ∧ error = .logic refusal := by
  obtain ⟨settings, built⟩ := built
  rw [built, compile_column] at refused
  exact (settled_reading (column.style question) text).refused error refused

theorem set_expression_fails (built : s.Built) (text : Text) (column : Column) (question : Text)
    (failed : s.setExpression (s.engine.compileColumn text column question) = .error failure) :
    ∃ refusal, Refusal refusal ∧ failure = .engine (.logic refusal) := by
  cases compiled : s.engine.compileColumn text column question with
  | error error =>
      obtain ⟨refusal, refused, rfl⟩ := reading_refused built text column question compiled
      rw [compiled] at failed
      cases failed
      exact ⟨refusal, refused, rfl⟩
  | ok e =>
      rw [compiled] at failed
      cases failed

theorem row_at_fails (failed : s.rowAt index = .error failure) :
    failure = .noSuchRow ∧ s.form.survey.length ≤ index := by
  rw [rowAt] at failed
  cases found : s.form.survey[index]? with
  | none =>
      rw [found] at failed
      cases failed
      exact ⟨rfl, List.getElem?_eq_none_iff.mp found⟩
  | some row =>
      rw [found] at failed
      cases failed

theorem criterion_at_fails (failed : s.criterionAt index = .error failure) :
    failure = .noSuchIndex ∧ s.expression.criteria.length ≤ index := by
  rw [criterionAt] at failed
  cases found : s.expression.criteria[index]? with
  | none =>
      rw [found] at failed
      cases failed
      exact ⟨rfl, List.getElem?_eq_none_iff.mp found⟩
  | some c =>
      rw [found] at failed
      cases failed

theorem step_fails (built : s.Built) (failed : s.step a = .error failure) : a.Fails s failure := by
  cases a with
  | configure _ | push _ | clear | setOperator _ | rejoin _ | constraintText _ | addRow _ | validate =>
      cases failed
  | compile text =>
      obtain ⟨refusal, refused, rfl⟩ := set_expression_fails built text .relevant [] failed
      exact ⟨refusal, refused, rfl⟩
  | compileColumn text column question =>
      obtain ⟨refusal, refused, rfl⟩ := set_expression_fails built text column question failed
      exact ⟨refusal, refused, rfl⟩
  | insert index c =>
      rw [step] at failed
      by_cases inside : index ≤ s.expression.criteria.length
      · rw [if_pos inside] at failed
        cases failed
      · rw [if_neg inside] at failed
        cases failed
        exact Nat.lt_of_not_le inside
  | replace index _ | remove index =>
      rcases bind_error failed with missing | ⟨_, -, set⟩
      · obtain ⟨rfl, outside⟩ := criterion_at_fails missing
        exact outside
      · cases set
  | reload =>
      rw [step, reload] at failed
      cases compiled : s.engine.compile (s.engine.toText s.expression) with
      | error error =>
          obtain ⟨refusal, refused, rfl⟩ := reading_refused built _ .relevant [] compiled
          rw [compiled] at failed
          cases failed
          exact ⟨refusal, refused, rfl⟩
      | ok e =>
          rw [compiled] at failed
          cases failed
  | normalize text =>
      rw [step] at failed
      cases normal : s.engine.normalize text with
      | error error =>
          rw [normal] at failed
          cases failed
          obtain ⟨settings, built⟩ := built
          rw [built] at normal
          exact (settled_normalize settings text).refused error normal
      | ok t =>
          rw [normal] at failed
          cases failed
  | loadForm text =>
      rw [step] at failed
      cases loaded : Form.ofText text with
      | error error =>
          rw [loaded] at failed
          cases failed
          exact loaded
      | ok form =>
          rw [loaded] at failed
          cases failed
  | dropRow index | renameRow index _ | saveCell index _ =>
      rcases bind_error failed with missing | ⟨_, -, set⟩
      · obtain ⟨rfl, outside⟩ := row_at_fails missing
        exact outside
      · cases set
  | openCell index column =>
      rcases bind_error failed with missing | ⟨row, found, opened⟩
      · obtain ⟨rfl, outside⟩ := row_at_fails missing
        exact outside
      · cases logic : row.logic column with
        | none =>
            simp only [logic] at opened
            cases opened
            exact ⟨row, row_at_ok.mp found, logic⟩
        | some text =>
            simp only [logic] at opened
            obtain ⟨refusal, refused, rfl⟩ := set_expression_fails built text column _ opened
            exact ⟨refusal, refused, rfl⟩

theorem step_within (taken : s.step a = .ok (t, outcome)) : Within a.part.toList s t := by
  cases a with
  | configure settings =>
      cases taken
      exact within_engine _
  | compile _ | compileColumn _ _ _ =>
      obtain ⟨e, -, rfl⟩ := set_expression_ok taken
      exact within_expression e
  | push _ | clear | setOperator _ | rejoin _ =>
      cases taken
      exact within_expression _
  | insert index c =>
      rw [step] at taken
      by_cases inside : index ≤ s.expression.criteria.length
      · rw [if_pos inside] at taken
        cases taken
        exact within_expression _
      · rw [if_neg inside] at taken
        cases taken
  | replace _ _ | remove _ =>
      obtain ⟨_, -, set⟩ := bind_ok taken
      cases set
      exact within_expression _
  | reload =>
      obtain ⟨e, -, rfl⟩ := reload_ok taken
      exact within_expression e
  | normalize text =>
      rw [step] at taken
      cases normal : s.engine.normalize text with
      | error error =>
          rw [normal] at taken
          cases taken
      | ok t =>
          rw [normal] at taken
          cases taken
          exact within_same
  | constraintText _ | validate =>
      cases taken
      exact within_same
  | loadForm text =>
      rw [step] at taken
      cases loaded : Form.ofText text with
      | error error =>
          rw [loaded] at taken
          cases taken
      | ok form =>
          rw [loaded] at taken
          cases taken
          exact within_form form
  | addRow row =>
      cases taken
      exact within_form _
  | dropRow _ | renameRow _ _ | saveCell _ _ =>
      obtain ⟨_, -, set⟩ := bind_ok taken
      cases set
      exact within_form _
  | openCell index column =>
      obtain ⟨_, _, e, -, -, -, rfl⟩ := open_cell_ok taken
      exact within_expression e

theorem step_built (built : s.Built) (taken : s.step a = .ok (t, outcome)) : t.Built := by
  have kept : Part.engine ∉ a.part.toList → t.Built := by
    intro other
    rw [Built, (step_within taken).engine other]
    exact built
  cases a with
  | configure settings =>
      cases taken
      exact ⟨settings, rfl⟩
  | _ => exact kept (by simp [Step.part])

theorem next_cases (s : Editor) (a : Step) :
    (∃ outcome, s.step a = .ok (s.next a, outcome)) ∨
      ∃ failure, s.step a = .error failure ∧ s.next a = s := by
  rw [next]
  cases s.step a with
  | error failure => exact .inr ⟨failure, rfl, rfl⟩
  | ok taken => exact .inl ⟨taken.2, rfl⟩

end

theorem run_within (s : Editor) (steps : List Step) :
    Within (steps.filterMap Step.part) s (s.run steps) := by
  induction steps generalizing s with
  | nil => exact within_same
  | cons a steps ih =>
      have here : Within a.part.toList s (s.next a) := by
        rcases next_cases s a with ⟨outcome, taken⟩ | ⟨failure, -, same⟩
        · exact step_within taken
        · rw [same]
          exact within_same
      have parts : (a :: steps).filterMap Step.part = a.part.toList ++ steps.filterMap Step.part := by
        cases part : a.part <;> simp [part]
      rw [parts]
      exact within_trans here (ih (s.next a))

theorem run_built {s : Editor} (built : s.Built) (steps : List Step) : (s.run steps).Built := by
  induction steps generalizing s with
  | nil => exact built
  | cons a steps ih =>
      apply ih
      rcases next_cases s a with ⟨outcome, taken⟩ | ⟨failure, -, same⟩
      · exact step_built built taken
      · rw [same]
        exact built

theorem started_built (settings : Settings) (form : Form) (steps : List Step) :
    ((start settings form).run steps).Built := run_built ⟨settings, rfl⟩ steps

theorem run_without_failures (s : Editor) (steps : List Step) :
    ∃ taken, taken.Sublist steps ∧ Taken s taken (s.run steps) := by
  induction steps generalizing s with
  | nil => exact ⟨[], .slnil, .done s⟩
  | cons a steps ih =>
      obtain ⟨taken, among, rest⟩ := ih (s.next a)
      rcases next_cases s a with ⟨outcome, here⟩ | ⟨failure, -, same⟩
      · exact ⟨a :: taken, among.cons_cons a, .step s _ _ a taken outcome here rest⟩
      · rw [same] at rest
        exact ⟨taken, among.cons a, by rwa [run, List.foldl_cons, same]⟩

example : ((start .standard .empty).run [.compile "${a} = 1 and ${b} > 2".toList, .compile "${a} =".toList,
    .remove 7, .remove 0]).expression = ⟨[.withValue "b".toList .greater "2".toList], some .and⟩ := by
  decide

section

variable {s t : Editor} {outcome : Outcome} {index : Nat} {column : Column} {row : Row} {e : Expression}

theorem column_compiles_iff (built : s.Built) (text : Text) (column : Column) (question : Text) :
    s.engine.compileColumn text column question = .ok e ↔
      (Compiler.ofStyle (column.style question)).compile text = .ok e := by
  obtain ⟨settings, built⟩ := built
  rw [built, compile_column, compile_of_style]
  cases (Reader.ofStyle (column.style question)).expression text <;> simp [Except.mapError]

theorem column_text (built : s.Built) (e : Expression) (column : Column) (question : Text) :
    s.engine.toColumnText e column question = (Compiler.ofStyle (column.style question)).toText e := by
  obtain ⟨settings, built⟩ := built
  rw [built]
  cases column <;> rfl

theorem reload_settles (built : s.Built) (reloaded : s.step .reload = .ok (t, outcome)) :
    t.step .reload = .ok (t, .unchanged true) := by
  obtain ⟨e, compiled, rfl⟩ := reload_ok reloaded
  have written : s.engine.toText e = (Compiler.ofStyle .bare).toText e := column_text built e .relevant []
  have again : s.engine.compile (s.engine.toText e) = .ok e := by
    rw [written]
    exact (column_compiles_iff built _ .relevant []).mpr
      (read_again ((column_compiles_iff built _ .relevant []).mp compiled))
  rw [step, reload]
  simp only [again, decide_true]

theorem logic_saved {text : Text} (inked : ¬ text.allBlank) :
    (row.setLogic column text).logic column = some text := by
  cases column <;> simp [Row.logic, Row.cell, Row.setLogic, Option.filter_some, inked]

theorem saved_question (column : Column) (text : Text) :
    (row.setLogic column text).questionName = row.questionName := by
  cases column <;> rfl

theorem save_taken (column : Column) (found : s.form.survey[index]? = some row) :
    let saved := row.setLogic column (s.engine.toColumnText s.expression column (row.questionName.getD []))
    s.step (.saveCell index column) = .ok (s.setSurvey (s.form.survey.set index saved), .row saved) := by
  rw [step, saveCell, row_at_ok.mpr found]
  rfl

theorem open_taken {text : Text} (found : s.form.survey[index]? = some row)
    (logic : row.logic column = some text)
    (compiled : s.engine.compileColumn text column (row.questionName.getD []) = .ok e) :
    s.step (.openCell index column) = .ok ({ s with expression := e }, .nothing) := by
  rw [step, openCell, row_at_ok.mpr found]
  simp only [ok_bind, logic, compiled, setExpression]

-- Whatever is being edited, its canonical expression is what the cell opens as.
theorem saved_cell_opens (built : s.Built) (found : s.form.survey[index]? = some row)
    (inked : s.expression.criteria ≠ [])
    (writable : ∀ c ∈ s.expression.criteria, c.Writable (column.style (row.questionName.getD []))) :
    ∃ t, Taken s [.saveCell index column, .openCell index column] t ∧
      t.expression = s.expression.canonical := by
  have read := written_compiles inked writable
  have solid : ¬ ((Compiler.ofStyle (column.style (row.questionName.getD []))).toText s.expression).allBlank := by
    intro blank
    rw [compile_empty_iff.mpr (Text.trim_eq_nil.mpr blank)] at read
    cases read
  rw [← column_text built] at read solid
  have saved := save_taken column found
  generalize s.engine.toColumnText s.expression column (row.questionName.getD []) = text at read solid saved
  have inside : index < s.form.survey.length := (List.getElem?_eq_some_iff.mp found).1
  have there : (s.setSurvey (s.form.survey.set index (row.setLogic column text))).form.survey[index]? =
      some (row.setLogic column text) := List.getElem?_set_self inside
  have compiled : s.engine.compileColumn text column ((row.setLogic column text).questionName.getD []) =
      .ok s.expression.canonical := by
    rw [saved_question]
    exact (column_compiles_iff built text column _).mpr read
  have opened := open_taken there (logic_saved solid) compiled
  exact ⟨_, .step _ _ _ _ _ _ saved (.step _ _ _ _ _ _ opened (.done _)), rfl⟩

theorem opened_cell_reopens (built : s.Built) (opened : s.step (.openCell index column) = .ok (t, outcome)) :
    ∃ u, Taken t [.saveCell index column, .openCell index column] u ∧ u.expression = t.expression := by
  have still := step_built built opened
  obtain ⟨row, text, e, found, -, compiled, rfl⟩ := open_cell_ok opened
  have read := (column_compiles_iff built _ _ _).mp compiled
  obtain ⟨criteria, join, rfl, inked, written⟩ := compiled_criteria read
  obtain ⟨u, taken, read⟩ := saved_cell_opens still found inked fun c mem => (written c mem).1
  exact ⟨u, taken, read.trans (joined_canonical join fun c mem => (written c mem).2)⟩

end

end Editor

end SurveyLogic
