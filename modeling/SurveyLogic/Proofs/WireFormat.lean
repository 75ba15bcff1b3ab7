import SurveyLogic.Codec.Report
import SurveyLogic.Codec.Settings

set_option autoImplicit false

namespace SurveyLogic

open Json (Decoder Field field member memberIfAny)

structure Json.Lossless {α : Type} (encode : α → Json) (decode : Decoder α) : Prop where
  decoded : ∀ a, decode (encode a) = .ok a
  apart : ∀ a b, encode a = encode b → a = b
  settled : ∀ j a, decode j = .ok a → decode (encode a) = .ok a

namespace Json

@[simp]
theorem sound_get {α : Type} (a : α) : (Scalar.sound a).get = .ok a := rfl

section

variable {δ α : Type} {fields : List (Field δ)} {draft next final : δ} {members : List (Text × Json)}

-- The members that are written for the fields, each of which is given once or left out, and the drafts
-- between which they are read.
inductive Fills : List (Field δ) → δ → List (Text × Json) → δ → Prop
  | done (draft : δ) : Fills [] draft [] draft
  | given (f : Field δ) (fields : List (Field δ)) (draft next final : δ) (value : Json)
      (members : List (Text × Json)) (unfilled : f.filled draft = false)
      (read : f.fill draft value = .ok next) (rest : Fills fields next members final) :
      Fills (f :: fields) draft ((f.key, value) :: members) final
  | absent (f : Field δ) (fields : List (Field δ)) (draft final : δ) (members : List (Text × Json))
      (rest : Fills fields draft members final) : Fills (f :: fields) draft members final

theorem field_found {all : List (Field δ)} (distinct : (all.map Field.key).Nodup) {f : Field δ}
    (mem : f ∈ all) : all.find? (fun g => g.key = f.key) = some f := by
  obtain ⟨front, back, rfl⟩ := List.append_of_mem mem
  rw [List.find?_eq_some_iff_append]
  refine ⟨by simp, front, back, rfl, ?_⟩
  intro g front_mem
  rw [List.map_append, List.map_cons, List.nodup_append] at distinct
  have apart : g.key ≠ f.key := distinct.2.2 _ (List.mem_map_of_mem front_mem) _ List.mem_cons_self
  simp [apart]

theorem fills_read {all : List (Field δ)} (distinct : (all.map Field.key).Nodup)
    (fills : Fills fields draft members final) (some_of : ∀ f ∈ fields, f ∈ all) :
    fillMembers all draft (members.map fun (key, value) => (.sound key, value)) = .ok final := by
  induction fills with
  | done _ => rfl
  | given f fields draft next final value members unfilled read rest ih =>
      have found := field_found distinct (some_of f List.mem_cons_self)
      have later := ih fun g mem => some_of g (List.mem_cons_of_mem f mem)
      simp only [List.map_cons, fillMembers, sound_get, bind, Except.bind, found, unfilled, read]
      exact later
  | absent f _ _ _ _ _ ih => exact ih fun g mem => some_of g (List.mem_cons_of_mem f mem)

theorem record_read {blank : δ} {finish : δ → Option α} (distinct : (fields.map Field.key).Nodup)
    (fills : Fills fields blank members final) {a : α} (finishes : finish final = some a)
    {written : List (Text × Json)} (same : written = members) :
    record fields blank finish (.ofMembers written) = .ok a := by
  rw [same, ofMembers, record, fills_read distinct fills fun _ mem => mem]
  simp only [Ending.check, Ending.fault, Problem.ofFault?, finished, finishes, bind, Except.bind]

section

variable {key : String} {get : δ → Option α} {set : δ → α → δ} {decode : Decoder α} {mayEnd : Bool}

theorem Fills.member {value : Json} {a : α} (blank : get draft = none) (read : decode value = .ok a)
    (rest : Fills fields (set draft a) members final) :
    Fills (field key get set decode mayEnd :: fields) draft (member key value ++ members) final := by
  refine .given (field key get set decode mayEnd) fields draft (set draft a) final value members ?_ ?_ rest
  · simp [field, blank]
  · simp only [field, read]
    rfl

end

theorem Fills.ifAny {key : String} {get : δ → Option (Option α)} {set : δ → Option α → δ}
    {decode : Decoder α} {mayEnd : Bool} (put : δ → Option (Option α) → δ) {encode : α → Json}
    (value : Option α) (blank : get draft = none) (same : put draft none = draft)
    (sets : ∀ a, set draft (some a) = put draft (some (some a)))
    (read : ∀ a, optional decode (encode a) = .ok (some a))
    (rest : Fills fields (put draft (value.map some)) members final) :
    Fills (field key get set (optional decode) mayEnd :: fields) draft
      (memberIfAny key (value.map encode) ++ members) final := by
  cases value with
  | none =>
      rw [Option.map_none, same] at rest
      exact .absent _ _ _ _ _ rest
  | some a =>
      rw [Option.map_some, ← sets] at rest
      exact .member blank (read a) rest

end

theorem list_read {α : Type} {encode : α → Json} {decode : Decoder α} (read : ∀ a, decode (encode a) = .ok a)
    (values : List α) : list decode (.ofList (values.map encode)) = .ok values := by
  have each : (values.map encode).mapM decode = .ok values := by
    induction values with
    | nil => rfl
    | cons a values ih =>
        rw [List.map_cons, List.mapM_cons, read, ih]
        rfl
  rw [ofList, list, each]
  rfl

theorem lossless_of_read {α : Type} {encode : α → Json} {decode : Decoder α}
    (read : ∀ a, decode (encode a) = .ok a) : Lossless encode decode := by
  refine ⟨read, ?_, fun _ a _ => read a⟩
  intro a b same
  have other := read a
  rw [same, read b] at other
  exact (Except.ok.inj other).symm

theorem text_read (t : Text) : text (.ofText t) = .ok t := rfl

theorem natural_read (n : Nat) : natural (.ofNat n) = .ok n := rfl

theorem boolean_read (b : Bool) : boolean (.bool b) = .ok b := rfl

theorem optional_text (t : Text) : optional text (.ofText t) = .ok (some t) := rfl

theorem optional_natural (n : Nat) : optional natural (.ofNat n) = .ok (some n) := rfl

end Json

@[simp]
theorem join_of_given {α : Type} (value : Option α) : (value.map some).join = value := by
  cases value <;> rfl

section

open Json (Fills text_read natural_read boolean_read optional_text optional_natural list_read record_read)

theorem operator_read (op : Operator) : Operator.decode op.encode = .ok op := by
  cases op <;> rfl

theorem optional_join (join : Join) : Json.optional Join.decode join.encode = .ok (some join) := by
  cases join <;> rfl

theorem column_read (column : Column) : Column.decode column.encode = .ok column := by
  cases column <;> rfl

theorem optional_column (column : Column) : Json.optional Column.decode column.encode = .ok (some column) := by
  cases column <;> rfl

theorem severity_read (severity : Severity) : Severity.decode severity.encode = .ok severity := by
  cases severity <;> rfl

theorem criterion_read (c : Criterion) : Criterion.decode c.encode = .ok c := by
  have fills : Fills Criterion.fields ⟨none, none, none⟩ _ ⟨some c.name, some c.operator, c.value.map some⟩ :=
    .member rfl (text_read c.name) <| .member rfl (operator_read c.operator) <|
      .ifAny (fun d x => { d with value := x }) c.value rfl rfl (fun _ => rfl) optional_text <| .done _
  exact record_read (by decide) fills (by simp [Criterion.Draft.finish]) (by simp)

theorem expression_read (e : Expression) : Expression.decode e.encode = .ok e := by
  have fills : Fills Expression.fields ⟨none, none⟩ _ ⟨some e.criteria, e.operator.map some⟩ :=
    .member rfl (list_read criterion_read e.criteria) <|
      .ifAny (fun d x => { d with operator := x }) e.operator rfl rfl (fun _ => rfl) optional_join <| .done _
  exact record_read (by decide) fills (by simp [Expression.Draft.finish]) (by simp)

theorem style_read (style : ReferenceStyle) : ReferenceStyle.decode style.encode = .ok style := by
  cases style with
  | bare => rfl
  | contextual current => rfl

theorem row_read (row : Row) : Row.decode row.encode = .ok row := by
  have fills : Fills Row.fields .blank _
      ⟨some row.type, row.name.map some, row.label.map some, row.relevant.map some, row.constraint.map some⟩ :=
    .member rfl (text_read row.type) <|
      .ifAny (fun d x => { d with name := x }) row.name rfl rfl (fun _ => rfl) optional_text <|
      .ifAny (fun d x => { d with label := x }) row.label rfl rfl (fun _ => rfl) optional_text <|
      .ifAny (fun d x => { d with relevant := x }) row.relevant rfl rfl (fun _ => rfl) optional_text <|
      .ifAny (fun d x => { d with constraint := x }) row.constraint rfl rfl (fun _ => rfl) optional_text <|
      .done _
  exact record_read (by decide) fills (by simp [Row.Draft.finish]) (by simp)

theorem form_read (form : Form) : Form.decode form.encode = .ok form := by
  have fills : Fills Form.fields ⟨none, none⟩ _ ⟨form.id.map some, some form.survey⟩ :=
    .ifAny (fun d x => { d with id := x }) form.id rfl rfl (fun _ => rfl) optional_text <|
      .member rfl (list_read row_read form.survey) <| .done _
  exact record_read (by decide) fills (by simp [Form.Draft.finish]) (by simp)

theorem check_options_read (o : CheckOptions) : CheckOptions.decode o.encode = .ok o := by
  have fills : Fills CheckOptions.fields .blank _
      ⟨some o.checkReferences, some o.checkDuplicateNames, some o.verifyRoundTrip, some o.failFast⟩ :=
    .member rfl (boolean_read o.checkReferences) <| .member rfl (boolean_read o.checkDuplicateNames) <|
      .member rfl (boolean_read o.verifyRoundTrip) <| .member rfl (boolean_read o.failFast) <| .done _
  exact record_read (by decide) fills (by rfl) (by rfl)

theorem settings_read (s : Settings) : Settings.decode s.encode = .ok s := by
  have fills : Fills Settings.fields ⟨none, none⟩ _ ⟨some s.validation, some s.strictRoundTrip⟩ :=
    .member rfl (check_options_read s.validation) <|
      .member rfl (boolean_read s.strictRoundTrip) <| .done _
  exact record_read (by decide) fills (by rfl) (by rfl)

theorem diagnostic_read (d : Diagnostic) : Diagnostic.decode d.encode = .ok d := by
  have fills : Fills Diagnostic.fields .blank _ ⟨some d.severity, some d.code, some d.message, d.row.map some,
      d.question.map some, d.column.map some, d.context.map some⟩ :=
    .member rfl (severity_read d.severity) <| .member rfl (text_read d.code) <|
      .member rfl (text_read d.message) <|
      .ifAny (fun d x => { d with row := x }) d.row rfl rfl (fun _ => rfl) optional_natural <|
      .ifAny (fun d x => { d with question := x }) d.question rfl rfl (fun _ => rfl) optional_text <|
      .ifAny (fun d x => { d with column := x }) d.column rfl rfl (fun _ => rfl) optional_column <|
      .ifAny (fun d x => { d with context := x }) d.context rfl rfl (fun _ => rfl) optional_text <| .done _
  exact record_read (by decide) fills (by simp [Diagnostic.Draft.finish]) (by simp)

theorem compiled_logic_read (c : CompiledLogic) : CompiledLogic.decode c.encode = .ok c := by
  have fills : Fills CompiledLogic.fields .blank _
      ⟨some c.row, c.question.map some, some c.column, some c.expression⟩ :=
    .member rfl (natural_read c.row) <|
      .ifAny (fun d x => { d with question := x }) c.question rfl rfl (fun _ => rfl) optional_text <|
      .member rfl (column_read c.column) <| .member rfl (expression_read c.expression) <| .done _
  exact record_read (by decide) fills (by simp [CompiledLogic.Draft.finish]) (by simp)

theorem form_summary_read (s : FormSummary) : FormSummary.decode s.encode = .ok s := by
  have fills : Fills FormSummary.fields .blank _
      ⟨s.id.map some, some s.questionCount, some s.expressionCount⟩ :=
    .ifAny (fun d x => { d with id := x }) s.id rfl rfl (fun _ => rfl) optional_text <|
      .member rfl (natural_read s.questionCount) <| .member rfl (natural_read s.expressionCount) <| .done _
  exact record_read (by decide) fills (by simp [FormSummary.Draft.finish]) (by simp)

theorem report_read (r : Report) : Report.decode r.encode = .ok r := by
  have fills : Fills Report.fields .blank _ ⟨some r.valid, some r.errors, some r.warnings, some r.summary,
      some r.compiled, some r.milliseconds⟩ :=
    .member rfl (boolean_read r.valid) <| .member rfl (list_read diagnostic_read r.errors) <|
      .member rfl (list_read diagnostic_read r.warnings) <| .member rfl (form_summary_read r.summary) <|
      .member rfl (list_read compiled_logic_read r.compiled) <|
      .member rfl (natural_read r.milliseconds) <| .done _
  exact record_read (by decide) fills (by rfl) (by rfl)

end

theorem wire_format_lossless :
    Json.Lossless Expression.encode Expression.decode ∧
      Json.Lossless ReferenceStyle.encode ReferenceStyle.decode ∧ Json.Lossless Form.encode Form.decode ∧
      Json.Lossless Settings.encode Settings.decode ∧ Json.Lossless Diagnostic.encode Diagnostic.decode ∧
      Json.Lossless Report.encode Report.decode :=
  ⟨Json.lossless_of_read expression_read, Json.lossless_of_read style_read, Json.lossless_of_read form_read,
    Json.lossless_of_read settings_read, Json.lossless_of_read diagnostic_read,
    Json.lossless_of_read report_read⟩

end SurveyLogic
