import Mathlib.Data.Finset.Insert
import SurveyLogic.Validation
import SurveyLogic.Proofs.References

set_option autoImplicit false

namespace SurveyLogic

def Row.Carries (row : Row) (name : Text) : Prop :=
  name ≠ [] ∧ ∃ written, row.name = some written ∧ written.trim = name

def CarriedAt (rows : List Row) (name : Text) (index : Nat) : Prop :=
  ∃ row, rows[index]? = some row ∧ row.Carries name

def RepeatedAt (rows : List Row) (name : Text) (index : Nat) : Prop :=
  CarriedAt rows name index ∧ ∃! earlier, earlier < index ∧ CarriedAt rows name earlier

def repeatsFrom (number : Nat) (seen reported : Finset Text) : List Row → List Diagnostic
  | [] => []
  | row :: rows =>
    match row.questionName with
    | none => repeatsFrom (number + 1) seen reported rows
    | some name =>
      if name ∈ seen ∧ name ∉ reported then
        duplicateName number name :: repeatsFrom (number + 1) (insert name seen) (insert name reported) rows
      else repeatsFrom (number + 1) (insert name seen) reported rows

theorem question_name_iff {row : Row} {name : Text} : row.questionName = some name ↔ row.Carries name := by
  rw [Row.questionName, Option.filter_eq_some_iff, Option.map_eq_some_iff, Row.Carries, and_comm]
  simp

-- Both sets, against how often the names were on the rows so far.
structure Remembers (earlier : List Text) (seen reported : Finset Text) : Prop where
  seen : ∀ name, name ∈ seen ↔ 1 ≤ earlier.count name
  reported : ∀ name, name ∈ reported ↔ 2 ≤ earlier.count name

section

variable {earlier : List Text} {seen reported : Finset Text} {name : Text}

theorem remembers_nothing : Remembers [] ∅ ∅ := ⟨by simp, by simp⟩

theorem remembers_second (remembers : Remembers earlier seen reported) :
    name ∈ seen ∧ name ∉ reported ↔ earlier.count name = 1 := by
  rw [remembers.seen, remembers.reported]
  omega

theorem seen_next (remembers : Remembers earlier seen reported) (other : Text) :
    other ∈ insert name seen ↔ 1 ≤ (name :: earlier).count other := by
  rw [Finset.mem_insert, remembers.seen]
  by_cases same : other = name
  · rw [same, List.count_cons_self]
    simp
  · rw [List.count_cons_of_ne (Ne.symm same)]
    simp [same]

theorem remembers_next (remembers : Remembers earlier seen reported) (name : Text) :
    Remembers (name :: earlier) (insert name seen)
      (if earlier.count name = 1 then insert name reported else reported) := by
  refine ⟨seen_next remembers, ?_⟩
  intro other
  have before := remembers.reported other
  by_cases same : other = name
  · rw [same] at before ⊢
    rw [List.count_cons_self]
    by_cases second : earlier.count name = 1
    · rw [if_pos second]
      simp [second]
    · rw [if_neg second, before]
      omega
  · rw [List.count_cons_of_ne (Ne.symm same), ← before]
    by_cases second : earlier.count name = 1
    · rw [if_pos second, Finset.mem_insert]
      simp [same]
    · rw [if_neg second]

theorem duplicates_remembered (number : Nat) (rows : List Row) (remembers : Remembers earlier seen reported) :
    duplicatesFrom number earlier rows = repeatsFrom number seen reported rows := by
  induction rows generalizing number earlier seen reported with
  | nil => rfl
  | cons row rows ih =>
      rw [duplicatesFrom, repeatsFrom]
      cases row.questionName with
      | none => exact ih _ remembers
      | some name =>
          have next := ih (number + 1) (remembers_next remembers name)
          simp only [remembers_second remembers, next]
          by_cases second : earlier.count name = 1
          · simp only [if_pos second]
          · simp only [if_neg second]

end

theorem duplicates_step {number : Nat} {earlier : List Text} {row : Row} {rows : List Row} {d : Diagnostic} :
    d ∈ duplicatesFrom number earlier (row :: rows) ↔
      (∃ name, row.questionName = some name ∧ earlier.count name = 1 ∧ d = duplicateName number name) ∨
        d ∈ duplicatesFrom (number + 1) (row.questionName.toList ++ earlier) rows := by
  rw [duplicatesFrom]
  cases row.questionName with
  | none => simp
  | some name =>
      by_cases second : earlier.count name = 1
      · simp [second]
      · simp [second]

theorem count_next (row : Row) (rows : List Row) (earlier : List Text) (name : Text) :
    (row.questionName.toList ++ earlier).count name + (rows.filterMap Row.questionName).count name =
      earlier.count name + ((row :: rows).filterMap Row.questionName).count name := by
  cases named : row.questionName with
  | none => simp [named]
  | some other =>
      rw [List.filterMap_cons_some named, Option.toList_some, List.singleton_append, List.count_cons,
        List.count_cons]
      omega

theorem duplicates_mem {number : Nat} {earlier : List Text} {rows : List Row} {d : Diagnostic} :
    d ∈ duplicatesFrom number earlier rows ↔ ∃ index row name, rows[index]? = some row ∧
      row.questionName = some name ∧
      earlier.count name + ((rows.take index).filterMap Row.questionName).count name = 1 ∧
      d = duplicateName (number + index) name := by
  induction rows generalizing number earlier with
  | nil => simp [duplicatesFrom]
  | cons first rows ih =>
      rw [duplicates_step, ih]
      constructor
      · intro warned
        rcases warned with ⟨name, named, second, rfl⟩ | ⟨index, row, name, found, named, second, rfl⟩
        · exact ⟨0, first, name, rfl, named, by simpa using second, rfl⟩
        · rw [count_next] at second
          exact ⟨index + 1, row, name, found, named, second, by rw [Nat.add_assoc, Nat.add_comm 1]⟩
      · intro warned
        obtain ⟨index, row, name, found, named, second, rfl⟩ := warned
        cases index with
        | zero =>
            cases found
            exact .inl ⟨name, named, by simpa using second, rfl⟩
        | succ index =>
            rw [List.take_succ_cons, ← count_next] at second
            exact .inr ⟨index, row, name, found, named, second, by rw [Nat.add_assoc, Nat.add_comm 1]⟩

theorem duplicates_severity (number : Nat) (earlier : List Text) (rows : List Row) :
    ∀ d ∈ duplicatesFrom number earlier rows, d.severity = .warning := by
  intro d mem
  obtain ⟨_, _, _, -, -, -, rfl⟩ := duplicates_mem.mp mem
  rfl

theorem duplicates_ordered (number : Nat) (earlier : List Text) (rows : List Row) :
    (duplicatesFrom number earlier rows).Pairwise fun d e => ∀ m ∈ d.row, ∀ n ∈ e.row, m < n := by
  induction rows generalizing number earlier with
  | nil => exact .nil
  | cons row rows ih =>
      rw [duplicatesFrom]
      cases row.questionName with
      | none => exact ih _ _
      | some name =>
          by_cases second : earlier.count name = 1
          · simp only [if_pos second]
            refine List.pairwise_cons.mpr ⟨?_, ih _ _⟩
            intro e later m here n there
            obtain ⟨index, _, other, -, -, -, rfl⟩ := duplicates_mem.mp later
            cases here
            cases there
            omega
          · simp only [if_neg second]
            exact ih _ _

theorem duplicates_count (number : Nat) (earlier : List Text) (rows : List Row) (name : Text) :
    (duplicatesFrom number earlier rows).countP (fun d => d.question = some name) =
      if earlier.count name ≤ 1 ∧ 2 ≤ earlier.count name + (rows.filterMap Row.questionName).count name
      then 1 else 0 := by
  induction rows generalizing number earlier with
  | nil =>
      have few : ¬ (earlier.count name ≤ 1 ∧
          2 ≤ earlier.count name + (([] : List Row).filterMap Row.questionName).count name) := by
        rw [List.filterMap_nil, List.count_nil]
        omega
      rw [if_neg few]
      rfl
  | cons row rows ih =>
      rw [← count_next, duplicatesFrom]
      cases named : row.questionName with
      | none => exact ih _ _
      | some other =>
          have later := ih (number + 1) (other :: earlier)
          rw [Option.toList_some, List.singleton_append]
          by_cases same : other = name
          · rw [same, List.count_cons_self] at later ⊢
            by_cases second : earlier.count name = 1
            · simp only [if_pos second]
              rw [List.countP_cons, later]
              simp [duplicateName, Diagnostic.atRow, second]
            · simp only [if_neg second, later]
              congr 1
              simp only [eq_iff_iff]
              omega
          · rw [List.count_cons_of_ne same] at later ⊢
            by_cases second : earlier.count other = 1
            · simp only [if_pos second]
              rw [List.countP_cons, later]
              simp [duplicateName, Diagnostic.atRow, same]
            · simp only [if_neg second, later]

theorem duplicates_none_iff {rows : List Row} :
    duplicatesFrom 1 [] rows = [] ↔ (rows.filterMap Row.questionName).Nodup := by
  have counted := duplicates_count 1 [] rows
  simp only [List.count_nil, Nat.zero_add, Nat.zero_le, true_and] at counted
  rw [List.nodup_iff_count_le_one]
  constructor
  · intro none name
    have reported := counted name
    rw [none, List.countP_nil] at reported
    by_cases twice : 2 ≤ (rows.filterMap Row.questionName).count name
    · rw [if_pos twice] at reported
      cases reported
    · omega
  · intro once
    rw [List.eq_nil_iff_forall_not_mem]
    intro d mem
    obtain ⟨index, row, name, -, -, -, rfl⟩ := duplicates_mem.mp mem
    have reported : 0 < (duplicatesFrom 1 [] rows).countP (fun d => d.question = some name) :=
      List.countP_pos_iff.mpr ⟨_, mem, by simp [duplicateName, Diagnostic.atRow]⟩
    have alone := once name
    rw [counted name, if_neg (by omega)] at reported
    cases reported

section

variable {first : Row} {rows : List Row} {name : Text} {index : Nat}

theorem carried_here : CarriedAt (first :: rows) name 0 ↔ first.Carries name := by
  simp [CarriedAt]

theorem carried_later : CarriedAt (first :: rows) name (index + 1) ↔ CarriedAt rows name index := Iff.rfl

theorem carried_before {bound : Nat} :
    CarriedAt (rows.take bound) name index ↔ index < bound ∧ CarriedAt rows name index := by
  simp only [CarriedAt, List.getElem?_take]
  by_cases before : index < bound
  · simp [before]
  · simp [before]

theorem carried_iff : name ∈ rows.filterMap Row.questionName ↔ ∃ index, CarriedAt rows name index := by
  simp only [named_at, question_name_iff, CarriedAt]

theorem count_other (other : ¬ first.Carries name) : ((first :: rows).filterMap Row.questionName).count name =
    (rows.filterMap Row.questionName).count name := by
  rw [← question_name_iff] at other
  cases named : first.questionName with
  | none => rw [List.filterMap_cons_none named]
  | some own =>
      have different : own ≠ name := fun same => other (by rw [named, same])
      rw [List.filterMap_cons_some named, List.count_cons_of_ne different]

theorem carried_once :
    (rows.filterMap Row.questionName).count name = 1 ↔ ∃! index, CarriedAt rows name index := by
  induction rows with
  | nil => simp [CarriedAt]
  | cons first rows ih =>
      by_cases here : first.Carries name
      · rw [List.filterMap_cons_some (question_name_iff.mpr here), List.count_cons_self, Nat.add_eq_right,
          List.count_eq_zero, carried_iff]
        constructor
        · intro nowhere
          refine ⟨0, carried_here.mpr here, ?_⟩
          intro index carried
          cases index with
          | zero => rfl
          | succ index => exact absurd ⟨index, carried⟩ nowhere
        · intro once later
          obtain ⟨index, carried⟩ := later
          have same := once.unique (carried_here.mpr here) (carried_later.mpr carried)
          cases same
      · rw [count_other here, ih]
        constructor
        · intro once
          obtain ⟨index, carried, same⟩ := once
          refine ⟨index + 1, carried, ?_⟩
          intro other otherCarried
          cases other with
          | zero => exact absurd (carried_here.mp otherCarried) here
          | succ other => rw [same other otherCarried]
        · intro once
          obtain ⟨index, carried, same⟩ := once
          cases index with
          | zero => exact absurd (carried_here.mp carried) here
          | succ index =>
              exact ⟨index, carried, fun other otherCarried => Nat.succ.inj (same (other + 1) otherCarried)⟩

end

theorem duplicates_located {rows : List Row} {d : Diagnostic} : d ∈ duplicatesFrom 1 [] rows ↔
    ∃ name index, RepeatedAt rows name index ∧ d = duplicateName (index + 1) name := by
  simp only [duplicates_mem, List.count_nil, Nat.zero_add, carried_once, carried_before, question_name_iff,
    Nat.add_comm 1]
  constructor
  · intro warned
    obtain ⟨index, row, name, found, carries, once, rfl⟩ := warned
    exact ⟨name, index, ⟨⟨row, found, carries⟩, once⟩, rfl⟩
  · intro repeated
    obtain ⟨name, index, ⟨⟨row, found, carries⟩, once⟩, rfl⟩ := repeated
    exact ⟨index, row, name, found, carries, once, rfl⟩

structure Report.WarnsOfRepeats (r : Report) (form : Form) : Prop where
  ordered : r.warnings.Pairwise fun d e => ∀ m ∈ d.row, ∀ n ∈ e.row, m < n
  located : ∀ d, d ∈ r.warnings ↔ ∃ name index, RepeatedAt form.survey name index ∧
    d = ⟨.warning, "W001".toList, "Question name '".toList ++ name ++ "' is not unique".toList,
      some (index + 1), some name, none, none⟩
  once : ∀ name, r.warnings.countP (fun d => d.question = some name) =
    if 2 ≤ form.questionNames.count name then 1 else 0
  remembered : r.warnings = repeatsFrom 1 ∅ ∅ form.survey

theorem repeats_warned_once (v : Validator) (form : Form) (checked : v.options.checkDuplicateNames = true) :
    (v.validate form).WarnsOfRepeats form := by
  have warnings : (v.validate form).warnings = duplicatesFrom 1 [] form.survey := by
    rw [Validator.validate, if_pos checked, Form.duplicates]
  refine ⟨?_, ?_, ?_, ?_⟩
  · rw [warnings]
    exact duplicates_ordered 1 [] form.survey
  · intro d
    rw [warnings, duplicates_located]
    rfl
  · intro name
    rw [warnings, duplicates_count]
    exact if_congr (by simp [Form.questionNames]) rfl rfl
  · rw [warnings]
    exact duplicates_remembered 1 form.survey remembers_nothing

def sharedNames : Form where
  id := none
  survey := [some "pet", some " pet ", none, some "age", some "pet", some " ", some "age", some "  "].map fun name =>
    ⟨"text".toList, name.map String.toList, none, none, none⟩

theorem shared_names_warned : (Validator.ofOptions .standard).options.checkDuplicateNames = true ∧
    ((Validator.ofOptions .standard).validate sharedNames).WarnsOfRepeats sharedNames ∧
    ((Validator.ofOptions .standard).validate sharedNames).warnings.map (fun d => (d.row, d.question)) =
      [(some 2, some "pet".toList), (some 7, some "age".toList)] :=
  ⟨rfl, repeats_warned_once (.ofOptions .standard) sharedNames rfl, by decide⟩

end SurveyLogic
