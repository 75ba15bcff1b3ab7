import SurveyLogic.Validation
import SurveyLogic.Proofs.Trimming

set_option autoImplicit false

namespace SurveyLogic

open Text

structure Cell.StandsIn (cell : Cell) (number : Nat) (row : Row) : Prop where
  numbered : cell.row = number
  question : cell.question = row.questionName
  written : row.cell cell.column = some cell.text
  inked : cell.text.trim ≠ []

def Cell.Before (a b : Cell) : Prop :=
  a.row < b.row ∨ (a.row = b.row ∧ a.column = .relevant ∧ b.column = .constraint)

structure Form.Lists (form : Form) (cells : List Cell) : Prop where
  ordered : cells.Pairwise Cell.Before
  complete : ∀ cell, cell ∈ cells ↔
    ∃ index row, form.survey[index]? = some row ∧ cell.StandsIn (index + 1) row

theorem logic_iff {row : Row} {column : Column} {text : Text} :
    row.logic column = some text ↔ row.cell column = some text ∧ text.trim ≠ [] := by
  rw [Row.logic, Option.filter_eq_some_iff, Ne, trim_eq_nil, Bool.not_eq_true', Bool.not_eq_true]

theorem row_cells_mem {row : Row} {number : Nat} {cell : Cell} :
    cell ∈ row.cells number ↔ cell.StandsIn number row := by
  rw [Row.cells, List.mem_filterMap]
  constructor
  · intro found
    obtain ⟨column, -, mapped⟩ := found
    obtain ⟨text, logic, rfl⟩ := Option.map_eq_some_iff.mp mapped
    obtain ⟨written, inked⟩ := logic_iff.mp logic
    exact ⟨rfl, rfl, written, inked⟩
  · intro stands
    obtain ⟨number, question, column, text⟩ := cell
    obtain ⟨rfl, rfl, written, inked⟩ := stands
    refine ⟨column, ?_, Option.map_eq_some_iff.mpr ⟨text, logic_iff.mpr ⟨written, inked⟩, rfl⟩⟩
    cases column <;> simp

theorem row_cells_ordered (row : Row) (number : Nat) : (row.cells number).Pairwise Cell.Before := by
  have columns : [Column.relevant, Column.constraint].Pairwise
      fun a b => a = .relevant ∧ b = .constraint := by simp
  apply columns.filterMap
  intro a b apart first here second there
  obtain ⟨_, -, rfl⟩ := Option.map_eq_some_iff.mp here
  obtain ⟨_, -, rfl⟩ := Option.map_eq_some_iff.mp there
  exact .inr ⟨rfl, apart⟩

theorem cells_from_mem {number : Nat} {rows : List Row} {cell : Cell} :
    cell ∈ cellsFrom number rows ↔
      ∃ index row, rows[index]? = some row ∧ cell.StandsIn (index + number) row := by
  induction rows generalizing number with
  | nil => simp [cellsFrom]
  | cons first rows ih =>
      rw [cellsFrom, List.mem_append, row_cells_mem, ih]
      constructor
      · intro stands
        rcases stands with here | ⟨index, row, found, there⟩
        · exact ⟨0, first, rfl, by rwa [Nat.zero_add]⟩
        · exact ⟨index + 1, row, found, by rwa [Nat.add_right_comm, Nat.add_assoc]⟩
      · intro stands
        obtain ⟨index, row, found, stands⟩ := stands
        cases index with
        | zero =>
            cases found
            rw [Nat.zero_add] at stands
            exact .inl stands
        | succ index =>
            rw [Nat.add_right_comm, Nat.add_assoc] at stands
            exact .inr ⟨index, row, found, stands⟩

theorem cells_from_ordered (number : Nat) (rows : List Row) :
    (cellsFrom number rows).Pairwise Cell.Before := by
  induction rows generalizing number with
  | nil => exact .nil
  | cons first rows ih =>
      rw [cellsFrom, List.pairwise_append]
      refine ⟨row_cells_ordered first number, ih (number + 1), ?_⟩
      intro a here b there
      obtain ⟨index, row, -, stands⟩ := cells_from_mem.mp there
      have here := (row_cells_mem.mp here).numbered
      have later := stands.numbered
      exact .inl (by omega)

theorem cells_listed (form : Form) : form.Lists form.cells :=
  ⟨cells_from_ordered 1 form.survey, fun _ => cells_from_mem⟩

end SurveyLogic
