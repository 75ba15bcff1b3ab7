import Mathlib.Data.List.TakeWhile
import SurveyLogic.Text.Basic

set_option autoImplicit false

namespace SurveyLogic.Text

def NoLead (t : Text) : Prop := ∀ c ∈ t.head?, isBlank c = false

def NoTail (t : Text) : Prop := ∀ c ∈ t.getLast?, isBlank c = false

def Ink (t : Text) : Prop := ∀ c ∈ t, isBlank c = false

instance (t : Text) : Decidable (Ink t) := List.decidableBAll _ t

structure Solid (t : Text) : Prop where
  inked : t ≠ []
  noLead : NoLead t
  noTail : NoTail t

@[simp] theorem no_lead_nil : NoLead [] := by simp [NoLead]

@[simp] theorem no_tail_nil : NoTail [] := by simp [NoTail]

@[simp] theorem no_lead_cons (c : Char) (t : Text) : NoLead (c :: t) ↔ isBlank c = false := by
  simp [NoLead]

@[simp] theorem no_tail_concat (t : Text) (c : Char) : NoTail (t ++ [c]) ↔ isBlank c = false := by
  simp [NoTail]

theorem ink_append (t u : Text) : Ink (t ++ u) ↔ Ink t ∧ Ink u := List.forall_mem_append

theorem no_lead_append (t u : Text) (inked : t ≠ []) : NoLead (t ++ u) ↔ NoLead t := by
  cases t with
  | nil => exact absurd rfl inked
  | cons c t => simp

theorem no_tail_append (t u : Text) (inked : u ≠ []) : NoTail (t ++ u) ↔ NoTail u := by
  rw [← List.dropLast_concat_getLast inked, ← List.append_assoc, no_tail_concat, no_tail_concat]

theorem ink_solid {t : Text} (ink : Ink t) (inked : t ≠ []) : Solid t :=
  ⟨inked, fun c mem => ink c (List.mem_of_mem_head? mem), fun c mem => ink c (List.mem_of_getLast? mem)⟩

@[simp] theorem all_blank_nil : allBlank [] = true := rfl

@[simp] theorem all_blank_cons (c : Char) (t : Text) :
    allBlank (c :: t) = (isBlank c && allBlank t) := List.all_cons

@[simp] theorem all_blank_append (t u : Text) : allBlank (t ++ u) = (allBlank t && allBlank u) :=
  List.all_append

@[simp] theorem all_blank_reverse (t : Text) : allBlank t.reverse = allBlank t := List.all_reverse

theorem all_blank_mem {t : Text} (blank : allBlank t) : ∀ c ∈ t, isBlank c = true :=
  List.all_eq_true.mp blank

theorem no_lead_blank {w t : Text} (noLead : NoLead (w ++ t)) (blank : allBlank w) : w = [] := by
  cases w with
  | nil => rfl
  | cons c w =>
      rw [List.cons_append, no_lead_cons] at noLead
      rw [all_blank_cons, noLead] at blank
      cases blank

theorem no_tail_blank {t w : Text} (noTail : NoTail (t ++ w)) (blank : allBlank w) : w = [] := by
  rcases List.eq_nil_or_concat w with empty | ⟨front, c, rfl⟩
  · exact empty
  · rw [List.concat_eq_append, ← List.append_assoc, no_tail_concat] at noTail
    have last := all_blank_mem blank c (by simp)
    rw [noTail] at last
    cases last

theorem trim_start_padded (w t : Text) (blank : allBlank w) : trimStart (w ++ t) = trimStart t :=
  List.dropWhile_append_of_pos (all_blank_mem blank)

theorem trim_end_padded (t w : Text) (blank : allBlank w) : trimEnd (t ++ w) = trimEnd t := by
  rw [trimEnd, trimEnd, List.reverse_append,
    List.dropWhile_append_of_pos (all_blank_mem (by simpa using blank))]

theorem trim_start_no_lead (t : Text) (noLead : NoLead t) : trimStart t = t := by
  cases t with
  | nil => rfl
  | cons c t =>
      rw [no_lead_cons] at noLead
      rw [trimStart, List.dropWhile_cons_of_neg (by simp [noLead])]

theorem trim_start_core (lead t : Text) (blank : allBlank lead) (noLead : NoLead t) :
    trimStart (lead ++ t) = t := by
  rw [trim_start_padded _ _ blank, trim_start_no_lead _ noLead]

theorem trim_end_no_tail (t : Text) (noTail : NoTail t) : trimEnd t = t := by
  have reversed : trimStart t.reverse = t.reverse := by
    apply trim_start_no_lead
    simpa [NoLead, NoTail] using noTail
  rw [trimEnd, show t.reverse.dropWhile isBlank = t.reverse from reversed, List.reverse_reverse]

theorem trim_solid {t : Text} (solid : Solid t) : trim t = t := by
  rw [trim, trim_start_no_lead t solid.noLead, trim_end_no_tail t solid.noTail]

theorem trim_start_spec (t : Text) :
    ∃ w, allBlank w ∧ t = w ++ trimStart t ∧ NoLead (trimStart t) := by
  refine ⟨t.takeWhile isBlank, ?_, List.takeWhile_append_dropWhile.symm, ?_⟩
  · exact List.all_eq_true.mpr fun c mem => List.mem_takeWhile_imp mem
  · intro c mem
    have stopped := List.head?_dropWhile_not isBlank t
    rw [Option.mem_def, trimStart] at mem
    simpa only [mem] using stopped

theorem trim_end_spec (t : Text) :
    ∃ w, allBlank w ∧ t = trimEnd t ++ w ∧ NoTail (trimEnd t) := by
  obtain ⟨w, blank, parts, noLead⟩ := trim_start_spec t.reverse
  refine ⟨w.reverse, by simpa using blank, ?_, ?_⟩
  · have back := congrArg List.reverse parts
    simpa [trimStart, trimEnd] using back
  · simpa [NoTail, NoLead, trimEnd, trimStart] using noLead

theorem trim_end_no_lead (t : Text) (noLead : NoLead t) : NoLead (trimEnd t) := by
  obtain ⟨w, -, parts, -⟩ := trim_end_spec t
  by_cases empty : trimEnd t = []
  · simp [empty]
  · rw [parts] at noLead
    exact (no_lead_append _ _ empty).mp noLead

theorem trim_no_lead (t : Text) : NoLead (trim t) := by
  obtain ⟨_, _, _, noLead⟩ := trim_start_spec t
  exact trim_end_no_lead _ noLead

theorem trim_no_tail (t : Text) : NoTail (trim t) := by
  obtain ⟨_, _, _, noTail⟩ := trim_end_spec (trimStart t)
  exact noTail

theorem trim_is_solid (t : Text) (inked : trim t ≠ []) : Solid (trim t) :=
  ⟨inked, trim_no_lead t, trim_no_tail t⟩

theorem trim_spec (t : Text) :
    ∃ lead tail, allBlank lead ∧ allBlank tail ∧ t = lead ++ trim t ++ tail := by
  obtain ⟨lead, blankLead, parts, _⟩ := trim_start_spec t
  obtain ⟨tail, blankTail, core, _⟩ := trim_end_spec (trimStart t)
  refine ⟨lead, tail, blankLead, blankTail, ?_⟩
  rw [List.append_assoc, trim, ← core]
  exact parts

theorem trim_eq_nil {t : Text} : trim t = [] ↔ allBlank t := by
  constructor
  · intro empty
    obtain ⟨lead, tail, blankLead, blankTail, parts⟩ := trim_spec t
    rw [parts, empty]
    simp [blankLead, blankTail]
  · intro blank
    have start := trim_start_padded t [] blank
    rw [List.append_nil] at start
    rw [trim, start]
    rfl

theorem trim_padded (lead t tail : Text) (blankLead : allBlank lead) (blankTail : allBlank tail) :
    trim (lead ++ t ++ tail) = trim t := by
  rw [trim, List.append_assoc, trim_start_padded _ _ blankLead, trim]
  obtain ⟨w, blank, parts, noLead⟩ := trim_start_spec t
  by_cases empty : trimStart t = []
  · have allBlanks : allBlank (t ++ tail) := by
      rw [parts, empty]
      simp [blank, blankTail]
    have start := trim_start_padded (t ++ tail) [] allBlanks
    rw [List.append_nil] at start
    rw [start, empty]
    rfl
  · have start : trimStart (t ++ tail) = trimStart t ++ tail := by
      calc trimStart (t ++ tail) = trimStart (w ++ (trimStart t ++ tail)) := by
            rw [← List.append_assoc, ← parts]
        _ = trimStart t ++ tail :=
            trim_start_core _ _ blank ((no_lead_append _ _ empty).mpr noLead)
    rw [start, trim_end_padded _ _ blankTail]

theorem trim_core (lead t tail : Text) (blankLead : allBlank lead) (blankTail : allBlank tail)
    (solid : Solid t) : trim (lead ++ t ++ tail) = t := by
  rw [trim_padded _ _ _ blankLead blankTail, trim_solid solid]

theorem blanks_core (lead t : Text) (blank : allBlank lead) (noLead : NoLead t) :
    blanks (lead ++ t) = lead := by
  rw [blanks, List.takeWhile_append_of_pos (all_blank_mem blank)]
  cases t with
  | nil => simp
  | cons c t => simp [(no_lead_cons c t).mp noLead]

theorem after_append (lead rest : Text) : after? lead (lead ++ rest) = some rest := by
  induction lead with
  | nil => rfl
  | cons l lead ih => simpa [after?] using ih

theorem after_eq_some {lead t rest : Text} : after? lead t = some rest ↔ t = lead ++ rest := by
  constructor
  · intro found
    induction lead generalizing t with
    | nil => simpa [after?] using found
    | cons l lead ih =>
        cases t with
        | nil => simp [after?] at found
        | cons c t =>
            rw [after?] at found
            split at found
            · rename_i same
              rw [same, ih found]
              rfl
            · simp at found
  · intro parts
    rw [parts, after_append]

theorem before_eq_some {tail t front : Text} : before? tail t = some front ↔ t = front ++ tail := by
  rw [before?, Option.map_eq_some_iff]
  constructor
  · intro parts
    obtain ⟨reversed, found, rfl⟩ := parts
    have parts := congrArg List.reverse (after_eq_some.mp found)
    simpa using parts
  · intro parts
    refine ⟨front.reverse, after_eq_some.mpr ?_, List.reverse_reverse front⟩
    rw [parts, List.reverse_append]

theorem before_append (front tail : Text) : before? tail (front ++ tail) = some front :=
  before_eq_some.mpr rfl

end SurveyLogic.Text
