import SurveyLogic.Text.Basic

set_option autoImplicit false

namespace SurveyLogic

namespace Text

def splitAtByte? (offset : Nat) : Text → Option (Text × Text)
  | [] => if offset = 0 then some ([], []) else none
  | c :: t =>
    if offset = 0 then some ([], c :: t)
    else if c.utf8Size ≤ offset then
      (splitAtByte? (offset - c.utf8Size) t).map fun (front, behind) => (c :: front, behind)
    else none

def sliceBytes? (t : Text) (start stop : Nat) : Option Text := do
  let (front, _) ← splitAtByte? stop t
  let (_, middle) ← splitAtByte? start front
  return middle

def offset (t : Text) (position : Nat) : Nat := utf8Length (t.take position)

@[simp] theorem utf8_length_nil : utf8Length [] = 0 := rfl

@[simp] theorem utf8_length_cons (c : Char) (t : Text) : utf8Length (c :: t) = c.utf8Size + utf8Length t := rfl

@[simp] theorem utf8_length_append (t u : Text) : utf8Length (t ++ u) = utf8Length t + utf8Length u := by
  induction t with
  | nil => simp
  | cons c t ih => rw [List.cons_append, utf8_length_cons, utf8_length_cons, ih, Nat.add_assoc]

theorem split_at_byte (front behind : Text) :
    splitAtByte? (utf8Length front) (front ++ behind) = some (front, behind) := by
  induction front with
  | nil => cases behind <;> rfl
  | cons c front ih =>
      have wide := c.utf8Size_pos
      rw [List.cons_append, utf8_length_cons, splitAtByte?, if_neg (by omega), if_pos (by omega),
        Nat.add_sub_cancel_left, ih]
      rfl

theorem split_at_byte_parts {offset : Nat} {t front behind : Text}
    (split : splitAtByte? offset t = some (front, behind)) :
    t = front ++ behind ∧ offset = utf8Length front := by
  induction t generalizing offset front with
  | nil =>
      rw [splitAtByte?] at split
      split at split
      · cases split
        exact ⟨rfl, by assumption⟩
      · cases split
  | cons c t ih =>
      rw [splitAtByte?] at split
      split at split
      · cases split
        exact ⟨rfl, by assumption⟩
      · split at split
        · rename_i fits
          obtain ⟨⟨rest, _⟩, parts, same⟩ := Option.map_eq_some_iff.mp split
          cases same
          obtain ⟨rfl, length⟩ := ih parts
          exact ⟨rfl, by rw [utf8_length_cons, ← length]; omega⟩
        · cases split

theorem slice_bytes_iff {t middle : Text} {start stop : Nat} :
    t.sliceBytes? start stop = some middle ↔ ∃ front behind, t = front ++ middle ++ behind ∧
      start = utf8Length front ∧ stop = utf8Length (front ++ middle) := by
  simp only [sliceBytes?, Option.bind_eq_bind, Option.bind_eq_some_iff, Option.pure_def, Option.some.injEq,
    Prod.exists]
  constructor
  · intro sliced
    obtain ⟨upTo, behind, outer, front, _, inner, rfl⟩ := sliced
    obtain ⟨rfl, stops⟩ := split_at_byte_parts outer
    obtain ⟨rfl, starts⟩ := split_at_byte_parts inner
    exact ⟨front, behind, rfl, starts, stops⟩
  · intro parts
    obtain ⟨front, behind, rfl, rfl, rfl⟩ := parts
    exact ⟨_, _, split_at_byte _ _, _, _, split_at_byte _ _, rfl⟩

example : sliceBytes? "é and".toList 2 3 = some " ".toList ∧ sliceBytes? "é and".toList 1 3 = none := by decide

theorem take_slice (t : Text) {start stop : Nat} (ordered : start ≤ stop) :
    t.take start ++ t.slice start stop = t.take stop := by
  have whole := List.take_append_drop start (t.take stop)
  rwa [List.take_take, Nat.min_eq_left ordered] at whole

theorem slice_between (t : Text) {start stop : Nat} (ordered : start ≤ stop) :
    t.sliceBytes? (t.offset start) (t.offset stop) = some (t.slice start stop) := by
  refine slice_bytes_iff.mpr ⟨t.take start, t.drop stop, ?_, rfl, ?_⟩
  · rw [take_slice t ordered, List.take_append_drop]
  · rw [take_slice t ordered, offset]

theorem slice_behind (t : Text) (start : Nat) :
    t.sliceBytes? (t.offset start) (utf8Length t) = some (t.drop start) :=
  slice_bytes_iff.mpr ⟨t.take start, [], by simp, rfl, by rw [List.take_append_drop]⟩

theorem offset_lt_iff {t : Text} {p q : Nat} (bound : p < t.length) : t.offset p < t.offset q ↔ p < q := by
  induction t generalizing p q with
  | nil => cases bound
  | cons c t ih =>
      cases q with
      | zero => exact ⟨fun less => absurd less (Nat.not_lt_zero _), fun less => absurd less (Nat.not_lt_zero _)⟩
      | succ q =>
          cases p with
          | zero => exact ⟨fun _ => Nat.succ_pos q, fun _ => Nat.add_pos_left c.utf8Size_pos _⟩
          | succ p =>
              have step : ∀ n, offset (c :: t) (n + 1) = c.utf8Size + offset t n := fun _ => rfl
              rw [step, step, Nat.add_lt_add_iff_left, Nat.add_lt_add_iff_right]
              exact ih (Nat.lt_of_succ_lt_succ bound)

end Text

end SurveyLogic
