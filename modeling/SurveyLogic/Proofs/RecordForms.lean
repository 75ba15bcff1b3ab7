import SurveyLogic.Proofs.ExpressionReading
import SurveyLogic.Proofs.WireFormat

set_option autoImplicit false

namespace SurveyLogic

namespace Json

def named {δ : Type} (fields : List (Field δ)) (items : List Json) : List (Scalar Text × Json) :=
  List.zipWith (fun f item => (.sound f.key, item)) fields items

-- Filling one field leaves the other as it is, and comes to the same before it and after it.
structure Field.Apart {δ : Type} (f g : Field δ) : Prop where
  filled : ∀ draft j next, f.fill draft j = .ok next → g.filled next = g.filled draft
  order : ∀ draft j next k, f.fill draft j = .ok next →
    g.fill next k = g.fill draft k >>= fun filled => f.fill filled j

structure Layout {δ : Type} (fields : List (Field δ)) (blank : δ) : Prop where
  keys : (fields.map Field.key).Nodup
  unfilled : ∀ f ∈ fields, f.filled blank = false
  apart : ∀ f ∈ fields, ∀ g ∈ fields, f.key ≠ g.key → f.Apart g

-- A field that `null` fills as if it had been left out.
structure Field.Optional {δ α : Type} (f : Field δ) (finish : δ → Option α) : Prop where
  taken : ∀ draft, ∃ next, f.fill draft .null = .ok next
  passed : ∀ draft next, f.filled draft = false → f.fill draft .null = .ok next → finish next = finish draft

structure Lenient {δ α : Type} (fields : List (Field δ)) (optional : List String) (decode : Decoder α) :
    Prop where
  fits : ∀ items a, decode (.array items .closed) = .ok a →
    items.length ≤ fields.length ∧ ∀ f ∈ fields.drop items.length, f.mayEnd = true
  arrays : ∀ items : List Json, items.length ≤ fields.length →
    (∀ f ∈ fields.drop items.length, f.mayEnd = true) →
    decode (.array items .closed) = decode (.object (named fields items) .closed)
  nulls : ∀ key ∈ optional, ∀ front back ending, (∀ m ∈ front ++ back, m.1.get ≠ .ok key.toList) →
    decode (.object (front ++ (.sound key.toList, .null) :: back) ending) =
      decode (.object (front ++ back) ending)
  others : ∀ key value, (∀ f ∈ fields, f.key ≠ key) → value.passed = none → ∀ front back ending,
    decode (.object (front ++ (.sound key, value) :: back) ending) = decode (.object (front ++ back) ending)

section

variable {δ α β : Type} {key otherKey : String} {get : δ → Option α} {set : δ → α → δ} {decode : Decoder α}
  {otherGet : δ → Option β} {otherSet : δ → β → δ} {otherDecode : Decoder β} {mayEnd otherMayEnd : Bool}

theorem field_filled {draft next : δ} {j : Json}
    (filled : (field key get set decode mayEnd).fill draft j = .ok next) :
    ∃ a, decode j = .ok a ∧ next = set draft a := by
  simp only [field] at filled
  cases read : decode j with
  | error problem =>
      rw [read] at filled
      cases filled
  | ok a =>
      rw [read] at filled
      cases filled
      exact ⟨a, rfl, rfl⟩

theorem field_apart (kept : ∀ draft a, otherGet (set draft a) = otherGet draft)
    (swap : ∀ draft a b, otherSet (set draft a) b = set (otherSet draft b) a) :
    (field key get set decode mayEnd).Apart (field otherKey otherGet otherSet otherDecode otherMayEnd) := by
  refine ⟨?_, ?_⟩
  · intro draft j next filled
    obtain ⟨a, -, rfl⟩ := field_filled filled
    simp only [field, kept]
  · intro draft j next k filled
    obtain ⟨a, read, rfl⟩ := field_filled filled
    simp only [field, read]
    cases otherDecode k with
    | error problem => rfl
    | ok b => exact congrArg Except.ok (swap draft a b)

theorem optional_at {fields : List (Field δ)} {get : δ → Option (Option α)} {set : δ → Option α → δ}
    {finish : δ → Option β} (index : Nat)
    (found : fields[index]? = some (field key get set (optional decode) mayEnd))
    (same : ∀ draft, get draft = none → finish (set draft none) = finish draft) :
    ∃ f ∈ fields, f.key = key.toList ∧ f.Optional finish := by
  refine ⟨_, List.mem_of_getElem? found, rfl, fun draft => ⟨set draft none, rfl⟩, ?_⟩
  intro draft next unfilled filled
  obtain ⟨_, read, rfl⟩ := field_filled filled
  cases read
  exact same draft (by simpa [field] using unfilled)

end

section

variable {δ α : Type} {fields : List (Field δ)} {draft next blank : δ} {f : Field δ} {finish : δ → Option α}

theorem fill_members_append (front back : List (Scalar Text × Json)) (draft : δ) :
    fillMembers fields draft (front ++ back) =
      fillMembers fields draft front >>= fun next => fillMembers fields next back := by
  induction front generalizing draft with
  | nil => rfl
  | cons m front ih =>
      obtain ⟨key, value⟩ := m
      simp only [List.cons_append, fillMembers, bind_assoc]
      congr 1
      funext name
      split
      · simp only [ih, bind_assoc]
      · split
        · rfl
        · simp only [ih, bind_assoc]

theorem members_keep_unfilled (layout : Layout fields blank) (mem : f ∈ fields)
    {members : List (Scalar Text × Json)} (absent : ∀ m ∈ members, m.1.get ≠ .ok f.key)
    (unfilled : f.filled draft = false) (filled : fillMembers fields draft members = .ok next) :
    f.filled next = false := by
  induction members generalizing draft with
  | nil =>
      cases filled
      exact unfilled
  | cons m members ih =>
      obtain ⟨key, value⟩ := m
      rw [List.forall_mem_cons] at absent
      rw [fillMembers] at filled
      obtain ⟨name, named, filled⟩ := bind_ok filled
      cases found : fields.find? (fun g => g.key = name) with
      | none =>
          rw [found] at filled
          obtain ⟨_, -, filled⟩ := bind_ok filled
          exact ih absent.2 unfilled filled
      | some g =>
          simp only [found] at filled
          have same : g.key = name := by simpa using List.find?_some found
          have other : g.key ≠ f.key := fun equal => absent.1 (named.trans (by rw [← same, equal]))
          have apart := layout.apart g (List.mem_of_find?_eq_some found) f mem other
          by_cases twice : g.filled draft = true
          · rw [if_pos twice] at filled
            cases filled
          · rw [if_neg twice] at filled
            obtain ⟨between, here, filled⟩ := bind_ok filled
            exact ih absent.2 ((apart.filled _ _ _ here).trans unfilled) filled

-- A `null` may be read after the members that follow it, since they fill other fields.
theorem null_moved (layout : Layout fields blank) (mem : f ∈ fields) (optional : f.Optional finish)
    {members : List (Scalar Text × Json)} (absent : ∀ m ∈ members, m.1.get ≠ .ok f.key)
    (filled : f.fill draft .null = .ok next) :
    fillMembers fields next members = fillMembers fields draft members >>= fun last => f.fill last .null := by
  induction members generalizing draft next with
  | nil => exact filled.symm
  | cons m members ih =>
      obtain ⟨key, value⟩ := m
      rw [List.forall_mem_cons] at absent
      simp only [fillMembers, bind_assoc]
      cases named : key.get with
      | error problem => rfl
      | ok name =>
          simp only [ok_bind]
          cases found : fields.find? (fun g => g.key = name) with
          | none =>
              simp only [bind_assoc]
              congr 1
              funext _
              exact ih absent.2 filled
          | some g =>
              have same : g.key = name := by simpa using List.find?_some found
              have other : f.key ≠ g.key := fun equal => absent.1 (named.trans (by rw [equal, same]))
              have apart := layout.apart f mem g (List.mem_of_find?_eq_some found) other
              simp only [apart.filled _ _ _ filled]
              by_cases twice : g.filled draft = true
              · simp only [if_pos twice]
                rfl
              · simp only [if_neg twice, bind_assoc, apart.order _ _ _ value filled]
                congr 1
                funext between
                obtain ⟨later, taken⟩ := optional.taken between
                rw [taken, ok_bind]
                exact ih absent.2 taken

theorem items_as_members {all : List (Field δ)} (layout : Layout all blank) {items : List Json}
    (some_of : fields ⊆ all) (keys : (fields.map Field.key).Nodup)
    (unfilled : ∀ f ∈ fields, f.filled draft = false)
    (fits : items.length ≤ fields.length) (ends : ∀ f ∈ fields.drop items.length, f.mayEnd = true) :
    fillItems .closed draft fields items = fillMembers all draft (named fields items) := by
  induction fields generalizing draft items with
  | nil =>
      obtain rfl : items = [] := List.length_eq_zero_iff.mp (Nat.le_zero.mp fits)
      rfl
  | cons f fields ih =>
      rw [List.cons_subset] at some_of
      rw [List.map_cons, List.nodup_cons] at keys
      rw [List.forall_mem_cons] at unfilled
      cases items with
      | nil =>
          have ends : f.mayEnd = true ∧ ∀ g ∈ fields, g.mayEnd = true := List.forall_mem_cons.mp ends
          have later : fillItems .closed draft fields [] = fillMembers all draft (named fields []) :=
            ih some_of.2 keys.2 unfilled.2 (Nat.zero_le _) ends.2
          rw [fillItems, if_pos ends.1]
          simp only [named, List.zipWith_nil_right] at later ⊢
          exact later
      | cons item items =>
          have found := field_found layout.keys some_of.1
          simp only [named, List.zipWith_cons_cons, fillItems, fillMembers, sound_get, ok_bind, found,
            unfilled.1, Bool.false_eq_true, if_false]
          cases filled : f.fill draft item with
          | error problem => rfl
          | ok next =>
              have free : ∀ g ∈ fields, g.filled next = false := by
                intro g mem
                have other : f.key ≠ g.key := fun equal => keys.1 (equal ▸ List.mem_map_of_mem mem)
                have apart := layout.apart f some_of.1 g (some_of.2 mem) other
                exact (apart.filled _ _ _ filled).trans (unfilled.2 g mem)
              exact ih some_of.2 keys.2 free (Nat.le_of_succ_le_succ fits) ends

theorem items_fit {items : List Json} (filled : fillItems .closed draft fields items = .ok next) :
    items.length ≤ fields.length ∧ ∀ f ∈ fields.drop items.length, f.mayEnd = true := by
  induction fields generalizing draft items with
  | nil =>
      cases items with
      | nil => exact ⟨Nat.le_refl _, by simp⟩
      | cons item items => cases filled
  | cons f fields ih =>
      cases items with
      | nil =>
          rw [fillItems] at filled
          by_cases ends : f.mayEnd = true
          · rw [if_pos ends] at filled
            have later : ∀ g ∈ fields, g.mayEnd = true := (ih filled).2
            exact ⟨Nat.zero_le _, List.forall_mem_cons.mpr ⟨ends, later⟩⟩
          · rw [if_neg ends] at filled
            cases filled
      | cons item items =>
          rw [fillItems] at filled
          obtain ⟨between, -, filled⟩ := bind_ok filled
          obtain ⟨fits, ends⟩ := ih filled
          exact ⟨Nat.succ_le_succ fits, ends⟩

theorem null_left_out (layout : Layout fields blank) (mem : f ∈ fields) (optional : f.Optional finish)
    (front back : List (Scalar Text × Json)) (ending : Ending)
    (absent : ∀ m ∈ front ++ back, m.1.get ≠ .ok f.key) :
    record fields blank finish (.object (front ++ (.sound f.key, .null) :: back) ending) =
      record fields blank finish (.object (front ++ back) ending) := by
  rw [List.forall_mem_append] at absent
  simp only [record, fill_members_append, bind_assoc]
  cases filled : fillMembers fields blank front with
  | error problem => rfl
  | ok draft =>
      have unfilled := members_keep_unfilled layout mem absent.1 (layout.unfilled f mem) filled
      obtain ⟨next, taken⟩ := optional.taken draft
      simp only [ok_bind, fillMembers, sound_get, field_found layout.keys mem, unfilled, Bool.false_eq_true,
        if_false, taken, null_moved layout mem optional absent.2 taken, bind_assoc]
      cases others : fillMembers fields draft back with
      | error problem => rfl
      | ok last =>
          obtain ⟨final, taken⟩ := optional.taken last
          have still := members_keep_unfilled layout mem absent.2 unfilled others
          simp only [ok_bind, taken, finished, optional.passed last final still taken]

theorem unknown_left_out {key : Text} {value : Json} (unknown : ∀ f ∈ fields, f.key ≠ key)
    (sound : value.passed = none) (front back : List (Scalar Text × Json)) (ending : Ending) :
    record fields blank finish (.object (front ++ (.sound key, value) :: back) ending) =
      record fields blank finish (.object (front ++ back) ending) := by
  have none : fields.find? (fun g => g.key = key) = none := by simpa using unknown
  have skipped : ∀ draft, fillMembers fields draft ((.sound key, value) :: back) =
      fillMembers fields draft back := by
    intro draft
    rw [fillMembers, sound_get, ok_bind, none, sound]
    rfl
  simp only [record, fill_members_append, skipped]

theorem lenient_record (layout : Layout fields blank) {keys : List String}
    (optional : ∀ key ∈ keys, ∃ f ∈ fields, f.key = key.toList ∧ f.Optional finish) :
    Lenient fields keys (record fields blank finish) := by
  refine ⟨?_, ?_, ?_, fun key value unknown sound => unknown_left_out unknown sound⟩
  · intro items a read
    rw [record] at read
    obtain ⟨draft, filled, -⟩ := bind_ok read
    exact items_fit filled
  · intro items fits ends
    rw [record, record, items_as_members layout (List.Subset.refl _) layout.keys layout.unfilled fits ends]
    rfl
  · intro key mem front back ending absent
    obtain ⟨f, member, named, optional⟩ := optional key mem
    rw [← named] at absent ⊢
    exact null_left_out layout member optional front back ending absent

end

end Json

section

open Json (Lenient lenient_record field_apart optional_at)

theorem criterion_lenient : Lenient Criterion.fields ["response_value"] Criterion.decode := by
  refine lenient_record ⟨by decide, by decide, by simp [Criterion.fields, field_apart]⟩ ?_
  simp only [List.forall_mem_cons]
  exact ⟨optional_at 2 rfl fun draft absent => by simp [Criterion.Draft.finish, absent], List.forall_mem_nil _⟩

theorem expression_lenient : Lenient Expression.fields ["operator"] Expression.decode := by
  refine lenient_record ⟨by decide, by decide, by simp [Expression.fields, field_apart]⟩ ?_
  simp only [List.forall_mem_cons]
  exact ⟨optional_at 1 rfl fun draft absent => by simp [Expression.Draft.finish, absent], List.forall_mem_nil _⟩

theorem row_lenient : Lenient Row.fields ["name", "label", "relevant", "constraint"] Row.decode := by
  refine lenient_record ⟨by decide, by decide, by simp [Row.fields, field_apart]⟩ ?_
  simp only [List.forall_mem_cons]
  exact ⟨optional_at 1 rfl fun draft absent => by simp [Row.Draft.finish, absent],
    optional_at 2 rfl fun draft absent => by simp [Row.Draft.finish, absent],
    optional_at 3 rfl fun draft absent => by simp [Row.Draft.finish, absent],
    optional_at 4 rfl fun draft absent => by simp [Row.Draft.finish, absent],
    List.forall_mem_nil _⟩

theorem form_lenient : Lenient Form.fields ["id"] Form.decode := by
  refine lenient_record ⟨by decide, by decide, by simp [Form.fields, field_apart]⟩ ?_
  simp only [List.forall_mem_cons]
  exact ⟨optional_at 0 rfl fun draft absent => by simp [Form.Draft.finish, absent], List.forall_mem_nil _⟩

theorem check_options_lenient : Lenient CheckOptions.fields [] CheckOptions.decode :=
  lenient_record ⟨by decide, by decide, by simp [CheckOptions.fields, field_apart]⟩ (List.forall_mem_nil _)

theorem settings_lenient : Lenient Settings.fields [] Settings.decode :=
  lenient_record ⟨by decide, by decide, by simp [Settings.fields, field_apart]⟩ (List.forall_mem_nil _)

theorem diagnostic_lenient :
    Lenient Diagnostic.fields ["row", "question", "column", "context"] Diagnostic.decode := by
  refine lenient_record ⟨by decide, by decide, by simp [Diagnostic.fields, field_apart]⟩ ?_
  simp only [List.forall_mem_cons]
  exact ⟨optional_at 3 rfl fun draft absent => by simp [Diagnostic.Draft.finish, absent],
    optional_at 4 rfl fun draft absent => by simp [Diagnostic.Draft.finish, absent],
    optional_at 5 rfl fun draft absent => by simp [Diagnostic.Draft.finish, absent],
    optional_at 6 rfl fun draft absent => by simp [Diagnostic.Draft.finish, absent],
    List.forall_mem_nil _⟩

theorem compiled_logic_lenient : Lenient CompiledLogic.fields ["question"] CompiledLogic.decode := by
  refine lenient_record ⟨by decide, by decide, by simp [CompiledLogic.fields, field_apart]⟩ ?_
  simp only [List.forall_mem_cons]
  exact ⟨optional_at 1 rfl fun draft absent => by simp [CompiledLogic.Draft.finish, absent],
    List.forall_mem_nil _⟩

theorem form_summary_lenient : Lenient FormSummary.fields ["id"] FormSummary.decode := by
  refine lenient_record ⟨by decide, by decide, by simp [FormSummary.fields, field_apart]⟩ ?_
  simp only [List.forall_mem_cons]
  exact ⟨optional_at 0 rfl fun draft absent => by simp [FormSummary.Draft.finish, absent], List.forall_mem_nil _⟩

theorem report_lenient : Lenient Report.fields [] Report.decode :=
  lenient_record ⟨by decide, by decide, by simp [Report.fields, field_apart]⟩ (List.forall_mem_nil _)

end

theorem name_as_object {α : Type} (ofName? : Text → Option α) (name : Text) :
    Json.oneOf ofName? (.ofMembers [(name, .null)]) = Json.oneOf ofName? (.ofText name) := by
  simp only [Json.oneOf, Json.ofMembers, Json.ofText, List.map_cons, List.map_nil, Json.sound_get, ok_bind]
  cases ofName? name <;> rfl

example : Expression.decode (.ofList [.ofList [.ofList [.ofText "a".toList,
    .ofMembers [("resp_equals".toList, .null)], .ofText "1".toList]], .null]) =
      .ok ⟨[.withValue "a".toList .equals "1".toList], none⟩ := rfl

theorem contextual_as_array (current : Json) :
    ReferenceStyle.decode (.array [.ofText ReferenceStyle.contextualTag, current] .closed) =
      ReferenceStyle.decode (.object [(.sound "kind".toList, .ofText ReferenceStyle.contextualTag),
        (.sound "current".toList, current)] .closed) := by
  have tag : ReferenceStyle.Tag.decode (.ofText ReferenceStyle.contextualTag) = .ok .contextual := rfl
  have built : ReferenceStyle.ofTagAndItems .contextual [current] =
      ReferenceStyle.ofTagAndMembers .contextual [("current".toList, current)] := by
    cases current <;> rfl
  simp [ReferenceStyle.decode, ReferenceStyle.splitMembers, tag, ok_bind, built]

end SurveyLogic
