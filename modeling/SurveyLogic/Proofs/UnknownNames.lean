import Mathlib.Data.List.Basic
import SurveyLogic.Proofs.References

set_option autoImplicit false

namespace SurveyLogic

def Expression.names (e : Expression) : List Text := e.criteria.map Criterion.name

def seenAfter (seen : List Text) : List Criterion → List Text
  | [] => seen
  | c :: criteria => seenAfter (if seen.contains c.name then seen else seen ++ [c.name]) criteria

def Expression.FirstBefore (e : Expression) (a b : Text) : Prop := e.names.idxOf a < e.names.idxOf b

structure KnownNames.Finds (known : KnownNames) (e : Expression) (unknown : List Text) : Prop where
  once : unknown.Nodup
  exact : ∀ name, name ∈ unknown ↔ (∃ c ∈ e.criteria, c.name = name) ∧ name ∉ known.names
  ordered : unknown.Pairwise e.FirstBefore
  seen : unknown = (seenAfter [] e.criteria).filter (· ∉ known.names)

structure KnownNames.Answers (known : KnownNames) (e : Expression) (question : Text)
    (answer : Except CompileError Unit) : Prop where
  accepts : answer = .ok () ↔ ∀ c ∈ e.criteria, c.name ∈ known.names
  refuses : ∀ error, answer = .error error ↔ ∃ front c back, e.criteria = front ++ c :: back ∧
    (∀ other ∈ front, other.name ∈ known.names) ∧ c.name ∉ known.names ∧
    error = .undefinedField c.name question

theorem distinct_ordered (names : List Text) :
    (Expression.distinct names).Pairwise fun a b => names.idxOf a < names.idxOf b := by
  induction names with
  | nil => exact .nil
  | cons first names ih =>
      have later : ∀ {name}, name ≠ first → (first :: names).idxOf name = names.idxOf name + 1 :=
        fun different => List.idxOf_cons_ne names (Ne.symm different)
      rw [Expression.distinct, List.pairwise_cons, List.pairwise_filter]
      refine ⟨?_, ih.imp ?_⟩
      · intro name mem
        have different := of_decide_eq_true (List.mem_filter.mp mem).2
        rw [List.idxOf_cons_self, later different]
        exact Nat.succ_pos _
      · intro a b before aOther bOther
        rw [later (of_decide_eq_true aOther), later (of_decide_eq_true bOther)]
        exact Nat.succ_lt_succ before

theorem seen_after (seen : List Text) (criteria : List Criterion) :
    seenAfter seen criteria =
      seen ++ (Expression.distinct (criteria.map Criterion.name)).filter (· ∉ seen) := by
  induction criteria generalizing seen with
  | nil => simp [seenAfter, Expression.distinct]
  | cons c criteria ih =>
      rw [seenAfter, ih, List.map_cons, Expression.distinct]
      by_cases there : c.name ∈ seen
      · rw [if_pos (List.contains_iff_mem.mpr there), List.filter_cons_of_neg (by simp [there]),
          List.filter_filter]
        congr 1
        apply List.filter_congr
        intro name _
        by_cases same : name = c.name
        · simp [same, there]
        · simp [same]
      · rw [if_neg (mt List.contains_iff_mem.mp there), List.filter_cons_of_pos (by simp [there]),
          List.filter_filter, List.append_assoc, List.singleton_append]
        congr 2
        apply List.filter_congr
        intro name _
        simp

theorem references_seen (e : Expression) : e.references = seenAfter [] e.criteria := by
  rw [seen_after, Expression.references]
  simp

theorem known_mem {known : KnownNames} {name : Text} : known.isKnown name = true ↔ name ∈ known.names := by
  rw [KnownNames.isKnown, decide_eq_true_eq]

theorem unknown_mem {known : KnownNames} {name : Text} : known.isKnown name = false ↔ name ∉ known.names := by
  rw [KnownNames.isKnown, decide_eq_false_iff_not]

section

variable {known : KnownNames} {e : Expression}

theorem unknown_found : known.Finds e (known.unknown e) := by
  have ordered : (known.unknown e).Pairwise e.FirstBefore := (distinct_ordered e.names).filter _
  refine ⟨?_, ?_, ordered, ?_⟩
  · apply ordered.imp
    intro a b before same
    rw [Expression.FirstBefore, same] at before
    exact Nat.lt_irrefl _ before
  · intro name
    rw [KnownNames.unknown, List.mem_filter, references_mem, Bool.not_eq_true', unknown_mem]
  · rw [KnownNames.unknown, references_seen]
    apply List.filter_congr
    intro name _
    rw [KnownNames.isKnown, decide_not]

theorem check_answers (question : Text) : known.Answers e question (known.check e question) := by
  refine ⟨?_, ?_⟩
  · simp only [check_accepts, known_mem]
  · intro error
    simp only [check_refuses, known_mem, unknown_mem]

theorem check_same {other : KnownNames} (same : ∀ name, name ∈ other.names ↔ name ∈ known.names)
    (question : Text) : other.check e question = known.check e question := by
  have asked : other.isKnown = known.isKnown := by
    funext name
    rw [KnownNames.isKnown, KnownNames.isKnown, decide_eq_decide]
    exact same name
  rw [check_known, check_known, asked]

end

theorem unknown_names_found (known : KnownNames) (e : Expression) (question : Text) :
    known.Finds e (known.unknown e) ∧ known.Answers e question (known.check e question) ∧
      ∀ other : KnownNames, (∀ name, name ∈ other.names ↔ name ∈ known.names) →
        other.check e question = known.check e question :=
  ⟨unknown_found, check_answers question, fun _ same => check_same same question⟩

def strayNames : Expression :=
  .joined [.existence "age".toList .notNull, .existence "pat".toList .null, .existence "car".toList .null,
    .existence "pat".toList .notNull] .or

theorem stray_names_found :
    KnownNames.Finds ⟨["age".toList, "pet".toList]⟩ strayNames ["pat".toList, "car".toList] ∧
      KnownNames.Answers ⟨["age".toList, "pet".toList]⟩ strayNames "pet".toList
        (.error (.undefinedField "pat".toList "pet".toList)) ∧
      KnownNames.check ⟨["pet".toList, "age".toList, "pet".toList]⟩ strayNames "pet".toList =
        KnownNames.check ⟨["age".toList, "pet".toList]⟩ strayNames "pet".toList := by
  obtain ⟨found, answered, alike⟩ :=
    unknown_names_found ⟨["age".toList, "pet".toList]⟩ strayNames "pet".toList
  exact ⟨found, answered, alike ⟨["pet".toList, "age".toList, "pet".toList]⟩ (by simp)⟩

end SurveyLogic
