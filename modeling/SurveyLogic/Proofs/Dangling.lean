import SurveyLogic.Proofs.RoundTrip

set_option autoImplicit false

namespace SurveyLogic

open Text Literal

inductive Opening : Text → Prop
  | text : Opening []
  | separator (front : Text) (s : Separator) : Opening (front ++ s.text)

theorem clause_last {t : Text} {start : Nat} {found : List JoinMatch} (chained : Chained t start found) :
    ∃ earlier front clause, clausesFrom t start found = earlier ++ [clause] ∧
      t.drop start = front ++ clause ∧ Opening front := by
  induction found generalizing start with
  | nil => exact ⟨[], [], t.drop start, rfl, rfl, .text⟩
  | cons join rest ih =>
      obtain ⟨s, parts, -, -⟩ := match_parts chained.2.1
      obtain ⟨earlier, front, clause, clauses, behind, opening⟩ := ih chained.2.2
      have whole : t.drop start = t.slice start join.start ++ s.text ++ front ++ clause := by
        rw [← slice_drop t chained.1, parts, behind]
        simp
      refine ⟨t.slice start join.start :: earlier, _, clause, by rw [clausesFrom, clauses]; rfl, whole, ?_⟩
      cases opening with
      | text => simpa using Opening.separator (t.slice start join.start) s
      | separator front last =>
          rw [← List.append_assoc]
          exact .separator _ last

theorem last_clause_ends {style : ReferenceStyle} {front clause : Text} {c : Criterion} (opening : Opening front)
    (noTail : NoTail (front ++ clause)) (ends : EndsInKeyword (front ++ clause))
    (form : ClauseForm style clause.trim c) : EndsInKeyword clause.trim := by
  obtain ⟨lead, tail, blankLead, blankTail, parts⟩ := trim_spec clause
  have noPad : tail = [] := by
    rw [parts, ← List.append_assoc] at noTail
    exact no_tail_blank noTail blankTail
  have whole : front ++ clause = (front ++ lead) ++ clause.trim := by
    rw [List.append_assoc, List.append_cancel_left_eq]
    rwa [noPad, List.append_nil] at parts
  rw [whole] at ends
  have apart : ∀ body last, front ++ lead = body ++ [last] → isBlank last = true →
      EndsInKeyword clause.trim := by
    intro body last frontEq blank
    rw [frontEq, List.append_assoc, List.singleton_append] at ends
    rcases ends_behind (blank_foreign blank) ends with ⟨join, spells⟩ | within
    · exact absurd ⟨clause.trim, join, [], rfl, spells⟩ (form_no_keyword form [])
    · exact within
  rcases List.eq_nil_or_concat lead with rfl | ⟨inner, last, rfl⟩
  · cases opening with
    | text => exact ends
    | separator front s =>
        obtain ⟨body, last, textEq, blank⟩ := separator_last s
        exact apart (front ++ body) last (by simp [textEq]) blank
  · exact apart (front ++ inner) last (by simp) (all_blank_mem blankLead last (by simp))

theorem upper_l_apart {c : Char} (upper : c.toUpper = 'L') : c.toLower ≠ 'd' ∧ c.toLower ≠ 'r' := by
  by_cases inside : 0x41 ≤ c.toNat ∧ c.toNat ≤ 0x5A
  · rw [upper_outside (by omega)] at upper
    rw [upper]
    decide
  · rw [lower_outside inside]
    constructor
    · rintro rfl
      exact absurd upper (by decide)
    · rintro rfl
      exact absurd upper (by decide)

theorem missing_open {t : Text} (missing : Missing t) (front : Text) : ¬ EndsInKeyword (front ++ t) := by
  have literal : ∀ {quoted}, Quoted quoted [] → ¬ EndsInKeyword (front ++ quoted) := fun quoted =>
    (closes_sealed (closes_append (quoted_closes quoted) front)).noKeyword
  rcases missing with rfl | rfl | null
  · exact literal (.mk '\'' [] rfl List.not_mem_nil)
  · exact literal (.mk '"' [] rfl List.not_mem_nil)
  · rcases List.eq_nil_or_concat t with rfl | ⟨start, c, rfl⟩
    · cases null
    · have last := congrArg List.getLast? null
      exact no_keyword_last (c := c) (by simp) (upper_l_apart (by simpa [upper] using last))

theorem operand_closes {t value : Text} (operand : Operand t value) : Closes t ∨ (Words t ∧ value = t) := by
  cases operand with
  | date _ _ _ _ _ _ => exact .inl (closes_append ⟨')', rfl, .inl rfl⟩ _)
  | quoted _ _ literal => exact .inl (quoted_closes literal)
  | number _ shape => exact .inl (number_closes shape)
  | words _ shape => exact .inr ⟨shape, rfl⟩

theorem selection_closes {style : ReferenceStyle} {t : Text} {c : Criterion} (form : SelectionForm style t c) :
    Closes t := by
  have bracket : Closes [')'] := ⟨')', rfl, .inl rfl⟩
  cases form with
  | selected _ _ _ call =>
      obtain ⟨lead, raw, _, gap, pad, choice, _, tail, -, -, -, -, -, -⟩ := call
      simp only [← List.append_assoc]
      exact closes_append bracket _
  | notSelected lead call tail _ _ _ _ _ =>
      simp only [← List.append_assoc]
      exact closes_append bracket _

structure Absorbs (value : Text) : Prop where
  words : Words value
  keyword : (∃ join : Join, value.lower = join.keyword) ∨ EndsInKeyword value

theorem token_last {op : Operator} (compares : op.kind = .comparison) :
    ∃ body last, op.token = body ++ [last] ∧ last ∈ ['=', '<', '>'] := by
  cases op with
  | equals => exact ⟨[], '=', rfl, by simp⟩
  | notEquals => exact ⟨['!'], '=', rfl, by simp⟩
  | greater => exact ⟨[], '>', rfl, by simp⟩
  | less => exact ⟨[], '<', rfl, by simp⟩
  | greaterEquals => exact ⟨['>'], '=', rfl, by simp⟩
  | lessEquals => exact ⟨['<'], '=', rfl, by simp⟩
  | notNull => cases compares
  | null => cases compares
  | selected => cases compares
  | notSelected => cases compares

theorem symbol_foreign {c : Char} (symbol : c ∈ ['=', '<', '>']) : Foreign c := by
  intro keyword join spells mem
  have folded : c.toLower ∈ join.keyword := by
    rw [← spells]
    exact List.mem_map_of_mem mem
  simp only [List.mem_cons, List.not_mem_nil, or_false] at symbol
  cases join <;> rcases symbol with rfl | rfl | rfl <;> exact absurd folded (by decide)

-- The one form that ends in a join keyword is a comparison with bare words.
theorem form_absorbs {style : ReferenceStyle} {t : Text} {c : Criterion} (form : ClauseForm style t c)
    (ends : EndsInKeyword t) :
    ∃ name op value, c = .withValue name op value ∧ op.kind = .comparison ∧ Absorbs value := by
  cases form with
  | existence form =>
      obtain ⟨raw, name, gap, sign, pad, nothing, op, -, -, -, -, missing⟩ := form
      simp only [← List.append_assoc] at ends
      exact absurd ends (missing_open missing _)
  | comparison form _ =>
      obtain ⟨raw, name, gap, pad, operand, value, op, -, -, compares, blankPad, literal⟩ := form
      refine ⟨name, op, value, rfl, compares, ?_⟩
      rcases operand_closes literal with closes | ⟨words, rfl⟩
      · simp only [← List.append_assoc] at ends
        exact absurd ends (closes_sealed (closes_append closes _)).noKeyword
      · refine ⟨words, ?_⟩
        rcases List.eq_nil_or_concat pad with rfl | ⟨blanks, last, rfl⟩
        · obtain ⟨body, last, token, symbol⟩ := token_last compares
          have parts : raw ++ (gap ++ (op.token ++ ([] ++ value))) = raw ++ gap ++ body ++ last :: value := by
            simp [token]
          rw [parts] at ends
          exact ends_behind (symbol_foreign symbol) ends
        · have parts : raw ++ (gap ++ (op.token ++ (blanks.concat last ++ value))) =
              raw ++ gap ++ op.token ++ blanks ++ last :: value := by simp
          rw [parts] at ends
          exact ends_behind (blank_foreign (all_blank_mem blankPad last (by simp))) ends
  | selection form => exact absurd ends (closes_sealed (selection_closes form)).noKeyword

theorem dangling_joins_refused (style : ReferenceStyle) (text : Text) :
    (StartsInKeyword text.trim → ∃ error, (Compiler.ofStyle style).compile text = .error error) ∧
    (EndsInKeyword text.trim → (∃ error, (Compiler.ofStyle style).compile text = .error error) ∨
      ∃ e earlier name op value, (Compiler.ofStyle style).compile text = .ok e ∧
        e.criteria = earlier ++ [.withValue name op value] ∧ op.kind = .comparison ∧ Absorbs value) := by
  have chained := top_level_chained text.trim
  cases read : (Compiler.ofStyle style).compile text with
  | error error => exact ⟨fun _ => ⟨error, rfl⟩, fun _ => .inl ⟨error, rfl⟩⟩
  | ok e =>
      obtain ⟨criteria, join, -, clauses⟩ := compile_iff.mp read
      constructor
      · intro starts
        have noKeyword := chained_no_keyword chained clauses []
        rw [List.drop_zero, List.append_nil] at noKeyword
        exact absurd starts noKeyword
      · intro ends
        obtain ⟨earlier, front, clause, divided, parts, opening⟩ := clause_last chained
        rw [List.drop_zero] at parts
        have noTail := trim_no_tail text
        rw [parts] at noTail ends
        rw [topClauses, SurveyLogic.clauses, divided] at clauses
        have criteriaParts := List.take_append_drop earlier.length criteria
        have lastRead := List.forall₂_drop_append _ _ _ clauses.flip
        generalize criteria.drop earlier.length = last at criteriaParts lastRead
        cases lastRead with
        | cons form none =>
            cases none
            obtain ⟨name, op, value, rfl, compares, absorbs⟩ :=
              form_absorbs form (last_clause_ends opening noTail ends form)
            exact .inr ⟨_, _, name, op, value, rfl, criteriaParts.symm, compares, absorbs⟩

theorem dangling_or_refused :
    (∃ error, (Compiler.ofStyle .bare).compile "\tAnd ${a} = 1".toList = .error error) ∧
      (Compiler.ofStyle .bare).compile "${a} = '1' OR ${b} < 'x or' or ".toList =
        .error (.logic (.unrecognizedClause "${b} < 'x or' or".toList)) ∧
      ∃ e earlier name op value,
        (Compiler.ofStyle .bare).compile "${a} = '1' OR ${b} < 18  or ".toList = .ok e ∧
          e.criteria = earlier ++ [.withValue name op value] ∧ op.kind = .comparison ∧ Absorbs value := by
  have kept : (Compiler.ofStyle .bare).compile "${a} = '1' OR ${b} < 18  or ".toList =
    .ok ⟨[.withValue "a".toList .equals "1".toList, .withValue "b".toList .less "18  or".toList], some .or⟩ := rfl
  have starts : StartsInKeyword (Text.trim "\tAnd ${a} = 1".toList) :=
    ⟨"And".toList, .and, " ${a} = 1".toList, rfl, rfl⟩
  have ends : EndsInKeyword (Text.trim "${a} = '1' OR ${b} < 18  or ".toList) :=
    ⟨"${a} = '1' OR ${b} < 18 ".toList, ' ', "or".toList, .or, rfl, rfl, rfl⟩
  refine ⟨(dangling_joins_refused .bare _).1 starts, rfl, ?_⟩
  rcases (dangling_joins_refused .bare _).2 ends with ⟨error, refused⟩ | absorbed
  · rw [kept] at refused
    cases refused
  · exact absorbed

theorem dangling_and_kept :
    "${a} = 1 and".toList = "${a} = 1".toList ++ ' ' :: "and".toList ∧
      openAfter none "${a} = 1".toList = none ∧
      (Compiler.ofStyle .bare).compile "${a} = 1 and".toList =
        .ok (.single (.withValue "a".toList .equals "1 and".toList)) := ⟨rfl, rfl, rfl⟩

end SurveyLogic
