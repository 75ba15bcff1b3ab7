import SurveyLogic.Proofs.Splices

set_option autoImplicit false

namespace SurveyLogic

open Text

structure Piece (style : ReferenceStyle) where
  text : Text
  expression : Expression
  accepted : (Compiler.ofStyle style).compile text = .ok expression
  closed : ¬ EndsInKeyword text.trim

namespace Piece

variable {style : ReferenceStyle}

def spliced (first : Piece style) : List (Separator × Piece style) → Text
  | [] => first.text
  | (s, next) :: rest => first.text ++ s.text ++ spliced next rest

def criteria (first : Piece style) (rest : List (Separator × Piece style)) : List Criterion :=
  (first :: rest.map Prod.snd).flatMap fun piece => piece.expression.criteria

def Agree (first : Piece style) (rest : List (Separator × Piece style)) (op : Join) : Prop :=
  (∀ entry ∈ rest, entry.1.join = op) ∧
    ∀ piece ∈ first :: rest.map Prod.snd, ∀ own ∈ piece.expression.operator, own = op

def keywords (first : Piece style) : List (Separator × Piece style) → List Text
  | [] => spelledJoins first.text.trim
  | (s, next) :: rest => spelledJoins first.text.trim ++ s.keyword :: keywords next rest

end Piece

theorem join_keyword_injective {a b : Join} (same : a.keyword = b.keyword) : a = b := by
  cases a <;> cases b <;> first | rfl | exact absurd same (by decide)

theorem clauses_length (t : Text) (start : Nat) (found : List JoinMatch) :
    (clausesFrom t start found).length = found.length + 1 := by
  induction found generalizing start with
  | nil => rfl
  | cons join rest ih => rw [clausesFrom, List.length_cons, ih, List.length_cons]

section

variable {style : ReferenceStyle}

theorem piece_reads (piece : Piece style) :
    Reads style piece.text (spelledJoins piece.text.trim) piece.expression.criteria := by
  obtain ⟨text, expression, accepted, closed⟩ := piece
  obtain ⟨criteria, join, -, clauses⟩ := compile_iff.mp accepted
  exact ⟨rfl, clauses, closed⟩

theorem piece_operator (piece : Piece style) (op : Join) :
    (∀ own ∈ piece.expression.operator, own = op) ↔
      ∀ keyword ∈ spelledJoins piece.text.trim, keyword.lower = op.keyword := by
  obtain ⟨text, expression, accepted, closed⟩ := piece
  obtain ⟨criteria, join, agree, clauses⟩ := compile_iff.mp accepted
  have size : criteria.length = (spelledJoins text.trim).length + 1 := by
    rw [← List.Forall₂.length_eq clauses, topClauses, SurveyLogic.clauses, clauses_length, spelledJoins,
      List.length_map]
  have operator : (Expression.joined criteria join).operator =
      if 1 < criteria.length then some join else none := rfl
  simp only [operator, size]
  cases joins : spelledJoins text.trim with
  | nil => simp
  | cons keyword others =>
      rw [joins, List.forall_mem_cons] at agree
      simp only [List.length_cons, Nat.lt_add_left_iff_pos, Nat.zero_lt_succ, if_true, Option.mem_some,
        forall_eq']
      rw [List.forall_mem_cons]
      constructor
      · rintro rfl
        exact agree
      · intro agrees
        obtain ⟨first, -⟩ := agrees
        exact join_keyword_injective (agree.1.symm.trans first)

theorem spliced_reads (first : Piece style) (rest : List (Separator × Piece style)) :
    Reads style (first.spliced rest) (first.keywords rest) (first.criteria rest) := by
  induction rest generalizing first with
  | nil =>
      have whole : first.criteria [] = first.expression.criteria := by simp [Piece.criteria]
      rw [whole]
      exact piece_reads first
  | cons entry rest ih =>
      obtain ⟨s, next⟩ := entry
      have parts : first.criteria ((s, next) :: rest) = first.expression.criteria ++ next.criteria rest := by
        simp [Piece.criteria]
      rw [parts]
      exact reads_spliced s (piece_reads first) (ih next)

theorem agree_iff (first : Piece style) (rest : List (Separator × Piece style)) (op : Join) :
    first.Agree rest op ↔ ∀ keyword ∈ first.keywords rest, keyword.lower = op.keyword := by
  induction rest generalizing first with
  | nil => simpa [Piece.Agree, Piece.keywords] using piece_operator first op
  | cons entry rest ih =>
      obtain ⟨s, next⟩ := entry
      have separator : s.keyword.lower = op.keyword ↔ s.join = op := by
        rw [s.spells]
        exact ⟨join_keyword_injective, fun same => by rw [same]⟩
      rw [Piece.keywords, List.forall_mem_append, List.forall_mem_cons, ← piece_operator, separator, ← ih]
      simp only [Piece.Agree, List.map_cons, List.forall_mem_cons]
      constructor
      · intro agree
        obtain ⟨⟨here, separators⟩, own, operators⟩ := agree
        exact ⟨own, here, separators, operators⟩
      · intro agree
        obtain ⟨own, here, separators, operators⟩ := agree
        exact ⟨⟨here, separators⟩, own, operators⟩

end

theorem compile_spliced (style : ReferenceStyle) (first : Piece style)
    (rest : List (Separator × Piece style)) :
    (∀ op, first.Agree rest op →
      (Compiler.ofStyle style).compile (first.spliced rest) = .ok (.joined (first.criteria rest) op)) ∧
    ((∀ op, ¬ first.Agree rest op) → ∃ one other,
      (Compiler.ofStyle style).compile (first.spliced rest) = .error (.logic (.mixedJoins one other)) ∧
      Leftmost (first.spliced rest) (fun _ => True) one ∧
      Leftmost (first.spliced rest) (fun keyword => keyword.lower ≠ one.lower) other) := by
  have reads := spliced_reads first rest
  constructor
  · intro op agree
    exact reads_agreed reads ((agree_iff first rest op).mp agree)
  · intro mixed
    apply reads_mixed reads
    intro op agree
    exact mixed op ((agree_iff first rest op).mpr agree)

def adultPiece : Piece .bare where
  text := " ${age} >= 18".toList
  expression := .single (.withValue "age".toList .greaterEquals "18".toList)
  accepted := by rfl
  closed := no_keyword_last rfl (by decide)

def petPiece : Piece .bare where
  text := "selected(${pets}, 'cat or dog')\tAnd ${home} != NULL".toList
  expression := ⟨[.withValue "pets".toList .selected "cat or dog".toList,
    .existence "home".toList .notNull], some .and⟩
  accepted := by rfl
  closed := no_keyword_last rfl (by decide)

def andSeparator : Separator where
  lead := [' ']
  keyword := "AND".toList
  trail := ['\n', ' ']
  join := .and
  leadInked := by decide
  leadBlank := by decide
  spells := by decide
  trailInked := by decide
  trailBlank := by decide

def orSeparator : Separator where
  lead := [' ']
  keyword := "or".toList
  trail := [' ']
  join := .or
  leadInked := by decide
  leadBlank := by decide
  spells := by decide
  trailInked := by decide
  trailBlank := by decide

theorem adult_with_pets :
    (Compiler.ofStyle .bare).compile
        " ${age} >= 18 AND\n selected(${pets}, 'cat or dog')\tAnd ${home} != NULL".toList =
      .ok ⟨[.withValue "age".toList .greaterEquals "18".toList,
        .withValue "pets".toList .selected "cat or dog".toList, .existence "home".toList .notNull],
        some .and⟩ ∧
    ∃ one other, (Compiler.ofStyle .bare).compile
        " ${age} >= 18 or selected(${pets}, 'cat or dog')\tAnd ${home} != NULL".toList =
      .error (.logic (.mixedJoins one other)) := by
  have agree : adultPiece.Agree [(andSeparator, petPiece)] .and := by
    constructor
    · decide
    · decide
  have mixed : ∀ op, ¬ adultPiece.Agree [(orSeparator, petPiece)] op := by
    intro op agree
    obtain ⟨separators, operators⟩ := agree
    have isOr : Join.or = op := separators (orSeparator, petPiece) (by simp)
    have isAnd : Join.and = op := operators petPiece (by simp) .and rfl
    rw [← isOr] at isAnd
    cases isAnd
  have joinedText : adultPiece.spliced [(andSeparator, petPiece)] =
      " ${age} >= 18 AND\n selected(${pets}, 'cat or dog')\tAnd ${home} != NULL".toList := by rfl
  have mixedText : adultPiece.spliced [(orSeparator, petPiece)] =
      " ${age} >= 18 or selected(${pets}, 'cat or dog')\tAnd ${home} != NULL".toList := by rfl
  have accepted := (compile_spliced .bare adultPiece [(andSeparator, petPiece)]).1 .and agree
  obtain ⟨one, other, refused, -⟩ := (compile_spliced .bare adultPiece [(orSeparator, petPiece)]).2 mixed
  rw [joinedText] at accepted
  rw [mixedText] at refused
  exact ⟨accepted, one, other, refused⟩

end SurveyLogic
