import SurveyLogic.Reader
import SurveyLogic.Proofs.Values

set_option autoImplicit false

namespace SurveyLogic

open Text Literal

def WordName (name : Text) : Prop := name ≠ [] ∧ ∀ c ∈ name, isWord c = true

instance (name : Text) : Decidable (WordName name) :=
  @instDecidableAnd _ _ _ (List.decidableBAll _ name)

inductive ReferenceStyle.Names (style : ReferenceStyle) : Text → Text → Prop
  | braced (name : Text) (word : WordName name) : Names style (braced name) name
  | dot (current : Text) (bound : style = .contextual current) (named : current ≠ []) :
      Names style ['.'] current

inductive Equality : Text → Operator → Prop
  | same : Equality ['='] .null
  | different : Equality ['!', '='] .notNull

def Missing (t : Text) : Prop :=
  t = "''".toList ∨ t = "\"\"".toList ∨ t.upper = "NULL".toList

inductive ExistenceForm (style : ReferenceStyle) : Text → Criterion → Prop
  | mk (raw name gap sign pad nothing : Text) (op : Operator) (names : style.Names raw name)
      (blankGap : gap.allBlank) (equality : Equality sign op) (blankPad : pad.allBlank)
      (missing : Missing nothing) :
      ExistenceForm style (raw ++ (gap ++ (sign ++ (pad ++ nothing)))) (.existence name op)

inductive ComparisonForm (style : ReferenceStyle) : Text → Criterion → Prop
  | mk (raw name gap pad operand value : Text) (op : Operator) (names : style.Names raw name)
      (blankGap : gap.allBlank) (compares : op.kind = .comparison) (blankPad : pad.allBlank)
      (literal : Operand operand value) :
      ComparisonForm style (raw ++ (gap ++ (op.token ++ (pad ++ operand)))) (.withValue name op value)

inductive CallForm (style : ReferenceStyle) : Text → Text → Text → Prop
  | mk (lead raw name gap pad choice value tail : Text) (blankLead : lead.allBlank)
      (names : style.Names raw name) (blankGap : gap.allBlank) (blankPad : pad.allBlank)
      (literal : Quoted choice value) (blankTail : tail.allBlank) :
      CallForm style ("selected(".toList ++ (lead ++ (raw ++ (gap ++ ([','] ++ (pad ++ (choice ++
        (tail ++ [')']))))))))  name value

inductive SelectionForm (style : ReferenceStyle) : Text → Criterion → Prop
  | selected (call name value : Text) (form : CallForm style call name value) :
      SelectionForm style call (.withValue name .selected value)
  | notSelected (lead call tail name value : Text) (blankLead : lead.allBlank)
      (form : CallForm style call name value) (blankTail : tail.allBlank) :
      SelectionForm style ("not(".toList ++ (lead ++ (call ++ (tail ++ [')']))))
        (.withValue name .notSelected value)

-- A check for existence is also a comparison with an empty literal or a word; it goes first.
inductive ClauseForm (style : ReferenceStyle) (t : Text) (c : Criterion) : Prop
  | existence (form : ExistenceForm style t c)
  | comparison (form : ComparisonForm style t c) (noCheck : ∀ other, ¬ ExistenceForm style t other)
  | selection (form : SelectionForm style t c)

theorem of_style_grammar (style : ReferenceStyle) : (Reader.ofStyle style).grammar = style.grammar := rfl

theorem of_style_style (style : ReferenceStyle) : (Reader.ofStyle style).style = style := rfl

theorem word_names_apart {name : Text} (word : ∀ c ∈ name, isWord c = true) (rest : Text) :
    (name ++ '}' :: rest).takeWhile isWord = name ∧
      (name ++ '}' :: rest).dropWhile isWord = '}' :: rest := by
  have close : isWord '}' = false := by decide
  rw [List.takeWhile_append_of_pos word, List.dropWhile_append_of_pos word]
  simp [close]

theorem names_read {style : ReferenceStyle} {raw name : Text} (names : style.Names raw name)
    (rest : Text) : style.grammar.reference? (raw ++ rest) = some (raw, rest) := by
  cases names with
  | braced _ word =>
      obtain ⟨taken, dropped⟩ := word_names_apart word.2 rest
      have parts : ReferenceStyle.braced name ++ rest = '$' :: '{' :: (name ++ '}' :: rest) := by
        simp [ReferenceStyle.braced]
      rw [parts, Grammar.reference?]
      simp [taken, dropped, word.1]
  | dot _ bound named =>
      rw [bound]
      rfl

theorem names_unique {style : ReferenceStyle} {raw other name otherName rest otherRest : Text}
    (names : style.Names raw name) (otherNames : style.Names other otherName)
    (same : raw ++ rest = other ++ otherRest) : raw = other ∧ rest = otherRest := by
  have read := names_read names rest
  rw [same, names_read otherNames, Option.some.injEq, Prod.mk.injEq] at read
  exact ⟨read.1.symm, read.2.symm⟩

theorem braced_solid (name : Text) : Solid (ReferenceStyle.braced name) := by
  refine ⟨by simp [ReferenceStyle.braced], ?_, ?_⟩
  · rw [ReferenceStyle.braced, List.append_assoc, List.cons_append, no_lead_cons]
    decide
  · rw [ReferenceStyle.braced, no_tail_concat]
    decide

theorem names_solid {style : ReferenceStyle} {raw name : Text} (names : style.Names raw name) :
    Solid raw := by
  cases names with
  | braced _ _ => exact braced_solid name
  | dot _ _ _ => exact ink_solid (by decide) (by simp)

theorem dot_resolves (current : Text) :
    (ReferenceStyle.contextual current).resolve? ['.'] =
      if current = [] then none else some current := by
  have noBrace : ReferenceStyle.braced? ['.'] = none := by decide
  have solid : trim ['.'] = ['.'] := by decide
  unfold ReferenceStyle.resolve?
  rw [solid]
  by_cases empty : current = []
  · simp [noBrace, empty]
  · simp [noBrace, empty]

theorem names_resolve {style : ReferenceStyle} {raw name : Text} (names : style.Names raw name) :
    style.resolve? raw = some name := by
  cases names with
  | braced _ word =>
      have inner : ReferenceStyle.braced? (ReferenceStyle.braced name) = some name := by
        rw [ReferenceStyle.braced?, ReferenceStyle.braced, List.append_assoc, after_append,
          Option.bind_some, before_append]
      unfold ReferenceStyle.resolve?
      rw [trim_solid (braced_solid name)]
      simp [inner, word.1]
  | dot _ bound named => rw [bound, dot_resolves, if_neg named]

theorem reference_found {style : ReferenceStyle} {t raw rest : Text}
    (read : style.grammar.reference? t = some (raw, rest)) :
    t = raw ++ rest ∧ ((∃ name, WordName name ∧ raw = ReferenceStyle.braced name) ∨
      ∃ current, style = .contextual current ∧ raw = ['.']) := by
  unfold Grammar.reference? at read
  split at read
  · rename_i t
    have parts := List.takeWhile_append_dropWhile (p := isWord) (l := t)
    have word : ∀ c ∈ t.takeWhile isWord, isWord c = true := fun c mem => List.mem_takeWhile_imp mem
    generalize t.takeWhile isWord = name at read parts word
    generalize t.dropWhile isWord = behind at read parts
    simp only at read
    split at read
    · by_cases empty : name = []
      · simp [empty] at read
      · simp only [List.isEmpty_iff, empty, if_false, Option.some.injEq, Prod.mk.injEq] at read
        obtain ⟨rfl, rfl⟩ := read
        refine ⟨?_, .inl ⟨name, ⟨empty, word⟩, rfl⟩⟩
        rw [← parts]
        simp [ReferenceStyle.braced]
    · cases read
  · split at read
    · rename_i takesDot
      simp only [Option.some.injEq, Prod.mk.injEq] at read
      obtain ⟨rfl, rfl⟩ := read
      cases style with
      | bare => cases takesDot
      | contextual current => exact ⟨rfl, .inr ⟨current, rfl, rfl⟩⟩
    · cases read
  · cases read

theorem read_names {style : ReferenceStyle} {t raw rest name : Text}
    (read : style.grammar.reference? t = some (raw, rest)) (resolved : style.resolve? raw = some name) :
    style.Names raw name ∧ t = raw ++ rest := by
  obtain ⟨parts, ⟨inner, word, rfl⟩ | ⟨current, rfl, rfl⟩⟩ := reference_found read
  · have names : style.Names (ReferenceStyle.braced inner) inner := .braced inner word
    rw [names_resolve names, Option.some.injEq] at resolved
    exact ⟨resolved ▸ names, parts⟩
  · rw [dot_resolves] at resolved
    by_cases empty : current = []
    · simp [empty] at resolved
    · rw [if_neg empty, Option.some.injEq] at resolved
      exact ⟨resolved ▸ .dot current rfl empty, parts⟩

end SurveyLogic
