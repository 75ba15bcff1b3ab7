import SurveyLogic.Engine
import SurveyLogic.Proofs.PrintedJson
import SurveyLogic.Proofs.Trimming
import SurveyLogic.Proofs.WireFormat

set_option autoImplicit false

namespace SurveyLogic

namespace Json

def isObject : Json → Bool
  | object _ _ => true
  | _ => false

theorem ident_no_object {expected t : Text} {value : Json} (noObject : value.isObject = false) :
    (readIdent expected value t).1.isObject = false := by
  rw [readIdent]
  split
  · exact noObject
  · rfl

theorem numeral_no_object (t : Text) : (Numeral.read t).1.isObject = false := by
  rw [Numeral.read]
  split <;> rfl

theorem unopened_no_object {fuel : Nat} {t : Text} (unopened : (skipBlanks t).head? ≠ some '{') :
    (readValue fuel t).1.isObject = false := by
  cases fuel with
  | zero => rfl
  | succ fuel =>
      rw [readValue]
      split
      · rfl
      · rfl
      · rfl
      · rename_i start
        exact absurd (congrArg List.head? start) unopened
      · exact ident_no_object rfl
      · exact ident_no_object rfl
      · exact ident_no_object rfl
      · split_ifs
        · exact numeral_no_object _
        · rfl

-- The blanks of JSON are blanks of a text, so what comes first behind them does so behind all blanks.
theorem brace_leads {t : Text} (opened : (skipBlanks t).head? = some '{') : t.trimStart.head? = some '{' := by
  have blanks : ∀ c, isJsonBlank c = true → isBlank c = true := by
    intro c blank
    simp only [isJsonBlank, Bool.or_eq_true, decide_eq_true_eq] at blank
    rcases blank with ((rfl | rfl) | rfl) | rfl <;> rfl
  induction t with
  | nil => exact opened
  | cons c t ih =>
      rw [skipBlanks, List.dropWhile_cons] at opened
      rw [Text.trimStart, List.dropWhile_cons]
      split_ifs at opened with blank
      · rw [if_pos (blanks c blank)]
        exact ih opened
      · cases opened
        rfl

theorem document_value (t : Text) : (Document.ofText t).value = (readValue (2 * t.length + 2) t).1 := by
  rw [Document.ofText]
  split <;> simp [*]

theorem object_leads {t : Text} (object : (Document.ofText t).value.isObject = true) :
    t.trimStart.head? = some '{' := by
  rw [document_value] at object
  by_cases opened : (skipBlanks t).head? = some '{'
  · exact brace_leads opened
  · rw [unopened_no_object opened] at object
    cases object

theorem optional_plain {key : String} {value : Option Text} :
    ∀ m ∈ memberIfAny key (value.map .ofText), Plain m.2 := by
  cases value with
  | none => nofun
  | some t => simpa [memberIfAny] using Plain.text t

theorem member_plain {key : String} {value : Json} (plain : Plain value) :
    ∀ m ∈ member key value, Plain m.2 := by
  simpa [member] using plain

end Json

theorem row_plain (row : Row) : Json.Plain row.encode := by
  refine .record _ ?_
  simp only [List.forall_mem_append]
  exact ⟨⟨⟨⟨Json.member_plain (.text row.type), Json.optional_plain⟩, Json.optional_plain⟩,
    Json.optional_plain⟩, Json.optional_plain⟩

theorem form_plain (form : Form) : Json.Plain form.encode := by
  refine .record _ ?_
  simp only [List.forall_mem_append]
  refine ⟨Json.optional_plain, Json.member_plain (.list _ ?_)⟩
  intro item mem
  obtain ⟨row, -, rfl⟩ := List.mem_map.mp mem
  exact row_plain row

namespace Form

structure Usable (form : Form) : Prop where
  rows : form.survey ≠ []
  typed : ∀ row ∈ form.survey, row.type.trim ≠ []

inductive Loading (form : Form) : Except FormError Form → Prop
  | loaded (usable : form.Usable) : Loading form (.ok form)
  | noRows (empty : form.survey = []) : Loading form (.error (.defect .noRows))
  | untyped (index : Nat) (row : Row) (found : form.survey[index]? = some row) (blank : row.type.trim = [])
      (first : ∀ earlier < index, ∀ other, form.survey[earlier]? = some other → other.type.trim ≠ []) :
      Loading form (.error (.defect (.untyped (index + 1))))

structure LoadsFrom (form : Form) (text : Text) : Prop where
  loading : form.Loading (ofText text)
  json : ofJsonText text = ofText text
  validated : ∀ engine : Engine, engine.validateText text = .ok (engine.validate form) ↔ form.Usable
  refused : ∀ engine : Engine, ¬ form.Usable →
    ∃ defect, ofText text = .error (.defect defect) ∧ engine.validateText text = .error (.form (.defect defect))

theorem typed_iff (row : Row) : row.type.trim ≠ [] ↔ row.type.allBlank = false := by
  rw [Ne, Text.trim_eq_nil, Bool.not_eq_true]

theorem checked_loading (form : Form) : form.Loading form.checked := by
  rw [checked, check]
  split_ifs with empty
  · exact .noRows (List.isEmpty_iff.mp empty)
  · split
    · rename_i index found
      obtain ⟨inside, blank, first⟩ := List.findIdx?_eq_some_iff_getElem.mp found
      refine .untyped index form.survey[index] (List.getElem?_eq_getElem inside) (Text.trim_eq_nil.mpr blank) ?_
      intro earlier before other there
      obtain ⟨_, rfl⟩ := List.getElem?_eq_some_iff.mp there
      exact (typed_iff _).mpr (by simpa using first earlier before)
    · rename_i allTyped
      refine .loaded ⟨fun noRows => empty (List.isEmpty_iff.mpr noRows), ?_⟩
      intro row mem
      exact (typed_iff row).mpr (List.findIdx?_eq_none_iff.mp allTyped row mem)

section

variable {form : Form} {outcome : Except FormError Form} (loading : form.Loading outcome)

include loading

theorem loading_usable (usable : form.Usable) : outcome = .ok form := by
  cases loading with
  | loaded _ => rfl
  | noRows empty => exact absurd empty usable.rows
  | untyped _ row found blank _ => exact absurd blank (usable.typed row (List.mem_of_getElem? found))

theorem loading_refused (unusable : ¬ form.Usable) : ∃ defect, outcome = .error (.defect defect) := by
  cases loading with
  | loaded usable => exact absurd usable unusable
  | noRows _ => exact ⟨_, rfl⟩
  | untyped _ _ _ _ _ => exact ⟨_, rfl⟩

end

theorem document_loads {form : Form} {text : Text}
    (document : Json.Document.ofText text = ⟨form.encode, false⟩) : form.LoadsFrom text := by
  have decoded : Json.decodeText Form.decode text = .ok form :=
    (Json.document_decoded document).trans (form_read form)
  have json : ofJsonText text = form.checked := by
    rw [ofJsonText, decoded]
    rfl
  have object : (Json.Document.ofText text).value.isObject = true := by
    rw [document]
    rfl
  have sniffed : ofText text = ofJsonText text := if_pos (Json.object_leads object)
  have loading : form.Loading (ofText text) := sniffed ▸ json ▸ checked_loading form
  have refused : ∀ engine : Engine, ¬ form.Usable → ∃ defect, ofText text = .error (.defect defect) ∧
      engine.validateText text = .error (.form (.defect defect)) := by
    intro engine unusable
    obtain ⟨defect, failed⟩ := loading_refused loading unusable
    refine ⟨defect, failed, ?_⟩
    rw [Engine.validateText, failed]
  refine ⟨loading, sniffed.symm, fun engine => ⟨?_, ?_⟩, refused⟩
  · intro validated
    by_contra unusable
    obtain ⟨_, _, failed⟩ := refused engine unusable
    rw [failed] at validated
    cases validated
  · intro usable
    rw [Engine.validateText, loading_usable loading usable]

theorem own_json_loads (form : Form) : form.LoadsFrom form.encode.print :=
  document_loads (Json.printed_document (form_plain form))

-- A type of blanks alone, here a no-break space, is no type.
example : ofText (encode ⟨none, [⟨"note".toList, none, none, none, none⟩,
    ⟨[Char.ofNat 0xA0], some "age".toList, none, none, none⟩]⟩).print = .error (.defect (.untyped 2)) := by
  rfl

end Form

end SurveyLogic
