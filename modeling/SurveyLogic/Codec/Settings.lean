import SurveyLogic.Json.Decode
import SurveyLogic.Settings

set_option autoImplicit false

namespace SurveyLogic

open Json (Decoder field member)

namespace CheckOptions

def encode (o : CheckOptions) : Json :=
  .ofMembers (member "check_references" (.bool o.checkReferences) ++
    member "check_duplicate_names" (.bool o.checkDuplicateNames) ++
    member "verify_round_trip" (.bool o.verifyRoundTrip) ++ member "fail_fast" (.bool o.failFast))

structure Draft where
  checkReferences : Option Bool
  checkDuplicateNames : Option Bool
  verifyRoundTrip : Option Bool
  failFast : Option Bool

def Draft.blank : Draft := ⟨none, none, none, none⟩

def fields : List (Json.Field Draft) :=
  [field "check_references" Draft.checkReferences
      (fun d x => { d with checkReferences := some x }) Json.boolean true,
    field "check_duplicate_names" Draft.checkDuplicateNames
      (fun d x => { d with checkDuplicateNames := some x }) Json.boolean true,
    field "verify_round_trip" Draft.verifyRoundTrip
      (fun d x => { d with verifyRoundTrip := some x }) Json.boolean true,
    field "fail_fast" Draft.failFast (fun d x => { d with failFast := some x }) Json.boolean true]

def Draft.finish (d : Draft) : CheckOptions :=
  ⟨d.checkReferences.getD standard.checkReferences,
    d.checkDuplicateNames.getD standard.checkDuplicateNames,
    d.verifyRoundTrip.getD standard.verifyRoundTrip, d.failFast.getD standard.failFast⟩

def decode : Decoder CheckOptions := Json.record fields .blank (some ∘ Draft.finish)

end CheckOptions

namespace Settings

def encode (s : Settings) : Json :=
  .ofMembers (member "validation" s.validation.encode ++
    member "strict_round_trip" (.bool s.strictRoundTrip))

structure Draft where
  validation : Option CheckOptions
  strictRoundTrip : Option Bool

def fields : List (Json.Field Draft) :=
  [field "validation" Draft.validation (fun d x => { d with validation := some x })
      CheckOptions.decode true,
    field "strict_round_trip" Draft.strictRoundTrip
      (fun d x => { d with strictRoundTrip := some x }) Json.boolean true]

def Draft.finish (d : Draft) : Settings :=
  ⟨d.validation.getD standard.validation, d.strictRoundTrip.getD standard.strictRoundTrip⟩

def decode : Decoder Settings := Json.record fields ⟨none, none⟩ (some ∘ Draft.finish)

end Settings

end SurveyLogic
