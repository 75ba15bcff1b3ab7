import SurveyLogic.Validation

set_option autoImplicit false

namespace SurveyLogic

structure Settings where
  validation : CheckOptions
  strictRoundTrip : Bool
deriving DecidableEq

def Settings.standard : Settings := ⟨.standard, false⟩

end SurveyLogic
