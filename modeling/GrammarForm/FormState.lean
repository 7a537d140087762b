import GrammarForm.Entries

/-!
# Form states

The values submitted with a form: one text for each key.
-/

namespace GrammarForm

/-- Submitted values by form key. -/
abbrev FormState := Entries String

end GrammarForm
