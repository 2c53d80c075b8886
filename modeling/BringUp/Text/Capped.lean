/-!
# Writing into limited space

A writer with room for so many bytes takes the beginning of a text and reports a failure if the
text is longer. Everything written this way has one byte for each character.
-/

namespace BringUp.Text

set_option autoImplicit false

/-- What a writer with room for `capacity` characters holds in the end, and whether the whole
text found room. -/
def capped (capacity : Nat) (text : String) : Bool × String :=
  (text.length ≤ capacity, String.ofList (text.toList.take capacity))

theorem capped_of_le {capacity : Nat} {text : String} (h : text.length ≤ capacity) :
    capped capacity text = (true, text) := by
  have whole : text.toList.take capacity = text.toList :=
    List.take_of_length_le (by rwa [String.length_toList])
  simp [capped, h, whole]

end BringUp.Text
