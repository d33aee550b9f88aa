import RenkuNotebooks.Notebooks.Errors

/-!
# Reading dictionaries

What Python raises where a JSON value is not of the kind that is read from it.
-/

namespace RenkuNotebooks.Notebooks.PyDict

/-- `value[key]` -/
def getItem (key : String) : Json → Except PyError Json
  | .obj ms => (Json.getMember key ms).elim (.error (.keyError key)) .ok
  | _ => .error .typeError

/-- `value.get(key, default)` -/
def getOr (key : String) (default_ : Json) : Json → Except PyError Json
  | .obj ms => .ok ((Json.getMember key ms).getD default_)
  | _ => .error .attributeError

/-- Iterating over a value. -/
def elements : Json → Except PyError (List Json)
  | .arr xs => .ok xs
  | _ => .error .typeError

def text : Json → Except PyError String
  | .str s => .ok s
  | _ => .error .attributeError

theorem getItem_of_get? {key : String} {value found : Json} (h : value.get? key = some found) :
    getItem key value = .ok found := by
  cases value with
  | obj ms =>
    have hmember : Json.getMember key ms = some found := h
    simp only [getItem, hmember, Option.elim_some]
  | _ => cases h

theorem get?_of_getItem {key : String} {value found : Json} (h : getItem key value = .ok found) :
    value.get? key = some found := by
  cases value with
  | obj ms =>
    rw [getItem] at h
    cases hmember : Json.getMember key ms with
    | none => simp [hmember] at h
    | some found' =>
      rw [Json.get?, hmember]
      simpa [hmember] using h
  | _ => cases h

end RenkuNotebooks.Notebooks.PyDict
