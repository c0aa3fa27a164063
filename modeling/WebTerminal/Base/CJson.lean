import Mathlib.Data.List.Basic
import WebTerminal.Base.CString

/-!
# cJSON values

The tree `cJSON_Parse` returns and the accessors the handlers use on it.
Strings are the C strings the firmware sees; numbers keep the bits of
`valuedouble`, which only the platform's casts look into.
-/

set_option autoImplicit false

namespace WebTerminal

/-- The bits of a `double`. -/
abbrev Double := UInt64

inductive CJson
  | null
  | bool (value : Bool)
  | number (valuedouble : Double)
  | string (valuestring : CString)
  | array (items : List CJson)
  | object (members : List (CString × CJson))

namespace CJson

/-- The `string` fields of the children, `none` for `NULL`: what
`cJSON_ArrayForEach` walks over.  Elements of an array have no name. -/
def childNames : CJson → List (Option CString)
  | .array items => items.map fun _ => none
  | .object members => members.map fun member => some member.1
  | _ => []

/-- The comparison of `cJSON_GetObjectItem`, which ignores the case of letters. -/
def sameName (a b : CString) : Bool := a.map tolower == b.map tolower

/-- `cJSON_GetObjectItem`: the first member with this name. -/
def getObjectItem (json : CJson) (name : CString) : Option CJson :=
  match json with
  | .object members => (members.find? fun member => sameName name member.1).map Prod.snd
  | _ => none

/-- `cJSON_IsString` and `valuestring` -/
def string? : Option CJson → Option CString
  | some (.string value) => some value
  | _ => none

/-- `cJSON_IsNumber` and `valuedouble` -/
def number? : Option CJson → Option Double
  | some (.number value) => some value
  | _ => none

/-- `cJSON_IsBool`, and whether it is `cJSON_IsTrue` -/
def bool? : Option CJson → Option Bool
  | some (.bool value) => some value
  | _ => none

/-- `cJSON_IsTrue` -/
def isTrue : Option CJson → Bool
  | some (.bool true) => true
  | _ => false

/-- A name that no child has, in any case, is not found. -/
theorem getObjectItem_eq_none {json : CJson} {name : CString}
    (h : ∀ child, some child ∈ json.childNames → sameName name child = false) :
    json.getObjectItem name = none := by
  cases json with
  | object members =>
      simp only [getObjectItem, Option.map_eq_none_iff, List.find?_eq_none]
      intro member hmem
      have := h member.1 (List.mem_map_of_mem hmem)
      simp [this]
  | _ => rfl

end CJson

end WebTerminal
