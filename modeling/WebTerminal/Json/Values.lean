import WebTerminal.Base.CJson
import WebTerminal.Lib.JsonTree

/-!
# Trees of cJSON and JSON texts

What a `CJson` is made of, and the two ways between it and the trees of the grammar: a number
is read by `strtod` and written by some `numberText`, a string ends at its first NUL.
-/

set_option autoImplicit false

namespace WebTerminal

namespace CJson

/-- A property of every value whose parts have it. -/
@[elab_as_elim]
theorem induct {P : CJson → Prop} (null : P .null) (bool : ∀ value, P (.bool value))
    (number : ∀ valuedouble, P (.number valuedouble))
    (string : ∀ valuestring, P (.string valuestring))
    (array : ∀ items, (∀ v ∈ items, P v) → P (.array items))
    (object : ∀ members, (∀ m ∈ members, P m.2) → P (.object members)) : ∀ v, P v
  | .null => null
  | .bool value => bool value
  | .number valuedouble => number valuedouble
  | .string valuestring => string valuestring
  | .array items => array items fun v _ => induct null bool number string array object v
  | .object members =>
      object members fun m _ => induct null bool number string array object m.2
  decreasing_by
    · have := List.sizeOf_lt_of_mem ‹_ ∈ items›
      simp only [CJson.array.sizeOf_spec]
      omega
    · have hm := List.sizeOf_lt_of_mem ‹m ∈ members›
      have hpair : sizeOf m.2 < sizeOf m := by
        cases m
        simp only [Prod.mk.sizeOf_spec]
        omega
      simp only [CJson.object.sizeOf_spec]
      omega

mutual

/-- How many arrays and objects are around each other. -/
def nesting : CJson → ℕ
  | .array items => nestingItems items + 1
  | .object members => nestingMembers members + 1
  | _ => 0

def nestingItems : List CJson → ℕ
  | [] => 0
  | v :: vs => max v.nesting (nestingItems vs)

def nestingMembers : List (CString × CJson) → ℕ
  | [] => 0
  | m :: ms => max m.2.nesting (nestingMembers ms)

end

mutual

/-- The strings in it, names among them. -/
def strings : CJson → List CString
  | .string valuestring => [valuestring]
  | .array items => stringsOfItems items
  | .object members => stringsOfMembers members
  | _ => []

def stringsOfItems : List CJson → List CString
  | [] => []
  | v :: vs => v.strings ++ stringsOfItems vs

def stringsOfMembers : List (CString × CJson) → List CString
  | [] => []
  | m :: ms => m.1 :: (m.2.strings ++ stringsOfMembers ms)

end

mutual

/-- The numbers in it. -/
def numbers : CJson → List Double
  | .number valuedouble => [valuedouble]
  | .array items => numbersOfItems items
  | .object members => numbersOfMembers members
  | _ => []

def numbersOfItems : List CJson → List Double
  | [] => []
  | v :: vs => v.numbers ++ numbersOfItems vs

def numbersOfMembers : List (CString × CJson) → List Double
  | [] => []
  | m :: ms => m.2.numbers ++ numbersOfMembers ms

end

theorem nestingItems_le {items : List CJson} {n : ℕ} :
    nestingItems items ≤ n ↔ ∀ v ∈ items, v.nesting ≤ n := by
  induction items with
  | nil => simp [nestingItems]
  | cons v vs ih => rw [nestingItems, Nat.max_le, ih, List.forall_mem_cons]

theorem nestingMembers_le {members : List (CString × CJson)} {n : ℕ} :
    nestingMembers members ≤ n ↔ ∀ m ∈ members, m.2.nesting ≤ n := by
  induction members with
  | nil => simp [nestingMembers]
  | cons m ms ih => rw [nestingMembers, Nat.max_le, ih, List.forall_mem_cons]

theorem forall_stringsOfItems {items : List CJson} {P : CString → Prop} :
    (∀ s ∈ stringsOfItems items, P s) ↔ ∀ v ∈ items, ∀ s ∈ v.strings, P s := by
  induction items with
  | nil => simp [stringsOfItems]
  | cons v vs ih => rw [stringsOfItems, List.forall_mem_append, ih, List.forall_mem_cons]

theorem forall_stringsOfMembers {members : List (CString × CJson)} {P : CString → Prop} :
    (∀ s ∈ stringsOfMembers members, P s) ↔
      ∀ m ∈ members, P m.1 ∧ ∀ s ∈ m.2.strings, P s := by
  induction members with
  | nil => simp [stringsOfMembers]
  | cons m ms ih =>
      rw [stringsOfMembers, List.forall_mem_cons, List.forall_mem_append, ih, List.forall_mem_cons,
        and_assoc]

theorem forall_numbersOfItems {items : List CJson} {P : Double → Prop} :
    (∀ d ∈ numbersOfItems items, P d) ↔ ∀ v ∈ items, ∀ d ∈ v.numbers, P d := by
  induction items with
  | nil => simp [numbersOfItems]
  | cons v vs ih => rw [numbersOfItems, List.forall_mem_append, ih, List.forall_mem_cons]

theorem forall_numbersOfMembers {members : List (CString × CJson)} {P : Double → Prop} :
    (∀ d ∈ numbersOfMembers members, P d) ↔ ∀ m ∈ members, ∀ d ∈ m.2.numbers, P d := by
  induction members with
  | nil => simp [numbersOfMembers]
  | cons m ms ih => rw [numbersOfMembers, List.forall_mem_append, ih, List.forall_mem_cons]

/-- Every string in it is one of C. -/
def Clean (v : CJson) : Prop := ∀ s ∈ v.strings, (0 : UInt8) ∉ s

theorem clean_array {items : List CJson} : (array items).Clean ↔ ∀ v ∈ items, v.Clean :=
  forall_stringsOfItems

theorem clean_object {members : List (CString × CJson)} :
    (object members).Clean ↔ ∀ m ∈ members, (0 : UInt8) ∉ m.1 ∧ m.2.Clean :=
  forall_stringsOfMembers

theorem nesting_array {items : List CJson} {n : ℕ} :
    (array items).nesting ≤ n + 1 ↔ ∀ v ∈ items, v.nesting ≤ n := by
  rw [nesting, Nat.add_le_add_iff_right, nestingItems_le]

theorem nesting_object {members : List (CString × CJson)} {n : ℕ} :
    (object members).nesting ≤ n + 1 ↔ ∀ m ∈ members, m.2.nesting ≤ n := by
  rw [nesting, Nat.add_le_add_iff_right, nestingMembers_le]

/-! ## From and to the trees of the grammar -/

section OfTree

variable (strtod : List UInt8 → Double)

mutual

/-- What cJSON makes of a tree. -/
def ofTree : JsonText.Tree → CJson
  | .null => .null
  | .bool value => .bool value
  | .number text => .number (strtod text)
  | .string bytes => .string (ofBuffer bytes)
  | .array items => .array (ofItems items)
  | .object members => .object (ofMembers members)

def ofItems : List JsonText.Tree → List CJson
  | [] => []
  | tree :: trees => ofTree tree :: ofItems trees

def ofMembers : List (List UInt8 × JsonText.Tree) → List (CString × CJson)
  | [] => []
  | m :: ms => (ofBuffer m.1, ofTree m.2) :: ofMembers ms

end

end OfTree

section ToTree

variable (numberText : Double → List UInt8)

mutual

/-- The tree with every number as the text it is printed as. -/
def tree : CJson → JsonText.Tree
  | .null => .null
  | .bool value => .bool value
  | .number valuedouble => .number (numberText valuedouble)
  | .string valuestring => .string valuestring
  | .array items => .array (treeItems items)
  | .object members => .object (treeMembers members)

def treeItems : List CJson → List JsonText.Tree
  | [] => []
  | v :: vs => tree v :: treeItems vs

def treeMembers : List (CString × CJson) → List (List UInt8 × JsonText.Tree)
  | [] => []
  | m :: ms => (m.1, tree m.2) :: treeMembers ms

end

end ToTree

end CJson

end WebTerminal
