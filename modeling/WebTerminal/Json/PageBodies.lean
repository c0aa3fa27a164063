import WebTerminal.Json.ParserText
import WebTerminal.Page.Controls

/-!
# The parser of the firmware and the bodies of the page

`ReadsScalars` is what the controls of the page need of `cJSON_Parse`.  The parser of cJSON
has it: an object that `JSON.stringify` writes is a text of the grammar, one level deep.  What
is left to the library is that `strtod` and the casts recover a natural number below 2^31 from
its digits.
-/

set_option autoImplicit false

namespace WebTerminal

open JsonText (Tree Scalar Text NumberText digits)

/-- A scalar as a tree. -/
def scalarTree : Scalar → Tree
  | .string bytes => .string bytes
  | .bool value => .bool value
  | .number n => .number (digits n)

def scalarMembers (ms : List (CString × Scalar)) : List (CString × Tree) :=
  ms.map fun m => (m.1, scalarTree m.2)

theorem write_scalarTree (value : Scalar) : (scalarTree value).write = value.text := by
  cases value with
  | string bytes => rfl
  | bool value => rfl
  | number n => rfl

theorem memberTexts_scalarMembers (ms : List (CString × Scalar)) :
    JsonText.memberTexts (scalarMembers ms) = ms.map JsonText.scalarMember := by
  induction ms with
  | nil => rfl
  | cons m ms ih =>
      have htail : JsonText.memberTexts (ms.map fun m => (m.1, scalarTree m.2)) =
          ms.map JsonText.scalarMember := ih
      rw [scalarMembers, List.map_cons, JsonText.memberTexts, htail, write_scalarTree,
        List.map_cons]
      rfl

theorem commas_scalarMember (ms : List (CString × Scalar)) :
    JsonText.commas (ms.map JsonText.scalarMember) = JsonText.scalarMembers ms := by
  induction ms with
  | nil => rfl
  | cons m ms ih =>
      cases ms with
      | nil => rfl
      | cons m' ms =>
          rw [List.map_cons, List.map_cons, JsonText.commas, ← List.map_cons, ih]
          rfl

theorem write_scalarMembers (ms : List (CString × Scalar)) :
    (Tree.object (scalarMembers ms)).write = JsonText.writeScalars ms := by
  rw [Tree.write, memberTexts_scalarMembers, commas_scalarMember]
  rfl

theorem nesting_scalarMembers (ms : List (CString × Scalar)) :
    (Tree.object (scalarMembers ms)).nesting ≤ 1 := by
  rw [Tree.nesting]
  refine Nat.succ_le_succ (JsonText.nestingMembers_le.mpr fun m hm => ?_)
  obtain ⟨m', -, rfl⟩ := List.mem_map.mp hm
  cases m'.2 with
  | string => exact Nat.le_refl 0
  | bool => exact Nat.le_refl 0
  | number => exact Nat.le_refl 0

theorem numberText_digits (n : ℕ) : NumberText (digits n) := by
  have h : NumberText ([] ++ digits n ++ [] ++ []) :=
    .mk (.inl rfl) ⟨JsonText.digits_ne_nil n, JsonText.digits_digit⟩ (.inl rfl) (.inl rfl)
  simpa using h

theorem numbers_scalarMembers (ms : List (CString × Scalar)) :
    ∀ text ∈ (Tree.object (scalarMembers ms)).numbers, NumberText text := by
  rw [Tree.numbers]
  induction ms with
  | nil => intro text htext; cases htext
  | cons m ms ih =>
      intro text htext
      rcases List.mem_append.mp htext with h | h
      · obtain ⟨name, value⟩ := m
        cases value with
        | string => cases h
        | bool => cases h
        | number n =>
            obtain rfl := List.mem_singleton.mp h
            exact numberText_digits n
      · exact ih text h

/-- The parser of cJSON, its allocations granted, reads the bodies of the page. -/
theorem readsScalars_cjsonParse (pf : Platform) (strtod : List UInt8 → Double)
    (hparse : pf.cJSONParse = cjsonParse strtod)
    (hcounts : ∀ n, n < 2147483648 → pf.Counts n (strtod (digits n))) : ReadsScalars pf := by
  intro ms hms
  have htext : Text cjsonNestingLimit (JsonText.writeScalars ms) (.object (scalarMembers ms)) := by
    rw [← write_scalarMembers]
    refine JsonText.text_write _ (numbers_scalarMembers ms) _ ?_
    exact Nat.le_trans (nesting_scalarMembers ms) (by decide)
  have hstops : NumberEnds ([] ++ [0]) := by
    intro c hc
    cases hc
    rfl
  have hread := cjsonParse_of_text strtod (.inl rfl) JsonText.blank_nil htext hstops
  rw [List.append_nil, List.nil_append, List.nil_append, CJson.ofTree, ofMembers_eq_map,
    scalarMembers, List.map_map] at hread
  refine ⟨_, by rw [hparse, hread], ?_⟩
  rw [List.forall₂_map_right_iff, List.forall₂_same]
  intro m hm
  obtain ⟨hname, hvalue⟩ := hms m hm
  obtain ⟨name, value⟩ := m
  refine ⟨ofBuffer_eq_self hname, ?_⟩
  cases value with
  | string bytes =>
      show Reads pf _ (.string (ofBuffer bytes))
      rw [ofBuffer_eq_self hvalue]
      exact .string bytes
  | bool value => exact .bool value
  | number n => exact .number (hcounts n hvalue)

/-- A platform with the parser of cJSON and a `strtod` for natural numbers. -/
def parserPlatform : Platform :=
  { demoPlatform [] with
    cJSONParse := cjsonParse fun text => UInt64.ofNat (JsonText.numberOf text)
    toUInt32 := fun value => UInt32.ofNat value.toNat
    toInt := fun value => value.toNat }

theorem readsScalars_parserPlatform : ReadsScalars parserPlatform := by
  refine readsScalars_cjsonParse parserPlatform _ rfl fun n hn => ?_
  have hvalue : (UInt64.ofNat n).toNat = n := by
    rw [UInt64.toNat_ofNat']
    omega
  rw [JsonText.numberOf_digits]
  exact ⟨congrArg UInt32.ofNat hvalue, congrArg Int.ofNat hvalue⟩

end WebTerminal
