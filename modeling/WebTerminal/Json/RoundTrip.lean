import WebTerminal.Json.ParserBounds
import WebTerminal.Json.ParserText
import WebTerminal.Json.PrinterText

/-!
# The parser reads what the printer writes

A printed value is a text of the grammar, so it is parsed to the value it was printed from,
if the library reads every number in it back from its digits.  What the parser returns nests
no deeper than it can read and holds C strings only, so parsing, printing and parsing again
gives the same value.
-/

set_option autoImplicit false

namespace WebTerminal

open JsonText (Text Tree NumberText)

variable {strtod : List UInt8 → Double} {lib : DoubleText}

/-- The number is printed as a JSON number that is read back. -/
structure NumberReads (strtod : List UInt8 → Double) (lib : DoubleText) (d : Double) : Prop where
  text : NumberText (lib.print d)
  value : strtod (lib.print d) = d

theorem nesting_tree (v : CJson) : (v.tree lib.print).nesting = v.nesting := by
  induction v using CJson.induct with
  | null => rfl
  | bool => rfl
  | number => rfl
  | string => rfl
  | array items ih =>
      have hitems : JsonText.nestingItems (CJson.treeItems lib.print items) =
          CJson.nestingItems items := by
        induction items with
        | nil => rfl
        | cons v vs ihs =>
            rw [CJson.treeItems, JsonText.nestingItems, CJson.nestingItems,
              ih v List.mem_cons_self, ihs fun w hw => ih w (List.mem_cons_of_mem _ hw)]
      rw [CJson.tree, Tree.nesting, CJson.nesting, hitems]
  | object members ih =>
      have hmembers : JsonText.nestingMembers (CJson.treeMembers lib.print members) =
          CJson.nestingMembers members := by
        induction members with
        | nil => rfl
        | cons m ms ihs =>
            rw [CJson.treeMembers, JsonText.nestingMembers, CJson.nestingMembers,
              ih m List.mem_cons_self, ihs fun w hw => ih w (List.mem_cons_of_mem _ hw)]
      rw [CJson.tree, Tree.nesting, CJson.nesting, hmembers]

theorem numbers_tree (v : CJson) : (v.tree lib.print).numbers = v.numbers.map lib.print := by
  induction v using CJson.induct with
  | null => rfl
  | bool => rfl
  | number => rfl
  | string => rfl
  | array items ih =>
      rw [CJson.tree, Tree.numbers, CJson.numbers]
      induction items with
      | nil => rfl
      | cons v vs ihs =>
          rw [CJson.treeItems, JsonText.numbersOfItems, CJson.numbersOfItems, List.map_append,
            ih v List.mem_cons_self, ihs fun w hw => ih w (List.mem_cons_of_mem _ hw)]
  | object members ih =>
      rw [CJson.tree, Tree.numbers, CJson.numbers]
      induction members with
      | nil => rfl
      | cons m ms ihs =>
          rw [CJson.treeMembers, JsonText.numbersOfMembers, CJson.numbersOfMembers, List.map_append,
            ih m List.mem_cons_self, ihs fun w hw => ih w (List.mem_cons_of_mem _ hw)]

/-- What cJSON makes of the tree of a value is the value. -/
theorem ofTree_tree (v : CJson) : v.Clean → (∀ d ∈ v.numbers, NumberReads strtod lib d) →
    CJson.ofTree strtod (v.tree lib.print) = v := by
  induction v using CJson.induct with
  | null => exact fun _ _ => rfl
  | bool => exact fun _ _ => rfl
  | number d =>
      intro _ hnumbers
      rw [CJson.tree, CJson.ofTree, (hnumbers d List.mem_cons_self).value]
  | string s =>
      intro hclean _
      rw [CJson.tree, CJson.ofTree, ofBuffer_eq_self (hclean s List.mem_cons_self)]
  | array items ih =>
      intro hclean hnumbers
      have hclean' := CJson.clean_array.mp hclean
      have hnumbers' := CJson.forall_numbersOfItems.mp hnumbers
      have hitems : CJson.ofItems strtod (CJson.treeItems lib.print items) = items := by
        clear hclean hnumbers
        induction items with
        | nil => rfl
        | cons v vs ihs =>
            rw [List.forall_mem_cons] at ih hclean' hnumbers'
            rw [CJson.treeItems, CJson.ofItems, ih.1 hclean'.1 hnumbers'.1,
              ihs ih.2 hclean'.2 hnumbers'.2]
      rw [CJson.tree, CJson.ofTree, hitems]
  | object members ih =>
      intro hclean hnumbers
      have hclean' := CJson.clean_object.mp hclean
      have hnumbers' := CJson.forall_numbersOfMembers.mp hnumbers
      have hmembers : CJson.ofMembers strtod (CJson.treeMembers lib.print members) = members := by
        clear hclean hnumbers
        induction members with
        | nil => rfl
        | cons m ms ihs =>
            rw [List.forall_mem_cons] at ih hclean' hnumbers'
            rw [CJson.treeMembers, CJson.ofMembers, ih.1 hclean'.1.2 hnumbers'.1,
              ofBuffer_eq_self hclean'.1.1, ihs ih.2 hclean'.2 hnumbers'.2]
      rw [CJson.tree, CJson.ofTree, hmembers]

/-- A printed value is a text of the grammar. -/
theorem text_render {v : CJson} (hnumbers : ∀ d ∈ v.numbers, NumberReads strtod lib d)
    (hnesting : v.nesting ≤ cjsonNestingLimit) :
    Text cjsonNestingLimit (render lib v) (v.tree lib.print) := by
  refine JsonText.text_write _ ?_ _ (by rwa [nesting_tree])
  intro text htext
  rw [numbers_tree] at htext
  obtain ⟨d, hd, rfl⟩ := List.mem_map.mp htext
  exact (hnumbers d hd).text

theorem stops_zero : NumberEnds [0] := by
  intro c hc
  cases hc
  rfl

/-- A printed value is parsed to the value. -/
theorem cjsonParse_render {v : CJson} (hclean : v.Clean)
    (hnumbers : ∀ d ∈ v.numbers, NumberReads strtod lib d)
    (hnesting : v.nesting ≤ cjsonNestingLimit) : cjsonParse strtod (render lib v) = some v := by
  have hstops : NumberEnds ([] ++ [0]) := stops_zero
  have hparse := cjsonParse_of_text strtod (.inl rfl) JsonText.blank_nil
    (text_render hnumbers hnesting) hstops
  rwa [List.append_nil, List.nil_append, List.nil_append, ofTree_tree v hclean hnumbers] at hparse

/-- What the parser returns. -/
theorem cjsonParse_proper {text : CString} {v : CJson} (h : cjsonParse strtod text = some v) :
    v.nesting ≤ cjsonNestingLimit ∧ v.Clean := by
  obtain ⟨⟨v', next⟩, hresult, rfl⟩ := Option.map_eq_some_iff.mp h
  have hrun : cjsonParseRun strtod text = .done (v', next) := by
    cases hcase : cjsonParseRun strtod text with
    | done a =>
        rw [hcase] at hresult
        exact congrArg Checked.done (Option.some.inj hresult)
    | failed => rw [hcase] at hresult; cases hresult
    | outside => rw [hcase] at hresult; cases hresult
    | running => rw [hcase] at hresult; cases hresult
  exact ((cjsonParseRun_holds strtod text).of_eq hrun).2

/-- Where memory is there and the text, its NUL and the byte `ensure` adds fit an `int`, a value
is read back from what it is printed as if and only if it nests at most `CJSON_NESTING_LIMIT`
deep; the printer has no such limit. -/
theorem cjsonParse_print_iff (strtod : List UInt8 → Double) (lib : DoubleText) (heap : Heap)
    (v : CJson) (hclean : v.Clean) (hnumbers : ∀ d ∈ v.numbers, NumberReads strtod lib d)
    (hgives : ∀ n, heap.gives n = true) (hlength : (render lib v).length + 2 ≤ intMax) :
    ((cjsonPrintUnformatted heap lib v).bind (cjsonParse strtod) = some v ↔
      v.nesting ≤ cjsonNestingLimit) := by
  rw [cjsonPrint_eq lib hgives hlength, Option.bind_some]
  constructor
  · exact fun h => (cjsonParse_proper h).1
  · exact fun h => cjsonParse_render hclean hnumbers h

/-- Numbers that are printed as naturals, with as many bytes as an array needs. -/
def naturalText : DoubleText where
  isFinite _ := true
  valueint d := Int32.ofNat d.toNat
  isInt _ := true
  g15 _ := ⟨[48], by decide⟩
  g17 _ := ⟨[48], by decide⟩
  readsBack _ _ := true
  length_g15 _ := by decide
  length_g17 _ := by decide

/-- Memory full of `x`, and enough of it. -/
def fullHeap : Heap := ⟨fun _ _ => 120, fun _ => true⟩

/-- An object with a number and a string that is escaped. -/
def portJson : CJson :=
  .object [(cstr "port", .array [.number 17, .null]), (cstr "name", .string [34, 7, 0xC3, 0xA9])]

theorem cjsonParse_print_port :
    ((cjsonPrintUnformatted fullHeap naturalText portJson).bind
      (cjsonParse fun text => UInt64.ofNat (JsonText.numberOf text)) = some portJson ↔
        portJson.nesting ≤ cjsonNestingLimit) := by
  refine cjsonParse_print_iff _ naturalText fullHeap portJson ?_ ?_ (fun _ => rfl) ?_
  · have hall : portJson.strings.all (fun s => !s.contains 0) = true := by decide +kernel
    intro s hs
    have := List.all_eq_true.mp hall s hs
    simpa using this
  · intro d hd
    obtain rfl : d = 17 := by simpa [portJson, CJson.numbers, CJson.numbersOfMembers,
      CJson.numbersOfItems] using hd
    have htext : naturalText.print 17 = [] ++ [49, 55] ++ [] ++ [] := by decide +kernel
    refine ⟨?_, by decide +kernel⟩
    rw [htext]
    exact .mk (.inl rfl) (JsonText.digits_of_all (by simp) rfl) (.inl rfl) (.inl rfl)
  · decide +kernel

end WebTerminal
