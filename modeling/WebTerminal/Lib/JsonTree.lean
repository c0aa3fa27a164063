import WebTerminal.Lib.JsonScalars

/-!
# JSON texts of whole values

The tree a JSON text spells, with a number as its own text, and the grammar of such texts
by how deep they nest.  The grammar is that of JSON and a little more: any byte up to 32 is
a blank, a string may hold control characters and a number may start with zeros.
`Tree.write` makes a text without blanks, which is one of the grammar (`text_write`).
-/

set_option autoImplicit false

namespace JsonText

inductive Tree
  | null
  | bool (value : Bool)
  | number (text : Bytes)
  | string (bytes : Bytes)
  | array (items : List Tree)
  | object (members : List (Bytes × Tree))

/-- A property of every value whose parts have it. -/
@[elab_as_elim]
theorem Tree.induct {P : Tree → Prop} (null : P .null) (bool : ∀ value, P (.bool value))
    (number : ∀ text, P (.number text)) (string : ∀ bytes, P (.string bytes))
    (array : ∀ items, (∀ tree ∈ items, P tree) → P (.array items))
    (object : ∀ members, (∀ m ∈ members, P m.2) → P (.object members)) : ∀ tree, P tree
  | .null => null
  | .bool value => bool value
  | .number text => number text
  | .string bytes => string bytes
  | .array items => array items fun tree _ => induct null bool number string array object tree
  | .object members =>
      object members fun m _ => induct null bool number string array object m.2
  decreasing_by
    · have := List.sizeOf_lt_of_mem ‹_ ∈ items›
      simp only [Tree.array.sizeOf_spec]
      omega
    · have hm := List.sizeOf_lt_of_mem ‹m ∈ members›
      have hpair : sizeOf m.2 < sizeOf m := by
        cases m
        simp only [Prod.mk.sizeOf_spec]
        omega
      simp only [Tree.object.sizeOf_spec]
      omega

/-! ## Nesting -/

mutual

/-- How many arrays and objects are around each other. -/
def Tree.nesting : Tree → ℕ
  | .array items => nestingItems items + 1
  | .object members => nestingMembers members + 1
  | _ => 0

def nestingItems : List Tree → ℕ
  | [] => 0
  | tree :: trees => max tree.nesting (nestingItems trees)

def nestingMembers : List (Bytes × Tree) → ℕ
  | [] => 0
  | m :: ms => max m.2.nesting (nestingMembers ms)

end

theorem nestingItems_le {items : List Tree} {n : ℕ} :
    nestingItems items ≤ n ↔ ∀ tree ∈ items, tree.nesting ≤ n := by
  induction items with
  | nil => simp [nestingItems]
  | cons tree trees ih => rw [nestingItems, Nat.max_le, ih, List.forall_mem_cons]

theorem nestingMembers_le {members : List (Bytes × Tree)} {n : ℕ} :
    nestingMembers members ≤ n ↔ ∀ m ∈ members, m.2.nesting ≤ n := by
  induction members with
  | nil => simp [nestingMembers]
  | cons m ms ih => rw [nestingMembers, Nat.max_le, ih, List.forall_mem_cons]

mutual

/-- The numbers in it. -/
def Tree.numbers : Tree → List Bytes
  | .number text => [text]
  | .array items => numbersOfItems items
  | .object members => numbersOfMembers members
  | _ => []

def numbersOfItems : List Tree → List Bytes
  | [] => []
  | tree :: trees => tree.numbers ++ numbersOfItems trees

def numbersOfMembers : List (Bytes × Tree) → List Bytes
  | [] => []
  | m :: ms => m.2.numbers ++ numbersOfMembers ms

end

theorem mem_numbersOfItems {items : List Tree} {tree : Tree} (h : tree ∈ items) {text : Bytes}
    (htext : text ∈ tree.numbers) : text ∈ numbersOfItems items := by
  induction h with
  | head => exact List.mem_append_left _ htext
  | tail _ _ ih => exact List.mem_append_right _ ih

theorem mem_numbersOfMembers {members : List (Bytes × Tree)} {m : Bytes × Tree} (h : m ∈ members)
    {text : Bytes} (htext : text ∈ m.2.numbers) : text ∈ numbersOfMembers members := by
  induction h with
  | head => exact List.mem_append_left _ htext
  | tail _ _ ih => exact List.mem_append_right _ ih

/-! ## The grammar -/

def nullText : Bytes := [110, 117, 108, 108]

/-- What follows the backslash of an escape sequence, with surrogates only in pairs, and the
bytes it stands for. -/
inductive Escaped : Bytes → Bytes → Prop
  | slash : Escaped [47] [47]
  | letter {d c : UInt8} (h : byteOf d = some c) : Escaped [d] [c]
  | unicode {hex : Bytes} {c : Char} (hhex : hex4 hex = some c.toNat) :
      Escaped (117 :: hex) (String.utf8EncodeChar c)
  | pair {high low : Bytes} {h l : ℕ} {c : Char} (hhigh : hex4 high = some h)
      (hlow : hex4 low = some l) (hh : 0xD800 ≤ h ∧ h ≤ 0xDBFF) (hl : 0xDC00 ≤ l ∧ l ≤ 0xDFFF)
      (hc : c.toNat = 0x10000 + (h - 0xD800) * 0x400 + (l - 0xDC00)) :
      Escaped (117 :: (high ++ 92 :: 117 :: low)) (String.utf8EncodeChar c)

/-- A text between quotes, and the bytes it stands for. -/
inductive StringText : Bytes → Bytes → Prop
  | nil : StringText [] []
  | plain {c : UInt8} {text bytes : Bytes} (hc : ¬Special c) (h : StringText text bytes) :
      StringText (c :: text) (c :: bytes)
  | escape {seq char text bytes : Bytes} (hseq : Escaped seq char) (h : StringText text bytes) :
      StringText (92 :: (seq ++ text)) (char ++ bytes)

/-- At least one digit. -/
def Digits (text : Bytes) : Prop := text ≠ [] ∧ ∀ c ∈ text, isDigit c = true

theorem digits_of_all {text : Bytes} (hne : text ≠ []) (hall : text.all isDigit = true) :
    Digits text := ⟨hne, List.all_eq_true.mp hall⟩

/-- What may follow the integer of a number. -/
def Fraction (text : Bytes) : Prop := text = [] ∨ ∃ ds, Digits ds ∧ text = 46 :: ds

def Exponent (text : Bytes) : Prop :=
  text = [] ∨ ∃ e sign ds, (e = 69 ∨ e = 101) ∧ (sign = [] ∨ sign = [43] ∨ sign = [45]) ∧
    Digits ds ∧ text = e :: sign ++ ds

inductive NumberText : Bytes → Prop
  | mk {sign int frac exp : Bytes} (hsign : sign = [] ∨ sign = [45]) (hint : Digits int)
      (hfrac : Fraction frac) (hexp : Exponent exp) : NumberText (sign ++ int ++ frac ++ exp)

inductive ScalarText : Bytes → Tree → Prop
  | null : ScalarText nullText .null
  | bool (value : Bool) : ScalarText (if value then trueText else falseText) (.bool value)
  | number {text : Bytes} (h : NumberText text) : ScalarText text (.number text)
  | string {text bytes : Bytes} (h : StringText text bytes) :
      ScalarText (quoted text) (.string bytes)

/-- Texts with commas between them and blanks around each. -/
inductive Listed {α : Type} (P : Bytes → α → Prop) : Bytes → List α → Prop
  | one {b₁ b₂ text : Bytes} {a : α} (h₁ : Blank b₁) (h₂ : Blank b₂) (h : P text a) :
      Listed P (b₁ ++ (text ++ b₂)) [a]
  | cons {b₁ b₂ text rest : Bytes} {a : α} {as : List α} (h₁ : Blank b₁) (h₂ : Blank b₂)
      (h : P text a) (hrest : Listed P rest as) :
      Listed P (b₁ ++ (text ++ (b₂ ++ 44 :: rest))) (a :: as)

/-- A name, a colon and a value. -/
inductive Named (P : Bytes → Tree → Prop) : Bytes → Bytes × Tree → Prop
  | mk {b₁ b₂ name key text : Bytes} {tree : Tree} (h₁ : Blank b₁) (h₂ : Blank b₂)
      (hname : StringText name key) (h : P text tree) :
      Named P (quoted name ++ (b₁ ++ 58 :: (b₂ ++ text))) (key, tree)

/-- Arrays and objects of values of `P`. -/
inductive Nested (P : Bytes → Tree → Prop) : Bytes → Tree → Prop
  | emptyArray {blank : Bytes} (h : Blank blank) : Nested P (91 :: (blank ++ [93])) (.array [])
  | array {text : Bytes} {items : List Tree} (h : Listed P text items) :
      Nested P (91 :: (text ++ [93])) (.array items)
  | emptyObject {blank : Bytes} (h : Blank blank) :
      Nested P (123 :: (blank ++ [125])) (.object [])
  | object {text : Bytes} {members : List (Bytes × Tree)} (h : Listed (Named P) text members) :
      Nested P (123 :: (text ++ [125])) (.object members)

/-- A text and its value, with at most so many arrays and objects around each other. -/
def Text : ℕ → Bytes → Tree → Prop
  | 0 => ScalarText
  | n + 1 => fun text tree => ScalarText text tree ∨ Nested (Text n) text tree

theorem ScalarText.text {text : Bytes} {tree : Tree} (h : ScalarText text tree) :
    ∀ n, Text n text tree
  | 0 => h
  | _ + 1 => .inl h

/-! ## Writing -/

/-- Texts with commas between them. -/
def commas : List Bytes → Bytes
  | [] => []
  | [text] => text
  | text :: text' :: texts => text ++ 44 :: commas (text' :: texts)

mutual

/-- The text of a value without any blank. -/
def Tree.write : Tree → Bytes
  | .null => nullText
  | .bool value => if value then trueText else falseText
  | .number text => text
  | .string bytes => quoted (escape bytes)
  | .array items => 91 :: (commas (itemTexts items) ++ [93])
  | .object members => 123 :: (commas (memberTexts members) ++ [125])

def itemTexts : List Tree → List Bytes
  | [] => []
  | tree :: trees => tree.write :: itemTexts trees

def memberTexts : List (Bytes × Tree) → List Bytes
  | [] => []
  | m :: ms => (quoted (escape m.1) ++ 58 :: m.2.write) :: memberTexts ms

end

theorem blank_nil : Blank [] := fun _ hc => by cases hc

/-- An ASCII character is one byte. -/
theorem utf8EncodeChar_ofNat {n : ℕ} (h : n < 128) :
    (Char.ofNat n).toNat = n ∧ String.utf8EncodeChar (Char.ofNat n) = [UInt8.ofNat n] := by
  have hn : (Char.ofNat n).toNat = n := by
    have hvalid : n.isValidChar := Or.inl (by omega)
    rw [Char.ofNat, dif_pos hvalid]
    rfl
  refine ⟨hn, ?_⟩
  have hval : (Char.ofNat n).val.toNat = n := hn
  unfold String.utf8EncodeChar
  rw [hval]
  exact if_pos (by omega)

theorem stringText_escapeByte (c : UInt8) {text bytes : Bytes} (h : StringText text bytes) :
    StringText (escapeByte c ++ text) (c :: bytes) := by
  cases escape_cases c with
  | @letter d hd hbyte hc =>
      rw [hc]
      exact .escape (.letter hbyte) h
  | @unicode high low h' l hhigh hlow hbyte hc =>
      have hh := hexValue_lt hhigh
      have hl := hexValue_lt hlow
      have hsmall : h' * 16 + l < 128 := by
        by_contra hlarge
        -- a byte from 128 on is not escaped
        have hle : 128 ≤ c := by
          rw [← hbyte, UInt8.le_iff_toNat_le, UInt8.toNat_ofNat', Nat.mod_eq_of_lt (by omega)]
          exact Nat.le_of_not_lt hlarge
        rw [escapeByte_of_large hle] at hc
        cases hc
      obtain ⟨hchar, hutf8⟩ := utf8EncodeChar_ofNat hsmall
      have hdigits : hex4 [48, 48, high, low] = some (Char.ofNat (h' * 16 + l)).toNat := by
        have hzero : hexValue 48 = some 0 := rfl
        rw [hchar]
        simp [hex4, hhigh, hlow, hzero]
      have hescape := StringText.escape (Escaped.unicode hdigits) h
      rw [hutf8, hbyte] at hescape
      rw [hc]
      exact hescape
  | plain hplain hc =>
      rw [hc]
      exact .plain hplain h

/-- What is escaped is a literal of its bytes. -/
theorem stringText_escape (bytes : Bytes) : StringText (escape bytes) bytes := by
  induction bytes with
  | nil => exact .nil
  | cons c bytes ih =>
      rw [escape_cons]
      exact stringText_escapeByte c ih

theorem listed_commas {α : Type} {P : Bytes → α → Prop} {texts : List Bytes} {as : List α}
    (h : List.Forall₂ P texts as) (hne : as ≠ []) : Listed P (commas texts) as := by
  induction h with
  | nil => exact absurd rfl hne
  | @cons text a texts as ha has ih =>
      cases has with
      | nil =>
          have hone := Listed.one blank_nil blank_nil ha
          rwa [List.nil_append, List.append_nil] at hone
      | @cons text' a' texts' as' ha' has' =>
          exact Listed.cons blank_nil blank_nil ha (ih (List.cons_ne_nil _ _))

theorem forall₂_itemTexts {P : Bytes → Tree → Prop} {items : List Tree}
    (h : ∀ tree ∈ items, P tree.write tree) : List.Forall₂ P (itemTexts items) items := by
  induction items with
  | nil => exact .nil
  | cons tree trees ih =>
      exact .cons (h tree List.mem_cons_self) (ih fun t ht => h t (List.mem_cons_of_mem _ ht))

theorem forall₂_memberTexts {P : Bytes → Tree → Prop} {members : List (Bytes × Tree)}
    (h : ∀ m ∈ members, P m.2.write m.2) :
    List.Forall₂ (Named P) (memberTexts members) members := by
  induction members with
  | nil => exact .nil
  | cons m ms ih =>
      refine .cons ?_ (ih fun m' hm' => h m' (List.mem_cons_of_mem _ hm'))
      exact Named.mk blank_nil blank_nil (stringText_escape m.1) (h m List.mem_cons_self)

/-- A written text is one of the grammar. -/
theorem text_write (tree : Tree) : (∀ text ∈ tree.numbers, NumberText text) →
    ∀ n, tree.nesting ≤ n → Text n tree.write tree := by
  induction tree using Tree.induct with
  | null => exact fun _ n _ => ScalarText.text .null n
  | bool value => exact fun _ n _ => ScalarText.text (.bool value) n
  | number text => exact fun h n _ => ScalarText.text (.number (h text (by simp [Tree.numbers]))) n
  | string bytes => exact fun _ n _ => ScalarText.text (.string (stringText_escape bytes)) n
  | array items ih =>
      intro hnumbers n hn
      obtain ⟨n, rfl⟩ := Nat.exists_eq_add_of_le' hn
      have hitems : ∀ tree ∈ items, Text (n + nestingItems items) tree.write tree := by
        intro tree htree
        refine ih tree htree (fun text ht => hnumbers text (mem_numbersOfItems htree ht)) _ ?_
        have := nestingItems_le.mp (Nat.le_refl _) tree htree
        omega
      right
      by_cases hne : items = []
      · subst hne
        exact .emptyArray blank_nil
      · exact .array (listed_commas (forall₂_itemTexts hitems) hne)
  | object members ih =>
      intro hnumbers n hn
      obtain ⟨n, rfl⟩ := Nat.exists_eq_add_of_le' hn
      have hmembers : ∀ m ∈ members, Text (n + nestingMembers members) m.2.write m.2 := by
        intro m hm
        refine ih m hm (fun text ht => hnumbers text (mem_numbersOfMembers hm ht)) _ ?_
        have := nestingMembers_le.mp (Nat.le_refl _) m hm
        omega
      right
      by_cases hne : members = []
      · subst hne
        exact .emptyObject blank_nil
      · exact .object (listed_commas (forall₂_memberTexts hmembers) hne)

end JsonText
