import ValueShadow.Json.Printer
import Mathlib.Tactic.SplitIfs

/-!
# Different values are written differently

The text of a JSON value shows where the value ends (`showsEnd_prettyAt`). A string ends with the
first quote that is no part of an escape (`showsEnd_quote`), and behind each item between brackets
stands the comma before the next one or the line break before the closing bracket
(`showsEnd_bracketed`). So no two values have one text (`pretty_inj`).
-/

namespace ValueShadow.Json

/-- The text of a value shows where it ends: with whatever follows, it is the text of no other value
with something after it. -/
def ShowsEnd {α : Type} (write : α → String) (a : α) : Prop :=
  ∀ ⦃b : α⦄ ⦃rest rest' : List Char⦄,
    (write a).toList ++ rest = (write b).toList ++ rest' → a = b ∧ rest = rest'

/-! ## Strings -/

section
variable {rest rest' : List Char}

/-- The characters that are escaped by one letter, with the letter. -/
def letterEscapes : List (Char × Char) :=
  [('"', '"'), ('\\', '\\'), ('\n', 'n'), ('\r', 'r'), ('\t', 't'), ('\x08', 'b'), ('\x0c', 'f')]

/-- A character of a string is written like this: escaped by a letter, by its number, or as it
is. -/
inductive EscapedAs : Char → List Char → Prop where
  | letter {c letter : Char} : (c, letter) ∈ letterEscapes → EscapedAs c ['\\', letter]
  | number {c : Char} : c.toNat < 32 →
      EscapedAs c ['\\', 'u', '0', '0', hexDigit (c.toNat / 16), hexDigit (c.toNat % 16)]
  | plain {c : Char} : c ≠ '"' → c ≠ '\\' → EscapedAs c [c]

theorem escapedAs_escapeChar (c : Char) : EscapedAs c (escapeChar c) := by
  unfold escapeChar
  split_ifs with hquote hslash hline hreturn htab hback hfeed hlow
  iterate 7 (subst c; exact .letter (by decide))
  · exact .number hlow
  · exact .plain hquote hslash

/-- Hexadecimal digits are different for different numbers. -/
theorem hexDigit_inj {m n : Nat} (hm : m < 16) (hn : n < 16) (h : hexDigit m = hexDigit n) :
    m = n := by
  have hdigits : ∀ m < 16, ∀ n < 16, hexDigit m = hexDigit n → m = n := by decide
  exact hdigits m hm n hn h

/-- What is written of a character shows which one it is and where it ends. -/
theorem EscapedAs.append_inj {c other : Char} {text text' : List Char} (h : EscapedAs c text)
    (hother : EscapedAs other text') (hsame : text ++ rest = text' ++ rest') :
    c = other ∧ rest = rest' := by
  have hletters : ∀ escape ∈ letterEscapes, escape.2 ≠ 'u' ∧
      ∀ escape' ∈ letterEscapes, escape.2 = escape'.2 → escape.1 = escape'.1 := by
    decide
  cases h with
  | letter hletter =>
    cases hother with
    | letter hletter' =>
      obtain ⟨-, hsame⟩ := List.cons_eq_cons.1 hsame
      obtain ⟨hsame, hrest⟩ := List.cons_eq_cons.1 hsame
      exact ⟨(hletters _ hletter).2 _ hletter' hsame, hrest⟩
    | number =>
      obtain ⟨-, hsame⟩ := List.cons_eq_cons.1 hsame
      exact absurd (List.cons_eq_cons.1 hsame).1 (hletters _ hletter).1
    | plain _ hslash => exact absurd (List.cons_eq_cons.1 hsame).1.symm hslash
  | number hlow =>
    cases hother with
    | letter hletter' =>
      obtain ⟨-, hsame⟩ := List.cons_eq_cons.1 hsame
      exact absurd (List.cons_eq_cons.1 hsame).1.symm (hletters _ hletter').1
    | number hlow' =>
      simp only [List.cons_append, List.nil_append, List.cons.injEq, true_and] at hsame
      obtain ⟨hhigh, hunits, hrest⟩ := hsame
      have hhigh := hexDigit_inj (by omega) (by omega) hhigh
      have hunits := hexDigit_inj (by omega) (by omega) hunits
      exact ⟨Char.toNat_inj.1 (by omega), hrest⟩
    | plain _ hslash => exact absurd (List.cons_eq_cons.1 hsame).1.symm hslash
  | plain _ hslash =>
    cases hother with
    | letter | number => exact absurd (List.cons_eq_cons.1 hsame).1 hslash
    | plain => exact List.cons_eq_cons.1 hsame

/-- No character is written like the quote at the end of a string. -/
theorem EscapedAs.append_ne_quote {c : Char} {text : List Char} (h : EscapedAs c text) :
    text ++ rest ≠ '"' :: rest' := by
  rintro hsame
  cases h with
  | letter | number => cases (List.cons_eq_cons.1 hsame).1
  | plain hquote => exact hquote (List.cons_eq_cons.1 hsame).1

/-- The characters of a string up to the quote at its end are those of no other string. -/
theorem flatMap_escapeChar_append_inj {chars others : List Char}
    (h : chars.flatMap escapeChar ++ '"' :: rest = others.flatMap escapeChar ++ '"' :: rest') :
    chars = others ∧ rest = rest' := by
  induction chars generalizing others with
  | nil =>
    cases others with
    | nil => exact ⟨rfl, (List.cons_eq_cons.1 h).2⟩
    | cons other others =>
      rw [List.flatMap_cons, List.append_assoc] at h
      exact absurd h.symm (escapedAs_escapeChar other).append_ne_quote
  | cons c chars ih =>
    cases others with
    | nil =>
      rw [List.flatMap_cons, List.append_assoc] at h
      exact absurd h (escapedAs_escapeChar c).append_ne_quote
    | cons other others =>
      rw [List.flatMap_cons, List.append_assoc, List.flatMap_cons, List.append_assoc] at h
      obtain ⟨rfl, hsame⟩ := (escapedAs_escapeChar c).append_inj (escapedAs_escapeChar other) h
      obtain ⟨rfl, hrest⟩ := ih hsame
      exact ⟨rfl, hrest⟩

end

theorem toList_quote (text : String) :
    (quote text).toList = '"' :: (text.toList.flatMap escapeChar ++ ['"']) := by
  simp [quote]

/-- A string shows where it ends by the quote after it. -/
theorem showsEnd_quote (text : String) : ShowsEnd quote text := by
  intro other rest rest' h
  simp only [toList_quote, List.cons_append, List.append_assoc, List.nil_append, List.cons.injEq,
    true_and] at h
  obtain ⟨hchars, hrest⟩ := flatMap_escapeChar_append_inj h
  exact ⟨String.toList_inj.1 hchars, hrest⟩

/-! ## Items between brackets -/

/-- What follows an item between brackets: the comma, the line break and the next item, or the line
break and the closing bracket. -/
def afterItem (closing : String) (depth : Nat) : List String → List Char
  | [] => (newline depth).toList ++ closing.toList
  | item :: items =>
    ',' :: ((newline (depth + 1)).toList ++ (item.toList ++ afterItem closing depth items))

/-- What follows an opening bracket: the closing one, or the line break and the first item. -/
def afterOpening (closing : String) (depth : Nat) : List String → List Char
  | [] => closing.toList
  | item :: items => (newline (depth + 1)).toList ++ (item.toList ++ afterItem closing depth items)

theorem toList_newline (depth : Nat) :
    (newline depth).toList = '\n' :: List.replicate (2 * depth) ' ' := by
  simp [newline]

theorem toList_intercalate_cons (closing : String) (depth : Nat) (item : String)
    (items : List String) :
    (("," ++ newline (depth + 1)).intercalate (item :: items)).toList ++
        ((newline depth).toList ++ closing.toList) =
      item.toList ++ afterItem closing depth items := by
  induction items generalizing item with
  | nil => rw [String.intercalate_singleton, afterItem]
  | cons next items ih =>
    rw [String.intercalate_cons_cons, String.toList_append, List.append_assoc, ih, afterItem]
    simp

theorem toList_bracketed (opening closing : String) (depth : Nat) (items : List String) :
    (bracketed opening closing depth items).toList =
      opening.toList ++ afterOpening closing depth items := by
  cases items with
  | nil => simp [bracketed, afterOpening]
  | cons item items =>
    have h := toList_intercalate_cons closing depth item items
    simp [bracketed, afterOpening, ← h]

section
variable {α : Type} {write : α → String} {items : List α}

/-- What follows an item tells which items come next and where the brackets end. -/
theorem afterItem_append_inj (hitems : ∀ item ∈ items, ShowsEnd write item) {closing : String}
    {depth : Nat} {others : List α} {rest rest' : List Char}
    (h : afterItem closing depth (items.map write) ++ rest =
      afterItem closing depth (others.map write) ++ rest') :
    items = others ∧ rest = rest' := by
  induction items generalizing others with
  | nil =>
    cases others with
    | nil => exact ⟨rfl, List.append_cancel_left h⟩
    | cons other others => simp [afterItem, toList_newline] at h
  | cons item items ih =>
    obtain ⟨hitem, hitems⟩ := List.forall_mem_cons.1 hitems
    cases others with
    | nil => simp [afterItem, toList_newline] at h
    | cons other others =>
      simp only [List.map_cons, afterItem, List.cons_append, List.append_assoc, List.cons.injEq,
        true_and, List.append_cancel_left_eq] at h
      obtain ⟨rfl, hothers⟩ := hitem h
      obtain ⟨rfl, hrest⟩ := ih hitems hothers
      exact ⟨rfl, hrest⟩

/-- Items between brackets show where they end if each of them does, and the closing bracket does
not look like the line break before an item. -/
theorem showsEnd_bracketed (hitems : ∀ item ∈ items, ShowsEnd write item) (opening : String)
    {closing : String} (hclosing : ∀ rest rest', closing.toList ++ rest ≠ '\n' :: rest')
    (depth : Nat) :
    ShowsEnd (fun items => bracketed opening closing depth (items.map write)) items := by
  intro others rest rest' h
  simp only [toList_bracketed, List.append_assoc, List.append_cancel_left_eq] at h
  cases items with
  | nil =>
    cases others with
    | nil => exact ⟨rfl, List.append_cancel_left h⟩
    | cons other others =>
      simp only [List.map_nil, List.map_cons, afterOpening, toList_newline, List.cons_append] at h
      exact absurd h (hclosing _ _)
  | cons item items =>
    obtain ⟨hitem, hitems⟩ := List.forall_mem_cons.1 hitems
    cases others with
    | nil =>
      simp only [List.map_nil, List.map_cons, afterOpening, toList_newline, List.cons_append] at h
      exact absurd h.symm (hclosing _ _)
    | cons other others =>
      simp only [List.map_cons, afterOpening, List.append_assoc, List.append_cancel_left_eq] at h
      obtain ⟨rfl, hothers⟩ := hitem h
      obtain ⟨rfl, hrest⟩ := afterItem_append_inj hitems hothers
      exact ⟨rfl, hrest⟩

end

/-! ## Values -/

/-- A member of an object as it is written at this depth. -/
def prettyMember (depth : Nat) (member : String × Json) : String :=
  quote member.1 ++ ": " ++ prettyAt depth member.2

theorem prettyItems_eq_map (depth : Nat) (items : List Json) :
    prettyItems depth items = items.map (prettyAt depth) := by
  induction items with
  | nil => rw [prettyItems, List.map_nil]
  | cons item items ih => rw [prettyItems, ih, List.map_cons]

theorem prettyMembers_eq_map (depth : Nat) (members : List (String × Json)) :
    prettyMembers depth members = members.map (prettyMember depth) := by
  induction members with
  | nil => rw [prettyMembers, List.map_nil]
  | cons member members ih => rw [prettyMembers, ih, List.map_cons, prettyMember]

/-- A member shows where it ends if its value does. -/
theorem showsEnd_prettyMember {depth : Nat} {member : String × Json}
    (h : ShowsEnd (prettyAt depth) member.2) : ShowsEnd (prettyMember depth) member := by
  rintro ⟨name', value'⟩ rest rest' hsame
  obtain ⟨name, value⟩ := member
  simp only [prettyMember, String.toList_append, List.append_assoc] at hsame
  obtain ⟨rfl, hvalue⟩ := showsEnd_quote name hsame
  obtain ⟨rfl, hrest⟩ := h (List.append_cancel_left hvalue)
  exact ⟨rfl, hrest⟩

/-- The first character of the text of a value. -/
def firstChar : Json → Char
  | .null => 'n'
  | .bool true => 't'
  | .bool false => 'f'
  | .string _ => '"'
  | .array _ => '['
  | .object _ => '\x7b'

theorem head?_prettyAt (depth : Nat) (value : Json) :
    (prettyAt depth value).toList.head? = some value.firstChar := by
  cases value with
  | null => rw [prettyAt]; rfl
  | bool value => cases value <;> rw [prettyAt] <;> rfl
  | string text => rw [prettyAt, toList_quote]; rfl
  | array items => rw [prettyAt, toList_bracketed]; rfl
  | object members => rw [prettyAt, toList_bracketed]; rfl

/-- The values are of one kind, and equal if they are truth values. -/
inductive SameKind : Json → Json → Prop where
  | null : SameKind .null .null
  | bool {value : Bool} : SameKind (.bool value) (.bool value)
  | string {text text' : String} : SameKind (.string text) (.string text')
  | array {items items' : List Json} : SameKind (.array items) (.array items')
  | object {members members' : List (String × Json)} : SameKind (.object members) (.object members')

/-- Texts of values are told apart by their first characters, if the values are not of one kind. -/
theorem sameKind_of_append_eq {value other : Json} {depth : Nat} {rest rest' : List Char}
    (h : (prettyAt depth value).toList ++ rest = (prettyAt depth other).toList ++ rest') :
    SameKind value other := by
  have hhead := congrArg List.head? h
  simp only [List.head?_append, head?_prettyAt, Option.some_or, Option.some.injEq] at hhead
  revert hhead
  rcases value with _ | (_ | _) | _ | _ | _ <;> rcases other with _ | (_ | _) | _ | _ | _
  all_goals first
    | exact fun _ => .null
    | exact fun _ => .bool
    | exact fun _ => .string
    | exact fun _ => .array
    | exact fun _ => .object
    | simp [firstChar]

/-- An array shows where it ends if its items do. -/
theorem showsEnd_array {items : List Json} {depth : Nat}
    (hitems : ∀ item ∈ items, ShowsEnd (prettyAt (depth + 1)) item) :
    ShowsEnd (prettyAt depth) (.array items) := by
  intro other rest rest' h
  cases sameKind_of_append_eq h with
  | array =>
    simp only [prettyAt, prettyItems_eq_map] at h
    obtain ⟨rfl, hrest⟩ := showsEnd_bracketed hitems "[" (by simp) depth h
    exact ⟨rfl, hrest⟩

/-- An object shows where it ends if the values of its members do. -/
theorem showsEnd_object {members : List (String × Json)} {depth : Nat}
    (hmembers : ∀ member ∈ members, ShowsEnd (prettyAt (depth + 1)) member.2) :
    ShowsEnd (prettyAt depth) (.object members) := by
  intro other rest rest' h
  cases sameKind_of_append_eq h with
  | object =>
    simp only [prettyAt, prettyMembers_eq_map] at h
    have hwritten := fun member hmember => showsEnd_prettyMember (hmembers member hmember)
    obtain ⟨rfl, hrest⟩ := showsEnd_bracketed hwritten "\x7b" (by simp) depth h
    exact ⟨rfl, hrest⟩

mutual

/-- The text of a value shows where it ends. -/
theorem showsEnd_prettyAt : ∀ (value : Json) (depth : Nat), ShowsEnd (prettyAt depth) value
  | .null, _ => fun _ _ _ h => by
    cases sameKind_of_append_eq h with
    | null => exact ⟨rfl, List.append_cancel_left h⟩
  | .bool _, _ => fun _ _ _ h => by
    cases sameKind_of_append_eq h with
    | bool => exact ⟨rfl, List.append_cancel_left h⟩
  | .string text, _ => fun _ _ _ h => by
    cases sameKind_of_append_eq h with
    | string =>
      rw [prettyAt, prettyAt] at h
      obtain ⟨rfl, hrest⟩ := showsEnd_quote text h
      exact ⟨rfl, hrest⟩
  | .array items, depth => showsEnd_array (showsEnd_items items (depth + 1))
  | .object members, depth => showsEnd_object (showsEnd_members members (depth + 1))

theorem showsEnd_items : ∀ (items : List Json) (depth : Nat),
    ∀ item ∈ items, ShowsEnd (prettyAt depth) item
  | [], _ => by simp
  | item :: items, depth =>
    List.forall_mem_cons.2 ⟨showsEnd_prettyAt item depth, showsEnd_items items depth⟩

theorem showsEnd_members : ∀ (members : List (String × Json)) (depth : Nat),
    ∀ member ∈ members, ShowsEnd (prettyAt depth) member.2
  | [], _ => by simp
  | (_, value) :: members, depth =>
    List.forall_mem_cons.2 ⟨showsEnd_prettyAt value depth, showsEnd_members members depth⟩

end

/-- Different values have different texts. -/
theorem pretty_inj {value other : Json} : value.pretty = other.pretty ↔ value = other := by
  constructor
  · intro h
    have hchars : (prettyAt 0 value).toList ++ ['\n'] = (prettyAt 0 other).toList ++ ['\n'] := by
      simpa [pretty] using congrArg String.toList h
    exact (showsEnd_prettyAt value 0 hchars).1
  · rintro rfl
    rfl

end ValueShadow.Json
