import Provision.Proofs.Json.Reading

/-! The printers write spellings of the values they are given, so that reading takes back what was
printed: on one line as well as laid out. -/

namespace Provision.Json

/-- A value whose printed form says all that there is to say about it: its numbers are literals, and its
strings and keys are texts. -/
inductive Writable : Json → Prop where
  | null : Writable null
  | bool (value : Bool) : Writable (bool value)
  | number {literal : String} (isNumber : IsNumber literal) : Writable (number literal)
  | ofText (text : String) : Writable (ofText text)
  | array {items : List Json} (each : ∀ item ∈ items, Writable item) : Writable (array items)
  | ofMembers {members : List (String × Json)} (each : ∀ member ∈ members, Writable member.2) :
    Writable (ofMembers members)

/-- Members whose keys are texts. -/
def keyed (members : List (String × Json)) : List (Option String × Json) :=
  members.map fun member => (some member.1, member.2)

variable {value item : Json} {items : List Json} {text : List Char}
  {member : String × Json} {members : List (String × Json)}

theorem toList_quote (text : String) : (quote text).toList = quoteChars text := String.toList_ofList

theorem spelled_bool (value : Bool) :
    Spelled (.value (bool value)) (if value then "true" else "false").toList := by
  cases value with
  | true => exact .true
  | false => exact .false

section Line

theorem spelled_renderItems (each : ∀ item ∈ items, Spelled (.value item) (render item).toList)
    (nonempty : items ≠ []) : Spelled (.items items) ((renderItems items).toList ++ [']']) := by
  induction items with
  | nil => exact absurd rfl nonempty
  | cons item items ih =>
    have first := each item List.mem_cons_self
    cases items with
    | nil => exact first.lastItem blanks_nil
    | cons next items =>
      have later := ih (fun item member => each item (List.mem_cons_of_mem _ member)) (by simp)
      have spelled := first.nextItem blanks_nil blanks_nil later
      simpa [renderItems] using spelled

theorem spelled_renderMembers (each : ∀ member ∈ members, Spelled (.value member.2) (render member.2).toList)
    (nonempty : members ≠ []) :
    Spelled (.members (keyed members)) ((renderMembers (keyed members)).toList ++ ['\x7d']) := by
  induction members with
  | nil => exact absurd rfl nonempty
  | cons member members ih =>
    have first := each member List.mem_cons_self
    cases members with
    | nil =>
      have spelled := first.lastMember member.1 blanks_nil blanks_nil blanks_nil
      simpa [renderMembers, keyed, toList_quote] using spelled
    | cons next members =>
      have later := ih (fun item member => each item (List.mem_cons_of_mem _ member)) (by simp)
      have spelled := first.nextMember member.1 blanks_nil blanks_nil blanks_nil blanks_nil later
      simpa [renderMembers, keyed, toList_quote] using spelled

/-- A value on one line is spelled without blanks. -/
theorem spelled_render (writable : Writable value) : Spelled (.value value) (render value).toList := by
  induction writable with
  | null => exact .null
  | bool value => exact spelled_bool value
  | number isNumber => exact .number isNumber
  | ofText text =>
    rw [ofText, render, Option.getD_some, toList_quote]
    exact .string text
  | @array items each spelled =>
    rw [render]
    cases items with
    | nil => exact .emptyArray blanks_nil
    | cons item items =>
      have contents := spelled_renderItems spelled (by simp)
      simpa using Spelled.array blanks_nil contents
  | @ofMembers members each spelled =>
    cases members with
    | nil => exact .emptyObject blanks_nil
    | cons member members =>
      have contents := spelled_renderMembers spelled (by simp)
      simpa [ofMembers, render, keyed] using Spelled.object blanks_nil contents

end Line

section Layout

theorem blanks_newline (level : Nat) : Blanks (newline level).toList := by
  intro c member
  simp only [newline, String.toList_append, String.toList_ofList, List.mem_append] at member
  rcases member with inBreak | inIndent
  · rw [List.mem_singleton.mp inBreak]
    rfl
  · rw [List.eq_of_mem_replicate inIndent]
    rfl

theorem blanks_singleton : Blanks [' '] := by simp [Blanks, isSeparator]

/-- The layout of the items behind one that is already written. -/
theorem spelled_prettyItems (level : Nat)
    (each : ∀ item ∈ items, ∀ level, Spelled (.value item) (pretty level item).toList)
    (first : Spelled (.value item) text) :
    Spelled (.items (item :: items))
      (text ++ ((prettyItems level items).toList ++ ((newline level).toList ++ [']']))) := by
  induction items generalizing item text with
  | nil => exact first.lastItem (blanks_newline level)
  | cons next items ih =>
    have later := ih (fun item member => each item (List.mem_cons_of_mem _ member))
      (each next List.mem_cons_self (level + 1))
    have spelled := first.nextItem blanks_nil (blanks_newline (level + 1)) later
    simpa [prettyItems] using spelled

theorem spelled_prettyMembers (level : Nat) (key : String)
    (each : ∀ member ∈ members, ∀ level, Spelled (.value member.2) (pretty level member.2).toList)
    (first : Spelled (.value value) text) :
    Spelled (.members ((some key, value) :: keyed members))
      (quoteChars key ++ (':' :: ' ' :: (text ++
        ((prettyMembers level (keyed members)).toList ++ ((newline level).toList ++ ['\x7d']))))) := by
  induction members generalizing key value text with
  | nil => exact first.lastMember key blanks_nil blanks_singleton (blanks_newline level)
  | cons next members ih =>
    have later := ih next.1 (fun item member => each item (List.mem_cons_of_mem _ member))
      (each next List.mem_cons_self (level + 1))
    have spelled := first.nextMember key blanks_nil blanks_singleton blanks_nil
      (blanks_newline (level + 1)) later
    simpa [prettyMembers, keyed, toList_quote] using spelled

/-- A value that is laid out is spelled with line breaks and indentation for blanks. -/
theorem spelled_pretty (writable : Writable value) (level : Nat) :
    Spelled (.value value) (pretty level value).toList := by
  induction writable generalizing level with
  | null =>
    rw [pretty]
    exact .null
  | bool value => exact spelled_bool value
  | number isNumber => exact .number isNumber
  | ofText text =>
    rw [ofText, pretty, Option.getD_some, toList_quote]
    exact .string text
  | @array items each spelled =>
    cases items with
    | nil =>
      rw [pretty]
      exact .emptyArray blanks_nil
    | cons item items =>
      have first := spelled item List.mem_cons_self (level + 1)
      have contents := spelled_prettyItems level
        (fun item member => spelled item (List.mem_cons_of_mem _ member)) first
      simpa [pretty] using Spelled.array (blanks_newline (level + 1)) contents
  | @ofMembers members each spelled =>
    cases members with
    | nil =>
      rw [ofMembers, List.map_nil, pretty]
      exact .emptyObject blanks_nil
    | cons member members =>
      have first := spelled member List.mem_cons_self (level + 1)
      have contents := spelled_prettyMembers level member.1
        (fun item member => spelled item (List.mem_cons_of_mem _ member)) first
      simpa [ofMembers, pretty, keyed, toList_quote] using
        Spelled.object (blanks_newline (level + 1)) contents

end Layout

theorem spells_render (writable : Writable value) : Spells (render value) value :=
  ⟨[], _, [], by simp, blanks_nil, spelled_render writable, blanks_nil⟩

theorem spells_pretty (writable : Writable value) (level : Nat) : Spells (pretty level value) value :=
  ⟨[], _, [], by simp, blanks_nil, spelled_pretty writable level, blanks_nil⟩

end Provision.Json
