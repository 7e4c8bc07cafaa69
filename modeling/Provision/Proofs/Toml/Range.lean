import Provision.Toml.Parser

/-! The integers of a TOML document are those of a signed word of 64 bits, however deep they stand. -/

namespace Provision.Toml

/-- Every integer in the value fits in a signed word of 64 bits. -/
inductive Fits : Toml → Prop where
  | string {text : String} : Fits (.string text)
  | integer {value : Int} (fits : -0x8000000000000000 ≤ value ∧ value < 0x8000000000000000) :
    Fits (.integer value)
  | float : Fits .float
  | bool {value : Bool} : Fits (.bool value)
  | datetime : Fits .datetime
  | array {items : List Toml} (all : ∀ item ∈ items, Fits item) : Fits (.array items)
  | table {origin : TableOrigin} {members : List (String × Toml)}
    (all : ∀ member ∈ members, Fits member.2) : Fits (.table origin members)
  | tables {items : List Toml} (all : ∀ item ∈ items, Fits item) : Fits (.tables items)

namespace Members

/-- So it is with every member. -/
def Fit (members : Members) : Prop := ∀ member ∈ members, Fits member.2

variable {members below : Members} {key : String} {value : Toml}

theorem fit_nil : Fit [] := fun _ within => absurd within List.not_mem_nil

theorem Fit.append (fit : members.Fit) (fits : value.Fits) : Fit (members ++ [(key, value)]) := by
  intro member within
  rcases List.mem_append.mp within with within | within
  · exact fit member within
  · rw [List.mem_singleton.mp within]
    exact fits

theorem Fit.put (fit : members.Fit) (fits : value.Fits) : (members.put key value).Fit := by
  unfold Members.put
  split
  · intro member within
    obtain ⟨earlier, stood, rfl⟩ := List.mem_map.mp within
    split
    · exact fits
    · exact fit earlier stood
  · exact fit.append fits

theorem Fit.get? (fit : members.Fit) (found : members.get? key = some value) : value.Fits := by
  obtain ⟨member, first, rfl⟩ := Option.map_eq_some_iff.mp found
  exact fit member (List.mem_of_find?_eq_some first)

end Members

section Growing

variable {members after : Members} {dotted : Bool} {path : List String} {key : String} {value : Toml}
  {origin : TableOrigin}

/-- What changes the table at the end of a path changes nothing else. -/
theorem fit_descend {change : TableOrigin → Members → Option Members}
    (changes : ∀ origin before after, change origin before = some after → Members.Fit before →
      Members.Fit after)
    (fit : members.Fit) (went : descend dotted change path origin members = some after) :
    after.Fit := by
  induction path generalizing origin members after with
  | nil => exact changes origin members after went fit
  | cons key rest ih =>
    rw [descend] at went
    split at went
    · obtain ⟨below, made, rfl⟩ := Option.map_eq_some_iff.mp went
      exact fit.put (.table (ih Members.fit_nil made))
    · next origin below found =>
      cases fit.get? found with
      | table stood =>
        split at went
        · obtain ⟨below, made, rfl⟩ := Option.map_eq_some_iff.mp went
          exact fit.put (.table (ih stood made))
        · cases went
    · next items found =>
      cases fit.get? found with
      | tables stood =>
        split at went
        · next origin below last =>
          obtain ⟨below, made, rfl⟩ := Option.map_eq_some_iff.mp went
          cases stood _ (List.mem_of_getLast? last) with
          | table deeper =>
            refine fit.put (.tables fun item within => ?_)
            rcases List.mem_append.mp within with within | within
            · exact stood item ((List.dropLast_sublist items).subset within)
            · rw [List.mem_singleton.mp within]
              exact .table (ih deeper made)
        · cases went
    · cases went

theorem fit_addValue (fits : value.Fits) (fit : members.Fit)
    (added : addValue path key value origin members = some after) : after.Fit := by
  refine fit_descend ?_ fit added
  intro origin before after changed fit
  split at changed
  · cases changed
  · cases changed
    exact fit.append fits

theorem fit_openTable (fit : members.Fit) (opened : openTable path key members = some after) :
    after.Fit := by
  refine fit_descend ?_ fit opened
  intro origin before after changed fit
  split at changed
  · cases changed
    exact fit.append (.table Members.fit_nil)
  · next below found =>
    cases changed
    cases fit.get? found with
    | table stood => exact fit.put (.table stood)
  · cases changed

theorem fit_openNext (fit : members.Fit) (opened : openNext path key members = some after) :
    after.Fit := by
  have empty : (Toml.table .header []).Fits := .table Members.fit_nil
  refine fit_descend ?_ fit opened
  intro origin before after changed fit
  split at changed
  · cases changed
    refine fit.append (.tables fun item within => ?_)
    rw [List.mem_singleton.mp within]
    exact empty
  · next items found =>
    cases changed
    cases fit.get? found with
    | tables stood =>
      refine fit.put (.tables fun item within => ?_)
      rcases List.mem_append.mp within with within | within
      · exact stood item within
      · rw [List.mem_singleton.mp within]
        exact empty
  · cases changed

end Growing

section Values

variable {text rest : List Char} {value : Toml}

theorem fits_of_checked {number : Int} {behind : List Char}
    (checked : (if inRange number then some (Toml.integer number, behind) else none) =
      some (value, rest)) : value.Fits := by
  split at checked
  · next range =>
    cases checked
    simp only [inRange, Bool.and_eq_true, decide_eq_true_eq] at range
    exact .integer range
  · cases checked

theorem fits_based {base : Nat} {isDigit : Char → Bool}
    (read : based? base isDigit text = some (value, rest)) : value.Fits := by
  obtain ⟨⟨digits, after⟩, -, ends⟩ := Option.bind_eq_some_iff.mp read
  exact fits_of_checked ends

theorem fits_decimal (read : decimal? text = some (value, rest)) : value.Fits := by
  unfold decimal? at read
  dsimp only at read
  split at read
  · cases read
    exact .float
  · cases read
    exact .float
  · obtain ⟨⟨whole, afterWhole⟩, -, read⟩ := Option.bind_eq_some_iff.mp read
    obtain ⟨⟨fraction, afterFraction⟩, -, read⟩ := Option.bind_eq_some_iff.mp read
    obtain ⟨⟨exponent, behind⟩, -, read⟩ := Option.bind_eq_some_iff.mp read
    dsimp only at read
    by_cases whole : (behind.length == afterWhole.length) = true
    · rw [if_pos whole] at read
      exact fits_of_checked read
    · rw [if_neg whole] at read
      split at read
      · cases read
      · cases read
        exact .float

theorem fits_number (read : number? text = some (value, rest)) : value.Fits := by
  unfold number? at read
  split at read
  · exact fits_based read
  · exact fits_based read
  · exact fits_based read
  · exact fits_decimal read

theorem fits_datetime (read : datetime? text = some (value, rest)) : value.Fits := by
  have told : value = .datetime := by
    unfold datetime? at read
    repeat' split at read
    all_goals first
      | cases read; rfl
      | obtain ⟨_, _, same⟩ := Option.map_eq_some_iff.mp read; cases same; rfl
  rw [told]
  exact .datetime

theorem fits_plain (read : plain? text = some (value, rest)) : value.Fits := by
  unfold plain? at read
  split at read
  · cases read
    exact .bool
  · cases read
    exact .bool
  · split at read
    · next found =>
      cases read
      exact fits_datetime found
    · exact fits_number read

end Values

/-- What the readers of values and containers read with so much fuel fits. -/
structure Bounded (fuel : Nat) : Prop where
  value : ∀ {depth text value rest}, value? fuel depth text = some (value, rest) → value.Fits
  array : ∀ {depth text items rest}, arrayItems? fuel depth text = some (items, rest) →
    ∀ item ∈ items, item.Fits
  inline : ∀ {depth text members after rest}, Members.Fit members →
    inlineMembers? fuel depth text members = some (after, rest) → Members.Fit after

section Containers

variable {fuel depth : Nat} {text rest : List Char}

theorem Bounded.value_succ {value : Toml} (bounded : Bounded fuel)
    (read : value? (fuel + 1) depth text = some (value, rest)) : value.Fits := by
  unfold value? at read
  split at read
  · split at read
    · cases read
    · obtain ⟨⟨items, behind⟩, inside, same⟩ := Option.map_eq_some_iff.mp read
      cases same
      exact .array (bounded.array inside)
  · split at read
    · cases read
    · split at read
      · cases read
        exact .table Members.fit_nil
      · obtain ⟨⟨members, behind⟩, inside, same⟩ := Option.map_eq_some_iff.mp read
        cases same
        exact .table (bounded.inline Members.fit_nil inside)
  · obtain ⟨⟨text, behind⟩, -, same⟩ := Option.map_eq_some_iff.mp read
    cases same
    exact .string
  · obtain ⟨⟨text, behind⟩, -, same⟩ := Option.map_eq_some_iff.mp read
    cases same
    exact .string
  · exact fits_plain read

theorem Bounded.array_succ {items : List Toml} (bounded : Bounded fuel)
    (read : arrayItems? (fuel + 1) depth text = some (items, rest)) : ∀ item ∈ items, item.Fits := by
  unfold arrayItems? at read
  split at read
  · cases read
    exact fun _ within => absurd within List.not_mem_nil
  · split at read
    · cases read
    · next item behind first =>
      have fits := bounded.value first
      split at read
      · cases read
        intro other within
        rw [List.mem_singleton.mp within]
        exact fits
      · obtain ⟨⟨others, after⟩, more, same⟩ := Option.map_eq_some_iff.mp read
        cases same
        intro other within
        rcases List.mem_cons.mp within with rfl | within
        · exact fits
        · exact bounded.array more other within
      · cases read

theorem Bounded.inline_succ {members after : Members} (bounded : Bounded fuel) (fit : members.Fit)
    (read : inlineMembers? (fuel + 1) depth text members = some (after, rest)) : after.Fit := by
  unfold inlineMembers? at read
  split at read
  · cases read
  · split at read
    · split at read
      · cases read
      · next value behind valued =>
        split at read
        · cases read
        · next members added =>
          have grown := fit_addValue (bounded.value valued) fit added
          split at read
          · cases read
            exact grown
          · exact bounded.inline grown read
          · cases read
    · cases read

/-- The readers call each other with one unit of fuel less. -/
theorem bounded (fuel : Nat) : Bounded fuel := by
  induction fuel with
  | zero =>
    refine ⟨fun read => ?_, fun read => ?_, fun _ read => ?_⟩
    all_goals cases read
  | succ fuel ih => exact ⟨ih.value_succ, ih.array_succ, ih.inline_succ⟩

end Containers

section Documents

variable {document after : Document} {text rest : List Char}

theorem fit_keyLine (fit : document.members.Fit)
    (read : keyLine? document text = some (after, rest)) : after.members.Fit := by
  obtain ⟨⟨path, key, text⟩, -, read⟩ := Option.bind_eq_some_iff.mp read
  dsimp only at read
  split at read
  · obtain ⟨⟨value, behind⟩, valued, read⟩ := Option.bind_eq_some_iff.mp read
    obtain ⟨rest, -, read⟩ := Option.bind_eq_some_iff.mp read
    obtain ⟨members, added, read⟩ := Option.bind_eq_some_iff.mp read
    cases read
    refine fit_descend ?_ fit added
    intro origin before after changed fit
    exact fit_addValue ((bounded _).value valued) fit changed
  · cases read

theorem fit_headerLine (fit : document.members.Fit)
    (read : headerLine? document text = some (after, rest)) : after.members.Fit := by
  unfold headerLine? at read
  split at read
  · obtain ⟨⟨path, key, text⟩, -, read⟩ := Option.bind_eq_some_iff.mp read
    dsimp only at read
    split at read
    · obtain ⟨rest, -, read⟩ := Option.bind_eq_some_iff.mp read
      obtain ⟨members, opened, read⟩ := Option.bind_eq_some_iff.mp read
      cases read
      exact fit_openNext fit opened
    · cases read
  · obtain ⟨⟨path, key, text⟩, -, read⟩ := Option.bind_eq_some_iff.mp read
    dsimp only at read
    split at read
    · obtain ⟨rest, -, read⟩ := Option.bind_eq_some_iff.mp read
      obtain ⟨members, opened, read⟩ := Option.bind_eq_some_iff.mp read
      cases read
      exact fit_openTable fit opened
    · cases read

theorem fit_lines {fuel : Nat} (fit : document.members.Fit)
    (read : lines? fuel document text = some after) : after.members.Fit := by
  induction fuel generalizing document text with
  | zero =>
    cases read
    exact fit
  | succ fuel ih =>
    rw [lines?] at read
    split at read
    · cases read
      exact fit
    · split at read
      · cases read
      · next opened => exact ih (fit_headerLine fit opened) read
    · split at read
      · split at read
        · cases read
        · exact ih fit read
      · split at read
        · cases read
        · next added => exact ih (fit_keyLine fit added) read

/-- Whatever is read, the integers in it fit in a signed word of 64 bits. -/
theorem fit_parse {text : String} {members : Members} (read : parse? text = some members) :
    members.Fit := by
  obtain ⟨document, lines, rfl⟩ := Option.map_eq_some_iff.mp read
  exact fit_lines Members.fit_nil lines

end Documents

end Provision.Toml
