import Mathlib.Data.List.Basic
import Mathlib.Data.List.Induction
import Mathlib.Data.List.TakeWhile
import Provision.Proofs.Disk.Ways
import Provision.Proofs.Text.Naming

/-! Paths as texts. Joining two of them puts the pieces between their slashes one behind the other, and a
parent is spelled as the front of the path, up to one of its slashes. So what was entered under a name goes
on being found there as long as a disk only grows, and its absolute path, which is spelled with the names
of its place, ends in the same name. -/

namespace Provision.Disk

variable {before after : Disk} {parent : Location} {name : String}

/-- A name that is one piece of a path, and not too long to be entered. -/
structure Plain (name : String) : Prop where
  nonempty : name ≠ ""
  single : '/' ∉ name.toList
  notHere : ¬ (name == ".") = true
  notUp : ¬ (name == "..") = true

theorem pieces_single (nonempty : name ≠ "") (single : '/' ∉ name.toList) :
    PathText.pieces name = [name] := by
  have whole : name.toList ≠ [] := by simpa using nonempty
  rw [PathText.pieces, List.splitOn_eq_singleton single]
  simp [whole]

theorem pieces_slash (front back : List Char) :
    PathText.pieces (String.ofList (front ++ '/' :: back)) =
      PathText.pieces (String.ofList front) ++ PathText.pieces (String.ofList back) := by
  simp only [PathText.pieces, String.toList_ofList]
  rw [List.splitOn_append_cons_self, List.filterMap_append]

/-- A path that is joined from a directory and a name is either the name alone or has the name behind
its last slash. -/
theorem join_cases (base name : String) :
    PathText.join base name = name ∨
      ∃ front, PathText.join base name = String.ofList (front ++ '/' :: name.toList) := by
  unfold PathText.join
  split
  · exact .inl rfl
  · split
    · exact .inl rfl
    · split
      · rename_i slash
        obtain ⟨front, ends⟩ := List.getLast?_eq_some_iff.mp (eq_of_beq slash)
        refine .inr ⟨front, ?_⟩
        rw [← String.ofList_toList (s := base ++ name), String.toList_append, ends]
        simp
      · refine .inr ⟨base.toList, ?_⟩
        rw [← String.ofList_toList (s := base ++ "/" ++ name)]
        simp

theorem pieces_join (plain : Plain name) (base : String) :
    ∃ front, PathText.pieces (PathText.join base name) = front ++ [name] := by
  have alone : PathText.pieces name = [name] := pieces_single plain.nonempty plain.single
  rcases join_cases base name with same | ⟨front, joined⟩
  · exact ⟨[], by rw [same, alone]; rfl⟩
  · exact ⟨_, by rw [joined, pieces_slash, String.ofList_toList, alone]⟩

theorem lastSegment_slash (single : '/' ∉ name.toList) (front : List Char) :
    FileName.lastSegment (front ++ '/' :: name.toList) = name.toList := by
  have before : ∀ c ∈ name.toList.reverse, (c != '/') = true := by
    intro c member
    have inside := List.mem_reverse.mp member
    simpa using ne_of_mem_of_not_mem inside single
  have cut : (front ++ '/' :: name.toList).reverse =
      name.toList.reverse ++ '/' :: front.reverse := by simp
  rw [FileName.lastSegment, cut, List.takeWhile_append_of_pos before,
    List.takeWhile_cons_of_neg (by simp), List.append_nil, List.reverse_reverse]

theorem lastSegment_join (single : '/' ∉ name.toList) (base : String) :
    FileName.lastSegment (PathText.join base name).toList = name.toList := by
  rcases join_cases base name with alone | ⟨front, joined⟩
  · rw [alone, FileName.lastSegment_eq_self single]
  · rw [joined, String.toList_ofList, lastSegment_slash single]

theorem hasSlash_join (plain : Plain name) (base : String) :
    hasSlash (PathText.join base name) = false := by
  have nonempty : name.toList ≠ [] := by simpa using plain.nonempty
  have last : ∀ front, (front ++ name.toList).getLast? ≠ some '/' := by
    intro front slash
    rw [List.getLast?_append_of_ne_nil _ nonempty] at slash
    exact plain.single (List.mem_of_getLast? slash)
  unfold hasSlash
  rcases join_cases base name with alone | ⟨front, joined⟩
  · rw [alone]
    simpa using last []
  · have ends : (PathText.join base name).toList = (front ++ ['/']) ++ name.toList := by
      rw [joined]
      simp
    rw [ends]
    simpa using last (front ++ ['/'])

/-- A path is entered under its last piece. -/
theorem EntersAt.name_eq (plain : Plain name) {base entered : String}
    (enters : before.EntersAt (PathText.join base name) parent entered) : entered = name := by
  obtain ⟨front, pieces⟩ := pieces_join plain base
  obtain ⟨other, same⟩ := enters.pieces_eq
  exact (List.append_inj' (same.symm.trans pieces) rfl).2 |> List.singleton_inj.mp

/-- The absolute path of what was entered, however much has been added since. -/
theorem canonical_join (plain : Plain name) {base entered resolved : String}
    (located : before.locateEntry (PathText.join base name) = .ok (parent, some entered))
    (grows : Grows before after) (there : after.Settled (parent ++ [entered]))
    (found : after.canonical (PathText.join base name) = .ok resolved) :
    resolved = pathOf (parent ++ [name]) := by
  have enters := locateEntry_eq_ok_iff.mp located
  obtain rfl := enters.name_eq plain
  obtain ⟨node, stands, settled⟩ := there
  have leads := (grows.entersAt enters).canonical (hasSlash_join plain base) stands settled
  exact Except.ok.inj (found.symm.trans leads)

theorem lastSegment_pathOf (single : '/' ∉ name.toList) (parent : Location) :
    FileName.lastSegment (pathOf (parent ++ [name])).toList = name.toList := by
  have ends : (pathOf (parent ++ [name])).toList =
      (String.join (parent.map fun piece => "/" ++ piece)).toList ++ '/' :: name.toList := by
    unfold pathOf
    simp
  rw [ends, lastSegment_slash single]

end Provision.Disk

namespace Provision.PathText

open Disk

variable {path front back : List Char}

/-- The front ends, or what stands behind it begins, with a slash. -/
def Cut (path front : List Char) : Prop :=
  ∃ back, path = front ++ back ∧
    (front = [] ∨ back = [] ∨ back.head? = some '/' ∨ front.getLast? = some '/')

theorem Cut.refl (path : List Char) : Cut path path := ⟨[], (List.append_nil path).symm, .inr (.inl rfl)⟩

theorem Cut.trans {middle : List Char} (first : Cut path middle) (second : Cut middle front) :
    Cut path front := by
  obtain ⟨outer, rfl, place⟩ := first
  obtain ⟨inner, rfl, rfl | rfl | slash | slash⟩ := second
  · exact ⟨inner ++ outer, by simp, .inl rfl⟩
  · rw [List.append_nil] at place ⊢
    exact ⟨outer, rfl, place⟩
  · refine ⟨inner ++ outer, List.append_assoc .., .inr (.inr (.inl ?_))⟩
    rw [List.head?_append, slash]
    rfl
  · exact ⟨inner ++ outer, List.append_assoc .., .inr (.inr (.inr slash))⟩

theorem cut_dropTail (floor : Nat) (reversed : List Char) :
    Cut reversed.reverse (dropTail floor reversed).reverse := by
  fun_induction dropTail floor reversed with
  | case1 => exact .refl _
  | case2 rest long ih =>
    refine Cut.trans ⟨['/'], ?_, .inr (.inr (.inl rfl))⟩ ih
    rw [List.reverse_cons]
  | case3 => exact .refl _
  | case4 rest long ih =>
    refine Cut.trans ⟨['/', '.'], ?_, .inr (.inr (.inl rfl))⟩ ih
    simp
  | case5 => exact .refl _

theorem dot_of_pieces {path : String} (relative : ¬ isAbsolute path = true)
    (dot : (pieces path).head? = some ".") :
    path.toList = ['.'] ∨ ∃ rest, path.toList = '.' :: '/' :: rest := by
  by_cases slash : '/' ∈ path.toList
  · obtain ⟨first, rest, whole, single⟩ := List.eq_append_cons_of_mem slash
    have nonempty : first ≠ [] := by
      rintro rfl
      exact relative (by simp [isAbsolute, whole])
    have cut : pieces path = String.ofList first :: pieces (String.ofList rest) := by
      rw [← String.ofList_toList (s := path), whole, pieces_slash,
        pieces_single (by simpa using nonempty) (by simpa using single)]
      rfl
    rw [cut] at dot
    have named : first = ".".toList := by
      rw [← Option.some.inj dot, String.toList_ofList]
    exact .inr ⟨rest, by rw [whole, named]; rfl⟩
  · have nonempty : path ≠ "" := by
      rintro rfl
      exact absurd dot (by decide)
    rw [pieces_single nonempty slash] at dot
    rw [Option.some.inj dot]
    exact .inl rfl

/-- No more of a path than its first character belongs to a root or to a dot in front. -/
theorem floorOf_cases (path : String) :
    floorOf path = 0 ∨ floorOf path = 1 ∧
      (path.toList.head? = some '/' ∨ path.toList = ['.'] ∨
        ∃ rest, path.toList = '.' :: '/' :: rest) := by
  unfold floorOf components
  by_cases absolute : isAbsolute path = true
  · right
    simp only [absolute, if_true]
    exact ⟨trivial, .inl (eq_of_beq absolute)⟩
  · by_cases dot : ((pieces path).head? == some ".") = true
    · right
      simp only [absolute, dot, if_true]
      exact ⟨rfl, .inr (dot_of_pieces absolute (eq_of_beq dot))⟩
    · left
      have named : ∀ piece component, (if piece == "." then none
          else if piece == ".." then some .up else some (Component.name piece)) = some component →
          component ≠ .root ∧ component ≠ .here := by
        intro piece component read
        split at read
        · cases read
        · split at read <;> cases read <;> simp
      simp only [absolute, dot, Bool.false_eq_true, if_false]
      split
      · rename_i rest body
        obtain ⟨piece, -, read⟩ := List.mem_filterMap.mp (body ▸ List.mem_cons_self)
        exact absurd rfl (named piece _ read).1
      · rename_i rest body
        obtain ⟨piece, -, read⟩ := List.mem_filterMap.mp (body ▸ List.mem_cons_self)
        exact absurd rfl (named piece _ read).2
      · rfl

/-- Taking the last name off leaves a path that ends in a slash, if anything. -/
theorem cut_takeWhile (body : List Char) :
    Cut body.reverse (body.drop (body.takeWhile (· != '/')).length).reverse := by
  have rest : body.drop (body.takeWhile (· != '/')).length = body.dropWhile (· != '/') := by
    have drops : ((body.takeWhile (· != '/')) ++ body.dropWhile (· != '/')).drop
        (body.takeWhile (· != '/')).length = body.dropWhile (· != '/') := List.drop_left
    rwa [List.takeWhile_append_dropWhile] at drops
  refine ⟨(body.takeWhile (· != '/')).reverse, ?_, ?_⟩
  · rw [rest, ← List.reverse_append, List.takeWhile_append_dropWhile]
  · rw [rest]
    rcases left : body.dropWhile (· != '/') with _ | ⟨first, more⟩
    · exact .inl rfl
    · have slash := List.head?_dropWhile_not (· != '/') body
      rw [left] at slash
      exact .inr (.inr (.inr (by simpa using slash)))

/-- The last name never reaches into what belongs to the root or to a dot in front. -/
theorem cut_lastName {path : String} {body : List Char} (ends : Cut path.toList body.reverse) :
    Cut body.reverse (body.drop (min (body.takeWhile (· != '/')).length
      (body.length - floorOf path))).reverse := by
  by_cases reached : (body.takeWhile (· != '/')).length ≤ body.length - floorOf path
  · rw [Nat.min_eq_left reached]
    exact cut_takeWhile body
  · have most := (List.takeWhile_sublist (l := body) (· != '/')).length_le
    obtain ⟨back, whole, -⟩ := ends
    rcases floorOf_cases path with floor | ⟨floor, shape⟩
    · omega
    · have single : '/' ∉ body := by
        have all : body.takeWhile (· != '/') = body :=
          (List.takeWhile_prefix _).eq_of_length (by omega)
        intro slash
        exact absurd (List.takeWhile_eq_self_iff.mp all '/' slash) (by simp)
      have short : body.length = 1 := by
        rcases front : body.reverse with _ | ⟨first, _ | ⟨second, more⟩⟩
        · have none := congrArg List.length front
          rw [List.length_reverse, List.length_nil] at none
          omega
        · have one := congrArg List.length front
          rwa [List.length_reverse] at one
        · have inside : ∀ c, c = first ∨ c = second → c ∈ body := by
            intro c place
            rw [← List.mem_reverse, front]
            rcases place with rfl | rfl <;> simp
          rw [front] at whole
          rcases shape with root | dot | ⟨rest, dot⟩
          · rw [whole] at root
            exact absurd (inside '/' (.inl (Option.some.inj root).symm)) single
          · rw [whole] at dot
            simp at dot
          · rw [whole] at dot
            simp at dot
            exact absurd (inside '/' (.inr dot.2.1.symm)) single
      rw [floor, short, Nat.min_eq_right (by omega)]
      exact .refl _

theorem cut_parent {path parent : String} (above : parent? path = some parent) :
    Cut path.toList parent.toList := by
  unfold parent? at above
  split at above
  · contradiction
  · contradiction
  · obtain rfl := Option.some.inj above
    exact ⟨path.toList, rfl, .inl rfl⟩
  · obtain rfl := Option.some.inj above
    rw [String.toList_ofList]
    have trimmed : Cut path.toList (dropTail (floorOf path) path.toList.reverse).reverse := by
      have cut := cut_dropTail (floorOf path) path.toList.reverse
      rwa [List.reverse_reverse] at cut
    exact trimmed.trans ((cut_lastName trimmed).trans (cut_dropTail _ _))

theorem Cut.pieces (cut : Cut path front) :
    pieces (String.ofList front) <+: pieces (String.ofList path) := by
  obtain ⟨back, rfl, rfl | rfl | slash | slash⟩ := cut
  · exact List.nil_prefix
  · exact (List.append_nil front).symm ▸ List.prefix_rfl
  · obtain ⟨more, rfl⟩ := List.head?_eq_some_iff.mp slash
    rw [pieces_slash]
    exact List.prefix_append _ _
  · obtain ⟨more, rfl⟩ := List.getLast?_eq_some_iff.mp slash
    have ends : pieces (String.ofList (more ++ ['/'])) = pieces (String.ofList more) := by
      rw [pieces_slash]
      exact List.append_nil _
    rw [ends, List.append_assoc, List.singleton_append, pieces_slash]
    exact List.prefix_append _ _

/-- The pieces of a parent are the first of the path's own, from the same start. -/
theorem pieces_parent {path parent : String} (above : parent? path = some parent) :
    pieces parent <+: pieces path ∧ (parent ≠ "" → isAbsolute parent = isAbsolute path) := by
  have cut := cut_parent above
  have front := cut.pieces
  rw [String.ofList_toList, String.ofList_toList] at front
  refine ⟨front, fun nonempty => ?_⟩
  obtain ⟨back, whole, -⟩ := cut
  have some : parent.toList ≠ [] := by simpa using nonempty
  rw [isAbsolute, isAbsolute, whole, List.head?_append_of_ne_nil _ some]

/-- A relative path goes on from where the base leads. -/
theorem pieces_join {base path : String} (nonempty : base ≠ "") (relative : isAbsolute path = false) :
    pieces (join base path) = pieces base ++ pieces path ∧
      isAbsolute (join base path) = isAbsolute base := by
  have some : base.toList ≠ [] := by simpa using nonempty
  have starts (back : List Char) :
      isAbsolute (String.ofList (base.toList ++ back)) = isAbsolute base := by
    rw [isAbsolute, isAbsolute, String.toList_ofList, List.head?_append_of_ne_nil _ some]
  unfold join
  rw [relative, if_neg Bool.false_ne_true, if_neg (by simpa using nonempty)]
  split
  · rename_i slash
    obtain ⟨front, ends⟩ := List.getLast?_eq_some_iff.mp (eq_of_beq slash)
    have spelled : base ++ path = String.ofList (base.toList ++ path.toList) := by
      rw [← String.toList_append, String.ofList_toList]
    refine ⟨?_, spelled ▸ starts path.toList⟩
    have alone : pieces base = pieces (String.ofList front) := by
      rw [← String.ofList_toList (s := base), ends, pieces_slash]
      exact List.append_nil _
    rw [spelled, ends, List.append_assoc, List.singleton_append, pieces_slash, String.ofList_toList,
      alone]
  · have spelled : base ++ "/" ++ path = String.ofList (base.toList ++ '/' :: path.toList) := by
      rw [← String.ofList_toList (s := base ++ "/" ++ path)]
      simp
    refine ⟨?_, spelled ▸ starts ('/' :: path.toList)⟩
    rw [spelled, pieces_slash, String.ofList_toList, String.ofList_toList]

/-- A relative path is spelled behind the base. -/
theorem prefix_join {base path : String} (nonempty : base ≠ "") (relative : isAbsolute path = false) :
    base.toList <+: (join base path).toList := by
  unfold join
  rw [relative, if_neg Bool.false_ne_true, if_neg (by simpa using nonempty)]
  split
  · rw [String.toList_append]
    exact List.prefix_append _ _
  · rw [String.toList_append, String.toList_append, List.append_assoc]
    exact List.prefix_append _ _

theorem pieces_bare {path : List Char} (bare : '/' ∉ path) :
    ∀ piece ∈ pieces (String.ofList path), piece ≠ "" ∧ '/' ∉ piece.toList := by
  intro piece member
  by_cases empty : path = []
  · subst empty
    cases member
  · rw [pieces_single (by simpa using empty) (by simpa using bare), List.mem_singleton] at member
    subst member
    simpa using ⟨empty, bare⟩

/-- No piece is empty, and none has a slash in it. Induction on the length of the path. -/
theorem segment_of_mem_pieces (path : List Char) :
    ∀ piece ∈ pieces (String.ofList path), piece ≠ "" ∧ '/' ∉ piece.toList := by
  induction long : path.length using Nat.strongRecOn generalizing path with
  | ind length ih =>
    by_cases slash : '/' ∈ path
    · obtain ⟨front, rest, rfl, bare⟩ := List.eq_append_cons_of_mem slash
      intro piece member
      rw [pieces_slash, List.mem_append] at member
      rcases member with first | later
      · exact pieces_bare bare piece first
      · exact ih rest.length (by simp [← long]; omega) rest rfl piece later
    · exact pieces_bare slash

end Provision.PathText

namespace Provision.Disk

variable {disk : Disk} {at_ here there : Location} {name : String} {links left : Nat}
  {pieces : List String}

/-- The last component of a path is one of its pieces. -/
theorem plain_of_fileName? {path : String} (last : PathText.fileName? path = some name) : Plain name := by
  have named : .name name ∈ PathText.components path := by
    unfold PathText.fileName? at last
    split at last
    · rename_i ends
      cases last
      exact List.mem_of_getLast? ends
    · cases last
  obtain ⟨piece, member, same⟩ : ∃ piece ∈ PathText.pieces path,
      (if piece == "." then none else if piece == ".." then some .up else some (.name piece)) =
        some (PathText.Component.name name) := by
    unfold PathText.components at named
    split at named
    · exact List.mem_filterMap.mp ((List.mem_cons.mp named).resolve_left (by simp))
    · split at named
      · exact List.mem_filterMap.mp ((List.mem_cons.mp named).resolve_left (by simp))
      · exact List.mem_filterMap.mp named
  split at same
  · cases same
  · rename_i further
    split at same
    · cases same
    · rename_i down
      cases same
      rw [← String.ofList_toList (s := path)] at member
      obtain ⟨nonempty, single⟩ := PathText.segment_of_mem_pieces _ _ member
      exact ⟨nonempty, single, further, down⟩

theorem isAbsolute_of_plain (plain : Plain name) : PathText.isAbsolute name = false := by
  rw [PathText.isAbsolute, beq_eq_false_iff_ne]
  exact fun slash => plain.single (List.mem_of_mem_head? slash)

/-- A path that is cut off can still be one. -/
theorem checkPath_of_prefix {base path : String} (nonempty : base ≠ "")
    (front : base.toList <+: path.toList) (valid : checkPath path = .ok ()) : checkPath base = .ok () := by
  obtain ⟨back, whole⟩ := front
  have spelled : path = base ++ String.ofList back := by
    rw [← String.toList_inj, String.toList_append, String.toList_ofList, whole]
  unfold checkPath at valid ⊢
  split at valid
  · cases valid
  · rename_i clean
    split at valid
    · cases valid
    · split at valid
      · cases valid
      · rename_i short
        rw [if_neg, if_neg (by simpa using nonempty), if_neg]
        · rw [spelled, String.utf8ByteSize_append] at short
          omega
        · intro inside
          rw [spelled, String.toList_append] at clean
          exact clean (by simp_all)

theorem size_of_checkPath {path : String} (valid : checkPath path = .ok ()) : path.utf8ByteSize ≤ maxPath := by
  unfold checkPath at valid
  split at valid
  · cases valid
  · split at valid
    · cases valid
    · split at valid
      · cases valid
      · omega

theorem pathOf_ne_empty (at_ : Location) : pathOf at_ ≠ "" := by
  cases at_ with
  | nil => decide
  | cons name rest => simp [pathOf]

theorem join_ne_empty {base path : String} (nonempty : base ≠ "") : PathText.join base path ≠ "" := by
  unfold PathText.join
  split
  · rename_i absolute
    rintro rfl
    cases absolute
  · split
    · rename_i empty
      exact absurd (by simpa using empty) nonempty
    · split <;> simp [nonempty]

theorem utf8ByteSize_join {base : String} (nonempty : base ≠ "") (plain : Plain name) :
    base.utf8ByteSize < (PathText.join base name).utf8ByteSize := by
  have further : 0 < name.utf8ByteSize := by
    rw [Nat.pos_iff_ne_zero, ne_eq, String.utf8ByteSize_eq_zero_iff]
    exact plain.nonempty
  unfold PathText.join
  rw [isAbsolute_of_plain plain, if_neg Bool.false_ne_true, if_neg (by simpa using nonempty)]
  split
  · rw [String.utf8ByteSize_append]
    omega
  · rw [String.utf8ByteSize_append, String.utf8ByteSize_append]
    omega

/-- Every name can be a piece of a path. -/
def Legible (at_ : Location) : Prop := ∀ name ∈ at_, Plain name ∧ Proper name

theorem Legible.concat (front : Legible at_) (plain : Plain name) (proper : Proper name) :
    Legible (at_ ++ [name]) := by
  intro piece member
  rcases List.mem_append.mp member with above | last
  · exact front piece above
  · obtain rfl := List.mem_singleton.mp last
    exact ⟨plain, proper⟩

theorem Legible.front {front rest : Location} (legible : Legible (front ++ rest)) : Legible front :=
  fun name member => legible name (List.mem_append_left rest member)

/-- The absolute path of a place below the root, character by character. -/
theorem pathOf_eq (inside : at_ ≠ []) :
    pathOf at_ = String.ofList (at_.flatMap fun name => '/' :: name.toList) := by
  have joined : (String.join (at_.map fun name => "/" ++ name)).toList =
      at_.flatMap fun name => '/' :: name.toList := by
    simp [List.flatMap_map]
  rw [pathOf, if_neg (by simpa using inside), ← joined, String.ofList_toList]

/-- It has the names on the way for pieces. -/
theorem pieces_pathOf (legible : Legible at_) : PathText.pieces (pathOf at_) = at_ := by
  have listed : PathText.pieces (String.ofList (at_.flatMap fun name => '/' :: name.toList)) = at_ := by
    induction at_ using List.reverseRecOn with
    | nil => rfl
    | append_singleton above last ih =>
      have plain := (legible last (by simp)).1
      rw [List.flatMap_append, List.flatMap_singleton, pieces_slash, ih legible.front,
        String.ofList_toList, pieces_single plain.nonempty plain.single]
  by_cases root : at_ = []
  · rw [root]
    decide
  · rw [pathOf_eq root, listed]

theorem pathOf_absolute (at_ : Location) : PathText.isAbsolute (pathOf at_) = true := by
  cases at_ with
  | nil => decide
  | cons name rest => simp [pathOf, PathText.isAbsolute]

theorem hasSlash_pathOf (plain : Plain name) (parent : Location) :
    hasSlash (pathOf (parent ++ [name])) = false := by
  have nonempty : name.toList ≠ [] := by simpa using plain.nonempty
  have whole : (pathOf (parent ++ [name])).toList =
      (parent.flatMap (fun name => '/' :: name.toList) ++ ['/']) ++ name.toList := by
    rw [pathOf_eq (by simp), String.toList_ofList]
    simp
  rw [hasSlash, whole, List.getLast?_append_of_ne_nil _ nonempty, beq_eq_false_iff_ne]
  exact fun slash => plain.single (List.mem_of_getLast? slash)

theorem segment_of_mem_linkPieces {target piece : String} (member : piece ∈ linkPieces target) :
    piece ≠ "" ∧ '/' ∉ piece.toList := by
  rcases List.mem_append.mp member with named | dot
  · rw [← String.ofList_toList (s := target)] at named
    exact PathText.segment_of_mem_pieces _ piece named
  · split at dot
    · obtain rfl := List.mem_singleton.mp dot
      decide
    · cases dot

/-- What pieces lead to is legible with pieces. -/
theorem Through.legible (through : disk.Through links here pieces left there)
    (segments : ∀ piece ∈ pieces, piece ≠ "" ∧ '/' ∉ piece.toList) (legible : Legible here) :
    Legible there := by
  induction through with
  | stop => exact legible
  | stay later ih => exact ih (fun piece member => segments piece (.tail _ member)) legible
  | up later ih =>
    exact ih (fun piece member => segments piece (.tail _ member)) fun name member =>
      legible name (List.dropLast_subset _ member)
  | @dir _ _ _ _ piece _ proper found later ih =>
    obtain ⟨nonempty, single⟩ := segments piece (.head _)
    exact ih (fun piece member => segments piece (.tail _ member))
      (legible.concat ⟨nonempty, single, proper.further, proper.down⟩ proper)
  | link proper found full way later first second =>
    refine second (fun piece member => segments piece (.tail _ member))
      (first (fun piece => segment_of_mem_linkPieces) ?_)
    unfold linkStart
    split
    · exact fun name member => nomatch member
    · exact legible

end Provision.Disk
