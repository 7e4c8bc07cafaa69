import Provision.Proofs.Disk.Spelling
import Provision.Proofs.Machine.Later

/-! What is entered under a temporary name keeps that name to the end: its absolute path, once it is
asked for, ends in the number that was used for it. -/

namespace Provision.Machine

open Working

theorem length_randomPart (number : Nat) : (randomPart number).toList.length = 6 := by
  simp [randomPart]

theorem all_alphabet : alphabet.all Char.isAlphanum = true := by
  decide +kernel

theorem isAlphanum_of_mem_randomPart {number : Nat} {c : Char}
    (member : c ∈ (randomPart number).toList) : c.isAlphanum = true := by
  rw [randomPart, String.toList_ofList] at member
  obtain ⟨place, -, rfl⟩ := List.mem_map.mp member
  cases found : alphabet[number / Nat.pow 62 place % 62]? with
  | none => rfl
  | some letter => exact List.all_eq_true.mp all_alphabet letter (List.mem_of_getElem? found)

theorem alphabet_inj : ∀ first < 62, ∀ second < 62,
    alphabet[first]?.getD 'A' = alphabet[second]?.getD 'A' → first = second := by
  decide +kernel

/-- Induction on the number of digits. -/
theorem mod_eq_of_digits {first second count : Nat}
    (digits : ∀ place < count, first / Nat.pow 62 place % 62 = second / Nat.pow 62 place % 62) :
    first % Nat.pow 62 count = second % Nat.pow 62 count := by
  induction count with
  | zero => exact (Nat.mod_one first).trans (Nat.mod_one second).symm
  | succ count ih =>
    change first % (Nat.pow 62 count * 62) = second % (Nat.pow 62 count * 62)
    rw [Nat.mod_mul, Nat.mod_mul, ih fun place lower => digits place (Nat.lt_succ_of_lt lower),
      digits count (Nat.lt_succ_self count)]

/-- As many numbers as there are names of six characters have names of their own. -/
theorem randomPart_ne {first second : Nat} (ordered : first < second)
    (near : second < first + 56800235584) : randomPart first ≠ randomPart second := by
  intro same
  have letters := String.ofList_inj.mp same
  have digits : ∀ place < 6, first / Nat.pow 62 place % 62 = second / Nat.pow 62 place % 62 := by
    intro place inside
    have letter := List.map_inj_left.mp letters place (List.mem_range.mpr inside)
    exact alphabet_inj _ (Nat.mod_lt _ (by decide)) _ (Nat.mod_lt _ (by decide)) letter
  have remainders : first % 56800235584 = second % 56800235584 := mod_eq_of_digits digits
  omega

/-- Six characters more than nothing are neither of the two dotted names. -/
theorem plain_temporary {front back : String} (ahead : '/' ∉ front.toList)
    (behind : '/' ∉ back.toList) (number : Nat) :
    Disk.Plain (front ++ randomPart number ++ back) := by
  have long : 6 ≤ (front ++ randomPart number ++ back).toList.length := by
    simp only [String.toList_append, List.length_append, length_randomPart]
    omega
  refine ⟨?_, ?_, ?_, ?_⟩
  · rintro empty
    simp [empty] at long
  · intro slash
    simp only [String.toList_append, List.mem_append] at slash
    rcases slash with (inFront | inside) | inBack
    · exact ahead inFront
    · exact absurd (isAlphanum_of_mem_randomPart inside) (by decide)
    · exact behind inBack
  · intro same
    simp [eq_of_beq same] at long
  · intro same
    simp [eq_of_beq same] at long

/-- The path ends in a name whose number was handed out between the two moments. -/
def Named (front back : String) (before after : Machine) (path : String) : Prop :=
  ∃ number, before.names ≤ number ∧ number < after.names ∧
    FileName.lastSegment path.toList = (front ++ randomPart number ++ back).toList

variable {front back path resolved : String} {before middle late after : Machine}

/-- A way to enter something that is then there, and no link. -/
def Enters (make : Disk → String → Except IoError Disk) : Prop :=
  ∀ before path after, make before path = .ok after →
    ∃ parent name, before.locateEntry path = .ok (parent, some name) ∧
      after.Settled (parent ++ [name]) ∧ before.Grows after

theorem enters_createNew : Enters fun disk path => disk.createNew path := by
  intro before path after made
  obtain ⟨parent, name, located, free, rfl⟩ := Disk.createNew_ok made
  refine ⟨parent, name, located, ⟨.file before.fresh [] false, ?_, by simp⟩, ?_⟩
  · exact Disk.get?_put_self (by simp)
  · exact Disk.grows_addFile free _ _

theorem enters_mkdir : Enters fun disk path => disk.mkdir path := by
  intro before path after made
  obtain ⟨parent, name, located, free, rfl⟩ := Disk.mkdir_ok made
  refine ⟨parent, name, located, ⟨.dir, ?_, by simp⟩, ?_⟩
  · exact Disk.get?_put_self (by simp)
  · exact Disk.grows_put_new free

theorem settle_ok (settled : Handlers.settle path late = (.ok resolved, after)) :
    late.disk.canonical path = .ok resolved ∧ after = late := by
  rw [Handlers.settle, onDisk_eq, Disk.canonicalPath, Disk.inquire_eq] at settled
  rcases asked : late.disk.canonical path with error | answer
  · rw [asked] at settled
    cases settled
  · rw [asked] at settled
    cases settled
    exact ⟨rfl, rfl⟩

/-- Between the entering and the question for the absolute path nothing is taken away. -/
theorem named_of_entered {make : Disk → String → Except IoError Disk} (enters : Enters make)
    (ahead : '/' ∉ front.toList) (behind : '/' ∉ back.toList)
    (entered : Entered make front back before (.ok path, middle)) (grown : middle.Grows late)
    (settled : Handlers.settle path late = (.ok resolved, after)) :
    Named front back before after resolved := by
  obtain ⟨found, rfl⟩ := settle_ok settled
  cases entered with
  | @made number disk unused made =>
    have plain := plain_temporary ahead behind number
    obtain ⟨parent, name, located, there, grows⟩ := enters _ _ _ made
    have lasting : before.disk.Grows after.disk := Trans.trans grows grown.disk
    have place := Disk.canonical_join plain located lasting (grown.disk.settled there) found
    refine ⟨number, unused, grown.names, ?_⟩
    rw [place, Disk.lastSegment_pathOf plain.single]

theorem within_ok {α : Type} {context : String} {work : Work α} {value : α}
    (went : within context work before = (.ok value, after)) : work before = (.ok value, after) := by
  rcases of_tryCatch_ok went with same | ⟨causes, _, _, threw⟩
  · exact same
  · cases threw

theorem orElseUndo_ok {α : Type} {work : Work α} {undo : Work Unit} {value : α}
    (went : orElseUndo work undo before = (.ok value, after)) :
    work before = (.ok value, after) := by
  rcases of_tryCatch_ok went with same | ⟨causes, _, _, undid⟩
  · exact same
  · obtain ⟨_, _, _, threw⟩ := of_bind_ok undid
    cases threw

end Provision.Machine
