import Provision.Proofs.Handlers.Standard
import Provision.Proofs.Machine.Temporary
import Provision.Registry

/-! What the built-in operations leave behind to be cleaned up. Each names its resource in its own way:
by a random part, by the number of a mount point, or always the same. The last component of the name
tells the operation and the number. Every handler that leaves something behind takes the number itself,
after the last steps of others that it runs, and numbers are handed out once. -/

namespace Provision

open Machine

/-- What a resource has of its own: a random part, a mount point, or nothing. -/
inductive Holding where
  | temporary (number : Nat)
  | mount (number : Nat)
  | image

namespace Holding

/-- The number was not handed out before. -/
def Since (machine : Machine) : Holding → Prop
  | temporary number => machine.names ≤ number
  | mount number => machine.mounts ≤ number
  | image => True

/-- The number was handed out by then. -/
def Before (machine : Machine) : Holding → Prop
  | temporary number => number < machine.names
  | mount number => number < machine.mounts
  | image => True

/-- What tells resources of one operation apart. -/
def part : Holding → List Char
  | temporary number => (randomPart number).toList
  | mount number => (toString number).toList
  | image => []

variable {holding : Holding} {before after : Machine}

theorem Since.earlier (since : holding.Since after) (later : before.Later after) :
    holding.Since before := by
  cases holding with
  | temporary number => exact Nat.le_trans later.names since
  | mount number => exact Nat.le_trans later.mounts since
  | image => trivial

theorem Before.later (issued : holding.Before before) (later : before.Later after) :
    holding.Before after := by
  cases holding with
  | temporary number => exact Nat.lt_of_lt_of_le issued later.names
  | mount number => exact Nat.lt_of_lt_of_le issued later.mounts
  | image => trivial

end Holding

/-- The cleanup that the result of an operation carries. DMG_EULA leaves the same image every time. -/
inductive Marks (directory : String) : Operation → Cleanup → Holding → Prop where
  | toFile {resource : String} {number : Nat} (named : FileName.lastSegment resource.toList =
      ("recipe-w" ++ randomPart number ++ "").toList) :
    Marks directory .toFile ⟨.delete, resource⟩ (.temporary number)
  | unzip {resource : String} {number : Nat} (named : FileName.lastSegment resource.toList =
      ("recipe-zip" ++ randomPart number ++ "").toList) :
    Marks directory .unzip ⟨.delete, resource⟩ (.temporary number)
  | download {resource name : String} {number : Nat} (nonempty : name ≠ "")
      (named : FileName.lastSegment resource.toList =
        ("recipe-" ++ randomPart number ++ ("-" ++ name)).toList) :
    Marks directory .download ⟨.delete, resource⟩ (.temporary number)
  | dmg (number : Nat) :
    Marks directory .dmg ⟨.unmount, "/Volumes/techmount" ++ toString number⟩ (.mount number)
  | dmgEula :
    Marks directory .dmgEula ⟨.delete, PathText.join directory "tech.cdr"⟩ .image

/-- The operation that leaves a resource of this name, and what it has of its own. -/
def originOf (name : List Char) : Operation × List Char :=
  if "recipe-".toList.isPrefixOf name then
    if name.length = 14 then (.toFile, name.drop 8)
    else if name[13]? = some '-' then (.download, (name.drop 7).take 6)
    else (.unzip, name.drop 10)
  else if name[4]? = some 'm' then (.dmg, name.drop 9)
  else (.dmgEula, [])

namespace Marks

variable {directory : String} {operation other : Operation} {cleanup obligation : Cleanup}
  {holding holds : Holding}

theorem originOf_eq (marks : Marks directory operation cleanup holding) :
    originOf (FileName.lastSegment cleanup.resource.toList) = (operation, holding.part) := by
  cases marks with
  | @toFile resource number named =>
    have size := length_randomPart number
    rw [named]
    simp [originOf, Holding.part, size]
  | @unzip resource number named =>
    have size := length_randomPart number
    have letters : ∀ c ∈ (randomPart number).toList, c ≠ '-' := by
      rintro c member rfl
      exact absurd (isAlphanum_of_mem_randomPart member) (by decide)
    rw [named]
    simp [originOf, Holding.part, size, letters _ (List.getElem_mem _)]
  | @download resource name number nonempty named =>
    have size := length_randomPart number
    have more : name.toList ≠ [] := by simpa using nonempty
    rw [named]
    simp [originOf, Holding.part, size]
    intro same
    exact more (List.eq_nil_of_length_eq_zero (by omega))
  | dmg number =>
    have single : '/' ∉ ("techmount" ++ toString number).toList := by
      intro slash
      rw [String.toList_append, Nat.toString_eq_ofList_toDigits] at slash
      rcases List.mem_append.mp slash with inName | inNumber
      · exact absurd inName (by decide)
      · rw [String.toList_ofList] at inNumber
        have digit : '/'.isDigit = true :=
          Nat.isDigit_of_mem_toDigits (by decide) (Nat.le_refl 10) inNumber
        exact absurd digit (by decide)
    have place : ("/Volumes/techmount" ++ toString number).toList =
        "/Volumes".toList ++ '/' :: ("techmount" ++ toString number).toList := by simp
    rw [place, Disk.lastSegment_slash single]
    simp [originOf, Holding.part]
  | dmgEula =>
    rw [Disk.lastSegment_join (by decide)]
    decide

theorem eq_image (marks : Marks directory .dmgEula cleanup holding) :
    cleanup = ⟨.delete, PathText.join directory "tech.cdr"⟩ := by
  cases marks
  rfl

/-- One resource is that of one operation, and no random part and no mount point is handed out for it
twice. -/
theorem same_resource (first : Marks directory operation cleanup holding)
    (second : Marks directory other obligation holds)
    (same : cleanup.resource = obligation.resource) :
    operation = other ∧ holding.part = holds.part := by
  have origin := first.originOf_eq
  rw [same, second.originOf_eq] at origin
  exact ⟨(congrArg Prod.fst origin).symm, (congrArg Prod.snd origin).symm⟩

end Marks

/-- The operations whose results have to be cleaned up. -/
def Operation.leavesTraces : Operation → Bool
  | .toFile | .unzip | .download | .dmg | .dmgEula => true
  | _ => false

/-- What the result of an operation owes: nothing, or what the operation named with a number that was
handed out between the two moments. -/
inductive Owes (directory : String) (operation : Operation) (since now : Machine) :
    Option Cleanup → Prop where
  | nothing (traceless : operation.leavesTraces = false) : Owes directory operation since now none
  | resource (marks : Marks directory operation cleanup holding) (unused : holding.Since since)
    (used : holding.Before now) : Owes directory operation since now (some cleanup)

/-- Whenever the work of a handler ends in a frame, the frame owes what is new since the work began, or
since it last ran steps of others. -/
inductive Handling.Issues (directory : String) (operation : Operation) :
    (since now : Machine) → Handling Machine Frame → Prop where
  | done (owes : Owes directory operation since now frame.cleanup) :
    Issues directory operation since now (.done frame)
  | failed (failure : Failure) : Issues directory operation since now (.failed failure)
  | observe (rest : (next now).Issues directory operation since now) :
    Issues directory operation since now (.observe next)
  | update (later : now.Later world) (rest : next.Issues directory operation since world) :
    Issues directory operation since now (.update world next)
  | look (rest : ∀ scene, (next scene).Issues directory operation since now) :
    Issues directory operation since now (.look next)
  | children (rest : ∀ steps, (next steps).Issues directory operation since now) :
    Issues directory operation since now (.children next)
  | insert (steps : List Step) (rest : ∀ outcome later, now.Later later →
      (next outcome).Issues directory operation later later) :
    Issues directory operation since now (.insert steps next)
  | report (step : Step) (frame : Frame) (rest : ∀ later, now.Later later →
      next.Issues directory operation since later) :
    Issues directory operation since now (.report step frame next)

namespace Handling

variable {α : Type} {directory : String} {operation : Operation} {since now : Machine}

theorem issues_onMachine {work : Machine.Work α} {frame : α → Frame}
    (keeps : Working.Keeps Later work)
    (owes : ∀ value after, work now = (.ok value, after) →
      Owes directory operation since after (frame value).cleanup) :
    ((Handlers.onMachine work).bind fun value => .done (frame value)).Issues directory operation since
      now := by
  refine .observe ?_
  have later := keeps now
  simp only [handling]
  rcases ran : work now with ⟨causes | value, after⟩
  · rw [ran] at later
    exact .update later (.failed _)
  · rw [ran] at later
    exact .update later (.done (owes value after ran))

theorem issues_done_free {frame : Frame} (traceless : operation.leavesTraces = false)
    (free : frame.cleanup = none) : (Handling.done frame).Issues directory operation since now :=
  .done (free ▸ .nothing traceless)

/-- Work whose frame owes nothing. -/
theorem issues_onMachine_free {work : Machine.Work α} {frame : α → Frame}
    (traceless : operation.leavesTraces = false) (keeps : Working.Keeps Later work)
    (free : ∀ value, (frame value).cleanup = none) :
    ((Handlers.onMachine work).bind fun value => .done (frame value)).Issues directory operation since
      now :=
  issues_onMachine keeps fun value _ _ => free value ▸ .nothing traceless

theorem issues_topValue {next : String → Handling Machine Frame}
    (rest : ∀ value, (next value).Issues directory operation since now) :
    (topValue.bind next).Issues directory operation since now := by
  refine .look fun scene => ?_
  dsimp only
  split
  · exact rest _
  · exact .failed _

theorem issues_insertAll {steps : List Step} {frame : Frame}
    (traceless : operation.leavesTraces = false) (free : frame.cleanup = none) :
    ((insertAll steps).bind fun _ => .done frame).Issues directory operation since now := by
  refine .insert steps fun outcome later _ => ?_
  cases outcome with
  | ok _ => exact issues_done_free traceless free
  | error fault => exact .failed _

end Handling

/-- Whatever the task, the handler leaves behind what is its own. -/
def Issuing (operation : Operation) (handler : Handler Machine) : Prop :=
  ∀ task now, (handler task).Issues now.temporaryDirectory operation now now

namespace Handlers

open Handling Working

theorem issuing_set : Issuing .set set := fun _ _ => issues_done_free rfl rfl

theorem issuing_equals : Issuing .equals equals := fun _ _ => issues_topValue fun _ => by
  split
  · exact issues_done_free rfl rfl
  · exact .failed _

theorem issuing_rebootNow : Issuing .rebootNow rebootNow := fun task _ => by
  refine issues_onMachine_free rfl ?_ fun _ => rfl
  split
  · exact (later_within _ (later_runCommand _ _)).bind fun _ => keeps_pure _
  · exact keeps_modify fun _ => ⟨Nat.le_refl _, Nat.le_refl _, rfl⟩

theorem issuing_command : Issuing .command command := fun task _ => by
  refine issues_onMachine_free rfl (later_within _ ?_) fun _ => rfl
  split
  · exact later_runBatchScript _
  · exact later_runProcess _ _

theorem issuing_async : Issuing .async async := fun task _ => by
  refine issues_onMachine_free rfl (later_within _ ?_) fun _ => rfl
  split
  · exact later_startBatch _
  · exact later_startBash _

theorem issuing_pkg : Issuing .pkg pkg := fun _ _ =>
  issues_onMachine_free rfl (later_within _ (later_runProcess _ _)) fun _ => rfl

theorem issuing_installCert : Issuing .installCert installCert := fun task _ => by
  unfold installCert
  split
  · exact .failed _
  · exact issues_insertAll rfl rfl

theorem issuing_upload (mirror : Mirror) : Issuing .upload (upload mirror) := fun _ _ =>
  issues_onMachine_free rfl (later_within _ (later_post _ _)) fun _ => rfl

theorem issues_carry (context : String) (transfer : String → String → Disk.Work String) (task : Task)
    {directory : String} {operation : Operation} {since now : Machine}
    (traceless : operation.leavesTraces = false) :
    (carry context transfer task).Issues directory operation since now := by
  refine issues_topValue fun source => issues_onMachine_free traceless ?_ fun _ => rfl
  exact (later_within _ (later_onDisk _)).bind fun _ => later_settle _

theorem issuing_move : Issuing .move move := fun task _ => issues_carry _ _ task rfl

theorem issuing_copy : Issuing .copy copy := fun task _ => issues_carry _ _ task rfl

theorem issuing_fromFile : Issuing .fromFile fromFile := fun _ _ =>
  issues_onMachine_free rfl (later_onDisk _) fun _ => rfl

theorem issuing_moveFf : Issuing .moveFf moveFf := fun task _ => by
  unfold moveFf
  dsimp only
  split
  · exact .failed _
  · exact issues_insertAll rfl rfl

/-- What a frame owes that was entered under a temporary name. -/
theorem owes_of_named {front back path directory : String} {operation : Operation}
    {before after : Machine} (named : Named front back before after path)
    (marks : ∀ number, FileName.lastSegment path.toList =
      (front ++ randomPart number ++ back).toList →
        Marks directory operation ⟨.delete, path⟩ (.temporary number)) :
    Owes directory operation before after (some ⟨.delete, path⟩) := by
  obtain ⟨number, unused, used, name⟩ := named
  exact .resource (marks number name) unused used

theorem grows_makeExecutable (path : String) :
    Keeps Grows (onDisk (Disk.makeExecutable path)) :=
  grows_onDisk (Disk.keeps_attempt _ fun _ _ => Disk.grows_setExecutable)

theorem issuing_toFile : Issuing .toFile toFile := fun task now => by
  have fills : ∀ path, Keeps Grows (onDisk (Disk.attempt "can't write string to file" fun disk =>
      disk.write path (Text.encode task.parameter))) :=
    fun path => grows_onDisk (Disk.keeps_attempt _ fun _ _ => Disk.grows_write)
  refine issues_onMachine ?_ fun resolved after ran => ?_
  · refine (later_within _ (later_temporaryFile _ _)).bind fun path => ?_
    refine (later_orElseUndo (later_of_grows (fills path)) (later_discard path)).bind fun _ => ?_
    exact (later_of_grows (grows_makeExecutable path)).bind fun _ => later_settle path
  · obtain ⟨path, fresh, created, rest⟩ := of_bind_ok ran
    obtain ⟨_, filled, wrote, rest⟩ := of_bind_ok rest
    obtain ⟨_, ready, allowed, settled⟩ := of_bind_ok rest
    have entered : Entered _ "recipe-w" "" now (.ok path, fresh) :=
      within_ok created ▸ entered_temporaryFile "recipe-w" "" now
    have grown : fresh.Grows ready := Trans.trans ((fills path).after_eq (orElseUndo_ok wrote))
      ((grows_makeExecutable path).after_eq allowed)
    exact owes_of_named
      (named_of_entered enters_createNew (by decide) (by decide) entered grown settled)
      fun _ => Marks.toFile

theorem issuing_unzip : Issuing .unzip unzip := fun task now => by
  have unpacks : ∀ path, Keeps Grows (onDisk (Archive.extract task.parameter path)) :=
    fun path => grows_onDisk (Archive.grows_extract _ path)
  refine issues_onMachine ?_ fun resolved after ran => ?_
  · refine (later_within _ (later_temporaryDir _)).bind fun path => ?_
    refine (later_orElseUndo (later_within _ (later_of_grows (unpacks path)))
      (later_discard path)).bind fun _ => ?_
    exact later_settle path
  · obtain ⟨path, fresh, created, rest⟩ := of_bind_ok ran
    obtain ⟨_, ready, unpacked, settled⟩ := of_bind_ok rest
    have entered : Entered _ "recipe-zip" "" now (.ok path, fresh) :=
      within_ok created ▸ entered_temporaryDir "recipe-zip" now
    have grown : fresh.Grows ready :=
      (unpacks path).after_eq (within_ok (orElseUndo_ok unpacked))
    exact owes_of_named
      (named_of_entered enters_mkdir (by decide) (by decide) entered grown settled)
      fun _ => Marks.unzip

theorem issuing_download (options : Fetching) : Issuing .download (download options) :=
    fun task now => by
  have single : '/' ∉ ("-" ++ FileName.ofUrl task.parameter).toList := by
    simp [FileName.slash_not_mem_ofUrl]
  have fetches : ∀ path, Keeps Grows (tryCatch
      (fetchRepeatedly (options.mirror.downloadUrl task.parameter) path (options.attempts - 1))
      fun causes => throw ["exception during download of " ++
        options.mirror.downloadUrl task.parameter ++ ": " ++ joinCauses causes]) :=
    fun path => (grows_fetchRepeatedly _ path _).tryCatch fun _ => keeps_throw _
  have prints : ∀ text, Keeps Grows (modify (Machine.print text) : Machine.Work PUnit) :=
    fun text => keeps_modify fun state => ⟨⟨Nat.le_refl _, Nat.le_refl _, rfl⟩, refl state.disk⟩
  refine issues_onMachine ?_ fun resolved after ran => ?_
  · refine (later_within _ (later_temporaryFile _ _)).bind fun path => ?_
    refine (later_orElseUndo (later_of_grows (fetches path)) (later_discard path)).bind
      fun count => ?_
    exact (later_of_grows (prints _)).when _ fun _ =>
      (later_of_grows (grows_makeExecutable path)).bind fun _ => later_settle path
  · obtain ⟨path, fresh, created, rest⟩ := of_bind_ok ran
    obtain ⟨count, filled, fetched, rest⟩ := of_bind_ok rest
    obtain ⟨noted, printed, rest⟩ := (prints _).of_when_ok rest
    obtain ⟨_, ready, allowed, settled⟩ := of_bind_ok rest
    have entered : Entered _ "recipe-" ("-" ++ FileName.ofUrl task.parameter) now (.ok path, fresh) :=
      within_ok created ▸ entered_temporaryFile "recipe-" _ now
    have grown : fresh.Grows ready := Trans.trans
      (Trans.trans ((fetches path).after_eq (orElseUndo_ok fetched)) printed)
      ((grows_makeExecutable path).after_eq allowed)
    exact owes_of_named
      (named_of_entered enters_createNew (by decide) single entered grown settled)
      fun _ => Marks.download (FileName.ofUrl_ne_empty _)

theorem issuing_dmg : Issuing .dmg dmg := fun task now => by
  have mounts : ∀ place, Keeps Later (within "can't mount the dmg" (runCommand ["hdiutil", "attach",
      task.parameter, "-mountpoint", place, "-nobrowse", "-quiet"] none)) :=
    fun place => later_within _ (later_runCommand _ _)
  refine issues_onMachine ?_ fun place after ran => ?_
  · exact later_nextMountPoint.bind fun place => (mounts place).bind fun _ => keeps_pure _
  · obtain ⟨chosen, counted, numbered, rest⟩ := of_bind_ok ran
    obtain ⟨_, mounted, attached, returned⟩ := of_bind_ok rest
    cases numbered
    cases returned
    have later := (mounts _).after_eq attached
    exact .resource (.dmg now.mounts) (Nat.le_refl _) later.mounts

theorem issuing_dmgEula : Issuing .dmgEula dmgEula := fun task now => by
  refine issues_onMachine ?_ fun image after ran => ?_
  · exact keeps_get fun before => ((later_within _ (later_runCommand _ _)).bind
      fun _ => keeps_pure _) before
  · rw [get_bind] at ran
    obtain ⟨_, converted, _, returned⟩ := of_bind_ok ran
    cases returned
    exact .resource .dmgEula trivial trivial

end Handlers

/-- Every built-in handler leaves behind what is its own. -/
theorem Registry.issuing_builtin {config : Config} {quiet : Bool} {operation : Operation}
    {handler : Handler Machine} (found : builtin? config quiet operation = some handler) :
    Issuing operation handler := by
  cases operation <;> cases found
  case set => exact Handlers.issuing_set
  case equals => exact Handlers.issuing_equals
  case rebootNow => exact Handlers.issuing_rebootNow
  case command => exact Handlers.issuing_command
  case async => exact Handlers.issuing_async
  case pkg => exact Handlers.issuing_pkg
  case installCert => exact Handlers.issuing_installCert
  case download => exact Handlers.issuing_download _
  case upload => exact Handlers.issuing_upload _
  case move => exact Handlers.issuing_move
  case copy => exact Handlers.issuing_copy
  case toFile => exact Handlers.issuing_toFile
  case fromFile => exact Handlers.issuing_fromFile
  case unzip => exact Handlers.issuing_unzip
  case dmg => exact Handlers.issuing_dmg
  case dmgEula => exact Handlers.issuing_dmgEula
  case moveFf => exact Handlers.issuing_moveFf

end Provision
