import Provision.Proofs.Handlers.Issuing
import Provision.Proofs.Handlers.Unpacking
import Provision.Proofs.Machine.Scripts

/-! Handlers that make something temporary take it back when they fail. The one exception is ASYNC on
WIN: its batch file stays behind when the program that was to read it does not start. -/

namespace Provision

open Machine Working Disk

namespace Handlers

variable {before after : Machine}

/-- The work of TO_FILE. -/
def writeFresh (parameter : String) : Machine.Work String := do
  let path ← Machine.within "can't create tmp file" (Machine.temporaryFile "recipe-w" "")
  Machine.orElseUndo
    (Machine.onDisk (Disk.attempt "can't write string to file" fun disk =>
      disk.write path (Text.encode parameter)))
    (Machine.discard path)
  Machine.onDisk (Disk.makeExecutable path)
  settle path

theorem toFile_eq (task : Task) :
    toFile task = (onMachine (writeFresh task.parameter)).bind fun path => .done (ownedPath path) := rfl

/-- All attempts of DOWNLOAD. -/
def fetchAny (options : Fetching) (parameter target : String) : Machine.Work Nat :=
  tryCatch (fetchRepeatedly (options.mirror.downloadUrl parameter) target (options.attempts - 1))
    fun causes => throw ["exception during download of " ++ options.mirror.downloadUrl parameter ++
      ": " ++ joinCauses causes]

/-- The work of DOWNLOAD. -/
def downloadFresh (options : Fetching) (parameter : String) : Machine.Work String := do
  let target ← Machine.persistentFile ("-" ++ FileName.ofUrl parameter)
  let count ← Machine.orElseUndo (fetchAny options parameter target) (Machine.discard target)
  if !options.quiet then
    modify (Machine.print (Console.detail
      ("downloaded " ++ options.mirror.downloadUrl parameter ++ " (" ++ toString count ++ " bytes)")))
  Machine.onDisk (Disk.makeExecutable target)
  settle target

theorem download_eq (options : Fetching) (task : Task) :
    download options task =
      (onMachine (downloadFresh options task.parameter)).bind fun path => .done (ownedPath path) := rfl

/-- A new file can always be made executable and found. -/
theorem finish_eq {disk : Disk} {path name : String} {parent : Location} {middle : Machine}
    {bytes : Bytes} (filled : Filled disk path parent name bytes middle.disk) :
    ∃ later, (onDisk (makeExecutable path) >>= fun _ => settle path) middle =
        (.ok (pathOf (parent ++ [name])), { middle with disk := later }) ∧
      Filled disk path parent name bytes later := by
  obtain ⟨later, set, still⟩ := filled.setExecutable true
  refine ⟨later, ?_, still⟩
  rw [makeExecutable, bind_ok _ (onDisk_attempt _ set)]
  exact settle_eq still.canonical_eq

theorem tidy_of_draft {work : Machine.Work String} {path name : String} {parent : Location}
    {middle : Machine} (temporary : Temporary before middle path)
    (draft : Draft before.disk path parent name middle.disk)
    (finishes : work before = (onDisk (makeExecutable path) >>= fun _ => settle path) middle) :
    Tidy work before := by
  obtain ⟨bytes, filled⟩ := draft.filled
  obtain ⟨later, finished, still⟩ := finish_eq filled
  obtain ⟨id, bytes, executable, file⟩ := still.file
  refine .inr ⟨_, _, finishes.trans finished,
    .made temporary still.toAdded (fun other same => ?_) file (by simp)⟩
  exact List.singleton_inj.mp (List.append_cancel_left same)

theorem tidy_writeFresh (parameter : String) (before : Machine) :
    Tidy (writeFresh parameter) before := by
  have entered := entered_temporaryFile "recipe-w" "" before
  rcases created : temporaryFile "recipe-w" "" before with ⟨causes | path, fresh⟩
  · rw [created] at entered
    exact tidy_of_refused (bind_error _ (within_of_error _ created)) entered.disk_eq
  · rw [created] at entered
    obtain ⟨parent, name, draft⟩ := entered.draft (by decide) (by decide)
    obtain ⟨filled, wrote, still⟩ := draft.write (Text.encode parameter) false
    have named : Temporary before fresh path := entered.temporary (by decide) (by decide)
    have temporary : Temporary before { fresh with disk := filled } path := named
    have writes : onDisk (attempt "can't write string to file" fun disk =>
        disk.write path (Text.encode parameter)) fresh = (.ok (), { fresh with disk := filled }) :=
      onDisk_attempt _ wrote
    exact tidy_of_draft temporary still.toDraft
      ((bind_ok _ (within_of_ok _ created)).trans (bind_ok _ (orElseUndo_of_ok _ writes)))

/-- What holds of a machine's disk. -/
def DiskHas (holds : Disk → Prop) (machine : Machine) : Prop := holds machine.disk

theorem preserves_request {holds : Disk → Prop} (method address contentType : String)
    (body : Bytes) :
    Keeps (Preserving (DiskHas holds)) (request method address contentType body) :=
  keeps_get fun _ => id

theorem preserves_onDisk {α : Type} {holds : Disk → Prop} {work : Disk.Work α}
    (keeps : Keeps (Preserving holds) work) : Keeps (Preserving (DiskHas holds)) (onDisk work) := by
  intro before held
  rw [onDisk_eq]
  exact keeps before.disk held

/-- A download changes nothing but the file that it fills, and that stays one. -/
theorem preserves_fetchAny {disk : Disk} {path name : String} {parent : Location}
    (options : Fetching) (parameter : String) :
    Keeps (Preserving (DiskHas (Draft disk path parent name)))
      (fetchAny options parameter path) := by
  have empties : ∀ context, Keeps (Preserving (Draft disk path parent name))
      (attempt context fun disk => disk.write path []) := by
    refine fun context => keeps_attempt context fun before after wrote draft => ?_
    obtain ⟨later, same, still⟩ := Draft.write draft [] false
    rw [wrote] at same
    cases same
    exact still.toDraft
  have fills : ∀ context chunk, Keeps (Preserving (Draft disk path parent name))
      (attempt context fun disk => disk.append path chunk) := by
    refine fun context chunk => keeps_attempt context fun before after wrote draft => ?_
    obtain ⟨bytes, filled⟩ := Draft.filled draft
    obtain ⟨later, same, still⟩ := filled.append chunk
    rw [wrote] at same
    cases same
    exact still.toDraft
  have fetches : Keeps (Preserving (DiskHas (Draft disk path parent name)))
      (fetch (options.mirror.downloadUrl parameter) path) :=
    keeps_fetch (preserves_request _ _ _ _) (fun context => preserves_onDisk (empties context))
      fun context chunk => preserves_onDisk (fills context chunk)
  exact (keeps_fetchRepeatedly fetches _).tryCatch fun _ => keeps_throw _

theorem later_fetchAny (options : Fetching) (parameter target : String) :
    Keeps Later (fetchAny options parameter target) :=
  (later_of_grows (grows_fetchRepeatedly _ _ _)).tryCatch fun _ => keeps_throw _

/-- Whether or not the download is told of, what remains is to finish the file. -/
theorem downloadFresh_fetched {options : Fetching} {parameter path : String} {count : Nat}
    {fresh fetched : Machine}
    (created : persistentFile ("-" ++ FileName.ofUrl parameter) before = (.ok path, fresh))
    (went : fetchAny options parameter path fresh = (.ok count, fetched)) :
    ∃ told : Machine, told.disk = fetched.disk ∧ told.network = fetched.network ∧
      told.names = fetched.names ∧ downloadFresh options parameter before =
        (onDisk (makeExecutable path) >>= fun _ => settle path) told := by
  have fetches := orElseUndo_of_ok (discard path) went
  cases quiet : options.quiet with
  | true =>
    refine ⟨fetched, rfl, rfl, rfl, ?_⟩
    rw [downloadFresh, bind_ok _ created, bind_ok _ fetches, quiet]
    rfl
  | false =>
    let text := Console.detail ("downloaded " ++ options.mirror.downloadUrl parameter ++ " (" ++
      toString count ++ " bytes)")
    refine ⟨fetched.print text, rfl, rfl, rfl, ?_⟩
    rw [downloadFresh, bind_ok _ created, bind_ok _ fetches, quiet]
    rfl

theorem tidy_downloadFresh (options : Fetching) (parameter : String) (before : Machine) :
    Tidy (downloadFresh options parameter) before := by
  have single : '/' ∉ ("-" ++ FileName.ofUrl parameter).toList := by
    simp [FileName.slash_not_mem_ofUrl]
  have entered := entered_temporaryFile "recipe-" ("-" ++ FileName.ofUrl parameter) before
  rcases created : temporaryFile "recipe-" ("-" ++ FileName.ofUrl parameter) before with
    ⟨causes | path, fresh⟩
  · rw [created] at entered
    exact tidy_of_refused (bind_error _ (within_of_error _ created)) entered.disk_eq
  · rw [created] at entered
    obtain ⟨parent, name, draft⟩ := entered.draft (by decide) single
    have temporary := entered.temporary (by decide) single
    have creates := within_of_ok "cannot create temporary file" created
    have counts := later_fetchAny options parameter path fresh
    have fills := preserves_fetchAny options parameter fresh draft
    rcases fetched : fetchAny options parameter path fresh with ⟨causes | count, filled⟩
    · rw [fetched] at fills
      have stops := orElseUndo_of_error (discard path) fetched
      exact .inl ⟨_, _, (bind_ok _ creates).trans (bind_error _ stops), restored_discard fills.deleted⟩
    · rw [fetched] at fills counts
      obtain ⟨told, disk, -, names, rest⟩ := downloadFresh_fetched creates fetched
      have named : Temporary before told path := (temporary.later counts).of_names_eq names
      have draft : Draft before.disk path parent name told.disk := by
        rw [disk]
        exact fills
      exact tidy_of_draft named draft rest

/-- ASYNC has written its batch file, but the program to read it does not start. -/
structure Stranded (operation : Operation) (task : Task) (before : Machine) : Prop where
  starts : operation = .async
  family : task.facts.family = .win
  unread : ∃ path made error, writeBatch task.parameter before = (.ok path, made) ∧
    (launch "cmd" ["/C", "start", "/B", path] [] made).1 = .error error

/-- What may remain after a success: what the frame is to delete; nothing, as no name was used; nothing
of a batch file whose program has ended, unless the program made something else of its path; a batch
file that a started program may still be reading. -/
inductive Remains (operation : Operation) (task : Task) (before after : Machine) (frame : Frame) :
    Prop where
  | owned {resolved : String} (owes : frame.cleanup = some ⟨.delete, resolved⟩)
    (only : ∀ path, Leftover before after path → after.disk.canonical path = .ok resolved) :
    Remains operation task before after frame
  | unnamed (same : after.names = before.names) : Remains operation task before after frame
  | deleted {path : String} {made ended : Machine} {captured : Captured}
    (runs : operation = .command) (family : task.facts.family = .win)
    (wrote : writeBatch task.parameter before = (.ok path, made))
    (ran : runProcess ["cmd", "/C", path] none made = (.ok captured, ended))
    (gone : ∀ parent name, ended.disk.locateEntry path = .ok (parent, some name) →
      ended.disk.get? (parent ++ [name]) ≠ some .dir → after.disk.get? (parent ++ [name]) = none) :
    Remains operation task before after frame
  | awaited {path : String} {made : Machine} {finished : Finished}
    (starts : operation = .async) (family : task.facts.family = .win)
    (wrote : writeBatch task.parameter before = (.ok path, made))
    (started : (launch "cmd" ["/C", "start", "/B", path] [] made).1 = .ok finished) :
    Remains operation task before after frame

/-- After a failure something temporary is left exactly if a batch file is stranded, and unless a program
was started the disk is what it was before. -/
def Accounted (operation : Operation) (task : Task) (before : Machine) :
    Except Failure Frame → Machine → Prop
  | .error _, after =>
    ((∃ path, Leftover before after path) ↔ Stranded operation task before) ∧
      (operation = .async ∨ Restored before.disk after.disk)
  | .ok frame, after => Remains operation task before after frame

variable {runtime : Runtime Machine} {exec : Step → Session Machine → Outcome Machine Fault Unit}
  {session : Session Machine} {operation : Operation} {task : Task} {failure : Failure}

theorem accounted_of_restored (waits : operation ≠ .async)
    (restored : Restored before.disk after.disk) :
    Accounted operation task before (.error failure) after := by
  refine ⟨⟨?_, fun stranded => absurd stranded.starts waits⟩, .inr restored⟩
  rintro ⟨path, leftover⟩
  exact absurd restored leftover.not_restored

theorem accounted_of_tidy {work : Machine.Work String} (tidy : Tidy work session.world)
    (waits : operation ≠ .async) :
    ∃ outcome after, runtime.runHandling exec ((onMachine work).bind fun path =>
        .done (ownedPath path)) session = some (outcome, after) ∧
      Accounted operation task session.world outcome after.world := by
  rcases tidy with ⟨causes, after, failed, restored⟩ | ⟨resolved, after, went, owned⟩
  · exact ⟨_, _, Runtime.onMachine_of_error failed, accounted_of_restored waits restored⟩
  · exact ⟨_, _, Runtime.onMachine_of_ok went,
      .owned rfl fun path leftover => owned.canonical_eq leftover⟩

theorem accounted_command (inert : Inert session.world.launcher) :
    ∃ outcome after, runtime.runHandling exec (command task) session = some (outcome, after) ∧
      Accounted .command task session.world outcome after.world := by
  by_cases win : task.facts.family = .win
  · have work : command task = (onMachine (within "error executing the command"
        (runBatchScript task.parameter))).bind fun captured => .done (outputFrame captured) := by
      rw [command, win]
    rw [work]
    rcases ran : runBatchScript task.parameter session.world with ⟨causes | captured, after⟩
    · exact ⟨_, _, Runtime.onMachine_of_error (within_of_error _ ran),
        accounted_of_restored (by decide) (runBatchScript_error inert ran)⟩
    · obtain ⟨path, made, ended, wrote, finished, rfl⟩ := runBatchScript_ok ran
      refine ⟨_, _, Runtime.onMachine_of_ok (within_of_ok _ ran), .deleted rfl win wrote finished ?_⟩
      intro parent name located single
      rw [discard_eq]
      exact (locateEntry_eq_ok_iff.mp located).deleted (writeBatch_ok wrote).bare single
  · have work : command task = (onMachine (within "error executing the command"
        (runBashScript task.parameter))).bind fun captured => .done (outputFrame captured) := by
      unfold command
      split
      · contradiction
      · rfl
    rw [work]
    have counts := runProcess_names ["bash", "-s", "-e"] (some (Text.encode task.parameter))
      session.world
    rcases ran : runBashScript task.parameter session.world with ⟨causes | captured, after⟩
    · have same := runProcess_error inert ran
      exact ⟨_, _, Runtime.onMachine_of_error (within_of_error _ ran),
        accounted_of_restored (by decide) (restored_of_eq same)⟩
    · rw [runBashScript] at ran
      rw [ran] at counts
      exact ⟨_, _, Runtime.onMachine_of_ok (within_of_ok _ ran), .unnamed counts⟩

theorem accounted_async (inert : Inert session.world.launcher) :
    ∃ outcome after, runtime.runHandling exec (async task) session = some (outcome, after) ∧
      Accounted .async task session.world outcome after.world := by
  by_cases win : task.facts.family = .win
  · have work : async task = (onMachine (within "can't run command async"
        (startBatch task.parameter))).bind fun _ => .done (.ofValue "") := by
      rw [async, win]
    rw [work]
    rcases ran : startBatch task.parameter session.world with ⟨causes | done, after⟩
    · refine ⟨_, _, Runtime.onMachine_of_error (within_of_error _ ran), ?_, .inl rfl⟩
      rcases startBatch_error inert ran with ⟨⟨others, refused, unwritten⟩, restored⟩ |
        ⟨path, made, parent, name, error, wrote, unread, temporary, draft⟩
      · constructor
        · rintro ⟨path, leftover⟩
          exact absurd restored leftover.not_restored
        · rintro ⟨-, -, path, made, error, wrote, -⟩
          rw [unwritten] at wrote
          cases wrote
      · exact ⟨fun _ => ⟨rfl, win, path, made, error, wrote, unread⟩,
          fun _ => ⟨path, leftover_of_draft temporary draft⟩⟩
    · obtain ⟨path, made, finished, wrote, started⟩ := startBatch_ok ran
      exact ⟨_, _, Runtime.onMachine_of_ok (within_of_ok _ ran), .awaited rfl win wrote started⟩
  · have work : async task = (onMachine (within "can't run command async"
        (startBash task.parameter))).bind fun _ => .done (.ofValue "") := by
      unfold async
      split
      · contradiction
      · rfl
    rw [work]
    have counts := startBash_names task.parameter session.world
    rcases ran : startBash task.parameter session.world with ⟨causes | done, after⟩
    · rw [ran] at counts
      refine ⟨_, _, Runtime.onMachine_of_error (within_of_error _ ran), ⟨?_, ?_⟩, .inl rfl⟩
      · rintro ⟨path, leftover⟩
        exact absurd counts (Nat.ne_of_gt leftover.names_lt)
      · exact fun stranded => absurd stranded.family win
    · rw [ran] at counts
      exact ⟨_, _, Runtime.onMachine_of_ok (within_of_ok _ ran), .unnamed counts⟩

end Handlers

/-- Handlers that make something temporary leave nothing of it behind when they fail, unless a batch file
is stranded. -/
theorem Registry.builtin_accounts {config : Config} {quiet : Bool} {operation : Operation}
    {handler : Handler Machine} (found : builtin? config quiet operation = some handler)
    (makes : operation ∈ [.download, .toFile, .unzip, .command, .async]) (task : Task)
    (runtime : Runtime Machine) (exec : Step → Session Machine → Outcome Machine Fault Unit)
    (session : Session Machine) (tree : session.world.disk.Tree)
    (inert : Inert session.world.launcher) :
    ∃ outcome after, runtime.runHandling exec (handler task) session = some (outcome, after) ∧
      Handlers.Accounted operation task session.world outcome after.world := by
  simp only [List.mem_cons, List.not_mem_nil, or_false] at makes
  rcases makes with rfl | rfl | rfl | rfl | rfl <;> cases found
  · rw [Handlers.download_eq]
    exact Handlers.accounted_of_tidy (Handlers.tidy_downloadFresh _ task.parameter _) (by decide)
  · rw [Handlers.toFile_eq]
    exact Handlers.accounted_of_tidy (Handlers.tidy_writeFresh task.parameter _) (by decide)
  · rw [Handlers.unzip_eq]
    exact Handlers.accounted_of_tidy (Handlers.tidy_unpackFresh tree task.parameter) (by decide)
  · exact Handlers.accounted_command inert
  · exact Handlers.accounted_async inert

namespace Handlers

/-- A machine with a directory for temporary files, on which no program starts. -/
def idle : Machine where
  disk := { entries := [(["tmp"], .dir)] }
  launcher _ disk := (.error .notFound, disk)

/-- A script for a machine of the kind that needs batch files. -/
def greeting : Task where
  parameter := "echo hi"
  software := {}
  facts := { family := .win, arch := .x86_64, id := ⟨0⟩ }
  constants := Runtime.onMac.constants

theorem tree_idle : idle.disk.Tree :=
  tree_of_flat (by simp [idle])

theorem inert_idle : Inert idle.launcher := by
  intro launch disk error after failed
  cases failed
  rfl

theorem writeBatch_idle : ∃ disk parent name, writeBatch greeting.parameter idle =
      (.ok "/tmp/recipe-AAAAAA.bat", { idle with names := 1, disk }) ∧
    Temporary idle { idle with names := 1, disk } "/tmp/recipe-AAAAAA.bat" ∧
    Draft idle.disk "/tmp/recipe-AAAAAA.bat" parent name disk := by
  have spelled : idle.temporaryPath ("recipe-" ++ randomPart idle.names ++ ".bat") =
      "/tmp/recipe-AAAAAA.bat" := by decide +kernel
  have enters : idle.disk.EntersAt "/tmp/recipe-AAAAAA.bat" ["tmp"] "recipe-AAAAAA.bat" :=
    entersAt_absolute (by decide +kernel) (by decide +kernel) (by decide +kernel)
      ⟨by decide, by decide, by decide⟩ ⟨by decide, by decide, by decide⟩ (by decide +kernel)
  have made := enters.createNew (by decide +kernel) (by decide +kernel)
  exact writeBatch_of_created greeting.parameter (spelled ▸ enter_of_ok (spelled.symm ▸ made))

theorem runBatchScript_idle : ∃ causes after,
    runBatchScript greeting.parameter idle = (.error causes, after) := by
  obtain ⟨disk, parent, name, wrote, -⟩ := writeBatch_idle
  have refused : launch "cmd" ["/C", "/tmp/recipe-AAAAAA.bat"] [] { idle with names := 1, disk } =
      (.error .notFound, { idle with names := 1, disk }) := rfl
  have fails : runProcess ["cmd", "/C", "/tmp/recipe-AAAAAA.bat"] none
      { idle with names := 1, disk } = (.error _, _) := runProcess_of_error refused
  rw [runBatchScript, bind_ok _ wrote, bind_error _ (orElseUndo_of_error _ fails)]
  exact ⟨_, _, rfl⟩

/-- The batch file that COMMAND has made for its program goes with the failure. -/
theorem builtin_accounts_idle : ∃ failure after,
    Runtime.onMac.runHandling (fun _ _ => none) (command greeting) ⟨[], [], [], idle⟩ =
        some (.error failure, after) ∧
      (¬ ∃ path, Leftover idle after.world path) ∧ idle.disk.Restored after.world.disk := by
  have found : Registry.builtin? {} true .command = some command := rfl
  obtain ⟨outcome, after, ran, accounts⟩ := Registry.builtin_accounts found (by decide) greeting
    Runtime.onMac (fun _ _ => none) ⟨[], [], [], idle⟩ tree_idle inert_idle
  obtain ⟨causes, later, batch⟩ := runBatchScript_idle
  have fails : Runtime.onMac.runHandling (fun _ _ => none) (command greeting) ⟨[], [], [], idle⟩ =
      some (.error (.plain ("error executing the command" :: causes)), ⟨[], [], [], later⟩) :=
    Runtime.onMachine_of_error (within_of_error _ batch)
  cases fails.symm.trans ran
  obtain ⟨stranded, restored⟩ := accounts
  refine ⟨_, _, fails, fun leftover => ?_, restored.resolve_left (by decide)⟩
  exact absurd (stranded.mp leftover).starts (by decide)

/-- The batch file of ASYNC stays, although no program has been started that could read it. -/
theorem batch_file_stranded : Registry.builtin? {} true .async = some async ∧
    ∃ failure after, Runtime.onMac.runHandling (fun _ _ => none) (async greeting)
        ⟨[], [], [], idle⟩ = some (.error failure, after) ∧
      Leftover idle after.world "/tmp/recipe-AAAAAA.bat" := by
  obtain ⟨disk, parent, name, wrote, temporary, draft⟩ := writeBatch_idle
  have refused : launch "cmd" ["/C", "start", "/B", "/tmp/recipe-AAAAAA.bat"] []
      { idle with names := 1, disk } = (.error .notFound, { idle with names := 1, disk }) := rfl
  have fails := within_of_error "can't run command async" (startBatch_of_error wrote refused)
  exact ⟨rfl, _, _, Runtime.onMachine_of_error fails, leftover_of_draft temporary draft⟩

end Handlers

end Provision
