import Provision.Proofs.Disk.Ending
import Provision.Proofs.Handlers.Failing

/-! Downloads that are tried again. All attempts fill one file, and each that gets an answer empties it
first; so it holds the body of the last answer, and that is a complete one if any was. -/

namespace Provision

open Machine Working Disk

theorem Machine.Temporary.absolute {before after : Machine} {path : String}
    (temporary : Temporary before after path) : PathText.isAbsolute path = true := by
  obtain ⟨front, number, back, ahead, behind, -, -, rfl⟩ := temporary
  have plain := plain_temporary ahead behind number
  rw [temporaryPath,
    (PathText.pieces_join (join_ne_empty (pathOf_ne_empty _)) (isAbsolute_of_plain plain)).2]
  cases absolute : PathText.isAbsolute before.temporaryDirectory with
  | true => rw [PathText.join, if_pos absolute, absolute]
  | false => rw [(PathText.pieces_join (pathOf_ne_empty _) absolute).2, pathOf_absolute]

namespace Network

variable {network : Network} {address : String}

/-- The network after so many downloads of one address. -/
def asked (network : Network) (address : String) : Nat → Network
  | 0 => network
  | count + 1 => asked (network.send "GET" address "" []).2 address count

/-- What the next download comes to: a complete answer, or the causes of a failure. -/
def offer (network : Network) (address : String) : Except (List String) Response :=
  match (network.send "GET" address "" []).1 with
  | .error error => .error ["download failed: " ++ error.message]
  | .ok response =>
    if response.missing != 0 then .error ["read error", bodyCutShort] else .ok response

/-- What a download comes to that follows so many others. -/
def attempt (network : Network) (address : String) (earlier : Nat) :
    Except (List String) Response :=
  (network.asked address earlier).offer address

theorem known_scheme {url : Url} (known : url.scheme = "http" ∨ url.scheme = "https") :
    ¬ (url.scheme != "http" && url.scheme != "https") = true := by
  rcases known with http | https
  · simp [http]
  · simp [https]

theorem send_requests {url : Url} (parsed : Url.parse address = .ok url)
    (known : url.scheme = "http" ∨ url.scheme = "https") (reachable : network.reachable = true) :
    (network.send "GET" address "" []).2.requests =
        { method := "GET", target := url.target } :: network.requests ∧
      (network.send "GET" address "" []).2.reachable = true := by
  simp only [send, parsed, if_neg (known_scheme known), reachable, Bool.not_true, Bool.false_eq_true, if_false]
  split <;> exact ⟨rfl, rfl⟩

/-- The record shows each of them. Induction on how many there are. -/
theorem asked_requests {url : Url} (parsed : Url.parse address = .ok url)
    (known : url.scheme = "http" ∨ url.scheme = "https") (reachable : network.reachable = true)
    (count : Nat) :
    (network.asked address count).requests =
      List.replicate count { method := "GET", target := url.target } ++ network.requests := by
  induction count generalizing network with
  | zero => rfl
  | succ count ih =>
    obtain ⟨requests, still⟩ := send_requests parsed known reachable
    rw [asked, ih still, requests, List.replicate_succ', List.append_assoc]
    rfl

/-- What an answer comes to. -/
def verdict (url : Url) (response : Response) : Except (List String) Response :=
  if 400 ≤ response.status then
    .error ["download failed: " ++ (HttpError.status url response.status).message]
  else if response.missing != 0 then .error ["read error", bodyCutShort]
  else .ok response

/-- A host that has these answers for one file. -/
def scripted (url : Url) (responses : List Response) (requests : List Request) : Network where
  routes := [{ method := "GET", target := url.target, responses }]
  requests

theorem send_scripted {url : Url} (parsed : Url.parse address = .ok url)
    (known : url.scheme = "http" ∨ url.scheme = "https") (response : Response) (rest : List Response)
    (requests : List Request) :
    (scripted url (response :: rest) requests).send "GET" address "" [] =
      (if 400 ≤ response.status then .error (.status url response.status) else .ok response,
        scripted url (if rest.isEmpty then [response] else rest)
          ({ method := "GET", target := url.target } :: requests)) := by
  cases rest
  all_goals
    simp only [send, parsed, if_neg (known_scheme known), scripted, answer, BEq.rfl, Bool.and_self,
      if_true, Bool.not_true, Bool.false_eq_true, if_false, Option.getD_some]
    split <;> rfl

/-- Attempts can come to anything, in any order. Induction on how many came before. -/
theorem attempt_scripted {url : Url} (parsed : Url.parse address = .ok url)
    (known : url.scheme = "http" ∨ url.scheme = "https") {responses : List Response} {earlier : Nat}
    {response : Response} (found : responses[earlier]? = some response) (requests : List Request) :
    (scripted url responses requests).attempt address earlier = verdict url response := by
  induction earlier generalizing responses requests with
  | zero =>
    cases responses with
    | nil => cases found
    | cons first rest =>
      cases found
      rw [attempt, asked, offer, send_scripted parsed known, verdict]
      by_cases refused : 400 ≤ response.status
      · rw [if_pos refused, if_pos refused]
      · rw [if_neg refused, if_neg refused]
  | succ earlier ih =>
    cases responses with
    | nil => cases found
    | cons first rest =>
      rw [List.getElem?_cons_succ] at found
      have more : rest.isEmpty = false := by
        cases rest with
        | nil => cases found
        | cons => rfl
      rw [attempt, asked, send_scripted parsed known, more]
      exact ih found _

/-- The attempt that is made last if so many may follow the first. -/
structure Decides (network : Network) (address : String) (more earlier : Nat) : Prop where
  allowed : earlier ≤ more
  failed : ∀ sooner < earlier, ∃ causes, network.attempt address sooner = .error causes
  complete : earlier < more → ∃ response, network.attempt address earlier = .ok response

namespace Decides

variable {more earlier : Nat} (decides : network.Decides address more earlier)
include decides

/-- It is the first complete one. -/
theorem eq_of_ok {first : Nat} {response : Response} (within : first ≤ more)
    (complete : network.attempt address first = .ok response)
    (failed : ∀ sooner < first, ∃ causes, network.attempt address sooner = .error causes) :
    earlier = first := by
  rcases Nat.lt_trichotomy earlier first with less | same | greater
  · obtain ⟨causes, fails⟩ := failed earlier less
    obtain ⟨other, succeeds⟩ := decides.complete (Nat.lt_of_lt_of_le less within)
    rw [fails] at succeeds
    cases succeeds
  · exact same
  · obtain ⟨causes, fails⟩ := decides.failed first greater
    rw [fails] at complete
    cases complete

/-- It is the last one that is allowed if none is complete. -/
theorem eq_of_error
    (failed : ∀ sooner ≤ more, ∃ causes, network.attempt address sooner = .error causes) :
    earlier = more := by
  rcases Nat.lt_or_eq_of_le decides.allowed with less | same
  · obtain ⟨causes, fails⟩ := failed earlier decides.allowed
    obtain ⟨response, succeeds⟩ := decides.complete less
    rw [fails] at succeeds
    cases succeeds
  · exact same

end Decides

end Network

namespace Handlers

variable {disk : Disk} {path name address : String} {parent : Location} {middle fresh : Machine}
  {bytes : Bytes}

/-- Pieces are added one behind the other. Induction on the pieces. -/
theorem fill_eq (filled : Filled disk path parent name bytes middle.disk) (chunks : List Bytes) :
    ∃ later, (forIn chunks PUnit.unit fun chunk _ => do
          onDisk (attempt "write error" fun disk => disk.append path chunk)
          pure (.yield PUnit.unit) : Machine.Work PUnit) middle =
        (.ok PUnit.unit, { middle with disk := later }) ∧
      Filled disk path parent name (bytes ++ chunks.flatten) later := by
  induction chunks generalizing middle bytes with
  | nil => exact ⟨middle.disk, rfl, by simpa using filled⟩
  | cons chunk chunks ih =>
    obtain ⟨added, went, still⟩ := filled.append chunk
    have adds : onDisk (attempt "write error" fun disk => disk.append path chunk) middle =
        (.ok (), { middle with disk := added }) := onDisk_attempt _ went
    have now : Filled disk path parent name (bytes ++ chunk) { middle with disk := added }.disk := still
    obtain ⟨later, rest, whole⟩ := ih now
    refine ⟨later, ?_, by simpa using whole⟩
    rw [List.forIn_cons, bind_ok _ ((bind_ok _ adds).trans rfl)]
    exact rest

/-- One attempt does what the network has to offer. -/
theorem fetch_eq (draft : Draft disk path parent name middle.disk) :
    ∃ later, fetch address path middle =
        ((middle.network.offer address).map fun response => response.body.length,
          { middle with network := (middle.network.send "GET" address "" []).2, disk := later }) ∧
      Draft disk path parent name later ∧
      ∀ response, middle.network.offer address = .ok response →
        Filled disk path parent name response.body later := by
  rcases answer : (middle.network.send "GET" address "" []).1 with error | response
  · have offers : middle.network.offer address = .error ["download failed: " ++ error.message] := by
      rw [Network.offer, answer]
    refine ⟨middle.disk, ?_, draft, ?_⟩
    · rw [fetch, bind_ok _ (request_eq "GET" address "" [] middle), answer, offers]
      rfl
    · rw [offers]
      nofun
  · have offers : middle.network.offer address =
        if response.missing != 0 then .error ["read error", Network.bodyCutShort] else .ok response := by
      rw [Network.offer, answer]
    obtain ⟨emptied, wrote, empty⟩ := draft.write [] false
    let asking : Machine := { middle with
      network := (middle.network.send "GET" address "" []).2 }
    have empties : onDisk (attempt ("cannot create file " ++ path) fun disk => disk.write path [])
        asking = (.ok (), { asking with disk := emptied }) := onDisk_attempt _ wrote
    have now : Filled disk path parent name [] { asking with disk := emptied }.disk := empty
    obtain ⟨later, fills, whole⟩ := fill_eq now response.chunks
    have body : Filled disk path parent name response.body later := whole
    refine ⟨later, ?_, body.toDraft, fun other same => ?_⟩
    · rw [fetch, bind_ok _ (request_eq "GET" address "" [] middle), answer]
      simp only
      rw [bind_ok _ empties, bind_ok _ fills, offers]
      split <;> rfl
    · rw [offers] at same
      split at same
      · cases same
      · cases same
        exact body

/-- The decisive attempt is all that counts. Induction on how many attempts may follow. -/
theorem fetchRepeatedly_eq (draft : Draft disk path parent name middle.disk) (more : Nat) :
    ∃ earlier later, middle.network.Decides address more earlier ∧
      fetchRepeatedly address path more middle =
        ((middle.network.attempt address earlier).map fun response => response.body.length,
          { middle with network := middle.network.asked address (earlier + 1), disk := later }) ∧
      Draft disk path parent name later ∧
      ∀ response, middle.network.attempt address earlier = .ok response →
        Filled disk path parent name response.body later := by
  induction more generalizing middle with
  | zero =>
    obtain ⟨later, once, still, filled⟩ := @fetch_eq disk path name address parent middle draft
    exact ⟨0, later, ⟨Nat.le_refl 0, nofun, nofun⟩, once, still, filled⟩
  | succ more ih =>
    obtain ⟨later, once, still, filled⟩ := @fetch_eq disk path name address parent middle draft
    rcases first : middle.network.offer address with causes | response
    · rw [first] at once
      let next : Machine := { middle with
        network := (middle.network.send "GET" address "" []).2, disk := later }
      have now : Draft disk path parent name next.disk := still
      obtain ⟨earlier, last, decides, again, rest⟩ := ih now
      refine ⟨earlier + 1, last, ⟨Nat.succ_le_succ decides.allowed, ?_, ?_⟩, ?_, rest⟩
      · intro sooner less
        cases sooner with
        | zero => exact ⟨causes, first⟩
        | succ sooner => exact decides.failed sooner (Nat.lt_of_succ_lt_succ less)
      · exact fun less => decides.complete (Nat.lt_of_succ_lt_succ less)
      · rw [fetchRepeatedly, tryCatch_error _ once]
        exact again
    · refine ⟨0, later, ⟨Nat.zero_le _, nofun, fun _ => ⟨response, first⟩⟩, ?_, still, filled⟩
      rw [first] at once
      rw [fetchRepeatedly, tryCatch_ok _ once, Network.attempt, Network.asked, first]
      rfl

variable {options : Fetching} {parameter : String} {before after : Machine}

/-- How DOWNLOAD reports the causes of the last failure. -/
def exhausted (options : Fetching) (parameter : String) (causes : List String) : List String :=
  ["exception during download of " ++ options.mirror.downloadUrl parameter ++ ": " ++ joinCauses causes]

/-- What is left of a download whose decisive attempt came to this. -/
inductive Downloaded (options : Fetching) (parameter : String) (before : Machine) (path name : String)
    (parent : Location) : Except (List String) Response → Except (List String) String → Machine →
      Prop where
  | complete {response : Response} {after : Machine}
    (filled : Filled before.disk path parent name response.body after.disk) :
    Downloaded options parameter before path name parent (.ok response)
      (.ok (pathOf (parent ++ [name]))) after
  | failed {causes : List String} {after : Machine} (restored : Restored before.disk after.disk) :
    Downloaded options parameter before path name parent (.error causes)
      (.error (exhausted options parameter causes)) after

theorem Downloaded.lands {attempt : Except (List String) Response} {resolved : String}
    (downloaded : Downloaded options parameter before path name parent attempt (.ok resolved) after) :
    resolved = pathOf (parent ++ [name]) ∧ ∃ id bytes executable,
      after.disk.get? (parent ++ [name]) = some (.file id bytes executable) := by
  cases downloaded with
  | complete filled => exact ⟨rfl, filled.file⟩

/-- Once the file is there, everything hangs on the decisive attempt. -/
theorem downloadFresh_eq (draft : Draft before.disk path parent name fresh.disk)
    (created : temporaryFile "recipe-" ("-" ++ FileName.ofUrl parameter) before = (.ok path, fresh)) :
    ∃ earlier outcome after,
      fresh.network.Decides (options.mirror.downloadUrl parameter) (options.attempts - 1) earlier ∧
      downloadFresh options parameter before = (outcome, after) ∧
      after.network = fresh.network.asked (options.mirror.downloadUrl parameter) (earlier + 1) ∧
      Downloaded options parameter before path name parent
        (fresh.network.attempt (options.mirror.downloadUrl parameter) earlier) outcome after := by
  have creates := within_of_ok "cannot create temporary file" created
  obtain ⟨earlier, later, decides, repeats, still, filled⟩ :=
    @fetchRepeatedly_eq _ _ _ (options.mirror.downloadUrl parameter) _ _ draft (options.attempts - 1)
  rcases last : fresh.network.attempt (options.mirror.downloadUrl parameter) earlier with
    causes | response
  · rw [last] at repeats
    have fails : fetchAny options parameter path fresh =
        (.error (exhausted options parameter causes), _) := tryCatch_error _ repeats
    have stops := orElseUndo_of_error (discard path) fails
    refine ⟨earlier, _, _, decides, (bind_ok _ creates).trans (bind_error _ stops), ?_, ?_⟩
    · rw [discard_eq]
    · rw [last]
      exact .failed (restored_discard still.deleted)
  · rw [last] at repeats
    have fetches : fetchAny options parameter path fresh = (.ok response.body.length, _) :=
      tryCatch_ok _ repeats
    obtain ⟨told, disk, network, -, rest⟩ := downloadFresh_fetched creates fetches
    have body : Filled before.disk path parent name response.body told.disk := by
      rw [disk]
      exact filled response last
    have asked : told.network =
        fresh.network.asked (options.mirror.downloadUrl parameter) (earlier + 1) := by
      rw [network]
    obtain ⟨finished, finishes, whole⟩ := finish_eq body
    refine ⟨earlier, _, { told with disk := finished }, decides, rest.trans finishes, asked, ?_⟩
    rw [last]
    exact .complete whole

variable {runtime : Runtime Machine} {exec : Step → Session Machine → Outcome Machine Fault Unit}
  {session : Session Machine} {task : Task}

/-- Where a tool can be fetched. -/
def toolUrl : Url where
  scheme := "http"
  userinfo := ""
  host := .ipv6 [0, 0, 0, 0, 0, 0, 0, 1]
  port := none
  path := "/tool.exe"
  query := none
  fragment := none

/-- A host breaks off and then sends the whole file, which is shorter than what it sent before. -/
def unsteady : List Response := [⟨200, [[1, 2], [3]], 4⟩, ⟨200, [[7]], 0⟩]

/-- A machine that can reach this host. -/
def connected : Machine where
  disk := { entries := [(["tmp"], .dir)] }
  launcher _ disk := (.error .notFound, disk)
  network := Network.scripted toolUrl unsteady []

/-- The tool as a step asks for it. -/
def tooling : Task := { greeting with parameter := "http://[::1]/tool.exe" }

/-- The file for the tool can be made. -/
theorem exists_tool : ∃ path fresh, temporaryFile "recipe-"
    ("-" ++ FileName.ofUrl tooling.parameter) connected = (.ok path, fresh) := by
  have name : FileName.ofUrl tooling.parameter = "tool.exe" := by decide +kernel
  have spelled : connected.temporaryPath ("recipe-" ++ randomPart connected.names ++ "-tool.exe") =
      "/tmp/recipe-AAAAAA-tool.exe" := by decide +kernel
  have enters : connected.disk.EntersAt "/tmp/recipe-AAAAAA-tool.exe" ["tmp"] "recipe-AAAAAA-tool.exe" :=
    entersAt_absolute (by decide +kernel) (by decide +kernel) (by decide +kernel)
      ⟨by decide, by decide, by decide⟩ ⟨by decide, by decide, by decide⟩ (by decide +kernel)
  have made := enters.createNew (by decide +kernel) (by decide +kernel)
  rw [name]
  exact ⟨_, _, enter_of_ok (spelled.symm ▸ made)⟩

/-- What is entered under a temporary name is entered where the directory for temporary files is. -/
theorem locate_temporaryDirectory {machine : Machine} {leaf entered : String} {parent : Location}
    (plain : Plain leaf) (enters : machine.disk.EntersAt (machine.temporaryPath leaf) parent entered) :
    entered = leaf ∧ machine.disk.locate true
      (PathText.join (pathOf machine.disk.cwd) machine.temporaryDirectory) = .ok parent := by
  obtain ⟨valid, -, front, left, pieces, through⟩ := enters
  have relative := isAbsolute_of_plain plain
  have nonempty : PathText.join (pathOf machine.disk.cwd) machine.temporaryDirectory ≠ "" :=
    join_ne_empty (pathOf_ne_empty _)
  have inside : checkPath (PathText.join (pathOf machine.disk.cwd) machine.temporaryDirectory) = .ok () :=
    checkPath_of_prefix nonempty (PathText.prefix_join nonempty relative) valid
  obtain ⟨spelled, start⟩ := PathText.pieces_join nonempty relative
  rw [temporaryPath] at pieces through
  rw [spelled, pieces_single plain.nonempty plain.single] at pieces
  obtain ⟨rfl, same⟩ := List.append_inj' pieces rfl
  have begins : machine.disk.startOf (PathText.join (PathText.join (pathOf machine.disk.cwd)
      machine.temporaryDirectory) leaf) = machine.disk.startOf (PathText.join
        (pathOf machine.disk.cwd) machine.temporaryDirectory) := by
    rw [startOf, startOf, start]
  rw [begins] at through
  refine ⟨(List.singleton_inj.mp same).symm, ?_⟩
  simp only [locate, inside, traced, bind, Except.bind]
  rw [through.walk_append (.inr rfl)]
  split
  · rw [walk_stay, walk]
  · rw [walk]

/-- The leaf of a download's file. -/
def leafOf (parameter : String) (number : Nat) : String :=
  "recipe-" ++ randomPart number ++ ("-" ++ FileName.ofUrl parameter)

theorem plain_leafOf (parameter : String) (number : Nat) : Plain (leafOf parameter number) := by
  refine plain_temporary (by decide) ?_ number
  simp [FileName.slash_not_mem_ofUrl]

theorem persistentFile_lands {path : String} {fresh : Machine}
    (created : persistentFile ("-" ++ FileName.ofUrl parameter) before = (.ok path, fresh)) :
    ∃ directory number, before.disk.locate true
        (PathText.join (pathOf before.disk.cwd) before.temporaryDirectory) = .ok directory ∧
      before.disk.get? (directory ++ [leafOf parameter number]) = none ∧
      fresh.disk = before.disk.addFile (directory ++ [leafOf parameter number]) [] false := by
  have entered := entered_temporaryFile "recipe-" ("-" ++ FileName.ofUrl parameter) before
  rw [within_ok created] at entered
  cases entered with
  | @made number disk unused made =>
    obtain ⟨directory, name, located, free, rfl⟩ := createNew_ok made
    obtain ⟨rfl, leads⟩ :=
      locate_temporaryDirectory (plain_leafOf parameter number) (locateEntry_eq_ok_iff.mp located)
    exact ⟨directory, number, leads, free, rfl⟩

theorem download_lands {frame : Frame} {later : Session Machine}
    (went : runtime.runHandling exec (download options task) session = some (.ok frame, later)) :
    ∃ directory number, session.world.disk.locate true
        (PathText.join (pathOf session.world.disk.cwd) session.world.temporaryDirectory) = .ok directory ∧
      frame = ownedPath (pathOf (directory ++ [leafOf task.parameter number])) ∧
      ∃ id bytes executable, later.world.disk.get? (directory ++ [leafOf task.parameter number]) =
        some (.file id bytes executable) := by
  rw [download_eq] at went
  rcases done : downloadFresh options task.parameter session.world with ⟨causes | resolved, after⟩
  · rw [Runtime.onMachine_of_error done] at went
    cases went
  rw [Runtime.onMachine_of_ok done] at went
  cases went
  obtain ⟨path, fresh, created, -⟩ := of_bind_ok done
  have enters := entered_temporaryFile "recipe-" ("-" ++ FileName.ofUrl task.parameter) session.world
  have made := within_ok created
  rw [made] at enters
  have single : '/' ∉ ("-" ++ FileName.ofUrl task.parameter).toList := by
    simp [FileName.slash_not_mem_ofUrl]
  obtain ⟨parent, name, draft⟩ := enters.draft (by decide) single
  obtain ⟨earlier, outcome, machine, -, ran, -, downloaded⟩ :=
    @downloadFresh_eq _ _ _ _ options _ _ draft made
  rw [done] at ran
  cases ran
  cases enters with
  | @made number disk unused created =>
    obtain ⟨rfl, leads⟩ := locate_temporaryDirectory (plain_leafOf task.parameter number) draft.enters
    obtain ⟨rfl, file⟩ := downloaded.lands
    exact ⟨parent, number, leads, rfl, file⟩

/-- A suffix without slashes never makes a piece of its own. -/
theorem pieces_suffix {suffix : String} (nonempty : suffix ≠ "") (single : '/' ∉ suffix.toList)
    (front : String) :
    ∃ above last, PathText.pieces (front ++ suffix) = above ++ [last ++ suffix] := by
  by_cases slash : '/' ∈ front.toList
  · obtain ⟨last, above, ends, bare⟩ := List.eq_append_cons_of_mem (List.mem_reverse.mpr slash)
    have spelled : front ++ suffix = String.ofList
        (above.reverse ++ '/' :: (String.ofList last.reverse ++ suffix).toList) := by
      rw [← String.toList_inj, String.toList_append, ← List.reverse_reverse front.toList, ends]
      simp
    refine ⟨PathText.pieces (String.ofList above.reverse), String.ofList last.reverse, ?_⟩
    have alone : PathText.pieces (String.ofList last.reverse ++ suffix) =
        [String.ofList last.reverse ++ suffix] :=
      pieces_single (by simp [nonempty]) (by simp [bare, single])
    rw [spelled, pieces_slash, String.ofList_toList, alone]
  · exact ⟨[], front, pieces_single (by simp [nonempty]) (by simp [slash, single])⟩

/-- The name that DOWNLOAD takes over from an address is one that no platform refuses, does not depend on
query or fragment, and is its own name; so it ends the name of a file that is entered in the directory for
temporary files itself. -/
theorem download_name_safe (url : String) :
    FileName.ofUrl url ≠ "" ∧
    (∀ c ∈ (FileName.ofUrl url).toList, c ∉ ['/', '\\', ':', '*', '?', '"', '<', '>', '|', '#'] ∧
      ¬ (c.toNat < 0x20 ∨ 0x7F ≤ c.toNat ∧ c.toNat ≤ 0x9F)) ∧
    (FileName.ofUrl url).toList.head? ≠ some '.' ∧ (FileName.ofUrl url).toList.getLast? ≠ some '.' ∧
    (∀ tail, FileName.ofUrl (url ++ "?" ++ tail) = FileName.ofUrl url ∧
      FileName.ofUrl (url ++ "#" ++ tail) = FileName.ofUrl url) ∧
    FileName.ofUrl (FileName.ofUrl url) = FileName.ofUrl url ∧
    (∀ raw, FileName.sanitize (FileName.sanitize raw) = FileName.sanitize raw) ∧
    (∀ front, ∃ above last, PathText.pieces (front ++ ("-" ++ FileName.ofUrl url)) =
      above ++ [last ++ ("-" ++ FileName.ofUrl url)]) ∧
    (∀ before path fresh, persistentFile ("-" ++ FileName.ofUrl url) before = (.ok path, fresh) →
      ∃ directory number, before.disk.locate true
          (PathText.join (pathOf before.disk.cwd) before.temporaryDirectory) = .ok directory ∧
        before.disk.get? (directory ++ [leafOf url number]) = none ∧
        fresh.disk = before.disk.addFile (directory ++ [leafOf url number]) [] false) ∧
    (∀ runtime exec options task session frame later, task.parameter = url →
      Runtime.runHandling runtime exec (download options task) session = some (.ok frame, later) →
      ∃ directory number, session.world.disk.locate true (PathText.join (pathOf session.world.disk.cwd)
          session.world.temporaryDirectory) = .ok directory ∧
        frame = ownedPath (pathOf (directory ++ [leafOf url number])) ∧
        ∃ id bytes executable, later.world.disk.get? (directory ++ [leafOf url number]) =
          some (.file id bytes executable)) := by
  have safe := FileName.safe_ofUrlChars url.toList
  have spelled : (FileName.ofUrl url).toList = FileName.ofUrlChars url.toList := String.toList_ofList
  have single : '/' ∉ ("-" ++ FileName.ofUrl url).toList := by
    simp [FileName.slash_not_mem_ofUrl]
  refine ⟨FileName.ofUrl_ne_empty url, ?_, ?_, ?_, ?_, ?_, ?_, ?_, ?_, ?_⟩
  · intro c member
    rw [spelled] at member
    exact FileName.ofUrlChars_kept member
  · rw [spelled]
    exact safe.first
  · rw [spelled]
    exact safe.last
  · exact FileName.ofUrl_append url
  · exact FileName.ofUrl_ofUrl url
  · exact FileName.sanitize_sanitize
  · exact pieces_suffix (by simp) single
  · exact fun before path fresh created => persistentFile_lands created
  · rintro runtime exec options task session frame later rfl went
    exact download_lands went

/-- The file for the tool lands there. -/
theorem download_name_safe_tool : ∃ path fresh directory number,
    persistentFile ("-" ++ FileName.ofUrl "http://[::1]/tool.exe") connected = (.ok path, fresh) ∧
      fresh.disk = connected.disk.addFile
        (directory ++ [leafOf "http://[::1]/tool.exe" number]) [] false := by
  obtain ⟨path, fresh, created⟩ := exists_tool
  have creates := within_of_ok "cannot create temporary file" created
  obtain ⟨-, -, -, -, -, -, -, -, lands, -⟩ := download_name_safe "http://[::1]/tool.exe"
  obtain ⟨directory, number, -, -, entered⟩ := lands connected path fresh creates
  exact ⟨path, fresh, directory, number, creates, entered⟩

end Handlers

end Provision
