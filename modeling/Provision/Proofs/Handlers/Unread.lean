import Provision.Proofs.Handlers.Unpacking
import Provision.Proofs.Machine.Scripts
import Provision.Proofs.Text.Decoding

/-! Scripts that a shell does not read to their end. COMMAND takes no notice of the rest; ASYNC fails
unless the whole script got into the pipe, which is a matter of how much the shell had read. -/

namespace Provision

open Machine Working

namespace Machine

/-- Input on its way to a program: what is still to be written, what waits in the pipe, and what the
program has read. -/
structure Feed where
  unwritten : Bytes
  waiting : Bytes
  taken : Bytes

namespace Feed

/-- As long as the program runs, a piece is written for which there is room, or one is read. -/
inductive Step : Feed → Feed → Prop where
  | write (chunk rest waiting taken : Bytes) (room : (waiting ++ chunk).length ≤ pipeCapacity) :
    Step ⟨chunk ++ rest, waiting, taken⟩ ⟨rest, waiting ++ chunk, taken⟩
  | read (unwritten chunk rest taken : Bytes) :
    Step ⟨unwritten, chunk ++ rest, taken⟩ ⟨unwritten, rest, taken ++ chunk⟩

/-- One course of writing and reading, up to some moment. -/
def Reaches : Feed → Feed → Prop := Relation.ReflTransGen Step

/-- What writing comes to if the program ends now: a pipe that nobody will read from is broken. -/
def outcome (feed : Feed) : Except IoError Unit :=
  if feed.unwritten.isEmpty then .ok () else .error .brokenPipe

variable {input : Bytes} {feed : Feed} {finished : Finished}

/-- No byte is lost or overtaken, and the pipe holds no more than it can. -/
structure Sound (input : Bytes) (feed : Feed) : Prop where
  whole : feed.taken ++ feed.waiting ++ feed.unwritten = input
  fits : feed.waiting.length ≤ pipeCapacity

theorem Sound.step {next : Feed} (sound : Sound input feed) (step : Step feed next) :
    Sound input next := by
  obtain ⟨whole, fits⟩ := sound
  cases step with
  | write chunk rest waiting taken room => exact ⟨by simpa using whole, room⟩
  | read unwritten chunk rest taken =>
    refine ⟨by simpa using whole, ?_⟩
    rw [List.length_append] at fits
    exact Nat.le_trans (Nat.le_add_left _ _) fits

theorem Sound.reaches {last : Feed} (sound : Sound input feed) (reaches : feed.Reaches last) :
    Sound input last := by
  induction reaches with
  | refl => exact sound
  | tail _ step ih => exact ih.step step

theorem sound_start (input : Bytes) : Sound input ⟨input, [], []⟩ :=
  ⟨rfl, Nat.zero_le _⟩

/-- A program can read byte by byte as they are written. Induction on how many it reads. -/
theorem reaches_take {count : Nat} (within : count ≤ input.length) :
    Reaches ⟨input, [], []⟩ ⟨input.drop count, [], input.take count⟩ := by
  induction count with
  | zero => exact .refl
  | succ count ih =>
    have earlier : Reaches ⟨input, [], []⟩ _ := ih (Nat.le_of_succ_le within)
    obtain ⟨byte, rest, next⟩ : ∃ byte rest, input.drop count = byte :: rest :=
      List.exists_cons_of_ne_nil (by simpa using within)
    have found : input[count]? = some byte := by
      rw [← List.head?_drop, next]
      rfl
    have taken : input.take (count + 1) = input.take count ++ [byte] := by
      rw [List.take_add_one, found]
      rfl
    have later : input.drop (count + 1) = rest := by
      rw [← List.tail_drop, next]
      rfl
    rw [next] at earlier
    rw [taken, later]
    exact (earlier.tail (.write [byte] rest [] _ (by simp [pipeCapacity]))).tail (.read rest [byte] [] _)

/-- The input got into the pipe if that was possible at all, with so much of it read. -/
theorem written_eq_ok_iff (within : finished.taken ≤ input.length) :
    written input finished = .ok () ↔
      ∃ last : Feed, Reaches ⟨input, [], []⟩ last ∧ last.taken.length = finished.taken ∧
        last.outcome = .ok () := by
  have fits : written input finished = .ok () ↔ input.length ≤ finished.taken + pipeCapacity := by
    unfold written
    split <;> simp <;> omega
  rw [fits]
  constructor
  · intro room
    have short : (([] : Bytes) ++ input.drop finished.taken).length ≤ pipeCapacity := by
      rw [List.nil_append, List.length_drop]
      omega
    have rest := Step.write (input.drop finished.taken) [] [] (input.take finished.taken) short
    rw [List.append_nil] at rest
    exact ⟨_, (reaches_take within).tail rest, by simpa using within, rfl⟩
  · rintro ⟨last, reaches, taken, wrote⟩
    obtain ⟨whole, room⟩ := (sound_start input).reaches reaches
    have done : last.unwritten = [] := by
      unfold outcome at wrote
      split at wrote
      · exact List.isEmpty_iff.mp ‹_›
      · cases wrote
    rw [← whole, done, List.append_nil, List.length_append, taken]
    omega

end Feed

end Machine

namespace Handlers

variable {runtime : Runtime Machine} {exec : Step → Session Machine → Outcome Machine Fault Unit}
  {session : Session Machine} {task : Task} {finished : Finished} {after : Machine}

/-- What a shell's exit code and output come to. -/
def captured (finished : Finished) : Captured :=
  ⟨exitCode finished.status, Text.decodeLossy finished.out, Text.decodeLossy finished.err⟩

/-- How ASYNC fails when a part of the script does not get into the pipe. -/
def cutOff : Failure :=
  .plain ["can't run command async", "cannot write script to bash", IoError.brokenPipe.message]

theorem command_started (shell : task.facts.family ≠ .win)
    (started : launch "bash" ["-s", "-e"] (Text.encode task.parameter) session.world =
      (.ok finished, after)) :
    runtime.runHandling exec (command task) session =
      some (.ok (outputFrame (captured finished)), { session with world := after }) := by
  have work : command task = (onMachine (within "error executing the command"
      (runBashScript task.parameter))).bind fun captured => .done (outputFrame captured) := by
    unfold command
    split
    · contradiction
    · rfl
  rw [work]
  exact Runtime.onMachine_of_ok (within_of_ok _ (runProcess_of_ok started))

/-- ASYNC does what came of writing the script. -/
theorem async_started (shell : task.facts.family ≠ .win)
    (started : launch "bash" ["-s", "-e"] (Text.encode task.parameter) session.world =
      (.ok finished, after)) :
    runtime.runHandling exec (async task) session =
      some (match concludeStart (written (Text.encode task.parameter) finished) with
          | .ok () => .ok (.ofValue "")
          | .error causes => .error (.plain ("can't run command async" :: causes)),
        { session with world := after }) := by
  have work : async task = (onMachine (within "can't run command async"
      (startBash task.parameter))).bind fun _ => .done (.ofValue "") := by
    unfold async
    split
    · contradiction
    · rfl
  have starts : startBash task.parameter session.world =
      (concludeStart (written (Text.encode task.parameter) finished), after) := by
    rw [startBash, get_bind]
    simp only [started]
    rfl
  rw [work]
  rcases wrote : concludeStart (written (Text.encode task.parameter) finished) with causes | done
  · rw [wrote] at starts
    exact Runtime.onMachine_of_error (within_of_error _ starts)
  · rw [wrote] at starts
    exact Runtime.onMachine_of_ok (within_of_ok _ starts)

/-- A shell that has started may leave any part of its script unread and end with any code. COMMAND
always leaves the code and the output behind. ASYNC leaves the empty text behind if the part that was not
read is no longer than the pipe, and fails if it is longer. Whatever the course of writing and reading, no
more gets into the pipe, and COMMAND would not fail for it; ASYNC would, unless all got in. -/
theorem script_left_unread (shell : task.facts.family ≠ .win)
    (started : launch "bash" ["-s", "-e"] (Text.encode task.parameter) session.world =
      (.ok finished, after)) :
    let script := Text.encode task.parameter
    runtime.runHandling exec (command task) session =
      some (.ok (outputFrame (captured finished)), { session with world := after }) ∧
    (script.length ≤ finished.taken + pipeCapacity →
      runtime.runHandling exec (async task) session =
        some (.ok (.ofValue ""), { session with world := after })) ∧
    (finished.taken + pipeCapacity < script.length →
      runtime.runHandling exec (async task) session =
        some (.error cutOff, { session with world := after })) ∧
    (finished.taken ≤ script.length → (written script finished = .ok () ↔
      ∃ last : Feed, Feed.Reaches ⟨script, [], []⟩ last ∧ last.taken.length = finished.taken ∧
        last.outcome = .ok ())) ∧
    ∀ last : Feed, Feed.Reaches ⟨script, [], []⟩ last →
      concludeRun "bash" finished last.outcome = .ok (captured finished) ∧
      (concludeStart last.outcome = .ok () ↔ last.unwritten = []) := by
  intro script
  refine ⟨command_started shell started, fun room => ?_, fun long => ?_, Feed.written_eq_ok_iff, ?_⟩
  · rw [async_started shell started, written, if_neg (Nat.not_lt.mpr room)]
    rfl
  · rw [async_started shell started, written, if_pos long]
    rfl
  · intro last _
    unfold Feed.outcome
    cases rest : last.unwritten with
    | nil => exact ⟨rfl, iff_of_true rfl rfl⟩
    | cons byte rest => exact ⟨rfl, iff_of_false (by simp [concludeStart]) (by simp)⟩

/-- What a shell comes to that reads the first line of its script and leaves. -/
def leavingEarly : Finished where
  status := .code 3
  out := [111, 107, 10]
  err := []
  taken := 7

/-- A machine with such a shell. -/
def leaving : Machine where
  disk := {}
  launcher _ disk := (.ok leavingEarly, disk)

theorem outputFrame_leavingEarly :
    outputFrame (captured leavingEarly) = (Frame.ofValue "3").withOutput "ok\n" "" := by
  cbv

/-- A script for another machine. -/
def scripted (parameter : String) : Task where
  parameter := parameter
  software := {}
  facts := Runtime.onMac.facts
  constants := Runtime.onMac.constants

theorem script_left_unread_short :
    let task := scripted "exit 3\necho never\n"
    let session : Session Machine := ⟨[], [], [], leaving⟩
    Runtime.onMac.runHandling (fun _ _ => none) (command task) session =
      some (.ok ((Frame.ofValue "3").withOutput "ok\n" ""), session) ∧
    Runtime.onMac.runHandling (fun _ _ => none) (async task) session =
      some (.ok (.ofValue ""), session) := by
  intro task session
  have started : launch "bash" ["-s", "-e"] (Text.encode task.parameter) session.world =
      (.ok leavingEarly, leaving) := rfl
  obtain ⟨ran, runs, -⟩ := @script_left_unread Runtime.onMac (fun _ _ => none) session task _ _
    (by decide) started
  rw [outputFrame_leavingEarly] at ran
  exact ⟨ran, runs (by decide)⟩

/-- A line and a long comment behind it. -/
def commented (line : List Char) (count : Nat) : String :=
  String.ofList (line ++ List.replicate count '#')

theorem length_encode_commented (line : List Char) (count : Nat) :
    (Text.encode (commented line count)).length =
      (line.flatMap String.utf8EncodeChar).length + count := by
  have mark : (String.utf8EncodeChar '#').length = 1 := by decide
  rw [commented, Text.encode_eq_flatMap, String.toList_ofList, List.flatMap_append,
    List.length_append, List.flatMap_replicate, List.length_flatten, List.map_replicate, mark,
    List.sum_replicate_nat, Nat.mul_one]

/-- Every byte of the comment behind the first line has to get into the pipe. -/
theorem script_cut_off :
    let task := scripted (commented "exit 3\n".toList 65537)
    let session : Session Machine := ⟨[], [], [], leaving⟩
    Runtime.onMac.runHandling (fun _ _ => none) (command task) session =
      some (.ok ((Frame.ofValue "3").withOutput "ok\n" ""), session) ∧
    Runtime.onMac.runHandling (fun _ _ => none) (async task) session =
      some (.error cutOff, session) := by
  intro task session
  have started : launch "bash" ["-s", "-e"] (Text.encode task.parameter) session.world =
      (.ok leavingEarly, leaving) := rfl
  have long : leavingEarly.taken + pipeCapacity < (Text.encode task.parameter).length := by
    have line : ("exit 3\n".toList.flatMap String.utf8EncodeChar).length = 7 := by decide
    change _ < (Text.encode (commented _ 65537)).length
    rw [length_encode_commented, line]
    decide
  obtain ⟨ran, -, cut, -⟩ := @script_left_unread Runtime.onMac (fun _ _ => none) session task _ _
    (by decide) started
  rw [outputFrame_leavingEarly] at ran
  exact ⟨ran, cut long⟩

end Handlers

end Provision
