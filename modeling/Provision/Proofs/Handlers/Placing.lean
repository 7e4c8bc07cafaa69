import Provision.Proofs.Engine.Accounting
import Provision.Proofs.Engine.Balance
import Provision.Proofs.Engine.Extraction
import Provision.Proofs.Handlers.Reentry

/-! What the moves of MOVE_FF find on top of the stack. A handler that moves something has no other way
to name it, so each of the inserted steps has to be carried out on just the right stack. -/

namespace Provision

variable {σ α : Type} {start now after : Session σ} {frames : Stack}

/-- What happened since then is orderly by itself. These frames are left of it, on top of those that
were there. -/
structure Session.Since (start : Session σ) (frames : Stack) (now : Session σ) : Prop where
  events : ∃ later, now.events = later ++ start.events ∧ Orderly later frames
  stack : now.stack = frames ++ start.stack

namespace Session.Since

theorem refl (session : Session σ) : session.Since [] session := ⟨⟨[], rfl, .start⟩, rfl⟩

theorem report (since : start.Since frames now) (runtime : Runtime σ) (step : Step) (frame : Frame) :
    start.Since frames (runtime.report step frame now) := by
  obtain ⟨⟨later, events, orderly⟩, stack⟩ := since
  refine ⟨⟨.reported step frame :: later, ?_, orderly.reported step frame⟩, stack⟩
  rw [Runtime.report, events]
  rfl

theorem push (since : start.Since frames now) (step : Option Step) (frame : Frame) :
    start.Since (frame :: frames) (now.push step frame) := by
  obtain ⟨⟨later, events, orderly⟩, stack⟩ := since
  refine ⟨⟨.pushed step frame :: later, ?_, orderly.pushed step frame⟩, ?_⟩
  · rw [Session.push, events]
    rfl
  · rw [Session.push, stack]
    rfl

end Session.Since

/-- A run of steps comes to its end, or to a cleanup that fails. -/
inductive Outcome.Settles : Except Fault Unit → Session σ → Prop where
  | done {after : Session σ} : Settles (.ok ()) after
  | failed {obligation : Cleanup} {causes : List String} {after : Session σ}
    (last : after.events.head? = some (.cleaned obligation false)) :
    Settles (.error (.cleanup obligation causes)) after

theorem Session.Since.pop {frame : Frame} (since : start.Since (frame :: frames) now)
    (clean : Cleanup → σ → Except (List String) Unit × σ) :
    start.Since frames (now.pop clean).2 ∧ Outcome.Settles (now.pop clean).1 (now.pop clean).2 := by
  obtain ⟨⟨later, events, orderly⟩, stack⟩ := since
  rw [List.cons_append] at stack
  cases owed : frame.cleanup with
  | none =>
    have popped : now.pop clean = (.ok (), { now with
        stack := frames ++ start.stack
        events := .popped frame :: now.events }) := by
      simp only [Session.pop, Stack.pop, stack, Session.release, Frame.release, owed]
    rw [popped]
    refine ⟨⟨⟨.popped frame :: later, ?_, orderly.popped owed⟩, rfl⟩, .done⟩
    rw [events]
    rfl
  | some obligation =>
    rcases cleaned : clean obligation now.world with ⟨causes | done, world⟩
    · have popped : now.pop clean = (.error (.cleanup obligation causes), { now with
          stack := frames ++ start.stack
          events := .cleaned obligation false :: .popped frame :: now.events
          world }) := by
        simp only [Session.pop, Stack.pop, stack, Session.release, Frame.release, owed,
          Session.discharge, cleaned]
      rw [popped]
      refine ⟨⟨⟨.cleaned obligation false :: .popped frame :: later, ?_,
        orderly.cleaned owed false⟩, rfl⟩, .failed rfl⟩
      rw [events]
      rfl
    · have popped : now.pop clean = (.ok (), { now with
          stack := frames ++ start.stack
          events := .cleaned obligation true :: .popped frame :: now.events
          world }) := by
        simp only [Session.pop, Stack.pop, stack, Session.release, Frame.release, owed,
          Session.discharge, cleaned]
      rw [popped]
      refine ⟨⟨⟨.cleaned obligation true :: .popped frame :: later, ?_,
        orderly.cleaned owed true⟩, rfl⟩, .done⟩
      rw [events]
      rfl

namespace Runtime

variable {runtime : Runtime σ} {software : Software} {nesting : Nat} {step : Step} {steps : List Step}
  {exec : Step → Session σ → Outcome σ Fault Unit}

/-- Every parameter has a value, whatever is on the stack. -/
def Resolves (runtime : Runtime σ) (steps : List Step) : Prop :=
  ∀ step ∈ steps, step.isPop = false → ∀ stack,
    ∃ value, Placeholder.resolve runtime.constants stack step.parameter = .ok value

/-- Such a handler may report something, and leaves the stack alone. -/
theorem runHandling_since {work : Handling σ α} (answers : work.Answers)
    (since : start.Since frames now) :
    ∃ value after, runHandling runtime exec work now = some (.ok value, after) ∧
      start.Since frames after := by
  induction answers generalizing now with
  | done value => exact ⟨value, now, rfl, since⟩
  | observe rest ih => exact ih now.world since
  | update world rest ih =>
    have there : start.Since frames { now with world } := ⟨since.events, since.stack⟩
    exact ih there
  | look rest ih => exact ih ⟨now.stack, now.pending⟩ since
  | insert rest ih => exact ih since
  | report step frame rest ih => exact ih (since.report runtime step frame)

theorem perform_since (serves : runtime.Serves [step]) (resolves : runtime.Resolves [step])
    (opens : step.isPop = false) (since : start.Since frames now) :
    ∃ frame after, perform runtime software (nesting + 1) step now = some (.ok (), after) ∧
      start.Since (frame :: frames) after ∧
      after.events.head? = some (.pushed (some step) frame) := by
  obtain ⟨handler, found, answers⟩ := serves step List.mem_cons_self opens
  obtain ⟨text, resolved⟩ := resolves step List.mem_cons_self opens now.stack
  obtain ⟨frame, handled, ran, still⟩ : ∃ frame handled,
      runHandling runtime (perform runtime software nesting)
        (handler ⟨text, software, runtime.facts, runtime.constants⟩) now =
          some (.ok frame, handled) ∧ start.Since frames handled :=
    runHandling_since (answers _) since
  refine ⟨frame, _, ?_, (still.report runtime step frame).push (some step) frame, rfl⟩
  rw [perform_eq_carryOut opens, resolved, carryOut, found]
  simp only [ran]
  rfl

/-- Steps that take away only what they have put there all have their turn, unless a cleanup fails. -/
theorem runSteps_since {level : Nat} (serves : runtime.Serves steps)
    (resolves : runtime.Resolves steps) (reached : Step.levelFrom frames.length steps = some level)
    (since : start.Since frames now) :
    ∃ outcome after left, runSteps (perform runtime software (nesting + 1)) steps now =
        some (outcome, after) ∧ start.Since left after ∧ Outcome.Settles outcome after ∧
      (outcome = .ok () → left.length = level) := by
  induction steps generalizing now frames with
  | nil => exact ⟨_, now, frames, rfl, since, .done, fun _ => Option.some.inj reached⟩
  | cons step rest ih =>
    have later : runtime.Serves rest := fun other member => serves other (.tail _ member)
    have resolve : runtime.Resolves rest := fun other member => resolves other (.tail _ member)
    cases pops : step.isPop with
    | false =>
      have first : runtime.Serves [step] := fun other member =>
        serves other (List.mem_singleton.mp member ▸ .head _)
      have value : runtime.Resolves [step] := fun other member =>
        resolves other (List.mem_singleton.mp member ▸ .head _)
      obtain ⟨frame, middle, ran, there, -⟩ :=
        @perform_since _ _ _ _ runtime software nesting _ first value pops since
      rw [Step.levelFrom_open pops] at reached
      have deeper : Step.levelFrom (frame :: frames).length rest = some level := reached
      obtain ⟨outcome, after, left, whole, more⟩ := ih later resolve deeper there
      refine ⟨outcome, after, left, ?_, more⟩
      rw [runSteps_cons, ran]
      exact whole
    | true =>
      cases frames with
      | nil =>
        rw [List.length_nil, Step.levelFrom_below pops] at reached
        cases reached
      | cons frame frames =>
        rw [List.length_cons, Step.levelFrom_close pops] at reached
        obtain ⟨there, settles⟩ := since.pop runtime.clean
        rw [runSteps_cons, perform, if_pos pops]
        rcases popped : now.pop runtime.clean with ⟨fault | done, middle⟩
        · rw [popped] at there settles
          exact ⟨_, middle, frames, rfl, there, settles, fun went => by cases went⟩
        · rw [popped] at there
          exact ih later resolve reached there

end Runtime

namespace Placeholder

variable {constants : Constants} {front back text : String}

/-- The text has a value, whatever is on the stack. -/
def Steady (constants : Constants) (text : String) : Prop :=
  ∀ stack, ∃ value, resolve constants stack text = .ok value

theorem steady_of_no_occurrence
    (none : ∀ occurrence, ¬ Occurs constants.supported text.toList occurrence) :
    Steady constants text := fun _ => ⟨text, resolve_of_no_occurrence none⟩

theorem steady_of_plain (plain : '\x7b' ∉ text.toList) : Steady constants text :=
  fun _ => ⟨text, resolve_of_plain plain⟩

/-- A constant that has a value may stand in it. -/
theorem Steady.between {constant : Constant} {value : String} (before : Steady constants front)
    (supported : constant ∈ constants.supported) (given : constants.value constant = .ok value)
    (after : Steady constants back) :
    Steady constants (front ++ placeholder constant.keyword.toList ++ back) := by
  intro stack
  have known : Grammar constants.supported constant.keyword.toList :=
    .inr (.inr (.inr ⟨constant, supported, rfl⟩))
  have found : lookup constants stack constant.keyword.toList = .ok value := by
    rw [lookup_of_parse (parse_keyword constant), Token.value, given]
  obtain ⟨first, starts⟩ := before stack
  obtain ⟨last, ends⟩ := after stack
  exact ⟨first ++ value ++ last, by rw [yields_lookup known, starts, found, ends]; rfl⟩

end Placeholder

namespace Handlers

open Placeholder

variable {facts : Facts} {mirror : Mirror} {layout : ProfileLayout} {fileName : String}

/-- There are no placeholders in what is known of a family's profiles, except perhaps at the start of the
path of the program. -/
structure Written (layout : ProfileLayout) : Prop where
  profiles : '\x7b' ∉ layout.profiles.toList
  newline : '\x7b' ∉ layout.newline.toList
  program : ∃ rest, '\x7b' ∉ rest.toList ∧ (layout.program = rest ∨
    layout.program = placeholder Constant.programFilesX86.keyword.toList ++ rest)

theorem written_of_supported {family : Family} (supported : profileLayout? family = some layout) :
    Written layout := by
  cases family <;> cases supported
  · exact ⟨by decide, by decide, "Mozilla Firefox\\firefox.exe", by decide, .inr (by decide)⟩
  · exact ⟨by decide, by decide, _, by decide, .inl rfl⟩

theorem steady_delimited {front back : String} (before : Steady (Constants.ofMachine facts mirror) front)
    (after : Steady (Constants.ofMachine facts mirror) back) :
    Steady (Constants.ofMachine facts mirror)
      (front ++ placeholder Constant.delimiter.keyword.toList ++ back) :=
  before.between (show Constant.delimiter ∈ Constant.all by decide) rfl after

theorem steady_command (written : Written layout) :
    Steady (Constants.ofMachine facts mirror) ("\"" ++ layout.program ++
      "\" -CreateProfile \"testbirds " ++ layout.profiles ++
        "Profiles\x7b\x7bDELIMITER\x7d\x7dtestbirds.default\"") := by
  have plain := written.profiles
  have ends : "Profiles\x7b\x7bDELIMITER\x7d\x7dtestbirds.default\"" =
      "Profiles" ++ placeholder Constant.delimiter.keyword.toList ++ "testbirds.default\"" := by decide
  have starts : Steady (Constants.ofMachine facts mirror) ("\"" ++ layout.program ++
      "\" -CreateProfile \"testbirds " ++ layout.profiles ++ "Profiles") := by
    obtain ⟨rest, bare, same | same⟩ := written.program
    · exact steady_of_plain (by simp [same, bare, plain])
    · have quote : Steady (Constants.ofMachine facts mirror) "\"" := steady_of_plain (by decide)
      have behind : Steady (Constants.ofMachine facts mirror)
          (rest ++ "\" -CreateProfile \"testbirds " ++ layout.profiles ++ "Profiles") :=
        steady_of_plain (by simp [bare, plain])
      have whole := quote.between (show Constant.programFilesX86 ∈ Constant.all by decide) rfl behind
      simpa only [same, String.append_assoc] using whole
  have last : Steady (Constants.ofMachine facts mirror) "testbirds.default\"" :=
    steady_of_plain (by decide)
  simpa only [ends, String.append_assoc] using steady_delimited starts last

theorem steady_payload (written : Written layout)
    (plain : Steady (Constants.ofMachine facts mirror) fileName) :
    Steady (Constants.ofMachine facts mirror) (payload layout fileName).parameter := by
  intro stack
  have directory : layout.profiles ++ profileDir =
      layout.profiles ++ "Profiles" ++ placeholder Constant.delimiter.keyword.toList ++
        ("testbirds.default" ++ placeholder Constant.delimiter.keyword.toList ++ "") := by
    have spelled : profileDir = "Profiles" ++ placeholder Constant.delimiter.keyword.toList ++
        ("testbirds.default" ++ placeholder Constant.delimiter.keyword.toList ++ "") := by decide
    rw [spelled]
    simp only [String.append_assoc]
  have starts : Steady (Constants.ofMachine facts mirror) (layout.profiles ++ profileDir) := by
    rw [directory]
    exact steady_delimited (steady_of_plain (by simp [written.profiles]))
      (steady_delimited (steady_of_plain (by decide)) (steady_of_plain (by decide)))
  obtain ⟨front, starts⟩ := starts stack
  obtain ⟨name, ends⟩ := plain stack
  exact ⟨front ++ name, by rw [resolve_payload, starts, ends]; rfl⟩

/-- No two braces stand side by side in it. -/
theorem steady_windowState : Steady (Constants.ofMachine facts mirror) windowState := by
  have apart : (windowState.toList.zip windowState.toList.tail).all
      (fun pair => pair != ('\x7b', '\x7b')) = true := by decide +kernel
  refine steady_of_no_occurrence fun occurrence occurs => ?_
  obtain ⟨first, second⟩ := occurs.braces
  have pair : ('\x7b', '\x7b') ∈ windowState.toList.zip windowState.toList.tail := by
    refine List.mem_of_getElem? (i := occurrence.start) ?_
    rw [List.getElem?_zip_eq_some]
    exact ⟨first, by rw [List.getElem?_tail]; exact second⟩
  exact absurd (List.all_eq_true.mp apart _ pair) (by decide)

theorem steady_profilesIni (written : Written layout) :
    Steady (Constants.ofMachine facts mirror) (profilesIni layout.newline) :=
  steady_of_plain (by
    rw [profilesIni, String.toList_intercalate]
    simp [List.intercalate, List.intersperse, written.newline])

theorem steady_installsIni (written : Written layout) {key : String} (plain : '\x7b' ∉ key.toList) :
    Steady (Constants.ofMachine facts mirror) (installsIni layout.newline key) :=
  steady_of_plain (by simp [installsIni, written.newline, plain])

theorem plain_of_installation {family : Family} {version : Option String} {arch : Option Arch}
    {key : String} (installed : installation? family version arch = some key) :
    '\x7b' ∉ key.toList := by
  obtain ⟨version, -, later⟩ := Option.bind_eq_some_iff.mp installed
  obtain ⟨arch, -, found⟩ := Option.bind_eq_some_iff.mp later
  split at found
  · cases found
  · cases family <;> cases arch <;> cases found <;> decide

end Handlers

namespace Runtime

open Handlers Placeholder

variable {runtime : Runtime Machine} {first second : List Step}

theorem Resolves.append (one : runtime.Resolves first) (two : runtime.Resolves second) :
    runtime.Resolves (first ++ second) := fun step member =>
  (List.mem_append.mp member).elim (one step) (two step)

theorem resolves_placeText {text target : String} (steady : Steady runtime.constants text)
    (aims : Steady runtime.constants target) : runtime.Resolves (placeText text target) := by
  intro step member opens
  simp only [placeText, List.mem_cons, List.not_mem_nil, or_false] at member
  rcases member with rfl | rfl | rfl | rfl
  · exact steady
  · exact aims
  · cases opens
  · cases opens

end Runtime

namespace Step

theorem levelFrom_append (level : Nat) (first second : List Step) :
    levelFrom level (first ++ second) =
      (levelFrom level first).bind fun reached => levelFrom reached second := by
  induction first generalizing level with
  | nil => rfl
  | cons step first ih =>
    cases pops : step.isPop with
    | false => rw [List.cons_append, levelFrom_open pops, levelFrom_open pops, ih]
    | true =>
      cases level with
      | zero => rw [List.cons_append, levelFrom_below pops, levelFrom_below pops]; rfl
      | succ level => rw [List.cons_append, levelFrom_close pops, levelFrom_close pops, ih]

/-- The last of the steps writes a text to a file, and what stands before it leaves nothing behind. -/
def Writes (steps : List Step) : Prop :=
  ∃ earlier text, steps = earlier ++ [⟨.toFile, text⟩] ∧ levelFrom 0 earlier = some 0

/-- Whatever is moved was written just before. -/
def MovesWritten (steps : List Step) : Prop :=
  ∀ before target rest, steps = before ++ ⟨.move, target⟩ :: rest → Writes before

variable {first second steps : List Step}

theorem Writes.behind (writes : Writes second) (balanced : levelFrom 0 first = some 0) :
    Writes (first ++ second) := by
  obtain ⟨earlier, text, rfl, level⟩ := writes
  refine ⟨first ++ earlier, text, (List.append_assoc ..).symm, ?_⟩
  rw [levelFrom_append, balanced]
  exact level

theorem MovesWritten.append (one : MovesWritten first) (two : MovesWritten second)
    (balanced : levelFrom 0 first = some 0) : MovesWritten (first ++ second) := by
  intro before target rest split
  rcases List.append_eq_append_iff.mp split with ⟨front, rfl, later⟩ | ⟨back, ends, later⟩
  · exact (two front target rest later).behind balanced
  · cases back with
    | nil =>
      rw [List.append_nil] at ends
      have none := two [] target rest (by simpa using later.symm)
      exact List.append_nil before ▸ ends ▸ none.behind balanced
    | cons step back =>
      obtain ⟨rfl, -⟩ := List.cons.inj later
      exact one before target back ends

theorem movesWritten_nil : MovesWritten [] := by
  intro before target rest split
  cases before <;> cases split

end Step

namespace Handlers

open Step

theorem movesWritten_placeText (text target : String) : MovesWritten (placeText text target) := by
  intro before other rest split
  obtain _ | ⟨first, _ | ⟨second, _ | ⟨third, _ | ⟨fourth, before⟩⟩⟩⟩ := before
  · cases split
  · cases split
    exact ⟨[], text, rfl, rfl⟩
  · cases split
  · cases split
  · simp [placeText] at split

theorem movesWritten_beforePayload (layout : ProfileLayout) : MovesWritten (beforePayload layout) := by
  refine MovesWritten.append ?_ (movesWritten_placeText _ _) rfl
  intro before target rest split
  obtain _ | ⟨first, _ | ⟨second, before⟩⟩ := before
  · cases split
  · cases split
  · simp at split

/-- What MOVE_FF writes behind the payload. -/
def optional (layout : ProfileLayout) (installation : Option String) (maximized : Bool) : List Step :=
  (match installation with
    | some key => placeText (installsIni layout.newline key) (layout.profiles ++ "installs.ini")
    | none => []) ++
    (if maximized then
      placeText windowState (layout.profiles ++ profileDir ++ "xulstore.json")
    else [])

theorem afterPayload_eq (layout : ProfileLayout) (installation : Option String) (maximized : Bool) :
    afterPayload layout installation maximized = .pop :: optional layout installation maximized := by
  cases installation <;> cases maximized <;> rfl

theorem movesWritten_optional (layout : ProfileLayout) (installation : Option String)
    (maximized : Bool) : MovesWritten (optional layout installation maximized) := by
  have state : MovesWritten (if maximized then
      placeText windowState (layout.profiles ++ profileDir ++ "xulstore.json") else []) := by
    cases maximized with
    | true => exact movesWritten_placeText _ _
    | false => exact movesWritten_nil
  cases installation with
  | some key => exact (movesWritten_placeText _ _).append state rfl
  | none => exact state

/-- The payload is the one thing that MOVE_FF moves without having written it. -/
theorem profileSteps_moves {layout : ProfileLayout} {fileName target : String}
    {installation : Option String} {maximized : Bool} {before rest : List Step}
    (split : profileSteps layout fileName installation maximized = before ++ ⟨.move, target⟩ :: rest) :
    (before = beforePayload layout ∧ target = layout.profiles ++ profileDir ++ fileName) ∨
      Writes before := by
  rw [profileSteps_eq] at split
  rcases List.append_eq_append_iff.mp split with ⟨front, rfl, later⟩ | ⟨back, ends, later⟩
  · cases front with
    | nil =>
      have same := (List.cons.inj later).1
      exact .inl ⟨List.append_nil _, (congrArg Step.parameter same).symm⟩
    | cons step front =>
      obtain ⟨rfl, more⟩ := List.cons.inj later
      have written := movesWritten_optional layout installation maximized
      cases front with
      | nil => cases more
      | cons pop front =>
        have level : levelFrom 0 (beforePayload layout ++ [payload layout fileName, .pop]) = some 0 := rfl
        rw [afterPayload_eq] at more
        obtain ⟨rfl, last⟩ := List.cons.inj more
        have behind := (written front target rest last).behind level
        rw [List.append_assoc] at behind
        exact .inr behind
  · cases back with
    | nil =>
      rw [List.append_nil] at ends
      have same := (List.cons.inj later).1
      exact .inl ⟨ends.symm, congrArg Step.parameter same⟩
    | cons step back =>
      obtain ⟨rfl, -⟩ := List.cons.inj later
      exact .inr (movesWritten_beforePayload layout before target back ends)

theorem levelFrom_profileSteps (layout : ProfileLayout) (fileName : String)
    (installation : Option String) (maximized : Bool) :
    levelFrom 0 (profileSteps layout fileName installation maximized) = some 0 := by
  cases installation <;> cases maximized <;> rfl

end Handlers

namespace Runtime

open Handlers Placeholder

variable {runtime : Runtime Machine} {mirror : Mirror} {layout : ProfileLayout} {task : Task}
  {software : Software} {nesting : Nat} {session : Session Machine} {frame : Frame} {below : Stack}

theorem resolves_profileSteps (constants : runtime.constants = Constants.ofMachine task.facts mirror)
    (supported : profileLayout? task.facts.family = some layout)
    (plain : ∀ occurrence, ¬ Occurs runtime.constants.supported task.parameter.toList occurrence)
    {version : Option String} {arch : Option Arch} (maximized : Bool) :
    runtime.Resolves (profileSteps layout task.parameter
      (installation? task.facts.family version arch) maximized) := by
  have written := written_of_supported supported
  have name : Steady (Constants.ofMachine task.facts mirror) task.parameter :=
    constants ▸ steady_of_no_occurrence plain
  have command := constants ▸ @steady_command task.facts mirror layout written
  have place := constants ▸ steady_payload written name
  have store : Steady (Constants.ofMachine task.facts mirror) "xulstore.json" :=
    steady_of_plain (by decide)
  have declared : runtime.Resolves (optional layout
      (installation? task.facts.family version arch) maximized) := by
    refine Resolves.append ?_ ?_
    · cases installed : installation? task.facts.family version arch with
      | none => nofun
      | some key =>
        exact resolves_placeText
          (constants ▸ steady_installsIni written (plain_of_installation installed))
          (steady_of_plain (by simp [written.profiles]))
    · cases maximized with
      | false => nofun
      | true =>
        exact resolves_placeText (constants ▸ steady_windowState)
          (constants ▸ steady_payload written store)
  have first : runtime.Resolves (beforePayload layout) := by
    refine Resolves.append ?_ (resolves_placeText (constants ▸ steady_profilesIni written)
      (steady_of_plain (by simp [written.profiles])))
    intro step member opens
    simp only [List.mem_cons, List.not_mem_nil, or_false] at member
    rcases member with rfl | rfl
    · exact command
    · cases opens
  rw [profileSteps_eq, afterPayload_eq]
  refine first.append fun step member opens => ?_
  rcases List.mem_cons.mp member with rfl | later
  · exact place
  · rcases List.mem_cons.mp later with rfl | last
    · cases opens
    · exact declared step last opens

theorem serves_profileSteps
    (serves : ∀ operation ∈ [Operation.command, .toFile, .move], ∃ handler,
      runtime.handlers operation = some handler ∧ ∀ task, (handler task).Answers)
    (layout : ProfileLayout) (fileName : String) (installation : Option String) (maximized : Bool) :
    runtime.Serves (profileSteps layout fileName installation maximized) := by
  have listed : ((profileSteps layout fileName installation maximized).map Step.operation).all
      (fun operation => operation.isPop || [Operation.command, .toFile, .move].contains operation) =
        true := by
    cases installation <;> cases maximized <;> rfl
  intro step member opens
  have among := List.all_eq_true.mp listed _ (List.mem_map_of_mem member)
  have other : step.operation.isPop = false := opens
  rw [other, Bool.false_or, List.contains_iff_mem] at among
  exact serves step.operation among

theorem topValue_eq {exec : Step → Session Machine → Outcome Machine Fault Unit}
    {met : Session Machine} (top : met.stack = frame :: below) :
    runHandling runtime exec Handling.topValue met = some (.ok frame.value, met) := by
  simp only [Handling.topValue, runHandling, top]
  rfl

theorem runHandling_moveFf {exec : Step → Session Machine → Outcome Machine Fault Unit}
    (supported : profileLayout? task.facts.family = some layout) :
    runHandling runtime exec (moveFf task) session =
      (runSteps exec (profileSteps layout task.parameter
        (installation? task.facts.family task.software.version task.software.arch)
        (task.facts.family == .win)) session).map fun ended => (match ended.1 with
          | .ok () => .ok (.ofValue layout.profiles)
          | .error fault => .error (.ofFault fault), ended.2) := by
  simp only [moveFf, supported, Handling.insertAll, Handling.bind, runHandling]
  split
  next stuck => rw [stuck]; rfl
  next outcome after ran => rw [ran]; cases outcome <;> rfl

/-- Nothing is left of balanced steps that have come to their end. -/
theorem since_of_balanced {steps : List Step} {met : Session Machine} (all : runtime.Serves steps)
    (resolve : runtime.Resolves steps) (balanced : Step.levelFrom 0 steps = some 0)
    (ran : runSteps (perform runtime software (nesting + 1)) steps session = some (.ok (), met)) :
    session.Since [] met := by
  have level : Step.levelFrom ([] : Stack).length steps = some 0 := balanced
  obtain ⟨outcome, after, left, whole, since, -, ends⟩ :=
    @runSteps_since _ _ _ _ runtime software nesting _ _ all resolve level (.refl session)
  cases whole.symm.trans ran
  rwa [List.eq_nil_of_length_eq_zero (ends rfl)] at since

/-- A machine of the kind on which every part of a profile is made. -/
def desktop : Facts where
  family := .win
  arch := .x86_64
  id := ⟨0⟩

/-- Handlers that leave frames behind, of which the one of MOVE owes an unmount. -/
def owing (clean : Cleanup → Machine → Except (List String) Unit × Machine) : Runtime Machine where
  handlers
    | .command => some fun _ => .done (.ofValue "c")
    | .toFile => some fun _ => .done (.ofValue "t")
    | .move => some fun _ => .done ((Frame.ofValue "m").withCleanup ⟨.unmount, "/x"⟩)
    | _ => none
  constants := Constants.ofMachine desktop {}
  facts := desktop
  clean
  announce _ _ world := world

theorem owing_answers (clean : Cleanup → Machine → Except (List String) Unit × Machine) :
    ∀ operation ∈ [Operation.command, .toFile, .move], ∃ handler,
      (owing clean).handlers operation = some handler ∧ ∀ task, (handler task).Answers := by
  intro operation member
  simp only [List.mem_cons, List.not_mem_nil, or_false] at member
  rcases member with rfl | rfl | rfl
  · exact ⟨_, rfl, fun _ => .done _⟩
  · exact ⟨_, rfl, fun _ => .done _⟩
  · exact ⟨_, rfl, fun _ => .done _⟩

/-- A preferences file for a recent program. -/
def preferences : Task where
  parameter := "prefs.js"
  software := { version := some "70.0", arch := some .x86_64 }
  facts := desktop
  constants := Constants.ofMachine desktop {}

theorem preferences_plain (occurrence : Occurrence) :
    ¬ Occurs Constant.all preferences.parameter.toList occurrence := fun occurs =>
  absurd (List.mem_of_getElem? occurs.braces.1) (by decide)

theorem perform_owing (clean : Cleanup → Machine → Except (List String) Unit × Machine) {step : Step}
    {frame : Frame} (resolves : (owing clean).Resolves [step]) (opens : step.isPop = false)
    (handler : (owing clean).handlers step.operation = some fun _ => .done frame) :
    perform (owing clean) software (nesting + 1) step session =
      some (.ok (), ((owing clean).report step frame session).push step frame) := by
  obtain ⟨text, resolved⟩ := resolves step List.mem_cons_self opens session.stack
  rw [perform_eq_carryOut opens, resolved, carryOut, handler]
  rfl

end Runtime

end Provision
