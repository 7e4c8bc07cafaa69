import Provision.Proofs.Engine.Balance

/-! What is reported is what is pushed. However deeply handlers insert, and wherever errors strike or
are swallowed, the reports that the engine makes are the frames pushed after the seed, each with the
step that it is the result of, as that step is written. Only what handlers report themselves comes on
top. -/

namespace Provision

variable {σ α : Type}

/-- What came of the steps of one level, the latest outermost. A step that had its handler run keeps the
record of what was inserted under it. -/
inductive Record where
  | nil
  /-- A POP. -/
  | closed (earlier : Record)
  /-- A step that has no handler, or a parameter that does not resolve. -/
  | refused (earlier : Record) (step : Step)
  | failed (earlier : Record) (step : Step) (inserted : Record)
  | carried (earlier : Record) (step : Step) (inserted : Record) (frame : Frame)
  /-- A report that the handler of the level makes itself. -/
  | told (earlier : Record) (step : Step) (frame : Frame)

namespace Record

/-- Steps that came to a frame, inserted ones before the one under which they were inserted. `own` says
whether to list what handlers report themselves as well. -/
def pairs (own : Bool) : Record → List (Step × Frame)
  | nil => []
  | closed earlier | refused earlier _ => earlier.pairs own
  | failed earlier _ inserted => earlier.pairs own ++ inserted.pairs own
  | carried earlier step inserted frame => earlier.pairs own ++ inserted.pairs own ++ [(step, frame)]
  | told earlier step frame => earlier.pairs own ++ if own then [(step, frame)] else []

/-- The same for all levels that are open, the innermost first. -/
def listed (own : Bool) : List Record → List (Step × Frame)
  | [] => []
  | level :: outer => listed own outer ++ level.pairs own

theorem listed_congr {levels : List Record} {own other : Bool}
    (same : ∀ level ∈ levels, level.pairs own = level.pairs other) :
    listed own levels = listed other levels := by
  induction levels with
  | nil => rfl
  | cons level outer ih =>
    obtain ⟨inner, rest⟩ := List.forall_mem_cons.mp same
    simp only [listed, inner, ih rest]

end Record

/-- A handler that leaves reporting to the engine. It may insert steps and swallow their errors. -/
inductive Handling.Tacit : Handling σ α → Prop where
  | done (value : α) : Tacit (.done value)
  | failed (failure : Failure) : Tacit (.failed failure)
  | observe (rest : ∀ world, (next world).Tacit) : Tacit (.observe next)
  | update (world : σ) (rest : next.Tacit) : Tacit (.update world next)
  | look (rest : ∀ scene, (next scene).Tacit) : Tacit (.look next)
  | children (rest : ∀ steps, (next steps).Tacit) : Tacit (.children next)
  | insert (steps : List Step) (rest : ∀ outcome, (next outcome).Tacit) : Tacit (.insert steps next)

def Runtime.Tacit (runtime : Runtime σ) : Prop :=
  ∀ operation handler, runtime.handlers operation = some handler → ∀ task, (handler task).Tacit

namespace Moment

variable {runtime : Runtime σ} {software : Software} {seed : Frame} {first before after moment : Moment σ}
  {step : Step} {callers : List (Caller σ)} {session : Session σ} {levels : List Record}

/-- What the move from a moment adds to the record, by levels, the innermost first. -/
def note (runtime : Runtime σ) : Moment σ → List Record → List Record
  | ⟨.enter step, _, session⟩, level :: outer =>
    if step.isPop then level.closed :: outer
    else
      match runtime.handlers step.operation with
      | none => level.refused step :: outer
      | some _ =>
        match Placeholder.resolve runtime.constants session.stack step.parameter with
        | .error _ => level.refused step :: outer
        | .ok _ => .nil :: level :: outer
  | ⟨.handle step _ (.done frame), _, _⟩, inserted :: level :: outer =>
    level.carried step inserted frame :: outer
  | ⟨.handle step _ (.failed _), _, _⟩, inserted :: level :: outer =>
    level.failed step inserted :: outer
  | ⟨.handle _ _ (.report step frame _), _, _⟩, level :: outer => level.told step frame :: outer
  | _, levels => levels

/-- The run has come from the first moment to this one, and these are the records of its open levels. -/
inductive Recorded (runtime : Runtime σ) (software : Software) (first : Moment σ) :
    Moment σ → List Record → Prop where
  | start : Recorded runtime software first first [.nil]
  | move {earlier later : Moment σ} {records : List Record}
    (recorded : Recorded runtime software first earlier records)
    (move : earlier.next? runtime software = some later) :
    Recorded runtime software first later (earlier.note runtime records)

theorem recorded_of_reaches (reaches : first.Reaches runtime software moment) :
    ∃ levels, Recorded runtime software first moment levels := by
  induction reaches with
  | refl => exact ⟨_, .start⟩
  | tail _ move ih =>
    obtain ⟨levels, recorded⟩ := ih
    exact ⟨_, recorded.move move⟩

/-- How many levels are open: that of the main loop, one for each handler that waits, and one for the
handler that is running. -/
def depth : Moment σ → Nat
  | ⟨.handle .., callers, _⟩ => callers.length + 2
  | ⟨_, callers, _⟩ => callers.length + 1

/-- The record tells what has been reported and pushed. -/
structure Recounted (seed : Frame) (moment : Moment σ) (levels : List Record) : Prop where
  depth : levels.length = moment.depth
  reports : moment.session.reports = Record.listed true levels
  pushes : moment.session.pushes =
    (none, seed) :: (Record.listed false levels).map fun pair => (some pair.1, pair.2)

namespace Recounted

/-- Nothing but the history counts. -/
theorem keep (recounted : Recounted seed before levels) (depth : after.depth = before.depth)
    (reports : after.session.reports = before.session.reports)
    (pushes : after.session.pushes = before.session.pushes) : Recounted seed after levels :=
  ⟨recounted.depth.trans depth.symm, reports.trans recounted.reports, pushes.trans recounted.pushes⟩

theorem enter (recounted : Recounted seed ⟨.enter step, callers, session⟩ levels) :
    Recounted seed (enter runtime software step callers session)
      (note runtime ⟨.enter step, callers, session⟩ levels) := by
  obtain ⟨depth, reports, pushes⟩ := recounted
  obtain ⟨level, outer, rfl⟩ : ∃ level outer, levels = level :: outer :=
    List.exists_cons_of_length_eq_add_one depth
  simp only [Moment.enter, note]
  cases pops : step.isPop with
  | true =>
    have told := (Session.pops_of_pop (rfl : session.pop runtime.clean = _)).reports_eq
    exact ⟨depth, told.trans reports, (Session.pushes_pop runtime session).trans pushes⟩
  | false =>
    simp only [Bool.false_eq_true, if_false]
    cases runtime.handlers step.operation with
    | none => exact ⟨depth, reports, pushes⟩
    | some handler =>
      cases Placeholder.resolve runtime.constants session.stack step.parameter with
      | error fault => exact ⟨depth, reports, pushes⟩
      | ok parameter =>
        exact ⟨congrArg (· + 1) depth, by simpa [Record.listed, Record.pairs] using reports,
          by simpa [Record.listed, Record.pairs] using pushes⟩

theorem handle {burdened : Bool} {work : Handling σ Frame}
    (recounted : Recounted seed ⟨.handle step burdened work, callers, session⟩ levels) :
    Recounted seed (handle runtime step burdened callers session work)
      (note runtime ⟨.handle step burdened work, callers, session⟩ levels) := by
  obtain ⟨depth, reports, pushes⟩ := recounted
  obtain ⟨inserted, outer, rfl⟩ : ∃ inserted outer, levels = inserted :: outer :=
    List.exists_cons_of_length_eq_add_one depth
  have remaining : outer.length = callers.length + 1 := Nat.succ.inj depth
  obtain ⟨level, outer, rfl⟩ : ∃ level rest, outer = level :: rest :=
    List.exists_cons_of_length_eq_add_one remaining
  cases work with
  | done frame =>
    refine ⟨remaining, ?_, ?_⟩
    · simp only [Moment.handle, note, Session.reports_push, Session.reports_report, reports,
        Record.listed, Record.pairs, List.append_assoc]
    · simp only [Moment.handle, note, Session.pushes_push, Session.pushes_report, pushes,
        Record.listed, Record.pairs, List.append_assoc, List.map_append, List.map_cons, List.map_nil,
        List.cons_append]
  | failed failure =>
    refine ⟨remaining, ?_, ?_⟩
    · simp only [Moment.handle, note, reports, Record.listed, Record.pairs, List.append_assoc]
    · simp only [Moment.handle, note, pushes, Record.listed, Record.pairs, List.append_assoc]
  | report other frame next =>
    refine ⟨depth, ?_, ?_⟩
    · simp only [Moment.handle, note, Session.reports_report, reports, Record.listed, Record.pairs,
        if_true, List.append_assoc]
    · simp only [Moment.handle, note, Session.pushes_report, pushes, Record.listed, Record.pairs,
        Bool.false_eq_true, if_false, List.append_nil]
  | insert steps next => cases steps <;> exact ⟨depth, reports, pushes⟩
  | observe | update | look | children => exact ⟨depth, reports, pushes⟩

theorem leave {outcome : Except Fault Unit}
    (recounted : Recounted seed ⟨.leave outcome, callers, session⟩ levels) :
    Recounted seed (leave outcome session callers) levels := by
  refine recounted.keep ?_ ?_ ?_
  · cases callers with
    | nil => cases outcome <;> rfl
    | cons caller callers =>
      cases outcome with
      | error fault => rfl
      | ok _ => cases rest : caller.rest <;> simp [Moment.leave, rest, Moment.depth]
  · rw [leave_session]
  · rw [leave_session]

theorem pop (recounted : Recounted seed ⟨.drain, callers, session⟩ levels) {outcome : Except Fault Unit}
    {left : Session σ} (popped : session.pop runtime.clean = (outcome, left)) {activity : Activity σ}
    (depth : Moment.depth ⟨activity, callers, left⟩ = callers.length + 1) :
    Recounted seed ⟨activity, callers, left⟩ levels := by
  have pushes := Session.pushes_pop runtime session
  rw [popped] at pushes
  exact recounted.keep depth (Session.pops_of_pop popped).reports_eq pushes

theorem next? (recounted : Recounted seed before levels)
    (move : before.next? runtime software = some after) :
    Recounted seed after (before.note runtime levels) := by
  cases moves_of_next? move with
  | finish nothing => exact recounted.keep rfl rfl rfl
  | take waiting => exact recounted.keep rfl rfl rfl
  | enter step callers session => exact recounted.enter
  | handle step burdened callers session work => exact recounted.handle
  | leave outcome session callers => exact recounted.leave
  | drained empty => exact recounted.keep rfl rfl rfl
  | popped went => exact recounted.pop went rfl
  | stopped failed => exact recounted.pop failed rfl

theorem start (session : Session σ) (reports : session.reports = [])
    (pushes : session.pushes = [(none, seed)]) : Recounted seed (begin session) [.nil] :=
  ⟨rfl, reports, pushes⟩

end Recounted

/-- By induction on the moves. -/
theorem Recorded.recounted (recorded : Recorded runtime software first moment levels)
    (start : Recounted seed first [.nil]) : Recounted seed moment levels := by
  induction recorded with
  | start => exact start
  | move _ move ih => exact ih.next? move

/-- No handler that is running or waiting reports anything itself. -/
def Tacit : Moment σ → Prop
  | ⟨.handle _ _ work, callers, _⟩ =>
    work.Tacit ∧ ∀ caller ∈ callers, ∀ outcome, (caller.resume outcome).Tacit
  | ⟨_, callers, _⟩ => ∀ caller ∈ callers, ∀ outcome, (caller.resume outcome).Tacit

namespace Tacit

theorem enter (tacit : runtime.Tacit) (quiet : Tacit ⟨.enter step, callers, session⟩) :
    Tacit (enter runtime software step callers session) := by
  unfold Moment.enter
  split
  · exact quiet
  · split
    · exact quiet
    · rename_i handler found
      split
      · exact quiet
      · exact ⟨tacit _ _ found _, quiet⟩

theorem handle {burdened : Bool} {work : Handling σ Frame}
    (quiet : Tacit ⟨.handle step burdened work, callers, session⟩) :
    Tacit (handle runtime step burdened callers session work) := by
  obtain ⟨running, waiting⟩ := quiet
  cases running with
  | done frame => exact waiting
  | failed failure => exact waiting
  | observe rest => exact ⟨rest _, waiting⟩
  | update world rest => exact ⟨rest, waiting⟩
  | look rest => exact ⟨rest _, waiting⟩
  | children rest => exact ⟨rest _, waiting⟩
  | insert steps rest =>
    cases steps with
    | nil => exact ⟨rest _, waiting⟩
    | cons first others => exact List.forall_mem_cons.mpr ⟨rest, waiting⟩

theorem leave {outcome : Except Fault Unit} (quiet : Tacit ⟨.leave outcome, callers, session⟩) :
    Tacit (leave outcome session callers) := by
  cases callers with
  | nil => cases outcome <;> exact quiet
  | cons caller callers =>
    obtain ⟨resumes, waiting⟩ := List.forall_mem_cons.mp quiet
    cases outcome with
    | error fault => exact ⟨resumes _, waiting⟩
    | ok _ =>
      cases left : caller.rest with
      | nil =>
        simp only [Moment.leave, left]
        exact ⟨resumes _, waiting⟩
      | cons first rest =>
        simp only [Moment.leave, left]
        exact List.forall_mem_cons.mpr ⟨resumes, waiting⟩

theorem next? (tacit : runtime.Tacit) (quiet : before.Tacit)
    (move : before.next? runtime software = some after) : after.Tacit := by
  cases moves_of_next? move with
  | enter step callers session => exact quiet.enter tacit
  | handle step burdened callers session work => exact quiet.handle
  | leave outcome session callers => exact quiet.leave
  | finish | take | drained | popped | stopped => exact quiet

/-- No level of the record then has a report of a handler's own. -/
theorem note (quiet : before.Tacit) (plain : ∀ level ∈ levels, level.pairs true = level.pairs false) :
    ∀ level ∈ before.note runtime levels, level.pairs true = level.pairs false := by
  fun_cases Moment.note runtime before levels with
  | case1 | case2 | case3 | case4 =>
    simpa only [List.forall_mem_cons, Record.pairs, true_and] using plain
  | case5 | case6 =>
    obtain ⟨inserted, level, outer⟩ := by simpa only [List.forall_mem_cons] using plain
    exact List.forall_mem_cons.mpr ⟨by simp only [Record.pairs, inserted, level], outer⟩
  | case7 => cases quiet.1
  | case8 => exact plain

end Tacit

theorem Recorded.tacit (recorded : Recorded runtime software first moment levels)
    (tacit : runtime.Tacit) (quiet : first.Tacit) :
    moment.Tacit ∧ ∀ level ∈ levels, level.pairs true = level.pairs false := by
  induction recorded with
  | start => exact ⟨quiet, by simp [Record.pairs]⟩
  | move _ move ih => exact ⟨ih.1.next? tacit move, ih.1.note ih.2⟩

end Moment

namespace Runtime

open Moment

/-- At every moment of a run, also after an error, the record of what came of the steps lists what has
been reported, and but for what handlers reported themselves it lists what has been pushed after the
seed. Where handlers leave reporting to the engine, the two are the same, pair by pair. -/
theorem reports_are_pushes {runtime : Runtime σ} {software : Software} {world : σ}
    {session : Session σ} (started : runtime.start software world = .ok session) :
    (∀ outcome final, runtime.execute software session = some (outcome, final) →
      (begin session).Reaches runtime software ⟨.ended outcome, [], final⟩) ∧
    ∃ seed, Placeholder.resolve runtime.constants [] software.parameter = .ok seed ∧
      ∀ moment, (begin session).Reaches runtime software moment →
      (∃ levels, Recorded runtime software (begin session) moment levels ∧
        moment.session.reports = Record.listed true levels ∧
        moment.session.pushes = (none, .ofValue seed) ::
          (Record.listed false levels).map fun pair => (some pair.1, pair.2)) ∧
      (runtime.Tacit → moment.session.pushes =
        (none, .ofValue seed) :: moment.session.reports.map fun pair => (some pair.1, pair.2)) := by
  obtain ⟨text, resolved, rfl⟩ := start_ok started
  refine ⟨fun outcome final => reaches_execute, text, resolved, fun moment reaches => ?_⟩
  obtain ⟨levels, recorded⟩ := recorded_of_reaches reaches
  have recounted : Recounted (.ofValue text) moment levels :=
    recorded.recounted (Recounted.start _ rfl rfl)
  refine ⟨⟨levels, recorded, recounted.reports, recounted.pushes⟩, fun tacit => ?_⟩
  have quiet : (begin (Session.push ⟨software.steps, [], [], world⟩ none (.ofValue text))).Tacit :=
    fun caller member => by cases member
  rw [recounted.pushes, recounted.reports, Record.listed_congr (recorded.tacit tacit quiet).2]

/-- COMMAND fails, ASYNC goes on over the failure of a step that it inserted, and UNZIP fails after
everything it inserted went well. -/
def swallowing : Runtime Unit where
  handlers
    | .set => some fun task => .done (.ofValue task.parameter)
    | .command => some fun _ => .failed (.say "refused")
    | .async => some fun task =>
      .insert [⟨.set, task.parameter ++ "1"⟩, ⟨.command, "false"⟩, ⟨.set, "unreached"⟩] fun _ =>
        .done (.ofValue task.parameter)
    | .unzip => some fun task => .insert [⟨.async, task.parameter⟩, .pop] fun _ => .failed (.say "broken")
    | _ => none
  constants := ⟨[], fun _ => .error (.invalidRecipe "no constants")⟩
  facts := { family := .ubuntu, arch := .x86_64, id := ⟨0⟩ }
  clean _ world := (.ok (), world)
  announce _ _ world := world

theorem tacit_swallowing : swallowing.Tacit := by
  intro operation handler found task
  cases operation <;> cases found
  case set => exact .done _
  case command => exact .failed _
  case async => exact .insert _ fun _ => .done _
  case unzip => exact .insert _ fun _ => .failed _

/-- A failure that was swallowed, one that was not, and a step that was never reached. -/
def interrupted : Software where
  parameter := "seed"
  steps := [⟨.set, "a"⟩, ⟨.async, "{{0}}b"⟩, .pop, ⟨.unzip, "c"⟩, ⟨.set, "d"⟩]

theorem reports_are_pushes_swallowing :
    swallowing.Tacit ∧ ∃ session final : Session Unit,
      swallowing.start interrupted () = .ok session ∧
      swallowing.execute interrupted session = some (.error (.handler .unzip ["broken"]), final) ∧
      final.reports.map Prod.fst =
        [⟨.set, "a"⟩, ⟨.set, "ab1"⟩, ⟨.async, "{{0}}b"⟩, ⟨.set, "c1"⟩, ⟨.async, "c"⟩] ∧
      ∃ seed, final.pushes =
        (none, seed) :: final.reports.map fun pair => (some pair.1, pair.2) := by
  let session : Session Unit :=
    ⟨interrupted.steps, [.ofValue "seed"], [.pushed none (.ofValue "seed")], ()⟩
  have started : swallowing.start interrupted () = .ok session := by cbv
  have told : (swallowing.execute interrupted session).map
      (fun run => (run.1, run.2.reports.map Prod.fst)) = some (.error (.handler .unzip ["broken"]),
        [⟨.set, "a"⟩, ⟨.set, "ab1"⟩, ⟨.async, "{{0}}b"⟩, ⟨.set, "c1"⟩, ⟨.async, "c"⟩]) := by
    cbv
  obtain ⟨⟨outcome, final⟩, ran, same⟩ := Option.map_eq_some_iff.mp told
  obtain ⟨rfl, steps⟩ := Prod.mk.inj same
  obtain ⟨reaches, seed, -, every⟩ := reports_are_pushes started
  exact ⟨tacit_swallowing, session, final, started, ran, steps, .ofValue seed,
    (every _ (reaches _ _ ran)).2 tacit_swallowing⟩

/-- SET tells of a WAIT that was never executed. -/
def pretending : Runtime Unit :=
  { swallowing with
    handlers := fun
      | .set => some fun task =>
        .report ⟨.wait, "x"⟩ (.ofValue "y") (.done (.ofValue task.parameter))
      | _ => none }

/-- What a handler reports itself is reported without being pushed. -/
theorem pretending_reports_more :
    ∃ session final : Session Unit,
      pretending.start { parameter := "seed", steps := [⟨.set, "a"⟩] } () = .ok session ∧
      pretending.execute { parameter := "seed", steps := [⟨.set, "a"⟩] } session =
        some (.ok (), final) ∧
      final.reports = [(⟨.wait, "x"⟩, .ofValue "y"), (⟨.set, "a"⟩, .ofValue "a")] ∧
      final.pushes = [(none, .ofValue "seed"), (some ⟨.set, "a"⟩, .ofValue "a")] ∧
      ¬ ∃ seed, final.pushes =
        (none, seed) :: final.reports.map fun pair => (some pair.1, pair.2) := by
  let seed := Frame.ofValue "seed"
  let final : Session Unit := ⟨[], [], [.popped seed, .popped (.ofValue "a"),
    .pushed (some ⟨.set, "a"⟩) (.ofValue "a"), .reported ⟨.set, "a"⟩ (.ofValue "a"),
    .reported ⟨.wait, "x"⟩ (.ofValue "y"), .pushed none seed], ()⟩
  refine ⟨⟨[⟨.set, "a"⟩], [seed], [.pushed none seed], ()⟩, final, by cbv, by cbv, rfl, rfl, ?_⟩
  rintro ⟨other, same⟩
  have fewer := congrArg List.length same
  cases fewer

end Runtime

end Provision
