import Provision.Proofs.Engine.Accounting
import Provision.Proofs.Handlers.Issuing
import Provision.Proofs.Handlers.Standard

/-! Who owns what over whole runs with the built-in handlers. The frames on the stack were named one
after the other, each with numbers that were handed out since the frame below it was pushed, so that
what one of them owes is another's only where both owe the image that DMG_EULA leaves. -/

namespace Provision

open Machine

/-- The frames on the stack, topmost first, each with the step that it is the result of, as far as the
events tell. -/
def owners : List Event → List (Option Step × Frame)
  | [] => []
  | .pushed step frame :: earlier => (step, frame) :: owners earlier
  | .popped _ :: earlier => (owners earlier).tail
  | .reported _ _ :: earlier | .cleaned _ _ :: earlier => owners earlier

theorem Orderly.owners {events : List Event} {stack : Stack} (orderly : Orderly events stack) :
    (owners events).map Prod.snd = stack := by
  induction orderly with
  | start => rfl
  | reported before step frame ih => exact ih
  | pushed before step frame ih => exact congrArg (frame :: ·) ih
  | popped before free ih => exact (List.map_tail ..).trans (congrArg List.tail ih)
  | cleaned before owed succeeded ih => exact (List.map_tail ..).trans (congrArg List.tail ih)

/-- The entry owes nothing, or what its operation named between the two moments. -/
def Held (directory : String) (since now : Machine) : Option Step × Frame → Prop
  | (none, frame) => frame.cleanup = none
  | (some step, frame) => Owes directory step.operation since now frame.cleanup

/-- The entries were named one after the other, the last in front, since the run began. -/
inductive Tenure (start : Machine) : Machine → List (Option Step × Frame) → Prop where
  | nil (later : start.Later now) : Tenure start now []
  | push (below : Tenure start since entries) (later : since.Later now)
    (held : Held start.temporaryDirectory since now entry) : Tenure start now (entry :: entries)

section Tenure

variable {directory : String} {start since before after now : Machine}
  {entry : Option Step × Frame} {entries : List (Option Step × Frame)}

theorem Owes.later {operation : Operation} {cleanup : Option Cleanup}
    (owes : Owes directory operation since before cleanup) (later : before.Later after) :
    Owes directory operation since after cleanup := by
  cases owes with
  | nothing traceless => exact .nothing traceless
  | resource marks unused used => exact .resource marks unused (used.later later)

theorem Held.later (held : Held directory since before entry) (later : before.Later after) :
    Held directory since after entry := by
  rcases entry with ⟨_ | step, frame⟩
  · exact held
  · exact Owes.later held later

namespace Tenure

theorem later (tenure : Tenure start before entries) (later : before.Later after) :
    Tenure start after entries := by
  cases tenure with
  | nil begun => exact .nil (Trans.trans begun later)
  | push below between held => exact .push below (Trans.trans between later) (held.later later)

theorem tail (tenure : Tenure start now entries) : Tenure start now entries.tail := by
  cases tenure with
  | nil begun => exact .nil begun
  | push below between held => exact below.later between

theorem since_start (tenure : Tenure start now entries) : start.Later now := by
  induction tenure with
  | nil begun => exact begun
  | push below between held ih => exact Trans.trans ih between

/-- Every entry was named at some time between. -/
theorem held_of_mem (tenure : Tenure start now entries) (member : entry ∈ entries) :
    ∃ since, start.Later since ∧ Held start.temporaryDirectory since now entry := by
  induction tenure with
  | nil begun => cases member
  | push below between held ih =>
    rcases List.mem_cons.mp member with rfl | deeper
    · exact ⟨_, below.since_start, held⟩
    · obtain ⟨since, begun, held⟩ := ih deeper
      exact ⟨since, begun, held.later between⟩

end Tenure

end Tenure

/-- Once an insertion has failed or succeeded, whenever that is, the handler goes on to leave what is
its own. -/
def Caller.Ready (directory : String) (now : Machine) (caller : Caller Machine) : Prop :=
  ∃ paused : Machine, paused.Later now ∧ ∀ outcome later, paused.Later later →
    (caller.resume outcome).Issues directory caller.step.operation later later

theorem Caller.Ready.later {directory : String} {before after : Machine} {caller : Caller Machine}
    (ready : caller.Ready directory before) (later : before.Later after) :
    caller.Ready directory after := by
  obtain ⟨paused, between, resumes⟩ := ready
  exact ⟨paused, Trans.trans between later, resumes⟩

/-- What is being done leaves the entries as they are, or adds one that was named after them. -/
def Activity.Naming (start now : Machine) (entries : List (Option Step × Frame)) :
    Activity Machine → Prop
  | .handle step _ work => ∃ since : Machine, Tenure start since entries ∧ since.Later now ∧
    work.Issues start.temporaryDirectory step.operation since now
  | _ => True

/-- What is kept at all moments of a run with the built-in handlers. -/
structure Moment.Tenured (start : Machine) (moment : Moment Machine) : Prop where
  tenure : Tenure start moment.session.world (owners moment.session.events)
  naming : moment.activity.Naming start moment.session.world (owners moment.session.events)
  waiting : ∀ caller ∈ moment.callers, caller.Ready start.temporaryDirectory moment.session.world

theorem Handlers.later_discharge (obligation : Cleanup) :
    Working.Keeps Later (discharge obligation) := by
  unfold discharge
  split
  · exact later_onDisk _
  · exact (later_runCommand _ _).bind fun _ => Working.keeps_pure _

namespace Runtime.Standard

variable {config : Config} {quiet : Bool} {runtime : Runtime Machine}

theorem later_report (standard : runtime.Standard config quiet) (step : Step) (frame : Frame)
    (session : Session Machine) : session.world.Later (runtime.report step frame session).world := by
  obtain ⟨out, err, announced⟩ := standard.announce step frame session.world
  change session.world.Later (runtime.announce step frame session.world)
  rw [announced]
  exact ⟨Nat.le_refl _, Nat.le_refl _, rfl⟩

/-- A pop takes the topmost entry away, if there is one. -/
theorem pop_cases (standard : runtime.Standard config quiet) (session : Session Machine) :
    session.world.Later (session.pop runtime.clean).2.world ∧
      (owners (session.pop runtime.clean).2.events = owners session.events ∨
        owners (session.pop runtime.clean).2.events = (owners session.events).tail) := by
  cases frames : session.stack with
  | nil =>
    have world : (session.pop runtime.clean).2.world = session.world := by
      simp [Session.pop, Stack.pop, frames]
    have events : (session.pop runtime.clean).2.events = session.events := by
      simp [Session.pop, Stack.pop, frames]
    rw [world, events]
    exact ⟨refl _, .inl rfl⟩
  | cons frame below =>
    simp only [Session.pop, Stack.pop, frames, Session.release, Frame.release]
    cases frame.cleanup with
    | none => exact ⟨refl _, .inr rfl⟩
    | some obligation =>
      have kept := Handlers.later_discharge obligation session.world
      simp only [Session.discharge, standard.clean, Handlers.clean]
      rcases ran : Handlers.discharge obligation session.world with ⟨causes | _, world⟩
      · rw [ran] at kept
        exact ⟨kept, .inr rfl⟩
      · rw [ran] at kept
        exact ⟨kept, .inr rfl⟩

end Runtime.Standard

namespace Moment.Tenured

variable {config : Config} {quiet : Bool} {runtime : Runtime Machine} {software : Software}
  {start : Machine} {callers : List (Caller Machine)} {session : Session Machine} {step : Step}

/-- The seed owes nothing. -/
theorem begin (started : runtime.start software start = .ok session) :
    Tenured start (begin session) := by
  obtain ⟨seed, -, rfl⟩ := Runtime.start_ok started
  exact ⟨.push (.nil (refl _)) (refl _) rfl, trivial, fun caller member => by cases member⟩

theorem pop {activity other : Activity Machine} {popped : Session Machine}
    (standard : runtime.Standard config quiet)
    (tenured : Tenured start ⟨activity, callers, session⟩)
    (went : (session.pop runtime.clean).2 = popped)
    (plain : other.Naming start popped.world (owners popped.events)) :
    Tenured start ⟨other, callers, popped⟩ := by
  subst went
  obtain ⟨later, same | shorter⟩ := standard.pop_cases session
  · exact ⟨same ▸ tenured.tenure.later later, plain,
      fun caller member => (tenured.waiting caller member).later later⟩
  · exact ⟨shorter ▸ tenured.tenure.tail.later later, plain,
      fun caller member => (tenured.waiting caller member).later later⟩

theorem enter (standard : runtime.Standard config quiet)
    (tenured : Tenured start ⟨.enter step, callers, session⟩) :
    Tenured start (enter runtime software step callers session) := by
  unfold Moment.enter
  split
  · exact tenured.pop standard rfl trivial
  · split
    · exact ⟨tenured.tenure, trivial, tenured.waiting⟩
    · rename_i handler found
      split
      · exact ⟨tenured.tenure, trivial, tenured.waiting⟩
      · rw [standard.handlers_eq] at found
        refine ⟨tenured.tenure, ⟨session.world, tenured.tenure, refl _, ?_⟩, tenured.waiting⟩
        have issues := Registry.issuing_builtin found
        rw [← tenured.tenure.since_start.temporaryDirectory]
        exact issues _ session.world

/-- A handler makes one request at a time. -/
theorem handle {burdened : Bool} {work : Handling Machine Frame}
    (standard : runtime.Standard config quiet)
    (tenured : Tenured start ⟨.handle step burdened work, callers, session⟩) :
    Tenured start (handle runtime step burdened callers session work) := by
  obtain ⟨tenure, ⟨since, below, between, issues⟩, waiting⟩ := tenured
  cases issues with
  | @done _ _ frame owes =>
    have later := standard.later_report step frame session
    exact ⟨.push below (Trans.trans between later) (owes.later later), trivial,
      fun caller member => (waiting caller member).later later⟩
  | failed failure => exact ⟨tenure, trivial, waiting⟩
  | observe rest => exact ⟨tenure, ⟨since, below, between, rest⟩, waiting⟩
  | update later rest =>
    exact ⟨tenure.later later, ⟨since, below, Trans.trans between later, rest⟩,
      fun caller member => (waiting caller member).later later⟩
  | look rest => exact ⟨tenure, ⟨since, below, between, rest _⟩, waiting⟩
  | children rest => exact ⟨tenure, ⟨since, below, between, rest _⟩, waiting⟩
  | @insert _ _ next steps rest =>
    cases steps with
    | nil => exact ⟨tenure, ⟨session.world, tenure, refl _, rest _ _ (refl _)⟩, waiting⟩
    | cons first others =>
      refine ⟨tenure, trivial, fun caller member => ?_⟩
      rcases List.mem_cons.mp member with rfl | earlier
      · exact ⟨session.world, refl _, rest⟩
      · exact waiting caller earlier
  | report other frame rest =>
    have later := standard.later_report other frame session
    exact ⟨tenure.later later, ⟨since, below, Trans.trans between later, rest _ later⟩,
      fun caller member => (waiting caller member).later later⟩

theorem leave {outcome : Except Fault Unit}
    (tenured : Tenured start ⟨.leave outcome, callers, session⟩) :
    Tenured start (leave outcome session callers) := by
  obtain ⟨tenure, -, waiting⟩ := tenured
  cases callers with
  | nil => cases outcome <;> exact ⟨tenure, trivial, waiting⟩
  | cons caller callers =>
    obtain ⟨ready, others⟩ := List.forall_mem_cons.mp waiting
    obtain ⟨paused, later, resumes⟩ := ready
    have goesOn : ∀ outcome, (caller.resume outcome).Issues start.temporaryDirectory
        caller.step.operation session.world session.world :=
      fun outcome => resumes outcome _ later
    cases outcome with
    | error fault => exact ⟨tenure, ⟨session.world, tenure, refl _, goesOn _⟩, others⟩
    | ok _ =>
      cases steps : caller.rest with
      | nil =>
        simp only [Moment.leave, steps]
        exact ⟨tenure, ⟨session.world, tenure, refl _, goesOn _⟩, others⟩
      | cons first rest =>
        simp only [Moment.leave, steps]
        exact ⟨tenure, trivial, List.forall_mem_cons.mpr ⟨⟨paused, later, resumes⟩, others⟩⟩

theorem next? {first second : Moment Machine} (standard : runtime.Standard config quiet)
    (tenured : Tenured start first) (move : first.next? runtime software = some second) :
    Tenured start second := by
  cases moves_of_next? move with
  | finish nothing => exact ⟨tenured.tenure, trivial, tenured.waiting⟩
  | take waiting => exact ⟨tenured.tenure, trivial, tenured.waiting⟩
  | enter step callers session => exact tenured.enter standard
  | handle step burdened callers session work => exact tenured.handle standard
  | leave outcome session callers => exact tenured.leave
  | drained empty => exact ⟨tenured.tenure, trivial, tenured.waiting⟩
  | popped went => exact tenured.pop standard (congrArg Prod.snd went) trivial
  | stopped failed => exact tenured.pop standard (congrArg Prod.snd failed) trivial

theorem reaches {first last : Moment Machine} (standard : runtime.Standard config quiet)
    (tenured : Tenured start first) (reaches : first.Reaches runtime software last) :
    Tenured start last := by
  induction reaches with
  | refl => exact tenured
  | tail _ move ih => exact ih.next? standard move

end Moment.Tenured

end Provision
