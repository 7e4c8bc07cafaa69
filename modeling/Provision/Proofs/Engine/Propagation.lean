import Provision.Proofs.Engine.Cleanup
import Provision.Proofs.Engine.Depth

/-! Errors keep their identity. What a step fails with is what the run fails with, however many handlers
it passes on its way out, as long as each of them fails with the error that it was given. -/

namespace Provision

variable {σ α : Type}

/-- The handler fails with this error, whatever it does before that and whatever contexts it adds.
`again` says whether it may insert steps on the way, whose outcome then makes no difference. -/
inductive Handling.Passes (again : Bool) (fault : Fault) : Handling σ α → Prop where
  | failed (contexts : List String) : Passes again fault (.failed (.fault contexts fault))
  | observe (rest : ∀ world, (next world).Passes again fault) : Passes again fault (.observe next)
  | update (world : σ) (rest : next.Passes again fault) : Passes again fault (.update world next)
  | look (rest : ∀ scene, (next scene).Passes again fault) : Passes again fault (.look next)
  | children (rest : ∀ steps, (next steps).Passes again fault) : Passes again fault (.children next)
  | insert (steps : List Step) (allowed : again = true)
    (rest : ∀ outcome, (next outcome).Passes again fault) : Passes again fault (.insert steps next)
  | report (step : Step) (frame : Frame) (rest : next.Passes again fault) :
    Passes again fault (.report step frame next)

/-- A handler that fails with the error of the steps it inserts if they fail. -/
inductive Handling.Propagates (again : Bool) : Handling σ α → Prop where
  | done (value : α) : Propagates again (.done value)
  | failed (failure : Failure) : Propagates again (.failed failure)
  | observe (rest : ∀ world, (next world).Propagates again) : Propagates again (.observe next)
  | update (world : σ) (rest : next.Propagates again) : Propagates again (.update world next)
  | look (rest : ∀ scene, (next scene).Propagates again) : Propagates again (.look next)
  | children (rest : ∀ steps, (next steps).Propagates again) : Propagates again (.children next)
  | insert (steps : List Step) (rest : (next (.ok ())).Propagates again)
    (passes : ∀ fault, (next (.error fault)).Passes again fault) : Propagates again (.insert steps next)
  | report (step : Step) (frame : Frame) (rest : next.Propagates again) :
    Propagates again (.report step frame next)

def Runtime.Propagates (runtime : Runtime σ) (again : Bool) : Prop :=
  ∀ operation handler, runtime.handlers operation = some handler →
    ∀ task, (handler task).Propagates again

/-- The handler that waits will fail with whatever error it is given. -/
def Caller.Relays (again : Bool) (caller : Caller σ) : Prop :=
  ∀ fault, (caller.resume (.error fault)).Passes again fault

/-- The handler that waits has met no error, and propagates those it will meet. -/
structure Caller.Propagates (again : Bool) (caller : Caller σ) : Prop where
  light : caller.burdened = false
  resumes : (caller.resume (.ok ())).Propagates again
  relays : caller.Relays again

namespace Moment

variable {runtime : Runtime σ} {software : Software} {again burdened : Bool} {fault : Fault}
  {first before after origin : Moment σ} {step : Step} {work : Handling σ Frame}
  {callers : List (Caller σ)} {session : Session σ}

/-- A step is about to fail, or the drain at the end, and with which error. A handler that fails for a
reason of its own has it wrapped in the name of its operation. -/
inductive Raises (runtime : Runtime σ) : Moment σ → Fault → Prop where
  | pop {step : Step} (pops : step.isPop = true) (callers : List (Caller σ)) {session left : Session σ}
    {fault : Fault} (failed : session.pop runtime.clean = (.error fault, left)) :
    Raises runtime ⟨.enter step, callers, session⟩ fault
  | unhandled {step : Step} (opens : step.isPop = false)
    (missing : runtime.handlers step.operation = none) (callers : List (Caller σ))
    (session : Session σ) :
    Raises runtime ⟨.enter step, callers, session⟩ (.noHandler step.operation)
  | unresolved {step : Step} (opens : step.isPop = false) {handler : Handler σ}
    (found : runtime.handlers step.operation = some handler) (callers : List (Caller σ))
    {session : Session σ} {fault : Fault}
    (failed : Placeholder.resolve runtime.constants session.stack step.parameter = .error fault) :
    Raises runtime ⟨.enter step, callers, session⟩ fault
  | plain (step : Step) (burdened : Bool) (causes : List String) (callers : List (Caller σ))
    (session : Session σ) :
    Raises runtime ⟨.handle step burdened (.failed (.plain causes)), callers, session⟩
      (.handler step.operation causes)
  | given (step : Step) (burdened : Bool) (contexts : List String) (fault : Fault)
    (callers : List (Caller σ)) (session : Session σ) :
    Raises runtime ⟨.handle step burdened (.failed (.fault contexts fault)), callers, session⟩ fault
  | drain {session left : Session σ} (frames : session.stack ≠ []) {fault : Fault}
    (failed : session.pop runtime.clean = (.error fault, left)) :
    Raises runtime ⟨.drain, [], session⟩ fault

/-- Some handler that waits has met an error and will fail with it whatever it is told now, and those
outside it with what they are given. -/
def Committed (again : Bool) (fault : Fault) : List (Caller σ) → Prop
  | [] => False
  | caller :: outer =>
    (caller.burdened = true ∧ (∀ outcome, (caller.resume outcome).Passes again fault) ∧
      ∀ other ∈ outer, other.Relays again) ∨ Committed again fault outer

theorem Committed.heavy (committed : Committed again fault callers) :
    ∃ caller ∈ callers, caller.burdened = true := by
  induction callers with
  | nil => exact committed.elim
  | cons caller outer ih =>
    rcases committed with ⟨heavy, -⟩ | deeper
    · exact ⟨caller, List.mem_cons_self, heavy⟩
    · obtain ⟨other, member, heavy⟩ := ih deeper
      exact ⟨other, List.mem_cons_of_mem _ member, heavy⟩

/-- The run can only end in this error. -/
def Doomed (again : Bool) (fault : Fault) : Moment σ → Prop
  | ⟨.turn, _, _⟩ | ⟨.drain, _, _⟩ => False
  | ⟨.enter _, callers, _⟩ | ⟨.leave (.ok _), callers, _⟩ => Committed again fault callers
  | ⟨.leave (.error other), callers, _⟩ =>
    (other = fault ∧ ∀ caller ∈ callers, caller.Relays again) ∨ Committed again fault callers
  | ⟨.handle _ burdened work, callers, _⟩ =>
    (burdened = true ∧ work.Passes again fault ∧ ∀ caller ∈ callers, caller.Relays again) ∨
      Committed again fault callers
  | ⟨.ended outcome, _, _⟩ => outcome = .error fault

theorem Raises.next? (raises : origin.Raises runtime fault) (software : Software) :
    ∃ left, origin.next? runtime software = some ⟨.leave (.error fault), origin.callers, left⟩ ∨
      origin.next? runtime software = some ⟨.ended (.error fault), [], left⟩ := by
  cases raises with
  | @pop step pops callers session left fault failed =>
    exact ⟨left, .inl (by simp only [Moment.next?, Moment.enter, pops, if_true, failed])⟩
  | unhandled opens missing callers session =>
    exact ⟨session, .inl (by simp [Moment.next?, Moment.enter, opens, missing])⟩
  | @unresolved step opens handler found callers session fault failed =>
    exact ⟨session, .inl (by simp [Moment.next?, Moment.enter, opens, found, failed])⟩
  | plain step burdened causes callers session => exact ⟨session, .inl rfl⟩
  | given step burdened contexts fault callers session => exact ⟨session, .inl rfl⟩
  | @drain session left frames fault failed =>
    obtain ⟨frame, below, top⟩ := List.exists_cons_of_ne_nil frames
    exact ⟨left, .inr (by simp only [Moment.next?, top, failed])⟩

namespace Doomed

theorem enter (committed : Committed again fault callers) :
    (enter runtime software step callers session).Doomed again fault := by
  unfold Moment.enter
  split
  · cases (session.pop runtime.clean).1 with
    | error other => exact .inr committed
    | ok _ => exact committed
  · split
    · exact .inr committed
    · split
      · exact .inr committed
      · exact .inr committed

theorem handle (doomed : Doomed again fault ⟨.handle step burdened work, callers, session⟩) :
    (handle runtime step burdened callers session work).Doomed again fault := by
  rcases doomed with ⟨rfl, passes, relays⟩ | committed
  · cases passes with
    | failed contexts => exact .inl ⟨rfl, relays⟩
    | observe rest => exact .inl ⟨rfl, rest _, relays⟩
    | update world rest => exact .inl ⟨rfl, rest, relays⟩
    | look rest => exact .inl ⟨rfl, rest _, relays⟩
    | children rest => exact .inl ⟨rfl, rest _, relays⟩
    | report other frame rest => exact .inl ⟨rfl, rest, relays⟩
    | insert steps allowed rest =>
      cases steps with
      | nil => exact .inl ⟨rfl, rest _, relays⟩
      | cons first others => exact .inl ⟨rfl, rest, relays⟩
  · cases work with
    | done frame => exact committed
    | insert steps next =>
      cases steps with
      | nil => exact .inr committed
      | cons first others => exact .inr committed
    | failed | observe | update | look | children | report => exact .inr committed

theorem leave {outcome : Except Fault Unit}
    (doomed : Doomed again fault ⟨.leave outcome, callers, session⟩) :
    (leave outcome session callers).Doomed again fault := by
  cases outcome with
  | error other =>
    rcases doomed with ⟨rfl, relays⟩ | committed
    · cases callers with
      | nil => rfl
      | cons caller outer =>
        obtain ⟨passes, outside⟩ := List.forall_mem_cons.mp relays
        exact .inl ⟨rfl, passes other, outside⟩
    · cases callers with
      | nil => exact committed.elim
      | cons caller outer =>
        rcases committed with ⟨-, passes, outside⟩ | deeper
        · exact .inl ⟨rfl, passes _, outside⟩
        · exact .inr deeper
  | ok _ =>
    cases callers with
    | nil => exact doomed.elim
    | cons caller outer =>
      cases left : caller.rest with
      | nil =>
        simp only [Moment.leave, left]
        rcases doomed with ⟨heavy, passes, outside⟩ | deeper
        · exact .inl ⟨heavy, passes _, outside⟩
        · exact .inr deeper
      | cons next rest =>
        simp only [Moment.leave, left]
        exact doomed

theorem next? (doomed : before.Doomed again fault)
    (move : before.next? runtime software = some after) : after.Doomed again fault := by
  cases moves_of_next? move with
  | enter step callers session => exact enter doomed
  | handle step burdened callers session work => exact doomed.handle
  | leave outcome session callers => exact doomed.leave
  | finish | take | drained | popped | stopped => exact doomed.elim

theorem reaches (doomed : first.Doomed again fault) (reaches : first.Reaches runtime software after) :
    after.Doomed again fault := by
  induction reaches with
  | refl => exact doomed
  | tail _ move ih => exact ih.next? move

theorem troubled (doomed : before.Doomed again fault) : before.Troubled := by
  rcases before with ⟨activity, callers, session⟩
  cases activity with
  | turn | drain => exact doomed.elim
  | enter step => exact .inr (.inr (.inr (Committed.heavy doomed)))
  | handle step burdened work =>
    rcases doomed with ⟨rfl, -⟩ | committed
    · exact troubled_handle ..
    · exact .inr (.inr (.inr committed.heavy))
  | leave outcome =>
    cases outcome with
    | error other => exact .inl ⟨other, rfl⟩
    | ok _ => exact .inr (.inr (.inr (Committed.heavy doomed)))
  | ended outcome => exact .inr (.inl ⟨fault, congrArg Activity.ended doomed⟩)

end Doomed

theorem Raises.doomed (raises : origin.Raises runtime fault)
    (relays : ∀ caller ∈ origin.callers, caller.Relays again)
    (reaches : origin.Reaches runtime software after) :
    after = origin ∨ after.Doomed again fault := by
  rcases Relation.ReflTransGen.cases_head reaches with same | ⟨second, move, rest⟩
  · exact .inl same.symm
  · right
    have doomed : second.Doomed again fault := by
      obtain ⟨left, leaves | ended⟩ := raises.next? software
      · cases move.symm.trans leaves
        exact .inl ⟨rfl, relays⟩
      · cases move.symm.trans ended
        rfl
    exact doomed.reaches rest

theorem Raises.ended (raises : origin.Raises runtime fault)
    (relays : ∀ caller ∈ origin.callers, caller.Relays again) {outcome : Except Fault Unit}
    (ends : origin.Reaches runtime software ⟨.ended outcome, callers, session⟩) :
    outcome = .error fault := by
  rcases raises.doomed relays ends with rfl | doomed
  · cases raises
  · exact doomed

/-- A handler that passes an error on and inserts nothing more comes to its end. -/
theorem reaches_of_passes (passes : work.Passes false fault) (step : Step) (burdened : Bool)
    (callers : List (Caller σ)) (session : Session σ) :
    ∃ left, Reaches runtime software ⟨.handle step burdened work, callers, session⟩
      ⟨.leave (.error fault), callers, left⟩ := by
  induction passes generalizing session with
  | failed contexts => exact ⟨session, .next _ rfl .refl⟩
  | observe rest ih =>
    obtain ⟨left, later⟩ := ih session.world session
    exact ⟨left, .next _ rfl later⟩
  | update world rest ih =>
    obtain ⟨left, later⟩ := ih { session with world }
    exact ⟨left, .next _ rfl later⟩
  | look rest ih =>
    obtain ⟨left, later⟩ := ih ⟨session.stack, session.pending⟩ session
    exact ⟨left, .next _ rfl later⟩
  | children rest ih =>
    obtain ⟨left, later⟩ := ih session.takeChildren.1 session.takeChildren.2
    exact ⟨left, .next _ rfl later⟩
  | insert steps allowed rest ih => cases allowed
  | report other frame rest ih =>
    obtain ⟨left, later⟩ := ih (runtime.report other frame session)
    exact ⟨left, .next _ rfl later⟩

/-- Induction on the handlers that wait. -/
theorem ended_of_leave (relays : ∀ caller ∈ callers, caller.Relays false) (session : Session σ) :
    ∃ final, Reaches runtime software ⟨.leave (.error fault), callers, session⟩
      ⟨.ended (.error fault), [], final⟩ := by
  induction callers generalizing session with
  | nil => exact ⟨session, .next _ rfl .refl⟩
  | cons caller outer ih =>
    obtain ⟨passes, outside⟩ := List.forall_mem_cons.mp relays
    obtain ⟨left, later⟩ : ∃ left, Reaches runtime software
        ⟨.handle caller.step true (caller.resume (.error fault)), outer, session⟩
        ⟨.leave (.error fault), outer, left⟩ := reaches_of_passes (passes fault) _ _ _ _
    obtain ⟨final, last⟩ := ih outside left
    exact ⟨final, .next _ rfl (later.trans last)⟩

theorem Raises.ends (raises : origin.Raises runtime fault)
    (relays : ∀ caller ∈ origin.callers, caller.Relays false) (software : Software) :
    ∃ final, origin.Reaches runtime software ⟨.ended (.error fault), [], final⟩ := by
  obtain ⟨left, leaves | ended⟩ := raises.next? software
  · obtain ⟨final, later⟩ := ended_of_leave relays left
    exact ⟨final, .next _ leaves later⟩
  · exact ⟨left, .next _ ended .refl⟩

/-- No error has been met so far, and all handlers propagate those they will meet. -/
def Calm (again : Bool) : Moment σ → Prop
  | ⟨.turn, callers, _⟩ | ⟨.drain, callers, _⟩ | ⟨.ended (.ok _), callers, _⟩ => callers = []
  | ⟨.enter _, callers, _⟩ | ⟨.leave (.ok _), callers, _⟩ =>
    ∀ caller ∈ callers, caller.Propagates again
  | ⟨.handle _ burdened work, callers, _⟩ =>
    burdened = false ∧ work.Propagates again ∧ ∀ caller ∈ callers, caller.Propagates again
  | ⟨.leave (.error _), _, _⟩ | ⟨.ended (.error _), _, _⟩ => False

namespace Calm

theorem waiting (calm : before.Calm again) : ∀ caller ∈ before.callers, caller.Propagates again := by
  rcases before with ⟨activity, callers, session⟩
  cases activity with
  | turn | drain =>
    cases calm
    exact fun caller member => by cases member
  | enter step => exact calm
  | handle step burdened work => exact calm.2.2
  | leave outcome =>
    cases outcome with
    | error fault => exact calm.elim
    | ok _ => exact calm
  | ended outcome =>
    cases outcome with
    | error fault => exact calm.elim
    | ok _ =>
      cases calm
      exact fun caller member => by cases member

theorem untroubled (calm : before.Calm again) : ¬ before.Troubled := by
  rintro (⟨fault, leaves⟩ | ⟨fault, ended⟩ | ⟨step, work, handles⟩ | ⟨caller, member, heavy⟩)
  · rcases before with ⟨activity, callers, session⟩
    cases leaves
    exact calm
  · rcases before with ⟨activity, callers, session⟩
    cases ended
    exact calm
  · rcases before with ⟨activity, callers, session⟩
    cases handles
    cases calm.1
  · cases heavy.symm.trans (calm.waiting caller member).light

theorem enter (propagates : runtime.Propagates again)
    (calm : Calm again ⟨.enter step, callers, session⟩) :
    (enter runtime software step callers session).Calm again ∨
      ∃ fault, Raises runtime ⟨.enter step, callers, session⟩ fault := by
  cases pops : step.isPop with
  | true =>
    rcases popped : session.pop runtime.clean with ⟨fault | _, left⟩
    · exact .inr ⟨fault, .pop pops callers popped⟩
    · simp only [Moment.enter, pops, if_true, popped]
      exact .inl calm
  | false =>
    cases found : runtime.handlers step.operation with
    | none => exact .inr ⟨_, .unhandled pops found callers session⟩
    | some handler =>
      cases resolved : Placeholder.resolve runtime.constants session.stack step.parameter with
      | error fault => exact .inr ⟨fault, .unresolved pops found callers resolved⟩
      | ok parameter =>
        simp only [Moment.enter, pops, Bool.false_eq_true, if_false, found, resolved]
        exact .inl ⟨rfl, propagates _ _ found _, calm⟩

theorem handle (calm : Calm again ⟨.handle step burdened work, callers, session⟩) :
    (handle runtime step burdened callers session work).Calm again ∨
      ∃ fault, Raises runtime ⟨.handle step burdened work, callers, session⟩ fault := by
  obtain ⟨rfl, propagates, ready⟩ := calm
  cases propagates with
  | failed failure =>
    cases failure with
    | plain causes => exact .inr ⟨_, .plain ..⟩
    | fault contexts inner => exact .inr ⟨inner, .given ..⟩
  | done frame => exact .inl ready
  | observe rest => exact .inl ⟨rfl, rest _, ready⟩
  | update world rest => exact .inl ⟨rfl, rest, ready⟩
  | look rest => exact .inl ⟨rfl, rest _, ready⟩
  | children rest => exact .inl ⟨rfl, rest _, ready⟩
  | report other frame rest => exact .inl ⟨rfl, rest, ready⟩
  | insert steps rest passes =>
    cases steps with
    | nil => exact .inl ⟨rfl, rest, ready⟩
    | cons first others => exact .inl (List.forall_mem_cons.mpr ⟨⟨rfl, rest, passes⟩, ready⟩)

theorem leave {outcome : Except Fault Unit} (calm : Calm again ⟨.leave outcome, callers, session⟩) :
    (leave outcome session callers).Calm again := by
  cases outcome with
  | error fault => exact calm.elim
  | ok _ =>
    cases callers with
    | nil => rfl
    | cons caller outer =>
      obtain ⟨ready, outside⟩ := List.forall_mem_cons.mp calm
      cases left : caller.rest with
      | nil =>
        simp only [Moment.leave, left]
        exact ⟨ready.light, ready.resumes, outside⟩
      | cons next rest =>
        simp only [Moment.leave, left]
        exact List.forall_mem_cons.mpr ⟨⟨ready.light, ready.resumes, ready.relays⟩, outside⟩

theorem next? (propagates : runtime.Propagates again) (calm : before.Calm again)
    (move : before.next? runtime software = some after) :
    after.Calm again ∨ ∃ fault, before.Raises runtime fault := by
  cases moves_of_next? move with
  | finish nothing => exact .inl calm
  | take waiting =>
    cases calm
    exact .inl fun caller member => by cases member
  | enter step callers session => exact calm.enter propagates
  | handle step burdened callers session work => exact calm.handle
  | leave outcome session callers => exact .inl calm.leave
  | drained empty => exact .inl calm
  | popped went => exact .inl calm
  | @stopped callers session left fault failed =>
    cases calm
    refine .inr ⟨fault, .drain (fun empty => ?_) failed⟩
    simp [Moment.next?, empty] at move

/-- As long as a run stays calm, nothing has been raised. -/
theorem cause (propagates : runtime.Propagates again) (calm : first.Calm again)
    (reaches : first.Reaches runtime software after) :
    after.Calm again ∨ ∃ origin fault, first.Reaches runtime software origin ∧
      origin.Calm again ∧ origin.Raises runtime fault ∧ origin.Reaches runtime software after := by
  induction reaches with
  | refl => exact .inl calm
  | @tail middle last before move ih =>
    rcases ih with still | ⟨origin, fault, reached, quiet, raises, later⟩
    · rcases still.next? propagates move with kept | ⟨fault, raises⟩
      · exact .inl kept
      · exact .inr ⟨middle, fault, before, still, raises, .single move⟩
    · exact .inr ⟨origin, fault, reached, quiet, raises, later.tail move⟩

theorem relays (calm : before.Calm again) : ∀ caller ∈ before.callers, caller.Relays again :=
  fun caller member => (calm.waiting caller member).relays

/-- Only what was raised first troubles the run. -/
theorem of_untroubled (propagates : runtime.Propagates again) (calm : first.Calm again)
    (reaches : first.Reaches runtime software after) (untroubled : ¬ after.Troubled) :
    after.Calm again := by
  rcases calm.cause propagates reaches with still | ⟨origin, fault, -, quiet, raises, later⟩
  · exact still
  · rcases raises.doomed quiet.relays later with rfl | doomed
    · exact quiet
    · exact absurd doomed.troubled untroubled

end Calm

end Moment

namespace Runtime

open Moment

/-- However deeply handlers are nested: an error that is raised where every handler that waits passes on
what it is given is the error of the run, which does come to its end if they insert nothing more. Where
all handlers do that, the run fails with the error that was raised first, when no handler had met one,
and only then. A step without a handler fails for want of it whatever its parameter, and one whose
parameter does not resolve fails before its handler has run. -/
theorem errors_keep_identity (runtime : Runtime σ) (software : Software) (session : Session σ)
    (again : Bool) :
    (∀ origin fault, (begin session).Reaches runtime software origin → origin.Raises runtime fault →
      (∀ caller ∈ origin.callers, caller.Relays again) →
      (∀ outcome final, runtime.execute software session = some (outcome, final) →
        outcome = .error fault) ∧
      (again = false → ∃ final,
        (begin session).Reaches runtime software ⟨.ended (.error fault), [], final⟩ ∧
        (¬ (begin session).Deep runtime software nestingLimit →
          runtime.execute software session = some (.error fault, final)))) ∧
    (runtime.Propagates again →
      ∀ outcome final, runtime.execute software session = some (outcome, final) →
      ∀ fault, outcome = .error fault ↔ ∃ origin, (begin session).Reaches runtime software origin ∧
        ¬ origin.Troubled ∧ origin.Raises runtime fault) ∧
    ∀ step current nesting, step.isPop = false →
      (runtime.handlers step.operation = none →
        perform runtime software (nesting + 1) step current =
          some (.error (.noHandler step.operation), current)) ∧
      ∀ handler fault, runtime.handlers step.operation = some handler →
        Placeholder.resolve runtime.constants current.stack step.parameter = .error fault →
        perform runtime software (nesting + 1) step current = some (.error fault, current) := by
  refine ⟨?_, ?_, ?_⟩
  · intro origin fault reached raises relays
    refine ⟨fun outcome final run => ?_, fun direct => ?_⟩
    · exact raises.ended relays ((reaches_execute run).before_ended reached)
    · obtain ⟨final, later⟩ := raises.ends (direct ▸ relays) software
      have ends := reached.trans later
      exact ⟨final, ends, execute_of_ended ends⟩
  · intro propagates outcome final run fault
    have calm : (begin session).Calm again := rfl
    have ends := reaches_execute run
    constructor
    · rintro rfl
      rcases calm.cause propagates ends with still | ⟨origin, raised, reached, quiet, raises, later⟩
      · exact still.elim
      · cases raises.ended quiet.relays later
        exact ⟨origin, reached, quiet.untroubled, raises⟩
    · rintro ⟨origin, reached, untroubled, raises⟩
      have quiet := calm.of_untroubled propagates reached untroubled
      exact raises.ended quiet.relays (ends.before_ended reached)
  · intro step current nesting opens
    refine ⟨fun missing => ?_, fun handler fault found failed => ?_⟩
    · simp only [perform, opens, Bool.false_eq_true, if_false, missing]
    · simp only [perform, opens, Bool.false_eq_true, if_false, found, failed]

/-- COMMAND fails. UNZIP takes the file away that it had put in front of it, and then fails as it did,
and so does ASYNC around it. -/
def relaying : Runtime Unit where
  handlers
    | .toFile => some fun task =>
      .done ((Frame.ofValue task.parameter).withCleanup ⟨.delete, task.parameter⟩)
    | .command => some fun _ => .failed (.say "broken")
    | .unzip => some fun task =>
      .insert [⟨.toFile, task.parameter⟩, ⟨.command, "\x7b\x7b0\x7d\x7d"⟩, .pop] fun
        | .ok () => .done (.ofValue task.parameter)
        | .error fault => .insert [.pop] fun _ => .failed (.fault ["unpacking", task.parameter] fault)
    | .async => some fun task =>
      .insert [⟨.unzip, task.parameter⟩, .pop] fun
        | .ok () => .done (.ofValue task.parameter)
        | .error fault => .failed (.fault ["later"] fault)
    | _ => none
  constants := ⟨[], fun _ => .error (.invalidRecipe "no constants")⟩
  facts := { family := .ubuntu, arch := .x86_64, id := ⟨0⟩ }
  clean _ world := (.ok (), world)
  announce _ _ world := world

theorem propagates_relaying : relaying.Propagates true := by
  intro operation handler found task
  cases operation <;> cases found
  case toFile => exact .done _
  case command => exact .failed _
  case unzip => exact .insert _ (.done _) fun fault => .insert _ rfl fun _ => .failed _
  case async => exact .insert _ (.done _) fun fault => .failed _

/-- The innermost step is what the run fails for. -/
theorem errors_keep_identity_relaying :
    relaying.Propagates true ∧ ∃ session final : Session Unit,
      relaying.start { parameter := "seed", steps := [⟨.async, "a"⟩] } () = .ok session ∧
      relaying.execute { parameter := "seed", steps := [⟨.async, "a"⟩] } session =
        some (.error (.handler .command ["broken"]), final) ∧
      final.attempted = [⟨.delete, "a"⟩] ∧
      ∃ origin,
        (begin session).Reaches relaying { parameter := "seed", steps := [⟨.async, "a"⟩] } origin ∧
        ¬ origin.Troubled ∧ origin.Raises relaying (.handler .command ["broken"]) := by
  let software : Software := { parameter := "seed", steps := [⟨.async, "a"⟩] }
  let session : Session Unit :=
    ⟨[⟨.async, "a"⟩], [.ofValue "seed"], [.pushed none (.ofValue "seed")], ()⟩
  have started : relaying.start software () = .ok session := by cbv
  have told : (relaying.execute software session).map (fun run => (run.1, run.2.attempted)) =
      some (.error (.handler .command ["broken"]), [⟨.delete, "a"⟩]) := by cbv
  obtain ⟨⟨outcome, final⟩, ran, same⟩ := Option.map_eq_some_iff.mp told
  obtain ⟨rfl, attempted⟩ := Prod.mk.inj same
  obtain ⟨-, first, -⟩ := errors_keep_identity relaying software session true
  exact ⟨propagates_relaying, session, final, started, ran, attempted,
    (first propagates_relaying _ final ran _).mp rfl⟩

end Runtime

end Provision
