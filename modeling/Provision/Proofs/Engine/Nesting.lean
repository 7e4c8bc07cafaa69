import Provision.Proofs.Engine.Insertion

/-! Which steps a handler gets as the children of its step. They always come out of the pending program,
where they are nested under the step that the main loop has taken. For a step that was inserted that is
another one. -/

namespace Provision

variable {σ : Type}

namespace Step

/-- Of the steps that follow a step, those nested under it: the longest front in which no POP goes below
the level on which it starts. -/
structure Nested (following inside : List Step) : Prop where
  front : inside <+: following
  stays : (levelFrom 0 inside).isSome
  longest : ∀ other, other <+: following → (levelFrom 0 other).isSome → other <+: inside

open Program

theorem levelFrom_splitLevel (level : Nat) (steps : List Step) :
    (levelFrom level (splitLevel level steps).1).isSome := by
  induction steps generalizing level with
  | nil => rfl
  | cons step rest ih =>
    cases pops : step.isPop with
    | false =>
      rw [splitLevel_open pops, levelFrom_open pops]
      exact ih (level + 1)
    | true =>
      cases level with
      | zero =>
        rw [splitLevel_stop pops]
        rfl
      | succ level =>
        rw [splitLevel_close pops, levelFrom_close pops]
        exact ih level

theorem prefix_splitLevel {level : Nat} {front steps : List Step} (starts : front <+: steps)
    (stays : (levelFrom level front).isSome) : front <+: (splitLevel level steps).1 := by
  induction steps generalizing level front with
  | nil => exact starts
  | cons step rest ih =>
    rcases List.prefix_cons_iff.mp starts with rfl | ⟨inner, rfl, begins⟩
    · exact List.nil_prefix
    · cases pops : step.isPop with
      | false =>
        rw [levelFrom_open pops] at stays
        rw [splitLevel_open pops]
        exact (List.prefix_cons_inj step).mpr (ih begins stays)
      | true =>
        cases level with
        | zero =>
          rw [levelFrom_below pops] at stays
          cases stays
        | succ level =>
          rw [levelFrom_close pops] at stays
          rw [splitLevel_close pops]
          exact (List.prefix_cons_inj step).mpr (ih begins stays)

theorem nested_splitChildren (following : List Step) :
    Nested following (splitChildren following).1 where
  front := ⟨_, splitChildren_append following⟩
  stays := levelFrom_splitLevel 0 following
  longest _ starts stays := prefix_splitLevel starts stays

theorem Nested.eq {following inside : List Step} (nested : Nested following inside) :
    inside = (splitChildren following).1 := by
  have cut := nested_splitChildren following
  exact (cut.longest _ nested.front nested.stays).eq_of_length_le
    (nested.longest _ cut.front cut.stays).length_le

/-- Behind them stands the POP of the step, or nothing, so that there are no more. -/
theorem splitLevel_rest (level : Nat) (steps : List Step) :
    splitLevel 0 (splitLevel level steps).2 = ([], (splitLevel level steps).2) := by
  induction steps generalizing level with
  | nil => rfl
  | cons step rest ih =>
    cases pops : step.isPop with
    | false =>
      rw [splitLevel_open pops]
      exact ih (level + 1)
    | true =>
      cases level with
      | zero =>
        rw [splitLevel_stop pops]
        exact splitLevel_stop pops rest
      | succ level =>
        rw [splitLevel_close pops]
        exact ih level

/-- The step with the steps that followed it in the program. What is pending by now are those, or the
ones that its handler has left of them. -/
def Leaves (steps : List Step) (opener : Step) (pending : List Step) : Prop :=
  ∃ before inside outside, steps = before ++ opener :: (inside ++ outside) ∧
    Nested (inside ++ outside) inside ∧ (pending = inside ++ outside ∨ pending = outside)

theorem leaves_following (before : List Step) (opener : Step) (following : List Step) :
    Leaves (before ++ opener :: following) opener following := by
  have parts := splitChildren_append following
  refine ⟨before, (splitChildren following).1, (splitChildren following).2, ?_, ?_, .inl parts.symm⟩
  · rw [parts]
  · rw [parts]
    exact nested_splitChildren following

theorem Nested.splitChildren {inside outside : List Step} (nested : Nested (inside ++ outside) inside) :
    Program.splitChildren (inside ++ outside) = (inside, outside) := by
  have parts := splitChildren_append (inside ++ outside)
  rw [← nested.eq] at parts
  exact Prod.ext nested.eq.symm (List.append_cancel_left parts)

theorem Nested.splitChildren_rest {inside outside : List Step}
    (nested : Nested (inside ++ outside) inside) : Program.splitChildren outside = ([], outside) := by
  have again := splitLevel_rest 0 (inside ++ outside)
  have cut : splitLevel 0 (inside ++ outside) = (inside, outside) := nested.splitChildren
  rw [cut] at again
  exact again

theorem Leaves.take {steps pending : List Step} {opener : Step} (leaves : Leaves steps opener pending) :
    Leaves steps opener (Program.splitChildren pending).2 := by
  obtain ⟨before, inside, outside, place, nested, rfl | rfl⟩ := leaves
  · exact ⟨before, inside, outside, place, nested, .inr (by rw [nested.splitChildren])⟩
  · exact ⟨before, inside, _, place, nested, .inr (by rw [nested.splitChildren_rest])⟩

theorem Leaves.suffix {steps pending : List Step} {opener : Step}
    (leaves : Leaves steps opener pending) : pending <:+ steps := by
  obtain ⟨before, inside, outside, rfl, -, rfl | rfl⟩ := leaves
  · exact (List.suffix_cons opener _).trans (List.suffix_append before _)
  · exact (List.suffix_append inside _).trans
      ((List.suffix_cons opener _).trans (List.suffix_append before _))

end Step

namespace Moment

variable {runtime : Runtime σ} {software : Software} {steps : List Step} {step : Step}
  {callers : List (Caller σ)} {session : Session σ} {first before after : Moment σ}

/-- The step that the main loop has taken, under which all that is executed now was inserted. -/
def outermost (step : Step) : List (Caller σ) → Step
  | [] => step
  | caller :: outer => outermost caller.step outer

/-- What will still be executed, from the inside out: the steps that each handler has yet to insert, and
those that are pending. -/
def ahead (moment : Moment σ) : List (List Step) :=
  moment.callers.map Caller.rest ++ [moment.session.pending]

/-- Between two moments the handler was given the steps nested under its own step, and they are all that
will not be executed any more. -/
def TakesOwn (before : Moment σ) (taken : List Step) (after : Moment σ) : Prop :=
  ∃ outside others, before.ahead = (taken ++ outside) :: others ∧
    Step.Nested (taken ++ outside) taken ∧ after.ahead = outside :: others

/-- While a step is executed, what is pending goes back to what followed the outermost one. -/
def Following (steps : List Step) : Moment σ → Prop
  | ⟨.enter step, callers, session⟩ | ⟨.handle step _ _, callers, session⟩ =>
    Step.Leaves steps (outermost step callers) session.pending
  | ⟨.leave _, caller :: outer, session⟩ =>
    Step.Leaves steps (outermost caller.step outer) session.pending
  | ⟨.leave _, [], session⟩ => session.pending <:+ steps
  | ⟨.turn, callers, session⟩ => callers = [] ∧ session.pending <:+ steps
  | ⟨.drain, _, _⟩ | ⟨.ended _, _, _⟩ => True

namespace Following

theorem of_leaves (leaves : Step.Leaves steps (outermost step callers) session.pending)
    (outcome : Except Fault Unit) : Following steps ⟨.leave outcome, callers, session⟩ := by
  cases callers with
  | nil => exact leaves.suffix
  | cons caller outer => exact leaves

theorem enter (following : Following steps ⟨.enter step, callers, session⟩) :
    (enter runtime software step callers session).Following steps := by
  unfold Moment.enter
  split
  · have leaves : Step.Leaves steps (outermost step callers)
        (session.pop runtime.clean).2.pending := following
    exact of_leaves leaves _
  · split
    · exact of_leaves following _
    · split
      · exact of_leaves following _
      · exact following

theorem handle {burdened : Bool} {work : Handling σ Frame}
    (following : Following steps ⟨.handle step burdened work, callers, session⟩) :
    (handle runtime step burdened callers session work).Following steps := by
  cases work with
  | done frame =>
    have leaves : Step.Leaves steps (outermost step callers)
        ((runtime.report step frame session).push step frame).pending := following
    exact of_leaves leaves _
  | failed failure => exact of_leaves following _
  | children next => exact Step.Leaves.take following
  | insert steps next => cases steps <;> exact following
  | observe | update | look | report => exact following

theorem leave {outcome : Except Fault Unit}
    (following : Following steps ⟨.leave outcome, callers, session⟩) :
    (leave outcome session callers).Following steps := by
  cases callers with
  | nil =>
    cases outcome with
    | error fault => trivial
    | ok _ => exact ⟨rfl, following⟩
  | cons caller outer =>
    cases outcome with
    | error fault => exact following
    | ok _ =>
      cases left : caller.rest with
      | nil =>
        simp only [Moment.leave, left]
        exact following
      | cons next rest =>
        simp only [Moment.leave, left]
        exact following

theorem next? (following : before.Following steps)
    (move : before.next? runtime software = some after) : after.Following steps := by
  cases moves_of_next? move with
  | finish nothing => trivial
  | take waiting =>
    obtain ⟨rfl, before, place⟩ := following
    rw [waiting] at place
    exact place ▸ Step.leaves_following before _ _
  | enter step callers session => exact following.enter
  | handle step burdened callers session work => exact following.handle
  | leave outcome session callers => exact following.leave
  | drained | popped | stopped => trivial

theorem reaches (following : first.Following steps) (reaches : first.Reaches runtime software after) :
    after.Following steps := by
  induction reaches with
  | refl => exact following
  | tail _ move ih => exact ih.next? move

end Following

/-- The children that a handler asks for are its own unless there are callers, and then only if there
are none, neither after its step nor in front of what is pending. -/
theorem takesOwn_iff (step : Step) (burdened : Bool) (next : List Step → Handling σ Frame)
    (callers : List (Caller σ)) (session : Session σ) :
    TakesOwn ⟨.handle step burdened (.children next), callers, session⟩ session.takeChildren.1
      ⟨.handle step burdened (next session.takeChildren.1), callers, session.takeChildren.2⟩ ↔
    ∀ caller outer, callers = caller :: outer →
      Step.Nested caller.rest [] ∧ Step.Nested session.pending [] := by
  have parts : session.takeChildren.1 ++ session.takeChildren.2.pending = session.pending :=
    session.pending.splitChildren_append
  have cut : Step.Nested session.pending session.takeChildren.1 :=
    Step.nested_splitChildren session.pending
  cases callers with
  | nil =>
    refine ⟨fun _ caller outer same => (by cases same), fun _ => ?_⟩
    exact ⟨session.takeChildren.2.pending, [], by rw [parts]; rfl, by rwa [parts], rfl⟩
  | cons caller outer =>
    constructor
    · rintro ⟨outside, others, inner, nested, left⟩ _ _ ⟨rfl, rfl⟩
      obtain ⟨own, outward⟩ := List.cons.inj inner
      obtain ⟨kept, onward⟩ := List.cons.inj left
      have nothing : session.takeChildren.1 = [] :=
        List.append_left_eq_self.mp (own.symm.trans kept)
      rw [nothing] at nested cut
      exact ⟨own ▸ nothing ▸ nested, cut⟩
    · intro none
      obtain ⟨own, pending⟩ := none caller outer rfl
      have nothing : session.takeChildren.1 = [] := pending.eq.symm
      have same : session.takeChildren.2.pending = session.pending := by
        rw [← parts, nothing, List.nil_append]
      refine ⟨caller.rest, outer.map Caller.rest ++ [session.pending], ?_, ?_, ?_⟩
      · rw [nothing]
        rfl
      · rw [nothing]
        exact own
      · simp only [ahead, same, List.map_cons, List.cons_append]

end Moment

namespace Runtime

open Moment

/-- The children that a handler is given are what followed the outermost step nested under it, the first
time that they are asked for, and then none; they leave the pending program. They are those of the step
being handled if the main loop has taken it. If it was inserted, they are so only where nothing is nested
under it among the steps that it was inserted with, and nothing is given. -/
theorem children_are_of_outermost {runtime : Runtime σ} {software : Software} {world : σ}
    {session : Session σ} (started : runtime.start software world = .ok session) :
    (∀ outcome final, runtime.execute software session = some (outcome, final) →
      (begin session).Reaches runtime software ⟨.ended outcome, [], final⟩) ∧
    ∀ step burdened next callers current,
      (begin session).Reaches runtime software
        ⟨.handle step burdened (.children next), callers, current⟩ →
      next? runtime software ⟨.handle step burdened (.children next), callers, current⟩ =
        some ⟨.handle step burdened (next current.takeChildren.1), callers, current.takeChildren.2⟩ ∧
      (∃ before inside outside,
        software.steps = before ++ outermost step callers :: (inside ++ outside) ∧
        Step.Nested (inside ++ outside) inside ∧
        (current.pending = inside ++ outside ∧ current.takeChildren.1 = inside ∨
          current.pending = outside ∧ current.takeChildren.1 = []) ∧
        current.takeChildren.2 = { current with pending := outside }) ∧
      (TakesOwn ⟨.handle step burdened (.children next), callers, current⟩ current.takeChildren.1
          ⟨.handle step burdened (next current.takeChildren.1), callers, current.takeChildren.2⟩ ↔
        ∀ caller outer, callers = caller :: outer →
          Step.Nested caller.rest [] ∧ Step.Nested current.pending []) := by
  obtain ⟨text, resolved, rfl⟩ := start_ok started
  refine ⟨fun outcome final => reaches_execute, ?_⟩
  intro step burdened next callers current reaches
  have first : Following software.steps
      (begin (Session.push ⟨software.steps, [], [], world⟩ none (.ofValue text))) :=
    ⟨rfl, List.suffix_rfl⟩
  refine ⟨rfl, ?_, takesOwn_iff ..⟩
  obtain ⟨before, inside, outside, place, nested, pending⟩ := first.reaches reaches
  refine ⟨before, inside, outside, place, nested, ?_⟩
  rcases current with ⟨_, stack, events, world⟩
  rcases pending with rfl | rfl
  · have cut := nested.splitChildren
    exact ⟨.inl ⟨rfl, by simp only [Session.takeChildren, cut]⟩,
      by simp only [Session.takeChildren, cut]⟩
  · have cut := nested.splitChildren_rest
    exact ⟨.inr ⟨rfl, by simp only [Session.takeChildren, cut]⟩,
      by simp only [Session.takeChildren, cut]⟩

/-- The children of a step as a value. -/
def told (steps : List Step) : Handling Unit Frame :=
  .done (.ofValue (String.intercalate " " (steps.map Step.render)))

/-- UNZIP tells which children it is given, and ASYNC inserts an UNZIP that has some. -/
def asking : Runtime Unit where
  handlers
    | .set => some fun task => .done (.ofValue task.parameter)
    | .unzip => some fun _ => .children told
    | .async => some fun _ =>
      .insert [⟨.unzip, "x"⟩, ⟨.set, "c"⟩, .pop, .pop] fun _ => .done (.ofValue "done")
    | _ => none
  constants := ⟨[], fun _ => .error (.invalidRecipe "no constants")⟩
  facts := { family := .ubuntu, arch := .x86_64, id := ⟨0⟩ }
  clean _ world := (.ok (), world)
  announce _ _ world := world

/-- The last POP is that of the first step, and stays. -/
def nested : Software where
  parameter := "seed"
  steps := [⟨.unzip, "a"⟩, ⟨.set, "b"⟩, .pop, ⟨.set, "c"⟩, .pop, .pop, ⟨.set, "d"⟩]

theorem children_are_of_outermost_nested :
    ∃ session current : Session Unit, asking.start nested () = .ok session ∧
      (begin session).Reaches asking nested
        ⟨.handle ⟨.unzip, "a"⟩ false (.children told), [], current⟩ ∧
      current.takeChildren.1 = [⟨.set, "b"⟩, .pop, ⟨.set, "c"⟩, .pop] ∧
      TakesOwn ⟨.handle ⟨.unzip, "a"⟩ false (.children told), [], current⟩ current.takeChildren.1
        ⟨.handle ⟨.unzip, "a"⟩ false (told current.takeChildren.1), [], current.takeChildren.2⟩ := by
  let session : Session Unit :=
    ⟨nested.steps, [.ofValue "seed"], [.pushed none (.ofValue "seed")], ()⟩
  let current : Session Unit := { session with pending := nested.steps.tail }
  have started : asking.start nested () = .ok session := by cbv
  have later : later? asking nested 2 (begin session) =
      some ⟨.handle ⟨.unzip, "a"⟩ false (.children told), [], current⟩ := by cbv
  have reaches := reaches_of_later later
  obtain ⟨-, asked⟩ := children_are_of_outermost started
  obtain ⟨-, -, own⟩ := asked _ _ _ _ _ reaches
  exact ⟨session, current, started, reaches, by cbv, own.mpr fun caller outer same => by cases same⟩

/-- The step after the first is nested under it. -/
def detour : Software where
  parameter := "seed"
  steps := [⟨.async, "a"⟩, ⟨.set, "b"⟩, .pop, .pop]

/-- SET(c) is nested under the UNZIP that is inserted. Asked for its children, the engine gives SET(b),
which is nested under ASYNC, and so SET(c) is executed and SET(b) is not. -/
theorem children_of_another_step :
    ∃ session current final : Session Unit, ∃ caller, asking.start detour () = .ok session ∧
      (begin session).Reaches asking detour
        ⟨.handle ⟨.unzip, "x"⟩ false (.children told), [caller], current⟩ ∧
      caller.rest = [⟨.set, "c"⟩, .pop, .pop] ∧ current.takeChildren.1 = [⟨.set, "b"⟩, .pop] ∧
      ¬ TakesOwn ⟨.handle ⟨.unzip, "x"⟩ false (.children told), [caller], current⟩
        current.takeChildren.1
        ⟨.handle ⟨.unzip, "x"⟩ false (told current.takeChildren.1), [caller], current.takeChildren.2⟩ ∧
      asking.execute detour session = some (.ok (), final) ∧
      final.reports = [(⟨.unzip, "x"⟩, .ofValue "SET(b) POP"), (⟨.set, "c"⟩, .ofValue "c"),
        (⟨.async, "a"⟩, .ofValue "done")] := by
  let session : Session Unit :=
    ⟨detour.steps, [.ofValue "seed"], [.pushed none (.ofValue "seed")], ()⟩
  let current : Session Unit := { session with pending := detour.steps.tail }
  let caller : Caller Unit := ⟨⟨.async, "a"⟩, false, [⟨.set, "c"⟩, .pop, .pop],
    fun _ => .done (.ofValue "done")⟩
  have started : asking.start detour () = .ok session := by cbv
  have later : later? asking detour 4 (begin session) =
      some ⟨.handle ⟨.unzip, "x"⟩ false (.children told), [caller], current⟩ := by cbv
  have reports : (asking.execute detour session).map (fun run => (run.1, run.2.reports)) =
      some (.ok (), [(⟨.unzip, "x"⟩, .ofValue "SET(b) POP"), (⟨.set, "c"⟩, .ofValue "c"),
        (⟨.async, "a"⟩, .ofValue "done")]) := by cbv
  obtain ⟨⟨outcome, final⟩, ran, same⟩ := Option.map_eq_some_iff.mp reports
  obtain ⟨rfl, reported⟩ := Prod.mk.inj same
  refine ⟨session, current, final, caller, started, reaches_of_later later, rfl, by cbv, ?_, ran,
    reported⟩
  intro own
  obtain ⟨nothing, -⟩ := (takesOwn_iff ..).mp own caller [] rfl
  cases nothing.eq

end Runtime

end Provision
