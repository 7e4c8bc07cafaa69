import Provision.Proofs.Handlers.Tenure
import Std.Data.String.ToNat

/-! No two frames on the stack have to clean the same thing up, except the results of DMG_EULA. -/

namespace Provision

open Machine

/-- No random part was handed out twice between the two moments. -/
def Machine.Unrepeated (before after : Machine) : Prop :=
  ∀ first second, before.names ≤ first → first < second → second < after.names →
    randomPart first ≠ randomPart second

/-- Both frames have to clean the same thing up. -/
def Frame.Contests (upper lower : Frame) : Prop :=
  ∃ first second, upper.cleanup = some first ∧ lower.cleanup = some second ∧
    first.resource = second.resource

/-- The entry is a result of DMG_EULA. -/
def Converted (entry : Option Step × Frame) : Prop :=
  entry.1.map Step.operation = some .dmgEula

/-- The assumption is met as long as there are more names than numbers. -/
theorem Machine.unrepeated_of_few {before after : Machine}
    (few : after.names ≤ before.names + 56800235584) : before.Unrepeated after :=
  fun _ _ begun ordered used => randomPart_ne ordered (by omega)

section Apart

variable {directory : String} {operation other : Operation} {cleanup obligation : Cleanup}
  {start earlier since now : Machine} {upper lower : Option Step × Frame}
  {entries : List (Option Step × Frame)}

theorem Machine.Unrepeated.until (unrepeated : start.Unrepeated now) (later : since.Later now) :
    start.Unrepeated since := fun first second begun ordered used =>
  unrepeated first second begun ordered (Nat.lt_of_lt_of_le used later.names)

/-- What was named later has another name, except for the image. -/
theorem Owes.converted_of_same (unrepeated : start.Unrepeated now) (begun : start.Later earlier)
    (newer : Owes directory operation since now (some cleanup))
    (older : Owes directory other earlier since (some obligation))
    (same : cleanup.resource = obligation.resource) :
    operation = .dmgEula ∧ other = .dmgEula := by
  cases newer with
  | @resource _ upper marks unused used =>
    cases older with
    | @resource _ lower marked fresh issued =>
      obtain ⟨rfl, parts⟩ := marks.same_resource marked same
      have random : ∀ first second, upper = .temporary second → lower = .temporary first → False := by
        rintro first second rfl rfl
        refine unrepeated first second (Nat.le_trans begun.names fresh)
          (Nat.lt_of_lt_of_le issued unused) used ?_
        exact String.toList_inj.mp parts.symm
      cases marks with
      | toFile => cases marked with | toFile => exact (random _ _ rfl rfl).elim
      | unzip => cases marked with | unzip => exact (random _ _ rfl rfl).elim
      | download => cases marked with | download => exact (random _ _ rfl rfl).elim
      | dmg second =>
        cases marked with
        | dmg first =>
          have numbers : second = first := Nat.repr_inj.mp (String.toList_inj.mp parts)
          exact absurd (Nat.lt_of_lt_of_le issued unused) (numbers ▸ Nat.lt_irrefl _)
      | dmgEula => exact ⟨rfl, by cases marked; rfl⟩

/-- The image is always left behind, under the same name. -/
theorem Held.cleanup_of_converted (held : Held directory since now upper)
    (converted : Converted upper) :
    upper.2.cleanup = some ⟨.delete, PathText.join directory "tech.cdr"⟩ := by
  rcases upper with ⟨_ | step, frame⟩
  · cases converted
  have operation : step.operation = .dmgEula := Option.some.inj converted
  have owes : Owes directory .dmgEula since now frame.cleanup := operation ▸ held
  change frame.cleanup = _
  cases left : frame.cleanup with
  | none => rw [left] at owes; cases owes with | nothing traceless => cases traceless
  | some cleanup =>
    rw [left] at owes
    cases owes with | resource marks unused used => rw [marks.eq_image]

/-- Five operations always leave something to be cleaned up, and no other does. -/
theorem Held.isSome_cleanup (held : Held directory since now upper) :
    upper.2.cleanup.isSome = upper.1.any fun step => step.operation.leavesTraces := by
  rcases upper with ⟨_ | step, frame⟩
  · exact congrArg Option.isSome held
  have owes : Owes directory step.operation since now frame.cleanup := held
  change frame.cleanup.isSome = step.operation.leavesTraces
  generalize step.operation = operation at owes
  generalize frame.cleanup = left at owes
  cases owes with
  | nothing traceless => exact traceless.symm
  | resource marks unused used => cases marks <;> rfl

/-- Two entries contest a resource just if both are images. -/
theorem Held.contests_iff (unrepeated : start.Unrepeated now) (begun : start.Later earlier)
    (newer : Held directory since now upper) (older : Held directory earlier since lower) :
    upper.2.Contests lower.2 ↔ Converted upper ∧ Converted lower := by
  constructor
  · rintro ⟨cleanup, obligation, owed, owing, same⟩
    rcases upper with ⟨_ | step, frame⟩
    · cases owed.symm.trans newer
    rcases lower with ⟨_ | step', frame'⟩
    · cases owing.symm.trans older
    have first : Owes directory step.operation since now (some cleanup) := owed ▸ newer
    have second : Owes directory step'.operation earlier since (some obligation) := owing ▸ older
    obtain ⟨top, bottom⟩ := first.converted_of_same unrepeated begun second same
    exact ⟨congrArg some top, congrArg some bottom⟩
  · rintro ⟨top, bottom⟩
    exact ⟨_, _, newer.cleanup_of_converted top, older.cleanup_of_converted bottom, rfl⟩

theorem Tenure.pairwise (tenure : Tenure start now entries) (unrepeated : start.Unrepeated now) :
    entries.Pairwise fun upper lower => upper.2.Contests lower.2 ↔ Converted upper ∧ Converted lower := by
  induction tenure with
  | nil begun => exact .nil
  | push below between held ih =>
    refine .cons (fun lower member => ?_) (ih (unrepeated.until between))
    obtain ⟨earlier, begun, older⟩ := below.held_of_mem member
    exact held.contests_iff unrepeated begun older

end Apart

open Moment in
/-- At every moment of a run with the built-in handlers, the results of five operations have something
to clean up, and two frames on the stack have to clean the same thing up just if both are results of
DMG_EULA; so no two have to as long as one such result at most is on the stack. Every outcome of the
bounded engine is that of such a run. -/
theorem Runtime.contested_iff_converted {config : Config} {quiet : Bool}
    {runtime : Runtime Machine} {software : Software} {session : Session Machine} {world : Machine}
    (standard : runtime.Standard config quiet)
    (started : runtime.start software world = .ok session) :
    (∀ outcome final, runtime.execute software session = some (outcome, final) →
      (begin session).Reaches runtime software ⟨.ended outcome, [], final⟩) ∧
    ∀ moment, (begin session).Reaches runtime software moment →
      world.Unrepeated moment.session.world →
      (owners moment.session.events).map Prod.snd = moment.session.stack ∧
      (∀ entry ∈ owners moment.session.events, entry.2.cleanup.isSome =
        entry.1.any fun step => step.operation.leavesTraces) ∧
      (owners moment.session.events).Pairwise (fun upper lower =>
        upper.2.Contests lower.2 ↔ Converted upper ∧ Converted lower) ∧
      ((owners moment.session.events).Pairwise (fun upper lower =>
          ¬ (Converted upper ∧ Converted lower)) ↔
        moment.session.stack.Pairwise fun upper lower => ¬ upper.Contests lower) := by
  refine ⟨fun outcome final => reaches_execute, fun moment reaches unrepeated => ?_⟩
  have onStack : (owners moment.session.events).map Prod.snd = moment.session.stack :=
    ((respects_orderly runtime).reaches reaches (orderly_start started)).owners
  have tenure := ((Tenured.begin started).reaches standard reaches).tenure
  have apart := tenure.pairwise unrepeated
  refine ⟨onStack, fun entry member => ?_, apart, ?_⟩
  · obtain ⟨since, -, held⟩ := tenure.held_of_mem member
    exact held.isSome_cleanup
  rw [← onStack, List.pairwise_map]
  constructor
  · intro single
    exact (apart.and single).imp fun both contests => both.2 (both.1.mp contests)
  · intro distinct
    exact (apart.and distinct).imp fun both converted => both.2 (both.1.mpr converted)

namespace Runtime

/-- One mount point is given up before the image is made. -/
def mounting : Software where
  parameter := "seed"
  steps := [⟨.dmg, "a.dmg"⟩, ⟨.dmg, "b.dmg"⟩, .pop, ⟨.dmgEula, "c.dmg"⟩,
    ⟨.dmg, "\x7b\x7b0\x7d\x7d"⟩]

/-- One image under another. -/
def converting : Software where
  parameter := "seed"
  steps := [⟨.dmgEula, "a.dmg"⟩, ⟨.dmgEula, "b.dmg"⟩]

open Moment in
/-- Two mount points and an image, each with an owner of its own. -/
theorem contested_iff_converted_mounting :
    onMac.Standard {} true ∧ ∃ session moment, onMac.start mounting obedient = .ok session ∧
      (begin session).Reaches onMac mounting moment ∧
      obedient.Unrepeated moment.session.world ∧
      moment.session.stack.map (fun frame => frame.cleanup.map Cleanup.resource) =
        [some "/Volumes/techmount2", some "/tmp/tech.cdr", some "/Volumes/techmount0", none] ∧
      moment.session.stack.Pairwise fun upper lower => ¬ upper.Contests lower := by
  let session : Session Machine :=
    ⟨mounting.steps, [.ofValue "seed"], [.pushed none (.ofValue "seed")], obedient⟩
  have started : onMac.start mounting obedient = .ok session := by cbv
  have run : (later? onMac mounting 27 (begin session)).map (fun moment =>
      (moment.session.world.names,
        moment.session.stack.map fun frame => frame.cleanup.map Cleanup.resource,
        (owners moment.session.events).map fun entry => entry.1.map Step.operation)) =
      some (0, [some "/Volumes/techmount2", some "/tmp/tech.cdr", some "/Volumes/techmount0", none],
        [some .dmg, some .dmgEula, some .dmg, none]) := by decide +kernel
  obtain ⟨moment, later, facts⟩ := Option.map_eq_some_iff.mp run
  obtain ⟨names, resources, operations⟩ : _ ∧ _ ∧ _ := by simpa only [Prod.mk.injEq] using facts
  have reaches := reaches_of_later later
  have unrepeated : obedient.Unrepeated moment.session.world :=
    unrepeated_of_few (by rw [names]; decide)
  have single : (owners moment.session.events).Pairwise fun upper lower =>
      ¬ (Converted upper ∧ Converted lower) := by
    have apart : ([some .dmg, some .dmgEula, some .dmg, none] : List (Option Operation)).Pairwise
        fun upper lower => ¬ (upper = some .dmgEula ∧ lower = some .dmgEula) := by decide
    rw [← operations] at apart
    exact List.pairwise_map.mp apart
  obtain ⟨-, -, -, alone⟩ :=
    (contested_iff_converted standard_onMac started).2 moment reaches unrepeated
  exact ⟨standard_onMac, session, moment, started, reaches, unrepeated, resources, alone.mp single⟩

open Moment in
/-- Both results of DMG_EULA have to delete the same image, so that one of them goes with the other. -/
theorem image_shared :
    ∃ session moment, onMac.start converting obedient = .ok session ∧
      (begin session).Reaches onMac converting moment ∧
      obedient.Unrepeated moment.session.world ∧
      moment.session.stack = [Handlers.ownedPath "/tmp/tech.cdr",
        Handlers.ownedPath "/tmp/tech.cdr", .ofValue "seed"] ∧
      ¬ moment.session.stack.Pairwise fun upper lower => ¬ upper.Contests lower := by
  let session : Session Machine :=
    ⟨converting.steps, [.ofValue "seed"], [.pushed none (.ofValue "seed")], obedient⟩
  have started : onMac.start converting obedient = .ok session := by cbv
  have run : (later? onMac converting 12 (begin session)).map (fun moment =>
      (moment.session.world.names, moment.session.stack)) =
      some (0, [Handlers.ownedPath "/tmp/tech.cdr", Handlers.ownedPath "/tmp/tech.cdr",
        .ofValue "seed"]) := by decide +kernel
  obtain ⟨moment, later, facts⟩ := Option.map_eq_some_iff.mp run
  obtain ⟨names, stack⟩ : _ ∧ _ := by simpa only [Prod.mk.injEq] using facts
  refine ⟨session, moment, started, reaches_of_later later,
    unrepeated_of_few (by rw [names]; decide), stack, ?_⟩
  rw [stack]
  intro distinct
  exact (List.pairwise_cons.mp distinct).1 _ List.mem_cons_self ⟨_, _, rfl, rfl, rfl⟩

end Runtime

end Provision
