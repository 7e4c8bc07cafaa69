import Provision.Proofs.Engine.Insertion
import Provision.Proofs.Handlers.Standard

/-! Handlers that put a resolved parameter into a step they insert. The engine resolves the inserted
step like any other, so the text is resolved for a second time, on the same stack. -/

namespace Provision

namespace Handlers

theorem aloof_onMachine {α : Type} (work : Machine.Work α) (frame : α → Frame) :
    ((onMachine work).bind fun value => .done (frame value)).Aloof :=
  (Handling.aloof_act _).bind fun _ => trivial

theorem aloof_command (task : Task) : (command task).Aloof := aloof_onMachine _ _

theorem aloof_toFile (task : Task) : (toFile task).Aloof := aloof_onMachine _ _

theorem aloof_move (task : Task) : (move task).Aloof := by
  unfold move
  exact Handling.aloof_topValue.bind fun _ => aloof_onMachine _ _

/-- The steps of MOVE_FF up to the one that moves the payload. -/
def beforePayload (layout : ProfileLayout) : List Step :=
  [⟨.command, "\"" ++ layout.program ++ "\" -CreateProfile \"testbirds " ++ layout.profiles ++
      "Profiles\x7b\x7bDELIMITER\x7d\x7dtestbirds.default\""⟩, .pop] ++
    placeText (profilesIni layout.newline) (layout.profiles ++ "profiles.ini")

/-- The step that moves the payload. -/
def payload (layout : ProfileLayout) (fileName : String) : Step :=
  ⟨.move, layout.profiles ++ profileDir ++ fileName⟩

/-- The steps of MOVE_FF behind the one that moves the payload. -/
def afterPayload (layout : ProfileLayout) (installation : Option String) (maximized : Bool) :
    List Step :=
  [.pop] ++
    (match installation with
    | some key => placeText (installsIni layout.newline key) (layout.profiles ++ "installs.ini")
    | none => []) ++
    (if maximized then
      placeText windowState (layout.profiles ++ profileDir ++ "xulstore.json")
    else [])

/-- The steps are balanced as they are, and no POP is added at their end. -/
theorem profileSteps_eq (layout : ProfileLayout) (fileName : String) (installation : Option String)
    (maximized : Bool) :
    profileSteps layout fileName installation maximized =
      beforePayload layout ++ payload layout fileName ::
        afterPayload layout installation maximized := by
  cases installation <;> cases maximized <;> rfl

/-- No placeholder reaches from the directory into the name of the file. -/
theorem resolve_payload (constants : Constants) (stack : Stack) (layout : ProfileLayout)
    (fileName : String) :
    Placeholder.resolve constants stack (payload layout fileName).parameter = do
      let directory ← Placeholder.resolve constants stack (layout.profiles ++ profileDir)
      let name ← Placeholder.resolve constants stack fileName
      return directory ++ name := by
  have directory : (layout.profiles ++ profileDir).toList =
      (layout.profiles ++ "Profiles\x7b\x7bDELIMITER\x7d\x7dtestbirds.default\x7b\x7bDELIMITER").toList ++
        ['\x7d', '\x7d'] := by
    rw [String.toList_append, String.toList_append, List.append_assoc]
    rfl
  have closed : Placeholder.Sealed constants.supported (layout.profiles ++ profileDir).toList
      fileName.toList := directory ▸ Placeholder.sealed_closed _ _
  exact Placeholder.resolve_append closed

end Handlers

namespace Runtime

variable {runtime : Runtime Machine} {software : Software} {session : Session Machine}
  {config : Config} {quiet : Bool} {parameter resolved : String}

/-- What the two operations come to that insert a step with the resolved parameter in it, where the
inserted step is carried out with `text` for that parameter. -/
structure Inserts (runtime : Runtime Machine) (software : Software) (nesting : Nat)
    (session : Session Machine) (parameter resolved : String) (text : Except Fault String) :
    Prop where
  certificate : ∀ front, Handlers.trustCommand? runtime.facts.family = some front →
    perform runtime software (nesting + 2) ⟨.installCert, parameter⟩ session =
      (carryOut runtime software nesting ⟨.command, front ++ resolved⟩ (text.map (front ++ ·))
        session).andThen fun ran =>
      (perform runtime software (nesting + 1) .pop ran).andThen
      (runtime.conclude ⟨.installCert, parameter⟩ (.ofValue "N/A"))
  profile : ∀ layout, Handlers.profileLayout? runtime.facts.family = some layout →
    perform runtime software (nesting + 2) ⟨.moveFf, parameter⟩ session =
      (runSteps (perform runtime software (nesting + 1)) (Handlers.beforePayload layout)
        session).andThen fun ready =>
      (carryOut runtime software nesting (Handlers.payload layout resolved)
        (do
          let directory ← Placeholder.resolve runtime.constants session.stack
            (layout.profiles ++ Handlers.profileDir)
          let name ← text
          return directory ++ name)
        ready).andThen fun placed =>
      (runSteps (perform runtime software (nesting + 1))
        (Handlers.afterPayload layout
          (Handlers.installation? runtime.facts.family software.version software.arch)
          (runtime.facts.family == .win)) placed).andThen
      (runtime.conclude ⟨.moveFf, parameter⟩ (.ofValue layout.profiles))

theorem Standard.certificate (standard : runtime.Standard config quiet) (software : Software)
    (nesting : Nat)
    (once : Placeholder.resolve runtime.constants session.stack parameter = .ok resolved)
    {front : String} (supported : Handlers.trustCommand? runtime.facts.family = some front) :
    perform runtime software (nesting + 2) ⟨.installCert, parameter⟩ session =
      (carryOut runtime software nesting ⟨.command, front ++ resolved⟩
        ((Placeholder.resolve runtime.constants session.stack resolved).map (front ++ ·))
        session).andThen fun ran =>
      (perform runtime software (nesting + 1) .pop ran).andThen
      (runtime.conclude ⟨.installCert, parameter⟩ (.ofValue "N/A")) := by
  have found : runtime.handlers .installCert = some Handlers.installCert :=
    standard.handlers_eq .installCert
  have inserts : Handlers.installCert ⟨resolved, software, runtime.facts, runtime.constants⟩ =
      (Handling.insertAll [⟨.command, front ++ resolved⟩, .pop]).bind fun _ =>
        .done (.ofValue "N/A") := by
    simp only [Handlers.installCert, supported]
    rfl
  have plain : '\x7b' ∉ front.toList := by
    cases family : runtime.facts.family <;> rw [family] at supported <;> cases supported <;> decide
  have command : Placeholder.resolve runtime.constants session.stack (front ++ resolved) =
      (Placeholder.resolve runtime.constants session.stack resolved).map (front ++ ·) := by
    rw [Placeholder.resolve_append (Placeholder.sealed_plain plain resolved.toList),
      Placeholder.resolve_of_plain plain]
    cases Placeholder.resolve runtime.constants session.stack resolved <;> rfl
  rw [perform_eq_carryOut rfl, once, carryOut_inserting found inserts, runSteps_cons,
    perform_eq_carryOut rfl, command, Outcome.andThen_assoc]
  exact Outcome.andThen_congr fun ran _ => by rw [runSteps_singleton]

/-- Everything in front of the payload is balanced, so that the payload meets the stack on which the
parameter was resolved. -/
theorem Standard.stack_beforePayload (standard : runtime.Standard config quiet)
    {layout : Handlers.ProfileLayout} {nesting : Nat} {ready : Session Machine}
    (run : runSteps (perform runtime software nesting) (Handlers.beforePayload layout) session =
      some (.ok (), ready)) : ready.stack = session.stack := by
  have aloof : runtime.AloofOn (Handlers.beforePayload layout) := by
    intro step member handler found
    rw [standard.handlers_eq] at found
    simp only [Handlers.beforePayload, Handlers.placeText, List.cons_append, List.nil_append,
      List.mem_cons, List.not_mem_nil, or_false] at member
    rcases member with rfl | rfl | rfl | rfl | rfl | rfl
    · have same : some Handlers.command = some handler := found
      rw [← Option.some.inj same]
      exact @Handlers.aloof_command
    · cases found
    · have same : some Handlers.toFile = some handler := found
      rw [← Option.some.inj same]
      exact @Handlers.aloof_toFile
    · have same : some Handlers.move = some handler := found
      rw [← Option.some.inj same]
      exact @Handlers.aloof_move
    · cases found
    · cases found
  exact runSteps_balanced (pushesOn_of_aloof aloof) rfl run

theorem Standard.profile (standard : runtime.Standard config quiet) (software : Software)
    (nesting : Nat)
    (once : Placeholder.resolve runtime.constants session.stack parameter = .ok resolved)
    {layout : Handlers.ProfileLayout}
    (supported : Handlers.profileLayout? runtime.facts.family = some layout) :
    perform runtime software (nesting + 2) ⟨.moveFf, parameter⟩ session =
      (runSteps (perform runtime software (nesting + 1)) (Handlers.beforePayload layout)
        session).andThen fun ready =>
      (carryOut runtime software nesting (Handlers.payload layout resolved)
        (do
          let directory ← Placeholder.resolve runtime.constants session.stack
            (layout.profiles ++ Handlers.profileDir)
          let name ← Placeholder.resolve runtime.constants session.stack resolved
          return directory ++ name)
        ready).andThen fun placed =>
      (runSteps (perform runtime software (nesting + 1))
        (Handlers.afterPayload layout
          (Handlers.installation? runtime.facts.family software.version software.arch)
          (runtime.facts.family == .win)) placed).andThen
      (runtime.conclude ⟨.moveFf, parameter⟩ (.ofValue layout.profiles)) := by
  have found : runtime.handlers .moveFf = some Handlers.moveFf := standard.handlers_eq .moveFf
  have inserts : Handlers.moveFf ⟨resolved, software, runtime.facts, runtime.constants⟩ =
      (Handling.insertAll (Handlers.beforePayload layout ++ Handlers.payload layout resolved ::
        Handlers.afterPayload layout
          (Handlers.installation? runtime.facts.family software.version software.arch)
          (runtime.facts.family == .win))).bind fun _ => .done (.ofValue layout.profiles) := by
    simp only [Handlers.moveFf, supported, Handlers.profileSteps_eq]
  rw [perform_eq_carryOut rfl, once, carryOut_inserting found inserts, runSteps_append,
    Outcome.andThen_assoc]
  refine Outcome.andThen_congr fun ready run => ?_
  rw [runSteps_cons, Outcome.andThen_assoc, perform_eq_carryOut rfl, Handlers.resolve_payload,
    standard.stack_beforePayload run]

/-- The text that a parameter came to is resolved again before the inserted step is carried out; where
no placeholder occurs in it, it arrives as it is. -/
theorem insertions_resolve_again (standard : runtime.Standard config quiet) (software : Software)
    (nesting : Nat)
    (once : Placeholder.resolve runtime.constants session.stack parameter = .ok resolved) :
    Inserts runtime software nesting session parameter resolved
        (Placeholder.resolve runtime.constants session.stack resolved) ∧
      ((∀ occurrence, ¬ Placeholder.Occurs runtime.constants.supported resolved.toList occurrence) →
        Inserts runtime software nesting session parameter resolved (.ok resolved)) := by
  have again : Inserts runtime software nesting session parameter resolved
      (Placeholder.resolve runtime.constants session.stack resolved) :=
    ⟨fun _ => standard.certificate software nesting once,
      fun _ => standard.profile software nesting once⟩
  refine ⟨again, fun none => ?_⟩
  rwa [Placeholder.resolve_of_no_occurrence none] at again

/-- The run has nothing on the stack but one value. -/
def holding (value : String) : Session Machine where
  pending := []
  stack := [.ofValue value]
  events := [.pushed none (.ofValue value)]
  world := obedient

/-- What looks like a placeholder in the value is replaced. -/
theorem insertions_resolve_again_twice :
    onMac.Standard {} true ∧
      Placeholder.resolve onMac.constants (holding "ca \x7b\x7b0\x7d\x7d.pem").stack
        "\x7b\x7b0\x7d\x7d" = .ok "ca \x7b\x7b0\x7d\x7d.pem" ∧
      Inserts onMac {} 0 (holding "ca \x7b\x7b0\x7d\x7d.pem") "\x7b\x7b0\x7d\x7d"
        "ca \x7b\x7b0\x7d\x7d.pem" (.ok "ca ca \x7b\x7b0\x7d\x7d.pem.pem") := by
  have once : Placeholder.resolve onMac.constants (holding "ca \x7b\x7b0\x7d\x7d.pem").stack
      "\x7b\x7b0\x7d\x7d" = .ok "ca \x7b\x7b0\x7d\x7d.pem" := by cbv
  have twice : Placeholder.resolve onMac.constants (holding "ca \x7b\x7b0\x7d\x7d.pem").stack
      "ca \x7b\x7b0\x7d\x7d.pem" = .ok "ca ca \x7b\x7b0\x7d\x7d.pem.pem" := by cbv
  exact ⟨standard_onMac, once, twice ▸ (insertions_resolve_again standard_onMac {} 0 once).1⟩

/-- A certificate whose name looks like a placeholder without a value is refused as a fault of the
recipe, although the recipe's own placeholder has a value. -/
theorem certificate_refused :
    Placeholder.resolve onMac.constants (holding "ca \x7b\x7b9\x7d\x7d.pem").stack
        "\x7b\x7b0\x7d\x7d" = .ok "ca \x7b\x7b9\x7d\x7d.pem" ∧
      perform onMac {} 2 ⟨.installCert, "\x7b\x7b0\x7d\x7d"⟩ (holding "ca \x7b\x7b9\x7d\x7d.pem") =
        some (.error (.indexOutOfRange 9 1), holding "ca \x7b\x7b9\x7d\x7d.pem") ∧
      ¬ Inserts onMac {} 0 (holding "ca \x7b\x7b9\x7d\x7d.pem") "\x7b\x7b0\x7d\x7d"
        "ca \x7b\x7b9\x7d\x7d.pem" (.ok "ca \x7b\x7b9\x7d\x7d.pem") := by
  have once : Placeholder.resolve onMac.constants (holding "ca \x7b\x7b9\x7d\x7d.pem").stack
      "\x7b\x7b0\x7d\x7d" = .ok "ca \x7b\x7b9\x7d\x7d.pem" := by cbv
  have refused : perform onMac {} 2 ⟨.installCert, "\x7b\x7b0\x7d\x7d"⟩
      (holding "ca \x7b\x7b9\x7d\x7d.pem") =
        some (.error (.indexOutOfRange 9 1), holding "ca \x7b\x7b9\x7d\x7d.pem") := by cbv
  refine ⟨once, refused, fun inserts => ?_⟩
  have faithful := inserts.certificate _ rfl
  rw [refused] at faithful
  have succeeds := congrArg (Option.map fun result => result.1.isOk) faithful
  cbv at succeeds
  cases succeeds

end Runtime

end Provision
