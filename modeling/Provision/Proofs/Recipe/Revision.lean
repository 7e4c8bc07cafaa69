import Mathlib.Data.List.Forall2
import Mathlib.Logic.Relation
import Provision.Json.Value
import Provision.Proofs.Json.Printing
import Provision.Recipe.File
import Provision.Report

/-! Recipes as JSON documents. What is printed of a recipe is read as that recipe. Edits that should not
matter do not: other orders of the keys, unknown keys, and keys that hold what stands for no value at all,
as a default does. -/

namespace Provision.Json

/-- An edit of a record with these fields. What `alike` relates are two values of a field that mean the
same, where none stands for a field that is left out. -/
inductive Edited (names : List String) (alike : String → Option Json → Option Json → Prop) :
    Json → Json → Prop where
  | reorder {members members' : List (Option String × Json)} (same : members.Perm members') :
    Edited names alike (object members) (object members')
  | add {name : String} (unknown : name ∉ names) (value : Json) (members : List (Option String × Json)) :
    Edited names alike (object members) (object ((some name, value) :: members))
  | leaveOut {name : String} {value : Json} {members : List (Option String × Json)}
    (default : alike name (some value) none) (once : some name ∉ members.map Prod.fst) :
    Edited names alike (object ((some name, value) :: members)) (object members)
  | replace {name : String} {value value' : Json} {members : List (Option String × Json)}
    (same : alike name (some value) (some value')) :
    Edited names alike (object ((some name, value) :: members)) (object ((some name, value') :: members))

/-- The members with a key. -/
def under (name : String) (members : List (Option String × Json)) : List (Option String × Json) :=
  members.filter fun member => member.1 == some name

variable {names : List String} {alike : String → Option Json → Option Json → Prop} {name : String}
  {value value' : Json} {members members' : List (Option String × Json)}

theorem areDistinct_iff : areDistinct names members = true ↔
    (∀ member ∈ members, member.1.isSome = true) ∧ ∀ name ∈ names, (under name members).length ≤ 1 := by
  simp [areDistinct, under]

theorem get?_eq_head? : (object members).get? name = ((under name members).head?).map Prod.snd := by
  simp [get?, under, List.head?_filter]

theorem under_cons_self :
    under name ((some name, value) :: members) = (some name, value) :: under name members :=
  List.filter_cons_of_pos (by simp)

theorem under_cons_other {other : String} (different : other ≠ name) :
    under name ((some other, value) :: members) = under name members :=
  List.filter_cons_of_neg (by simpa using different)

theorem under_eq_nil (absent : some name ∉ members.map Prod.fst) : under name members = [] := by
  refine List.filter_eq_nil_iff.mpr fun member within same => absent ?_
  rw [← eq_of_beq same]
  exact List.mem_map_of_mem within

/-- There is one order only if there is no more than one member. -/
theorem eq_of_perm (perm : members.Perm members') (few : members.length ≤ 1) : members = members' := by
  cases members with
  | nil => exact (List.nil_perm.mp perm).symm
  | cons member rest =>
    have alone : rest = [] := List.eq_nil_of_length_eq_zero (Nat.le_zero.mp (Nat.le_of_succ_le_succ few))
    rw [alone] at perm ⊢
    exact List.singleton_perm.mp perm

/-- Two records whose fields are the same or alike. -/
def Agree (names : List String) (alike : String → Option Json → Option Json → Prop)
    (found found' : Option (String → Option Json)) : Prop :=
  (found = none ∧ found' = none) ∨
    ∃ field field', found = some field ∧ found' = some field' ∧
      ∀ name ∈ names, field name = field' name ∨ alike name (field name) (field' name)

theorem agree_of_under
    (texts : (∀ member ∈ members, member.1.isSome = true) ↔ ∀ member ∈ members', member.1.isSome = true)
    (few : ∀ name ∈ names, (under name members).length ≤ 1 ↔ (under name members').length ≤ 1)
    (same : ∀ name ∈ names, (under name members).length ≤ 1 →
      (object members).get? name = (object members').get? name ∨
        alike name ((object members).get? name) ((object members').get? name)) :
    Agree names alike (fields? names (object members)) (fields? names (object members')) := by
  have distinct : areDistinct names members = true ↔ areDistinct names members' = true := by
    rw [areDistinct_iff, areDistinct_iff, texts]
    exact and_congr_right fun _ => forall₂_congr few
  by_cases apart : areDistinct names members = true
  · refine .inr ⟨_, _, by rw [fields?, if_pos apart], by rw [fields?, if_pos (distinct.mp apart)], ?_⟩
    intro name known
    exact same name known ((areDistinct_iff.mp apart).2 name known)
  · have apart' : ¬ areDistinct names members' = true := fun other => apart (distinct.mpr other)
    exact .inl ⟨by rw [fields?, if_neg apart], by rw [fields?, if_neg apart']⟩

/-- An edit leaves a record a record, with fields that are the same or alike. -/
theorem Edited.agree (edited : Edited names alike value value') :
    Agree names alike (fields? names value) (fields? names value') := by
  cases edited with
  | @reorder members members' same =>
    have perm : ∀ name, (under name members).Perm (under name members') := fun name => same.filter _
    refine agree_of_under ?_ ?_ ?_
    · exact forall_congr' fun member => by rw [same.mem_iff]
    · intro name _
      rw [(perm name).length_eq]
    · intro name _ few
      left
      rw [get?_eq_head?, get?_eq_head?, eq_of_perm (perm name) few]
  | @add name unknown added members =>
    have other : ∀ known ∈ names, under known ((some name, added) :: members) = under known members :=
      fun known within => under_cons_other fun same => unknown (same ▸ within)
    refine agree_of_under (by simp) ?_ ?_
    · intro known within
      rw [other known within]
    · intro known within _
      rw [get?_eq_head?, get?_eq_head?, other known within]
      exact .inl rfl
  | @leaveOut name value members default once =>
    refine agree_of_under (by simp) ?_ ?_
    · intro known _
      by_cases same : name = known
      · subst same
        rw [under_cons_self, under_eq_nil once]
        simp
      · rw [under_cons_other same]
    · intro known _ _
      by_cases same : name = known
      · subst same
        right
        rw [get?_eq_head?, get?_eq_head?, under_cons_self, under_eq_nil once]
        exact default
      · left
        rw [get?_eq_head?, get?_eq_head?, under_cons_other same]
  | @replace name value value' members same =>
    refine agree_of_under (by simp) ?_ ?_
    · intro known _
      by_cases same : name = known
      · subst same
        rw [under_cons_self, under_cons_self, List.length_cons, List.length_cons]
      · rw [under_cons_other same, under_cons_other same]
    · intro known _ _
      by_cases same : name = known
      · subst same
        right
        rw [get?_eq_head?, get?_eq_head?, under_cons_self, under_cons_self]
        assumption
      · left
        rw [get?_eq_head?, get?_eq_head?, under_cons_other same, under_cons_other same]

end Provision.Json

namespace Provision

/-- Values of a step's fields that mean the same: no parameter is an empty one. -/
inductive Step.Alike : String → Option Json → Option Json → Prop where
  | parameter : Step.Alike "parameter" (some (.ofText "")) none

/-- Steps that differ in nothing that matters. -/
def Step.Revised : Json → Json → Prop := Relation.EqvGen (Json.Edited Step.fieldNames Step.Alike)

inductive Software.Alike : String → Option Json → Option Json → Prop where
  | null {name : String} (optional : name ∈ ["name", "version", "arch"]) :
    Software.Alike name (some .null) none
  | parameter : Software.Alike "parameter" (some (.ofText "")) none
  | noSteps : Software.Alike "steps" (some (.array [])) none
  | steps {items items' : List Json} (revised : List.Forall₂ Step.Revised items items') :
    Software.Alike "steps" (some (.array items)) (some (.array items'))

/-- Documents that differ in nothing that matters. -/
def Software.Revised : Json → Json → Prop :=
  Relation.EqvGen (Json.Edited Software.fieldNames Software.Alike)

variable {value value' : Json}

theorem eq_of_revised {α : Type} {read : Json → α} {related : Json → Json → Prop}
    (same : ∀ value value', related value value' → read value = read value')
    (revised : Relation.EqvGen related value value') : read value = read value' := by
  induction revised with
  | rel value value' edited => exact same value value' edited
  | refl value => rfl
  | symm value value' _ ih => exact ih.symm
  | trans value between value' _ _ first second => exact first.trans second

section Steps

theorem Step.Alike.name_eq {name : String} {given given' : Option Json}
    (alike : Step.Alike name given given') : name = "parameter" := by
  cases alike
  rfl

theorem Step.Alike.parameter_eq {name : String} {given given' : Option Json}
    (alike : Step.Alike name given given') :
    Json.orElse "" Json.text? given = Json.orElse "" Json.text? given' := by
  cases alike
  rfl

theorem Step.ofJson?_edited (edited : Json.Edited Step.fieldNames Step.Alike value value') :
    Step.ofJson? value = Step.ofJson? value' := by
  obtain ⟨found, found'⟩ | ⟨field, other, found, found', agree⟩ := edited.agree
  · rw [Step.ofJson?, Step.ofJson?, found, found']
  · have op : field "op" = other "op" :=
      (agree "op" (by decide)).resolve_right fun alike => absurd alike.name_eq (by decide)
    have parameter : Json.orElse "" Json.text? (field "parameter") =
        Json.orElse "" Json.text? (other "parameter") := by
      rcases agree "parameter" (by decide) with same | alike
      · rw [same]
      · exact alike.parameter_eq
    rw [Step.ofJson?, Step.ofJson?, found, found']
    simp only [Option.bind_eq_bind, Option.bind_some, op, parameter]

theorem Step.ofJson?_revised (revised : Step.Revised value value') :
    Step.ofJson? value = Step.ofJson? value' :=
  eq_of_revised (fun _ _ => Step.ofJson?_edited) revised

theorem Step.mapM_ofJson?_revised {items items' : List Json}
    (revised : List.Forall₂ Step.Revised items items') :
    items.mapM Step.ofJson? = items'.mapM Step.ofJson? := by
  induction revised with
  | nil => rfl
  | cons first _ ih => rw [List.mapM_cons, List.mapM_cons, Step.ofJson?_revised first, ih]

theorem Step.ofJson?_toJson (step : Step) : Step.ofJson? step.toJson = some step := by
  have op : (step.toJson.get? "op").bind Json.word? = some step.operation.keyword := rfl
  have parameter : Json.orElse "" Json.text? (step.toJson.get? "parameter") = some step.parameter := rfl
  have found : step.toJson.fields? Step.fieldNames = some step.toJson.get? := rfl
  rw [Step.ofJson?, found]
  simp only [Option.bind_eq_bind, Option.bind_some, op, parameter, Operation.ofKeyword?_keyword]
  rfl

end Steps

section Softwares

variable {name : String} {given given' : Option Json}

theorem Software.Alike.optional_eq (alike : Software.Alike name given given')
    (optional : name ∈ ["name", "version", "arch"]) {α : Type} (read : Json → Option α) :
    Json.optional? read given = Json.optional? read given' := by
  cases alike with
  | null => rfl
  | parameter | noSteps | steps => exact absurd optional (by decide)

theorem Software.Alike.parameter_eq (alike : Software.Alike name given given') (same : name = "parameter") :
    Json.orElse "" Json.text? given = Json.orElse "" Json.text? given' := by
  cases alike with
  | null optional => exact absurd (same ▸ optional) (by decide)
  | parameter => rfl
  | noSteps | steps => exact absurd same (by decide)

theorem Software.Alike.steps_eq (alike : Software.Alike name given given') (same : name = "steps") :
    Json.orElse [] (fun value => value.items?.bind (List.mapM Step.ofJson?)) given =
      Json.orElse [] (fun value => value.items?.bind (List.mapM Step.ofJson?)) given' := by
  cases alike with
  | null optional => exact absurd (same ▸ optional) (by decide)
  | parameter => exact absurd same (by decide)
  | noSteps => rfl
  | steps revised => exact Step.mapM_ofJson?_revised revised

theorem Software.ofJson?_edited (edited : Json.Edited Software.fieldNames Software.Alike value value') :
    Software.ofJson? value = Software.ofJson? value' := by
  obtain ⟨found, found'⟩ | ⟨field, other, found, found', agree⟩ := edited.agree
  · rw [Software.ofJson?, Software.ofJson?, found, found']
  · have optional : ∀ name ∈ ["name", "version", "arch"], ∀ {α : Type} (read : Json → Option α),
        Json.optional? read (field name) = Json.optional? read (other name) := by
      intro name within α read
      rcases agree name (List.mem_append_left ["parameter", "steps"] within) with same | alike
      · rw [same]
      · exact alike.optional_eq within read
    have parameter : Json.orElse "" Json.text? (field "parameter") =
        Json.orElse "" Json.text? (other "parameter") := by
      rcases agree "parameter" (by decide) with same | alike
      · rw [same]
      · exact alike.parameter_eq rfl
    have steps : Json.orElse [] (fun value => value.items?.bind (List.mapM Step.ofJson?)) (field "steps") =
        Json.orElse [] (fun value => value.items?.bind (List.mapM Step.ofJson?)) (other "steps") := by
      rcases agree "steps" (by decide) with same | alike
      · rw [same]
      · exact alike.steps_eq rfl
    rw [Software.ofJson?, Software.ofJson?, found, found']
    simp only [Option.bind_eq_bind, Option.bind_some, optional "name" (by decide),
      optional "version" (by decide), optional "arch" (by decide), parameter, steps]

theorem Software.ofJson?_revised (revised : Software.Revised value value') :
    Software.ofJson? value = Software.ofJson? value' :=
  eq_of_revised (fun _ _ => Software.ofJson?_edited) revised

theorem optional?_optionalText (text : Option String) :
    Json.optional? Json.text? (some (optionalText text)) = some text := by
  cases text <;> rfl

theorem optional?_arch (arch : Option Arch) :
    Json.optional? (fun value => value.word?.bind Arch.ofKeyword?)
      (some (optionalText (arch.map Arch.keyword))) = some arch := by
  cases arch with
  | none => rfl
  | some arch => cases arch <;> decide

theorem mapM_ofJson?_toJson (steps : List Step) : (steps.map Step.toJson).mapM Step.ofJson? = some steps := by
  induction steps with
  | nil => rfl
  | cons step steps ih =>
    rw [List.map_cons, List.mapM_cons, Step.ofJson?_toJson, ih]
    rfl

theorem Software.ofJson?_toJson (software : Software) :
    Software.ofJson? software.toJson = some software := by
  have found : software.toJson.fields? Software.fieldNames = some software.toJson.get? := rfl
  have name : software.toJson.get? "name" = some (optionalText software.name) := rfl
  have version : software.toJson.get? "version" = some (optionalText software.version) := rfl
  have arch : software.toJson.get? "arch" = some (optionalText (software.arch.map Arch.keyword)) := rfl
  have steps : software.toJson.get? "steps" = some (.array (software.steps.map Step.toJson)) := rfl
  rw [Software.ofJson?, found]
  simp only [Option.bind_eq_bind, Option.bind_some, name, version, arch, steps,
    optional?_optionalText, optional?_arch, Json.orElse, Json.items?, mapM_ofJson?_toJson]
  rfl

end Softwares

section Documents

theorem writable_optionalText (text : Option String) : (optionalText text).Writable := by
  cases text with
  | none => exact .null
  | some text => exact .ofText text

theorem Step.writable_toJson (step : Step) : step.toJson.Writable := by
  refine .ofMembers ?_
  rintro member within
  simp only [List.mem_cons, List.not_mem_nil, or_false] at within
  rcases within with rfl | rfl
  · exact .ofText _
  · exact .ofText _

theorem Software.writable_toJson (software : Software) : software.toJson.Writable := by
  refine .ofMembers ?_
  rintro member within
  simp only [List.mem_cons, List.not_mem_nil, or_false] at within
  rcases within with rfl | rfl | rfl | rfl | rfl
  · exact writable_optionalText _
  · exact writable_optionalText _
  · exact writable_optionalText _
  · exact .ofText _
  · refine .array ?_
    rintro item within
    obtain ⟨step, -, rfl⟩ := List.mem_map.mp within
    exact step.writable_toJson

namespace Recipe

/-- What is printed of a recipe is read as that recipe. So is, however it is spelled, every document that
differs from it in the order of keys, in unknown keys and in keys that hold a default; and of any two
documents that differ in no more than that, both are the same recipe or neither is one. -/
theorem parse_documents :
    (∀ software : Software, parse .json software.toJson.render = .ok software ∧
      parse .json (software.toJson.pretty 0) = .ok software) ∧
    (∀ (software : Software) (document : Json) (text : String),
      Software.Revised software.toJson document → Json.Spells text document →
        parse .json text = .ok software) ∧
    ∀ (document document' : Json) (text text' : String), Software.Revised document document' →
      Json.parse? text = some document → Json.parse? text' = some document' →
        parse .json text = parse .json text' := by
  have revisions : ∀ (software : Software) (document : Json) (text : String),
      Software.Revised software.toJson document → Json.Spells text document →
        parse .json text = .ok software := by
    intro software document text revised spells
    have decoded : Software.ofJson? document = some software := by
      rw [← Software.ofJson?_revised revised, software.ofJson?_toJson]
    simp only [parse, Json.parse?_of_spells spells, Option.bind_some, decoded]
  refine ⟨?_, revisions, ?_⟩
  · intro software
    have writable := software.writable_toJson
    constructor
    · exact revisions software software.toJson _ (.refl _) (Json.spells_render writable)
    · exact revisions software software.toJson _ (.refl _) (Json.spells_pretty writable 0)
  · intro document document' text text' revised read read'
    simp only [parse, read, read', Option.bind_some, Software.ofJson?_revised revised]

/-- A document that says no more than it has to, and something that nobody asked for. -/
def brief : Json :=
  .ofMembers [("note", .array [.null]), ("steps", .array [.ofMembers [("op", .ofText "SET")],
    .ofMembers [("parameter", .ofText ""), ("op", .ofText "POP")]])]

theorem writable_brief : brief.Writable := by
  refine .ofMembers ?_
  simp only [List.forall_mem_cons, List.not_mem_nil, false_implies, implies_true, and_true]
  refine ⟨.array ?_, .array ?_⟩
  · simp only [List.forall_mem_cons, List.not_mem_nil, false_implies, implies_true, and_true]
    exact .null
  · simp only [List.forall_mem_cons, List.not_mem_nil, false_implies, implies_true, and_true]
    refine ⟨.ofMembers ?_, .ofMembers ?_⟩
    · simpa using Json.Writable.ofText "SET"
    · simpa using ⟨Json.Writable.ofText "", Json.Writable.ofText "POP"⟩

theorem revised_brief : Software.Revised (Software.toJson { steps := [⟨.set, ""⟩, .pop] }) brief := by
  have set : Step.Revised (Step.toJson ⟨.set, ""⟩) (.ofMembers [("op", .ofText "SET")]) := by
    have reordered : Step.Revised (Step.toJson ⟨.set, ""⟩)
        (.ofMembers [("parameter", .ofText ""), ("op", .ofText "SET")]) :=
      .rel _ _ (.reorder (.swap _ _ _))
    exact reordered.trans _ _ _ (.rel _ _ (.leaveOut .parameter (by decide)))
  have pop : Step.Revised (Step.toJson .pop)
      (.ofMembers [("parameter", .ofText ""), ("op", .ofText "POP")]) :=
    .rel _ _ (.reorder (.swap _ _ _))
  have thinned : Software.Revised (Software.toJson { steps := [⟨.set, ""⟩, .pop] })
      (.ofMembers [("steps", .array [Step.toJson ⟨.set, ""⟩, Step.toJson .pop])]) := by
    refine .trans _ _ _ (.rel _ _ (.leaveOut (.null (by decide)) (by decide))) ?_
    refine .trans _ _ _ (.rel _ _ (.leaveOut (.null (by decide)) (by decide))) ?_
    refine .trans _ _ _ (.rel _ _ (.leaveOut (.null (by decide)) (by decide))) ?_
    exact .rel _ _ (.leaveOut .parameter (by decide))
  have replaced : Json.Edited Software.fieldNames Software.Alike
      (.ofMembers [("steps", .array [Step.toJson ⟨.set, ""⟩, Step.toJson .pop])])
      (.ofMembers [("steps", .array [.ofMembers [("op", .ofText "SET")],
        .ofMembers [("parameter", .ofText ""), ("op", .ofText "POP")]])]) :=
    .replace (.steps (.cons set (.cons pop .nil)))
  exact (thinned.trans _ _ _ (.rel _ _ replaced)).trans _ _ _ (.rel _ _ (.add (by decide) _ _))

theorem parse_documents_brief :
    parse .json brief.render = .ok { steps := [⟨.set, ""⟩, .pop] } ∧
      parse .json (brief.pretty 0) =
        parse .json (Software.toJson { steps := [⟨.set, ""⟩, .pop] }).render := by
  obtain ⟨-, revisions, same⟩ := parse_documents
  constructor
  · exact revisions _ brief _ revised_brief (Json.spells_render writable_brief)
  · exact same brief _ _ _ (revised_brief.symm _ _)
      (Json.parse?_of_spells (Json.spells_pretty writable_brief 0))
      (Json.parse?_of_spells (Json.spells_render (Software.writable_toJson _)))

end Recipe

end Documents

end Provision

/-! Reading back the document that a run prints. It holds every step that was reported with all of its
frame, and the keys of a frame are those of the parts that the frame has. -/

namespace Provision

def CleanupKind.ofWord? : String → Option CleanupKind
  | "delete" => some .delete
  | "unmount" => some .unmount
  | _ => none

def Cleanup.ofJson? (value : Json) : Option Cleanup := do
  let word ← (value.get? "kind").bind Json.text?
  let kind ← CleanupKind.ofWord? word
  let resource ← (value.get? "resource").bind Json.text?
  return { kind, resource }

/-- The frame that a JSON value describes. What it does not have is left out, and never null. -/
def Frame.ofJson? (json : Json) : Option Frame := do
  let value ← (json.get? "value").bind Json.text?
  let cleanup ← Json.orElse none (fun part => (Cleanup.ofJson? part).map some) (json.get? "cleanup")
  let out ← Json.orElse none (fun part => part.text?.map some) (json.get? "stdout")
  let err ← Json.orElse none (fun part => part.text?.map some) (json.get? "stderr")
  return { value, cleanup, out, err }

namespace Report

def ofJson? (json : Json) : Option (Step × Frame) := do
  let step ← (json.get? "step").bind Step.ofJson?
  let frame ← (json.get? "result").bind Frame.ofJson?
  return (step, frame)

/-- The value says all of a step and its frame, and which parts the frame has can be seen by the keys. -/
structure Shows (json : Json) (report : Step × Frame) : Prop where
  decoded : ofJson? json = some report
  keys : ∃ result, json.get? "result" = some result ∧
    (result.get? "cleanup").isSome = report.2.cleanup.isSome ∧
    (result.get? "stdout").isSome = report.2.out.isSome ∧
    (result.get? "stderr").isSome = report.2.err.isSome

end Report

theorem Cleanup.ofJson?_toJson (cleanup : Cleanup) : Cleanup.ofJson? cleanup.toJson = some cleanup := by
  rcases cleanup with ⟨_ | _, resource⟩
  · rfl
  · rfl

theorem Frame.ofJson?_toJson (frame : Frame) : Frame.ofJson? frame.toJson = some frame := by
  rcases frame with ⟨value, cleanup, out, err⟩
  rcases cleanup with _ | ⟨_ | _, resource⟩
  all_goals cases out <;> cases err <;> rfl

namespace Report

theorem shows_toJson (report : Step × Frame) : Shows (toJson report) report := by
  rcases report with ⟨step, frame⟩
  have decoded : ofJson? (toJson (step, frame)) = some (step, frame) := by
    have first : ((toJson (step, frame)).get? "step").bind Step.ofJson? = some step :=
      Step.ofJson?_toJson step
    have second : ((toJson (step, frame)).get? "result").bind Frame.ofJson? = some frame :=
      Frame.ofJson?_toJson frame
    rw [ofJson?, first, second]
    rfl
  refine ⟨decoded, frame.toJson, rfl, ?_⟩
  rcases frame with ⟨value, cleanup, out, err⟩
  cases cleanup <;> cases out <;> cases err <;> exact ⟨rfl, rfl, rfl⟩

theorem forall₂_shows (reports : List (Step × Frame)) : List.Forall₂ Shows (reports.map toJson) reports := by
  induction reports with
  | nil => exact .nil
  | cons report reports ih => exact .cons (shows_toJson report) ih

theorem writable_cleanup (cleanup : Cleanup) : cleanup.toJson.Writable := by
  refine .ofMembers ?_
  rintro member within
  simp only [List.mem_cons, List.not_mem_nil, or_false] at within
  rcases within with rfl | rfl
  · exact .ofText _
  · exact .ofText _

theorem writable_frame (frame : Frame) : frame.toJson.Writable := by
  refine .ofMembers ?_
  rintro member within
  simp only [List.mem_append, List.mem_singleton, Option.mem_toList, Option.map_eq_some_iff] at within
  rcases within with ((rfl | ⟨cleanup, -, rfl⟩) | ⟨text, -, rfl⟩) | ⟨text, -, rfl⟩
  · exact .ofText _
  · exact writable_cleanup cleanup
  · exact .ofText text
  · exact .ofText text

theorem writable_report (report : Step × Frame) : (toJson report).Writable := by
  refine .ofMembers ?_
  rintro member within
  simp only [List.mem_cons, List.not_mem_nil, or_false] at within
  rcases within with rfl | rfl
  · exact report.1.writable_toJson
  · exact writable_frame report.2

/-- The document is one array on lines of its own, with one element for each report. -/
theorem document_eq (reports : List (Step × Frame)) :
    ∃ text, document reports = text ++ "\n" ∧
      Json.parse? text = some (.array (reports.map toJson)) := by
  have writable : (Json.array (reports.map toJson)).Writable := by
    refine .array ?_
    rintro item within
    obtain ⟨report, -, rfl⟩ := List.mem_map.mp within
    exact writable_report report
  exact ⟨_, rfl, Json.parse?_of_spells (Json.spells_pretty writable 0)⟩

end Report

end Provision
