import Mathlib
import Provision.Proofs.Disk.Finding

/-! What copying does to a disk. It makes directories and copies files, one after the other, and each file
is emptied at the place that the copy's path leads to before anything is read. So whatever stands where none
of these paths leads stays as it is, and what is copied onto itself is lost. -/

namespace Provision.Disk

variable {disk before middle after : Disk} {at_ : Location} {node : Node} {path source target : String}

/-- Something that is copied: a path, the location of its entry, and the path of the copy. -/
structure Job where
  source : String
  at_ : Location
  target : String

/-- What stands under a name in a directory is copied to that name. -/
def Job.inside (job : Job) (name : String) : Job :=
  ⟨PathText.join job.source name, job.at_ ++ [name], PathText.join job.target name⟩

/-- The second job is part of the first one: the entry itself, or one that is so deep at most in a
directory, and is none. -/
inductive Part (disk : Disk) : (depth : Nat) → (whole part : Job) → Prop where
  | bottom (job : Job) : Part disk 0 job job
  | single {depth : Nat} {job : Job} (alone : disk.isDirAt job.at_ = false) :
    Part disk (depth + 1) job job
  | inside {depth : Nat} {whole part : Job} {name : String} (directory : disk.isDirAt whole.at_ = true)
    (listed : name ∈ disk.children whole.at_) (within : Part disk depth (whole.inside name) part) :
    Part disk (depth + 1) whole part

/-- These files were copied one after the other, and directories were made in between. -/
inductive Course : (jobs : List Job) → (before after : Disk) → Prop where
  | done (disk : Disk) : Course [] disk disk
  | made {jobs : List Job} {before after : Disk} (path : String)
    (later : Course jobs (before.mkdirs path).2 after) : Course jobs before after
  | copied {job : Job} {jobs : List Job} {before middle after : Disk}
    (went : before.copyFile job.source job.target = .ok middle) (later : Course jobs middle after) :
    Course (job :: jobs) before after

variable {jobs others : List Job} {job whole part : Job} {depth : Nat} {name : String}

namespace Course

theorem append (first : Course jobs before middle) (second : Course others middle after) :
    Course (jobs ++ others) before after := by
  induction first with
  | done disk => exact second
  | made path later ih => exact .made path (ih second)
  | copied went later ih => exact .copied went (ih second)

theorem grows (course : Course jobs before after) : Grows before after := by
  induction course with
  | done disk => exact refl disk
  | @made _ before _ path later ih => exact Trans.trans (extends_mkdirs before path).grows ih
  | copied went later ih =>
    obtain ⟨_, _, _, _, _, _, -, wrote⟩ := copyFile_ok went
    exact Trans.trans wrote.grows ih

theorem wellFormed (course : Course jobs before after) (formed : before.WellFormed) :
    after.WellFormed := by
  induction course with
  | done disk => exact formed
  | made path later ih => exact ih (formed.mkdirs path)
  | copied went later ih =>
    obtain ⟨_, _, _, _, _, _, -, wrote⟩ := copyFile_ok went
    exact ih (formed.wrote wrote)

/-- Nothing becomes of what stands where no copy was made. -/
theorem spares (course : Course jobs before after) (found : before.get? at_ = some node)
    (apart : ∀ job ∈ jobs, ¬ after.Finds job.target at_) : after.get? at_ = some node := by
  induction course with
  | done disk => exact found
  | @made _ before _ path later ih => exact ih ((extends_mkdirs before path).kept at_ node found) apart
  | @copied job _ _ _ _ went later ih =>
    obtain ⟨_, place, _, _, _, _, -, wrote⟩ := copyFile_ok went
    have other : at_ ≠ place := by
      rintro rfl
      exact apart job List.mem_cons_self (later.grows.finds ⟨_, wrote.found⟩)
    exact ih ((wrote.elsewhere at_ other).trans found) fun job member => apart job (.tail _ member)

/-- A file onto which only itself is copied, if anything, is empty afterwards, if anything was. -/
theorem empties {id : Nat} {bytes : Bytes} {executable : Bool} (course : Course jobs before after)
    (found : before.get? at_ = some (.file id bytes executable))
    (own : ∀ job ∈ jobs, after.Finds job.target at_ → after.Finds job.source at_) :
    ∃ left, after.get? at_ = some (.file id left executable) ∧ (bytes = [] → left = []) ∧
      ((∃ job ∈ jobs, after.Finds job.target at_) → left = []) := by
  induction course generalizing bytes with
  | done disk => exact ⟨bytes, found, fun nothing => nothing, fun ⟨_, member, _⟩ => by cases member⟩
  | @made _ before _ path later ih => exact ih ((extends_mkdirs before path).kept at_ _ found) own
  | @copied job jobs before middle after went later ih =>
    obtain ⟨origin, place, _, _, content, _, read, wrote⟩ := copyFile_ok went
    have rest : ∀ job ∈ jobs, after.Finds job.target at_ → after.Finds job.source at_ :=
      fun job member => own job (.tail _ member)
    have aimed : after.Finds job.target place := later.grows.finds ⟨_, wrote.found⟩
    by_cases onto : place = at_
    · have onto_itself : origin = at_ := by
        have from_ : after.Finds job.source origin :=
          (Trans.trans wrote.grows later.grows : Grows before after).finds ⟨_, read⟩
        exact from_.unique (own job List.mem_cons_self (onto ▸ aimed))
      subst onto onto_itself
      have stands := get?_of_lookup read
      rw [found] at stands
      cases stands
      obtain ⟨_, _, same⟩ := wrote.same _ found
      cases same
      have emptied := wrote.stands
      rw [if_pos rfl] at emptied
      obtain ⟨left, last, nothing, -⟩ := ih emptied rest
      exact ⟨left, last, fun _ => nothing rfl, fun _ => nothing rfl⟩
    · obtain ⟨left, last, nothing, emptied⟩ :=
        ih ((wrote.elsewhere at_ (Ne.symm onto)).trans found) rest
      refine ⟨left, last, nothing, ?_⟩
      rintro ⟨other, member, finds⟩
      rcases List.mem_cons.mp member with rfl | later
      · exact absurd (aimed.unique finds) onto
      · exact emptied ⟨other, later, finds⟩

/-- What was copied leads to a file, and the copy's path leads somewhere. -/
theorem finds (course : Course jobs before after) (member : job ∈ jobs) :
    (∃ origin id bytes executable,
      after.lookup true job.source = .ok (origin, .file id bytes executable)) ∧
    ∃ place, after.Finds job.target place := by
  induction course with
  | done disk => cases member
  | made path later ih => exact ih member
  | copied went later ih =>
    rcases List.mem_cons.mp member with rfl | further
    · obtain ⟨origin, place, _, _, _, _, read, wrote⟩ := copyFile_ok went
      have grows := Trans.trans wrote.grows later.grows
      refine ⟨?_, place, later.grows.finds ⟨_, wrote.found⟩⟩
      obtain ⟨node, found, same⟩ := Grows.lookup_eq grows read
      cases node with
      | file id bytes executable => exact ⟨origin, id, bytes, executable, found⟩
      | dir => cases same
      | link target => cases same
    · exact ih further

/-- What is no directory was there before, or else a copy was made there. -/
theorem origin (course : Course jobs before after) (found : after.get? at_ = some node)
    (single : node ≠ .dir) :
    (∃ other, before.get? at_ = some other ∧ other ≠ .dir) ∨ ∃ job ∈ jobs, after.Finds job.target at_ := by
  induction course with
  | done disk => exact .inl ⟨node, found, single⟩
  | @made _ before _ path later ih =>
    refine (ih found).imp_left fun ⟨other, stands, alone⟩ => ⟨other, ?_, alone⟩
    exact ((extends_mkdirs before path).added at_ other stands).resolve_right alone
  | @copied job _ before _ _ went later ih =>
    obtain ⟨_, place, _, _, _, _, -, wrote⟩ := copyFile_ok went
    by_cases onto : at_ = place
    · exact .inr ⟨job, .head _, onto ▸ later.grows.finds ⟨_, wrote.found⟩⟩
    · rcases ih found with ⟨other, stands, alone⟩ | ⟨other, member, finds⟩
      · exact .inl ⟨other, (wrote.elsewhere at_ onto).symm.trans stands, alone⟩
      · exact .inr ⟨other, .tail _ member, finds⟩

/-- A place to which only one file is copied has the bytes of that file, unless something is copied to where
the file is. -/
theorem fills {place : Location} {id : Nat} {bytes : Bytes} {executable : Bool}
    (course : Course jobs before after)
    (found : before.get? at_ = some (.file id bytes executable))
    (spared : ∀ job ∈ jobs, ¬ after.Finds job.target at_)
    (sole : ∀ job ∈ jobs, after.Finds job.target place → after.Finds job.source at_)
    (reached : (∃ job ∈ jobs, after.Finds job.target place) ∨
      ∃ own permission, before.get? place = some (.file own bytes permission)) :
    ∃ own permission, after.get? place = some (.file own bytes permission) := by
  induction course with
  | done disk =>
    rcases reached with ⟨_, member, -⟩ | there
    · cases member
    · exact there
  | @made _ before _ path later ih =>
    have kept := (extends_mkdirs before path).kept
    refine ih (kept at_ _ found) spared sole (reached.imp_right ?_)
    rintro ⟨own, permission, stands⟩
    exact ⟨own, permission, kept place _ stands⟩
  | @copied job jobs before middle after went later ih =>
    obtain ⟨origin, end_, _, own, content, permission, read, wrote⟩ := copyFile_ok went
    have aimed : after.Finds job.target end_ := later.grows.finds ⟨_, wrote.found⟩
    have apart : at_ ≠ end_ := fun same => spared job (.head _) (same ▸ aimed)
    refine ih ((wrote.elsewhere at_ apart).trans found) (fun job member => spared job (.tail _ member))
      (fun job member => sole job (.tail _ member)) ?_
    by_cases onto : place = end_
    · subst onto
      have from_ : after.Finds job.source origin :=
        (Trans.trans wrote.grows later.grows : Grows before after).finds ⟨_, read⟩
      obtain rfl := from_.unique (sole job (.head _) aimed)
      cases (get?_of_lookup read).symm.trans found
      have stands := wrote.stands
      rw [if_neg (Ne.symm apart)] at stands
      exact .inr ⟨own, _, stands⟩
    · rcases reached with ⟨other, member, finds⟩ | ⟨own, permission, stands⟩
      · rcases List.mem_cons.mp member with rfl | further
        · exact absurd (finds.unique aimed) onto
        · exact .inl ⟨other, further, finds⟩
      · exact .inr ⟨own, permission, (wrote.elsewhere place onto).trans stands⟩

end Course

theorem mem_children_iff : name ∈ disk.children at_ ↔ (disk.get? (at_ ++ [name])).isSome = true := by
  unfold children
  rw [get?_inside (by simp), Option.isSome_map, List.find?_isSome, List.mem_filterMap]
  constructor
  · rintro ⟨entry, member, named⟩
    split at named
    · split at named
      · rename_i same
        cases named
        exact ⟨entry, member, same⟩
      · cases named
    · cases named
  · rintro ⟨entry, member, same⟩
    refine ⟨entry, member, ?_⟩
    simp only [eq_of_beq same, List.getLast?_concat, beq_self_eq_true, if_true]

/-- What is part of something that is there stays part of it. -/
theorem Part.grows (grows : Grows before after) (part_ : before.Part depth whole part)
    (stands : (before.get? whole.at_).isSome = true) : after.Part depth whole part := by
  induction part_ with
  | bottom job => exact .bottom job
  | @single _ job alone =>
    obtain ⟨node, found⟩ := Option.isSome_iff_exists.mp stands
    obtain ⟨later, last, same⟩ := grows.kept _ _ found
    refine .single ?_
    rw [isDirAt, beq_eq_false_iff_ne] at alone ⊢
    rintro directory
    rw [last] at directory
    cases directory
    exact alone (by rw [found, Node.outline_eq_dir same.symm])
  | inside directory listed within ih =>
    have there := mem_children_iff.mp listed
    obtain ⟨node, found⟩ := Option.isSome_iff_exists.mp there
    obtain ⟨later, last, -⟩ := grows.kept _ _ found
    refine .inside ?_ (mem_children_iff.mpr (by rw [last]; rfl)) (ih there)
    rw [isDirAt, beq_iff_eq] at directory ⊢
    exact grows.get?_dir directory

open Working

theorem isDirAt_iff : disk.isDirAt at_ = true ↔ disk.get? at_ = some .dir := by
  rw [isDirAt, beq_iff_eq]

/-- All that was copied is part of the whole, and if nothing failed, all parts of the whole were copied. -/
structure Copying (depth : Nat) (whole : Job) (before : Disk) (outcome : Except (List String) Unit)
    (after : Disk) (jobs : List Job) : Prop where
  course : Course jobs before after
  parts : ∀ job ∈ jobs, after.Part depth whole job
  all : outcome = .ok () → ∀ job, before.Part depth whole job → job ∈ jobs

variable {outcome : Except (List String) Unit}

theorem isSome_inside (listed : name ∈ before.children whole.at_) (grows : Grows before after) :
    (after.get? (whole.inside name).at_).isSome = true := by
  obtain ⟨node, found⟩ := Option.isSome_iff_exists.mp (mem_children_iff.mp listed)
  obtain ⟨later, last, -⟩ := grows.kept _ node found
  exact Option.isSome_iff_exists.mpr ⟨later, last⟩

/-- The entries of a directory are copied in turn. Induction on the names, with what is left to do on the
disk as it is then. -/
theorem copyNames_course
    (each : ∀ {name before outcome after},
      copyEntry depth (whole.inside name).source (whole.inside name).at_ (whole.inside name).target
        before = (outcome, after) → ∃ jobs, Copying depth (whole.inside name) before outcome after jobs)
    {names : List String} {outcome : Except (List String) PUnit}
    (listed : ∀ name ∈ names, name ∈ before.children whole.at_)
    (ran : (forIn names PUnit.unit fun name _ => do
      copyEntry depth (whole.inside name).source (whole.inside name).at_ (whole.inside name).target
      pure (ForInStep.yield PUnit.unit) : Work PUnit) before = (outcome, after)) :
    ∃ jobs, Course jobs before after ∧
      (∀ job ∈ jobs, ∃ name ∈ names, after.Part depth (whole.inside name) job) ∧
      (outcome = .ok () → ∀ name ∈ names, ∀ job, before.Part depth (whole.inside name) job →
        job ∈ jobs) := by
  induction names generalizing before with
  | nil =>
    cases ran
    exact ⟨[], .done _, fun _ => nofun, fun _ _ => nofun⟩
  | cons name names ih =>
    rw [List.forIn_cons] at ran
    rcases first : copyEntry depth (whole.inside name).source (whole.inside name).at_
      (whole.inside name).target before with ⟨causes | done, middle⟩
    · obtain ⟨jobs, copying⟩ := each first
      rw [bind_error _ (bind_error _ first)] at ran
      cases ran
      exact ⟨jobs, copying.course, fun job member => ⟨name, .head _, copying.parts job member⟩, nofun⟩
    · obtain ⟨jobs, copying⟩ := each first
      have yields : (do
          copyEntry depth (whole.inside name).source (whole.inside name).at_ (whole.inside name).target
          pure (ForInStep.yield PUnit.unit) : Work (ForInStep PUnit)) before =
            (.ok (.yield PUnit.unit), middle) := bind_ok _ first
      rw [bind_ok _ yields] at ran
      have grows := copying.course.grows
      have there : ∀ other ∈ names, other ∈ middle.children whole.at_ := fun other member =>
        mem_children_iff.mpr (isSome_inside (listed other (.tail _ member)) grows)
      obtain ⟨others, course, parts, all⟩ := ih there ran
      refine ⟨jobs ++ others, copying.course.append course, fun job member => ?_, fun went => ?_⟩
      · rcases List.mem_append.mp member with here | later
        · exact ⟨name, .head _, (copying.parts job here).grows course.grows
            (isSome_inside (listed name (.head _)) grows)⟩
        · obtain ⟨other, among, part⟩ := parts job later
          exact ⟨other, .tail _ among, part⟩
      · intro other member job part
        rcases List.mem_cons.mp member with rfl | later
        · exact List.mem_append_left _ (copying.all rfl job part)
        · refine List.mem_append_right _ (all went other later job ?_)
          exact part.grows grows (isSome_inside (listed other member) (refl before))

theorem copyOne_cases (ran : copyOne source target before = (outcome, after)) :
    (∃ causes, outcome = .error causes ∧ after = before) ∨
      outcome = .ok () ∧ before.copyFile source target = .ok after := by
  rw [copyOne, attempt, get_bind] at ran
  rcases went : before.copyFile source target with error | middle
  · rw [went] at ran
    cases ran
    exact .inl ⟨_, rfl, rfl⟩
  · rw [went] at ran
    cases ran
    exact .inr ⟨rfl, rfl⟩

/-- A file is copied to where no directory is, and does not become one. -/
theorem not_isDirAt_of_copyFile (alone : before.isDirAt at_ = false)
    (copied : before.copyFile source target = .ok after) : after.isDirAt at_ = false := by
  obtain ⟨_, place, _, _, _, _, -, wrote⟩ := copyFile_ok copied
  rw [isDirAt] at alone ⊢
  by_cases same : at_ = place
  · rw [same, wrote.stands]
    rfl
  · rwa [wrote.elsewhere at_ same]

theorem copyEntry_course
    (ran : copyEntry depth whole.source whole.at_ whole.target before = (outcome, after)) :
    ∃ jobs, Copying depth whole before outcome after jobs := by
  induction depth generalizing whole before outcome after with
  | zero =>
    rcases copyOne_cases ran with ⟨causes, rfl, rfl⟩ | ⟨rfl, copied⟩
    · exact ⟨[], .done after, fun _ => nofun, nofun⟩
    · refine ⟨[whole], .copied copied (.done after), fun job member => ?_, fun _ job part => ?_⟩
      · rw [List.mem_singleton.mp member]
        exact .bottom whole
      · cases part
        exact List.mem_singleton_self whole
  | succ depth ih =>
    rw [copyEntry, get_bind] at ran
    cases directory : before.isDirAt whole.at_ with
    | false =>
      rw [if_neg (by simp [directory])] at ran
      rcases copyOne_cases ran with ⟨causes, rfl, rfl⟩ | ⟨rfl, copied⟩
      · exact ⟨[], .done after, fun _ => nofun, nofun⟩
      · refine ⟨[whole], .copied copied (.done after), fun job member => ?_, fun _ job part => ?_⟩
        · rw [List.mem_singleton.mp member]
          exact .single (not_isDirAt_of_copyFile directory copied)
        · cases part with
          | single => exact List.mem_singleton_self whole
          | inside there =>
            rw [directory] at there
            cases there
    | true =>
      rw [if_pos directory] at ran
      rcases made : makeDirs whole.target before with ⟨causes | done, middle⟩
      · rw [bind_error _ made] at ran
        cases ran
        obtain rfl := makeDirs_after made
        exact ⟨[], .made whole.target (.done _), fun _ => nofun, nofun⟩
      · rw [bind_ok _ made, get_bind] at ran
        obtain rfl := makeDirs_after made
        have grows := (extends_mkdirs before whole.target).grows
        have there := isDirAt_iff.mpr (grows.get?_dir (isDirAt_iff.mp directory))
        rw [show (fun _ => pure ()) = (pure : PUnit → Work PUnit) from rfl, bind_pure] at ran
        obtain ⟨jobs, course, parts, all⟩ := copyNames_course ih (fun _ listed => listed) ran
        refine ⟨jobs, .made _ course, fun job member => ?_, fun went job part => ?_⟩
        · obtain ⟨name, listed, part⟩ := parts job member
          have stands := isSome_inside listed course.grows
          exact .inside (isDirAt_iff.mpr (course.grows.get?_dir (isDirAt_iff.mp there)))
            (mem_children_iff.mpr stands) part
        · cases part with
          | single alone =>
            rw [directory] at alone
            cases alone
          | @inside _ _ _ name _ listed within =>
            have stands := isSome_inside listed grows
            exact all went name (mem_children_iff.mpr stands) job
              (within.grows grows (isSome_inside listed (refl before)))

theorem ensureParent_after (made : ensureParent path before = (outcome, after)) :
    after = before ∨ ∃ parent, after = (before.mkdirs parent).2 := by
  unfold ensureParent at made
  cases above : PathText.parent? path with
  | none =>
    simp only [above] at made
    cases made
    exact .inl rfl
  | some parent =>
    simp only [above, get_bind] at made
    split at made
    · exact .inr ⟨parent, (makeDirs_after made).symm⟩
    · cases made
      exact .inl rfl

theorem ensureParent_course (made : ensureParent path before = (outcome, after)) :
    Course [] before after ∧ Extends before after := by
  rcases ensureParent_after made with rfl | ⟨parent, rfl⟩
  · exact ⟨.done after, refl after⟩
  · exact ⟨.made parent (.done _), extends_mkdirs before parent⟩

/-- What is copied when a path is to be copied to a place: the file that it leads to, or else all entries
of the directory. -/
inductive Copies (disk : Disk) (source place : String) : (job : Job) → Prop where
  | file {at_ : Location} (alone : disk.isDir source = false) (finds : disk.Finds source at_) :
    Copies disk source place ⟨source, at_, place⟩
  | tree {at_ : Location} {part : Job} (directory : disk.isDir source = true)
    (located : disk.locate false source = .ok at_)
    (within : disk.Part maxPath ⟨source, at_, PathText.join place ""⟩ part) :
    Copies disk source place part

theorem Copies.grows (grows : Grows before after) (copies : before.Copies source path job) :
    after.Copies source path job := by
  cases copies with
  | file alone finds => exact .file (grows.not_isDir alone finds) (grows.finds finds)
  | tree directory located within =>
    have stands := isSome_of_isDir directory located
    refine .tree (grows.isDir directory) (grows.locate_eq (fun free => ?_) located)
      (within.grows grows stands)
    rw [free] at stands
    cases stands

/-- All that a copy copies belongs to what it is to copy, and if nothing fails it copies all of that. -/
theorem copy_course {outcome : Except (List String) String}
    (ran : copy source target before = (outcome, after)) :
    ∃ jobs, Course jobs before after ∧
      (∀ job ∈ jobs, after.Copies source (before.landing source target) job) ∧
      ∀ place, outcome = .ok place → place = before.landing source target ∧
        ∀ job, before.Copies source (before.landing source target) job → job ∈ jobs := by
  rw [copy, get_bind] at ran
  generalize before.landing source target = place at ran ⊢
  rcases made : ensureParent place before with ⟨causes | done, ready⟩
  · rw [bind_error _ made] at ran
    cases ran
    exact ⟨[], (ensureParent_course made).1, fun _ => nofun, nofun⟩
  rw [bind_ok _ made, get_bind] at ran
  obtain ⟨first, extends_⟩ := ensureParent_course made
  cases directory : ready.isDir source with
  | false =>
    rw [if_neg (by simp [directory])] at ran
    rcases copied : copyOne source place ready with ⟨causes | done, last⟩
    · rw [bind_error _ copied] at ran
      cases ran
      obtain ⟨_, -, rfl⟩ | ⟨failed, -⟩ := copyOne_cases copied
      · exact ⟨[], first, fun _ => nofun, nofun⟩
      · cases failed
    · rw [bind_ok _ copied] at ran
      cases ran
      obtain ⟨_, failed, -⟩ | ⟨-, went⟩ := copyOne_cases copied
      · cases failed
      obtain ⟨origin, _, _, _, _, _, read, wrote⟩ := copyFile_ok went
      have finds : ready.Finds source origin := ⟨_, read⟩
      refine ⟨[⟨source, origin, place⟩], first.append (.copied went (.done after)), ?_, ?_⟩
      · intro job member
        rw [List.mem_singleton.mp member]
        exact (Copies.file directory finds).grows wrote.grows
      · intro other same
        refine ⟨(Except.ok.inj same).symm, fun job copies => ?_⟩
        cases copies.grows extends_.grows with
        | file alone again =>
          rw [again.unique finds]
          exact List.mem_singleton_self _
        | tree there =>
          rw [directory] at there
          cases there
  | true =>
    rw [if_pos directory] at ran
    have asked := inquire_eq ("cannot walk " ++ source) (fun disk => disk.locate false source) ready
    rcases located : ready.locate false source with error | at_
    · rw [located] at asked
      rw [bind_error _ asked] at ran
      cases ran
      exact ⟨[], first, fun _ => nofun, nofun⟩
    rw [located] at asked
    rw [bind_ok _ asked] at ran
    have stands := isSome_of_isDir directory located
    rcases copied : copyEntry maxPath source at_ (PathText.join place "") ready with ⟨outcome, last⟩
    obtain ⟨jobs, course, parts, all⟩ :=
      @copyEntry_course _ _ ⟨source, at_, PathText.join place ""⟩ _ _ copied
    have there : last.locate false source = .ok at_ :=
      course.grows.locate_eq (fun free => by rw [free] at stands; cases stands) located
    have belongs : ∀ job ∈ jobs, last.Copies source place job := fun job member =>
      .tree (course.grows.isDir directory) there (parts job member)
    cases outcome with
    | error causes =>
      rw [bind_error _ copied] at ran
      cases ran
      exact ⟨jobs, first.append course, belongs, nofun⟩
    | ok done =>
      rw [bind_ok _ copied] at ran
      cases ran
      refine ⟨jobs, first.append course, belongs, fun other same => ?_⟩
      refine ⟨(Except.ok.inj same).symm, fun job copies => ?_⟩
      cases copies.grows extends_.grows with
      | file alone =>
        rw [directory] at alone
        cases alone
      | tree _ again within =>
        cases located.symm.trans again
        exact all rfl job within

/-- A part stands under some names, and so do its path and the path of its copy. -/
theorem Part.named (part_ : disk.Part depth whole part)
    (stands : (disk.get? whole.at_).isSome = true) :
    (disk.get? part.at_).isSome = true ∧ ∃ names,
      part = ⟨PathText.under whole.source names, whole.at_ ++ names, PathText.under whole.target names⟩ := by
  induction part_ with
  | bottom job => exact ⟨stands, [], by simp [PathText.under]⟩
  | single alone => exact ⟨stands, [], by simp [PathText.under]⟩
  | @inside _ whole part name directory listed within ih =>
    obtain ⟨there, names, rfl⟩ := ih (mem_children_iff.mp listed)
    refine ⟨there, name :: names, ?_⟩
    simp [PathText.under, Job.inside]

/-- Each copy comes to where its original stands in the source. -/
def Lands (disk : Disk) (source path : String) (entry landed : Location) : Prop :=
  ∀ job at_, disk.Copies source path job → disk.Finds job.target at_ →
    ∃ names, at_ = landed ++ names ∧ job.source = PathText.under source names ∧
      (disk.get? (entry ++ names)).isSome = true

section Landing

variable {entry landed : Location} (there : disk.lookup false source = .ok (entry, node))
include there

theorem lands_of_file (alone : disk.isDir source = false) (aimed : disk.Finds path landed) :
    disk.Lands source path entry landed := by
  rintro job at_ copies finds
  cases copies with
  | file =>
    refine ⟨[], ?_, rfl, ?_⟩
    · rw [List.append_nil, aimed.unique finds]
    · rw [List.append_nil, get?_of_lookup there]
      rfl
  | tree directory =>
    rw [alone] at directory
    cases directory

/-- In a directory without links the paths of the copies lead where their texts say. -/
theorem lands_of_sheltered (formed : disk.WellFormed) (sheltered : disk.Sheltered path landed) :
    disk.Lands source path entry landed := by
  rintro job at_ copies ⟨found, read⟩
  have stands := get?_of_lookup there
  cases copies with
  | file alone finds =>
    have same : at_ = landed ++ [] := sheltered.locate_eq rfl (List.append_nil _).symm
      (rfl : lexical [] [] = some []) (locate_of_lookup read)
    exact ⟨[], same, rfl, by rw [List.append_nil, stands]; rfl⟩
  | tree directory located within =>
    cases located.symm.trans (locate_of_lookup there)
    obtain ⟨listed, names, rfl⟩ := within.named (by rw [stands]; rfl)
    obtain ⟨other, last⟩ := Option.isSome_iff_exists.mp listed
    have plain : ∀ name ∈ names, Plain name := fun name member =>
      (formed.legible _ _ last name (List.mem_append_right _ member)).1
    have entered : PathText.isAbsolute (PathText.join path "") = PathText.isAbsolute path ∧
        PathText.pieces (PathText.join path "") = PathText.pieces path := by
      obtain ⟨same, start⟩ := PathText.pieces_join sheltered.nonempty (by decide : PathText.isAbsolute "" = false)
      exact ⟨start, same.trans (List.append_nil _)⟩
    obtain ⟨-, start, spelled⟩ := PathText.pieces_under (join_ne_empty sheltered.nonempty) plain
    rw [entered.2] at spelled
    have begins : disk.startOf (PathText.under (PathText.join path "") names) = disk.startOf path := by
      rw [startOf, startOf, start, entered.1]
    exact ⟨names, sheltered.locate_eq begins spelled (lexical_plain plain []) (locate_of_lookup read),
      rfl, listed⟩

end Landing

/-- There is one file. -/
def single : Disk where
  entries := [(["f"], .file 0 [100, 97, 116, 97] false)]
  fresh := 1

end Provision.Disk
