import NfsVolume.Proofs.Volume.Directory
import NfsVolume.Proofs.World.Circumstances

/-! Which directories are allocated, why each other allocation is refused, and that a refused one
leaves nothing behind. -/
namespace NfsVolume.Volume

open Run Files

variable {directory name path : Text} {capacity : Int} {w v : World}

/-- There is something at a path, whether or not the system gets there. -/
def Occupied (t : FileTree) (path : Text) : Prop :=
  path ≠ [] ∧ ∃ place node, t.follow (FileTree.start path) (Path.parts path) = some place ∧
    t.get? place = some node

/-- The system gets to the end of a path: all directories on the way may be searched, and neither
the path nor a name in it is too long. -/
def Walkable (t : FileTree) (path : Text) : Prop := ∃ place, t.locate path = .ok place

/-- There is nothing at a path as far as the system gets. -/
def Unseen (t : FileTree) (path : Text) : Prop := Walkable t path → ¬ Occupied t path

theorem not_unseen {t : FileTree} : ¬ Unseen t path ↔ Walkable t path ∧ Occupied t path := by
  simp [Unseen]

theorem occupied_iff {t : FileTree} {place : Place} (h : t.locate path = .ok place) :
    Occupied t path ↔ ∃ node, t.get? place = some node := by
  obtain ⟨hne, -, hwalk⟩ := FileTree.locate_eq_ok.mp h
  have hfollow := FileTree.follow_of_walk hwalk
  constructor
  · rintro ⟨-, place', node, hfollow', hnode⟩
    rw [hfollow] at hfollow'
    cases hfollow'
    exact ⟨node, hnode⟩
  · rintro ⟨node, hnode⟩
    exact ⟨hne, place, node, hfollow, hnode⟩

/-- The space in a directory can be looked up. -/
structure Surveyed (directory : Text) (w : World) : Prop where
  calm : Fault.due? .statvfs w.faults = none
  there : ∃ found, w.files.resolve directory = .ok found

/-- The octets that are free for use. -/
def space (w : World) : Int := w.freeBlocks * w.blockSize

/-- A volume can have its directory: there is nothing at its path, the space is known and large
enough, and the directory can be made and given its mode. -/
structure Allocatable (directory name : Text) (capacity : Int) (w : World) : Prop where
  free : ¬ Occupied w.files (Path.join directory name)
  surveyed : Surveyed directory w
  fits : capacity ≤ space w
  makeable : Makeable (Path.join directory name) w
  settable : Fault.due? .chmod w.faults = none

/-- One of the numbers that a refusal for want of space shows has too many digits. -/
def Unwritable (available requested : Int) : Prop :=
  (Text.Integer.tooLong available || Text.Integer.tooLong requested) = true

instance (available requested : Int) : Decidable (Unwritable available requested) :=
  inferInstanceAs (Decidable (_ = true))

/-- Why no directory is allocated, by the first condition that is not met, and how that is
reported. -/
inductive Refused (directory name : Text) (capacity : Int) (w : World) : Failure → Prop
  | occupied (h : Occupied w.files (Path.join directory name))
      (hwalk : Walkable w.files (Path.join directory name)) :
      Refused directory name capacity w
        (.provisioning (.directory (Path.join directory name) .occupied))
  | unsurveyed (hfree : Unseen w.files (Path.join directory name)) (h : ¬ Surveyed directory w)
      (e : OsError) :
      Refused directory name capacity w (.provisioning (.directory directory (.statvfs e)))
  | small (hfree : Unseen w.files (Path.join directory name)) (hspace : Surveyed directory w)
      (h : space w < capacity) (hshown : ¬ Unwritable (space w) capacity) :
      Refused directory name capacity w (.provisioning (.insufficientCapacity (space w) capacity))
  | unwritable (hfree : Unseen w.files (Path.join directory name)) (hspace : Surveyed directory w)
      (h : space w < capacity) (hshown : Unwritable (space w) capacity) :
      Refused directory name capacity w (.value .unwritable)
  | unmade (hfree : Unseen w.files (Path.join directory name)) (hspace : Surveyed directory w)
      (hfits : capacity ≤ space w) (h : ¬ Makeable (Path.join directory name) w) (e : OsError) :
      Refused directory name capacity w
        (.provisioning (.directory (Path.join directory name) (.mkdir e)))
  | unset (hfree : Unseen w.files (Path.join directory name)) (hspace : Surveyed directory w)
      (hfits : capacity ≤ space w) (hmake : Makeable (Path.join directory name) w)
      (h : Fault.due? .chmod w.faults ≠ none) (e : OsError) :
      Refused directory name capacity w
        (.provisioning (.directory (Path.join directory name) (.chmod e)))

theorem Refused.not_allocatable {e : Failure} (h : Refused directory name capacity w e) :
    ¬ Allocatable directory name capacity w := by
  intro ha
  cases h with
  | occupied h => exact ha.free h
  | unsurveyed _ h => exact h ha.surveyed
  | small _ _ h => exact absurd ha.fits (by omega)
  | unwritable _ _ h => exact absurd ha.fits (by omega)
  | unmade _ _ _ h => exact h ha.makeable
  | unset _ _ _ _ h => exact h ha.settable

/-- Want of space is reported for nothing else, and with the numbers that were compared. -/
theorem Refused.small_iff {e : Failure} (h : Refused directory name capacity w e) :
    e = .provisioning (.insufficientCapacity (space w) capacity) ↔
      Unseen w.files (Path.join directory name) ∧ Surveyed directory w ∧ space w < capacity ∧
        ¬ Unwritable (space w) capacity := by
  constructor
  · rintro rfl
    cases h with
    | small hfree hspace h hshown => exact ⟨hfree, hspace, h, hshown⟩
  · rintro ⟨hfree, hspace, hless, hshown⟩
    cases h with
    | occupied h hwalk => exact absurd h (hfree hwalk)
    | unsurveyed _ h => exact absurd hspace h
    | small => rfl
    | unwritable _ _ _ h => exact absurd h hshown
    | unmade _ _ hfits => exact absurd hfits (by omega)
    | unset _ _ hfits => exact absurd hfits (by omega)

theorem endsInSlash_join_name (hn : IsVolumeName name) (directory : Text) :
    Path.endsInSlash (Path.join directory name) = false := by
  by_cases hd : directory = []
  · have hslash : ¬ Path.endsInSlash name = true := fun h => by
      obtain ⟨rest, rfl⟩ := Path.endsInSlash_iff.mp h
      exact hn.isPart.slash (List.mem_append_right rest List.mem_cons_self)
    simpa [hd, Path.join, hn.isPart.not_absolute] using hslash
  · exact Path.endsInSlash_join hd hn.isPart

/-- The path of a volume is seen to be taken exactly if there is something at it and the system gets
there. -/
theorem isPresent_join (hn : IsVolumeName name) (hp : '\x00' ∉ directory) :
    ∃ taken, isPresent (Path.join directory name) w = (.ok taken, w) ∧
      (taken = true ↔ Walkable w.files (Path.join directory name) ∧
        Occupied w.files (Path.join directory name)) := by
  refine ⟨_, isPresent_apply _ w, ?_⟩
  have hnull := hn.null_notMem_join hp
  have hslash := endsInSlash_join_name hn directory
  simp only [hnull, not_false_eq_true, decide_true, Bool.true_and]
  cases hl : w.files.locate (Path.join directory name) with
  | error errno => simp [Walkable, FileTree.resolve, hl, Except.toOption]
  | ok place =>
    rw [occupied_iff hl]
    cases hg : w.files.get? place with
    | none => simp [FileTree.resolve, hl, hg, Except.toOption]
    | some node => simp [Walkable, FileTree.resolve, hl, hg, hslash, Except.toOption]

theorem allocate_of_seen (hn : IsVolumeName name) (hp : '\x00' ∉ directory)
    (hwalk : Walkable w.files (Path.join directory name))
    (hoccupied : Occupied w.files (Path.join directory name)) :
    allocate directory name capacity w =
      (.error (.provisioning (.directory (Path.join directory name) .occupied)), w) := by
  obtain ⟨taken, htaken, hseen⟩ := isPresent_join (w := w) hn hp
  obtain rfl : taken = true := hseen.mpr ⟨hwalk, hoccupied⟩
  unfold allocate
  dsimp only
  rw [bind_ok htaken]
  rfl

/-- Where nothing is seen at the path, the allocation goes on to the space. -/
theorem allocate_of_unseen (hn : IsVolumeName name) (hp : '\x00' ∉ directory)
    (hfree : Unseen w.files (Path.join directory name)) :
    allocate directory name capacity w = (do
      let available ← availableOctets directory
      if available < capacity then refuseCapacity available capacity
      create (Path.join directory name)) w := by
  obtain ⟨taken, htaken, hseen⟩ := isPresent_join (w := w) hn hp
  obtain rfl : taken = false := by
    rw [← Bool.not_eq_true, hseen, ← not_unseen, not_not]
    exact hfree
  unfold allocate
  dsimp only
  rw [bind_ok htaken]
  rfl

theorem availableOctets_surveyed (hp : '\x00' ∉ directory) (h : Surveyed directory w) :
    availableOctets directory w = (.ok (space w), struck .statvfs w) := by
  obtain ⟨hcalm, found, hfound⟩ := h
  refine onOsError_ok ?_
  unfold freeOctets
  rw [bind_ok (meet_ok hcalm), bind_ok (resolve_ok (w := struck .statvfs w) hp hfound)]
  rfl

theorem availableOctets_unsurveyed (hp : '\x00' ∉ directory) (h : ¬ Surveyed directory w) :
    ∃ e, availableOctets directory w =
      (.error (.provisioning (.directory directory (.statvfs e))), struck .statvfs w) := by
  unfold availableOctets freeOctets
  cases hdue : Fault.due? .statvfs w.faults with
  | some errno => exact ⟨_, onOsError_os (bind_error (meet_error hdue))⟩
  | none =>
    cases hl : w.files.resolve directory with
    | ok found => exact absurd ⟨hdue, found, hl⟩ h
    | error errno =>
      have hrefused := resolve_error (w := struck .statvfs w) hp hl
      exact ⟨_, onOsError_os ((bind_ok (meet_ok hdue)).trans (bind_error hrefused))⟩

theorem refuseCapacity_unwritable {available requested : Int} (h : Unwritable available requested) :
    (refuseCapacity available requested : Run Unit) w = (.error (.value .unwritable), w) := by
  unfold Unwritable at h
  rw [refuseCapacity, if_pos h]
  rfl

theorem refuseCapacity_small {available requested : Int} (h : ¬ Unwritable available requested) :
    (refuseCapacity available requested : Run Unit) w =
      (.error (.provisioning (.insufficientCapacity available requested)), w) := by
  unfold Unwritable at h
  rw [refuseCapacity, if_neg h]
  rfl

/-- A tree has one new directory, which is empty and has a path, and is the same otherwise. -/
structure Extended (path : Text) (place : Place) (mode : Nat) (before after : FileTree) : Prop where
  free : before.get? place = none
  entries : after.entries = before.entries ++ [(place, .directory mode)]
  leads : after.resolve path = .ok (place, .directory mode)
  empty : after.children place = []

theorem Vacant.extended {t : FileTree} {place : Place} (h : Vacant t path place) (ht : t.IsTree) :
    Extended path place directoryMode t (t.put place (.directory directoryMode)) := by
  have hmade := h.made ht closed_directoryMode
  refine ⟨h.free, by rw [FileTree.put_eq_append h.free], ?_, ?_⟩
  · exact FileTree.resolve_eq_ok.mpr ⟨hmade.located, hmade.found, fun _ => rfl⟩
  · exact FileTree.children_eq_nil_of_get? hmade.notFixed hmade.below

/-- Nothing is seen at the path, and there is too little space. -/
theorem allocate_small (hn : IsVolumeName name) (hp : '\x00' ∉ directory)
    (hfree : Unseen w.files (Path.join directory name)) (hspace : Surveyed directory w)
    (hless : space w < capacity) (hshown : ¬ Unwritable (space w) capacity) :
    allocate directory name capacity w =
      (.error (.provisioning (.insufficientCapacity (space w) capacity)), struck .statvfs w) := by
  rw [allocate_of_unseen hn hp hfree, bind_ok (availableOctets_surveyed hp hspace),
    if_pos hless, bind_error (refuseCapacity_small hshown)]

theorem makeable_struck {call : SystemCall} (h : .makedirs ≠ call) :
    Makeable path (struck call w) ↔ Makeable path w := by
  have hdue := due?_struck h w
  exact ⟨fun hm => ⟨hdue ▸ hm.calm, hm.vacant⟩, fun hm => ⟨hdue.trans hm.calm, hm.vacant⟩⟩

/-- Once the space has been looked up and is enough, only making the directory and giving it its
mode can fail. -/
theorem create_outcome {r : Except Failure Text} (ht : w.files.IsTree) (hn : IsVolumeName name)
    (hp : '\x00' ∉ directory) (hrmdir : Fault.Calm .rmdir w.faults)
    (hfree : Unseen w.files (Path.join directory name)) (hspace : Surveyed directory w)
    (hfits : capacity ≤ space w)
    (h : create (Path.join directory name) (struck .statvfs w) = (r, v)) :
    (r = .ok (Path.join directory name) ∧ Allocatable directory name capacity w ∧
        ∃ place, Extended (Path.join directory name) place directoryMode w.files v.files) ∨
      ∃ e, r = .error e ∧ Refused directory name capacity w e ∧ v.files = w.files := by
  obtain ⟨found, hfound⟩ := hspace.there
  have hchmod : Fault.due? .chmod (struck .statvfs w).faults = Fault.due? .chmod w.faults :=
    due?_struck (by decide) w
  have hmakeable : Makeable (Path.join directory name) (struck .statvfs w) ↔
      Makeable (Path.join directory name) w := makeable_struck (by decide)
  rcases of_create (w := struck .statvfs w) ht hn hp hfound rfl h with
    ⟨e, rfl, hno, hv⟩ | ⟨hm, place, ⟨rfl, hmade⟩ | ⟨-, hdue, ⟨e, rfl⟩, hleft⟩⟩
  · exact .inr ⟨_, rfl, .unmade hfree hspace hfits (mt hmakeable.mpr hno) e, hv⟩
  · have hcalm : Fault.due? .chmod w.faults = none := hchmod ▸ hmade.passed.due
    have hvacant : ¬ Occupied w.files (Path.join directory name) :=
      hfree ⟨place, hmade.vacant.located⟩
    refine .inl ⟨rfl, ⟨hvacant, hspace, hfits, hmakeable.mp hm, hcalm⟩, place, ?_⟩
    rw [hmade.files]
    exact hmade.vacant.extended ht
  · refine .inr ⟨_, rfl, .unset hfree hspace hfits (hmakeable.mp hm) (hchmod ▸ hdue) e, ?_⟩
    rcases hleft with hv | ⟨-, errno, hstuck, -⟩
    · exact hv
    · rw [due?_struck (by decide), hrmdir.due?] at hstuck
      cases hstuck

/-- An allocation makes its directory where that is possible, or is refused for the first reason
there is and changes nothing. -/
theorem allocate_outcome {r : Except Failure Text} (ht : w.files.IsTree) (hn : IsVolumeName name)
    (hp : '\x00' ∉ directory) (hrmdir : Fault.Calm .rmdir w.faults)
    (h : allocate directory name capacity w = (r, v)) :
    (r = .ok (Path.join directory name) ∧ Allocatable directory name capacity w ∧
        ∃ place, Extended (Path.join directory name) place directoryMode w.files v.files) ∨
      ∃ e, r = .error e ∧ Refused directory name capacity w e ∧ v.files = w.files := by
  by_cases hfree : Unseen w.files (Path.join directory name)
  · by_cases hspace : Surveyed directory w
    · by_cases hless : space w < capacity
      · by_cases hlong : Unwritable (space w) capacity
        · rw [allocate_of_unseen hn hp hfree, bind_ok (availableOctets_surveyed hp hspace),
            if_pos hless, bind_error (refuseCapacity_unwritable hlong)] at h
          cases h
          exact .inr ⟨_, rfl, .unwritable hfree hspace hless hlong, rfl⟩
        · rw [allocate_small hn hp hfree hspace hless hlong] at h
          cases h
          exact .inr ⟨_, rfl, .small hfree hspace hless hlong, rfl⟩
      · rw [allocate_of_unseen hn hp hfree, bind_ok (availableOctets_surveyed hp hspace),
          if_neg hless] at h
        exact create_outcome ht hn hp hrmdir hfree hspace (Int.not_lt.mp hless) h
    · obtain ⟨e, hunknown⟩ := availableOctets_unsurveyed hp hspace
      rw [allocate_of_unseen hn hp hfree, bind_error hunknown] at h
      cases h
      exact .inr ⟨_, rfl, .unsurveyed hfree hspace e, rfl⟩
  · obtain ⟨hwalk, hoccupied⟩ := not_unseen.mp hfree
    rw [allocate_of_seen hn hp hwalk hoccupied] at h
    cases h
    exact .inr ⟨_, rfl, .occupied hoccupied hwalk, rfl⟩

/-- A directory is allocated exactly if there is nothing at its path, the space can be looked up and
is large enough, and the directory can be made and given its mode. Then the tree has that one empty
directory in addition, with exactly that mode. Otherwise the allocation is refused for the first of
these that is not so as far as the system sees, and the tree is as it was. Want of space is reported
exactly where nothing is seen at the path and the space is known and too small. -/
theorem allocate_decides (directory name : Text) (capacity : Int) (w v : World)
    (r : Except Failure Text) (ht : w.files.IsTree) (hn : validateName name = .ok ())
    (hp : '\x00' ∉ directory) (hrmdir : Fault.Calm .rmdir w.faults)
    (h : allocate directory name capacity w = (r, v)) :
    (r = .ok (Path.join directory name) ↔ Allocatable directory name capacity w) ∧
    (∀ path, r = .ok path → path = Path.join directory name ∧
      ∃ place, Extended path place directoryMode w.files v.files) ∧
    (∀ e, r = .error e → Refused directory name capacity w e ∧ v.files = w.files) ∧
    (r = .error (.provisioning (.insufficientCapacity (space w) capacity)) ↔
      Unseen w.files (Path.join directory name) ∧ Surveyed directory w ∧ space w < capacity ∧
        ¬ Unwritable (space w) capacity) := by
  rcases allocate_outcome ht (.of_validateName hn) hp hrmdir h with
    ⟨rfl, hallocatable, hextended⟩ | ⟨e, rfl, hrefused, hv⟩
  · refine ⟨iff_of_true rfl hallocatable, fun path hpath => ?_, fun e he => (by cases he), ?_⟩
    · cases hpath
      exact ⟨rfl, hextended⟩
    · refine iff_of_false (fun he => by cases he) ?_
      rintro ⟨-, -, hless, -⟩
      exact absurd hallocatable.fits (by omega)
  · refine ⟨iff_of_false (fun hr => by cases hr) hrefused.not_allocatable, fun path hr => (by cases hr),
      fun e' he => ?_, ?_⟩
    · cases he
      exact ⟨hrefused, hv⟩
    · rw [Except.error.injEq]
      exact hrefused.small_iff

/-- A world with the export directory `e`, whose group is handed down, and 1024 octets free. -/
def exportWorld (faults : List Fault) : World :=
  { World.ofFiles ⟨[([['e']], .directory 0o2755)]⟩ with
    faults := faults
    freeBlocks := 2
    blockSize := 512 }

/-- All of the space can be asked for, and no more; a directory that does not get its mode is gone
again. -/
theorem allocate_decides_boundary :
    ((allocate ['e'] ['a'] 1024 (exportWorld [])).1 = .ok ['e', '/', 'a'] ∧
      ∃ place, Extended ['e', '/', 'a'] place directoryMode (exportWorld []).files
        (allocate ['e'] ['a'] 1024 (exportWorld [])).2.files) ∧
    (allocate ['e'] ['a'] 1025 (exportWorld [])).1 =
      .error (.provisioning (.insufficientCapacity 1024 1025)) ∧
    (allocate ['e'] ['a'] 1024 (exportWorld [⟨.chmod, 1, 0, 1⟩])).2.files =
      (exportWorld [⟨.chmod, 1, 0, 1⟩]).files := by
  have htree (faults : List Fault) : (exportWorld faults).files.IsTree :=
    FileTree.isTree_of_wellFormed rfl
  have hfree (faults : List Fault) : ¬ Occupied (exportWorld faults).files ['e', '/', 'a'] := by
    have hl : (exportWorld faults).files.locate ['e', '/', 'a'] = .ok [['e'], ['a']] := rfl
    rw [occupied_iff hl]
    rintro ⟨node, hnode⟩
    cases hnode
  have hall (capacity : Int) (faults : List Fault) (hrmdir : Fault.Calm .rmdir faults) :=
    allocate_decides ['e'] ['a'] capacity (exportWorld faults) _ _ (htree faults) rfl (by decide)
      hrmdir (Prod.eta _).symm
  have hmade := (hall 1024 [] rfl).1.mpr
    ⟨hfree [], ⟨rfl, _, rfl⟩, by decide, ⟨rfl, [['e'], ['a']], rfl, rfl, ⟨_, rfl⟩, rfl⟩, rfl⟩
  refine ⟨⟨hmade, ((hall 1024 [] rfl).2.1 _ hmade).2⟩, ?_, ?_⟩
  · exact (hall 1025 [] rfl).2.2.2.mpr
      ⟨fun _ => hfree [], ⟨rfl, _, rfl⟩, by decide, by decide +kernel⟩
  · have hchmod := hall 1024 [⟨.chmod, 1, 0, 1⟩] rfl
    cases hr : (allocate ['e'] ['a'] 1024 (exportWorld [⟨.chmod, 1, 0, 1⟩])).1 with
    | ok path =>
      obtain ⟨rfl, -⟩ := hchmod.2.1 path hr
      cases (hchmod.1.mp hr).settable
    | error e => exact (hchmod.2.2.1 e hr).2

/-- A world with the export directory `e` and a directory `a` in it. -/
def takenWorld (mode : Nat) : World :=
  { World.ofFiles ⟨[([['e']], .directory mode), ([['e'], ['a']], .directory directoryMode)]⟩ with
    freeBlocks := 2
    blockSize := 512 }

/-- A path with `/.` behind it some times, which lead nowhere else. -/
def dotted (path : Text) (n : Nat) : Text := path ++ (List.replicate n ['/', '.']).flatten

theorem dotted_succ (path : Text) (n : Nat) :
    dotted path (n + 1) = dotted path n ++ '/' :: ['.'] := by
  simp [dotted, List.replicate_succ']

theorem parts_dotted (path : Text) (n : Nat) :
    Path.parts (dotted path n) = Path.parts path ++ List.replicate n ['.'] := by
  induction n with
  | zero => simp [dotted]
  | succ n ih =>
    rw [dotted_succ, Path.parts_append_slash, ih, List.replicate_succ', List.append_assoc]
    rfl

theorem size_dotted (path : Text) (n : Nat) :
    Path.size (dotted path n) = Path.size path + 2 * n := by
  induction n with
  | zero => simp [dotted]
  | succ n ih =>
    have hdot : Path.size ('/' :: ['.']) = 2 := by decide
    rw [dotted_succ, Path.size_append, ih, hdot]
    omega

theorem null_notMem_dotted (h : '\x00' ∉ path) (n : Nat) : '\x00' ∉ dotted path n := by
  induction n with
  | zero => simpa [dotted] using h
  | succ n ih =>
    rw [dotted_succ, List.mem_append, not_or]
    exact ⟨ih, by decide⟩

theorem walk_dots {t : FileTree} {p : Place} (h : t.step p ['.'] = .ok p) (n : Nat) :
    t.walk p (List.replicate n ['.']) = .ok p := by
  induction n with
  | zero => rfl
  | succ n ih =>
    rw [List.replicate_succ, FileTree.walk, h]
    exact ih

theorem dotted_ne_nil (h : path ≠ []) (n : Nat) : dotted path n ≠ [] :=
  List.append_ne_nil_of_left_ne_nil h _

/-- The longest path to `e` that the system takes leaves no room for the name of a directory in
it. -/
theorem allocate_dotted {n : Nat} (hn : 1 + 2 * n = Path.maxLength) :
    Occupied (takenWorld 0o755).files (Path.join (dotted ['e'] n) ['a']) ∧
      (allocate (dotted ['e'] n) ['a'] 1025 (takenWorld 0o755)).1 =
        .error (.provisioning (.insufficientCapacity 1024 1025)) := by
  have hname : IsVolumeName ['a'] := .of_validateName rfl
  have hpart := hname.isPart
  have hne := dotted_ne_nil (List.cons_ne_nil 'e' []) n
  have hnull : '\x00' ∉ dotted ['e'] n := null_notMem_dotted (by decide) n
  have hsize : Path.size (dotted ['e'] n) = Path.maxLength := by
    rw [size_dotted, ← hn]
    rfl
  have hwalk : (takenWorld 0o755).files.walk [] (Path.parts (dotted ['e'] n)) = .ok [['e']] := by
    rw [parts_dotted, FileTree.walk_append]
    exact walk_dots rfl n
  have hoccupied : Occupied (takenWorld 0o755).files (Path.join (dotted ['e'] n) ['a']) := by
    refine ⟨Path.join_ne_nil hne hpart, [['e'], ['a']], .directory directoryMode, ?_, rfl⟩
    rw [FileTree.start, Path.isAbsolute_join hne hpart]
    apply FileTree.follow_of_walk
    rw [Path.parts_join hne hpart, FileTree.walk_append]
    exact hwalk ▸ rfl
  have hunseen : Unseen (takenWorld 0o755).files (Path.join (dotted ['e'] n) ['a']) := by
    rintro ⟨place, hl⟩
    have hshort := (FileTree.locate_eq_ok.mp hl).2.1
    have hlong := Path.size_join_ge hne hpart
    have hone : Path.size ['a'] = 1 := by decide
    omega
  have hlocate : (takenWorld 0o755).files.locate (dotted ['e'] n) = .ok [['e']] :=
    FileTree.locate_eq_ok.mpr ⟨hne, hsize.le, hwalk⟩
  have hspace : Surveyed (dotted ['e'] n) (takenWorld 0o755) :=
    ⟨rfl, _, FileTree.resolve_eq_ok.mpr ⟨hlocate, rfl, fun _ => rfl⟩⟩
  have hrefused : allocate (dotted ['e'] n) ['a'] 1025 (takenWorld 0o755) = _ :=
    allocate_small hname hnull hunseen hspace (by decide) (by decide +kernel)
  exact ⟨hoccupied, congrArg Prod.fst hrefused⟩

/-- A directory that is there is not seen in one that may not be searched, and not at the end of a
path that is too long, and then it is for want of space that it is not made. -/
theorem allocate_unseen :
    (Occupied (takenWorld 0o600).files ['e', '/', 'a'] ∧
      (allocate ['e'] ['a'] 1025 (takenWorld 0o600)).1 =
        .error (.provisioning (.insufficientCapacity 1024 1025))) ∧
    Occupied (takenWorld 0o755).files (Path.join (dotted ['e'] 2047) ['a']) ∧
      (allocate (dotted ['e'] 2047) ['a'] 1025 (takenWorld 0o755)).1 =
        .error (.provisioning (.insufficientCapacity 1024 1025)) := by
  refine ⟨⟨⟨List.cons_ne_nil _ _, [['e'], ['a']], _, rfl, rfl⟩, by decide +kernel⟩, ?_⟩
  exact allocate_dotted rfl

end NfsVolume.Volume
