import NfsVolume.Volume.Directory
import NfsVolume.Proofs.Volume.Name
import NfsVolume.Proofs.World.Files
import NfsVolume.Proofs.World.Raises
import Mathlib.Data.Nat.Bitwise

/-! Making the directory of a volume and removing it again: one directory is made at a place that
was empty, and what remains of it when the call fails. -/
namespace NfsVolume.Volume

open Run Files

variable {directory name path : Text} {w v : World}

/-- A path that ends in a name of its own, which does not begin with a dot. -/
structure IsVolumePath (path : Text) : Prop where
  noNull : '\x00' ∉ path
  noSlash : Path.endsInSlash path = false
  last : ∃ name, (Path.parts path).getLast? = some name ∧ ∀ rest, name ≠ '.' :: rest

theorem IsVolumeName.null_notMem_join (h : IsVolumeName name) (hp : '\x00' ∉ directory) :
    '\x00' ∉ Path.join directory name := by
  intro hm
  rcases Path.mem_join (by decide) hm with hm | hm
  · exact hp hm
  · exact h.notMem (by decide) (by decide) hm

theorem IsVolumeName.join_isVolumePath (h : IsVolumeName name) (hne : directory ≠ [])
    (hp : '\x00' ∉ directory) : IsVolumePath (Path.join directory name) where
  noNull := h.null_notMem_join hp
  noSlash := Path.endsInSlash_join hne h.isPart
  last := ⟨name, by rw [Path.parts_join hne h.isPart, List.getLast?_concat], h.head_ne_dot⟩

theorem IsVolumePath.place {t : FileTree} {place : Place} (h : IsVolumePath path)
    (hl : t.locate path = .ok place) :
    ∃ above name, place = above ++ [name] ∧ ∀ rest, name ≠ '.' :: rest := by
  obtain ⟨name, hlast, hdot⟩ := h.last
  obtain ⟨names, hnames⟩ := List.getLast?_eq_some_iff.mp hlast
  obtain ⟨-, -, hwalk⟩ := FileTree.locate_eq_ok.mp hl
  rw [hnames, FileTree.walk_append] at hwalk
  cases habove : t.walk (FileTree.start path) names with
  | error errno => simp [habove, Except.bind] at hwalk
  | ok above =>
    rw [habove] at hwalk
    cases hs : t.step above name with
    | error errno => simp [Except.bind, FileTree.walk, hs] at hwalk
    | ok q =>
      simp only [Except.bind, FileTree.walk, hs] at hwalk
      cases hwalk
      exact ⟨above, name, FileTree.step_eq_ok (hdot []) (hdot ['.']) hs, hdot⟩

/-- A path to a place at which there is nothing, in a directory that entries can be made in. -/
structure Vacant (t : FileTree) (path : Text) (place : Place) : Prop where
  located : t.locate path = .ok place
  free : t.get? place = none
  parent : ∃ mode, t.get? place.dropLast = some (.directory mode)
  changeable : t.mayChange place.dropLast = true

/-- A directory can be made at a path now. -/
structure Makeable (path : Text) (w : World) : Prop where
  calm : Fault.due? .makedirs w.faults = none
  vacant : ∃ place, Vacant w.files path place

/-- The directory that is cut from the path of a volume is there if the export directory is. -/
theorem isPresent_head {head : Text} {found : Place × Node} (hp : '\x00' ∉ directory)
    (hd : w.files.resolve directory = .ok found)
    (hhead : head = directory ∨ (head ≠ [] ∧ Path.endsInSlash head = false ∧
      ∃ slashes, directory = head ++ slashes ∧ slashes.all (· = '/') = true)) :
    isPresent head w = (.ok true, w) := by
  rw [isPresent_apply]
  rcases hhead with rfl | ⟨hne, hslash, slashes, rfl, hall⟩
  · simp [hd, hp, Except.toOption]
  · obtain ⟨place, node⟩ := found
    obtain ⟨hl, hg, -⟩ := FileTree.resolve_eq_ok.mp hd
    obtain ⟨-, hsize, hwalk⟩ := FileTree.locate_eq_ok.mp hl
    have hres : w.files.resolve head = .ok (place, node) := by
      refine FileTree.resolve_eq_ok.mpr ⟨FileTree.locate_eq_ok.mpr ⟨hne, ?_, ?_⟩, hg, ?_⟩
      · rw [Path.size_append] at hsize
        omega
      · rw [Path.parts_append_slashes _ hall] at hwalk
        rwa [FileTree.start, Path.isAbsolute_append hne] at hwalk
      · rw [hslash]
        intro h
        cases h
    have hp' : '\x00' ∉ head := fun h => hp (List.mem_append_left slashes h)
    simp [hres, hp', Except.toOption]

/-- The place of a volume is right below the place of the export directory. -/
theorem locate_join {found : Place × Node} {place : Place} (hn : IsVolumeName name)
    (hd : w.files.resolve directory = .ok found)
    (hl : w.files.locate (Path.join directory name) = .ok place) : place = found.1 ++ [name] := by
  obtain ⟨above, node⟩ := found
  obtain ⟨hne, -, hwalk⟩ := FileTree.locate_eq_ok.mp (FileTree.resolve_eq_ok.mp hd).1
  obtain ⟨-, -, hwalk'⟩ := FileTree.locate_eq_ok.mp hl
  rw [Path.parts_join hne hn.isPart, FileTree.walk_append, FileTree.start,
    Path.isAbsolute_join hne hn.isPart, ← FileTree.start, hwalk] at hwalk'
  cases hs : w.files.step above name with
  | error errno =>
    simp [Except.bind, FileTree.walk, hs] at hwalk'
  | ok q =>
    simp only [Except.bind, FileTree.walk, hs] at hwalk'
    cases hwalk'
    exact FileTree.step_eq_ok (hn.head_ne_dot []) (hn.head_ne_dot ['.']) hs

/-- Nothing is made above a path whose directory is there. -/
theorem makeDirectoriesUpTo_present {head : Text} {mode k : Nat}
    (hlast : splitLast path = (head, name))
    (hhead : ∀ u, u.files = w.files → isPresent head u = (.ok true, u)) :
    makeDirectoriesUpTo (k + 1) path mode w =
      (meet .makedirs >>= fun _ => makeDirectory path mode) w := by
  unfold makeDirectoriesUpTo
  rw [bind_apply, bind_apply]
  rcases hm : meet .makedirs w with ⟨e | _, u⟩
  · rfl
  · have hu : u.files = w.files := by rw [(of_meet hm).1, struck_files]
    dsimp only
    rw [hlast]
    dsimp only
    rw [bind_ok (hhead u hu)]
    simp

/-- To make the directory of a volume takes one call, if the export directory is there. -/
theorem makeDirectories_join {mode : Nat} {found : Place × Node} (hn : IsVolumeName name)
    (hp : '\x00' ∉ directory) (hd : w.files.resolve directory = .ok found) :
    makeDirectories (Path.join directory name) mode w =
      ((meet .makedirs >>= fun _ => makeDirectory (Path.join directory name) mode) >>= fun _ =>
        record (.directoryMade (Path.join directory name))) w := by
  have hne := (FileTree.locate_eq_ok.mp (FileTree.resolve_eq_ok.mp hd).1).1
  obtain ⟨head, hsplit, hhead⟩ := Path.split_join hne hn.isPart
  have hlast : splitLast (Path.join directory name) = (head, name) := by
    have hempty : name.isEmpty = false := by simpa using hn.isPart.ne_nil
    simp [splitLast, hsplit, hempty]
  obtain ⟨k, hk⟩ : ∃ k, (Path.join directory name).length = k + 1 := by
    have := List.length_pos_iff.mpr (Path.join_ne_nil hne hn.isPart)
    exact ⟨_, (Nat.succ_pred_eq_of_pos this).symm⟩
  have hpresent : ∀ u : World, u.files = w.files → isPresent head u = (.ok true, u) := fun u hu =>
    isPresent_head hp (hu ▸ hd) hhead
  unfold makeDirectories
  rw [hk, bind_apply, bind_apply, makeDirectoriesUpTo_present hlast hpresent]

/-- The directory of a volume is made, and no other, wherever that is possible. -/
theorem of_makeDirectories {mode : Nat} {found : Place × Node} {r : Except Failure Unit}
    (hn : IsVolumeName name) (hp : '\x00' ∉ directory)
    (hd : w.files.resolve directory = .ok found)
    (h : makeDirectories (Path.join directory name) mode w = (r, v)) :
    (v.files = w.files ∧ (∃ e, r = .error e) ∧ ¬ Makeable (Path.join directory name) w) ∨
      ∃ parent, r = .ok () ∧ Makeable (Path.join directory name) w ∧
        Vacant w.files (Path.join directory name) (found.1 ++ [name]) ∧
        v.files = w.files.put (found.1 ++ [name])
          (.directory (withoutMask mode ||| (Node.directory parent).groupBit)) := by
  rw [makeDirectories_join hn hp hd] at h
  by_cases hm : Makeable (Path.join directory name) w
  · obtain ⟨place, hvacant⟩ := hm.vacant
    obtain rfl := locate_join hn hd hvacant.located
    obtain ⟨parent, hparent⟩ := hvacant.parent
    have hne := (FileTree.locate_eq_ok.mp (FileTree.resolve_eq_ok.mp hd).1).1
    obtain ⟨last, hlast, hdot⟩ := (hn.join_isVolumePath hne hp).last
    have hmade : makeDirectory (Path.join directory name) mode (struck .makedirs w) = _ :=
      makeDirectory_ok (hn.null_notMem_join hp) hvacant.located hlast (hdot []) (hdot ['.'])
        hvacant.free hparent hvacant.changeable
    rw [bind_ok ((bind_ok (meet_ok hm.calm)).trans hmade)] at h
    cases h
    exact .inr ⟨parent, rfl, hm, hvacant, rfl⟩
  · rcases of_bind h with ⟨_, u, hmake, -⟩ | ⟨e, hmake, rfl⟩
    · obtain ⟨_, u', hmeet, hdir⟩ := of_bind_ok hmake
      obtain ⟨rfl, hcalm⟩ := of_meet_ok hmeet
      rcases of_makeDirectory hdir with
        ⟨-, e, hr⟩ | ⟨place, parent, -, -, hl, hfree, hparent, hchange, -⟩
      · cases hr
      · exact absurd ⟨hcalm, place, hl, hfree, ⟨parent, hparent⟩, hchange⟩ hm
    · refine .inl ⟨?_, ⟨e, rfl⟩, hm⟩
      rcases of_bind hmake with ⟨_, u', hmeet, hdir⟩ | ⟨e', hmeet, -⟩
      · obtain ⟨rfl, -⟩ := of_meet hmeet
        rcases of_makeDirectory hdir with ⟨rfl, -⟩ | ⟨place, parent, hr, -⟩
        · exact struck_files _ _
        · cases hr
      · rw [(of_meet hmeet).1, struck_files]

/-- A directory that its owner may neither read nor enter. -/
def Closed (mode : Nat) : Prop :=
  (Node.directory mode).mayRead = false ∧ (Node.directory mode).maySearch = false

instance (mode : Nat) : Decidable (Closed mode) := inferInstanceAs (Decidable (_ ∧ _))

theorem closed_directoryMode : Closed directoryMode := by decide

theorem closed_made (parent : Nat) :
    Closed (withoutMask directoryMode ||| (Node.directory parent).groupBit) := by
  have hbit : (Node.directory parent).groupBit = 0 ∨ (Node.directory parent).groupBit = 2 ^ 10 := by
    have := Nat.and_two_pow parent 10
    cases hb : parent.testBit 10 with
    | false => exact .inl (by simpa [Node.groupBit, Node.mode, hb] using this)
    | true => exact .inr (by simpa [Node.groupBit, Node.mode, hb] using this)
  rcases hbit with hbit | hbit
  · rw [hbit]
    decide
  · rw [hbit]
    decide

/-- A closed directory with nothing in it, which can be removed. -/
structure Made (t : FileTree) (path : Text) (place : Place) (mode : Nat) : Prop where
  located : t.locate path = .ok place
  found : t.get? place = some (.directory mode)
  closed : Closed mode
  below : ∀ name, t.get? (place ++ [name]) = none
  changeable : t.mayChange place.dropLast = true
  notFixed : FileTree.isFixed place = false

/-- A tree has the same nodes as another at a place and in its directory. -/
theorem mayChange_congr {t s : FileTree} {place : Place} (h : s.get? place = t.get? place) :
    s.mayChange place = t.mayChange place := by
  simp only [FileTree.mayChange, h]

theorem Vacant.made {t : FileTree} {place : Place} {mode : Nat} (h : Vacant t path place)
    (ht : t.IsTree) (hm : Closed mode) : Made (t.put place (.directory mode)) path place mode := by
  have hfixed := FileTree.not_isFixed_of_none h.free
  have hget (q : Place) := FileTree.get?_put t hfixed q (.directory mode)
  have hne : place.dropLast ≠ place := by
    obtain ⟨k, hk⟩ := h.parent
    intro he
    rw [he, h.free] at hk
    cases hk
  refine ⟨(FileTree.Covers.put_new h.free _).locate h.located, ?_, hm, ?_, ?_, hfixed⟩
  · rw [hget, if_pos rfl]
  · intro name
    rw [hget, if_neg (by simp), ht.below_none h.free name]
  · rw [mayChange_congr ((hget _).trans (if_neg hne)), h.changeable]

/-- Another file may be written meanwhile. -/
theorem Made.put_file {t : FileTree} {place other : Place} {mode fileMode : Nat}
    {content : List UInt8} (h : Made t path place mode)
    (ho : t.get? other = some (.file fileMode content)) (n : Node) :
    Made (t.put other n) path place mode := by
  have hfixed := FileTree.not_isFixed_of_file ho
  have hget (q : Place) := FileTree.get?_put t hfixed q n
  refine ⟨(FileTree.Covers.put_file ho n).locate h.located, ?_, h.closed, ?_, ?_, h.notFixed⟩
  · rw [hget, if_neg, h.found]
    rintro rfl
    rw [h.found] at ho
    cases ho
  · intro name
    rw [hget, if_neg, h.below name]
    rintro rfl
    rw [h.below name] at ho
    cases ho
  · rw [mayChange_congr, h.changeable]
    rw [hget, if_neg]
    rintro rfl
    have hc := h.changeable
    simp [FileTree.mayChange, ho, Node.isDirectory] at hc

/-- What is written to the log when a directory remains. -/
def remainsLine (path : Text) (e : OsError) : LogLine :=
  ⟨.error, .directories, "Failed to remove " ++ path ++ " during rollback: " ++ e.message⟩

/-- Why a directory remains: it was said not to be there, or it could not be removed by itself and
then not with its contents either. -/
def Remains (path : Text) (w v : World) : Prop :=
  ∃ errno, Fault.due? .rmdir w.faults = some errno ∧
    (errno = Errno.noEntry ∨ ∃ e more, v.log = w.log ++ more ∧ remainsLine path e ∈ more)

theorem Remains.of_frame {parts : List Part} {u : World} (h : Remains path u v)
    (hf : World.Frame parts w u) (hrmdir : Part.call .rmdir ∉ parts) : Remains path w v := by
  obtain ⟨errno, hdue, hwhy⟩ := h
  refine ⟨errno, (hf.due? hrmdir) ▸ hdue, hwhy.imp_right ?_⟩
  rintro ⟨e, more, hlog, hmem⟩
  obtain ⟨before, hbefore⟩ := hf.log
  exact ⟨e, before ++ more, by rw [hlog, ← hbefore, List.append_assoc],
    List.mem_append_right before hmem⟩

theorem release_within {parts : List Part} (hf : Part.files ∈ parts)
    (hrmdir : Part.call .rmdir ∈ parts) (hrmtree : Part.call .rmtree ∈ parts) (path : Text) :
    Within parts (release path) := by
  apply (removeDirectory_within hf hrmdir path).onOsError
  intro e
  refine Within.ite (pure_within _) ?_
  apply (removeTree_within hf hrmdir hrmtree path).onOsError
  intro e
  exact log_within _ _ _

/-- Releasing never fails. -/
theorem release_raises {P : Failure → Prop} (hp : '\x00' ∉ path) : Raises P (release path) := by
  refine ((removeDirectory_raises hp).mono fun _ h => .inl h).onOsError fun e => ?_
  refine Raises.ite (pure_raises _) ?_
  exact ((removeTree_raises hp).mono fun _ h => .inl h).onOsError fun e => log_raises _ _ _

/-- After releasing, the directory is gone, or there is a reason why it remains. -/
theorem of_release {place : Place} {mode : Nat} {r : Except Failure Unit} (hp : IsVolumePath path)
    (hm : Made w.files path place mode) (h : release path w = (r, v)) :
    (Fault.due? .rmdir w.faults = none ∧ v.files = w.files.remove place) ∨
      (v.files = w.files ∧ Remains path w v) := by
  obtain ⟨name, hlast, hdot⟩ := hp.last
  unfold release at h
  cases hdue : Fault.due? .rmdir w.faults with
  | none =>
    have hrm := removeDirectory_ok hp.noNull hm.located hlast (hdot []) (hdot ['.']) hm.found
      hm.changeable rfl
      (FileTree.children_eq_nil_of_get? hm.notFixed hm.below) hdue
    rw [onOsError_ok hrm] at h
    cases h
    exact .inl ⟨rfl, rfl⟩
  | some errno =>
    rw [onOsError_os (removeDirectory_due hdue)] at h
    by_cases hgone : errno = Errno.noEntry
    · rw [if_pos hgone] at h
      cases h
      exact .inr ⟨rfl, errno, hdue, .inl hgone⟩
    · rw [if_neg hgone] at h
      have hres : w.files.resolve path = .ok (place, .directory mode) :=
        FileTree.resolve_eq_ok.mpr ⟨hm.located, hm.found, fun _ => rfl⟩
      obtain ⟨e, he⟩ := removeTree_unreadable (w := struck .rmdir w) hp.noNull hres hm.closed.1
      rw [onOsError_os he] at h
      cases h
      exact .inr ⟨rfl, errno, hdue, .inr ⟨e, _, rfl, List.mem_singleton.mpr rfl⟩⟩

theorem availableOctets_within {parts : List Part} (hc : Part.call .statvfs ∈ parts)
    (directory : Text) : Within parts (availableOctets directory) :=
  (freeOctets_within hc directory).onOsError fun _ => throw_within _

theorem setGroup_within {parts : List Part} (hc : Part.call .chown ∈ parts) (path : Text)
    (gid : Int) : Within parts (setGroup path gid) :=
  (changeGroup_within hc path gid).onOsError fun _ => throw_within _

/-- Space is looked up only in a directory that is there. -/
theorem of_availableOctets {available : Int}
    (h : availableOctets directory w = (.ok available, v)) :
    '\x00' ∉ directory ∧ ∃ found, w.files.resolve directory = .ok found := by
  rcases of_onOsError h with ⟨hfree, -⟩ | ⟨e, u, -, hr⟩
  · obtain ⟨_, u, hm, hrest⟩ := of_bind_ok hfree
    obtain ⟨rfl, -⟩ := of_meet hm
    obtain ⟨found, u, hl, -⟩ := of_bind_ok hrest
    obtain ⟨-, ⟨found, -, hp, hl⟩ | ⟨-, errno, hr, -⟩ | hr⟩ := of_resolve hl
    · exact ⟨hp, found, hl⟩
    · cases hr
    · cases hr
  · cases hr

theorem refuseCapacity_apply (available requested : Int) (w : World) :
    ∃ e, (refuseCapacity available requested : Run Unit) w = (.error e, w) := by
  unfold refuseCapacity
  split
  · exact ⟨_, rfl⟩
  · exact ⟨_, rfl⟩

/-- The parts that a call touches up to the directory of its volume as long as its steps succeed; the
host may have been asked for its address before. -/
def allocationParts : List Part :=
  [.results "hostname", .files, .call .statvfs, .call .makedirs, .call .chmod]

/-- The directory of a volume has been made. -/
structure Allocated (w v : World) (path : Text) (place : Place) : Prop where
  vacant : Vacant w.files path place
  files : v.files = w.files.put place (.directory directoryMode)
  frame : World.Frame allocationParts w v
  passed : World.Passed .chmod w v

theorem Allocated.of_frame {parts : List Part} {u : World} {place : Place}
    (h : Allocated u v path place) (hf : World.Frame parts w u) (hfiles : Part.files ∉ parts)
    (hchmod : Part.call .chmod ∉ parts) (hsub : parts ⊆ allocationParts) :
    Allocated w v path place where
  vacant := hf.files hfiles ▸ h.vacant
  files := hf.files hfiles ▸ h.files
  frame := (hf.mono hsub).trans h.frame
  passed := h.passed.of_frame hf hchmod

/-- The last steps of an allocation: making the directory and setting its mode. -/
def create (path : Text) : Run Text := do
  onOsError (makeDirectories path directoryMode) fun e => refuseDirectory path (.mkdir e)
  onOsError (changeMode path directoryMode) fun e => do
    release path
    refuseDirectory path (.chmod e)
  return path

/-- The mode of a new directory is set, unless a fault is due for that and the directory is
released. -/
theorem of_close {place : Place} {mode : Nat} {r : Except Failure Unit} (hp : IsVolumePath path)
    (hm : Made u.files path place mode)
    (h : onOsError (changeMode path directoryMode) (fun e => do
      release path
      refuseDirectory path (.chmod e)) u = (r, v)) :
    (r = .ok () ∧ v.files = u.files.put place (.directory directoryMode) ∧
      World.Passed .chmod u v ∧ World.Frame [.files, .call .chmod] u v) ∨
      ((∃ e, r = .error (.provisioning (.directory path (.chmod e)))) ∧
        Fault.due? .chmod u.faults ≠ none ∧
        (v.files = u.files.remove place ∨ (v.files = u.files ∧ Remains path u v))) := by
  have hframe {x : Except Failure Unit} {v : World}
      (h : changeMode path directoryMode u = (x, v)) : World.Frame [.files, .call .chmod] u v :=
    (changeMode_within (by simp) (by simp) _ _).frame h
  cases hdue : Fault.due? .chmod u.faults with
  | none =>
    have hfound : u.files.resolve path = .ok (place, .directory mode) :=
      FileTree.resolve_eq_ok.mpr ⟨hm.located, hm.found, fun _ => rfl⟩
    have hmode : changeMode path directoryMode u = _ := changeMode_ok hp.noNull hfound hdue
    rw [onOsError_ok hmode] at h
    cases h
    exact .inl ⟨rfl, rfl, ⟨hdue, rfl⟩, hframe hmode⟩
  | some errno =>
    have hmode : changeMode path directoryMode u =
        (.error (.os ⟨errno, none⟩), struck .chmod u) := bind_error (meet_error hdue)
    rw [onOsError_os hmode] at h
    rcases of_bind h with ⟨_, u', hrelease, hrefuse⟩ | ⟨e, hrelease, -⟩
    · cases hrefuse
      refine .inr ⟨⟨_, rfl⟩, Option.some_ne_none errno, ?_⟩
      rcases of_release (w := struck .chmod u) hp hm hrelease with ⟨-, hv⟩ | ⟨hv, hremains⟩
      · exact .inl hv
      · exact .inr ⟨hv, hremains.of_frame (hframe hmode) (by simp)⟩
    · exact (release_raises (P := fun _ => False) hp.noNull _ _ _ hrelease).elim

/-- The directory cannot be made; or it is, and then only a fault that is due for its mode keeps it
from being allocated. -/
theorem of_create {found : Place × Node} {r : Except Failure Text} (ht : w.files.IsTree)
    (hn : IsVolumeName name) (hp : '\x00' ∉ directory) (hd : w.files.resolve directory = .ok found)
    (hpath : path = Path.join directory name) (h : create path w = (r, v)) :
    (∃ e, r = .error (.provisioning (.directory path (.mkdir e))) ∧ ¬ Makeable path w ∧
        v.files = w.files) ∨
      (Makeable path w ∧ ∃ place,
        (r = .ok path ∧ Allocated w v path place) ∨
          (Vacant w.files path place ∧ Fault.due? .chmod w.faults ≠ none ∧
            (∃ e, r = .error (.provisioning (.directory path (.chmod e)))) ∧
            (v.files = w.files ∨
              (∃ mode, Closed mode ∧ v.files = w.files.put place (.directory mode)) ∧
                Remains path w v))) := by
  subst hpath
  have hne := (FileTree.locate_eq_ok.mp (FileTree.resolve_eq_ok.mp hd).1).1
  have hvol := hn.join_isVolumePath hne hp
  unfold create at h
  rcases hmake : makeDirectories (Path.join directory name) directoryMode w with ⟨r', u⟩
  rcases of_makeDirectories hn hp hd hmake with
    ⟨hu, ⟨e, rfl⟩, hno⟩ | ⟨parent, rfl, hmakeable, hvacant, hu⟩
  · obtain ⟨o, rfl⟩ := makeDirectories_raises hvol.noNull _ _ _ _ hmake
    rw [bind_error (onOsError_os hmake)] at h
    cases h
    exact .inl ⟨o, rfl, hno, hu⟩
  · rw [bind_ok (onOsError_ok hmake)] at h
    have hclosed := closed_made parent
    generalize withoutMask directoryMode ||| (Node.directory parent).groupBit = made
      at hclosed hu
    have hm : Made u.files (Path.join directory name) (found.1 ++ [name]) made :=
      hu ▸ hvacant.made ht hclosed
    have hwu : World.Frame [.files, .call .makedirs] w u :=
      (makeDirectories_within (by simp) (by simp) _ _).frame hmake
    refine .inr ⟨hmakeable, found.1 ++ [name], ?_⟩
    rcases of_bind h with ⟨_, u', hmode, hreturn⟩ | ⟨e, hmode, rfl⟩
    · cases hreturn
      rcases of_close hvol hm hmode with ⟨-, hv, hpassed, huv⟩ | ⟨⟨e, hr⟩, -⟩
      · refine .inl ⟨rfl, hvacant, ?_, ?_, hpassed.of_frame hwu (by simp)⟩
        · rw [hv, hu, FileTree.put_put]
        · exact (hwu.mono (by simp [allocationParts])).trans
            (huv.mono (by simp [allocationParts]))
      · cases hr
    · rcases of_close hvol hm hmode with ⟨hr, -⟩ | ⟨⟨o, hr⟩, hdue, hleft⟩
      · cases hr
      · cases hr
        rw [hwu.due? (by simp)] at hdue
        refine .inr ⟨hvacant, hdue, ⟨o, rfl⟩, ?_⟩
        rcases hleft with hv | ⟨hv, hremains⟩
        · exact .inl (by rw [hv, hu, FileTree.remove_put hvacant.free])
        · exact .inr ⟨⟨made, hclosed, hv.trans hu⟩, hremains.of_frame hwu (by simp)⟩

/-- An allocation ends at a path that is taken, at the space that is not known or not enough, or it
makes the directory. -/
theorem allocate_cases {capacity : Int} {r : Except Failure Text}
    (h : allocate directory name capacity w = (r, v)) :
    (r = .error (.provisioning (.directory (Path.join directory name) .occupied)) ∧ v = w) ∨
      (∃ e, availableOctets directory w = (.error e, v) ∧ r = .error e) ∨
      ∃ available u, availableOctets directory w = (.ok available, u) ∧
        ((∃ e, (refuseCapacity available capacity : Run Unit) u = (.error e, u) ∧ v = u ∧
            r = .error e) ∨
          create (Path.join directory name) u = (r, v)) := by
  unfold allocate at h
  dsimp only at h
  rw [bind_ok (isPresent_apply _ w)] at h
  split at h
  · cases h
    exact .inl ⟨rfl, rfl⟩
  · rcases of_bind h with ⟨available, u, hspace, hrest⟩ | ⟨e, hspace, hr⟩
    · refine .inr (.inr ⟨available, u, hspace, ?_⟩)
      by_cases hless : available < capacity
      · obtain ⟨e, he⟩ := refuseCapacity_apply available capacity u
        rw [if_pos hless, bind_error he] at hrest
        cases hrest
        exact .inl ⟨e, he, rfl, rfl⟩
      · rw [if_neg hless] at hrest
        exact .inr hrest
    · exact .inr (.inl ⟨e, hspace, hr⟩)

theorem create_of_allocate_ok {capacity : Int} {path : Text}
    (h : allocate directory name capacity w = (.ok path, v)) :
    ∃ available u, availableOctets directory w = (.ok available, u) ∧
      create (Path.join directory name) u = (.ok path, v) := by
  rcases allocate_cases h with
    ⟨hr, -⟩ | ⟨e, -, hr⟩ | ⟨available, u, hspace, ⟨e, -, -, hr⟩ | hcreate⟩
  · cases hr
  · cases hr
  · cases hr
  · exact ⟨available, u, hspace, hcreate⟩

/-- An allocation makes the directory of the volume, or it fails and the directory is gone again
unless there is a reason why it remains. -/
theorem of_allocate {capacity : Int} {r : Except Failure Text} (ht : w.files.IsTree)
    (hn : IsVolumeName name) (h : allocate directory name capacity w = (r, v)) :
    (v.files = w.files ∧ ∃ e, r = .error e) ∨
      (IsVolumePath (Path.join directory name) ∧ ∃ place,
        (r = .ok (Path.join directory name) ∧ Allocated w v (Path.join directory name) place) ∨
          (Vacant w.files (Path.join directory name) place ∧ (∃ e, r = .error e) ∧
            (v.files = w.files ∨
              (∃ mode, Closed mode ∧ v.files = w.files.put place (.directory mode)) ∧
                Remains (Path.join directory name) w v))) := by
  have hlooked : Within [.call .statvfs] (availableOctets directory) :=
    availableOctets_within (by simp) directory
  rcases allocate_cases h with
    ⟨rfl, rfl⟩ | ⟨e, hspace, rfl⟩ | ⟨available, u, hspace, ⟨e, -, rfl, rfl⟩ | hcreate⟩
  · exact .inl ⟨rfl, _, rfl⟩
  · exact .inl ⟨(hlooked.frame hspace).files (by simp), e, rfl⟩
  · exact .inl ⟨(hlooked.frame hspace).files (by simp), e, rfl⟩
  · have hwu : World.Frame [.call .statvfs] w u := hlooked.frame hspace
    have hfiles : u.files = w.files := hwu.files (by simp)
    obtain ⟨hp, found, hd⟩ := of_availableOctets hspace
    have hne := (FileTree.locate_eq_ok.mp (FileTree.resolve_eq_ok.mp hd).1).1
    rcases of_create (hfiles ▸ ht) hn hp (hfiles ▸ hd) rfl hcreate with
      ⟨e, hr, -, hv⟩ | ⟨-, place, hcases⟩
    · exact .inl ⟨hv.trans hfiles, _, hr⟩
    · refine .inr ⟨hn.join_isVolumePath hne hp, place, ?_⟩
      rcases hcases with
        ⟨hr, hallocated⟩ | ⟨hvacant, -, ⟨e, hr⟩, hv | ⟨⟨mode, hclosed, hv⟩, hremains⟩⟩
      · exact .inl ⟨hr, hallocated.of_frame hwu (by simp) (by simp) (by simp [allocationParts])⟩
      · exact .inr ⟨hfiles ▸ hvacant, ⟨_, hr⟩, .inl (hv.trans hfiles)⟩
      · refine .inr ⟨hfiles ▸ hvacant, ⟨_, hr⟩, .inr ⟨⟨mode, hclosed, hfiles ▸ hv⟩, ?_⟩⟩
        exact hremains.of_frame hwu (by simp)

theorem allocate_within {parts : List Part} (hsub : allocationParts ⊆ parts)
    (hrmdir : Part.call .rmdir ∈ parts) (hrmtree : Part.call .rmtree ∈ parts)
    (directory name : Text) (capacity : Int) : Within parts (allocate directory name capacity) := by
  have hf : Part.files ∈ parts := hsub (by simp [allocationParts])
  unfold allocate
  dsimp only
  apply (isPresent_reads _).within.bind
  intro _
  have hcreate : Within parts (create (Path.join directory name)) := by
    refine Within.bind ((makeDirectories_within hf (hsub (by simp [allocationParts])) _ _).onOsError
      fun e => throw_within _) fun _ => ?_
    refine Within.bind ((changeMode_within hf (hsub (by simp [allocationParts])) _ _).onOsError
      fun e => ?_) fun _ => pure_within _
    exact (release_within hf hrmdir hrmtree _).bind fun _ => throw_within _
  have hrest : Within parts (do
      let available ← availableOctets directory
      if available < capacity then refuseCapacity available capacity
      create (Path.join directory name)) := by
    apply (availableOctets_within (hsub (by simp [allocationParts])) _).bind
    intro available
    dsimp only
    refine Within.ite (Within.bind ?_ fun _ => hcreate) hcreate
    exact Within.ite (throw_within _) (throw_within _)
  exact Within.ite ((throw_within _).bind fun _ => hrest) hrest

end NfsVolume.Volume
