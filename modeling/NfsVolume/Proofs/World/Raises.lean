import NfsVolume.Proofs.World.Files
import NfsVolume.Proofs.World.Path

/-! Which failures a computation can end in. -/
namespace NfsVolume

/-- An error of the operating system. -/
def Failure.IsOs (e : Failure) : Prop := ∃ problem, e = .os problem

/-- A failure that is one of provisioning by its kind. -/
def Failure.IsProvisioning (e : Failure) : Prop := ∃ problem, e = .provisioning problem

/-- A failure of provisioning other than that there is no group to pick. -/
def Failure.IsOfStep (e : Failure) : Prop :=
  ∃ problem : ProvisioningError, problem.kind ≠ .noGroups ∧ e = .provisioning problem

theorem Failure.IsOfStep.isProvisioning {e : Failure} (h : e.IsOfStep) : e.IsProvisioning :=
  h.imp fun _ h => h.2

/-- A failure of provisioning for another reason than its request and want of a group. -/
def Failure.IsOfEffect (e : Failure) : Prop :=
  ∃ problem : ProvisioningError,
    (problem.kind ≠ .noGroups ∧ problem.kind ≠ .invalidRequest) ∧ e = .provisioning problem

theorem Failure.IsOfEffect.isOfStep {e : Failure} (h : e.IsOfEffect) : e.IsOfStep :=
  h.imp fun _ h => ⟨h.1.1, h.2⟩

theorem Failure.IsOfEffect.isProvisioning {e : Failure} (h : e.IsOfEffect) : e.IsProvisioning :=
  h.isOfStep.isProvisioning

theorem Failure.isOfEffect {problem : ProvisioningError}
    (h : problem.kind ≠ .noGroups ∧ problem.kind ≠ .invalidRequest) :
    Failure.IsOfEffect (.provisioning problem) := ⟨problem, h, rfl⟩

theorem Failure.isOfStep {problem : ProvisioningError} (h : problem.kind ≠ .noGroups) :
    Failure.IsOfStep (.provisioning problem) := ⟨problem, h, rfl⟩

namespace Run

variable {α β : Type} {P Q : Failure → Prop}

/-- A computation whose failures all satisfy a predicate. -/
def Raises (P : Failure → Prop) (x : Run α) : Prop := ∀ w e v, x w = (.error e, v) → P e

theorem Raises.mono {x : Run α} (h : Raises P x) (hPQ : ∀ e, P e → Q e) : Raises Q x :=
  fun w e v hx => hPQ e (h w e v hx)

theorem pure_raises (a : α) : Raises P (pure a : Run α) := fun _ _ _ h => by cases h

theorem get_raises : Raises P (get : Run World) := fun _ _ _ h => by cases h

theorem throw_raises {e : Failure} (h : P e) : Raises P (throw e : Run α) := fun _ _ _ hx => by
  cases hx
  exact h

theorem log_raises (level : LogLevel) (source : LogSource) (text : Text) :
    Raises P (log level source text) := fun _ _ _ h => by cases h

theorem Raises.bind {x : Run α} {f : α → Run β} (hx : Raises P x) (hf : ∀ a, Raises P (f a)) :
    Raises P (x >>= f) := by
  intro w e v h
  rcases of_bind h with ⟨a, u, -, hr⟩ | ⟨e', hr, he⟩
  · exact hf a u e v hr
  · cases he
    exact hx w e v hr

theorem Raises.ite {c : Prop} [Decidable c] {x y : Run α} (hx : Raises P x) (hy : Raises P y) :
    Raises P (if c then x else y) := by
  split
  · exact hx
  · exact hy

theorem Raises.onOsError {x : Run α} {f : OsError → Run α}
    (hx : Raises (fun e => e.IsOs ∨ P e) x) (hf : ∀ e, Raises P (f e)) :
    Raises P (onOsError x f) := by
  intro w e v h
  rcases of_onOsError h with ⟨hr, hnot⟩ | ⟨o, u, -, hr⟩
  · rcases hx w e v hr with ⟨o, rfl⟩ | hP
    · exact absurd rfl (hnot o)
    · exact hP
  · exact hf o u e v hr

theorem meet_raises (call : SystemCall) : Raises Failure.IsOs (meet call) := by
  intro w e v h
  obtain ⟨-, ⟨-, hr⟩ | ⟨errno, -, hr⟩⟩ := of_meet h
  · cases hr
  · cases hr
    exact ⟨_, rfl⟩

end Run

namespace Files

open Run

variable {α : Type} {path : Text}

theorem refuse_raises (errno : Errno) (path : Text) :
    Raises Failure.IsOs (refuse errno path : Run α) := throw_raises ⟨_, rfl⟩

theorem setFiles_raises {P : Failure → Prop} (files : FileTree) : Raises P (setFiles files) :=
  fun _ _ _ h => by cases h

theorem checkPath_raises {P : Failure → Prop} (hp : '\x00' ∉ path) : Raises P (checkPath path) := by
  intro w e v h
  rw [checkPath_ok hp] at h
  cases h

theorem resolve_raises (hp : '\x00' ∉ path) : Raises Failure.IsOs (resolve path) := by
  refine (checkPath_raises hp).bind fun _ => get_raises.bind fun u => ?_
  cases u.files.resolve path with
  | ok found => exact pure_raises _
  | error errno => exact refuse_raises _ _

/-- How a path with a null character is refused. -/
def RefusesNull (path : Text) (e : Failure) : Prop := '\x00' ∈ path ∧ e = .value .nullInPath

theorem resolve_fails (path : Text) :
    Raises (fun e => e.IsOs ∨ RefusesNull path e) (resolve path) := by
  by_cases hp : '\x00' ∈ path
  · intro w e v h
    obtain ⟨-, ⟨found, hr, -⟩ | ⟨hno, -⟩ | hr⟩ := of_resolve h
    · cases hr
    · exact absurd hp hno
    · cases hr
      exact .inr ⟨hp, rfl⟩
  · exact (resolve_raises hp).mono fun e h => .inl h

theorem freeOctets_fails (path : Text) :
    Raises (fun e => e.IsOs ∨ RefusesNull path e) (freeOctets path) := by
  refine Raises.bind ((meet_raises _).mono fun e h => .inl h) fun _ => ?_
  exact (resolve_fails path).bind fun _ => get_raises.bind fun _ => pure_raises _

theorem readOctets_fails (path : Text) :
    Raises (fun e => e.IsOs ∨ RefusesNull path e) (readOctets path) := by
  apply (resolve_fails path).bind
  rintro ⟨place, node⟩
  refine Raises.ite ((refuse_raises _ _).mono fun e h => .inl h) ?_
  cases node with
  | file mode content => exact pure_raises _
  | directory mode => exact (refuse_raises _ _).mono fun e h => .inl h

/-- A file that cannot be read as text is refused by the system, or for its name, or is no text. -/
theorem readExact_fails {w v : World} {e : Failure} (h : readExact path w = (.error e, v)) :
    e.IsOs ∨ RefusesNull path e ∨
      ∃ problem, e = .undecodable problem ∧ Undecodable path w.files problem := by
  rcases of_bind h with ⟨octets, u, hread, hdecode⟩ | ⟨e', hread, hr⟩
  · obtain ⟨hp, place, mode, hfile, hmay⟩ := of_readOctets hread
    cases hd : Text.Utf8.decode octets with
    | ok text =>
      rw [decode, hd] at hdecode
      cases hdecode
    | error problem =>
      rw [decode, hd] at hdecode
      cases hdecode
      exact .inr (.inr ⟨problem, rfl, hp, place, mode, octets, hfile, hmay, hd⟩)
  · cases hr
    rcases readOctets_fails path _ _ _ hread with hos | hnull
    · exact .inl hos
    · exact .inr (.inl hnull)

theorem append_fails (path content : Text) :
    Raises (fun e => e.IsOs ∨ RefusesNull path e) (append path content) := by
  apply (resolve_fails path).bind
  rintro ⟨place, node⟩
  cases node with
  | directory mode => exact (refuse_raises _ _).mono fun e h => .inl h
  | file mode old =>
    refine Raises.ite ((refuse_raises _ _).mono fun e h => .inl h) ?_
    refine get_raises.bind fun u => (setFiles_raises _).bind fun _ => ?_
    refine Raises.bind (fun _ _ _ h => by cases h) fun _ => ?_
    exact (meet_raises _).mono fun e h => .inl h

theorem changeMode_raises (hp : '\x00' ∉ path) (mode : Nat) :
    Raises Failure.IsOs (changeMode path mode) :=
  (meet_raises _).bind fun _ => (resolve_raises hp).bind fun _ =>
    get_raises.bind fun _ => setFiles_raises _

theorem makeDirectory_raises (hp : '\x00' ∉ path) (mode : Nat) :
    Raises Failure.IsOs (makeDirectory path mode) := by
  refine (checkPath_raises hp).bind fun _ => get_raises.bind fun u => ?_
  dsimp only
  cases u.files.locate path with
  | error errno => exact refuse_raises _ _
  | ok place =>
    refine Raises.ite (refuse_raises _ _) ?_
    cases u.files.get? place.dropLast with
    | none => exact refuse_raises _ _
    | some parent =>
      refine Raises.ite (refuse_raises _ _) (Raises.ite (refuse_raises _ _) ?_)
      exact setFiles_raises _

theorem mem_splitLast {c : Char} (h : c ∈ (splitLast path).1) : c ∈ path := by
  unfold splitLast at h
  dsimp only at h
  split at h
  · exact Path.mem_split (Path.mem_split h)
  · exact Path.mem_split h

theorem makeDirectoriesUpTo_raises (fuel : Nat) (hp : '\x00' ∉ path) (mode : Nat) :
    Raises Failure.IsOs (makeDirectoriesUpTo fuel path mode) := by
  induction fuel generalizing path mode with
  | zero => exact (meet_raises _).bind fun _ => makeDirectory_raises hp mode
  | succ fuel ih =>
    have hhead : '\x00' ∉ (splitLast path).1 := fun h => hp (mem_splitLast h)
    unfold makeDirectoriesUpTo
    refine (meet_raises _).bind fun _ => ?_
    dsimp only
    refine Raises.bind (fun _ _ _ h => by cases h) fun _ => ?_
    refine Raises.ite ?_ (makeDirectory_raises hp mode)
    have habove : Raises Failure.IsOs (onOsError (makeDirectoriesUpTo fuel (splitLast path).1 0o777)
        fun e => if e.errno = Errno.fileExists then pure () else throw (.os e)) := by
      refine ((ih hhead 0o777).mono fun e h => .inl h).onOsError fun e => ?_
      exact Raises.ite (pure_raises _) (throw_raises ⟨e, rfl⟩)
    refine habove.bind fun _ => ?_
    exact Raises.ite (pure_raises _) (makeDirectory_raises hp mode)

theorem makeDirectories_raises (hp : '\x00' ∉ path) (mode : Nat) :
    Raises Failure.IsOs (makeDirectories path mode) :=
  (makeDirectoriesUpTo_raises _ hp mode).bind fun _ _ _ _ h => by cases h

theorem removeEmpty_raises (place : Place) (shown : Text) :
    Raises Failure.IsOs (removeEmpty place shown) := by
  refine get_raises.bind fun u => ?_
  dsimp only
  cases u.files.get? place with
  | none => exact refuse_raises _ _
  | some node =>
    refine Raises.ite (refuse_raises _ _) (Raises.ite (refuse_raises _ _) ?_)
    exact Raises.ite (refuse_raises _ _) (setFiles_raises _)

theorem removeDirectory_raises (hp : '\x00' ∉ path) :
    Raises Failure.IsOs (removeDirectory path) := by
  refine (meet_raises _).bind fun _ => (checkPath_raises hp).bind fun _ => ?_
  refine get_raises.bind fun u => ?_
  cases u.files.locate path with
  | error errno => exact refuse_raises _ _
  | ok place =>
    dsimp only
    cases (Path.parts path).getLast? with
    | none => exact refuse_raises _ _
    | some last =>
      refine Raises.ite (refuse_raises _ _) (Raises.ite (refuse_raises _ _) ?_)
      exact removeEmpty_raises place path

mutual

theorem removeContents_raises :
    ∀ (depth : Nat) (place : Place) (shown : Text),
      Raises Failure.IsOs (removeContents depth place shown)
  | 0, _, _ => by
    unfold removeContents
    exact pure_raises _
  | depth + 1, place, shown => by
    unfold removeContents
    refine get_raises.bind fun u => ?_
    dsimp only
    cases u.files.get? place with
    | none => exact refuse_raises _ _
    | some node =>
      refine Raises.ite (refuse_raises _ _) (Raises.ite (refuse_raises _ _) ?_)
      exact removeEach_raises depth place (u.files.children place)

theorem removeEach_raises :
    ∀ (depth : Nat) (place : Place) (children : List (Text × Node)),
      Raises Failure.IsOs (removeEach depth place children)
  | _, _, [] => by
    unfold removeEach
    exact pure_raises _
  | depth, place, (name, node) :: rest => by
    have hrest := removeEach_raises depth place rest
    unfold removeEach
    dsimp only
    refine Raises.ite ?_ (get_raises.bind fun u => Raises.ite ?_ ?_)
    · refine (removeContents_raises depth _ _).bind fun _ => (meet_raises _).bind fun _ => ?_
      exact (removeEmpty_raises _ _).bind fun _ => hrest
    · exact (refuse_raises _ _).bind fun _ => hrest
    · exact get_raises.bind fun _ => (setFiles_raises _).bind fun _ => hrest

end

theorem removeTree_raises (hp : '\x00' ∉ path) : Raises Failure.IsOs (removeTree path) := by
  refine (meet_raises _).bind fun _ => (resolve_raises hp).bind fun found => ?_
  refine get_raises.bind fun u => (removeContents_raises _ _ _).bind fun _ => ?_
  exact removeDirectory_raises hp

end Files
end NfsVolume
