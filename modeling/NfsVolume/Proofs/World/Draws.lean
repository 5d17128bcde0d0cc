import NfsVolume.Proofs.World.Files

/-! Computations that heed neither the random numbers to come nor what has been done outside so
far: wherever only these differ, they come to the same. -/
namespace NfsVolume

/-- The world with other random numbers to come and other events behind it. -/
def World.retold (w : World) (draws : List Int) (events : List Event) : World :=
  { w with draws := draws, events := events }

namespace Run

variable {α β : Type} {x : Run α}

/-- A computation that heeds neither random numbers nor what has been done outside before. -/
def Heedless (x : Run α) : Prop :=
  ∀ w draws events, ∃ later, x (w.retold draws events) = ((x w).1, (x w).2.retold draws later)

theorem pure_heedless (a : α) : Heedless (pure a : Run α) := fun _ _ events => ⟨events, rfl⟩

theorem throw_heedless (e : Failure) : Heedless (throw e : Run α) := fun _ _ events => ⟨events, rfl⟩

theorem log_heedless (level : LogLevel) (source : LogSource) (text : Text) :
    Heedless (log level source text) := fun _ _ events => ⟨events, rfl⟩

theorem record_heedless (e : Event) : Heedless (record e) := fun _ _ events => ⟨events ++ [e], rfl⟩

theorem environment_heedless (name : Text) : Heedless (environment name) :=
  fun _ _ events => ⟨events, rfl⟩

theorem meet_heedless (call : SystemCall) : Heedless (meet call) := fun w draws events => by
  refine ⟨events, ?_⟩
  rw [meet_apply, meet_apply]
  rfl

theorem ofExcept_heedless (r : Except Failure α) : Heedless (ofExcept r) := fun w draws events => by
  refine ⟨events, ?_⟩
  rw [ofExcept_apply, ofExcept_apply]

theorem Reads.heedless (hr : x.Reads) (hl : x.Looks) : Heedless x := fun w draws events => by
  refine ⟨events, ?_⟩
  rw [hr.apply (w.retold draws events), hr.apply w, hl w (w.retold draws events) rfl rfl rfl]

theorem Heedless.bind {f : α → Run β} (hx : Heedless x) (hf : ∀ a, Heedless (f a)) :
    Heedless (x >>= f) := by
  intro w draws events
  obtain ⟨later, h⟩ := hx w draws events
  rcases hw : x w with ⟨e | a, u⟩
  · rw [hw] at h
    exact ⟨later, by rw [bind_error h, bind_error hw]⟩
  · rw [hw] at h
    obtain ⟨last, hlast⟩ := hf a u draws later
    exact ⟨last, by rw [bind_ok h, bind_ok hw, hlast]⟩

/-- The world may be looked at, but for the random numbers and the events. -/
theorem get_bind_heedless {f : World → Run β} (hf : ∀ u, Heedless (f u))
    (hsame : ∀ u draws events, f (u.retold draws events) = f u) : Heedless (get >>= f) := by
  intro w draws events
  rw [bind_ok (get_apply _), bind_ok (get_apply w), hsame]
  exact hf w w draws events

theorem Heedless.ite {c : Prop} [Decidable c] {y : Run α} (hx : Heedless x) (hy : Heedless y) :
    Heedless (if c then x else y) := by
  split
  · exact hx
  · exact hy

theorem Heedless.onOsError {f : OsError → Run α} (hx : Heedless x) (hf : ∀ e, Heedless (f e)) :
    Heedless (onOsError x f) := by
  intro w draws events
  obtain ⟨later, h⟩ := hx w draws events
  rcases hw : x w with ⟨e | a, u⟩
  · rw [hw] at h
    cases e with
    | os e =>
      obtain ⟨last, hlast⟩ := hf e u draws later
      exact ⟨last, by rw [onOsError_os h, onOsError_os hw, hlast]⟩
    | _ =>
      refine ⟨later, ?_⟩
      unfold Run.onOsError
      rw [tryCatch_error h, tryCatch_error hw]
      rfl
  · rw [hw] at h
    exact ⟨later, by rw [onOsError_ok h, onOsError_ok hw]⟩

/-- A computation whose successes heed neither random numbers nor what has been done before. -/
def Repeats (x : Run α) : Prop :=
  ∀ w draws events a v, x w = (.ok a, v) →
    ∃ later, x (w.retold draws events) = (.ok a, v.retold draws later)

theorem Heedless.repeats (hx : Heedless x) : Repeats x := by
  intro w draws events a v h
  obtain ⟨later, hlater⟩ := hx w draws events
  rw [h] at hlater
  exact ⟨later, hlater⟩

theorem Repeats.bind {f : α → Run β} (hx : Repeats x) (hf : ∀ a, Repeats (f a)) :
    Repeats (x >>= f) := by
  intro w draws events b v h
  obtain ⟨a, u, ha, hb⟩ := of_bind_ok h
  obtain ⟨later, hlater⟩ := hx w draws events a u ha
  obtain ⟨last, hlast⟩ := hf a u draws later b v hb
  exact ⟨last, by rw [bind_ok hlater, hlast]⟩

theorem Repeats.ite {c : Prop} [Decidable c] {y : Run α} (hx : Repeats x) (hy : Repeats y) :
    Repeats (if c then x else y) := by
  split
  · exact hx
  · exact hy

/-- What never succeeds has no success to repeat. -/
theorem repeats_of_ne_ok (h : ∀ w a v, x w ≠ (.ok a, v)) : Repeats x :=
  fun w _ _ a v hx => absurd hx (h w a v)

theorem Repeats.onOsError {f : OsError → Run α} (hx : Repeats x)
    (hf : ∀ e w a v, f e w ≠ (.ok a, v)) : Repeats (onOsError x f) := by
  intro w draws events a v h
  rcases of_onOsError h with ⟨ha, -⟩ | ⟨e, u, -, ha⟩
  · obtain ⟨later, hlater⟩ := hx w draws events a v ha
    exact ⟨later, onOsError_ok hlater⟩
  · exact absurd ha (hf e u a v)

end Run

namespace Files

open Run

theorem refuse_heedless {α : Type} (errno : Errno) (path : Text) :
    Heedless (refuse errno path : Run α) := throw_heedless _

theorem setFiles_heedless (files : FileTree) : Heedless (setFiles files) :=
  fun _ _ events => ⟨events, rfl⟩

theorem checkPath_heedless (path : Text) : Heedless (checkPath path) :=
  Heedless.ite (throw_heedless _) (pure_heedless _)

theorem resolve_heedless (path : Text) : Heedless (resolve path) :=
  (resolve_reads path).heedless (resolve_looks path)

theorem readText_heedless (path : Text) : Heedless (readText path) :=
  (readText_reads path).heedless (readText_looks path)

theorem isPresent_heedless (path : Text) : Heedless (isPresent path) :=
  fun _ _ events => ⟨events, rfl⟩

theorem append_heedless (path content : Text) : Heedless (append path content) := by
  apply (resolve_heedless path).bind
  rintro ⟨place, node⟩
  cases node with
  | directory mode => exact refuse_heedless _ _
  | file mode old =>
    refine Heedless.ite (refuse_heedless _ _) (get_bind_heedless (fun u => ?_) fun _ _ _ => rfl)
    exact (setFiles_heedless _).bind fun _ => (record_heedless _).bind fun _ => meet_heedless _

theorem freeOctets_heedless (path : Text) : Heedless (freeOctets path) :=
  (meet_heedless _).bind fun _ => (resolve_heedless path).bind fun _ =>
    get_bind_heedless (fun _ => pure_heedless _) fun _ _ _ => rfl

theorem changeMode_heedless (path : Text) (mode : Nat) : Heedless (changeMode path mode) :=
  (meet_heedless _).bind fun _ => (resolve_heedless path).bind fun _ =>
    get_bind_heedless (fun _ => setFiles_heedless _) fun _ _ _ => rfl

theorem changeGroup_heedless (path : Text) (gid : Int) : Heedless (changeGroup path gid) := by
  refine (record_heedless _).bind fun _ => (meet_heedless _).bind fun _ => ?_
  refine Heedless.ite (throw_heedless _) ?_
  exact Heedless.ite (throw_heedless _) (pure_heedless _)

theorem makeDirectory_heedless (path : Text) (mode : Nat) : Heedless (makeDirectory path mode) := by
  refine (checkPath_heedless path).bind fun _ => get_bind_heedless (fun u => ?_) fun _ _ _ => rfl
  dsimp only
  cases u.files.locate path with
  | error errno => exact refuse_heedless _ _
  | ok place =>
    refine Heedless.ite (refuse_heedless _ _) ?_
    cases u.files.get? place.dropLast with
    | none => exact refuse_heedless _ _
    | some parent =>
      refine Heedless.ite (refuse_heedless _ _) (Heedless.ite (refuse_heedless _ _) ?_)
      exact setFiles_heedless _

theorem makeDirectoriesUpTo_heedless (fuel : Nat) (path : Text) (mode : Nat) :
    Heedless (makeDirectoriesUpTo fuel path mode) := by
  induction fuel generalizing path mode with
  | zero => exact (meet_heedless _).bind fun _ => makeDirectory_heedless path mode
  | succ fuel ih =>
    unfold makeDirectoriesUpTo
    apply (meet_heedless _).bind
    intro _
    dsimp only
    apply (isPresent_heedless _).bind
    intro _
    apply Heedless.ite _ (makeDirectory_heedless path mode)
    apply Heedless.bind
    · apply (ih _ _).onOsError
      intro e
      exact Heedless.ite (pure_heedless _) (throw_heedless _)
    · intro _
      exact Heedless.ite (pure_heedless _) (makeDirectory_heedless path mode)

theorem makeDirectories_heedless (path : Text) (mode : Nat) :
    Heedless (makeDirectories path mode) :=
  (makeDirectoriesUpTo_heedless _ _ _).bind fun _ => record_heedless _

end Files
end NfsVolume
