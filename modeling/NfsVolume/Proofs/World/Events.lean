import NfsVolume.Proofs.World.Outside

/-! What a computation does outside: the events that it adds to those that have been. Most
operations on files add none. -/
namespace NfsVolume

namespace Run

variable {α β : Type} {P Q : Event → Prop} {w v : World}

/-- A computation that only adds events of one kind. -/
def Emits (P : Event → Prop) (x : Run α) : Prop :=
  ∀ w, ∃ more, (x w).2.events = w.events ++ more ∧ ∀ e ∈ more, P e

/-- A computation that does nothing outside. -/
abbrev Silent (x : Run α) : Prop := Emits (fun _ => False) x

theorem Emits.mono {x : Run α} (h : Emits P x) (hPQ : ∀ e, P e → Q e) : Emits Q x := fun w => by
  obtain ⟨more, hmore, hall⟩ := h w
  exact ⟨more, hmore, fun e he => hPQ e (hall e he)⟩

theorem Silent.emits {x : Run α} (h : Silent x) : Emits P x := h.mono fun _ h => h.elim

theorem Emits.events {x : Run α} {r : Except Failure α} (h : Emits P x) (hx : x w = (r, v)) :
    ∃ more, v.events = w.events ++ more ∧ ∀ e ∈ more, P e := by
  have := h w
  rwa [hx] at this

theorem Silent.events {x : Run α} {r : Except Failure α} (h : Silent x) (hx : x w = (r, v)) :
    v.events = w.events := by
  obtain ⟨more, hmore, hnone⟩ := Emits.events h hx
  have hnil : more = [] := List.eq_nil_iff_forall_not_mem.mpr hnone
  rw [hmore, hnil, List.append_nil]

/-- It is enough that the events are those that have been. -/
theorem silent_of_events {x : Run α} (h : ∀ w, (x w).2.events = w.events) : Silent x := fun w =>
  ⟨[], by rw [h w, List.append_nil], by simp⟩

theorem Reads.silent {x : Run α} (h : x.Reads) : Silent x := silent_of_events fun w => by rw [h w]

theorem Yields.silent {x : Run α} {r : Except Failure α} (h : Yields x r) : Silent x :=
  silent_of_events fun w => by
    obtain ⟨lines, hx⟩ := h w
    rw [hx]

theorem pure_silent (a : α) : Silent (pure a : Run α) := silent_of_events fun _ => rfl

theorem throw_silent (e : Failure) : Silent (throw e : Run α) := silent_of_events fun _ => rfl

theorem get_silent : Silent (get : Run World) := silent_of_events fun _ => rfl

theorem log_silent (level : LogLevel) (source : LogSource) (text : Text) :
    Silent (log level source text) := silent_of_events fun _ => rfl

theorem meet_silent (call : SystemCall) : Silent (meet call) := silent_of_events fun w => by
  rw [meet_apply]
  rfl

theorem Emits.bind {x : Run α} {f : α → Run β} (hx : Emits P x) (hf : ∀ a, Emits P (f a)) :
    Emits P (x >>= f) := by
  intro w
  obtain ⟨more, hmore, hall⟩ := hx w
  rcases h : x w with ⟨e | a, u⟩
  · rw [h] at hmore
    rw [bind_error h]
    exact ⟨more, hmore, hall⟩
  · rw [h] at hmore
    obtain ⟨later, hlater, hall'⟩ := hf a u
    refine ⟨more ++ later, ?_, fun e he => ?_⟩
    · rw [bind_ok h, hlater, hmore, List.append_assoc]
    · rcases List.mem_append.mp he with he | he
      · exact hall e he
      · exact hall' e he

theorem Emits.ite {c : Prop} [Decidable c] {x y : Run α} (hx : Emits P x) (hy : Emits P y) :
    Emits P (if c then x else y) := by
  split
  · exact hx
  · exact hy

theorem Emits.onOsError {x : Run α} {f : OsError → Run α} (hx : Emits P x)
    (hf : ∀ e, Emits P (f e)) : Emits P (onOsError x f) := by
  intro w
  obtain ⟨more, hmore, hall⟩ := hx w
  rcases hrun : Run.onOsError x f w with ⟨r, v⟩
  rcases of_onOsError hrun with ⟨h, -⟩ | ⟨e, u, h, hhandled⟩
  · rw [h] at hmore
    exact ⟨more, hmore, hall⟩
  · rw [h] at hmore
    obtain ⟨later, hlater, hall'⟩ := (hf e).events hhandled
    refine ⟨more ++ later, ?_, fun e he => ?_⟩
    · rw [hlater, hmore, List.append_assoc]
    · rcases List.mem_append.mp he with he | he
      · exact hall e he
      · exact hall' e he

theorem ofExcept_silent (r : Except Failure α) : Silent (ofExcept r) := (ofExcept_reads r).silent

theorem environment_silent (name : Text) : Silent (environment name) :=
  (get_silent.bind fun _ => pure_silent _).bind fun _ => pure_silent _

end Run

namespace Files

open Run

theorem setFiles_silent (files : FileTree) : Silent (setFiles files) :=
  silent_of_events fun _ => rfl

theorem changeMode_silent (path : Text) (mode : Nat) : Silent (changeMode path mode) :=
  (meet_silent _).bind fun _ => (resolve_reads path).silent.bind fun _ =>
    get_silent.bind fun _ => setFiles_silent _

theorem freeOctets_silent (path : Text) : Silent (freeOctets path) :=
  (meet_silent _).bind fun _ => (resolve_reads path).silent.bind fun _ =>
    get_silent.bind fun _ => pure_silent _

theorem makeDirectory_silent (path : Text) (mode : Nat) : Silent (makeDirectory path mode) := by
  apply silent_of_events
  intro w
  rcases h : makeDirectory path mode w with ⟨r, v⟩
  rcases of_makeDirectory h with ⟨rfl, -⟩ | ⟨place, parent, -, -, -, -, -, -, rfl⟩
  · rfl
  · rfl

theorem makeDirectoriesUpTo_silent (fuel : Nat) (path : Text) (mode : Nat) :
    Silent (makeDirectoriesUpTo fuel path mode) := by
  induction fuel generalizing path mode with
  | zero => exact (meet_silent _).bind fun _ => makeDirectory_silent path mode
  | succ fuel ih =>
    unfold makeDirectoriesUpTo
    apply (meet_silent _).bind
    intro _
    dsimp only
    apply (isPresent_reads _).silent.bind
    intro _
    apply Emits.ite _ (makeDirectory_silent path mode)
    apply Emits.bind
    · apply (ih _ _).onOsError
      intro e
      exact Emits.ite (pure_silent _) (throw_silent _)
    · intro _
      exact Emits.ite (pure_silent _) (makeDirectory_silent path mode)

/-- Making directories is one event, when all are there. -/
theorem makeDirectories_events {path : Text} {mode : Nat} {w v : World}
    (h : makeDirectories path mode w = (.ok (), v)) :
    v.events = w.events ++ [.directoryMade path] := by
  obtain ⟨_, u, hmake, hrecord⟩ := of_bind_ok h
  cases hrecord
  rw [← (makeDirectoriesUpTo_silent _ _ _).events hmake]

/-- The group of a path is set by one call, if the system can name the group. -/
theorem of_changeGroup {path : Text} {gid : Int} {w v : World}
    (h : changeGroup path gid w = (.ok (), v)) :
    v.events = w.events ++ [.chown path gid] ∧ -1 ≤ gid ∧ gid ≤ maxGroup := by
  obtain ⟨_, u, hrecord, h⟩ := of_bind_ok h
  cases hrecord
  obtain ⟨_, u, hmeet, h⟩ := of_bind_ok h
  have hevents := (meet_silent _).events hmeet
  split at h
  · cases h
  · split at h
    · cases h
    · rename_i hin
      cases h
      simp only [Bool.or_eq_true, decide_eq_true_eq, not_or, Int.not_lt] at hin
      exact ⟨hevents, hin⟩

end Files

namespace Outside

open Run

/-- A command that has an answer has been run. -/
theorem runCommand_events {program : Text} {arguments : List Text} {w v : World}
    {answer : Except OsError (Int × Text × Text)}
    (h : runCommand program arguments w = (.ok answer, v)) :
    v.events = w.events ++ [.command (program :: arguments)] := by
  rcases of_runCommand h with ⟨-, hr, -⟩ | ⟨-, rfl⟩
  · cases hr
  · rfl

theorem runCommand_emits {P : Event → Prop} {program : Text} {arguments : List Text}
    (h : P (.command (program :: arguments))) : Emits P (runCommand program arguments) := by
  intro w
  rcases hrun : runCommand program arguments w with ⟨r, v⟩
  rcases of_runCommand hrun with ⟨-, -, rfl⟩ | ⟨-, rfl⟩
  · exact ⟨[], by simp, by simp⟩
  · exact ⟨[_], rfl, by simpa using h⟩

theorem fetch_events (url : Text) (authorization : Option Text) (timeout : Int)
    (verify : Verification) (w : World) :
    (fetch url authorization timeout verify w).2.events =
      w.events ++ [.fetch url authorization timeout verify] := rfl

end Outside
end NfsVolume
