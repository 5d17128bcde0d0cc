import NfsVolume.World.Basic

/-! Running a computation in a world: one equation per combinator, and what a finished run says
about the runs of its steps. -/
namespace NfsVolume

/-- The world with another count of the running ledger. -/
def World.withCount (w : World) (count : Nat) : World := { w with lastExportId := count }

namespace Run

variable {α β : Type}

@[simp]
theorem pure_apply (a : α) (w : World) : (pure a : Run α) w = (.ok a, w) := rfl

@[simp]
theorem get_apply (w : World) : (get : Run World) w = (.ok w, w) := rfl

@[simp]
theorem ofExcept_apply (r : Except Failure α) (w : World) : ofExcept r w = (r, w) := by
  cases r <;> rfl

@[simp]
theorem outcome_apply (x : Run α) (w : World) : outcome x w = (.ok (x w).1, (x w).2) := rfl

theorem apart_apply {x : Run α} {count : Nat} {w u : World} {r : Except Failure α}
    (h : x (w.withCount count) = (r, u)) :
    apart count x w = (.ok (r, u.lastExportId), u.withCount w.lastExportId) := by
  rw [World.withCount] at h
  simp only [apart, h, World.withCount]

theorem bind_apply (x : Run α) (f : α → Run β) (w : World) :
    (x >>= f) w = match x w with
      | (.ok a, v) => f a v
      | (.error e, v) => (.error e, v) := by
  change (ExceptT.bind x f) w = _
  simp only [ExceptT.bind, ExceptT.mk, bind, StateT.bind]
  rcases x w with ⟨_ | _, _⟩ <;> rfl

theorem tryCatch_apply (x : Run α) (f : Failure → Run α) (w : World) :
    (tryCatch x f) w = match x w with
      | (.ok a, v) => (.ok a, v)
      | (.error e, v) => f e v := by
  change (ExceptT.tryCatch x f) w = _
  simp only [ExceptT.tryCatch, ExceptT.mk, bind, StateT.bind]
  rcases x w with ⟨_ | _, _⟩ <;> rfl

theorem bind_ok {x : Run α} {f : α → Run β} {w u : World} {a : α} (h : x w = (.ok a, u)) :
    (x >>= f) w = f a u := by rw [bind_apply, h]

theorem bind_error {x : Run α} {f : α → Run β} {w u : World} {e : Failure}
    (h : x w = (.error e, u)) : (x >>= f) w = (.error e, u) := by rw [bind_apply, h]

theorem tryCatch_ok {x : Run α} {f : Failure → Run α} {w u : World} {a : α}
    (h : x w = (.ok a, u)) : (tryCatch x f) w = (.ok a, u) := by rw [tryCatch_apply, h]

theorem tryCatch_error {x : Run α} {f : Failure → Run α} {w u : World} {e : Failure}
    (h : x w = (.error e, u)) : (tryCatch x f) w = f e u := by rw [tryCatch_apply, h]

/-- A run of two steps ends in the first of them, or runs both. -/
theorem of_bind {x : Run α} {f : α → Run β} {w v : World} {r : Except Failure β}
    (h : (x >>= f) w = (r, v)) :
    (∃ a u, x w = (.ok a, u) ∧ f a u = (r, v)) ∨ ∃ e, x w = (.error e, v) ∧ r = .error e := by
  rcases hx : x w with ⟨e | a, u⟩
  · rw [bind_error hx] at h
    obtain ⟨rfl, rfl⟩ := Prod.mk.inj h
    exact .inr ⟨e, rfl, rfl⟩
  · rw [bind_ok hx] at h
    exact .inl ⟨a, u, rfl, h⟩

theorem of_bind_ok {x : Run α} {f : α → Run β} {w v : World} {b : β}
    (h : (x >>= f) w = (.ok b, v)) : ∃ a u, x w = (.ok a, u) ∧ f a u = (.ok b, v) := by
  rcases of_bind h with h | ⟨e, _, hr⟩
  · exact h
  · cases hr

theorem of_tryCatch {x : Run α} {f : Failure → Run α} {w v : World} {r : Except Failure α}
    (h : (tryCatch x f) w = (r, v)) :
    (∃ a, x w = (.ok a, v) ∧ r = .ok a) ∨ ∃ e u, x w = (.error e, u) ∧ f e u = (r, v) := by
  rcases hx : x w with ⟨e | a, u⟩
  · rw [tryCatch_error hx] at h
    exact .inr ⟨e, u, rfl, h⟩
  · rw [tryCatch_ok hx] at h
    obtain ⟨rfl, rfl⟩ := Prod.mk.inj h
    exact .inl ⟨a, rfl, rfl⟩

theorem onOsError_ok {x : Run α} {f : OsError → Run α} {w u : World} {a : α}
    (h : x w = (.ok a, u)) : onOsError x f w = (.ok a, u) := tryCatch_ok h

theorem onOsError_os {x : Run α} {f : OsError → Run α} {w u : World} {e : OsError}
    (h : x w = (.error (.os e), u)) : onOsError x f w = f e u := tryCatch_error h

/-- Only errors of the operating system reach the handler. -/
theorem of_onOsError {x : Run α} {f : OsError → Run α} {w v : World} {r : Except Failure α}
    (h : onOsError x f w = (r, v)) :
    (x w = (r, v) ∧ ∀ e, r ≠ .error (.os e)) ∨
      ∃ e u, x w = (.error (.os e), u) ∧ f e u = (r, v) := by
  rcases of_tryCatch h with ⟨a, hx, rfl⟩ | ⟨e, u, hx, hf⟩
  · exact .inl ⟨hx, fun e he => by cases he⟩
  · cases e with
    | os e => exact .inr ⟨e, u, hx, hf⟩
    | _ =>
      obtain ⟨rfl, rfl⟩ := Prod.mk.inj hf
      exact .inl ⟨hx, fun e he => by cases he⟩

/-- A computation that leaves the world as it is. -/
def Reads (x : Run α) : Prop := ∀ w, (x w).2 = w

theorem Reads.apply {x : Run α} (h : x.Reads) (w : World) : x w = ((x w).1, w) :=
  Prod.ext rfl (h w)

theorem Reads.eq_of_run {x : Run α} (h : x.Reads) {w v : World} {r : Except Failure α}
    (hx : x w = (r, v)) : v = w := by
  have hsame := h w
  rwa [hx] at hsame

theorem Reads.bind {x : Run α} {f : α → Run β} (hx : x.Reads) (hf : ∀ a, (f a).Reads) :
    (x >>= f).Reads := by
  intro w
  rcases h : x w with ⟨e | a, u⟩
  · obtain rfl : u = w := by simpa [h] using hx w
    rw [bind_error h]
  · obtain rfl : u = w := by simpa [h] using hx w
    rw [bind_ok h]
    exact hf a u

theorem Reads.outcome {x : Run α} (hx : x.Reads) : (outcome x).Reads := fun w => hx w

theorem ofExcept_reads (r : Except Failure α) : (ofExcept r).Reads := fun w => by
  rw [ofExcept_apply]

theorem Reads.ite {c : Prop} [Decidable c] {x y : Run α} (hx : x.Reads) (hy : y.Reads) :
    (if c then x else y).Reads := by
  split
  · exact hx
  · exact hy

/-- A computation that comes to the same in every world, and does nothing there but write to the
log. -/
def Yields (x : Run α) (r : Except Failure α) : Prop :=
  ∀ w : World, ∃ lines, x w = (r, { w with log := w.log ++ lines })

theorem Yields.apply {x : Run α} {r : Except Failure α} (h : Yields x r) (w : World) :
    ∃ log, x w = (r, { w with log := log }) := by
  obtain ⟨lines, hx⟩ := h w
  exact ⟨_, hx⟩

theorem pure_yields (a : α) : Yields (pure a : Run α) (.ok a) := fun w => ⟨[], by simp⟩

theorem ofExcept_yields (r : Except Failure α) : Yields (ofExcept r) r := fun w => ⟨[], by simp⟩

theorem throw_yields (e : Failure) : Yields (throw e : Run α) (.error e) :=
  ofExcept_yields (.error e)

theorem log_yields (level : LogLevel) (source : LogSource) (text : Text) :
    Yields (log level source text) (.ok ()) := fun _ => ⟨_, rfl⟩

theorem Yields.bind {x : Run α} {f : α → Run β} {r : Except Failure α}
    {g : α → Except Failure β} (hx : Yields x r) (hf : ∀ a, Yields (f a) (g a)) :
    Yields (x >>= f) (r >>= g) := by
  intro w
  obtain ⟨lines, hx⟩ := hx w
  cases r with
  | error e => exact ⟨lines, bind_error hx⟩
  | ok a =>
    obtain ⟨more, hf⟩ := hf a { w with log := w.log ++ lines }
    refine ⟨lines ++ more, (bind_ok hx).trans ?_⟩
    rw [hf, List.append_assoc]
    rfl

theorem Yields.ite {c : Prop} [Decidable c] {x y : Run α} {r s : Except Failure α}
    (hx : Yields x r) (hy : Yields y s) : Yields (if c then x else y) (if c then r else s) := by
  split
  · exact hx
  · exact hy

/-- A computation whose result depends on the files, the environment and the standard path of the
settings only. -/
def Looks (x : Run α) : Prop :=
  ∀ w v : World, v.files = w.files → v.environment = w.environment →
    v.settingsPath = w.settingsPath → (x v).1 = (x w).1

theorem pure_looks (a : α) : Looks (pure a : Run α) := fun _ _ _ _ _ => rfl

theorem throw_looks (e : Failure) : Looks (throw e : Run α) := fun _ _ _ _ _ => rfl

theorem ofExcept_looks (r : Except Failure α) : Looks (ofExcept r) := fun w v _ _ _ => by
  rw [ofExcept_apply, ofExcept_apply]

theorem Looks.bind {x : Run α} {f : α → Run β} (hr : x.Reads) (hx : Looks x)
    (hf : ∀ a, Looks (f a)) : Looks (x >>= f) := by
  intro w v hfiles henvironment hpath
  have hsame := hx w v hfiles henvironment hpath
  rw [bind_apply, bind_apply, hr.apply v, hr.apply w, hsame]
  cases (x w).1 with
  | error e => rfl
  | ok a => exact hf a w v hfiles henvironment hpath

theorem Looks.outcome {x : Run α} (hx : Looks x) : Looks (outcome x) :=
  fun w v hfiles henvironment hpath => by
    rw [outcome_apply, outcome_apply, hx w v hfiles henvironment hpath]

theorem Looks.ite {c : Prop} [Decidable c] {x y : Run α} (hx : Looks x) (hy : Looks y) :
    Looks (if c then x else y) := by
  split
  · exact hx
  · exact hy

end Run
end NfsVolume
