import NfsVolume.World.Outside
import NfsVolume.Proofs.World.Run

/-! What a computation may touch. Every computation keeps the environment and only adds to the
log; one within a list of parts also keeps the files, the count of the ledger, the scheduled
faults of each call and the results of each program that are not in the list. -/
namespace NfsVolume

namespace Fault

/-- The faults that are scheduled for a call. -/
def on (call : SystemCall) (faults : List Fault) : List Fault :=
  faults.filter fun f => f.call = call

/-- The error that the next execution of a call meets. -/
def due? (call : SystemCall) (faults : List Fault) : Option Errno := (strike call faults).1

theorem due?_on (call : SystemCall) (faults : List Fault) :
    due? call (on call faults) = due? call faults := by
  unfold due? on
  induction faults with
  | nil => rfl
  | cons f rest ih =>
    by_cases hc : f.call = call
    · simp only [List.filter_cons, hc, decide_true, if_true, strike, ne_eq, not_true, if_false]
      split
      · exact ih
      · split
        · rfl
        · exact ih
    · simpa [List.filter_cons, hc, strike] using ih

/-- An execution of a call only uses up faults of that call. -/
theorem on_strike (call : SystemCall) (faults : List Fault) :
    on call (strike call faults).2 = (strike call (on call faults)).2 := by
  unfold on
  induction faults with
  | nil => rfl
  | cons f rest ih =>
    by_cases hc : f.call = call
    · simp only [List.filter_cons, hc, decide_true, if_true, strike, ne_eq, not_true, if_false]
      split
      · simp only [List.filter_cons, decide_true, if_true, ih]
      · split
        · simp only [List.filter_cons, decide_true, if_true]
        · simp only [List.filter_cons, hc, decide_true, if_true, ih]
    · simpa [List.filter_cons, hc, strike] using ih

theorem due?_congr {call : SystemCall} {faults later : List Fault}
    (h : on call later = on call faults) : due? call later = due? call faults := by
  rw [← due?_on call later, h, due?_on]

theorem on_strike_of_ne {call other : SystemCall} (h : other ≠ call) (faults : List Fault) :
    on other (strike call faults).2 = on other faults := by
  unfold on
  induction faults with
  | nil => rfl
  | cons f rest ih =>
    by_cases hc : f.call = call
    · have hf : ¬ call = other := fun e => h e.symm
      simp only [strike, hc, ne_eq, not_true, if_false]
      split
      · simp only [List.filter_cons, hc, hf, decide_false, Bool.false_eq_true, if_false]
        exact ih
      · split
        · simp only [List.filter_cons, hc, hf, decide_false, Bool.false_eq_true, if_false]
        · simp only [List.filter_cons, hc, hf, decide_false, Bool.false_eq_true, if_false]
          exact ih
    · simp only [strike, ne_eq, hc, not_false_eq_true, if_true, List.filter_cons, ih]

/-- No faults are scheduled for a call. -/
def Calm (call : SystemCall) (faults : List Fault) : Prop := on call faults = []

theorem Calm.due? {call : SystemCall} {faults : List Fault} (h : Calm call faults) :
    due? call faults = none := by
  rw [← due?_on, h]
  rfl

theorem Calm.strike_eq {call : SystemCall} {faults : List Fault} (h : Calm call faults) :
    strike call faults = (none, faults) := by
  unfold Calm on at h
  induction faults with
  | nil => rfl
  | cons f rest ih =>
    have hf : f.call ≠ call := by simpa using List.filter_eq_nil_iff.mp h f List.mem_cons_self
    have hrest : rest.filter (fun f => f.call = call) = [] := by
      simpa [List.filter_cons, hf] using h
    simp [strike, hf, ih hrest]

/-- Faults are used up, and none are added. -/
theorem Calm.strike {call : SystemCall} {faults : List Fault} (h : Calm call faults)
    (other : SystemCall) : Calm call (Fault.strike other faults).2 := by
  by_cases hc : call = other
  · subst hc
    rwa [h.strike_eq]
  · exact (on_strike_of_ne hc faults).trans h

end Fault

/-- The world with another tree of files. -/
def World.withFiles (w : World) (files : FileTree) : World := { w with files := files }

@[simp]
theorem World.withFiles_files (w : World) (files : FileTree) : (w.withFiles files).files = files :=
  rfl

@[simp]
theorem World.withFiles_faults (w : World) (files : FileTree) :
    (w.withFiles files).faults = w.faults := rfl

/-- What the next run of a program comes to. -/
def World.resultOf (w : World) (program : Text) : CommandResult :=
  ((Outside.take? program w.commands).1).getD w.otherResult

/-- The parts of a world that a computation can be confined to. -/
inductive Part where
  | files
  | count
  | call (c : SystemCall)
  | results (program : Text)
  deriving DecidableEq, Repr

/-- A world and a later one that differs from it in some parts at most. -/
structure World.Frame (parts : List Part) (w v : World) : Prop where
  files : Part.files ∉ parts → v.files = w.files
  count : Part.count ∉ parts → v.lastExportId = w.lastExportId
  faults : ∀ c, Part.call c ∉ parts → Fault.on c v.faults = Fault.on c w.faults
  results : ∀ program, Part.results program ∉ parts → v.resultOf program = w.resultOf program
  calm : ∀ c, Fault.Calm c w.faults → Fault.Calm c v.faults
  log : w.log <+: v.log
  environment : v.environment = w.environment
  settingsPath : v.settingsPath = w.settingsPath

namespace World.Frame

variable {parts more : List Part} {w u v : World}

/-- What the cluster still replies, the draws and the events belong to no part. -/
theorem beside (parts : List Part) (w : World) (replies : List (Text × List Reply))
    (draws : List Int) (events : List Event) :
    Frame parts w { w with replies := replies, draws := draws, events := events } where
  files _ := rfl
  count _ := rfl
  faults _ _ := rfl
  results _ _ := rfl
  calm _ h := h
  log := List.prefix_refl w.log
  environment := rfl
  settingsPath := rfl

theorem refl (parts : List Part) (w : World) : Frame parts w w :=
  beside parts w w.replies w.draws w.events

theorem trans (h₁ : Frame parts w u) (h₂ : Frame parts u v) : Frame parts w v where
  files h := (h₂.files h).trans (h₁.files h)
  count h := (h₂.count h).trans (h₁.count h)
  faults c h := (h₂.faults c h).trans (h₁.faults c h)
  results program h := (h₂.results program h).trans (h₁.results program h)
  calm c h := h₂.calm c (h₁.calm c h)
  log := h₁.log.trans h₂.log
  environment := h₂.environment.trans h₁.environment
  settingsPath := h₂.settingsPath.trans h₁.settingsPath

theorem mono (h : Frame parts w v) (sub : parts ⊆ more) : Frame more w v :=
  ⟨fun hn => h.files fun hm => hn (sub hm), fun hn => h.count fun hm => hn (sub hm),
    fun c hn => h.faults c fun hm => hn (sub hm),
    fun program hn => h.results program fun hm => hn (sub hm), h.calm, h.log, h.environment,
    h.settingsPath⟩

/-- What is due for a call outside the parts stays due. -/
theorem due? (h : Frame parts w v) {c : SystemCall} (hc : Part.call c ∉ parts) :
    Fault.due? c v.faults = Fault.due? c w.faults := Fault.due?_congr (h.faults c hc)

end World.Frame

/-- A call has been executed once in between and has not failed. -/
structure World.Passed (call : SystemCall) (w v : World) : Prop where
  due : Fault.due? call w.faults = none
  faults : Fault.on call v.faults = Fault.on call (Fault.strike call w.faults).2

namespace World.Passed

variable {call : SystemCall} {parts : List Part} {w u v : World}

theorem of_frame (h : Passed call u v) (hf : World.Frame parts w u) (hc : Part.call call ∉ parts) :
    Passed call w v where
  due := (hf.due? hc) ▸ h.due
  faults := by rw [h.faults, Fault.on_strike, hf.faults call hc, ← Fault.on_strike]

theorem frame (h : Passed call w u) (hf : World.Frame parts u v) (hc : Part.call call ∉ parts) :
    Passed call w v where
  due := h.due
  faults := (hf.faults call hc).trans h.faults

end World.Passed

namespace Run

variable {α β : Type} {parts more : List Part}

/-- A computation that touches some parts at most. -/
def Within (parts : List Part) (x : Run α) : Prop := ∀ w, World.Frame parts w (x w).2

theorem Within.frame {x : Run α} (h : Within parts x) {w v : World} {r : Except Failure α}
    (hx : x w = (r, v)) : World.Frame parts w v := by
  have := h w
  rwa [hx] at this

theorem Reads.within {x : Run α} (h : x.Reads) : Within parts x := fun w => by
  rw [h w]
  exact World.Frame.refl parts w

theorem Yields.within {x : Run α} {r : Except Failure α} (h : Yields x r) : Within parts x := by
  intro w
  obtain ⟨lines, hx⟩ := h w
  rw [hx]
  exact ⟨fun _ => rfl, fun _ => rfl, fun _ _ => rfl, fun _ _ => rfl, fun _ h => h,
    List.prefix_append _ _, rfl, rfl⟩

theorem pure_within (a : α) : Within parts (pure a : Run α) := fun w => World.Frame.refl parts w

theorem throw_within (e : Failure) : Within parts (throw e : Run α) :=
  fun w => World.Frame.refl parts w

theorem get_within : Within parts (get : Run World) := fun w => World.Frame.refl parts w

theorem ofExcept_within (r : Except Failure α) : Within parts (ofExcept r) := fun w => by
  rw [ofExcept_apply]
  exact World.Frame.refl parts w

theorem Within.bind {x : Run α} {f : α → Run β} (hx : Within parts x)
    (hf : ∀ a, Within parts (f a)) : Within parts (x >>= f) := by
  intro w
  rcases h : x w with ⟨e | a, u⟩
  · rw [bind_error h]
    exact hx.frame h
  · rw [bind_ok h]
    exact (hx.frame h).trans (hf a u)

theorem Within.tryCatch {x : Run α} {f : Failure → Run α} (hx : Within parts x)
    (hf : ∀ e, Within parts (f e)) : Within parts (tryCatch x f) := by
  intro w
  rcases h : x w with ⟨e | a, u⟩
  · rw [tryCatch_error h]
    exact (hx.frame h).trans (hf e u)
  · rw [tryCatch_ok h]
    exact hx.frame h

theorem Within.onOsError {x : Run α} {f : OsError → Run α} (hx : Within parts x)
    (hf : ∀ e, Within parts (f e)) : Within parts (onOsError x f) := by
  apply hx.tryCatch
  intro e
  cases e with
  | os e => exact hf e
  | _ => exact throw_within _

theorem Within.outcome {x : Run α} (hx : Within parts x) : Within parts (outcome x) := fun w => hx w

theorem Within.ite {c : Prop} [Decidable c] {x y : Run α} (hx : Within parts x)
    (hy : Within parts y) : Within parts (if c then x else y) := by
  split
  · exact hx
  · exact hy

theorem log_within (level : LogLevel) (source : LogSource) (text : Text) :
    Within parts (log level source text) := (log_yields level source text).within

theorem record_within (e : Event) : Within parts (record e) :=
  fun w => World.Frame.beside parts w w.replies w.draws _

theorem environment_within (name : Text) : Within parts (environment name) :=
  (get_within.bind fun _ => pure_within _).bind fun _ => pure_within _

theorem withCount_frame (h : Part.count ∈ parts) (w : World) (count : Nat) :
    World.Frame parts w (w.withCount count) :=
  ⟨fun _ => rfl, fun hn => absurd h hn, fun _ _ => rfl, fun _ _ => rfl, fun _ h => h,
    List.prefix_refl _, rfl, rfl⟩

/-- The world after one execution of a call. -/
def struck (call : SystemCall) (w : World) : World :=
  { w with faults := (Fault.strike call w.faults).2 }

@[simp]
theorem struck_files (call : SystemCall) (w : World) : (struck call w).files = w.files := rfl

/-- What is due for other calls stays due. -/
theorem due?_struck {call other : SystemCall} (h : other ≠ call) (w : World) :
    Fault.due? other (struck call w).faults = Fault.due? other w.faults :=
  Fault.due?_congr (Fault.on_strike_of_ne h w.faults)

theorem meet_apply (call : SystemCall) (w : World) :
    meet call w = (match Fault.due? call w.faults with
      | some errno => .error (.os ⟨errno, none⟩)
      | none => .ok (), struck call w) := by
  simp only [meet, Fault.due?, struck, bind_apply, get_apply]
  rcases Fault.strike call w.faults with ⟨_ | errno, faults⟩ <;> rfl

theorem meet_within {call : SystemCall} (h : Part.call call ∈ parts) :
    Within parts (meet call) := by
  intro w
  rw [meet_apply]
  refine ⟨fun _ => rfl, fun _ => rfl, fun c hc => ?_, fun _ _ => rfl, fun c hc => hc.strike call,
    List.prefix_refl _, rfl, rfl⟩
  have hne : c ≠ call := by
    rintro rfl
    exact hc h
  exact Fault.on_strike_of_ne hne w.faults

theorem of_meet {call : SystemCall} {w v : World} {r : Except Failure Unit}
    (h : meet call w = (r, v)) : v = struck call w ∧
      ((Fault.due? call w.faults = none ∧ r = .ok ()) ∨
        ∃ errno, Fault.due? call w.faults = some errno ∧ r = .error (.os ⟨errno, none⟩)) := by
  rw [meet_apply] at h
  obtain ⟨rfl, rfl⟩ := Prod.mk.inj h
  refine ⟨rfl, ?_⟩
  cases Fault.due? call w.faults with
  | none => exact .inl ⟨rfl, rfl⟩
  | some errno => exact .inr ⟨errno, rfl, rfl⟩

theorem meet_ok {call : SystemCall} {w : World} (h : Fault.due? call w.faults = none) :
    meet call w = (.ok (), struck call w) := by rw [meet_apply, h]

theorem of_meet_ok {call : SystemCall} {w v : World} (h : meet call w = (.ok (), v)) :
    v = struck call w ∧ Fault.due? call w.faults = none := by
  obtain ⟨hv, ⟨hdue, -⟩ | ⟨errno, -, hr⟩⟩ := of_meet h
  · exact ⟨hv, hdue⟩
  · cases hr

theorem meet_error {call : SystemCall} {w : World} {errno : Errno}
    (h : Fault.due? call w.faults = some errno) :
    meet call w = (.error (.os ⟨errno, none⟩), struck call w) := by rw [meet_apply, h]

end Run
end NfsVolume
