import NfsVolume.Proofs.CommandLine
import NfsVolume.Proofs.Volume.Capacity

/-! Creating a volume by the program. What its arguments say does not depend on their order, and a
run is the provisioning of one request, unless the name is refused or the log cannot be set up. -/
namespace NfsVolume

open Run

namespace CommandLine

/-- What is given to the command that creates a volume. -/
inductive Given where
  | name (text : Text)
  | capacity (n : Nat)
  | accessMode (mode : Text)
  | reclaimPolicy (policy : Text)

namespace Given

def texts : Given → List Text
  | .name text => [text]
  | .capacity n => ["--capacity", Text.decimal n]
  | .accessMode mode => ["--access-mode", mode]
  | .reclaimPolicy policy => ["--reclaim-policy", policy]

def option? : Given → Option (Text × Text)
  | .name _ => none
  | .capacity n => some ("--capacity", Text.decimal n)
  | .accessMode mode => some ("--access-mode", mode)
  | .reclaimPolicy policy => some ("--reclaim-policy", policy)

def name? : Given → Option Text
  | .name text => some text
  | _ => none

def capacity? : Given → Option Nat
  | .capacity n => some n
  | _ => none

def accessMode? : Given → Option Text
  | .accessMode mode => some mode
  | _ => none

def reclaimPolicy? : Given → Option Text
  | .reclaimPolicy policy => some policy
  | _ => none

end Given

variable {given : List Given} {name policy : Text} {n : Nat} {modes : List Text} {valued : List Text}
  {w u v : World}

/-- One name, one capacity and one policy are given, and access modes in this order. The name is not
taken for an option. -/
structure Gives (given : List Given) (name : Text) (n : Nat) (modes : List Text) (policy : Text) :
    Prop where
  plain : name.head? ≠ some '-'
  name : given.filterMap Given.name? = [name]
  capacity : given.filterMap Given.capacity? = [n]
  accessModes : given.filterMap Given.accessMode? = modes
  reclaimPolicy : given.filterMap Given.reclaimPolicy? = [policy]

theorem read_word {word : Text} (h : word.head? ≠ some '-') (mixed : Bool) (rest : List Text) :
    Arguments.read valued mixed (word :: rest) =
      if mixed then (Arguments.read valued mixed rest).map (Arguments.withWord word)
      else some (.ofWords (word :: rest)) := by
  have hend : word ≠ ("--" : Text) := fun hword => h (by rw [hword]; rfl)
  have hoption : Arguments.isOption word = false := by
    rw [Arguments.isOption, decide_eq_false h, Bool.false_and]
  rw [Arguments.read.eq_def]
  dsimp only
  rw [if_neg hend, hoption, if_neg Bool.false_ne_true]

theorem read_option {option : Text} (h : option ∈ createOptions) (value : Text)
    (rest : List Text) :
    Arguments.read createOptions true (option :: value :: rest) =
      (Arguments.read createOptions true rest).map (Arguments.withOption option value) := by
  have hforms : ∀ option ∈ createOptions, option ≠ ("--" : Text) ∧
      Arguments.isOption option = true ∧ createOptions.contains (Arguments.cut option).1 = true ∧
      (Arguments.cut option).2 = none := by decide
  obtain ⟨hend, hoption, hvalued, hcut⟩ := hforms option h
  rw [Arguments.read.eq_def]
  dsimp only
  rw [if_neg hend, if_pos hoption, hvalued, hcut]

/-- The arguments are read as they are given, in any order. -/
theorem read_given (h : ∀ text ∈ given.filterMap Given.name?, text.head? ≠ some '-') :
    Arguments.read createOptions true (given.flatMap Given.texts) =
      some ⟨given.filterMap Given.option?, false, given.filterMap Given.name?⟩ := by
  induction given with
  | nil => rfl
  | cons g rest ih =>
    cases g with
    | name text =>
      have hrest := ih fun other hother => h other (List.mem_cons_of_mem _ hother)
      change Arguments.read _ _ (text :: rest.flatMap Given.texts) = _
      rw [read_word (h text List.mem_cons_self), hrest]
      rfl
    | _ =>
      change Arguments.read _ _ (_ :: _ :: rest.flatMap Given.texts) = _
      rw [read_option (by decide), ih h]
      rfl

/-- The values of an option are those that are given for it. -/
theorem values_given (given : List Given) (key : Text) (value? : Given → Option Text)
    (h : ∀ g : Given, (g.option?.bind fun o => if o.1 = key then some o.2 else none) = value? g)
    (words : List Text) :
    Arguments.values ⟨given.filterMap Given.option?, false, words⟩ key =
      given.filterMap value? := by
  unfold Arguments.values
  rw [List.filterMap_filterMap]
  exact List.filterMap_congr fun g _ => h g

/-- The request that is made of the texts of its fields. -/
def requestFor (name : Text) (n : Nat) (modes : List Text) (policy : Text) : VolumeRequest where
  name := name
  capacity := n
  accessModes := modes.map RawText.ofText
  reclaimPolicy := RawText.ofText policy
  parameters := .null
  selector := .null

theorem requestOf_given (h : Gives given name n modes policy) (hmodes : modes ≠ [])
    (hn : Text.Integer.tooLong n = false) (words : List Text) :
    ∃ announced, requestOf name (Text.decimal n) ⟨given.filterMap Given.option?, false, words⟩ =
      match Volume.validateName name with
      | .error problem => .error (.value problem)
      | .ok () => .ok (requestFor name n modes policy, announced) := by
  have hmode := values_given given "--access-mode" Given.accessMode?
    (fun g => by cases g <;> rfl) words
  have hpolicy := values_given given "--reclaim-policy" Given.reclaimPolicy?
    (fun g => by cases g <;> rfl) words
  rw [h.accessModes] at hmode
  rw [h.reclaimPolicy] at hpolicy
  refine ⟨errorLine ("Provisioning volume: " ++ name ++ " (" ++ Text.integer n ++ " bytes)"), ?_⟩
  unfold requestOf
  cases Volume.validateName name with
  | error problem => rfl
  | ok _ =>
    rw [Volume.parseCapacity_decimal hn]
    dsimp only [Except.mapError, bind, Except.bind]
    rw [writeInteger_ok hn, hmode, Arguments.value?, hpolicy]
    cases modes with
    | nil => exact absurd rfl hmodes
    | cons mode rest => rfl

/-- What the program says of a volume that it has made, or not. -/
def created (level : Nat) (announced : RawText) : Except Failure (RawText × Json) → Outcome
  | .error problem => failure level [] announced " provisioning volume" problem
  | .ok (reported, manifest) => ⟨0, level, manifest.lines ++ ['\n'], announced ++ reported⟩

/-- How a run can end that creates a volume: the settings cannot be loaded, the name is refused, or
the volume is provisioned with a count of its own. -/
inductive Creates (request : VolumeRequest) (w : World) : Outcome → World → Prop
  | unset (outcome : Outcome) (e : Failure) (hload : (Settings.load w).1 = .error e)
      (hexit : outcome.exit = 1) : Creates request w outcome w
  | refused (outcome : Outcome) (problem : ValueProblem)
      (hname : Volume.validateName request.name = .error problem) (hexit : outcome.exit = 1) :
      Creates request w outcome w
  | created (level : Nat) (announced : RawText) (hname : Volume.validateName request.name = .ok ()) :
      Creates request w (created level announced (create request (w.withCount 0)).1)
        ((create request (w.withCount 0)).2.withCount w.lastExportId)

theorem createVolume_apply {a : Arguments} {capacity : Text} {announced : RawText}
    {request : VolumeRequest}
    (h : requestOf name capacity a = .ok (request, announced)) (level : Nat) (w : World) :
    createVolume level name capacity a w =
      (.ok (created level announced (create request w).1), (create request w).2) := by
  unfold createVolume
  rw [h]
  dsimp only
  rw [bind_ok (outcome_apply _ w)]
  rcases create request w with ⟨e | ⟨reported, manifest⟩, v⟩ <;> rfl

/-- The level of the log depends on the settings alone, and looking it up changes nothing. -/
theorem setUpLog_none (w : World) (count : Nat) :
    setUpLog none (w.withCount count) =
      ((Settings.load w).1.bind fun s => LogThreshold.ofName s.logLevel.upper,
        w.withCount count) := by
  have hload := Settings.load_withCount w count
  unfold setUpLog
  dsimp only
  cases hsettings : (Settings.load w).1 with
  | error e =>
    rw [hsettings] at hload
    rw [bind_error hload]
    rfl
  | ok s =>
    rw [hsettings] at hload
    rw [bind_ok hload]
    exact ofExcept_apply _ _

/-- Behind its name and that of its group, the command reads its arguments, once the log is set
up. -/
theorem run_command (arguments : List Text) (w : World) :
    run ("volume" :: "create" :: arguments) w =
      match (Settings.load w).1.bind fun s => LogThreshold.ofName s.logLevel.upper with
      | .error problem => (.ok (failure none [] [] [] problem), w)
      | .ok level =>
        match createCommand level arguments (w.withCount 0) with
        | (.error problem, v) => (.ok (failure none [] [] [] problem), v.withCount w.lastExportId)
        | (.ok outcome, v) => (.ok outcome, v.withCount w.lastExportId) := by
  have hread : Arguments.read commonOptions false ("volume" :: "create" :: arguments) =
      some (.ofWords ("volume" :: "create" :: arguments)) := read_word (by decide) false _
  have hgroup (level : Nat) : runGroup level "volume" ("create" :: arguments) =
      createCommand level arguments := by
    unfold runGroup
    rw [read_word (by decide) false _]
    rfl
  have hrun : runArguments (.ofWords ("volume" :: "create" :: arguments)) =
      (outcome (setUpLog none) >>= fun
        | .error problem => pure (failure none [] [] [] problem)
        | .ok level => runGroup level "volume" ("create" :: arguments)) := rfl
  unfold run
  rw [hread]
  dsimp only
  rcases hdone : runArguments (.ofWords ("volume" :: "create" :: arguments)) (w.withCount 0) with
    ⟨done, v⟩
  rw [bind_ok (apart_apply hdone)]
  rw [hrun, bind_ok (outcome_apply _ _), setUpLog_none] at hdone
  cases hlevel : (Settings.load w).1.bind fun s => LogThreshold.ofName s.logLevel.upper with
  | error problem =>
    rw [hlevel] at hdone
    cases hdone
    rfl
  | ok level =>
    rw [hlevel] at hdone
    dsimp only at hdone ⊢
    rw [hgroup] at hdone
    rw [hdone]
    cases done <;> rfl

theorem createCommand_given (h : Gives given name n modes policy) (level : Nat) :
    createCommand level (given.flatMap Given.texts) =
      createVolume level name (Text.decimal n) ⟨given.filterMap Given.option?, false, [name]⟩ := by
  have hplain : ∀ text ∈ given.filterMap Given.name?, text.head? ≠ some '-' := by
    rw [h.name]
    simpa using h.plain
  have hcapacity := values_given given "--capacity"
    (fun g => g.capacity?.map Text.decimal) (fun g => by cases g <;> rfl) [name]
  rw [← List.map_filterMap, h.capacity] at hcapacity
  unfold createCommand
  rw [read_given hplain, h.name]
  dsimp only [Arguments.value?]
  rw [hcapacity]
  rfl

/-- A run that creates a volume ends in one of three ways, if the settings name a level of the
log. -/
theorem run_creates (h : Gives given name n modes policy) (hmodes : modes ≠ [])
    (hn : Text.Integer.tooLong n = false) (w : World)
    (hlevel : ∀ s, (Settings.load w).1 = .ok s →
      ∃ level, LogThreshold.ofName s.logLevel.upper = .ok level) :
    ∃ outcome v, run ("volume" :: "create" :: given.flatMap Given.texts) w = (.ok outcome, v) ∧
      Creates (requestFor name n modes policy) w outcome v := by
  rw [run_command]
  cases hload : (Settings.load w).1 with
  | error e => exact ⟨_, _, rfl, .unset _ e hload rfl⟩
  | ok s =>
    obtain ⟨level, hlevel⟩ := hlevel s hload
    obtain ⟨announced, hrequest⟩ := requestOf_given h hmodes hn [name]
    rw [show (Except.ok s).bind (fun s => LogThreshold.ofName s.logLevel.upper) = .ok level from
      hlevel]
    dsimp only
    rw [createCommand_given h]
    cases hname : Volume.validateName name with
    | error problem =>
      rw [hname] at hrequest
      refine ⟨failure level [] [] " provisioning volume" (.value problem), w, ?_,
        .refused _ problem hname rfl⟩
      unfold createVolume
      rw [hrequest]
      rfl
    | ok _ =>
      rw [hname] at hrequest
      rw [createVolume_apply hrequest]
      exact ⟨_, _, rfl, .created level announced hname⟩

end CommandLine
end NfsVolume
