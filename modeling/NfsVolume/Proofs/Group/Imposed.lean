import NfsVolume.Group.Resolve
import NfsVolume.Proofs.World.Run

/-! The ranges that objects of the cluster impose: every range has an id, and a malformed entry
counts for nothing, unless the object does not have the shape of its kind. -/
namespace NfsVolume.Group

open Run

variable {ranges : List GroupRange}

def entryRanges (entry : Json) : Except Failure (List GroupRange) :=
  match rangeOfEntry entry with
  | .ok r => if r.max < r.min then .ok [] else .ok [r]
  | .error (.overflow problem) => .error (.overflow problem)
  | .error _ => .ok []

def entriesRanges : List Json → Except Failure (List GroupRange)
  | [] => .ok []
  | entry :: rest => entryRanges entry >>= fun here =>
    entriesRanges rest >>= fun others => .ok (here ++ others)

def listRanges (raw : Json) : Except Failure (List GroupRange) :=
  if raw.isEmpty then .ok [] else raw.elements >>= entriesRanges

def strategyRanges (ruleName : Text) (strategy : Json) : Except Failure (List GroupRange) :=
  strategy.member ruleName >>= fun rule =>
    if !isText rule mustRunAs then .ok [] else strategy.member "ranges" >>= listRanges

def constraintRanges (object : Json) : Except Failure (List GroupRange) :=
  if object.isEmpty then .ok [] else object.inside "supplementalGroups" >>= strategyRanges "type"

def policyRanges (object : Json) : Except Failure (List GroupRange) :=
  if object.isEmpty then .ok []
  else object.inside "spec" >>= fun body =>
    body.inside "supplementalGroups" >>= strategyRanges "rule"

/-- Blocks of a namespace that cannot be read count for nothing. -/
def spaceRanges (object : Json) : Except Failure (List GroupRange) :=
  match rangesOfNamespace object with
  | .ok ranges => .ok ranges
  | .error (.value _) => .ok []
  | .error problem => .error problem

/-- The ranges that the object of a source imposes. -/
def Source.rangesOf : Source → Json → Except Failure (List GroupRange)
  | .constraint => constraintRanges
  | .policy => policyRanges
  | .space => spaceRanges

theorem takeEntry_yields (entry : Json) : Yields (takeEntry entry) (entryRanges entry) := by
  unfold takeEntry entryRanges
  cases rangeOfEntry entry with
  | ok r => exact Yields.ite ((log_yields _ _ _).bind fun _ => pure_yields _) (pure_yields _)
  | error problem =>
    cases problem with
    | overflow problem => exact throw_yields _
    | _ => exact (log_yields _ _ _).bind fun _ => pure_yields _

theorem takeEntries_yields (entries : List Json) :
    Yields (takeEntries entries) (entriesRanges entries) := by
  induction entries with
  | nil => exact pure_yields _
  | cons entry rest ih =>
    exact (takeEntry_yields entry).bind fun _ => ih.bind fun _ => pure_yields _

theorem parseRanges_yields (raw : Json) : Yields (parseRanges raw) (listRanges raw) :=
  Yields.ite (pure_yields _) ((ofExcept_yields _).bind takeEntries_yields)

theorem rangesOfStrategy_yields (ruleName : Text) (strategy : Json) :
    Yields (rangesOfStrategy ruleName strategy) (strategyRanges ruleName strategy) := by
  apply (ofExcept_yields _).bind
  intro rule
  exact Yields.ite (pure_yields _) ((ofExcept_yields _).bind parseRanges_yields)

theorem rangesOfConstraint_yields (object : Json) :
    Yields (rangesOfConstraint object) (constraintRanges object) :=
  Yields.ite (pure_yields _) ((ofExcept_yields _).bind (rangesOfStrategy_yields _))

theorem rangesOfPolicy_yields (object : Json) :
    Yields (rangesOfPolicy object) (policyRanges object) :=
  Yields.ite (pure_yields _) ((ofExcept_yields _).bind fun _ =>
    (ofExcept_yields _).bind (rangesOfStrategy_yields _))

section meets
variable {α β : Type} {P P' : Failure → Prop} {Q : α → Prop} {R : β → Prop}

/-- A result that satisfies one predicate, or fails with a failure that satisfies another. -/
def Meets (Q : α → Prop) (P : Failure → Prop) : Except Failure α → Prop
  | .ok a => Q a
  | .error e => P e

theorem Meets.bind {x : Except Failure α} {f : α → Except Failure β} (hx : Meets Q P x)
    (hf : ∀ a, Q a → Meets R P (f a)) : Meets R P (x >>= f) := by
  cases x with
  | error e => exact hx
  | ok a => exact hf a hx

theorem Meets.ite {c : Prop} [Decidable c] {x y : Except Failure α} (hx : c → Meets Q P x)
    (hy : ¬ c → Meets Q P y) : Meets Q P (if c then x else y) := by
  split
  · exact hx ‹_›
  · exact hy ‹_›

theorem Meets.mono {x : Except Failure α} (h : Meets Q P x) (hP : ∀ e, P e → P' e) :
    Meets Q P' x := by
  cases x with
  | error e => exact hP e h
  | ok a => exact h

end meets

/-- Every range has an id. -/
def Filled (ranges : List GroupRange) : Prop := ∀ range ∈ ranges, range.min ≤ range.max

theorem filled_nil : Filled [] := by simp [Filled]

theorem Filled.append {more : List GroupRange} (h : Filled ranges) (hmore : Filled more) :
    Filled (ranges ++ more) := by
  intro range hrange
  exact (List.mem_append.mp hrange).elim (h range) (hmore range)

theorem filled_singleton {range : GroupRange} (h : range.min ≤ range.max) :
    Filled [range] := by
  intro other hother
  rwa [List.mem_singleton.mp hother]

/-- A failure of an object that does not have the shape of its kind, or has an infinite number where
an id is expected. -/
inductive Misshapen : Failure → Prop
  | shape (problem : ShapeProblem) : Misshapen (.shape problem)
  | infinite : Misshapen (.overflow .infinite)

/-- A failure that is about a value of the right shape. -/
inductive Malformed : Failure → Prop
  | value (problem : ValueProblem) : Malformed (.value problem)
  | misshapen (e : Failure) (h : Misshapen e) : Malformed e

def IsValue (e : Failure) : Prop := ∃ problem, e = .value problem

theorem isValue_value (problem : ValueProblem) : IsValue (.value problem) := ⟨problem, rfl⟩

theorem IsValue.malformed {e : Failure} (h : IsValue e) : Malformed e := by
  obtain ⟨problem, rfl⟩ := h
  exact .value problem

theorem member_meets (name : Text) (v : Json) : Meets (fun _ => True) Misshapen (v.member name) := by
  cases v with
  | object members => exact trivial
  | _ => exact .shape _

theorem inside_meets (name : Text) (v : Json) : Meets (fun _ => True) Misshapen (v.inside name) := by
  cases v with
  | object members => exact trivial
  | _ => exact .shape _

theorem elements_meets (v : Json) : Meets (fun _ => True) Misshapen v.elements := by
  cases v with
  | array items => exact trivial
  | object members => exact trivial
  | text s => exact trivial
  | _ => exact .shape _

theorem integer_meets (text : RawText) : Meets (fun _ => True) IsValue (integer text) := by
  unfold integer
  cases Text.Integer.read text with
  | ok n => exact trivial
  | error e => exact isValue_value _

theorem wholeNumber_meets (v : Json) : Meets (fun _ => True) Malformed (wholeNumber v) := by
  cases v with
  | text s => exact (integer_meets s).mono fun _ h => h.malformed
  | int n => exact trivial
  | bool b => exact trivial
  | double x =>
    cases x with
    | nan => exact .value _
    | infinite negative => exact .misshapen _ .infinite
    | _ => exact trivial
  | _ => exact .misshapen _ (.shape _)

theorem bound_meets (name : Text) (entry : Json) :
    Meets (fun _ => True) Malformed (bound name entry) := by
  cases entry with
  | object members =>
    unfold bound
    dsimp only
    cases Json.lookup name members with
    | none => exact .misshapen _ (.shape _)
    | some v => exact wholeNumber_meets v
  | _ => exact .misshapen _ (.shape _)

theorem rangeOfEntry_meets (entry : Json) :
    Meets (fun _ => True) Malformed (rangeOfEntry entry) :=
  (bound_meets _ entry).bind fun _ _ => (bound_meets _ entry).bind fun _ _ => trivial

/-- Of the failures of an entry, only an infinite bound is not passed over. -/
theorem entryRanges_meets (entry : Json) : Meets Filled Misshapen (entryRanges entry) := by
  have hentry := rangeOfEntry_meets entry
  unfold entryRanges
  cases hr : rangeOfEntry entry with
  | ok r => exact Meets.ite (fun _ => filled_nil) fun h => filled_singleton (by omega)
  | error problem =>
    rw [hr] at hentry
    cases problem with
    | overflow problem =>
      cases hentry with
      | misshapen _ h => exact h
    | _ => exact filled_nil

theorem entriesRanges_meets (entries : List Json) :
    Meets Filled Misshapen (entriesRanges entries) := by
  induction entries with
  | nil => exact filled_nil
  | cons entry rest ih =>
    exact (entryRanges_meets entry).bind fun _ hhere => ih.bind fun _ hrest => hhere.append hrest

theorem strategyRanges_meets (ruleName : Text) (strategy : Json) :
    Meets Filled Misshapen (strategyRanges ruleName strategy) := by
  refine (member_meets _ _).bind fun rule _ => Meets.ite (fun _ => filled_nil) fun _ => ?_
  refine (member_meets _ _).bind fun raw _ => Meets.ite (fun _ => filled_nil) fun _ => ?_
  exact (elements_meets raw).bind fun entries _ => entriesRanges_meets entries

/-- A block has at least one id, however it is written. -/
theorem rangeOfBlock_meets (block : RawText) :
    Meets (fun range => range.min ≤ range.max) IsValue (rangeOfBlock block) := by
  unfold rangeOfBlock
  split
  · refine (integer_meets _).bind fun start _ => (integer_meets _).bind fun size _ => ?_
    refine Meets.ite (fun _ => isValue_value _) fun h => ?_
    show start ≤ start + size - 1
    omega
  · refine (integer_meets _).bind fun start _ => (integer_meets _).bind fun stop _ => ?_
    refine Meets.ite (fun _ => isValue_value _) fun h => ?_
    show start ≤ stop
    omega
  · exact isValue_value _

theorem rangesOfPieces_meets (pieces : List RawText) :
    Meets Filled IsValue (rangesOfPieces pieces) := by
  induction pieces with
  | nil => exact filled_nil
  | cons piece rest ih =>
    refine Meets.ite (fun _ => ih) fun _ => (rangeOfBlock_meets _).bind fun range hrange => ?_
    exact ih.bind fun _ hrest => (filled_singleton hrange).append hrest

theorem rangesOfNamespace_meets (object : Json) :
    Meets Filled Malformed (rangesOfNamespace object) := by
  have hinside (name : Text) (v : Json) : Meets (fun _ => True) Malformed (v.inside name) :=
    (inside_meets name v).mono .misshapen
  have hmember (name : Text) (v : Json) : Meets (fun _ => True) Malformed (v.member name) :=
    (member_meets name v).mono .misshapen
  have hblocks (value : Json) : Meets Filled Malformed
      (if value.isEmpty then .ok [] else parseBlocksValue value) := by
    refine Meets.ite (fun _ => filled_nil) fun _ => ?_
    cases value with
    | text s => exact (rangesOfPieces_meets _).mono fun _ h => h.malformed
    | _ => exact .misshapen _ (.shape _)
  refine Meets.ite (fun _ => filled_nil) fun _ => ?_
  refine (hinside _ _).bind fun metadata _ => (hinside _ _).bind fun annotations _ => ?_
  refine (hmember _ _).bind fun groups _ => ?_
  exact Meets.ite (fun _ => (hmember _ _).bind fun value _ => hblocks value) fun _ => hblocks groups

/-- What the object of a source imposes are ranges with ids, unless it is misshapen. -/
theorem Source.rangesOf_meets (source : Source) (object : Json) :
    Meets Filled Misshapen (source.rangesOf object) := by
  cases source with
  | constraint =>
    refine Meets.ite (fun _ => filled_nil) fun _ => ?_
    exact (inside_meets _ _).bind fun _ _ => strategyRanges_meets _ _
  | policy =>
    refine Meets.ite (fun _ => filled_nil) fun _ => (inside_meets _ _).bind fun _ _ => ?_
    exact (inside_meets _ _).bind fun _ _ => strategyRanges_meets _ _
  | space =>
    have hspace := rangesOfNamespace_meets object
    change Meets Filled Misshapen (spaceRanges object)
    unfold spaceRanges
    cases hr : rangesOfNamespace object with
    | ok ranges =>
      rw [hr] at hspace
      exact hspace
    | error problem =>
      rw [hr] at hspace
      cases hspace with
      | value problem => exact filled_nil
      | misshapen _ h =>
        cases h with
        | shape problem => exact .shape problem
        | infinite => exact .infinite

end NfsVolume.Group
