import NfsVolume.Proofs.Group.Annotation
import NfsVolume.Proofs.Group.Resolve
import NfsVolume.Proofs.Json

/-! The ranges of group ids are those of the first source that has any, and no object is looked up
behind that source. -/
namespace NfsVolume.Group

open Run Json

/-- A strategy for groups: a rule, and the ranges that it is about. -/
structure Strategy where
  rule : Option RawText
  ranges : List GroupRange

/-- The groups and the users that are set aside for a namespace. -/
structure Allotment where
  groups : Option RawText
  users : Option RawText

/-- A strategy imposes its ranges only if groups must run as those. Reversed ranges do not count. -/
def Strategy.imposed (strategy : Strategy) : List GroupRange :=
  if strategy.rule = some (RawText.ofText "MustRunAs") then
    strategy.ranges.filter fun range => range.min ≤ range.max
  else []

/-- The text of the groups, and that of the users if the first is missing or empty. -/
def Allotment.text (allotment : Allotment) : RawText :=
  match allotment.groups with
  | none | some [] => allotment.users.getD []
  | some groups => groups

/-- A text that is malformed imposes nothing. -/
def Allotment.imposed (allotment : Allotment) : List GroupRange :=
  match parseBlocks allotment.text with
  | .ok ranges => ranges
  | .error _ => []

def range? (v : Json) : Option GroupRange := do
  let min ← (v.follow? ["min"]).bind int?
  let max ← (v.follow? ["max"]).bind int?
  return ⟨min, max⟩

def Strategy.read? (ruleName : Text) (v : Json) : Option Strategy := do
  let rule ← v.optional? text? ruleName
  let ranges ← v.listAt? range? "ranges"
  return ⟨rule, ranges⟩

def Allotment.read? (v : Json) : Option Allotment := do
  let groups ← v.optional? text? groupsKey
  let users ← v.optional? text? usersKey
  return ⟨groups, users⟩

/-- What an object imposes that has the shape of its kind. -/
def Source.ranges? : Source → Json → Option (List GroupRange)
  | .constraint, v =>
    (v.inside? (Strategy.read? "type") "supplementalGroups").map Strategy.imposed
  | .policy, v =>
    (v.inside? (inside? (Strategy.read? "rule") "supplementalGroups") "spec").map Strategy.imposed
  | .space, v =>
    (v.inside? (inside? Allotment.read? "annotations") "metadata").map Allotment.imposed

theorem entryRanges_read {entry : Json} {range : GroupRange} (h : range? entry = some range) :
    entryRanges entry = .ok (if range.min ≤ range.max then [range] else []) := by
  obtain ⟨min, hmin, h⟩ := Option.bind_eq_some_iff.mp h
  obtain ⟨max, hmax, h⟩ := Option.bind_eq_some_iff.mp h
  cases h
  have hbound (name : Text) (n : Int)
      (h : (entry.follow? [RawText.ofText name]).bind int? = some n) : bound name entry = .ok n := by
    obtain ⟨value, hvalue, hn⟩ := Option.bind_eq_some_iff.mp h
    cases eq_of_int? hn
    cases entry with
    | object members =>
      obtain ⟨found, hfound, ⟨rfl⟩⟩ := Option.bind_eq_some_iff.mp hvalue
      unfold bound
      dsimp only
      rw [hfound]
      rfl
    | _ => cases hvalue
  unfold entryRanges rangeOfEntry
  rw [hbound "min" min hmin, hbound "max" max hmax]
  dsimp only [bind, Except.bind, pure, Except.pure]
  by_cases hle : min ≤ max
  · rw [if_pos hle, if_neg (by omega)]
  · rw [if_neg hle, if_pos (by omega)]

theorem entriesRanges_read {entries : List Json} {ranges : List GroupRange}
    (h : List.Forall₂ (fun entry range => range? entry = some range) entries ranges) :
    entriesRanges entries = .ok (ranges.filter fun range => range.min ≤ range.max) := by
  induction h with
  | nil => rfl
  | @cons entry range _ _ hentry _ ih =>
    unfold entriesRanges
    rw [entryRanges_read hentry, ih, List.filter_cons]
    by_cases hle : range.min ≤ range.max
    · rw [if_pos hle, if_pos (decide_eq_true hle)]
      rfl
    · rw [if_neg hle, if_neg (by simpa using hle)]
      rfl

theorem listRanges_of_orArray {raw : Json} {entries : List Json}
    (h : raw.orArray = .array entries) : listRanges raw = entriesRanges entries := by
  unfold orArray at h
  unfold listRanges
  split at h
  · rename_i hempty
    cases h
    rw [if_pos hempty]
    rfl
  · rename_i hfull
    rw [if_neg hfull, h]
    rfl

theorem isText_read {value : Json} {found : Option RawText} (h : Tells text? value found)
    (s : Text) : isText value s = true ↔ found = some (RawText.ofText s) := by
  cases h with
  | null => exact ⟨nofun, nofun⟩
  | value _ t ht =>
    rw [eq_of_text? ht]
    simp [isText]

theorem strategyRanges_read {ruleName : Text} {v : Json} {strategy : Strategy}
    (h : Strategy.read? ruleName v = some strategy) :
    strategyRanges ruleName v = .ok strategy.imposed := by
  obtain ⟨rule, hrule, h⟩ := Option.bind_eq_some_iff.mp h
  obtain ⟨ranges, hranges, h⟩ := Option.bind_eq_some_iff.mp h
  cases h
  obtain ⟨value, hvalue, hrule⟩ := of_optional? hrule
  obtain ⟨raw, entries, hraw, harray, hentries⟩ := of_listAt? hranges
  unfold strategyRanges Strategy.imposed
  rw [hvalue, hraw]
  dsimp only [bind, Except.bind]
  have hmust := isText_read hrule mustRunAs
  by_cases h : rule = some (RawText.ofText "MustRunAs")
  · rw [hmust.mpr h, if_pos h, listRanges_of_orArray harray]
    exact entriesRanges_read hentries
  · rw [Bool.eq_false_iff.mpr (mt hmust.mp h), if_neg h]
    rfl

/-- An empty object is read as one without the member. -/
theorem inside_read {β : Type} {read : Json → Option β} {b : β} {name : Text} {v : Json}
    {f : Json → Except Failure (List GroupRange)} {r : Except Failure (List GroupRange)}
    (h : v.inside? read name = some b) (hf : ∀ inner, read inner = some b → f inner = r)
    (hnil : f (.object []) = .ok []) : (if v.isEmpty then .ok [] else v.inside name >>= f) = r := by
  obtain ⟨inner, hinside, hread⟩ := of_inside? h
  have hinner := hf inner hread
  split
  · rename_i hempty
    cases v with
    | object members =>
      obtain rfl : members = [] := by simpa [isEmpty] using hempty
      cases hinside
      exact hnil.symm.trans hinner
    | _ => cases h
  · rw [hinside]
    exact hinner

theorem blocks_read {value : Json} {found : Option RawText} (h : Tells text? value found) :
    (if value.isEmpty then .ok [] else parseBlocksValue value) = parseBlocks (found.getD []) := by
  cases h with
  | null => rfl
  | value _ t ht =>
    rw [eq_of_text? ht]
    cases t <;> rfl

theorem allotment_read {v : Json} {allotment : Allotment}
    (h : Allotment.read? v = some allotment) :
    (do
      let groups ← v.member groupsKey
      let value ← if groups.isEmpty then v.member usersKey else pure groups
      if value.isEmpty then return []
      parseBlocksValue value) = parseBlocks allotment.text := by
  obtain ⟨groups, hgroups, h⟩ := Option.bind_eq_some_iff.mp h
  obtain ⟨users, husers, h⟩ := Option.bind_eq_some_iff.mp h
  cases h
  obtain ⟨value, hvalue, hgroups⟩ := of_optional? hgroups
  obtain ⟨other, hother, husers⟩ := of_optional? husers
  have hblocks := blocks_read husers
  rw [hvalue, hother]
  dsimp only [bind, Except.bind]
  cases hgroups with
  | null => exact hblocks
  | value _ t ht =>
    rw [eq_of_text? ht]
    cases t with
    | nil => exact hblocks
    | cons p rest => rfl

theorem spaceRanges_read {v : Json} {ranges : List GroupRange}
    (h : Source.space.ranges? v = some ranges) : spaceRanges v = .ok ranges := by
  obtain ⟨allotment, hallotment, rfl⟩ := Option.map_eq_some_iff.mp h
  have hranges : rangesOfNamespace v = parseBlocks allotment.text := by
    refine inside_read hallotment (fun metadata hmetadata => ?_) rfl
    obtain ⟨annotations, hannotations, hread⟩ := of_inside? hmetadata
    dsimp only
    rw [hannotations]
    exact allotment_read hread
  have hmalformed := rangesOfPieces_meets (Text.splitOn (.char ',') allotment.text)
  unfold spaceRanges Allotment.imposed
  rw [hranges]
  change Meets _ _ (parseBlocks allotment.text) at hmalformed
  cases hblocks : parseBlocks allotment.text with
  | ok ranges => rfl
  | error e =>
    rw [hblocks] at hmalformed
    obtain ⟨problem, rfl⟩ := hmalformed
    rfl

theorem Source.rangesOf_read {source : Source} {v : Json} {ranges : List GroupRange}
    (h : source.ranges? v = some ranges) : source.rangesOf v = .ok ranges := by
  cases source with
  | constraint =>
    obtain ⟨strategy, hstrategy, rfl⟩ := Option.map_eq_some_iff.mp h
    exact inside_read hstrategy (fun _ hread => strategyRanges_read hread) rfl
  | policy =>
    obtain ⟨strategy, hstrategy, rfl⟩ := Option.map_eq_some_iff.mp h
    refine inside_read hstrategy (fun body hbody => ?_) rfl
    obtain ⟨inner, hinner, hread⟩ := of_inside? hbody
    rw [hinner]
    exact strategyRanges_read hread
  | space => exact spaceRanges_read h

/-- The lines of the annotations, of which there are none if there is no file. -/
inductive Told (file : Text) (w : World) : List Text → Prop
  | missing (hpath : '\x00' ∉ file) (errno : Errno) (h : w.files.resolve file = .error errno) :
      Told file w []
  | text (hpath : '\x00' ∉ file) (place : Place) (mode : Nat) (text : Text)
      (h : w.files.resolve file = .ok (place, .file mode (Text.Utf8.encode text)))
      (hmay : (Node.file mode (Text.Utf8.encode text)).mayRead = true) :
      Told file w (Text.splitOn '\n' text.unifyNewlines)

/-- The names of the objects of the sources, empty where there is none: two come from the lines of
the annotations. -/
structure Subjects (file space : Text) (w : World) (names : Source → Text) : Prop where
  annotated : ∃ lines, Told file w lines ∧ Names constraintKey lines (names .constraint) ∧
    Names policyKey lines (names .policy)
  space : names .space = space

variable {cluster : Cluster} {file space : Text} {names : Source → Text}
  {answers : Source → Option (List GroupRange)} {source : Source} {sources : List Source}
  {lines : List Text} {w u : World}

theorem Told.annotations (h : Told file w lines) : ∃ content, annotations file w = .ok content ∧
    ∀ key, '\n' ∉ key → Names key lines (annotationIn content key) := by
  unfold Group.annotations
  cases h with
  | missing hpath errno h =>
    rw [Files.readText_error hpath h]
    refine ⟨[], rfl, fun key _ => ?_⟩
    rw [annotationIn_nil]
    exact .none
  | text hpath place mode text h hmay =>
    rw [Files.readText_ok hpath h hmay]
    exact ⟨_, rfl, fun key hkey => names_annotationIn hkey _⟩

theorem Subjects.subject (h : Subjects file space w names) (source : Source) :
    source.subject file space w = .ok (names source) := by
  obtain ⟨lines, htold, hconstraint, hpolicy⟩ := h.annotated
  obtain ⟨content, hcontent, hnames⟩ := htold.annotations
  cases source with
  | constraint =>
    change (annotations file w).map _ = _
    rw [hcontent]
    exact congrArg Except.ok ((hnames constraintKey (by decide)).unique hconstraint)
  | policy =>
    change (annotations file w).map _ = _
    rw [hcontent]
    exact congrArg Except.ok ((hnames policyKey (by decide)).unique hpolicy)
  | space => exact congrArg Except.ok h.space.symm

theorem Subjects.of_files (h : Subjects file space w names) (hfiles : u.files = w.files) :
    Subjects file space u names := by
  obtain ⟨⟨lines, htold, hnames⟩, hspace⟩ := h
  refine ⟨⟨lines, ?_, hnames⟩, hspace⟩
  cases htold with
  | missing hpath errno h => exact .missing hpath errno (hfiles ▸ h)
  | text hpath place mode text h hmay => exact .text hpath place mode text (hfiles ▸ h) hmay

/-- The ranges that a source has, by the name of its object and what is shown of the object. -/
def heard (names : Source → Text) (answers : Source → Option (List GroupRange)) (source : Source) :
    List GroupRange :=
  if names source = [] then [] else (answers source).getD []

/-- Looking up the object of a source, if there is one. -/
def inquiry (cluster : Cluster) (names : Source → Text) (source : Source) : List Event :=
  if names source = [] then []
  else [.fetch (cluster.baseUrl ++ source.path (names source)) cluster.authorization
    cluster.timeout cluster.verify]

/-- The world behind a source. -/
def behind (cluster : Cluster) (names : Source → Text) (source : Source) (w : World) : World :=
  if names source = [] then w else cluster.asked (source.path (names source)) w

/-- What the cluster shows for each of the sources that are asked one after the other, where the
first one with ranges is the last. -/
def Shown (cluster : Cluster) (names : Source → Text)
    (answers : Source → Option (List GroupRange)) : List Source → World → Prop
  | [], _ => True
  | source :: rest, w =>
    (names source ≠ [] → Cluster.Shows source.ranges?
      (w.replyTo (cluster.baseUrl ++ source.path (names source))) (answers source)) ∧
    (heard names answers source = [] → Shown cluster names answers rest
      (behind cluster names source w))

def firstHeard (names : Source → Text) (answers : Source → Option (List GroupRange)) :
    List Source → List GroupRange
  | [] => GroupRange.defaults
  | source :: rest =>
    if heard names answers source = [] then firstHeard names answers rest
    else heard names answers source

def inquiries (cluster : Cluster) (names : Source → Text)
    (answers : Source → Option (List GroupRange)) : List Source → List Event
  | [] => []
  | source :: rest => inquiry cluster names source ++
    if heard names answers source = [] then inquiries cluster names answers rest else []

theorem Shown.log (h : Shown cluster names answers sources w) (log : List LogLine) :
    Shown cluster names answers sources { w with log := log } := by
  induction sources generalizing w with
  | nil => trivial
  | cons source rest ih =>
    refine ⟨h.1, fun hnone => ?_⟩
    have hrest := ih (h.2 hnone)
    unfold behind at hrest ⊢
    split at hrest
    · rw [if_pos ‹_›]
      exact hrest
    · rw [if_neg ‹_›]
      exact hrest

theorem Source.found_heard (hsubjects : Subjects file space w names)
    (hshown : Shown cluster names answers (source :: sources) w) :
    source.found cluster file space w = .ok (heard names answers source) := by
  have hsubject := hsubjects.subject source
  unfold heard
  by_cases hname : names source = []
  · rw [if_pos hname]
    exact Source.found_of_subject_nil (hname ▸ hsubject)
  · have hanswer := hshown.1 hname
    have hnonempty : (names source).isEmpty = false := by simpa using hname
    rw [if_neg hname, Source.found_of_subject hsubject, Source.imposed, hnonempty]
    cases hr : answers source with
    | none =>
      rw [hr] at hanswer
      obtain ⟨problem, hproblem⟩ := hanswer.ofReply_none cluster.timeout
        (source.path (names source))
      rw [hproblem]
      rfl
    | some ranges =>
      rw [hr] at hanswer
      obtain ⟨v, hv, hobject⟩ := hanswer.ofReply_some cluster.timeout
        (source.path (names source))
      rw [hobject]
      exact Source.rangesOf_read hv

theorem Source.asked_eq_behind (hsubjects : Subjects file space w names) (source : Source) :
    source.asked cluster file space w = behind cluster names source w := by
  unfold Source.asked behind
  rw [hsubjects.subject source]
  cases names source <;> rfl

theorem behind_files (source : Source) (w : World) :
    (behind cluster names source w).files = w.files := by
  unfold behind
  split <;> rfl

theorem behind_events (source : Source) (w : World) :
    (behind cluster names source w).events = w.events ++ inquiry cluster names source := by
  unfold behind inquiry
  split
  · exact (List.append_nil _).symm
  · rfl

/-- Each source is asked in its turn, and the first one with ranges ends the search. -/
theorem firstOf_heard (hsubjects : Subjects file space w names)
    (hshown : Shown cluster names answers sources w) :
    (firstOf cluster file space sources w).1 = .ok (firstHeard names answers sources) ∧
      (firstOf cluster file space sources w).2.events =
        w.events ++ inquiries cluster names answers sources := by
  induction sources generalizing w with
  | nil => exact ⟨rfl, (List.append_nil _).symm⟩
  | cons source rest ih =>
    obtain ⟨log, hsource⟩ := fromSource_apply cluster file space source w
    rw [Source.found_heard hsubjects hshown, Source.asked_eq_behind hsubjects] at hsource
    unfold firstOf firstHeard inquiries
    rw [bind_ok hsource]
    by_cases hnone : heard names answers source = []
    · -- the rest is asked in a world that has another log than the one behind the source
      have hbehind := ih (hsubjects.of_files
        (u := { behind cluster names source w with log := log }) (behind_files source w))
        ((hshown.2 hnone).log log)
      rw [if_pos hnone, if_pos hnone, hnone]
      refine ⟨hbehind.1, hbehind.2.trans ?_⟩
      rw [← List.append_assoc, ← behind_events]
    · have hsome : (heard names answers source).isEmpty = false := by simpa using hnone
      rw [if_neg hnone, if_neg hnone, hsome, List.append_nil, ← behind_events]
      exact ⟨rfl, rfl⟩

/-- The ranges of a provisioner are those of the first source that has any, and the default ones
otherwise. An object is looked up if there is a name for it, and if no source before has ranges. -/
theorem resolve_first (cluster : Cluster) (file space : Text) (w : World) (names : Source → Text)
    (answers : Source → Option (List GroupRange)) (hsubjects : Subjects file space w names)
    (hshown : Shown cluster names answers [.constraint, .policy, .space] w) :
    (resolve cluster file space w).1 = .ok (
      if heard names answers .constraint ≠ [] then heard names answers .constraint
      else if heard names answers .policy ≠ [] then heard names answers .policy
      else if heard names answers .space ≠ [] then heard names answers .space
      else [⟨0, 65533⟩]) ∧
    (resolve cluster file space w).2.events = w.events ++ (inquiry cluster names .constraint ++
      if heard names answers .constraint = [] then inquiry cluster names .policy ++
        if heard names answers .policy = [] then inquiry cluster names .space else []
      else []) := by
  obtain ⟨hranges, hevents⟩ := firstOf_heard hsubjects hshown
  refine ⟨hranges.trans (congrArg Except.ok ?_), hevents.trans (congrArg (w.events ++ ·) ?_)⟩
  · simp only [firstHeard, ite_not]
    rfl
  · simp only [inquiries, ite_self, List.append_nil]

/-- Annotations with a constraint `r` and a policy `p`. -/
def admittedText : Text :=
  annotationLine constraintKey ['r'] ++ '\n' :: (annotationLine policyKey ['p'] ++ ['\n'])

/-- A policy that imposes a range; another one is reversed. -/
def policyText : Text :=
  "\x7b\"spec\": \x7b\"supplementalGroups\": \x7b\"rule\": \"MustRunAs\", \"ranges\": [" ++
    "\x7b\"min\": 4, \"max\": 3\x7d, \x7b\"min\": 1, \"max\": 2\x7d]\x7d\x7d\x7d"

/-- A world with these annotations in a file `x`, in which the cluster knows of the policy only. -/
def admittedWorld : World :=
  { World.ofFiles ⟨[([['x']], .file 0o644 (Text.Utf8.encode admittedText))]⟩ with
    replies := [("/apis/policy/v1beta1/podsecuritypolicies/p", [.response 200 policyText])]
    otherReply := .response 404 [] }

def admittedNames : Source → Text
  | .constraint => ['r']
  | .policy => ['p']
  | .space => ['n']

def admittedAnswers : Source → Option (List GroupRange)
  | .policy => some [⟨1, 2⟩]
  | _ => none

theorem admittedWorld_subjects : Subjects ['x'] ['n'] admittedWorld admittedNames where
  annotated := by
    have hlines : Text.splitOn '\n' admittedText.unifyNewlines =
        [annotationLine constraintKey ['r'], annotationLine policyKey ['p'], []] := by decide
    refine ⟨_, .text (by decide) [['x']] 0o644 admittedText rfl rfl, ?_⟩
    rw [hlines]
    exact ⟨.here _ _, .later _ _ _ (fun other h => by cases (List.cons.inj h).1) (.here _ _)⟩
  space := rfl

theorem resolve_first_policy :
    Subjects ['x'] ['n'] admittedWorld admittedNames ∧
    (resolve plainCluster ['x'] ['n'] admittedWorld).1 = .ok [⟨1, 2⟩] ∧
    (resolve plainCluster ['x'] ['n'] admittedWorld).2.events =
      inquiry plainCluster admittedNames .constraint ++
        inquiry plainCluster admittedNames .policy := by
  have hreply : World.replyTo (behind plainCluster admittedNames .constraint admittedWorld)
      (plainCluster.baseUrl ++ Source.policy.path (admittedNames .policy)) =
    .response 200 policyText := rfl
  have hpolicy : (Json.read policyText).toOption.bind Source.policy.ranges? = some [⟨1, 2⟩] := by
    decide +kernel
  have hshown : Shown plainCluster admittedNames admittedAnswers [.constraint, .policy, .space]
      admittedWorld :=
    ⟨fun _ => .unanswered (.refused 404 [] (by decide)), fun _ =>
      ⟨fun _ => .of_eval hreply (by decide) hpolicy, nofun⟩⟩
  obtain ⟨hranges, hevents⟩ := resolve_first plainCluster ['x'] ['n'] admittedWorld admittedNames
    admittedAnswers admittedWorld_subjects hshown
  exact ⟨admittedWorld_subjects, hranges, hevents⟩

end NfsVolume.Group
