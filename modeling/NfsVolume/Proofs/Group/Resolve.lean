import NfsVolume.Proofs.Cluster
import NfsVolume.Proofs.Group.Imposed
import NfsVolume.Proofs.World.Circumstances

/-! Resolving the ranges of group ids: they are those of the first source that has any. A source
whose object cannot be named, looked up or read is passed over, and what is no text, too deep or
misshapen ends the search. -/
namespace NfsVolume

open Run

namespace Group

variable {cluster : Cluster} {file space : Text} {source : Source} {sources : List Source}
  {w u : World} {ranges : List GroupRange} {e : Failure}

/-- The name of the object that is looked up for a source, empty if there is none: an annotation in
the text of the file, or the namespace. -/
def Source.subjectIn (space content : Text) : Source → Text
  | .constraint => annotationIn content constraintKey
  | .policy => annotationIn content policyKey
  | .space => space

/-- Where the object is looked up. -/
def Source.path : Source → Text → Text
  | .constraint => Cluster.constraintPath
  | .policy => Cluster.policyPath
  | .space => Cluster.namespacePath

/-- The text of the annotations, which is empty if the system does not let the file be read. -/
def annotations (file : Text) (w : World) : Except Failure Text :=
  match (Files.readText file w).1 with
  | .ok content => .ok content
  | .error (.os _) => .ok []
  | .error problem => .error problem

/-- The name of the object of a source in a world. -/
def Source.subject (file space : Text) (w : World) : Source → Except Failure Text
  | .space => .ok space
  | source => (annotations file w).map fun content => source.subjectIn space content

/-- What the reply to the lookup of an object imposes, if there is an object to look up. -/
def Source.imposed (cluster : Cluster) (w : World) (subject : Text) (source : Source) :
    Except Failure (List GroupRange) :=
  if subject.isEmpty then .ok []
  else
    Cluster.ofReply cluster.timeout (source.path subject)
      (w.replyTo (cluster.baseUrl ++ source.path subject)) >>= fun
    | .ok object => source.rangesOf object
    | .error _ => .ok []

/-- The ranges that a source has in a world. -/
def Source.found (cluster : Cluster) (file space : Text) (w : World) (source : Source) :
    Except Failure (List GroupRange) :=
  source.subject file space w >>= fun subject => source.imposed cluster w subject

/-- The world behind a source, but for the log: its object has been asked for, if it has one. -/
def Source.asked (cluster : Cluster) (file space : Text) (w : World) (source : Source) : World :=
  match source.subject file space w with
  | .ok subject => if subject.isEmpty then w else cluster.asked (source.path subject) w
  | .error _ => w

theorem annotationIn_nil (key : Text) : annotationIn [] key = [] := by
  have hnone : Text.after? (key ++ ['=', '"']) [] = none := by
    cases key with
    | nil => rfl
    | cons c rest => rfl
  unfold annotationIn findValue valueHere?
  rw [hnone]
  rfl

theorem annotationValue_apply (file key : Text) (w : World) :
    annotationValue file key w =
      ((Files.readText file w).1.map fun content => annotationIn content key, w) := by
  have hread := (Files.readText_reads file).apply w
  rw [annotationValue, bind_apply, hread]
  cases (Files.readText file w).1 with
  | ok content => rfl
  | error problem => rfl

theorem annotationOrNone_apply (file key : Text) (w : World) :
    ∃ log, annotationOrNone file key w =
      ((annotations file w).map fun content => annotationIn content key,
        { w with log := log }) := by
  have hvalue := annotationValue_apply file key w
  unfold annotations annotationOrNone
  cases hr : (Files.readText file w).1 with
  | ok content =>
    rw [hr] at hvalue
    exact ⟨w.log, onOsError_ok hvalue⟩
  | error problem =>
    rw [hr] at hvalue
    cases problem with
    | os e =>
      rw [onOsError_os hvalue]
      dsimp only [Except.map]
      rw [annotationIn_nil]
      exact ⟨_, rfl⟩
    | _ => exact ⟨w.log, tryCatch_error hvalue⟩

/-- Looking an object up and going on with it, or passing it over. -/
theorem lookup_imposes (source : Source) {absent : Run (List GroupRange)}
    {proceed : Except LookupProblem Json → Run (List GroupRange)} (habsent : Yields absent (.ok []))
    (hobject : ∀ object, Yields (proceed (.ok object)) (source.rangesOf object))
    (hproblem : ∀ problem, Yields (proceed (.error problem)) (.ok [])) (subject : Text)
    (w : World) :
    ∃ log, (if subject.isEmpty then absent
        else cluster.lookup (source.path subject) >>= proceed) w =
      (source.imposed cluster w subject,
        { if subject.isEmpty then w else cluster.asked (source.path subject) w with log := log }) := by
  unfold Source.imposed
  split
  · exact habsent.apply w
  · obtain ⟨log, hlookup⟩ := cluster.lookup_apply (source.path subject) w
    cases hreply : Cluster.ofReply cluster.timeout (source.path subject)
        (w.replyTo (cluster.baseUrl ++ source.path subject)) with
    | error e =>
      rw [hreply] at hlookup
      exact ⟨log, bind_error hlookup⟩
    | ok found =>
      rw [hreply] at hlookup
      rw [bind_ok hlookup]
      cases found with
      | error problem => exact (hproblem problem).apply _
      | ok object => exact (hobject object).apply _

theorem fromAnnotated_apply (source : Source) {key shortName : Text}
    {ranges : Json → Run (List GroupRange)}
    (hsubject : ∀ w, source.subject file space w =
      (annotations file w).map fun content => annotationIn content key)
    (hranges : ∀ object, Yields (ranges object) (source.rangesOf object)) (w : World) :
    ∃ log, fromAnnotated cluster file key shortName source.path ranges w =
      (source.found cluster file space w,
        { source.asked cluster file space w with log := log }) := by
  obtain ⟨log, hannotation⟩ := annotationOrNone_apply file key w
  rw [← hsubject] at hannotation
  unfold fromAnnotated Source.found Source.asked
  rw [bind_apply, hannotation]
  cases source.subject file space w with
  | error e => exact ⟨log, rfl⟩
  | ok subject =>
    refine lookup_imposes source (pure_yields _) hranges (fun problem => ?_) subject
      { w with log := log } |>.imp fun later hlater => hlater.trans ?_
    · exact (log_yields _ _ _).bind fun _ => pure_yields _
    · dsimp only
      split <;> rfl

/-- A source has the ranges that the reply for its object imposes, and does nothing but ask. -/
theorem fromSource_apply (cluster : Cluster) (file space : Text) (source : Source) (w : World) :
    ∃ log, fromSource cluster file space source w =
      (source.found cluster file space w,
        { source.asked cluster file space w with log := log }) := by
  cases source with
  | constraint => exact fromAnnotated_apply .constraint (fun _ => rfl) rangesOfConstraint_yields w
  | policy => exact fromAnnotated_apply .policy (fun _ => rfl) rangesOfPolicy_yields w
  | space =>
    refine lookup_imposes .space ((log_yields _ _ _).bind fun _ => pure_yields _)
      (fun object => ?_) (fun problem => (log_yields _ _ _).bind fun _ => pure_yields _) space w
    change Yields _ (spaceRanges object)
    unfold spaceRanges
    dsimp only
    cases rangesOfNamespace object with
    | ok ranges => exact pure_yields _
    | error problem =>
      cases problem with
      | value problem => exact (log_yields _ _ _).bind fun _ => pure_yields _
      | _ => exact throw_yields _

theorem annotations_log (file : Text) (w : World) (log : List LogLine) :
    annotations file { w with log := log } = annotations file w := by
  unfold annotations
  rw [Files.readText_looks file w { w with log := log } rfl rfl rfl]

theorem Source.subject_log (file space : Text) (source : Source) (w : World)
    (log : List LogLine) :
    source.subject file space { w with log := log } = source.subject file space w := by
  unfold subject
  rw [annotations_log]

theorem Source.found_log (cluster : Cluster) (file space : Text) (source : Source) (w : World)
    (log : List LogLine) :
    source.found cluster file space { w with log := log } = source.found cluster file space w := by
  unfold found
  rw [subject_log]
  rfl

theorem Source.asked_log (cluster : Cluster) (file space : Text) (source : Source) (w : World)
    (log : List LogLine) :
    source.asked cluster file space { w with log := log } =
      { source.asked cluster file space w with log := log } := by
  unfold asked
  rw [subject_log]
  cases source.subject file space w with
  | error e => rfl
  | ok subject =>
    dsimp only
    split <;> rfl

/-- The lookup of the object of a source gets a response with a body. -/
def Source.Answered (cluster : Cluster) (file space : Text) (w : World) (source : Source)
    (body : Text) : Prop :=
  ∃ subject status, source.subject file space w = .ok subject ∧ subject ≠ [] ∧ status < 400 ∧
    w.replyTo (cluster.baseUrl ++ source.path subject) = .response status body

/-- What a source can fail with: annotations that are no text, and objects that are too deep or do
not have their shape. -/
inductive Source.Stray (cluster : Cluster) (file space : Text) (w : World) (source : Source) :
    Failure → Prop
  | null (hsource : source ≠ .space) (h : '\x00' ∈ file) :
      Stray cluster file space w source (.value .nullInPath)
  | undecodable (hsource : source ≠ .space) (problem : Text.Utf8.ReadError)
      (h : Files.Undecodable file w.files problem) :
      Stray cluster file space w source (.undecodable problem)
  | tooDeep (body : Text) (h : source.Answered cluster file space w body) (kind : Json.Kind)
      (hread : Json.read body = .error (.tooDeep kind)) :
      Stray cluster file space w source (.json (.tooDeep kind))
  | misshapen (body : Text) (h : source.Answered cluster file space w body) (object : Json)
      (hread : Json.read body = .ok object) (e : Failure) (he : Misshapen e)
      (hranges : source.rangesOf object = .error e) : Stray cluster file space w source e

/-- A source that cannot be read, looked up or parsed, as far as the search gets over that. -/
inductive Source.Unavailable (cluster : Cluster) (file space : Text) (w : World) : Source → Prop
  | unread (source : Source) (hsource : source ≠ .space) (e : OsError)
      (h : (Files.readText file w).1 = .error (.os e)) : Unavailable cluster file space w source
  | unanswered (source : Source) (subject : Text)
      (hsubject : source.subject file space w = .ok subject)
      (h : NoAnswer (w.replyTo (cluster.baseUrl ++ source.path subject))) :
      Unavailable cluster file space w source
  | unreadable (source : Source) (body : Text) (h : source.Answered cluster file space w body)
      (e : Json.ReadError) (hread : Json.read body = .error e) (he : ∀ kind, e ≠ .tooDeep kind) :
      Unavailable cluster file space w source
  | malformed (body : Text) (h : Source.space.Answered cluster file space w body) (object : Json)
      (hread : Json.read body = .ok object) (problem : ValueProblem)
      (hblocks : rangesOfNamespace object = .error (.value problem)) :
      Unavailable cluster file space w .space

theorem Source.subject_of_ne (hsource : source ≠ .space) :
    source.subject file space w =
      (annotations file w).map fun content => source.subjectIn space content := by
  cases source with
  | space => exact absurd rfl hsource
  | _ => rfl

theorem Source.found_of_subject {subject : Text}
    (hsubject : source.subject file space w = .ok subject) :
    source.found cluster file space w = source.imposed cluster w subject := by
  unfold found
  rw [hsubject]
  rfl

/-- What a body of a response comes to. -/
theorem Source.Answered.found {body : Text} (h : source.Answered cluster file space w body) :
    source.found cluster file space w = match Json.read body with
      | .ok object => source.rangesOf object
      | .error (.tooDeep kind) => .error (.json (.tooDeep kind))
      | .error _ => .ok [] := by
  obtain ⟨subject, status, hsubject, hne, hstatus, hreply⟩ := h
  have hne : subject.isEmpty = false := by simpa using hne
  rw [Source.found_of_subject hsubject, Source.imposed, hreply, Cluster.ofReply_response hstatus, hne]
  cases Json.read body with
  | ok object => rfl
  | error e => cases e <;> rfl

theorem Source.found_of_unanswered {subject : Text}
    (hsubject : source.subject file space w = .ok subject)
    (h : NoAnswer (w.replyTo (cluster.baseUrl ++ source.path subject))) :
    source.found cluster file space w = .ok [] := by
  obtain ⟨problem, hproblem⟩ := h.ofReply cluster.timeout (source.path subject)
  rw [found_of_subject hsubject, imposed, hproblem]
  split <;> rfl

theorem Source.found_of_subject_nil (hsubject : source.subject file space w = .ok []) :
    source.found cluster file space w = .ok [] :=
  found_of_subject hsubject

theorem Source.found_of_subject_error (hsubject : source.subject file space w = .error e) :
    source.found cluster file space w = .error e := by
  unfold found
  rw [hsubject]
  rfl

/-- A source that is unavailable counts as one without ranges. -/
theorem Source.Unavailable.found (h : source.Unavailable cluster file space w) :
    source.found cluster file space w = .ok [] := by
  cases h with
  | unread source hsource e h =>
    have hannotations : annotations file w = .ok [] := by
      unfold annotations
      rw [h]
    apply Source.found_of_subject_nil
    rw [Source.subject_of_ne hsource, hannotations]
    cases source with
    | constraint => exact congrArg Except.ok (annotationIn_nil _)
    | policy => exact congrArg Except.ok (annotationIn_nil _)
    | space => exact absurd rfl hsource
  | unanswered source subject hsubject h => exact Source.found_of_unanswered hsubject h
  | unreadable source body h e hread he =>
    rw [h.found, hread]
    cases e with
    | tooDeep kind => exact absurd rfl (he kind)
    | _ => rfl
  | malformed body h object hread problem hblocks =>
    rw [h.found, hread]
    change spaceRanges object = _
    unfold spaceRanges
    rw [hblocks]

theorem annotations_error (h : annotations file w = .error e) :
    Files.RefusesNull file e ∨
      ∃ problem, e = .undecodable problem ∧ Files.Undecodable file w.files problem := by
  unfold annotations at h
  rcases hread : Files.readText file w with ⟨problem | content, v⟩
  · rw [hread] at h
    rcases of_bind hread with ⟨text, u, -, hunify⟩ | ⟨problem', hexact, hr⟩
    · cases hunify
    · cases hr
      rcases Files.readExact_fails hexact with ⟨os, rfl⟩ | hnull | ⟨spoilt, rfl, hspoilt⟩
      · cases h
      · obtain ⟨hnull, rfl⟩ := hnull
        cases h
        exact .inl ⟨hnull, rfl⟩
      · cases h
        exact .inr ⟨spoilt, rfl, hspoilt⟩
  · rw [hread] at h
    cases h

/-- What a source comes to are ranges with ids, or a failure that is stray in it. -/
theorem Source.found_meets (cluster : Cluster) (file space : Text) (w : World) (source : Source) :
    Meets Filled (source.Stray cluster file space w) (source.found cluster file space w) := by
  cases hsubject : source.subject file space w with
  | error problem =>
    have hsource : source ≠ .space := by
      rintro rfl
      cases hsubject
    rw [Source.found_of_subject_error hsubject]
    rw [Source.subject_of_ne hsource] at hsubject
    cases hannotations : annotations file w with
    | ok content =>
      rw [hannotations] at hsubject
      cases hsubject
    | error problem =>
      rw [hannotations] at hsubject
      cases hsubject
      rcases annotations_error hannotations with ⟨hnull, rfl⟩ | ⟨problem, rfl, hspoilt⟩
      · exact .null hsource hnull
      · exact .undecodable hsource problem hspoilt
  | ok subject =>
    by_cases hne : subject = []
    · subst hne
      rw [Source.found_of_subject_nil hsubject]
      exact filled_nil
    · rcases noAnswer_or_response (w.replyTo (cluster.baseUrl ++ source.path subject)) with
        hreply | ⟨status, body, hstatus, hreply⟩
      · rw [Source.found_of_unanswered hsubject hreply]
        exact filled_nil
      · have hanswered : source.Answered cluster file space w body :=
          ⟨subject, status, hsubject, hne, hstatus, hreply⟩
        rw [hanswered.found]
        cases hread : Json.read body with
        | ok object =>
          have hmeets := source.rangesOf_meets object
          change Meets _ _ (source.rangesOf object)
          cases hranges : source.rangesOf object with
          | ok ranges => rwa [hranges] at hmeets
          | error e =>
            rw [hranges] at hmeets
            exact .misshapen body hanswered object hread e hmeets hranges
        | error problem =>
          cases problem with
          | tooDeep kind => exact .tooDeep body hanswered kind hread
          | _ => exact filled_nil

theorem Source.Stray.found (h : source.Stray cluster file space w e) :
    source.found cluster file space w = .error e := by
  cases h with
  | null hsource h =>
    apply Source.found_of_subject_error
    rw [Source.subject_of_ne hsource, annotations, Files.readText_null h]
    rfl
  | undecodable hsource problem h =>
    apply Source.found_of_subject_error
    rw [Source.subject_of_ne hsource, annotations, Files.readText_undecodable h]
    rfl
  | tooDeep body h kind hread => rw [h.found, hread]
  | misshapen body h object hread e he hranges =>
    rw [h.found, hread]
    exact hranges

/-- What a search through sources comes to. -/
def search (cluster : Cluster) (file space : Text) :
    List Source → World → Except Failure (List GroupRange)
  | [], _ => .ok GroupRange.defaults
  | source :: rest, w => source.found cluster file space w >>= fun ranges =>
    if ranges.isEmpty then search cluster file space rest (source.asked cluster file space w)
    else .ok ranges

theorem search_log (cluster : Cluster) (file space : Text) (sources : List Source) (w : World)
    (log : List LogLine) :
    search cluster file space sources { w with log := log } =
      search cluster file space sources w := by
  induction sources generalizing w with
  | nil => rfl
  | cons source rest ih =>
    simp only [search, Source.found_log, Source.asked_log, ih]

theorem firstOf_result (cluster : Cluster) (file space : Text) (sources : List Source)
    (w : World) :
    (firstOf cluster file space sources w).1 = search cluster file space sources w := by
  induction sources generalizing w with
  | nil => rfl
  | cons source rest ih =>
    obtain ⟨log, hsource⟩ := fromSource_apply cluster file space source w
    unfold firstOf search
    cases hfound : source.found cluster file space w with
    | error e =>
      rw [hfound] at hsource
      rw [bind_error hsource]
      rfl
    | ok ranges =>
      rw [hfound] at hsource
      rw [bind_ok hsource]
      change _ = if ranges.isEmpty = true then _ else _
      split
      · rw [ih, search_log]
      · rfl

/-- The search comes to a source in a world: those before it have been asked, and had no ranges. -/
inductive Reaches (cluster : Cluster) (file space : Text) :
    List Source → World → Source → World → Prop
  | here (source : Source) (rest : List Source) (w : World) :
      Reaches cluster file space (source :: rest) w source w
  | next (source : Source) (rest : List Source) (w : World) (later : Source) (u : World)
      (hnone : source.found cluster file space w = .ok [])
      (hrest : Reaches cluster file space rest (source.asked cluster file space w) later u) :
      Reaches cluster file space (source :: rest) w later u

/-- A search finds ranges with ids, or stops at a source that is stray. -/
theorem search_meets (cluster : Cluster) (file space : Text) (sources : List Source) (w : World) :
    Meets (fun ranges => ranges ≠ [] ∧ Filled ranges)
      (fun e => ∃ source u, Reaches cluster file space sources w source u ∧
        source.Stray cluster file space u e) (search cluster file space sources w) := by
  induction sources generalizing w with
  | nil => exact ⟨by decide, filled_singleton (by decide)⟩
  | cons source rest ih =>
    have hmeets := source.found_meets cluster file space w
    unfold search
    cases hfound : source.found cluster file space w with
    | error e =>
      rw [hfound] at hmeets
      exact ⟨source, w, .here source rest w, hmeets⟩
    | ok ranges =>
      rw [hfound] at hmeets
      refine Meets.ite (fun hempty => ?_) fun hsome => ⟨by simpa using hsome, hmeets⟩
      obtain rfl : ranges = [] := by simpa using hempty
      have hrest := ih (source.asked cluster file space w)
      refine hrest.mono ?_
      rintro e ⟨later, u, hreaches, hstray⟩
      exact ⟨later, u, .next source rest w later u hfound hreaches, hstray⟩

theorem Reaches.search {later : Source} (h : Reaches cluster file space sources w later u)
    (hstray : later.Stray cluster file space u e) :
    search cluster file space sources w = .error e := by
  induction h with
  | here source rest w =>
    unfold Group.search
    rw [hstray.found]
    rfl
  | next source rest w later u hnone _ ih =>
    unfold Group.search
    rw [hnone]
    exact ih hstray

theorem resolve_meets (cluster : Cluster) (file space : Text) (w : World) :
    Meets (fun ranges => ranges ≠ [] ∧ Filled ranges)
      (fun e => ∃ source u, Reaches cluster file space [.constraint, .policy, .space] w source u ∧
        source.Stray cluster file space u e) (resolve cluster file space w).1 := by
  rw [resolve, firstOf_result]
  exact search_meets cluster file space _ w

/-- Resolving comes to ranges with ids, and otherwise it fails exactly if it reaches a source that is
stray; behind a source that is unavailable it goes on as behind one without ranges. -/
theorem resolve_comes_to_ranges (cluster : Cluster) (file space : Text) (w : World) :
    (∀ ranges, (resolve cluster file space w).1 = .ok ranges → ranges ≠ [] ∧ Filled ranges) ∧
    (∀ e, (resolve cluster file space w).1 = .error e ↔
      ∃ source u, Reaches cluster file space [.constraint, .policy, .space] w source u ∧
        source.Stray cluster file space u e) ∧
    ∀ source rest u, source.Unavailable cluster file space u →
      (firstOf cluster file space (source :: rest) u).1 =
        (firstOf cluster file space rest (source.asked cluster file space u)).1 := by
  have hmeets := resolve_meets cluster file space w
  refine ⟨fun ranges h => ?_, fun e => ⟨fun h => ?_, ?_⟩, fun source rest u h => ?_⟩
  · rwa [h] at hmeets
  · rwa [h] at hmeets
  · rintro ⟨source, u, hreaches, hstray⟩
    exact (firstOf_result cluster file space _ w).trans (hreaches.search hstray)
  · rw [firstOf_result, firstOf_result, search, h.found]
    rfl

/-- A cluster at an address. -/
def plainCluster : Cluster := .access "https://k" none none 10

/-- A world that has a file `x` with some octets, and in which the cluster knows of a namespace `n`
only. -/
def annotatedWorld (octets : List UInt8) (body : Text) : World :=
  { World.ofFiles ⟨[([['x']], .file 0o644 octets)]⟩ with
    replies := [("/api/v1/namespaces/n", [.response 200 body])] }

theorem resolve_comes_to_ranges_by_default :
    (resolve plainCluster ['y'] ['n'] (annotatedWorld [] ['1', 'e'])).1 = .ok [⟨0, 65533⟩] ∧
    (([⟨0, 65533⟩] : List GroupRange) ≠ [] ∧ Filled [⟨0, 65533⟩]) ∧
    (firstOf plainCluster ['y'] ['n'] [.space] (annotatedWorld [] ['1', 'e'])).1 =
      (firstOf plainCluster ['y'] ['n'] []
        (Source.space.asked plainCluster ['y'] ['n'] (annotatedWorld [] ['1', 'e']))).1 ∧
    ∃ source u, Reaches plainCluster ['x'] ['n'] [.constraint, .policy, .space]
        (annotatedWorld [0xff] ['{', '}']) source u ∧
      source.Stray plainCluster ['x'] ['n'] u (.undecodable ⟨.startOctet, 0, [0xff]⟩) := by
  have hdefault : (resolve plainCluster ['y'] ['n'] (annotatedWorld [] ['1', 'e'])).1 =
      .ok [⟨0, 65533⟩] := rfl
  have hanswered : Source.space.Answered plainCluster ['y'] ['n']
      (annotatedWorld [] ['1', 'e']) ['1', 'e'] :=
    ⟨['n'], 200, rfl, by decide, by decide, rfl⟩
  obtain ⟨hranges, -, hrest⟩ :=
    resolve_comes_to_ranges plainCluster ['y'] ['n'] (annotatedWorld [] ['1', 'e'])
  obtain ⟨-, hfails, -⟩ :=
    resolve_comes_to_ranges plainCluster ['x'] ['n'] (annotatedWorld [0xff] ['{', '}'])
  refine ⟨hdefault, hranges _ hdefault, hrest _ _ _ ?_, (hfails _).mp rfl⟩
  exact .unreadable .space _ hanswered _ rfl fun kind h => by cases h

/-- Annotations that are no text end the search, though the namespace imposes nothing, and so does
a namespace that is a number. -/
theorem resolve_fails :
    (resolve plainCluster ['x'] ['n'] (annotatedWorld [0xff] ['{', '}'])).1 =
      .error (.undecodable ⟨.startOctet, 0, [0xff]⟩) ∧
    (resolve plainCluster ['x'] ['n'] (annotatedWorld [] ['1'])).1 =
      .error (.shape (.noOperation .int "get")) := by
  exact ⟨rfl, rfl⟩

end Group
end NfsVolume
