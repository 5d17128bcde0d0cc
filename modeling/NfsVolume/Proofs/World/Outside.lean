import NfsVolume.Proofs.World.Raises

/-! Asking the outside world touches no part of one's own but the results of the programs that are
run. Answers come back as values, unless a program writes what is no text. -/
namespace NfsVolume

/-- What the cluster replies next at a URL. -/
def World.replyTo (w : World) (url : Text) : Reply :=
  ((Outside.take? (Outside.pathOfUrl url) w.replies).1).getD w.otherReply

/-- Whatever the program writes is text. -/
def CommandResult.Legible : CommandResult → Prop
  | .finished _ output errors => (∃ text, output = Text.Utf8.encode text) ∧
      ∃ text, errors = Text.Utf8.encode text
  | .notStarted _ => True

/-- What the next run of a program answers. -/
def World.answerOf (w : World) (program : Text) :
    Except Failure (Except OsError (Int × Text × Text)) :=
  Outside.answerOf program (w.resultOf program)

theorem World.Frame.answerOf {parts : List Part} {w v : World} {program : Text}
    (h : World.Frame parts w v) (hp : Part.results program ∉ parts) :
    v.answerOf program = w.answerOf program :=
  congrArg (Outside.answerOf program) (h.results program hp)

namespace Outside

open Run

variable {parts : List Part} {P : Failure → Prop} {program : Text} {arguments : List Text}
  {octets : List UInt8} {result : CommandResult} {w v : World} {e : Failure}

/-- Another name is passed over. -/
theorem take?_cons_of_ne {α : Type} {name key : Text} (h : key ≠ name) (answers : List α)
    (rest : List (Text × List α)) : take? name ((key, answers) :: rest) =
      ((take? name rest).1, (key, answers) :: (take? name rest).2) := if_pos h

/-- What has been taken of a name is gone from its answers alone. -/
theorem exists_take?_cons {α : Type} (name : Text) (answers : List α)
    (rest : List (Text × List α)) :
    ∃ kept, (take? name ((name, answers) :: rest)).2 = (name, kept) :: rest := by
  simp only [take?, ne_eq, not_true, if_false]
  rcases answers with - | ⟨next, - | ⟨value, more⟩⟩
  · exact ⟨[], rfl⟩
  · exact ⟨[next], rfl⟩
  · exact ⟨value :: more, rfl⟩

/-- The answers of a name are not used up by taking one of another. -/
theorem take?_of_ne {α : Type} {name other : Text} (h : other ≠ name)
    (answers : List (Text × List α)) :
    (take? other (take? name answers).2).1 = (take? other answers).1 := by
  induction answers with
  | nil => rfl
  | cons entry rest ih =>
    obtain ⟨key, values⟩ := entry
    by_cases hname : key = name
    · subst hname
      obtain ⟨kept, hkept⟩ := exists_take?_cons key values rest
      rw [hkept, take?_cons_of_ne h.symm, take?_cons_of_ne h.symm]
    · rw [take?_cons_of_ne hname]
      by_cases hother : key = other
      · simp only [take?, hother, ne_eq, not_true, if_false]
        rcases values with - | ⟨next, - | ⟨value, more⟩⟩
        · rfl
        · rfl
        · rfl
      · rw [take?_cons_of_ne hother, take?_cons_of_ne hother]
        exact ih

theorem readOutput_encode (text : Text) :
    readOutput (Text.Utf8.encode text) = .ok text.unifyNewlines := by
  rw [readOutput, Text.Utf8.decode_encode]

theorem of_readOutput {r : Except Failure Text} (h : readOutput octets = r) :
    (∃ text, octets = Text.Utf8.encode text ∧ r = .ok text.unifyNewlines) ∨
      (∃ problem, r = .error (.undecodable problem)) ∧ ∀ text, octets ≠ Text.Utf8.encode text := by
  unfold readOutput at h
  cases hd : Text.Utf8.decode octets with
  | ok text =>
    rw [hd] at h
    exact .inl ⟨text, Text.Utf8.encode_of_decode hd, h.symm⟩
  | error problem =>
    rw [hd] at h
    refine .inr ⟨⟨problem, h.symm⟩, ?_⟩
    rintro text rfl
    rw [Text.Utf8.decode_encode] at hd
    cases hd

theorem answerOf_encode (program : Text) (status : Int) (output errors : Text) :
    answerOf program (.finished status (Text.Utf8.encode output) (Text.Utf8.encode errors)) =
      .ok (.ok (status, output.unifyNewlines, errors.unifyNewlines)) := by
  simp only [answerOf, readOutput_encode]
  rfl

/-- Text is all that can be read of what a program writes. -/
theorem answerOf_cases (program : Text) (result : CommandResult) :
    (∃ answer, answerOf program result = .ok answer) ∧ result.Legible ∨
      (∃ problem, answerOf program result = .error (.undecodable problem)) ∧ ¬ result.Legible := by
  cases result with
  | notStarted errno => exact .inl ⟨⟨_, rfl⟩, trivial⟩
  | finished status output errors =>
    rcases of_readOutput (rfl : readOutput output = _) with
      ⟨text, hout, hread⟩ | ⟨⟨problem, hread⟩, hout⟩
    · rcases of_readOutput (rfl : readOutput errors = _) with
        ⟨more, herr, hread'⟩ | ⟨⟨problem, hread'⟩, herr⟩
      · refine .inl ⟨⟨.ok (status, text.unifyNewlines, more.unifyNewlines), ?_⟩, ⟨text, hout⟩, more,
          herr⟩
        simp only [answerOf, hread, hread']
        rfl
      · refine .inr ⟨⟨problem, ?_⟩, fun h => h.2.elim herr⟩
        simp only [answerOf, hread, hread']
        rfl
    · refine .inr ⟨⟨problem, ?_⟩, fun h => h.1.elim hout⟩
      simp only [answerOf, hread]
      rfl

theorem answerOf_of_legible (program : Text) (h : result.Legible) :
    ∃ answer, answerOf program result = .ok answer := by
  rcases answerOf_cases program result with ⟨hok, -⟩ | ⟨-, hnot⟩
  · exact hok
  · exact absurd h hnot

theorem of_answerOf_error (h : answerOf program result = .error e) :
    (∃ problem, e = .undecodable problem) ∧ ¬ result.Legible := by
  rcases answerOf_cases program result with ⟨⟨answer, hok⟩, -⟩ | ⟨⟨problem, he⟩, hnot⟩
  · rw [h] at hok
    cases hok
  · rw [h] at he
    cases he
    exact ⟨⟨problem, rfl⟩, hnot⟩

/-- The world once a program has been run. -/
def asked (program : Text) (arguments : List Text) (w : World) : World :=
  { w with
    events := w.events ++ [.command (program :: arguments)]
    commands := (take? program w.commands).2 }

theorem runCommand_apply (h : ∀ word ∈ program :: arguments, '\x00' ∉ word) (w : World) :
    runCommand program arguments w = (w.answerOf program, asked program arguments w) := by
  have hclean : ((program :: arguments).any fun word => '\x00' ∈ word) = false := by
    rw [List.any_eq_false]
    intro word hword
    simpa using h word hword
  have hcheck : checkCommand (program :: arguments) w = (.ok (), w) := by
    rw [checkCommand, hclean]
    rfl
  rw [runCommand, bind_ok hcheck]
  exact (ofExcept_apply _ _).trans rfl

/-- A command with a null character in it is not run. -/
theorem runCommand_null (h : ∃ word ∈ program :: arguments, '\x00' ∈ word) (w : World) :
    runCommand program arguments w = (.error (.value .nullInPath), w) := by
  have hnull : ((program :: arguments).any fun word => '\x00' ∈ word) = true := by
    rw [List.any_eq_true]
    simpa using h
  have hcheck : checkCommand (program :: arguments) w = (.error (.value .nullInPath), w) := by
    rw [checkCommand, hnull]
    rfl
  rw [runCommand, bind_error hcheck]

/-- Either a command is not run, or it is and its next result is read. -/
theorem of_runCommand {r : Except Failure (Except OsError (Int × Text × Text))}
    (h : runCommand program arguments w = (r, v)) :
    ((∃ word ∈ program :: arguments, '\x00' ∈ word) ∧ r = .error (.value .nullInPath) ∧ v = w) ∨
      r = w.answerOf program ∧ v = asked program arguments w := by
  by_cases hnull : ∃ word ∈ program :: arguments, '\x00' ∈ word
  · rw [runCommand_null hnull] at h
    cases h
    exact .inl ⟨hnull, rfl, rfl⟩
  · rw [runCommand_apply (by simpa using hnull)] at h
    cases h
    exact .inr ⟨rfl, rfl⟩

theorem runCommand_within (h : Part.results program ∈ parts) (arguments : List Text) :
    Within parts (runCommand program arguments) := by
  intro w
  rcases hrun : runCommand program arguments w with ⟨r, v⟩
  rcases of_runCommand hrun with ⟨-, -, rfl⟩ | ⟨-, rfl⟩
  · exact World.Frame.refl parts _
  · refine ⟨fun _ => rfl, fun _ => rfl, fun _ _ => rfl, fun other hother => ?_, fun _ h => h,
      List.prefix_refl _, rfl, rfl⟩
    have hne : other ≠ program := by
      rintro rfl
      exact hother h
    have hsame := take?_of_ne hne w.commands
    exact congrArg (Option.getD · w.otherResult) hsame

theorem fetch_within (url : Text) (authorization : Option Text) (timeout : Int)
    (verify : Verification) : Within parts (fetch url authorization timeout verify) :=
  fun w => World.Frame.beside parts w _ w.draws _

theorem drawBelow_within (bound : Int) : Within parts (drawBelow bound) :=
  fun w => World.Frame.beside parts w w.replies _ _

end Outside
end NfsVolume
