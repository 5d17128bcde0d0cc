import NfsVolume.Proofs.Group.Annotation
import NfsVolume.Proofs.Text.Lines
import NfsVolume.Proofs.World.Circumstances
import NfsVolume.Proofs.World.Files

/-! The file of a pod's annotations: what is written in it for a key is found for that key, whatever
is written for others. -/
namespace NfsVolume.Group

open Files Text

/-- A key that no separator of the file is in. -/
structure IsKey (key : Text) : Prop where
  single : IsSingle key
  plain : '=' ∉ key

variable {key other value : Text} {pairs : List (Text × Text)} {lines : List Text}

theorem annotationLine_ne_nil (key value : Text) : annotationLine key value ≠ [] := by
  simp [annotationLine]

theorem annotationLine_single (hkey : IsSingle key) (hvalue : IsSingle value) :
    IsSingle (annotationLine key value) :=
  ((hkey.append ⟨by decide, by decide⟩).append hvalue).append ⟨by decide, by decide⟩

/-- A line tells its key. -/
theorem eq_of_annotationLine_eq {value' : Text} (hkey : IsKey key) (hother : IsKey other)
    (h : annotationLine key value = annotationLine other value') : key = other := by
  have hcut {k v : Text} (hk : IsKey k) :
      cut? '=' (annotationLine k v) = some (k, '"' :: (v ++ ['"'])) := by
    have hline : annotationLine k v = k ++ '=' :: ('"' :: (v ++ ['"'])) := by
      simp [annotationLine]
    rw [hline, cut?_append_cons _ _ hk.plain]
  have hsame := hcut (v := value) hkey
  rw [h, hcut hother] at hsame
  exact (Prod.mk.inj (Option.some.inj hsame)).1.symm

theorem names_lookup (hkey : IsKey key) (hkeys : ∀ p ∈ pairs, IsKey p.1) :
    Names key (pairs.map fun p => annotationLine p.1 p.2) ((pairs.lookup key).getD []) := by
  induction pairs with
  | nil => exact .none
  | cons p rest ih =>
    obtain ⟨other, value⟩ := p
    have hrest := ih fun p hp => hkeys p (List.mem_cons_of_mem _ hp)
    by_cases hsame : key = other
    · subst hsame
      simpa using Names.here value _
    · have hno : ∀ value', annotationLine other value ≠ annotationLine key value' := by
        intro value' hline
        exact hsame (eq_of_annotationLine_eq (hkeys _ List.mem_cons_self) hkey hline).symm
      rw [List.lookup_cons, beq_false_of_ne hsame]
      exact .later _ _ _ hno hrest

/-- Empty lines name nothing. -/
theorem Names.of_filter (h : Names key (lines.filter fun line => !line.isEmpty) value) :
    Names key lines value := by
  induction lines with
  | nil => exact h
  | cons line rest ih =>
    cases line with
    | nil => exact .later _ _ _ (fun other => (annotationLine_ne_nil key other).symm) (ih h)
    | cons c more =>
      have hfilter : (((c :: more) :: rest).filter fun line => !line.isEmpty) =
          (c :: more) :: rest.filter fun line => !line.isEmpty := rfl
      rw [hfilter] at h
      generalize hline : c :: more = line at h ⊢
      cases h with
      | here => exact .here _ _
      | later _ _ _ hno hrest => exact .later _ _ _ hno (ih hrest)

/-- From a file with a line for each pair, and empty lines between them, a key gets the value of the
first pair with that key. -/
theorem annotationValue_lined {content file : Text} {w : World} {place : Place} {mode : Nat}
    (hkey : IsKey key) (hkeys : ∀ p ∈ pairs, IsKey p.1) (hvalues : ∀ p ∈ pairs, IsSingle p.2)
    (hlines : (lines.filter fun line => !line.isEmpty) =
      pairs.map fun p => annotationLine p.1 p.2)
    (hcontent : Lined lines content) (hnull : '\x00' ∉ file)
    (hfile : w.files.resolve file = .ok (place, .file mode (Utf8.encode content)))
    (hread : (Node.file mode (Utf8.encode content)).mayRead = true) :
    annotationValue file key w = (.ok ((pairs.lookup key).getD []), w) := by
  have hsingle : ∀ line ∈ lines, IsSingle line := by
    intro line hline
    cases line with
    | nil => exact ⟨by simp, by simp⟩
    | cons c rest =>
      have hmem : (c :: rest) ∈ lines.filter fun line => !line.isEmpty :=
        List.mem_filter.mpr ⟨hline, rfl⟩
      rw [hlines] at hmem
      obtain ⟨p, hp, hline⟩ := List.mem_map.mp hmem
      rw [← hline]
      exact annotationLine_single (hkeys p hp).single (hvalues p hp)
  have hnames : Names key (splitOn '\n' content.unifyNewlines) ((pairs.lookup key).getD []) := by
    apply Names.of_filter
    rw [splitOn_of_lined hcontent hsingle, hlines]
    exact names_lookup hkey hkeys
  have hvalue : annotationIn content.unifyNewlines key = (pairs.lookup key).getD [] :=
    (names_annotationIn hkey.single.feed _).unique hnames
  rw [annotationValue, Run.bind_ok (readText_ok hnull hfile hread), hvalue]
  rfl

/-- Two keys, one of which begins with the other, and a value that looks like a line. -/
def podPairs : List (Text × Text) := [("ab", "1"), ("a", "ab=\"2\""), ("a", "3")]

def podContent : Text := "ab=\"1\"\r\n\na=\"ab=\"2\"\"\r\na=\"3\""

theorem annotationValue_lined_alike :
    Lined ["ab=\"1\"", "", "a=\"ab=\"2\"\"", "a=\"3\""] podContent ∧
      (annotationValue ['x'] ['a']
        (World.ofFiles ⟨[([['x']], .file 0o644 (Utf8.encode podContent))]⟩)).1 =
        .ok "ab=\"2\"" := by
  have hcontent : Lined ["ab=\"1\"", "", "a=\"ab=\"2\"\"", "a=\"3\""] podContent :=
    .line _ _ _ _ .returnFeed (.line _ _ _ _ .feed (.line _ _ _ _ .returnFeed
      (.last _ (by decide))))
  have hkeys : ∀ p ∈ podPairs, IsKey p.1 := by
    have hplain : ∀ p ∈ podPairs, '\n' ∉ p.1 ∧ '\r' ∉ p.1 ∧ '=' ∉ p.1 := by decide
    exact fun p hp => ⟨⟨(hplain p hp).1, (hplain p hp).2.1⟩, (hplain p hp).2.2⟩
  have hvalues : ∀ p ∈ podPairs, IsSingle p.2 := by
    have hsingle : ∀ p ∈ podPairs, '\n' ∉ p.2 ∧ '\r' ∉ p.2 := by decide
    exact fun p hp => ⟨(hsingle p hp).1, (hsingle p hp).2⟩
  have hkey : IsKey ['a'] := hkeys ("a", "3") (by decide)
  have hnull : '\x00' ∉ ['x'] := by decide
  have hvalue := annotationValue_lined hkey hkeys hvalues (by decide) hcontent hnull rfl rfl
    (w := World.ofFiles ⟨[([['x']], .file 0o644 (Utf8.encode podContent))]⟩)
  exact ⟨hcontent, by rw [hvalue]; rfl⟩

end NfsVolume.Group
