import NfsVolume.World.Path
import NfsVolume.Proofs.Text.Split
import NfsVolume.Proofs.Text.Strip
import NfsVolume.Proofs.Text.Utf8

/-! A name joined to a directory: its parts, and the directory that is cut from it again. -/
namespace NfsVolume.Path

open Text

theorem parts_append_slash (a b : Text) : parts (a ++ '/' :: b) = parts a ++ parts b := by
  simp only [parts, splitOn_append_cons, List.filter_append]

theorem parts_nil : parts [] = [] := by decide

theorem parts_of_notMem {name : Text} (hne : name ≠ []) (h : '/' ∉ name) : parts name = [name] := by
  have hempty : name.isEmpty = false := by simpa using hne
  simp [parts, splitOn_of_notMem h, hempty]

theorem parts_slashes {slashes : Text} (h : slashes.all (· = '/') = true) : parts slashes = [] := by
  induction slashes with
  | nil => exact parts_nil
  | cons c rest ih =>
    simp only [List.all_cons, Bool.and_eq_true, decide_eq_true_eq] at h
    obtain ⟨rfl, hrest⟩ := h
    have := parts_append_slash [] rest
    rw [List.nil_append, parts_nil, List.nil_append] at this
    rw [this, ih hrest]

theorem parts_append_slashes {slashes : Text} (a : Text) (h : slashes.all (· = '/') = true) :
    parts (a ++ slashes) = parts a := by
  cases slashes with
  | nil => rw [List.append_nil]
  | cons c rest =>
    simp only [List.all_cons, Bool.and_eq_true, decide_eq_true_eq] at h
    obtain ⟨rfl, hrest⟩ := h
    rw [parts_append_slash, parts_slashes hrest, List.append_nil]

theorem endsInSlash_iff {path : Text} : endsInSlash path = true ↔ ∃ rest, path = rest ++ ['/'] := by
  simp [endsInSlash, List.getLast?_eq_some_iff]

/-- A name that is one part of a path. -/
structure IsPart (name : Text) : Prop where
  ne_nil : name ≠ []
  slash : '/' ∉ name

variable {directory name : Text}

theorem IsPart.not_absolute (h : IsPart name) : isAbsolute name = false := by
  cases name with
  | nil => exact absurd rfl h.ne_nil
  | cons c rest =>
    have hc : c ≠ '/' := fun hc => h.slash (hc ▸ List.mem_cons_self)
    simpa [isAbsolute] using hc

/-- Between a directory and a name there is one slash at least. -/
theorem join_cases (hd : directory ≠ []) (hn : IsPart name) :
    (endsInSlash directory = true ∧ join directory name = directory ++ name) ∨
      (endsInSlash directory = false ∧ join directory name = directory ++ '/' :: name) := by
  have hempty : directory.isEmpty = false := by simpa using hd
  unfold join
  rw [hn.not_absolute, hempty]
  cases hs : endsInSlash directory with
  | true => exact .inl ⟨rfl, by simp⟩
  | false => exact .inr ⟨rfl, by simp⟩

theorem parts_join (hd : directory ≠ []) (hn : IsPart name) :
    parts (join directory name) = parts directory ++ [name] := by
  rcases join_cases hd hn with ⟨hs, hj⟩ | ⟨-, hj⟩
  · obtain ⟨rest, rfl⟩ := endsInSlash_iff.mp hs
    rw [hj, List.append_assoc, List.singleton_append, parts_append_slash, parts_append_slash,
      parts_nil, List.append_nil, parts_of_notMem hn.ne_nil hn.slash]
  · rw [hj, parts_append_slash, parts_of_notMem hn.ne_nil hn.slash]

theorem isAbsolute_append {a : Text} (ha : a ≠ []) (b : Text) :
    isAbsolute (a ++ b) = isAbsolute a := by
  cases a with
  | nil => exact absurd rfl ha
  | cons c rest => rfl

theorem isAbsolute_join (hd : directory ≠ []) (hn : IsPart name) :
    isAbsolute (join directory name) = isAbsolute directory := by
  rcases join_cases hd hn with ⟨-, hj⟩ | ⟨-, hj⟩
  · rw [hj, isAbsolute_append hd]
  · rw [hj, isAbsolute_append hd]

theorem join_ne_nil (hd : directory ≠ []) (hn : IsPart name) : join directory name ≠ [] := by
  rcases join_cases hd hn with ⟨-, hj⟩ | ⟨-, hj⟩
  · rw [hj]
    simp [hd]
  · rw [hj]
    simp

theorem endsInSlash_join (hd : directory ≠ []) (hn : IsPart name) :
    endsInSlash (join directory name) = false := by
  have hlast : (join directory name).getLast? = name.getLast? := by
    rcases join_cases hd hn with ⟨-, hj⟩ | ⟨-, hj⟩
    · rw [hj, List.getLast?_append]
      cases hl : name.getLast? with
      | none => exact absurd (List.getLast?_eq_none_iff.mp hl) hn.ne_nil
      | some c => rfl
    · rw [hj, List.getLast?_append, List.getLast?_cons]
      cases hl : name.getLast? with
      | none => exact absurd (List.getLast?_eq_none_iff.mp hl) hn.ne_nil
      | some c => rfl
  cases hs : endsInSlash (join directory name) with
  | false => rfl
  | true =>
    simp only [endsInSlash, hlast, decide_eq_true_eq] at hs
    exact absurd (List.mem_of_getLast? hs) hn.slash

theorem mem_join {c : Char} (hc : c ≠ '/') (h : c ∈ join directory name) :
    c ∈ directory ∨ c ∈ name := by
  unfold join at h
  split at h
  · exact .inr h
  · split at h
    · exact List.mem_append.mp h
    · rcases List.mem_append.mp h with h | h
      · exact .inl h
      · rcases List.mem_cons.mp h with h | h
        · exact absurd h hc
        · exact .inr h

theorem size_append (a b : Text) : size (a ++ b) = size a + size b := by
  simp [size, Utf8.encode_append]

theorem size_join_ge (hd : directory ≠ []) (hn : IsPart name) :
    size directory + size name ≤ size (join directory name) := by
  rcases join_cases hd hn with ⟨-, hj⟩ | ⟨-, hj⟩
  · rw [hj, size_append]
  · have hslash : size ('/' :: name) = size ['/'] + size name := size_append ['/'] name
    rw [hj, size_append, hslash]
    omega

theorem mem_split {c : Char} {path : Text} (h : c ∈ (split path).1) : c ∈ path := by
  unfold split at h
  dsimp only at h
  split at h
  · exact List.mem_of_mem_take h
  · rw [dropEndWhile, List.mem_reverse] at h
    exact List.mem_of_mem_take (List.mem_reverse.mp ((List.dropWhile_suffix _).subset h))

/-- The directory is cut from the path again, up to slashes at its end. -/
theorem split_join (hd : directory ≠ []) (hn : IsPart name) :
    ∃ head, split (join directory name) = (head, name) ∧
      (head = directory ∨ (head ≠ [] ∧ endsInSlash head = false ∧
        ∃ slashes, directory = head ++ slashes ∧ slashes.all (· = '/') = true)) := by
  have hcut {before : Text} (hb : endsInSlash before = true) :
      split (before ++ name) =
        (if before.all (· = '/') then before else dropEndWhile (· = '/') before, name) := by
    obtain ⟨rest, rfl⟩ := endsInSlash_iff.mp hb
    have hname : (((rest ++ ['/']) ++ name).reverse.takeWhile (· ≠ '/')).reverse = name := by
      have hall : ∀ c ∈ name.reverse, (decide (c ≠ '/')) = true := by
        intro c hc
        have : c ≠ '/' := fun he => hn.slash (he ▸ List.mem_reverse.mp hc)
        simpa using this
      rw [List.reverse_append, List.takeWhile_append_of_pos hall]
      simp
    have hhead : ((rest ++ ['/']) ++ name).take
        (((rest ++ ['/']) ++ name).length - name.length) = rest ++ ['/'] := by
      rw [List.length_append, Nat.add_sub_cancel, List.take_left]
    simp only [split, hname, hhead]
  rcases join_cases hd hn with ⟨hs, hj⟩ | ⟨hs, hj⟩
  · rw [hj, hcut hs]
    by_cases hall : directory.all (· = '/') = true
    · rw [if_pos hall]
      exact ⟨directory, rfl, .inl rfl⟩
    · rw [if_neg hall]
      obtain ⟨dropped, hsplit, hdropped, hlast⟩ := dropEndWhile_spec (· = '/') directory
      refine ⟨_, rfl, .inr ⟨?_, ?_, dropped, hsplit, hdropped⟩⟩
      · intro hnil
        rw [hnil, List.nil_append] at hsplit
        exact hall (hsplit ▸ hdropped)
      · cases hl : (dropEndWhile (· = '/') directory).getLast? with
        | none => simp [endsInSlash, hl]
        | some c => simpa [endsInSlash, hl] using hlast c hl
  · have hlong : endsInSlash (directory ++ ['/']) = true := endsInSlash_iff.mpr ⟨directory, rfl⟩
    have hback : dropEndWhile (· = '/') (directory ++ ['/']) = directory := by
      obtain ⟨before, last, rfl⟩ := (List.eq_nil_or_concat directory).resolve_left hd
      have hc : last ≠ '/' := by simpa [endsInSlash] using hs
      simp [dropEndWhile, hc]
    have hall : ¬ (directory ++ ['/']).all (· = '/') = true := by
      obtain ⟨before, last, rfl⟩ := (List.eq_nil_or_concat directory).resolve_left hd
      have hc : last ≠ '/' := by simpa [endsInSlash] using hs
      simp [hc]
    have hj' : join directory name = (directory ++ ['/']) ++ name := by simp [hj]
    rw [hj', hcut hlong, if_neg hall, hback]
    exact ⟨directory, rfl, .inl rfl⟩

end NfsVolume.Path
