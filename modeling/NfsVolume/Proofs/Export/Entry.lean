import NfsVolume.Export.Entry
import NfsVolume.Text.Newline
import NfsVolume.Proofs.Text.Occurrence

/-! The entries of export files inside a longer text: which ids are found there, and when the
entry at the end is the only one of its kind. -/
namespace NfsVolume.Export

open Text

theorem newline_notMem_idLabel : '\n' ∉ idLabel := by decide

theorem return_notMem_idLabel : '\r' ∉ idLabel := by decide

theorem notMem_decimal {c : Char} (hc : c.isDigit = false) (n : Nat) : c ∉ decimal n := by
  intro h
  rw [isDigit_of_mem_decimal h] at hc
  cases hc

section prefixes
variable {m s a b : Text} {x : Char}

theorem prefix_append_cons_iff (hx : x ∉ m) : m <+: a ++ x :: b ↔ m <+: a := by
  constructor
  · intro h
    rcases List.prefix_or_prefix_of_prefix h (List.prefix_append a (x :: b)) with h' | ⟨l, rfl⟩
    · exact h'
    · cases l with
      | nil => simp
      | cons c rest =>
        obtain rfl := (List.cons_prefix_cons.mp (List.prefix_append_right_inj a |>.mp h)).1
        exact absurd (List.mem_append_right a List.mem_cons_self) hx
  · exact fun h => h.trans (List.prefix_append a _)

/-- Where a text without line ends begins does not depend on how line ends are written. -/
theorem prefix_unifyNewlines_iff (hn : '\n' ∉ m) (hr : '\r' ∉ m) :
    m <+: unifyNewlines s ↔ m <+: s := by
  fun_induction unifyNewlines s generalizing m with
  | case1 => rfl
  | case2 rest ih =>
    cases m with
    | nil => simp
    | cons c m =>
      simp only [List.cons_prefix_cons]
      constructor
      · rintro ⟨rfl, -⟩
        exact absurd List.mem_cons_self hn
      · rintro ⟨rfl, -⟩
        exact absurd List.mem_cons_self hr
  | case3 c rest _ ih =>
    cases m with
    | nil => simp
    | cons d m =>
      have htail := ih (m := m) (fun h => hn (List.mem_cons_of_mem d h))
        fun h => hr (List.mem_cons_of_mem d h)
      simp only [List.cons_prefix_cons, htail]
      by_cases hc : c = '\r'
      · subst hc
        constructor
        · rintro ⟨rfl, -⟩
          exact absurd List.mem_cons_self hn
        · rintro ⟨rfl, -⟩
          exact absurd List.mem_cons_self hr
      · rw [if_neg hc]

end prefixes

/-- An id as it is written: its label, its digits and its end. -/
def labelled (digits : Text) : Text := idLabel ++ digits ++ [idEnd]

theorem idHere?_eq_some {s digits : Text} :
    idHere? s = some digits ↔
      digits ≠ [] ∧ (∀ c ∈ digits, c.isDigit = true) ∧ labelled digits <+: s := by
  constructor
  · intro h
    unfold idHere? at h
    split at h
    · cases h
    · rename_i rest hrest
      simp only at h
      split at h
      · rename_i hcond
        obtain rfl := Option.some.inj h
        simp only [Bool.and_eq_true, Bool.not_eq_true', List.isEmpty_eq_false_iff,
          decide_eq_true_eq] at hcond
        obtain ⟨hne, hend⟩ := hcond
        refine ⟨hne, fun c hc => List.all_eq_true.mp List.all_takeWhile c hc, ?_⟩
        rw [eq_append_of_after? hrest, labelled, List.append_assoc]
        refine List.prefix_append_right_inj idLabel |>.mpr ?_
        obtain ⟨behind, hbehind⟩ := List.head?_eq_some_iff.mp hend
        refine ⟨behind, ?_⟩
        rw [List.append_assoc, List.singleton_append, ← hbehind, List.takeWhile_append_dropWhile]
      · cases h
  · rintro ⟨hne, hdigits, ⟨behind, rfl⟩⟩
    have hstop : Char.isDigit idEnd = false := by decide
    unfold idHere?
    simp only [labelled, List.append_assoc, after?_append]
    rw [List.takeWhile_append_of_pos hdigits, List.dropWhile_append_of_pos hdigits]
    simp [hstop, hne]

theorem mem_idsIn {s digits : Text} :
    digits ∈ idsIn s ↔
      digits ≠ [] ∧ (∀ c ∈ digits, c.isDigit = true) ∧ labelled digits <:+: s := by
  induction s with
  | nil => simp [idsIn, labelled]
  | cons c rest ih =>
    have hstep : digits ∈ idsIn (c :: rest) ↔
        idHere? (c :: rest) = some digits ∨ digits ∈ idsIn rest := by
      simp only [idsIn]
      cases idHere? (c :: rest) with
      | none => simp
      | some d => simp [eq_comm]
    rw [hstep, ih, idHere?_eq_some, List.infix_cons_iff]
    tauto

theorem idsIn_eq_nil {s : Text} (h : ¬ idLabel <:+: s) : idsIn s = [] := by
  rw [List.eq_nil_iff_forall_not_mem]
  intro digits hd
  have hin := (mem_idsIn.mp hd).2.2
  rw [labelled, List.append_assoc] at hin
  exact h ((List.prefix_append idLabel _).isInfix.trans hin)

theorem notMem_labelled {c : Char} (hc : c.isDigit = false) (hl : c ∉ idLabel) (he : c ≠ idEnd)
    {digits : Text} (hd : ∀ c ∈ digits, c.isDigit = true) : c ∉ labelled digits := by
  simp only [labelled, List.mem_append, List.mem_singleton, not_or]
  refine ⟨⟨hl, fun h => ?_⟩, he⟩
  rw [hd c h] at hc
  cases hc

theorem idHere?_congr {s t : Text}
    (h : ∀ m : Text, '\n' ∉ m → '\r' ∉ m → (m <+: s ↔ m <+: t)) : idHere? s = idHere? t := by
  apply Option.ext
  intro digits
  rw [idHere?_eq_some, idHere?_eq_some]
  refine and_congr_right fun _ => and_congr_right fun hd => h _ ?_ ?_
  · exact notMem_labelled (by decide) newline_notMem_idLabel (by decide) hd
  · exact notMem_labelled (by decide) return_notMem_idLabel (by decide) hd

/-- No id runs across the end of a line. -/
theorem idsIn_append_newline (a b : Text) : idsIn (a ++ '\n' :: b) = idsIn a ++ idsIn b := by
  induction a with
  | nil =>
    have hnone : idHere? ('\n' :: b) = none := by
      have := idHere?_congr (s := '\n' :: b) (t := []) fun m hn _ =>
        prefix_append_cons_iff (a := []) hn
      rw [this]
      decide
    simp [idsIn, hnone]
  | cons c rest ih =>
    have hhere : idHere? (c :: (rest ++ '\n' :: b)) = idHere? (c :: rest) :=
      idHere?_congr fun m hn _ => prefix_append_cons_iff (a := c :: rest) hn
    simp only [List.cons_append, idsIn, hhere, ih]
    cases idHere? (c :: rest) <;> rfl

/-- Reading a file with its line ends unified finds the same ids. -/
theorem idsIn_unifyNewlines (s : Text) : idsIn (unifyNewlines s) = idsIn s := by
  fun_induction unifyNewlines s with
  | case1 => rfl
  | case2 rest ih =>
    have hbreak := idsIn_append_newline [] (unifyNewlines rest)
    have hrest := idsIn_append_newline ['\r'] rest
    have hreturn : idsIn ['\r'] = [] := by decide
    rw [hreturn] at hrest
    exact hbreak.trans (ih.trans hrest.symm)
  | case3 c rest hc ih =>
    have hhere : idHere? ((if c = '\r' then '\n' else c) :: unifyNewlines rest) =
        idHere? (c :: rest) := by
      have hu : (if c = '\r' then '\n' else c) :: unifyNewlines rest =
          unifyNewlines (c :: rest) := by
        rw [unifyNewlines]
        exact hc
      rw [hu]
      exact idHere?_congr fun m hn hr => prefix_unifyNewlines_iff hn hr
    simp only [idsIn, hhere, ih]

/-- The ids in a text as numbers. -/
def ids (s : Text) : List Nat := (idsIn s).map fun digits => Nat.ofDigitChars 10 digits 0

theorem mem_ids_of_labelled {s digits : Text} (hne : digits ≠ [])
    (hd : ∀ c ∈ digits, c.isDigit = true) (h : labelled digits <:+: s) :
    Nat.ofDigitChars 10 digits 0 ∈ ids s :=
  List.mem_map.mpr ⟨digits, mem_idsIn.mpr ⟨hne, hd, h⟩, rfl⟩

theorem greatest_ok {best n : Nat} {all : List Text} (h : greatest best all = .ok n) :
    best ≤ n ∧ (∀ digits ∈ all, Nat.ofDigitChars 10 digits 0 ≤ n) ∧
      (n = best ∨ ∃ digits ∈ all, Nat.ofDigitChars 10 digits 0 = n) := by
  induction all generalizing best with
  | nil =>
    cases h
    simp
  | cons digits rest ih =>
    unfold greatest at h
    unfold idValue at h
    split at h
    · cases h
    · obtain ⟨hbest, hrest, hn⟩ := ih h
      refine ⟨by omega, ?_, ?_⟩
      · intro d hd
        rcases List.mem_cons.mp hd with rfl | hd
        · omega
        · exact hrest d hd
      · rcases hn with hn | ⟨d, hd, hn⟩
        · by_cases hle : best ≤ Nat.ofDigitChars 10 digits 0
          · exact .inr ⟨digits, List.mem_cons_self, by omega⟩
          · exact .inl (by omega)
        · exact .inr ⟨d, List.mem_cons_of_mem _ hd, hn⟩

/-- The last id is the greatest one, and zero if there is none. -/
theorem lastId_ok {s : Text} {n : Nat} (h : lastId s = .ok n) :
    (∀ id ∈ ids s, id ≤ n) ∧ (n = 0 ∨ n ∈ ids s) := by
  obtain ⟨-, hall, hn⟩ := greatest_ok h
  constructor
  · intro id hid
    obtain ⟨digits, hd, rfl⟩ := List.mem_map.mp hid
    exact hall digits hd
  · rcases hn with rfl | ⟨digits, hd, rfl⟩
    · exact .inl rfl
    · exact .inr (List.mem_map.mpr ⟨digits, hd, rfl⟩)

/-- The greatest id in a text, or zero if there is none, however many digits it has. -/
def largestId (text : Text) : Nat := (ids text).foldl max 0

theorem greatest_of_short {best : Nat} {all : List Text}
    (h : ∀ digits ∈ all, digits.length ≤ Integer.maxDigits) :
    greatest best all =
      .ok ((all.map fun digits => Nat.ofDigitChars 10 digits 0).foldl max best) := by
  induction all generalizing best with
  | nil => rfl
  | cons digits rest ih =>
    have hshort : ¬ Integer.maxDigits < digits.length := Nat.not_lt.mpr (h digits List.mem_cons_self)
    have hrest : ∀ best, greatest best rest = _ := fun best =>
      ih fun d hd => h d (List.mem_cons_of_mem _ hd)
    unfold greatest
    rw [idValue, if_neg hshort, List.map_cons, List.foldl_cons, ← hrest]
    rfl

/-- Where no id has too many digits, the last one is found. -/
theorem lastId_of_short {text : Text}
    (h : ∀ digits ∈ idsIn text, digits.length ≤ Integer.maxDigits) :
    lastId text = .ok (largestId text) := greatest_of_short h

theorem greatest_error {best : Nat} {all : List Text} {e : Integer.ReadError}
    (h : greatest best all = .error e) :
    ∃ digits ∈ all, Integer.maxDigits < digits.length ∧ e = .tooManyDigits digits.length := by
  induction all generalizing best with
  | nil => cases h
  | cons digits rest ih =>
    unfold greatest idValue at h
    split at h
    · rename_i hlong
      cases h
      exact ⟨digits, List.mem_cons_self, hlong, rfl⟩
    · obtain ⟨d, hd, hlong⟩ := ih h
      exact ⟨d, List.mem_cons_of_mem _ hd, hlong⟩

/-- There is no last id only where one has too many digits. -/
theorem lastId_error {s : Text} {e : Integer.ReadError} (h : lastId s = .error e) :
    ∃ digits ∈ idsIn s, Integer.maxDigits < digits.length ∧ e = .tooManyDigits digits.length :=
  greatest_error h

/-- What stands before the id in a block, from the end of the line before. -/
def markLabel : Text := "\n\t" ++ idLabel

/-- The line of a block with its id, from the end of the line before. -/
def idMark (id : Nat) : Text := '\n' :: '\t' :: labelled (decimal id)

/-- What follows the id in a block. -/
def blockRest (id : Nat) (path : Text) : Text :=
  "\n\tPath = " ++ (path ++ ';' :: ("\n\tPseudo = " ++ (path ++ ';' ::
    ("\n\tAccess_Type = RW;\n\tSquash = root_id_squash;\n\tSecType = sys;\n\tFilesystem_id = " ++
      (decimal id ++ '.' :: (decimal id ++
        (";\n\tFSAL \x7b\n\t\tName = VFS;\n\t\x7d\n\x7d\n" : Text)))))))

theorem ganeshaBlock_eq (id : Nat) (path : Text) :
    ganeshaBlock id path = '\n' :: (("EXPORT" : Text) ++ '\n' :: (("\x7b" : Text) ++
      (idMark id ++ blockRest id path))) := by
  have hid : integer id = decimal id := rfl
  unfold ganeshaBlock blockRest idMark labelled idEnd
  simp [hid]

theorem digit_of_mem_decimal (id : Nat) : ∀ c ∈ decimal id, c.isDigit = true :=
  fun _ => isDigit_of_mem_decimal

theorem newline_notMem_labelled (id : Nat) : '\n' ∉ labelled (decimal id) :=
  notMem_labelled (by decide) newline_notMem_idLabel (by decide) (digit_of_mem_decimal id)

theorem newline_notMem_mark (id : Nat) : '\n' ∉ '\t' :: labelled (decimal id) := by
  simpa using newline_notMem_labelled id

theorem mem_ids_of_idMark {id : Nat} {s : Text} (h : idMark id <:+: s) : id ∈ ids s := by
  have hsuffix : labelled (decimal id) <:+ idMark id := ⟨['\n', '\t'], rfl⟩
  have := mem_ids_of_labelled (decimal_ne_nil id) (digit_of_mem_decimal id)
    (hsuffix.isInfix.trans h)
  rwa [ofDigitChars_decimal] at this

theorem idMark_infix_ganeshaBlock (id : Nat) (path : Text) : idMark id <:+: ganeshaBlock id path := by
  rw [ganeshaBlock_eq]
  exact ⟨'\n' :: (("EXPORT" : Text) ++ '\n' :: ("\x7b" : Text)), blockRest id path, by simp⟩

/-- A line that is not begun by a text leaves it to what stands before or behind. -/
theorem infix_of_newline_infix_line {u l a b : Text} (hu : '\n' ∉ u) (hl : '\n' ∉ l)
    (hstart : ¬ u <+: l) (h : '\n' :: u <:+: a ++ '\n' :: (l ++ '\n' :: b)) :
    '\n' :: u <:+: a ∨ '\n' :: u <:+: '\n' :: b := by
  rcases infix_of_cons_infix_append_cons hu h with h | h | h
  · exact .inl h
  · exact absurd ((prefix_append_cons_iff hu).mp h) hstart
  · rcases infix_of_cons_infix_append_cons hu h with h | h | h
    · exact absurd (h.subset List.mem_cons_self) hl
    · exact .inr (List.cons_prefix_cons.mpr ⟨rfl, h⟩).isInfix
    · exact .inr (List.infix_cons h)

/-- What is shown behind a label on a line of its own is no part of the lines above it in a block. -/
theorem infix_of_mark_infix {shown text b : Text} (hs : '\n' ∉ shown)
    (h : '\n' :: '\t' :: labelled shown <:+: text ++
      '\n' :: (("EXPORT" : Text) ++ '\n' :: (("\x7b" : Text) ++ '\n' :: b))) :
    '\n' :: '\t' :: labelled shown <:+: text ∨ '\n' :: '\t' :: labelled shown <:+: '\n' :: b := by
  have hu : '\n' ∉ '\t' :: labelled shown := by
    simpa [labelled, newline_notMem_idLabel, hs] using (by decide : '\n' ≠ idEnd)
  have hstart {l : Text} (hl : l.head? ≠ some '\t') : ¬ '\t' :: labelled shown <+: l := by
    rintro ⟨t, rfl⟩
    exact hl rfl
  rcases infix_of_newline_infix_line hu (by decide) (hstart (by decide)) h with h | h
  · exact .inl h
  · rcases infix_of_newline_infix_line (a := []) hu (by decide) (hstart (by decide)) h with h | h
    · exact absurd (List.eq_nil_of_infix_nil h) (List.cons_ne_nil _ _)
    · exact .inr h

theorem newline_notMem_integer (id : Int) : '\n' ∉ integer id := by
  cases id with
  | ofNat n => exact notMem_decimal (by decide) n
  | negSucc n =>
    rw [integer, List.mem_cons, not_or]
    exact ⟨by decide, notMem_decimal (by decide) (n + 1)⟩

theorem ganeshaBlock_shows (id : Int) (path : Text) :
    ∃ rest, ganeshaBlock id path = ('\n' :: (("EXPORT" : Text) ++
      '\n' :: (("\x7b" : Text) ++ '\n' :: ('\t' :: idLabel ++ integer id)))) ++ idEnd :: rest := by
  generalize hid : integer id = shown
  refine ⟨'\n' :: (("\tPath = " : Text) ++ path ++ ";\n" ++ "\tPseudo = " ++ path ++ ";\n" ++
    "\tAccess_Type = RW;\n" ++ "\tSquash = root_id_squash;\n" ++ "\tSecType = sys;\n" ++
    "\tFilesystem_id = " ++ shown ++ "." ++ shown ++ ";\n" ++
    "\tFSAL \x7b\n\t\tName = VFS;\n\t\x7d\n" ++ "\x7d\n"), ?_⟩
  unfold ganeshaBlock idEnd
  simp [hid]

/-- A block does not begin in the text before it, unless its id is shown on a line of that. -/
theorem notBefore_block {id : Int} {text : Text}
    (h : ¬ '\n' :: '\t' :: labelled (integer id) <:+: text) (path : Text) :
    NotBefore (ganeshaBlock id path) text := by
  obtain ⟨rest, hsplit⟩ := ganeshaBlock_shows id path
  rw [hsplit]
  apply notBefore_of_head
  intro hin
  have hmark : '\n' :: '\t' :: labelled (integer id) <:+: text ++ '\n' :: (("EXPORT" : Text) ++
      '\n' :: (("\x7b" : Text) ++ '\n' :: ('\t' :: idLabel ++ integer id))) := by
    refine List.IsInfix.trans ?_ hin
    exact ⟨'\n' :: (("EXPORT" : Text) ++ '\n' :: ("\x7b" : Text)), [], by simp [labelled]⟩
  rcases infix_of_mark_infix (newline_notMem_integer id) hmark with hm | hm
  · exact h hm
  · have := hm.length_le
    simp only [labelled, List.length_cons, List.length_append, List.length_nil,
      List.cons_append] at this
    omega

/-- A block can be erased from the end of a text that does not show its id anywhere. -/
theorem onlyAtEnd_block {id : Int} {text : Text} (h : ¬ labelled (integer id) <:+: text)
    (path : Text) : OnlyAtEnd (ganeshaBlock id path) text := by
  have hsuffix : labelled (integer id) <:+ '\n' :: '\t' :: labelled (integer id) :=
    ⟨['\n', '\t'], rfl⟩
  exact (notBefore_block (fun hmark => h (hsuffix.isInfix.trans hmark)) path).onlyAtEnd

/-- A block with a new id does not begin in the text before it. -/
theorem notBefore_ganeshaBlock {id : Nat} {text : Text} (h : ¬ idMark id <:+: text) (path : Text) :
    NotBefore (ganeshaBlock id path) text := @notBefore_block (Int.ofNat id) text h path

/-- A block with a new id can be erased from the end of a text again. -/
theorem onlyAtEnd_ganeshaBlock {id : Nat} {text : Text} (h : ¬ idMark id <:+: text) (path : Text) :
    OnlyAtEnd (ganeshaBlock id path) text := (notBefore_ganeshaBlock h path).onlyAtEnd

/-- Text that cannot begin inside another one is not found across its end. -/
theorem infix_of_infix_append {m a b : Text} (ha : ¬ m <:+: a)
    (hstart : ∀ k < m.length, ¬ m.take (k + 1) <:+ a) (h : m <:+: a ++ b) : m <:+: b := by
  rcases List.infix_append_iff.mp h with h | h | ⟨l₁, l₂, rfl, h₁, h₂⟩
  · exact absurd h ha
  · exact h
  · cases l₁ with
    | nil => exact h₂.isInfix
    | cons c rest =>
      have hlength : rest.length < (c :: rest ++ l₂).length := by
        simp only [List.length_append, List.length_cons]
        omega
      refine absurd ?_ (hstart rest.length hlength)
      have htake : (c :: rest ++ l₂).take (rest.length + 1) = c :: rest := by simp
      rwa [htake]

/-- What stands in a block behind the two lines that name its path. -/
def blockOptions (id : Nat) : Text :=
  "\tAccess_Type = RW;\n\tSquash = root_id_squash;\n\tSecType = sys;\n\tFilesystem_id = " ++
    (decimal id ++ '.' :: (decimal id ++
      (";\n\tFSAL \x7b\n\t\tName = VFS;\n\t\x7d\n\x7d\n" : Text)))

/-- What follows the id in a block names the path on two lines. -/
theorem blockRest_eq (id : Nat) (path : Text) :
    blockRest id path = ("\n\tPath = " : Text) ++ ((path ++ [idEnd]) ++ '\n' ::
      (("\tPseudo = " : Text) ++ ((path ++ [idEnd]) ++ '\n' :: blockOptions id))) := by
  unfold blockRest blockOptions idEnd
  simp

theorem capital_notMem_blockOptions (id : Nat) : 'E' ∉ blockOptions id := by
  have hdigits : 'E' ∉ decimal id := notMem_decimal (by decide) id
  unfold blockOptions
  simp only [List.mem_append, List.mem_cons, not_or]
  exact ⟨by decide, hdigits, by decide, hdigits, by decide⟩

/-- Behind the id of a block, its label can only be in the path. -/
theorem infix_path_of_infix_blockRest {m path : Text} {id : Nat} (hm : m = idLabel ∨ m = markLabel)
    (h : m <:+: blockRest id path) : m <:+: path := by
  have hend : idEnd ∉ m := by rcases hm with rfl | rfl <;> decide
  have hcap : 'E' ∈ m := by rcases hm with rfl | rfl <;> decide
  simp only [blockRest_eq, List.append_assoc, List.cons_append, List.nil_append] at h
  have hpath := infix_of_infix_append (by rcases hm with rfl | rfl <;> decide)
    (by rcases hm with rfl | rfl <;> decide) h
  rcases infix_of_infix_append_cons hend hpath with h | h
  · exact h
  · have hpseudo := infix_of_infix_append (a := "\n\tPseudo = ")
      (by rcases hm with rfl | rfl <;> decide) (by rcases hm with rfl | rfl <;> decide) h
    rcases infix_of_infix_append_cons hend hpseudo with h | h
    · exact h
    · rcases List.mem_cons.mp (h.subset hcap) with hbreak | hoptions
      · exact absurd hbreak (by decide)
      · exact absurd hoptions (capital_notMem_blockOptions id)

theorem labelled_prefix_injective {i j : Nat} {rest : Text} (h : labelled (decimal i) <+: rest)
    (hj : labelled (decimal j) <+: rest) : i = j := by
  have hi := idHere?_eq_some.mpr ⟨decimal_ne_nil i, digit_of_mem_decimal i, h⟩
  have hj := idHere?_eq_some.mpr ⟨decimal_ne_nil j, digit_of_mem_decimal j, hj⟩
  rw [hi] at hj
  exact decimal_injective (Option.some.inj hj)

/-- A block brings in the mark of its own id only. -/
theorem idMark_infix_append_ganeshaBlock {i j : Nat} {text path : Text}
    (hp : ¬ markLabel <:+: path) (h : idMark i <:+: text ++ ganeshaBlock j path) :
    idMark i <:+: text ∨ i = j := by
  rw [ganeshaBlock_eq] at h
  rcases infix_of_mark_infix (notMem_decimal (by decide) i) h with h | h
  · exact .inl h
  · refine .inr ?_
    have hrest : ¬ idMark i <:+: blockRest j path := by
      intro h
      have hlabel : markLabel <+: idMark i :=
        ⟨decimal i ++ [idEnd], by simp [markLabel, idMark, labelled]⟩
      exact hp (infix_path_of_infix_blockRest (.inr rfl) (hlabel.isInfix.trans h))
    rcases infix_of_cons_infix_append_cons (a := []) (newline_notMem_mark i) h with h | h | h
    · exact absurd (List.eq_nil_of_infix_nil h) (List.cons_ne_nil _ _)
    · exact labelled_prefix_injective (List.cons_prefix_cons.mp h).2 (List.prefix_append _ _)
    · -- the mark would begin at the end of the line of the other one
      have hrest' : blockRest j path = '\n' :: (blockRest j path).tail := rfl
      rw [List.append_eq, hrest'] at h
      rcases infix_of_cons_infix_append_cons (newline_notMem_mark i) h with h | h | h
      · exact absurd (h.subset List.mem_cons_self) (newline_notMem_mark j)
      · refine absurd ?_ hrest
        rw [hrest']
        exact (List.cons_prefix_cons.mpr ⟨rfl, h⟩).isInfix
      · refine absurd ?_ hrest
        rw [hrest']
        exact List.infix_cons h

/-- An id as it is written begins with a capital letter and has no other. -/
theorem labelled_eq_cons {digits : Text} (hd : ∀ c ∈ digits, c.isDigit = true) :
    ∃ rest, labelled digits = 'E' :: rest ∧ 'E' ∉ rest := by
  have hlabel : idLabel = 'E' :: idLabel.tail := by decide
  refine ⟨idLabel.tail ++ digits ++ [idEnd], ?_, fun hmem => ?_⟩
  · rw [labelled, hlabel]
    rfl
  · simp only [List.mem_append, or_assoc] at hmem
    rcases hmem with hmem | hmem | hmem
    · exact absurd hmem (by decide)
    · exact absurd (hd _ hmem) (by decide)
    · exact absurd hmem (by decide)

/-- No id begins where there is no capital letter of its label. -/
theorem idsIn_append_of_notMem {before : Text} (h : 'E' ∉ before) (behind : Text) :
    idsIn (before ++ behind) = idsIn behind := by
  induction before with
  | nil => rfl
  | cons c before ih =>
    rw [List.mem_cons, not_or] at h
    have hhere : idHere? (c :: (before ++ behind)) = none := by
      rw [Option.eq_none_iff_forall_ne_some]
      intro digits hsome
      obtain ⟨-, hd, hprefix⟩ := idHere?_eq_some.mp hsome
      obtain ⟨rest, hcons, -⟩ := labelled_eq_cons hd
      rw [hcons] at hprefix
      exact h.1 (List.cons_prefix_cons.mp hprefix).1
    simp only [List.cons_append, idsIn, hhere, ih h.2]

theorem idsIn_labelled {digits : Text} (hne : digits ≠ []) (hd : ∀ c ∈ digits, c.isDigit = true) :
    idsIn (labelled digits) = [digits] := by
  have hhere : idHere? (labelled digits) = some digits :=
    idHere?_eq_some.mpr ⟨hne, hd, List.prefix_refl _⟩
  obtain ⟨rest, hcons, hrest⟩ := labelled_eq_cons hd
  have hnone : idsIn rest = [] :=
    idsIn_eq_nil fun h => hrest (h.subset (show 'E' ∈ idLabel by decide))
  rw [hcons] at hhere ⊢
  simp only [idsIn, hhere, hnone]

theorem idsIn_line {before line : Text} (h : 'E' ∉ before) (behind : Text) :
    idsIn (before ++ (line ++ '\n' :: behind)) = idsIn line ++ idsIn behind := by
  rw [idsIn_append_of_notMem h, idsIn_append_newline]

theorem idsIn_blockOptions (id : Nat) : idsIn (blockOptions id) = [] :=
  idsIn_eq_nil fun h =>
    capital_notMem_blockOptions id (h.subset (show 'E' ∈ idLabel by decide))

/-- Behind its own id, a block shows what the text of its path shows, twice. -/
theorem idsIn_blockRest (id : Nat) (path : Text) :
    idsIn (blockRest id path) = idsIn (path ++ [idEnd]) ++ idsIn (path ++ [idEnd]) := by
  have hpath : 'E' ∉ ("\n\tPath = " : Text) := by decide
  have hpseudo : 'E' ∉ ("\tPseudo = " : Text) := by decide
  rw [blockRest_eq]
  generalize path ++ [idEnd] = line
  rw [idsIn_line hpath, idsIn_line hpseudo, idsIn_blockOptions, List.append_nil]

/-- A block adds its own id, and behind it what the text of its path shows, twice. -/
theorem idsIn_append_block (id : Nat) (path text : Text) :
    idsIn (text ++ ganeshaBlock id path) =
      idsIn text ++ decimal id :: (idsIn (path ++ [idEnd]) ++ idsIn (path ++ [idEnd])) := by
  have hline : blockRest id path = '\n' :: (blockRest id path).tail := rfl
  have htail : idsIn (blockRest id path).tail = idsIn (blockRest id path) := by
    have hbreak := idsIn_append_newline [] (blockRest id path).tail
    rw [List.nil_append, ← hline] at hbreak
    exact hbreak.symm
  have hmark : idMark id ++ blockRest id path =
      '\n' :: (['\t'] ++ (labelled (decimal id) ++ '\n' :: (blockRest id path).tail)) := by
    rw [idMark, ← hline]
    rfl
  have htab : 'E' ∉ ['\t'] := by decide
  have hexport : idsIn ("EXPORT" : Text) = [] := by decide
  have hbrace : idsIn ("\x7b" : Text) = [] := by decide
  rw [ganeshaBlock_eq, idsIn_append_newline, hmark, idsIn_append_newline, idsIn_append_newline,
    idsIn_line htab, hexport, hbrace, htail, idsIn_blockRest,
    idsIn_labelled (decimal_ne_nil id) (digit_of_mem_decimal id)]
  simp

/-- A block adds its own id only, unless its path shows the label of ids. -/
theorem idsIn_append_ganeshaBlock {path : Text} (hp : ¬ idLabel <:+: path) (id : Nat)
    (text : Text) :
    idsIn (text ++ ganeshaBlock id path) = idsIn text ++ [decimal id] := by
  have hnone : idsIn (path ++ [idEnd]) = [] := by
    refine idsIn_eq_nil fun h => ?_
    rcases infix_of_infix_append_cons (by decide) h with h | h
    · exact hp h
    · exact absurd h (by decide)
  rw [idsIn_append_block, hnone]
  rfl

theorem ids_append_ganeshaBlock {path : Text} (hp : ¬ idLabel <:+: path) (id : Nat) (text : Text) :
    ids (text ++ ganeshaBlock id path) = ids text ++ [id] := by
  simp [ids, idsIn_append_ganeshaBlock hp, ofDigitChars_decimal]

theorem largestId_append_ganeshaBlock {path : Text} (hp : ¬ idLabel <:+: path) (id : Nat)
    (text : Text) : largestId (text ++ ganeshaBlock id path) = max (largestId text) id := by
  rw [largestId, ids_append_ganeshaBlock hp, List.foldl_append]
  rfl

theorem lastId_unifyNewlines (s : Text) : lastId (unifyNewlines s) = lastId s := by
  rw [lastId, idsIn_unifyNewlines, lastId]

theorem ids_unifyNewlines (s : Text) : ids (unifyNewlines s) = ids s := by
  rw [ids, idsIn_unifyNewlines, ids]

/-- What a line of the kernel's file says of a path. -/
def kernelText (path : Text) : Text := path ++ " *(rw,insecure,root_squash)"

theorem kernelLine_eq (path : Text) : kernelLine path = '\n' :: (kernelText path ++ ['\n']) := by
  unfold kernelLine kernelText
  simp

theorem kernelText_length_pos (path : Text) : 0 < (kernelText path).length := by
  have hoptions : 0 < (" *(rw,insecure,root_squash)" : Text).length := by decide
  rw [kernelText, List.length_append]
  omega

theorem newline_notMem_kernelText {path : Text} (h : '\n' ∉ path) : '\n' ∉ kernelText path := by
  have hoptions : '\n' ∉ (" *(rw,insecure,root_squash)" : Text) := by decide
  simp only [kernelText, List.mem_append, not_or]
  exact ⟨h, hoptions⟩

/-- A line that is not yet there does not begin in the text before it. -/
theorem notBefore_kernelLine {path text : Text} (hp : '\n' ∉ path)
    (h : ¬ kernelLine path <:+: text ++ ['\n']) : NotBefore (kernelLine path) text := by
  have hsplit : kernelLine path = ('\n' :: kernelText path) ++ '\n' :: [] := kernelLine_eq path
  rw [hsplit]
  rw [kernelLine_eq] at h
  apply notBefore_of_head
  intro hin
  rcases infix_of_enclosed_infix_append_cons (newline_notMem_kernelText hp) hin with h' | h' | h'
  · exact h h'
  · have := h'.length_le
    simp only [List.length_append, List.length_cons, List.length_nil] at this
    omega
  · have := h'.length_le
    simp only [List.length_cons, List.length_append, List.length_nil] at this
    omega

/-- A line that is not yet there can be erased from the end of a text again. -/
theorem onlyAtEnd_kernelLine {path text : Text} (hp : '\n' ∉ path)
    (h : ¬ kernelLine path <:+: text ++ ['\n']) : OnlyAtEnd (kernelLine path) text :=
  (notBefore_kernelLine hp h).onlyAtEnd

/-- A line brings in no line of another path. -/
theorem kernelLine_infix_append {path other text : Text} (hp : '\n' ∉ path) (ho : '\n' ∉ other)
    (h : kernelLine path <:+: text ++ kernelLine other ++ ['\n']) :
    kernelLine path <:+: text ++ ['\n'] ∨ path = other := by
  have hu := newline_notMem_kernelText hp
  have hv := newline_notMem_kernelText ho
  have hlong := kernelText_length_pos path
  rw [kernelLine_eq] at h ⊢
  rw [kernelLine_eq, List.append_assoc] at h
  rcases infix_of_enclosed_infix_append_cons hu h with h | h | h
  · exact .inl h
  · refine .inr ?_
    have hle : kernelText path <+: kernelText other := by
      refine (prefix_append_cons_iff (b := ['\n']) hu).mp ?_
      refine (List.prefix_append _ _).trans (h.trans ?_)
      simp
    have hge : kernelText other <+: kernelText path := by
      obtain ⟨t, ht⟩ := h
      refine (prefix_append_cons_iff (b := t) hv).mp ?_
      refine ⟨['\n', '\n'], ?_⟩
      simpa using ht.symm
    exact List.append_cancel_right (hle.eq_of_length_le hge.length_le)
  · -- only line ends follow the other line
    rcases infix_of_enclosed_infix_append_cons (a := kernelText other) (b := ['\n']) hu
      (by simpa using h) with h | h | h
    · have htwo := h.sublist.count_le '\n'
      simp [List.count_eq_zero_of_not_mem hu, List.count_eq_zero_of_not_mem hv] at htwo
    · have hlen := h.length_le
      simp only [List.length_append, List.length_cons, List.length_nil] at hlen
      omega
    · have hlen := h.length_le
      simp only [List.length_append, List.length_cons, List.length_nil] at hlen
      omega

/-- Erasing a line from the end of a text leaves the text exactly if the line was not there yet. -/
theorem erase_kernelLine_eq_iff {path text : Text} (hp : '\n' ∉ path) :
    erase (kernelLine path) (text ++ kernelLine path) = text ↔
      ¬ kernelLine path <:+: text ++ ['\n'] := by
  have hne : kernelLine path ≠ [] := by
    rw [kernelLine_eq]
    exact List.cons_ne_nil _ _
  constructor
  · rintro h ⟨before', behind', hline⟩
    obtain ⟨before, behind, rfl, hcomm, honce, hfirst⟩ := append_comm_of_erase_append hne h
    have hu := newline_notMem_kernelText hp
    have hpos := kernelText_length_pos path
    -- the line is erased no later than where it occurs in the text
    have hle : before.length ≤ before'.length := by
      apply hfirst before' (behind' ++ (kernelText path ++ ['\n']))
      have hend : kernelLine path = ['\n'] ++ (kernelText path ++ ['\n']) := kernelLine_eq path
      calc before ++ behind ++ kernelLine path
          = before ++ behind ++ ['\n'] ++ (kernelText path ++ ['\n']) := by
            rw [hend, List.append_assoc (before ++ behind)]
        _ = before' ++ (kernelLine path ++ (behind' ++ (kernelText path ++ ['\n']))) := by
            rw [← hline]
            simp only [List.append_assoc]
    have hlength : (kernelLine path).length = (kernelText path).length + 2 := by
      simp [kernelLine_eq]
    have hlong : (kernelText path).length + 1 ≤ behind.length := by
      have := congrArg List.length hline
      simp only [List.length_append, List.length_cons, List.length_nil] at this
      omega
    have hprefix : '\n' :: kernelText path <+: behind := by
      have hline : '\n' :: kernelText path <+: behind ++ kernelLine path := by
        rw [hcomm, kernelLine_eq]
        exact ⟨'\n' :: behind, by simp⟩
      exact List.prefix_of_prefix_length_le hline (List.prefix_append _ _) (by simpa using hlong)
    obtain ⟨more, rfl⟩ := hprefix
    rw [kernelLine_eq] at hcomm honce
    cases more with
    | nil =>
      -- then the line would be its own text with a line end in front, and without one at the end
      have hshift : '\n' :: (kernelText path ++ ['\n']) = '\n' :: '\n' :: kernelText path := by
        simpa using hcomm
      have hstart := (List.cons.inj hshift).2
      cases hk : kernelText path with
      | nil => simp [hk] at hpos
      | cons c rest =>
        rw [hk] at hstart hu
        obtain ⟨rfl, -⟩ := List.cons.inj hstart
        exact hu List.mem_cons_self
    | cons c more =>
      have hc : c = '\n' := by
        have := congrArg (fun s => s.drop ((kernelText path).length + 1)) hcomm
        simp only [List.cons_append, List.drop_succ_cons, List.append_assoc, List.drop_left] at this
        exact (List.cons.inj this).1
      subst hc
      exact honce ⟨[], more, by simp⟩
  · intro h
    exact erase_append hne (onlyAtEnd_kernelLine hp h)

end NfsVolume.Export
