import NfsVolume.World.FileTree

/-! Changing a tree of files at one place and back, the mode that writing leaves, and when a path
leads to the same place in two trees. -/
namespace NfsVolume

namespace Node

/-- Writing to a file keeps the bits of its mode that say who may read and write it. -/
theorem testBit_writtenMode {bit : Nat} (h : Nat.testBit 0o1777 bit = true)
    (h' : Nat.testBit 0o3777 bit = true) (mode : Nat) :
    (writtenMode mode).testBit bit = mode.testBit bit := by
  rw [writtenMode, Nat.testBit_and]
  split
  · rw [h', Bool.and_true]
  · rw [h, Bool.and_true]

theorem mayRead_eq_testBit (mode : Nat) : (Node.directory mode).mayRead = mode.testBit 8 := by
  rw [Nat.testBit_eq_decide_div_mod_eq]
  rfl

theorem mayWrite_eq_testBit (mode : Nat) : (Node.directory mode).mayWrite = mode.testBit 7 := by
  rw [Nat.testBit_eq_decide_div_mod_eq]
  rfl

theorem mayRead_writtenMode (mode : Nat) :
    (Node.directory (writtenMode mode)).mayRead = (Node.directory mode).mayRead := by
  rw [mayRead_eq_testBit, mayRead_eq_testBit, testBit_writtenMode (by decide) (by decide)]

theorem mayWrite_writtenMode (mode : Nat) :
    (Node.directory (writtenMode mode)).mayWrite = (Node.directory mode).mayWrite := by
  rw [mayWrite_eq_testBit, mayWrite_eq_testBit, testBit_writtenMode (by decide) (by decide)]

@[simp]
theorem writtenMode_writtenMode (mode : Nat) :
    writtenMode (writtenMode mode) = writtenMode mode := by
  have hgroup : writtenMode mode &&& 0o10 = mode &&& 0o10 := by
    unfold writtenMode
    split
    · rw [Nat.and_assoc]
      rfl
    · rw [Nat.and_assoc]
      rfl
  rw [writtenMode, hgroup]
  unfold writtenMode
  split
  · rw [Nat.and_assoc]
    rfl
  · rw [Nat.and_assoc]
    rfl

end Node

namespace FileTree

theorem set_eq_append {entries : List (Place × Node)} {p : Place} (h : find entries p = none)
    (n : Node) : set entries p n = entries ++ [(p, n)] := by
  induction entries with
  | nil => rfl
  | cons e rest ih =>
    by_cases hp : e.1 = p
    · simp [find, hp] at h
    · simp only [find, hp, if_false] at h
      simp [set, hp, ih h]

theorem filter_eq_self {entries : List (Place × Node)} {p : Place} (h : find entries p = none) :
    (entries.filter fun e => e.1 ≠ p) = entries := by
  induction entries with
  | nil => rfl
  | cons e rest ih =>
    by_cases hp : e.1 = p
    · simp [find, hp] at h
    · simp only [find, hp, if_false] at h
      simpa [hp] using ih h

theorem set_set (entries : List (Place × Node)) (p : Place) (m n : Node) :
    set (set entries p m) p n = set entries p n := by
  induction entries with
  | nil => simp [set]
  | cons e rest ih => by_cases hp : e.1 = p <;> simp [set, hp, ih]

theorem set_self {entries : List (Place × Node)} {p : Place} {n : Node}
    (h : find entries p = some n) : set entries p n = entries := by
  induction entries with
  | nil => simp [find] at h
  | cons e rest ih =>
    by_cases hp : e.1 = p
    · have hn : e.2 = n := by simpa [find, hp] using h
      simp only [set, hp, if_true, ← hn]
      rw [← hp]
    · simp only [find, hp, if_false] at h
      simp [set, hp, ih h]

/-- Changes at two places may be made in either order, where one of the places is taken. -/
theorem set_comm {entries : List (Place × Node)} {p q : Place} {m : Node} (hpq : p ≠ q)
    (h : find entries q = some m) (a b : Node) :
    set (set entries p a) q b = set (set entries q b) p a := by
  induction entries with
  | nil => simp [find] at h
  | cons e rest ih =>
    by_cases hp : e.1 = p
    · have hq : e.1 ≠ q := fun hq => hpq (hp.symm.trans hq)
      simp [set, hp, hpq]
    · by_cases hq : e.1 = q
      · simp [set, hq, Ne.symm hpq]
      · simp only [find, hq, if_false] at h
        simp [set, hp, hq, ih h]

variable {t s : FileTree} {p q : Place} {n : Node}

theorem not_isFixed_of_none (h : t.get? p = none) : isFixed p = false := by
  cases hf : isFixed p with
  | false => rfl
  | true => simp [get?, hf] at h

theorem not_isFixed_of_file {mode : Nat} {content : List UInt8}
    (h : t.get? p = some (.file mode content)) : isFixed p = false := by
  cases hf : isFixed p with
  | false => rfl
  | true => simp [get?, hf] at h

theorem find_entries (h : isFixed p = false) : find t.entries p = t.get? p := by simp [get?, h]

@[simp]
theorem put_put (t : FileTree) (p : Place) (m n : Node) : (t.put p m).put p n = t.put p n := by
  simp [put, set_set]

theorem put_self (hp : isFixed p = false) (h : t.get? p = some n) : t.put p n = t := by
  rw [← find_entries hp] at h
  simp [put, set_self h]

theorem put_eq_append (h : t.get? p = none) (n : Node) : t.put p n = ⟨t.entries ++ [(p, n)]⟩ := by
  have hp := not_isFixed_of_none h
  rw [← find_entries hp] at h
  simp [put, set_eq_append h]

theorem remove_put (h : t.get? p = none) (n : Node) : (t.put p n).remove p = t := by
  have hp := not_isFixed_of_none h
  have hfind := (find_entries hp).trans h
  rw [put_eq_append h]
  have hself := filter_eq_self hfind
  simp only [ne_eq, decide_not] at hself
  simp [remove, List.filter_append, hself]

theorem remove_eq_self (h : t.get? p = none) : t.remove p = t := by
  have hp := not_isFixed_of_none h
  have hfind := (find_entries hp).trans h
  simp only [remove, filter_eq_self hfind]

theorem put_comm {m : Node} (hpq : p ≠ q) (hq : isFixed q = false) (h : t.get? q = some m)
    (a b : Node) : (t.put p a).put q b = (t.put q b).put p a := by
  rw [← find_entries hq] at h
  simp [put, set_comm hpq h]

theorem remove_put_put {m : Node} (hp : t.get? p = none) (hq : t.get? q = some m)
    (hfixed : isFixed q = false) (a b : Node) : ((t.put p a).put q b).remove p = t.put q b := by
  have hpq : p ≠ q := by
    rintro rfl
    rw [hp] at hq
    cases hq
  have hp' : (t.put q b).get? p = none := by
    rw [get?_put t hfixed, if_neg hpq, hp]
  rw [put_comm hpq hfixed hq, remove_put hp']

/-- Every entry lies in a directory. -/
def IsTree (t : FileTree) : Prop :=
  ∀ p n, t.get? p = some n → isFixed p = false → ∃ mode, t.get? p.dropLast = some (.directory mode)

theorem mem_of_find {entries : List (Place × Node)} (h : find entries p = some n) :
    (p, n) ∈ entries := by
  induction entries with
  | nil => simp [find] at h
  | cons e rest ih =>
    by_cases he : e.1 = p
    · simp only [find, he, if_true, Option.some.injEq] at h
      exact List.mem_cons.mpr (.inl (Prod.ext he.symm h.symm))
    · simp only [find, he, if_false] at h
      exact List.mem_cons_of_mem e (ih h)

/-- Whether every entry stands in a directory. -/
def wellFormed (t : FileTree) : Bool :=
  t.entries.all fun e => (t.get? e.1.dropLast).any Node.isDirectory

theorem isTree_of_wellFormed (h : t.wellFormed = true) : t.IsTree := by
  intro p n hp hf
  rw [← find_entries hf] at hp
  have hparent := List.all_eq_true.mp h _ (mem_of_find hp)
  cases hd : t.get? p.dropLast with
  | none => simp [hd] at hparent
  | some node =>
    cases node with
    | file mode content => simp [hd, Node.isDirectory] at hparent
    | directory mode => exact ⟨mode, rfl⟩

theorem find_isSome_of_mem {entries : List (Place × Node)} {e : Place × Node} (h : e ∈ entries) :
    find entries e.1 ≠ none := by
  induction entries with
  | nil => cases h
  | cons d rest ih =>
    by_cases hd : d.1 = e.1
    · simp [find, hd]
    · rcases List.mem_cons.mp h with rfl | h
      · exact absurd rfl hd
      · simpa only [find, hd, if_false] using ih h

theorem children_eq_nil (h : ∀ name, find t.entries (p ++ [name]) = none) : t.children p = [] := by
  rw [children, List.filterMap_eq_nil_iff]
  intro e he
  cases hl : e.1.getLast? with
  | none => rfl
  | some name =>
    obtain ⟨parent, hsplit⟩ := List.getLast?_eq_some_iff.mp hl
    have hne : parent ≠ p := by
      rintro rfl
      exact find_isSome_of_mem he (hsplit ▸ h name)
    simp [hsplit, hne]

theorem children_eq_nil_of_get? (hp : isFixed p = false) (h : ∀ name, t.get? (p ++ [name]) = none) :
    t.children p = [] := by
  apply children_eq_nil
  intro name
  rw [find_entries (by
    cases p with
    | nil => simp [isFixed] at hp
    | cons a rest => simp [isFixed, above, top]), h]

/-- Nothing lies below a place at which there is nothing. -/
theorem IsTree.below_none (ht : t.IsTree) (h : t.get? p = none) (name : Text) :
    t.get? (p ++ [name]) = none := by
  cases hg : t.get? (p ++ [name]) with
  | none => rfl
  | some n =>
    cases hf : isFixed (p ++ [name]) with
    | false =>
      obtain ⟨mode, hd⟩ := ht _ _ hg hf
      rw [List.dropLast_concat, h] at hd
      cases hd
    | true =>
      have hp : p = [] := by
        simp only [isFixed, above, top, Bool.or_eq_true, decide_eq_true_eq] at hf
        rcases hf with (hf | hf) | hf
        · exact absurd hf (by simp)
        · simpa using congrArg List.length (of_decide_eq_true hf)
        · simpa using congrArg List.length (of_decide_eq_true hf)
      simp [hp, get?, isFixed] at h

/-- A new entry in a directory. -/
theorem IsTree.put_new (ht : t.IsTree) (h : t.get? p = none) {mode : Nat}
    (hd : t.get? p.dropLast = some (.directory mode)) (n : Node) : (t.put p n).IsTree := by
  intro q m hq hf
  have hp := not_isFixed_of_none h
  have hparent : ∀ {r : Place} {k : Nat}, t.get? r = some (.directory k) →
      (t.put p n).get? r = some (.directory k) := by
    intro r k hr
    have : r ≠ p := by
      rintro rfl
      rw [h] at hr
      cases hr
    rw [get?_put t hp, if_neg this, hr]
  by_cases hqp : q = p
  · subst hqp
    exact ⟨mode, hparent hd⟩
  · rw [get?_put t hp, if_neg hqp] at hq
    obtain ⟨k, hk⟩ := ht q m hq hf
    exact ⟨k, hparent hk⟩

/-- A file with other content. -/
theorem IsTree.put_file (ht : t.IsTree) {mode : Nat} {content : List UInt8}
    (h : t.get? p = some (.file mode content)) (k : Nat) (more : List UInt8) :
    (t.put p (.file k more)).IsTree := by
  intro q m hq hf
  have hp := not_isFixed_of_file h
  have hparent : ∀ {r : Place} {k' : Nat}, t.get? r = some (.directory k') →
      (t.put p (.file k more)).get? r = some (.directory k') := by
    intro r k' hr
    have : r ≠ p := by
      rintro rfl
      rw [h] at hr
      cases hr
    rw [get?_put t hp, if_neg this, hr]
  by_cases hqp : q = p
  · subst hqp
    obtain ⟨k', hk⟩ := ht q _ h hf
    exact ⟨k', hparent hk⟩
  · rw [get?_put t hp, if_neg hqp] at hq
    obtain ⟨k', hk⟩ := ht q m hq hf
    exact ⟨k', hparent hk⟩

/-- Every directory that may be searched is one in the other tree too. -/
def Covers (t s : FileTree) : Prop :=
  ∀ p mode, (Node.directory mode).maySearch = true → t.get? p = some (.directory mode) →
    s.get? p = some (.directory mode)

theorem searchable_of_step {name : Text} (h : t.step p name = .ok q) :
    ∃ mode, t.get? p = some (.directory mode) ∧ (Node.directory mode).maySearch = true := by
  unfold step at h
  split at h
  · cases h
  · rename_i node hnode
    cases node with
    | file mode content => simp [Node.isDirectory] at h
    | directory mode =>
      refine ⟨mode, hnode, ?_⟩
      cases hs : (Node.directory mode).maySearch with
      | true => rfl
      | false => simp [Node.isDirectory, hs] at h

theorem step_congr (h : s.get? p = t.get? p) (name : Text) : s.step p name = t.step p name := by
  simp only [step, h]

theorem Covers.walk (h : t.Covers s) {names : List Text} (hw : t.walk p names = .ok q) :
    s.walk p names = .ok q := by
  induction names generalizing p with
  | nil => exact hw
  | cons name rest ih =>
    simp only [FileTree.walk] at hw ⊢
    cases hs : t.step p name with
    | error errno => simp [hs] at hw
    | ok next =>
      obtain ⟨mode, hd, hm⟩ := searchable_of_step hs
      rw [step_congr ((h p mode hm hd).trans hd.symm), hs]
      rw [hs] at hw
      exact ih hw

theorem Covers.locate (h : t.Covers s) {path : Text} (hl : t.locate path = .ok p) :
    s.locate path = .ok p := by
  unfold FileTree.locate at hl ⊢
  split at hl
  · cases hl
  · split at hl
    · cases hl
    · rename_i h₁ h₂
      rw [if_neg h₁, if_neg h₂]
      exact h.walk hl

theorem Covers.put_new (h : t.get? p = none) (n : Node) : t.Covers (t.put p n) := by
  intro q mode _ hq
  have : q ≠ p := by
    rintro rfl
    rw [h] at hq
    cases hq
  rw [get?_put t (not_isFixed_of_none h), if_neg this, hq]

theorem Covers.of_put_new (h : t.get? p = none) {mode : Nat}
    (hm : (Node.directory mode).maySearch = false) : (t.put p (.directory mode)).Covers t := by
  intro q k hk hq
  rw [get?_put t (not_isFixed_of_none h)] at hq
  split at hq
  · cases hq
    rw [hm] at hk
    cases hk
  · exact hq

theorem Covers.put_file {mode : Nat} {content : List UInt8}
    (h : t.get? p = some (.file mode content))
    (n : Node) : t.Covers (t.put p n) := by
  intro q k _ hq
  have : q ≠ p := by
    rintro rfl
    rw [h] at hq
    cases hq
  rw [get?_put t (not_isFixed_of_file h), if_neg this, hq]

theorem Covers.of_put_file {mode k : Nat} {content more : List UInt8}
    (h : t.get? p = some (.file mode content)) : (t.put p (.file k more)).Covers t := by
  intro q j _ hq
  rw [get?_put t (not_isFixed_of_file h)] at hq
  split at hq
  · cases hq
  · exact hq

theorem Covers.trans {r : FileTree} (h₁ : t.Covers s) (h₂ : s.Covers r) : t.Covers r :=
  fun p mode hm hp => h₂ p mode hm (h₁ p mode hm hp)

theorem walk_append (t : FileTree) (p : Place) (names more : List Text) :
    t.walk p (names ++ more) = (t.walk p names).bind fun q => t.walk q more := by
  induction names generalizing p with
  | nil => rfl
  | cons name rest ih =>
    simp only [List.cons_append, FileTree.walk]
    cases t.step p name with
    | error errno => rfl
    | ok q => exact ih q

/-- The place that a name in a directory stands for. -/
def next (p : Place) (name : Text) : Place :=
  if name = ['.'] then p else if name = ['.', '.'] then parent p else p ++ [name]

/-- The place that names lead to, whoever may search the directories on the way and however long
the names are. -/
def follow (t : FileTree) (p : Place) : List Text → Option Place
  | [] => some p
  | name :: rest =>
    match t.get? p with
    | some (.directory _) => follow t (next p name) rest
    | _ => none

theorem next_of_step {name : Text} (h : t.step p name = .ok q) : q = next p name := by
  have hnext : (.ok (next p name) : Except Errno Place) =
      if name = ['.'] then .ok p else if name = ['.', '.'] then .ok (parent p)
      else .ok (p ++ [name]) := by
    rw [next, apply_ite Except.ok, apply_ite Except.ok]
  unfold step at h
  rw [← hnext] at h
  repeat' split at h
  all_goals cases h
  rfl

/-- Where the system gets to is where the names lead. -/
theorem follow_of_walk {names : List Text} (h : t.walk p names = .ok q) :
    t.follow p names = some q := by
  induction names generalizing p with
  | nil =>
    cases h
    rfl
  | cons name rest ih =>
    simp only [FileTree.walk] at h
    cases hs : t.step p name with
    | error errno => simp [hs] at h
    | ok between =>
      rw [hs] at h
      obtain ⟨mode, hd, -⟩ := searchable_of_step hs
      rw [follow, hd, ← next_of_step hs]
      exact ih h

/-- A step to a name of its own leads below the directory. -/
theorem step_eq_ok {name : Text} (hdot : name ≠ ['.']) (hdots : name ≠ ['.', '.'])
    (h : t.step p name = .ok q) : q = p ++ [name] := by
  rw [next_of_step h, next, if_neg hdot, if_neg hdots]

theorem locate_eq_ok {path : Text} :
    t.locate path = .ok p ↔ path ≠ [] ∧ Path.size path ≤ Path.maxLength ∧
      t.walk (start path) (Path.parts path) = .ok p := by
  unfold locate
  by_cases hne : path = []
  · simp [hne]
  · by_cases hlong : Path.maxLength < Path.size path
    · simp [hne, hlong, Nat.not_le_of_lt hlong]
    · simp [hne, hlong, Nat.le_of_not_lt hlong]

theorem resolve_eq_ok {path : Text} :
    t.resolve path = .ok (p, n) ↔ t.locate path = .ok p ∧ t.get? p = some n ∧
      (Path.endsInSlash path = true → n.isDirectory = true) := by
  cases hl : t.locate path with
  | error errno => simp [resolve, hl]
  | ok r =>
    cases hr : t.get? r with
    | none =>
      constructor
      · simp [resolve, hl, hr]
      · rintro ⟨h, hg, -⟩
        cases h
        rw [hr] at hg
        cases hg
    | some node =>
      constructor
      · intro h
        simp only [resolve, hl, hr] at h
        split at h
        · cases h
        · rename_i hs
          cases h
          refine ⟨rfl, hr, fun hslash => ?_⟩
          simpa [hslash] using hs
      · rintro ⟨h, hg, hs⟩
        cases h
        rw [hr] at hg
        cases hg
        cases hslash : Path.endsInSlash path with
        | false => simp [resolve, hl, hr, hslash]
        | true => simp [resolve, hl, hr, hs hslash]

/-- Something new elsewhere does not change what a path leads to. -/
theorem resolve_put_new {path : Text} {m : Node} (h : t.get? p = none)
    (hr : t.resolve path = .ok (q, m)) (n : Node) : (t.put p n).resolve path = .ok (q, m) := by
  obtain ⟨hl, hg, hslash⟩ := resolve_eq_ok.mp hr
  refine resolve_eq_ok.mpr ⟨(Covers.put_new h n).locate hl, ?_, hslash⟩
  rw [get?_put t (not_isFixed_of_none h), if_neg, hg]
  rintro rfl
  rw [h] at hg
  cases hg

/-- A path to a file leads to what is written there. -/
theorem resolve_put_file {path : Text} {mode k : Nat} {content : List UInt8}
    (hr : t.resolve path = .ok (q, .file mode content)) (more : List UInt8) :
    (t.put q (.file k more)).resolve path = .ok (q, .file k more) := by
  obtain ⟨hl, hg, hslash⟩ := resolve_eq_ok.mp hr
  refine resolve_eq_ok.mpr ⟨(Covers.put_file hg _).locate hl, ?_, hslash⟩
  rw [get?_put t (not_isFixed_of_file hg), if_pos rfl]

/-- A new directory that may not be searched leads to no file. -/
theorem resolve_of_put_new {path : Text} {mode k : Nat} {content : List UInt8}
    (h : t.get? p = none) (hm : (Node.directory mode).maySearch = false)
    (hr : (t.put p (.directory mode)).resolve path = .ok (q, .file k content)) :
    t.resolve path = .ok (q, .file k content) := by
  obtain ⟨hl, hg, hslash⟩ := resolve_eq_ok.mp hr
  refine resolve_eq_ok.mpr ⟨(Covers.of_put_new h hm).locate hl, ?_, hslash⟩
  rw [get?_put t (not_isFixed_of_none h)] at hg
  split at hg
  · cases hg
  · exact hg

/-- The tree after the same node has been put at many places. -/
def putAll (t : FileTree) (places : List Place) (n : Node) : FileTree :=
  places.foldl (fun t p => t.put p n) t

theorem putAll_append_singleton (t : FileTree) (places : List Place) (p : Place) (n : Node) :
    t.putAll (places ++ [p]) n = (t.putAll places n).put p n := by
  simp [putAll]

theorem length_put_le (t : FileTree) (p : Place) (n : Node) :
    t.entries.length ≤ (t.put p n).entries.length := by
  obtain ⟨entries⟩ := t
  induction entries with
  | nil => simp
  | cons e rest ih =>
    simp only [put, set, List.length_cons] at ih ⊢
    split
    · simp
    · simpa using ih

/-- A node that takes the place of another one keeps its entry. -/
theorem map_fst_set {entries : List (Place × Node)} {m : Node} (h : find entries p = some m)
    (n : Node) : (set entries p n).map Prod.fst = entries.map Prod.fst := by
  induction entries with
  | nil => simp [find] at h
  | cons e rest ih =>
    by_cases hp : e.1 = p
    · simp [set, hp]
    · simp only [find, hp, if_false] at h
      simp [set, hp, ih h]

/-- A file keeps its entry when it is written to. -/
theorem length_put {t : FileTree} {p : Place} {mode : Nat}
    {content : List UInt8} (h : t.get? p = some (.file mode content)) (n : Node) :
    (t.put p n).entries.length = t.entries.length := by
  have hkeys := map_fst_set ((find_entries (not_isFixed_of_file h)).trans h) n
  simpa [put] using congrArg List.length hkeys

theorem map_fst_children (t : FileTree) (q : Place) :
    (t.children q).map Prod.fst = (t.entries.map Prod.fst).filterMap fun place =>
      place.getLast?.bind fun name => if place.dropLast = q then some name else none := by
  rw [children, List.map_filterMap, List.filterMap_map]
  congr 1
  funext e
  simp only [Function.comp_apply]
  cases e.1.getLast? with
  | none => rfl
  | some name => by_cases hparent : e.1.dropLast = q <;> simp [hparent]

/-- A file that is written to takes no name from a directory and brings in none. -/
theorem children_put_file {mode : Nat} {content : List UInt8}
    (h : t.get? p = some (.file mode content)) (n : Node) (q : Place) :
    ((t.put p n).children q).map Prod.fst = (t.children q).map Prod.fst := by
  rw [map_fst_children, map_fst_children, put,
    map_fst_set ((find_entries (not_isFixed_of_file h)).trans h)]

end FileTree
end NfsVolume
