import NfsVolume.Proofs.Group.Entries
import NfsVolume.Proofs.Text.Strip

/-! Lists of blocks: what is written as a list of blocks is read as their ranges, and what is read as
ranges is written as blocks. -/
namespace NfsVolume.Group

open Text.Integer (IsNumeral isMargin integer_ne_nil isTrim_integer mem_integer tooLong)

/-- A block tells a range by its start and its size, or by its two ends. -/
inductive Denotes : RawText → GroupRange → Prop
  | sized (a b : RawText) (start size : Int) (hstart : IsNumeral a.shown start)
      (hsize : IsNumeral b.shown size) (h : 1 ≤ size) :
      Denotes (a ++ .char '/' :: b) ⟨start, start + size - 1⟩
  | ended (a b : RawText) (start stop : Int) (hstart : IsNumeral a.shown start)
      (hstop : IsNumeral b.shown stop) (hminus : .char '-' ∉ a) (h : start ≤ stop) :
      Denotes (a ++ .char '-' :: b) ⟨start, stop⟩

/-- The pieces of a text between commas that are more than blanks, without the blanks around them. -/
def blocksIn (text : RawText) : List RawText :=
  ((Text.splitOn (.char ',') text).map RawText.strip).filter fun block => !block.isEmpty

section
variable {block text : RawText} {range : GroupRange} {n : Int} {c : Char}

theorem mem_of_mem_shown (hc : c ≠ '\ufffd') (h : c ∈ text.shown) : .char c ∈ text := by
  obtain ⟨p, hp, rfl⟩ := List.mem_map.mp h
  cases p with
  | char c => exact hp
  | half s => exact absurd rfl hc

theorem mem_shown (h : .char c ∈ text) : c ∈ text.shown := List.mem_map.mpr ⟨_, h, rfl⟩

/-- A numeral is not cut where a size begins. -/
theorem slash_notMem (h : IsNumeral text.shown n) : .char '/' ∉ text := by
  intro hslash
  have hmem := h.mem '/' (mem_shown hslash)
  revert hmem
  decide

theorem Denotes.ordered (h : Denotes block range) : range.min ≤ range.max := by
  cases h with
  | sized a b start size hstart hsize h =>
    show start ≤ start + size - 1
    omega
  | ended a b start stop hstart hstop hminus h => exact h

theorem Denotes.nonneg (h : Denotes block range) (hslash : .char '/' ∉ block) : 0 ≤ range.min := by
  cases h with
  | sized a b => simp at hslash
  | ended a b start stop hstart hstop hminus h =>
    exact hstart.nonneg fun hmem => hminus (mem_of_mem_shown (by decide) hmem)

theorem of_rangeOfBlock_ok (h : rangeOfBlock block = .ok range) : Denotes block range := by
  unfold rangeOfBlock at h
  split at h
  · rename_i a b hcut
    obtain ⟨rfl, -⟩ := Text.cut?_eq_some.mp hcut
    obtain ⟨start, hstart, h⟩ := exists_of_bind_ok h
    obtain ⟨size, hsize, h⟩ := exists_of_bind_ok h
    split at h
    · cases h
    · rename_i hsome
      cases h
      exact .sized a b start size (integer_ok.mp hstart) (integer_ok.mp hsize) (by omega)
  · rename_i a b _ hcut
    obtain ⟨rfl, hminus⟩ := Text.cut?_eq_some.mp hcut
    obtain ⟨start, hstart, h⟩ := exists_of_bind_ok h
    obtain ⟨stop, hstop, h⟩ := exists_of_bind_ok h
    split at h
    · cases h
    · rename_i horder
      cases h
      exact .ended a b start stop (integer_ok.mp hstart) (integer_ok.mp hstop) hminus (by omega)
  · cases h

theorem Denotes.rangeOfBlock (h : Denotes block range) : rangeOfBlock block = .ok range := by
  unfold Group.rangeOfBlock
  cases h with
  | sized a b start size hstart hsize h =>
    rw [Text.cut?_append_cons a b (slash_notMem hstart)]
    dsimp only
    rw [integer_ok.mpr hstart, integer_ok.mpr hsize]
    exact if_neg (by omega)
  | ended a b start stop hstart hstop hminus h =>
    have hslash : .char '/' ∉ a ++ .char '-' :: b := by
      simp [slash_notMem hstart, slash_notMem hstop]
    rw [Text.cut?_eq_none.mpr hslash, Text.cut?_append_cons a b hminus]
    dsimp only
    rw [integer_ok.mpr hstart, integer_ok.mpr hstop]
    exact if_neg (by omega)

theorem rangeOfBlock_ok : rangeOfBlock block = .ok range ↔ Denotes block range :=
  ⟨of_rangeOfBlock_ok, Denotes.rangeOfBlock⟩

theorem rangesOfPieces_ok {pieces : List RawText} {ranges : List GroupRange} :
    rangesOfPieces pieces = .ok ranges ↔
      List.Forall₂ Denotes ((pieces.map RawText.strip).filter fun block => !block.isEmpty) ranges := by
  induction pieces generalizing ranges with
  | nil =>
    constructor
    · intro h
      cases h
      exact .nil
    · intro h
      cases h
      rfl
  | cons piece rest ih =>
    by_cases hblank : piece.strip.isEmpty = true
    · simpa [rangesOfPieces, hblank] using ih
    · have hfilter : (((piece :: rest).map RawText.strip).filter fun block => !block.isEmpty) =
          piece.strip :: ((rest.map RawText.strip).filter fun block => !block.isEmpty) := by
        simp [hblank]
      rw [rangesOfPieces, if_neg hblank, hfilter]
      constructor
      · intro h
        obtain ⟨range, hrange, h⟩ := exists_of_bind_ok h
        obtain ⟨others, hothers, h⟩ := exists_of_bind_ok h
        cases h
        exact .cons (rangeOfBlock_ok.mp hrange) (ih.mp hothers)
      · intro h
        cases h with
        | cons hrange hothers =>
          rw [rangeOfBlock_ok.mpr hrange, ih.mpr hothers]
          rfl

theorem parseBlocks_ok {ranges : List GroupRange} :
    parseBlocks text = .ok ranges ↔ List.Forall₂ Denotes (blocksIn text) ranges :=
  rangesOfPieces_ok

theorem rangesOfPieces_append (pieces more : List RawText) :
    rangesOfPieces (pieces ++ more) = rangesOfPieces pieces >>= fun ranges =>
      rangesOfPieces more >>= fun others => .ok (ranges ++ others) := by
  induction pieces with
  | nil =>
    rw [List.nil_append]
    cases rangesOfPieces more <;> rfl
  | cons piece rest ih =>
    by_cases hblank : piece.strip.isEmpty = true
    · simpa [rangesOfPieces, hblank] using ih
    · rw [List.cons_append, rangesOfPieces, if_neg hblank, rangesOfPieces, if_neg hblank, ih]
      cases rangeOfBlock piece.strip with
      | error e => rfl
      | ok range =>
        cases rangesOfPieces rest with
        | error e => rfl
        | ok ranges =>
          cases rangesOfPieces more <;> rfl

theorem parseBlocks_append (a b : RawText) :
    parseBlocks (a ++ .char ',' :: b) = parseBlocks a >>= fun ranges =>
      parseBlocks b >>= fun others => .ok (ranges ++ others) := by
  rw [parseBlocks, Text.splitOn_append_cons, rangesOfPieces_append]
  rfl

end

/-- A block of ids, by its start and its size or by its ends. -/
inductive Block where
  | sized (start : Int) (size : Nat) (h : 0 < size)
  | ended (first last : Nat) (h : first ≤ last)

def Block.range : Block → GroupRange
  | .sized start size _ => ⟨start, start + size - 1⟩
  | .ended first last _ => ⟨first, last⟩

def IsGap (s : Text) : Prop := ∀ c ∈ s, c = ' ' ∨ c = '\t'

/-- A number in decimal, with gaps around it. -/
inductive Spaced (n : Int) : Text → Prop
  | mk (before behind : Text) (hbefore : IsGap before) (hbehind : IsGap behind)
      (h : tooLong n = false) : Spaced n (before ++ (Text.integer n ++ behind))

inductive Block.Written : Block → Text → Prop
  | sized (start : Int) (size : Nat) (h : 0 < size) (a b : Text) (ha : Spaced start a)
      (hb : Spaced size b) : Written (.sized start size h) (a ++ '/' :: b)
  | ended (first last : Nat) (h : first ≤ last) (a b : Text) (ha : Spaced first a)
      (hb : Spaced last b) : Written (.ended first last h) (a ++ '-' :: b)

/-- Blocks in pieces of their own, with blank pieces between them. -/
inductive Listed : List Block → List Text → Prop
  | nil : Listed [] []
  | blank (blocks : List Block) (piece : Text) (pieces : List Text)
      (h : ∀ c ∈ piece, Text.isBlank c = true) (hrest : Listed blocks pieces) :
      Listed blocks (piece :: pieces)
  | block (block : Block) (blocks : List Block) (piece : Text) (pieces : List Text)
      (h : block.Written piece) (hrest : Listed blocks pieces) :
      Listed (block :: blocks) (piece :: pieces)

section
variable {s gap a b : Text} {n m : Int} {c : Char} {block : Block} {blocks : List Block}
  {pieces : List Text}

theorem IsGap.isMargin (h : IsGap gap) : ∀ c ∈ gap, isMargin c = true := by
  intro c hc
  rcases h c hc with rfl | rfl <;> decide

theorem IsGap.isBlank (h : IsGap gap) : ∀ c ∈ gap, Text.isBlank c = true := by
  intro c hc
  rcases h c hc with rfl | rfl <;> decide

/-- Without the gaps around them, two spaced numbers have gaps only at their separator. -/
theorem strip_spaced (sep : Char) (ha : Spaced n a) (hb : Spaced m b) :
    ∃ first second, Text.strip (a ++ sep :: b) =
        (Text.integer n ++ first) ++ sep :: (second ++ Text.integer m) ∧
      IsGap first ∧ IsGap second ∧ tooLong n = false ∧ tooLong m = false := by
  cases ha with
  | mk before first hbefore hfirst hn =>
    cases hb with
    | mk second behind hsecond hbehind hm =>
      refine ⟨first, second, ?_, hfirst, hsecond, hn, hm⟩
      have htrim := (isTrim_integer n).append (isTrim_integer m) (integer_ne_nil n)
        (integer_ne_nil m) (first ++ sep :: second)
      have hstrip := Text.strip_pad htrim hbefore.isBlank hbehind.isBlank
      simpa only [List.append_assoc, List.cons_append] using hstrip

theorem isNumeral_before (h : tooLong n = false) (hgap : IsGap gap) :
    IsNumeral (Text.integer n ++ gap) n := by
  have hnone : ∀ c ∈ ([] : Text), isMargin c = true := by simp
  have hpad := (Text.Integer.isNumeral_integer h).pad hnone hgap.isMargin
  rwa [List.nil_append] at hpad

theorem isNumeral_behind (h : tooLong n = false) (hgap : IsGap gap) :
    IsNumeral (gap ++ Text.integer n) n := by
  have hnone : ∀ c ∈ ([] : Text), isMargin c = true := by simp
  have hpad := (Text.Integer.isNumeral_integer h).pad hgap.isMargin hnone
  rwa [List.append_nil] at hpad

/-- A written block tells its range. -/
theorem Block.Written.denotes (h : block.Written s) :
    Denotes (RawText.ofText s).strip block.range := by
  rw [RawText.strip_ofText]
  cases h with
  | sized start size hsome a b ha hb =>
    obtain ⟨first, second, hstrip, hfirst, hsecond, hn, hm⟩ := strip_spaced '/' ha hb
    rw [hstrip, RawText.ofText_append]
    refine .sized _ _ start size ?_ ?_ (by omega)
    · rw [RawText.shown_ofText]
      exact isNumeral_before hn hfirst
    · change IsNumeral (RawText.ofText (second ++ Text.integer size)).shown size
      rw [RawText.shown_ofText]
      exact isNumeral_behind hm hsecond
  | ended start stop horder a b ha hb =>
    obtain ⟨first, second, hstrip, hfirst, hsecond, hn, hm⟩ := strip_spaced '-' ha hb
    rw [hstrip, RawText.ofText_append]
    have hminus : '-' ∉ Text.integer start ++ first := by
      intro hmem
      rcases List.mem_append.mp hmem with hmem | hmem
      · exact absurd (Text.isDigit_of_mem_decimal hmem) (by decide)
      · exact absurd (hfirst.isBlank _ hmem) (by decide)
    refine .ended _ _ start stop ?_ ?_ ?_ (by omega)
    · rw [RawText.shown_ofText]
      exact isNumeral_before hn hfirst
    · change IsNumeral (RawText.ofText (second ++ Text.integer stop)).shown stop
      rw [RawText.shown_ofText]
      exact isNumeral_behind hm hsecond
    · intro hmem
      exact hminus (by simpa using mem_shown hmem)

theorem Spaced.comma_notMem (h : Spaced n a) : ',' ∉ a := by
  cases h with
  | mk before behind hbefore hbehind h =>
    intro hmem
    rcases List.mem_append.mp hmem with hmem | hmem
    · exact absurd (hbefore.isBlank _ hmem) (by decide)
    · rcases List.mem_append.mp hmem with hmem | hmem
      · exact absurd (mem_integer hmem) (by decide)
      · exact absurd (hbehind.isBlank _ hmem) (by decide)

theorem Block.Written.comma_notMem (h : block.Written s) : ',' ∉ s := by
  cases h with
  | sized start size h a b ha hb => simp [ha.comma_notMem, hb.comma_notMem]
  | ended first last h a b ha hb => simp [ha.comma_notMem, hb.comma_notMem]

theorem Listed.comma_notMem (h : Listed blocks pieces) : ∀ piece ∈ pieces, ',' ∉ piece := by
  induction h with
  | nil => simp
  | blank blocks piece pieces h _ ih =>
    refine List.forall_mem_cons.mpr ⟨fun hmem => ?_, ih⟩
    exact absurd (h _ hmem) (by decide)
  | block block blocks piece pieces h _ ih => exact List.forall_mem_cons.mpr ⟨h.comma_notMem, ih⟩

theorem splitOn_ofText (sep : Char) (s : Text) :
    Text.splitOn (.char sep) (RawText.ofText s) = (Text.splitOn sep s).map RawText.ofText := by
  induction s with
  | nil => rfl
  | cons c rest ih =>
    obtain ⟨more, hrest⟩ := Text.splitOn_eq_cons sep rest
    have hpoint : RawText.ofText (c :: rest) = .char c :: RawText.ofText rest := rfl
    rw [hpoint, Text.splitOn, Text.splitOn, ih, hrest]
    by_cases hc : c = sep <;> simp [hc, RawText.ofText]

/-- Pieces between commas are found again. -/
theorem blocksIn_join (h : ∀ piece ∈ pieces, ',' ∉ piece) :
    blocksIn (RawText.ofText (Text.join [','] pieces)) =
      (pieces.map fun piece => (RawText.ofText piece).strip).filter fun block => !block.isEmpty := by
  cases pieces with
  | nil => rfl
  | cons piece more =>
    rw [blocksIn, splitOn_ofText, Text.splitOn_join (List.cons_ne_nil _ _) h, List.map_map]
    rfl

theorem Denotes.ne_nil {block : RawText} {range : GroupRange} (h : Denotes block range) :
    block ≠ [] := by
  cases h <;> simp

theorem Listed.denotes (h : Listed blocks pieces) :
    List.Forall₂ Denotes
      ((pieces.map fun piece => (RawText.ofText piece).strip).filter fun block => !block.isEmpty)
      (blocks.map Block.range) := by
  induction h with
  | nil => exact .nil
  | blank blocks piece pieces h _ ih =>
    have hstrip : (RawText.ofText piece).strip = [] := by
      rw [RawText.strip_ofText, Text.strip_of_blank h]
      rfl
    simpa [hstrip] using ih
  | block block blocks piece pieces h _ ih =>
    have hne : (RawText.ofText piece).strip.isEmpty = false := by
      simpa using h.denotes.ne_nil
    rw [List.map_cons, List.filter_cons_of_pos (by simp [hne])]
    exact .cons h.denotes ih

end

/-- Written blocks are read as their ranges; one list behind another gives the ranges of both, or the
failure of the first that fails; any text is refused with a value error, unless each of its blocks
denotes a range, and then these are the ranges; and a range has an id, and none below zero if its
block tells two ends. -/
theorem parseBlocks_written {blocks : List Block} {pieces : List Text} (h : Listed blocks pieces)
    (a b text : RawText) :
    parseBlocks (RawText.ofText (Text.join [','] pieces)) = .ok (blocks.map Block.range) ∧
      parseBlocks (a ++ .char ',' :: b) = (parseBlocks a >>= fun ranges =>
        parseBlocks b >>= fun others => .ok (ranges ++ others)) ∧
      (∀ ranges, parseBlocks text = .ok ranges ↔ List.Forall₂ Denotes (blocksIn text) ranges) ∧
      (∀ e, parseBlocks text = .error e → ∃ problem, e = .value problem) ∧
      ∀ ranges, parseBlocks text = .ok ranges → List.Forall₂ (fun block range =>
        range.min ≤ range.max ∧ (.char '/' ∉ block → 0 ≤ range.min)) (blocksIn text) ranges := by
  have hvalue : ∀ e, parseBlocks text = .error e → IsValue e := by
    intro e he
    have hmeets := rangesOfPieces_meets (Text.splitOn (.char ',') text)
    rw [← parseBlocks, he] at hmeets
    exact hmeets
  refine ⟨parseBlocks_ok.mpr ?_, parseBlocks_append a b, fun _ => parseBlocks_ok, hvalue,
    fun _ hranges => (parseBlocks_ok.mp hranges).imp fun _ _ h => ⟨h.ordered, h.nonneg⟩⟩
  rw [blocksIn_join h.comma_notMem]
  exact h.denotes

theorem parseBlocks_written_mixed :
    Listed [.sized (-5) 3 (by decide), .ended 7 9 (by decide)] [" -5\t/3", "\t ", "7- 9 "] ∧
      parseBlocks " -5\t/3,\t ,7- 9 " = .ok [⟨-5, -3⟩, ⟨7, 9⟩] := by
  have hgap {gap : Text} (h : gap.all (fun c => c = ' ' ∨ c = '\t') = true) : IsGap gap :=
    fun c hc => of_decide_eq_true (List.all_eq_true.mp h c hc)
  have hspaced {n : Int} (before behind : Text)
      (hbefore : before.all (fun c => c = ' ' ∨ c = '\t') = true)
      (hbehind : behind.all (fun c => c = ' ' ∨ c = '\t') = true) (hn : n.natAbs < 10 ^ 10) :
      Spaced n (before ++ (Text.integer n ++ behind)) :=
    .mk before behind (hgap hbefore) (hgap hbehind) (Text.Integer.tooLong_of_lt hn)
  have hlisted : Listed [.sized (-5) 3 (by decide), .ended 7 9 (by decide)]
      [" -5\t/3", "\t ", "7- 9 "] := by
    refine .block _ _ _ _ (.sized (-5) 3 _ " -5\t" "3" ?_ ?_)
      (.blank _ _ _ (List.all_eq_true.mp rfl) (.block _ _ _ _ (.ended 7 9 _ "7" " 9 " ?_ ?_) .nil))
    · exact hspaced " " "\t" (by decide) (by decide) (by decide)
    · exact hspaced "" "" (by decide) (by decide) (by decide)
    · exact hspaced "" "" (by decide) (by decide) (by decide)
    · exact hspaced " " " " (by decide) (by decide) (by decide)
  exact ⟨hlisted, (parseBlocks_written hlisted [] [] []).1⟩

end NfsVolume.Group
